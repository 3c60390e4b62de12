import MetastoreProbe.Bytes.BigEndian
import MetastoreProbe.Text.Utf8
import MetastoreProbe.Text.Search
import MetastoreProbe.Scan
import MetastoreProbe.Error
import MetastoreProbe.Run
import MetastoreProbe.Console
import MetastoreProbe.Report
import MetastoreProbe.Wire.Reader
import MetastoreProbe.Wire.Writer
import MetastoreProbe.Rpc.Request
import MetastoreProbe.Rpc.Reply
import MetastoreProbe.Sasl.Negotiation
import MetastoreProbe.Client.Sasl
import MetastoreProbe.Client.Scripted
import MetastoreProbe.Client.InMemory
import MetastoreProbe.Wire.Value
import MetastoreProbe.Toml.Parse
import MetastoreProbe.Client.Plain
import MetastoreProbe.Settings.File
import MetastoreProbe.Execution
import MetastoreProbe.CommandLine.Parse
import MetastoreProbe.Main
import MetastoreProbe.Proofs.Run.Course
import MetastoreProbe.Sasl.Scripted
import MetastoreProbe.Proofs.Run.Verdict
import MetastoreProbe.Proofs.Sasl.Frame
import MetastoreProbe.Proofs.Client.Frames
import MetastoreProbe.Proofs.Text.Utf8
import MetastoreProbe.Proofs.Rpc.Reply
import MetastoreProbe.Proofs.Sasl.Protocol
import MetastoreProbe.Proofs.Rpc.Faults
import MetastoreProbe.Proofs.Rpc.Correlation
import MetastoreProbe.Proofs.Text.Lines
import MetastoreProbe.Proofs.Console.Forgery
import MetastoreProbe.Proofs.Console.Quoted
import MetastoreProbe.Proofs.Run.Answers
import MetastoreProbe.Proofs.Run.Output
import MetastoreProbe.Proofs.Settings.Loading
import MetastoreProbe.Proofs.Program.Course
import MetastoreProbe.Proofs.Program.Verdict
import MetastoreProbe.Proofs.Rpc.Schema
import MetastoreProbe.Proofs.Wire.Fields
import MetastoreProbe.Proofs.Client.Provided
import MetastoreProbe.Proofs.Run.Authorization
import MetastoreProbe.Proofs.Client.Transports
import MetastoreProbe.Proofs.Sasl.Acceptance
import MetastoreProbe.Proofs.Client.Existing
import MetastoreProbe.Proofs.Client.Records
import MetastoreProbe.Proofs.Client.Interleaving
import MetastoreProbe.Proofs.Sasl.Boundary
import MetastoreProbe.Proofs.Rpc.Truncation
import MetastoreProbe.Proofs.Rpc.Declared
import MetastoreProbe.Proofs.Run.Repetition
import MetastoreProbe.Proofs.Run.Independence
import MetastoreProbe.Proofs.Client.Closing
import MetastoreProbe.Proofs.CommandLine.Options
import MetastoreProbe.Proofs.CommandLine.Asked
import MetastoreProbe.Proofs.Program.Exits
import MetastoreProbe.Proofs.Program.Smoke
import MetastoreProbe.Proofs.Sasl.Framing
import MetastoreProbe.Proofs.Sasl.Failure
import MetastoreProbe.Proofs.Settings.Overlay
import MetastoreProbe.Proofs.CommandLine.Merged
import MetastoreProbe.Proofs.Settings.Hosts
import MetastoreProbe.Proofs.Schema.Shown
import MetastoreProbe.Proofs.Rpc.Size
import MetastoreProbe.Proofs.Run.Mismatch
import MetastoreProbe.Proofs.Sasl.Termination
