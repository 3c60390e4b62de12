import MetastoreProbe.Rpc.Failure
import MetastoreProbe.Sasl.Status
import MetastoreProbe.Text.Search

/-!
# Errors

What can go wrong, as causes.  `Error` says on whose account a run failed: the user's
(`usage`, `config`), the metastore's or the connection's (`metastore`, `io`), or a check's
(`schemaMismatch`, `authorizationNotEnforced`).  Wording is separate from the cause: each type has
one `message`, and nothing else in the library spells an error.

Conditions that a smoke test expects are no errors: an object that exists already is an outcome of
its call, and a denied database is the outcome of the authorization check.  The constructors named
`other` carry a text that came from outside the library.
-/

namespace MetastoreProbe

/-- What is wrong with a word on the command line. -/
inductive UsageFault
  | unknownScenario (word : String)
  | other (text : String)
  deriving DecidableEq, Repr

namespace UsageFault

/-- The wording of a usage fault. -/
def message : UsageFault → String
  | unknownScenario word => s!"Unknown scenario '{word}', expected one of local, s3, hdfs"
  | other text => text

end UsageFault

/-- A condition on settings that a value breaks. -/
inductive Violation
  | portIsZero
  | namespaceServiceEmpty
  | kerberosServiceEmpty
  | locationEmpty (key : String)
  deriving DecidableEq, Repr

namespace Violation

/-- The wording of a violation. -/
def message : Violation → String
  | portIsZero => "Port must not be 0"
  | namespaceServiceEmpty => "Namespace service name is required"
  | kerberosServiceEmpty => "Kerberos service name is required"
  | locationEmpty key => s!"{key} must not be empty"

end Violation

/-- What is wrong with the settings of a run. -/
inductive ConfigFault
  | unknownLogFormat (word : String)
  | invalid (violation : Violation)
  | unreadable (path reason : String)
  /-- The file is no document, or the document spells no settings; the text is told by whoever reads
  documents. -/
  | malformed (text : String)
  /-- Kerberos is asked for, and no mechanism for it is at hand. -/
  | noKerberos (service : String)
  | other (text : String)
  deriving DecidableEq, Repr

namespace ConfigFault

/-- The wording of a fault in the settings. -/
def message : ConfigFault → String
  | unknownLogFormat word => s!"Unknown log format '{word}', expected 'text' or 'json'"
  | invalid violation => violation.message
  | unreadable path reason => s!"Cannot read {path}: {reason}"
  | malformed text => text
  | noKerberos service =>
    s!"cannot authenticate as {service}: hms-smoke was built without the `kerberos` feature"
  | other text => text

end ConfigFault

/-- Why a SASL negotiation failed. -/
inductive SaslFault
  | unknownStatus (byte : UInt8)
  /-- The server gave up or refused; what it sent along is read leniently as text. -/
  | rejected (status : Sasl.Status) (reason : String)
  | unexpectedStart
  /-- The client has finished, and the server's message is not its `complete`. -/
  | notComplete (status : Sasl.Status)
  /-- The mechanism failed. -/
  | mechanism (reason : String)
  deriving DecidableEq, Repr

namespace SaslFault

/-- The wording of a negotiation fault. -/
def message : SaslFault → String
  | unknownStatus byte => s!"invalid negotiation status byte {byte.toNat}"
  | rejected status reason => s!"server sent {status.name}: {reason}"
  | unexpectedStart => "server sent START during negotiation"
  | notComplete status => s!"expected SASL COMPLETE, got {status.name}"
  | mechanism reason => reason

end SaslFault

/-- How the connection failed during a call. -/
inductive TransportFault
  | wire (kind : TransportKind)
  /-- An action of the client failed, with what its connection reported. -/
  | action (description detail : String)
  | other (text : String)
  deriving DecidableEq, Repr

namespace TransportFault

/-- The wording of a connection fault. -/
def message : TransportFault → String
  | wire kind => kind.text
  | action description detail => s!"Failed to {description}: {detail}"
  | other text => text

end TransportFault

/-- The longest frame and the longest negotiation message that are accepted. -/
def maxFrameLength : Nat := 104857600

/-- What is wrong with bytes that were received. -/
inductive ProtocolFault
  | wire (kind : ProtocolKind)
  | frameTooLong (declared : Nat)
  | other (text : String)
  deriving DecidableEq, Repr

namespace ProtocolFault

/-- The wording of a fault in received bytes. -/
def message : ProtocolFault → String
  | wire kind => kind.text
  | frameTooLong declared => s!"frame of {declared} bytes exceeds limit of {maxFrameLength}"
  | other text => text

end ProtocolFault

/-- A failed read or write on a stream. -/
inductive IoFault
  /-- A number was to be read where the input ends. -/
  | endOfFile
  /-- The input ends inside a payload. -/
  | earlyEnd
  /-- The other side takes no more bytes. -/
  | writeLimit
  | shutdownFailed
  | other (text : String)
  deriving DecidableEq, Repr

namespace IoFault

/-- The wording of a failed read or write. -/
def message : IoFault → String
  | endOfFile => "unexpected end of file"
  | earlyEnd => "early eof"
  | writeLimit => "write limit reached"
  | shutdownFailed => "shutdown failed"
  | other text => text

end IoFault

/-- An error reported by the metastore, or on the way to it. -/
inductive MetastoreError
  | alreadyExists (text : String)
  | connection (address reason : String)
  | transport (fault : TransportFault)
  /-- The metastore answered `operation` with an exception. -/
  | exception (operation kind message : String)
  | sasl (fault : SaslFault)
  | protocol (fault : ProtocolFault)
  /-- The client was used after it was closed. -/
  | closed
  deriving DecidableEq, Repr

namespace MetastoreError

/-- The wording of a metastore error. -/
def message : MetastoreError → String
  | alreadyExists text => s!"Already exists: {text}"
  | connection address reason => s!"Connection failed to {address}: {reason}"
  | transport fault => s!"Transport error: {fault.message}"
  | exception operation kind message => s!"{kind} during {operation}: {message}"
  | sasl fault => s!"SASL negotiation failed: {fault.message}"
  | protocol fault => s!"Protocol error: {fault.message}"
  | closed => "Metastore client is closed"

/-- Whether the name of an exception tells that the object exists already; the name may be
qualified by a package. -/
def isAlreadyExistsKind (kind : String) : Bool :=
  Text.contains kind "AlreadyExistsException"

end MetastoreError

/-- Why an operation did not succeed. -/
inductive Error
  | usage (fault : UsageFault)
  | config (fault : ConfigFault)
  | metastore (error : MetastoreError)
  | schemaMismatch (scenario actual expected : String)
  | authorizationNotEnforced (database : String)
  | io (fault : IoFault)
  /-- The reader of a reply broke down on a length below zero, which no buffer can have. -/
  | breakdown
  deriving DecidableEq, Repr

namespace Error

/-- The wording of an error. -/
def message : Error → String
  | usage fault => s!"Usage error: {fault.message}"
  | config fault => s!"Configuration error: {fault.message}"
  | metastore error => s!"Metastore error: {error.message}"
  | schemaMismatch scenario actual expected =>
    s!"Received {scenario} schema {actual} - expected schema: {expected}"
  | authorizationNotEnforced database =>
    s!"Could access database '{database}' although authorization should deny it"
  | io fault => s!"IO error: {fault.message}"
  | breakdown => "capacity overflow"

/-- The error that a failed remote call is reported as: the kind's text for a broken connection
or bad bytes, the server's own words for a call that it could not serve. -/
def ofRpcFailure : RpcFailure → Error
  | .transport kind _ => metastore (.transport (.wire kind))
  | .protocol kind _ => metastore (.protocol (.wire kind))
  | .application _ message => metastore (.exception "call" "TApplicationException" message)
  | .user message => metastore (.protocol (.other message))

end Error

end MetastoreProbe
