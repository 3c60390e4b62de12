import MetastoreProbe.Error
import MetastoreProbe.Text.Utf8
import MetastoreProbe.Wire.Type

/-!
# Decoding faults

Why bytes are not the reply to a call.  Most faults are failures of the call and are reported as
such (`DecodeFault.failure?`); a negative length is not: the reader asks for a buffer of that
length and breaks down.
-/

namespace MetastoreProbe

/-- Why a reply could not be read. -/
inductive DecodeFault
  /-- The bytes end before the message does. -/
  | endOfInput
  /-- A string declares a length below zero. -/
  | negativeLength
  | badVersion (first second : UInt8)
  | unknownMessageKind (code : UInt8)
  | unknownType (code : UInt8)
  | invalidText (fault : Utf8.Fault)
  /-- A value to be skipped nests too deeply; `type` is its innermost type. -/
  | tooDeep (type : WireType)
  | cannotSkip (type : WireType)
  | unexpectedMessage (method : String) (kind : MessageKind)
  | wrongMethod (method received : String)
  | wrongSequence (sent received : Int32)
  /-- The columns of a schema were to be read from a value that is no list. -/
  | schemaNotList (type : WireType)
  | noSchema
  /-- The server answered that it could not serve the call. -/
  | application (kind : ApplicationKind) (message : String)
  deriving DecidableEq, Repr

namespace DecodeFault

/-- The failure of the call, if the fault leaves the reader standing. -/
def failure? : DecodeFault → Option RpcFailure
  | endOfInput => some (.transport .endOfFile "failed to fill whole buffer")
  | negativeLength => none
  | badVersion a b => some (.protocol .badVersion s!"received bad version: [{a.toNat}, {b.toNat}]")
  | unknownMessageKind code =>
    some (.protocol .invalidData s!"cannot convert {code.toNat} to TMessageType")
  | unknownType code => some (.protocol .invalidData s!"cannot convert {code.toNat} to TType")
  | invalidText fault => some (.protocol .invalidData fault.message)
  | tooDeep type => some (.protocol .depthLimit s!"cannot parse past {type.name}")
  | cannotSkip type => some (.protocol .unknown s!"cannot skip field type {type.name}")
  | unexpectedMessage method kind =>
    some (.protocol .invalidData s!"expected reply to {method}, got {kind.name}")
  | wrongMethod method received =>
    some (.protocol .invalidData s!"expected reply to {method}, got reply to {received}")
  | wrongSequence sent received =>
    some (.protocol .invalidData
      s!"sequence mismatch: sent {sent.toInt}, received {received.toInt}")
  | schemaNotList type =>
    some (.protocol .invalidData s!"get_schema success field has type {type.name}")
  | noSchema => some (.protocol .invalidData "get_schema reply carries no result")
  | application kind message => some (.application kind message)

/-- The error that a client reports for the fault. -/
def toError (fault : DecodeFault) : Error :=
  match fault.failure? with
  | some failure => .ofRpcFailure failure
  | none => .breakdown

end DecodeFault

end MetastoreProbe
