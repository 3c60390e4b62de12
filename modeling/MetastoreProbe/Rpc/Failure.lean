/-!
# Failures of a remote call

A call can fail below the metastore's own exceptions: the connection breaks (`transport`), the
bytes are not a message (`protocol`), or the server answers that it could not serve the call
(`application`).  Each class has a fixed list of kinds.  A kind has a numeric code, which is what
travels, and a short text, which is what a user sees; the particular detail is kept beside it.
-/

namespace MetastoreProbe

/-- How a connection failed. -/
inductive TransportKind
  | unknown | notOpen | alreadyOpen | timedOut | endOfFile | negativeSize | sizeLimit
  deriving DecidableEq, Repr

/-- What is wrong with the bytes of a message. -/
inductive ProtocolKind
  | unknown | invalidData | negativeSize | sizeLimit | badVersion | notImplemented | depthLimit
  deriving DecidableEq, Repr

/-- Why the server did not serve a call. -/
inductive ApplicationKind
  | unknown | unknownMethod | invalidMessageType | wrongMethodName | badSequenceId
  | missingResult | internalError | protocolError | invalidTransform | invalidProtocol
  | unsupportedClientType
  deriving DecidableEq, Repr

namespace TransportKind

/-- The kinds in the order of their codes. -/
def all : List TransportKind :=
  [unknown, notOpen, alreadyOpen, timedOut, endOfFile, negativeSize, sizeLimit]

/-- The kind with the given code. -/
def ofCode? (code : Nat) : Option TransportKind := all[code]?

/-- The text of a kind. -/
def text : TransportKind → String
  | unknown => "transport error"
  | notOpen => "not open"
  | alreadyOpen => "already open"
  | timedOut => "timed out"
  | endOfFile => "end of file"
  | negativeSize => "negative size message"
  | sizeLimit => "message too long"

end TransportKind

namespace ProtocolKind

/-- The kinds in the order of their codes. -/
def all : List ProtocolKind :=
  [unknown, invalidData, negativeSize, sizeLimit, badVersion, notImplemented, depthLimit]

/-- The kind with the given code. -/
def ofCode? (code : Nat) : Option ProtocolKind := all[code]?

/-- The text of a kind. -/
def text : ProtocolKind → String
  | unknown => "protocol error"
  | invalidData => "bad data"
  | negativeSize => "negative message size"
  | sizeLimit => "message too long"
  | badVersion => "invalid thrift version"
  | notImplemented => "not implemented"
  | depthLimit => "maximum skip depth reached"

end ProtocolKind

namespace ApplicationKind

/-- The kinds in the order of their codes. -/
def all : List ApplicationKind :=
  [unknown, unknownMethod, invalidMessageType, wrongMethodName, badSequenceId, missingResult,
    internalError, protocolError, invalidTransform, invalidProtocol, unsupportedClientType]

/-- The kind with the given code. -/
def ofCode? (code : Nat) : Option ApplicationKind := all[code]?

/-- The kind that a received code stands for; a code without a kind is `unknown`. -/
def ofReceived (code : Int) : ApplicationKind :=
  if code < 0 then unknown else (ofCode? code.toNat).getD unknown

end ApplicationKind

/-- A call that failed below the metastore's exceptions. -/
inductive RpcFailure
  | transport (kind : TransportKind) (detail : String)
  | protocol (kind : ProtocolKind) (detail : String)
  | application (kind : ApplicationKind) (message : String)
  /-- A failure that the caller's own code raised. -/
  | user (message : String)
  deriving DecidableEq, Repr

/-- What the failure tells beyond its kind. -/
def RpcFailure.detail : RpcFailure → String
  | .transport _ detail | .protocol _ detail | .application _ detail | .user detail => detail

end MetastoreProbe
