import MetastoreProbe.Client
import MetastoreProbe.Rpc.Reply
import MetastoreProbe.Rpc.Request
import MetastoreProbe.Sasl.Stream

/-!
# The client over SASL frames

Once the negotiation is over, each request is one frame and so is each reply.  A request is
numbered before it is encoded; the number is used up even if the client turns out to be closed, so
no two requests carry the same one.  A reply counts only if it carries the number of its request.

Numbering (`SaslClient.number`) and exchanging frames (`SaslClient.exchange`) are separate steps:
whoever holds a number may have to wait before the stream is free.
-/

namespace MetastoreProbe

/-- The state of a client over SASL frames. -/
structure SaslClient where
  /-- The negotiated stream. -/
  stream : Stream
  closed : Bool := false
  /-- The number of the next request. -/
  sequence : Int32 := 1
  deriving DecidableEq, Repr

namespace SaslClient

variable {α : Type}

/-- The value of a result. -/
def result : Except Error α → EStateM Error SaslClient α
  | .ok a => pure a
  | .error e => throw e

/-! ## Requests and replies -/

/-- Takes the number of the next request. -/
def number : EStateM Error SaslClient Int32 := fun c =>
  .ok c.sequence { c with sequence := c.sequence + 1 }

/-- Sends a request and receives the frame that follows. -/
def exchange (request : Bytes) : EStateM Error SaslClient Bytes := fun c =>
  if c.closed then .error (.metastore .closed) c
  else
    match Frame.write request c.stream with
    | .error e stream => .error e { c with stream }
    | .ok _ stream =>
      match Frame.read stream with
      | .error e stream => .error e { c with stream }
      | .ok reply stream => .ok reply { c with stream }

/-! ## What replies mean -/

/-- The error for an exception that the metastore answered a method with. -/
def remoteError (method : Method) (e : RemoteException) : Error :=
  .metastore (.exception method.name e.kind e.message)

/-- What a reply to a method that creates something says about the object. -/
def createOutcome (method : Method) : Reply Unit → Except Error CreateOutcome
  | .value () => .ok .created
  | .exception e =>
    if e.isAlreadyExists then .ok .alreadyExisted else .error (remoteError method e)

/-- What a reply to `get_schema` says. -/
def schemaOutcome : Reply Schema → Except Error Schema
  | .value schema => .ok schema
  | .exception e => .error (remoteError .getSchema e)

/-- What the bytes of a reply to the request numbered `sequence` say about the object that it
creates. -/
def createResult (method : Method) (sequence : Int32) (reply : Bytes) :
    Except Error CreateOutcome :=
  match Reply.decodeVoid method sequence reply with
  | .error fault => .error fault.toError
  | .ok reply => createOutcome method reply

/-- What the bytes of a reply to the request for a schema say. -/
def schemaResult (sequence : Int32) (reply : Bytes) : Except Error Schema :=
  match Reply.decodeSchema sequence reply with
  | .error fault => .error fault.toError
  | .ok reply => schemaOutcome reply

/-! ## The operations -/

/-- Makes the call of a numbered request that creates something. -/
def create (request : Request) (sequence : Int32) : EStateM Error SaslClient CreateOutcome := do
  let reply ← exchange (request.encode sequence)
  result (createResult request.method sequence reply)

/-- Makes the numbered call for a schema. -/
def schema (database table : String) (sequence : Int32) : EStateM Error SaslClient Schema := do
  let reply ← exchange ((Request.getSchema database table).encode sequence)
  result (schemaResult sequence reply)

/-- Closes the client.  A stream that cannot be shut down cleanly is left all the same, and
closing a second time does nothing. -/
def close : EStateM Error SaslClient Unit := fun c =>
  if c.closed then .ok () c
  else
    match Stream.send Sink.shutDown c.stream with
    | .ok _ stream | .error _ stream => .ok () { c with stream, closed := true }

/-- The operations of the client; the tables that it creates carry the time `now`. -/
def client (now : Int32) : Client SaslClient where
  transport := "sasl"
  createDatabase name := do create (.createDatabase name) (← number)
  createTable table := do create (.createTable table now) (← number)
  getSchema database table := do schema database table (← number)
  close := close

end SaslClient

end MetastoreProbe
