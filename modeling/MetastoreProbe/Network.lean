import MetastoreProbe.Client.Plain
import MetastoreProbe.Client.Sasl
import MetastoreProbe.Run
import MetastoreProbe.Sasl.Negotiation

/-!
# Connecting

A `Network` says what comes of dialling a target, for plain connections and for streams of bytes.
Connecting yields an `Attempt`, which beside its result names the addresses that were dialled:
that nothing was dialled is something a caller can rely on.

A target with Kerberos settings needs a mechanism, and the program has none of its own, so
`Network.connect` refuses such a target without dialling.  `Network.authenticate` is the
connection for a caller that brings a mechanism along.
-/

namespace MetastoreProbe

/-- What comes of dialling, for plain links with the state `σ`; a failure is given by its text. -/
structure Network (σ : Type) where
  /-- How calls are made over a plain connection. -/
  link : PlainLink σ
  /-- Opens a plain connection. -/
  dial : Target → Except String σ
  /-- Opens a stream of bytes. -/
  dialStream : Target → Except String Stream

/-- An attempt to connect. -/
structure Attempt (α : Type) where
  /-- The addresses that were dialled, the first one first. -/
  dialled : List String := []
  result : Except Error α

namespace Network

variable {σ μ : Type}

/-- The error for a target that could not be reached. -/
def unreached (target : Target) (reason : String) : Error :=
  .metastore (.connection target.address reason)

/-- Opens the client for a target. -/
def connect (network : Network σ) (target : Target) : Attempt (PlainClient σ) :=
  match target.kerberos with
  | some kerberos =>
    { result := .error (.config (.noKerberos (kerberos.hostBasedService target.host))) }
  | none =>
    { dialled := [target.address]
      result :=
        match network.dial target with
        | .ok link => .ok { link }
        | .error reason => .error (unreached target reason) }

/-- Opens a stream to a target and authenticates on it. -/
def authenticate (network : Network σ) (target : Target) (m : Sasl.Mechanism μ)
    (mechanism : μ) : Attempt SaslClient where
  dialled := [target.address]
  result :=
    match network.dialStream target with
    | .error reason => .error (unreached target reason)
    | .ok stream =>
      let negotiation := Sasl.Negotiation.run m mechanism stream
      match negotiation.result with
      | .error e => .error e
      | .ok () => .ok { stream := negotiation.stream }

/-! ## A host without a network -/

/-- What dialling comes to on a host that has no route anywhere.  The name of a host is looked at
before the route is. -/
def noRoute {α : Type} (target : Target) : Except String α :=
  if target.host.toList.contains '\x00' then
    .error "file name contained an unexpected NUL byte"
  else
    .error "Network is unreachable (os error 101)"

/-- The network of a host that has no route anywhere. -/
def offline : Network Empty where
  link :=
    { createDatabase := fun _ link => nomatch link
      createTable := fun _ link => nomatch link
      getSchema := fun _ link => nomatch link }
  dial := noRoute
  dialStream := noRoute

end Network

end MetastoreProbe
