import MetastoreProbe.Client.Plain
import MetastoreProbe.Proofs.Client.Frames
import MetastoreProbe.Proofs.Client.Provided
import MetastoreProbe.Text.Words

/-!
# The two transports

A metastore that is asked to create something can answer in three ways (`CreateReply`), and both
clients sort the answer into the same classes: created, there already, or an error.  The client over
frames goes by the id of the exception.  The client over a plain connection goes by the exception's
slot as well, but it also searches the text of any other failure, and takes one that names the
exception for an object that exists already (`Delivery.names`).

The link of the plain client is not part of the library, so that what it makes of a reply is
assumed: `CreateReply.DeliveredAs` asks no more of it than that a failure shows what the server
said.  Under that assumption `Creation.transports_agree_iff` says when the clients agree.
-/

namespace MetastoreProbe

/-! ## Replies and their deliveries -/

/-- A reply to a call that creates something: that it was done, one declared exception, or that the
call could not be served. -/
inductive CreateReply (method : Method)
  | done
  /-- The exception is counted from 0. -/
  | exception (slot : Fin method.exceptions.length) (message : Option String)
  | application (code : Int32) (message : String)

namespace CreateReply

variable {method : Method}

/-- The id of the exception in a slot. -/
def id (slot : Fin method.exceptions.length) : Int16 := Int16.ofNat (slot.val + 1)

/-- The fields of an exception. -/
def parts (message : Option String) : List (Int16 × WireValue) :=
  message.toList.map fun text => (1, .string text)

/-- The bytes of the reply to the request numbered `sequence`. -/
def bytes (sequence : Int32) : CreateReply method → Bytes
  | done => Reply.message method sequence []
  | exception slot message =>
    Reply.message method sequence [(id slot, .struct (parts message))]
  | application code message =>
    Writer.messageHead .exception method.name sequence ++
      (WireValue.struct [(1, .string message), (2, .i32 code)]).encode

/-- The texts of the reply. -/
def texts : CreateReply method → List String
  | done => []
  | exception _ message => message.toList
  | application _ message => [message]

/-- The lengths of the texts can be told in a message. -/
def Fits (reply : CreateReply method) : Prop :=
  ∀ s ∈ reply.texts, (Utf8.encode s).length < WireValue.sizeLimit

/-- What the reply says about the object; nothing if it is an error. -/
def outcome? : CreateReply method → Option CreateOutcome
  | done => some .created
  | exception slot _ => if slot.val = 0 then some .alreadyExisted else none
  | application _ _ => none

/-- What a plain link may make of a reply.  How it shows that the call could not be served is its
own business, as long as the text has in it what the server said. -/
inductive DeliveredAs : CreateReply method → Delivery method Unit → Prop
  | done : DeliveredAs .done (.value ())
  | exception (slot : Fin method.exceptions.length) (message : Option String) :
    DeliveredAs (.exception slot message) (.exception slot message)
  | application (code : Int32) {message text : String}
    (shown : Text.contains text message = true) :
    DeliveredAs (.application code message) (.failure text)

end CreateReply

/-- Whether the link reports a failure whose text has the name of the exception for an object that
exists already. -/
def Delivery.names {method : Method} {α : Type} : Delivery method α → Bool
  | .failure text => MetastoreError.isAlreadyExistsKind text
  | .value _ | .exception _ _ => false

/-! ## What is to be created -/

/-- Something that a client can be asked to create. -/
inductive Creation
  | database (name : String)
  | table (t : Table)

namespace Creation

variable {σ : Type}

/-- The method that creates it. -/
def method : Creation → Method
  | database _ => .createDatabase
  | table _ => .createTable

/-- Asks a client for it. -/
def provide (client : Client σ) : Creation → EStateM Error σ CreateOutcome
  | database name => client.createDatabase name
  | table t => client.createTable t

/-- Sends the call for it over a plain link. -/
def send (link : PlainLink σ) (now : Int32) :
    (creation : Creation) → StateM σ (Delivery creation.method Unit)
  | database name => link.createDatabase (.struct [(1, .struct [(1, .string name)])])
  | table t => link.createTable (.struct [(1, PlainLink.table t now)])

theorem method_ne_getSchema (creation : Creation) : creation.method ≠ .getSchema := by
  cases creation <;> exact nofun

end Creation

/-- What an operation of a client came to. -/
def Client.answerOf {σ α : Type} : EStateM.Result Error σ α → Except Error α
  | .ok a _ => .ok a
  | .error e _ => .error e

/-! ## Over frames -/

namespace CreateReply

variable {method : Method} {sequence : Int32}

theorem exception?_id (slot : Fin method.exceptions.length) :
    method.exception? (id slot) = some (method.exceptions.get slot) := by
  cases method <;> revert slot <;> decide

theorem id_eq_one_iff (slot : Fin method.exceptions.length) : id slot = 1 ↔ slot.val = 0 := by
  cases method <;> revert slot <;> decide

open Reply SaslClient

/-- A reply without an exception, or with just one, is decoded to that. -/
theorem decodeVoid_message {fields : List (Int16 × WireValue)}
    (wellTyped : ∀ f ∈ fields, WellTyped method WireValue.CanSkip f) :
    decodeVoid method sequence (message method sequence fields) =
      .ok (((lastException method fields).map Reply.exception).getD (.value ())) := by
  have head := Reader.messageHead_append .reply method.name_short sequence
    (WireValue.struct fields).encode
  have result := readResult_encode (fun v canSkip => skip_encode canSkip) wellTyped []
  rw [List.append_nil] at result
  exact decodeVoid_eq_ok_iff.2 ⟨_, _, [], head, result, rfl⟩

theorem wellTyped_exception {slot : Fin method.exceptions.length} {message : Option String}
    (short : ∀ s ∈ message.toList, (Utf8.encode s).length < WireValue.sizeLimit) :
    WellTyped method WireValue.CanSkip (id slot, .struct (parts message)) := by
  have declared : method.Declares (id slot) :=
    Method.exception?_isSome_iff.1 (by rw [exception?_id]; rfl)
  unfold Method.Declares at declared
  refine ⟨fun value => ?_, fun _ => ⟨_, rfl, fun f mem => ?_⟩, fun other => ?_⟩
  · have zero : (id slot).toInt = 0 := congrArg Int16.toInt value
    omega
  · obtain ⟨text, own, rfl⟩ := List.mem_map.1 mem
    exact .string _ (short text own)
  · dsimp only at other
    omega

theorem lastException_exception (slot : Fin method.exceptions.length) (message : Option String) :
    lastException method [(id slot, .struct (parts message))] =
      some ⟨method.exceptions.get slot, lastText 1 (parts message)⟩ := by
  have found : exceptionIn method (id slot, .struct (parts message)) =
      some ⟨method.exceptions.get slot, lastText 1 (parts message)⟩ := by
    rw [exceptionIn, exception?_id]
    rfl
  rw [lastException, List.filterMap_cons_some found]
  rfl

/-- What the server says that could not serve a call is read back. -/
theorem readApplicationFailure_encode (code : Int32) {message : String}
    (short : (Utf8.encode message).length < WireValue.sizeLimit) (rest : Bytes) :
    readApplicationFailure
        ((WireValue.struct [(1, .string message), (2, .i32 code)]).encode ++ rest) =
      .ok (.ofReceived code.toInt, message) rest := by
  let after (kept : ApplicationKind × String) (f : Int16 × WireValue) :=
    match f.2 with
    | .string text => (kept.1, text)
    | .i32 code => (.ofReceived code.toInt, kept.2)
    | _ => kept
  refine Reader.fields_encode after (fun f mem kept rest => ?_) _ rest
  simp only [List.mem_cons, List.not_mem_nil, or_false] at mem
  rcases mem with rfl | rfl
  · have text : (WireValue.string message).CanSkip := .string _ short
    exact Scan.bind_apply_of_ok (string_encode text rest)
  · rw [WireValue.encode]
    exact Scan.bind_apply_of_ok (Reader.i32_append code rest)

/-- That the call could not be served is an error. -/
theorem decodeVoid_application (code : Int32) {message : String}
    (short : (Utf8.encode message).length < WireValue.sizeLimit) :
    decodeVoid method sequence ((application code message : CreateReply method).bytes sequence) =
      .error (.application (.ofReceived code.toInt) message) := by
  have head := Reader.messageHead_append .exception method.name_short sequence
    (WireValue.struct [(1, .string message), (2, .i32 code)]).encode
  have failure := readApplicationFailure_encode code short []
  rw [List.append_nil] at failure
  have failed : read method sequence Reader.skip ((application code message).bytes sequence) =
      .error (.application (.ofReceived code.toInt) message) [] :=
    (read_eq_application_iff Reader.accounts_skip).2 ⟨_, _, head, rfl, failure⟩
  exact Scan.valueOf_eq_error_iff.2 ⟨[], Scan.bind_apply_of_error failed⟩

/-- **Over frames a reply means what its ids say.** -/
theorem toOption_createResult (creates : method ≠ .getSchema) {reply : CreateReply method}
    (fits : reply.Fits) :
    (createResult method sequence (reply.bytes sequence)).toOption = reply.outcome? := by
  unfold createResult
  cases reply with
  | done =>
    rw [bytes, decodeVoid_message (List.forall_mem_nil _)]
    rfl
  | exception slot message =>
    have first := (Method.isAlreadyExistsKind_iff creates (exception?_id slot)).trans
      (id_eq_one_iff slot)
    rw [bytes, decodeVoid_message (List.forall_mem_singleton.2 (wellTyped_exception fits)),
      lastException_exception]
    simp only [Option.map_some, Option.getD_some, createOutcome, RemoteException.isAlreadyExists,
      outcome?, first]
    split <;> rfl
  | application code message =>
    rw [decodeVoid_application code (fits message List.mem_cons_self)]
    rfl

/-! Texts whose lengths can be told leave room for everything else in a reply, so that a frame can
tell the length of the whole. -/

theorem length_messageHead (kind : MessageKind) (name : String) :
    (Writer.messageHead kind name sequence).length = (Utf8.encode name).length + 12 := by
  simp only [Writer.messageHead, Writer.string, Writer.i32, List.length_append, List.length_cons,
    List.length_nil, BigEndian.length_encode]
  omega

theorem length_field (t : WireType) (n : Int16) (value : Bytes) :
    (Writer.field t n value).length = value.length + 3 := by
  simp only [Writer.field, Writer.i16, List.length_append, List.length_cons,
    BigEndian.length_encode]
  omega

theorem length_string (text : String) :
    (WireValue.string text).encode.length = (Utf8.encode text).length + 4 := by
  rw [WireValue.encode, Writer.string, List.length_append, BigEndian.length_encode, Nat.add_comm]

theorem length_struct_cons (f : Int16 × WireValue) (fields : List (Int16 × WireValue)) :
    (WireValue.struct (f :: fields)).encode.length =
      f.2.encode.length + 3 + (WireValue.struct fields).encode.length := by
  simp only [WireValue.encode_struct, Writer.struct, List.map_cons, List.flatten_cons,
    List.length_append, length_field, Nat.add_assoc]

theorem length_struct_nil : (WireValue.struct []).encode.length = 1 := by
  rw [WireValue.encode_struct]
  rfl

theorem length_bytes_lt {reply : CreateReply method} (fits : reply.Fits) (sequence : Int32) :
    (reply.bytes sequence).length < BigEndian.weight 4 := by
  have name : (Utf8.encode method.name).length ≤ 15 := by
    cases method <;> decide
  have weight : BigEndian.weight 4 = 4294967296 := rfl
  have limit : WireValue.sizeLimit = 2147483648 := rfl
  rcases reply with _ | ⟨slot, _ | text⟩ | ⟨code, message⟩
  · simp only [bytes, Reply.message, List.length_append, length_messageHead, length_struct_nil]
    omega
  · simp only [bytes, Reply.message, parts, Option.toList_none, List.map_nil, List.length_append,
      length_messageHead, length_struct_cons, length_struct_nil]
    omega
  · have short := fits text List.mem_cons_self
    simp only [bytes, Reply.message, parts, Option.toList_some, List.map_cons, List.map_nil,
      List.length_append, length_messageHead, length_struct_cons, length_struct_nil, length_string]
    omega
  · have short := fits message List.mem_cons_self
    have four : (WireValue.i32 code).encode.length = 4 := by
      rw [WireValue.encode]
      exact BigEndian.length_encode 4 _
    simp only [bytes, List.length_append, length_messageHead, length_struct_cons,
      length_struct_nil, length_string, four]
    omega

end CreateReply

/-! ## Both clients -/

namespace Creation

variable {σ : Type} {creation : Creation} {now : Int32}

theorem answerOf_result {α : Type} (answer : Except Error α) (c : SaslClient) :
    Client.answerOf (SaslClient.result answer c) = answer := by
  cases answer <;> rfl

theorem answerOf_call {δ α : Type} {p : PlainClient σ} (isOpen : p.closed = false)
    (send : StateM σ δ) (outcome : δ → Except Error α) :
    Client.answerOf (PlainClient.call send outcome p) = outcome (send p.link).1 := by
  have goesOn : ¬ p.closed = true := by simp [isOpen]
  unfold PlainClient.call
  rw [if_neg goesOn]
  obtain ⟨delivery, link⟩ := send p.link
  dsimp only
  cases outcome delivery <;> rfl

/-- Over frames, a creation comes to what the reply to its request says, if the reply is accepted
at all. -/
theorem toOption_sasl {reply : CreateReply creation.method} (fits : reply.Fits)
    {c : SaslClient} (isOpen : c.closed = false) (unlimited : c.stream.sink.room = none)
    {rest : Bytes}
    (incoming : c.stream.incoming = Frame.bytes (reply.bytes c.sequence) ++ rest) :
    (Client.answerOf (creation.provide (SaslClient.client now) c)).toOption =
      if maxFrameLength < (reply.bytes c.sequence).length then none else reply.outcome? := by
  have called {received : Except Error Bytes} {left : Bytes} (receives : c.Receives received left) :
      Client.answerOf (creation.provide (SaslClient.client now) c) =
        received.bind (SaslClient.createResult creation.method c.sequence) := by
    cases creation with
    | database name =>
      have operation := SaslClient.operation_of_receives isOpen unlimited receives
        (fun number => (Request.createDatabase name).encode number)
        (SaslClient.createResult .createDatabase)
      exact (congrArg Client.answerOf operation).trans (answerOf_result _ _)
    | table t =>
      have operation := SaslClient.operation_of_receives isOpen unlimited receives
        (fun number => (Request.createTable t now).encode number)
        (SaslClient.createResult .createTable)
      exact (congrArg Client.answerOf operation).trans (answerOf_result _ _)
  by_cases tooLong : maxFrameLength < (reply.bytes c.sequence).length
  · have told := CreateReply.length_bytes_lt fits c.sequence
    have refused := Frame.payload_of_too_long tooLong told rest
    rw [← incoming] at refused
    have receives : c.Receives (.error _) _ := refused
    rw [if_pos tooLong, called receives]
    rfl
  · have accepted := Frame.payload_bytes_append (Nat.not_lt.1 tooLong) rest
    rw [← incoming] at accepted
    have receives : c.Receives (.ok (reply.bytes c.sequence)) rest := accepted
    rw [if_neg tooLong, called receives]
    exact CreateReply.toOption_createResult creation.method_ne_getSchema fits

/-- Over a plain link, a creation comes to what the reply says, unless it is a failure that names
the exception for an object that exists already. -/
theorem toOption_plain {reply : CreateReply creation.method}
    {delivery : Delivery creation.method Unit} (delivered : reply.DeliveredAs delivery)
    {link : PlainLink σ} {p : PlainClient σ} (isOpen : p.closed = false)
    (delivers : (creation.send link now p.link).1 = delivery) :
    (Client.answerOf (creation.provide (PlainClient.client link now) p)).toOption =
      if delivery.names then some .alreadyExisted else reply.outcome? := by
  have called : Client.answerOf (creation.provide (PlainClient.client link now) p) =
      PlainClient.createOutcome link.exceptions creation.method delivery := by
    rw [← delivers]
    cases creation with
    | database name => exact answerOf_call isOpen _ _
    | table t => exact answerOf_call isOpen _ _
  rw [called]
  cases delivered with
  | done => rfl
  | exception slot message =>
    by_cases first : slot.val = 0
    · simp [PlainClient.createOutcome, Delivery.names, CreateReply.outcome?, first, Except.toOption]
    · simp [PlainClient.createOutcome, Delivery.names, CreateReply.outcome?, first, Except.toOption]
  | @application code message text shown =>
    by_cases named : MetastoreError.isAlreadyExistsKind text = true
    · simp [PlainClient.createOutcome, Delivery.names, named, Except.toOption]
    · simp [PlainClient.createOutcome, Delivery.names, CreateReply.outcome?, named,
        Except.toOption]

/-- **The two clients agree** on what became of an object, with two reservations.  If the call could
not be served and the text of that failure names the exception for an object that exists already,
the plain client takes the object to be there and the client over frames reports an error; every
message that has the name in it is such a case.  And over frames a reply longer than a frame is an
error, even if it says that the object exists. -/
theorem transports_agree_iff {reply : CreateReply creation.method} (fits : reply.Fits)
    {delivery : Delivery creation.method Unit} (delivered : reply.DeliveredAs delivery)
    {link : PlainLink σ} {p : PlainClient σ} (plainOpen : p.closed = false)
    (delivers : (creation.send link now p.link).1 = delivery)
    {c : SaslClient} (saslOpen : c.closed = false) (unlimited : c.stream.sink.room = none)
    {rest : Bytes}
    (incoming : c.stream.incoming = Frame.bytes (reply.bytes c.sequence) ++ rest) :
    let plain := Client.answerOf (creation.provide (PlainClient.client link now) p)
    let sasl := Client.answerOf (creation.provide (SaslClient.client now) c)
    (plain.toOption = sasl.toOption ↔
        delivery.names = false ∧
          (maxFrameLength < (reply.bytes c.sequence).length → reply.outcome? = none)) ∧
      (delivery.names = true → plain.toOption = some .alreadyExisted ∧ sasl.toOption = none) ∧
      ∀ code message, reply = .application code message →
        Text.contains message "AlreadyExistsException" = true → delivery.names = true := by
  intro plain sasl
  have overLink : plain.toOption = _ := toOption_plain delivered plainOpen delivers
  have overFrames : sasl.toOption = _ := toOption_sasl fits saslOpen unlimited incoming
  have unserved : delivery.names = true → reply.outcome? = none := by
    intro named
    cases delivered with
    | done | exception => cases named
    | application => rfl
  refine ⟨?_, ?_, ?_⟩
  · rw [overLink, overFrames]
    by_cases named : delivery.names = true
    · simp [named, unserved named]
    · by_cases tooLong : maxFrameLength < (reply.bytes c.sequence).length
      · simp [named, tooLong]
      · simp [named, tooLong]
  · intro named
    rw [overLink, overFrames, if_pos named, unserved named]
    exact ⟨rfl, ite_self _⟩
  · rintro code message rfl contains
    cases delivered with
    | application _ shown => exact Text.contains_trans shown contains

/-- The name in the message of a declared exception means nothing to either client. -/
theorem transports_agree_iff_of_declared_exception :
    let creation := Creation.table ⟨"d", "t", "/", [], "l", "i", "o", false, .managed⟩
    let text := "AlreadyExistsException"
    let slot : Fin Method.createTable.exceptions.length := ⟨3, by decide⟩
    let reply : CreateReply .createTable := .exception slot (some text)
    let link : PlainLink Unit :=
      { createDatabase := fun _ => pure (.value ())
        createTable := fun _ => pure (.exception slot (some text))
        getSchema := fun _ => pure (.value []) }
    let plain := Client.answerOf (creation.provide (PlainClient.client link 0) { link := () })
    let sasl := Client.answerOf (creation.provide (SaslClient.client 0)
      { stream := { incoming := Frame.bytes (reply.bytes 1) } })
    plain.toOption = sasl.toOption := by
  intro creation text slot reply link plain sasl
  have fits : reply.Fits := by
    intro s mem
    cases List.mem_singleton.1 mem
    decide
  have delivered : reply.DeliveredAs (.exception slot (some text)) := .exception slot (some text)
  have delivers : (creation.send link 0 ()).1 = .exception slot (some text) := rfl
  let c : SaslClient := { stream := { incoming := Frame.bytes (reply.bytes 1) } }
  have incoming : c.stream.incoming = Frame.bytes (reply.bytes c.sequence) ++ [] :=
    (List.append_nil _).symm
  have agree := transports_agree_iff (p := ⟨(), false⟩) fits delivered rfl delivers rfl rfl incoming
  exact agree.1.2 ⟨rfl, fun _ => rfl⟩

/-- The name in the message of a call that could not be served divides them. -/
theorem transports_disagree_of_text :
    let creation := Creation.database "d"
    let text := "AlreadyExistsException"
    let reply : CreateReply .createDatabase := .application 6 text
    let link : PlainLink Unit :=
      { createDatabase := fun _ => pure (.failure ("internal error: " ++ text))
        createTable := fun _ => pure (.value ())
        getSchema := fun _ => pure (.value []) }
    let plain := Client.answerOf (creation.provide (PlainClient.client link 0) { link := () })
    let sasl := Client.answerOf (creation.provide (SaslClient.client 0)
      { stream := { incoming := Frame.bytes (reply.bytes 1) } })
    reply.DeliveredAs (creation.send link 0 ()).1 ∧ plain.toOption = some .alreadyExisted ∧
      sasl.toOption = none := by
  intro creation text reply link plain sasl
  have delivered : reply.DeliveredAs (.failure ("internal error: " ++ text)) :=
    .application 6 (by decide)
  have fits : reply.Fits := by
    intro s mem
    cases List.mem_singleton.1 mem
    decide
  have whole : Frame.bytes (reply.bytes 1) = Frame.bytes (reply.bytes 1) ++ [] :=
    (List.append_nil _).symm
  have overLink : plain.toOption = _ := toOption_plain delivered rfl rfl
  have overFrames : sasl.toOption = _ := toOption_sasl fits rfl rfl whole
  refine ⟨delivered, overLink.trans ?_, overFrames.trans (ite_self _)⟩
  exact if_pos (by decide)

end Creation

end MetastoreProbe
