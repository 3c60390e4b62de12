import MetastoreProbe.Proofs.Client.Frames
import MetastoreProbe.Proofs.Client.Provided
import MetastoreProbe.Proofs.Run.Course

/-!
# The verdict on authorization

The authorization suite passes on an error, so that a reply which is wrongly taken for an error
would hide that a database is open to everyone.  `Run.authorization_verdict` says that none is: over
frames, a run finds that the authorization is not enforced just when what the server sends starts
with a frame that provides the database (`SaslClient.LetsIn`), and every other sequence of bytes is
a denial.  Whatever the server sends, the connection is closed.
-/

namespace MetastoreProbe

namespace Frame

/-- What keeps a frame from being received is an error, and no breakdown. -/
theorem payload_ne_breakdown {input rest : Bytes} : payload input ≠ .error .breakdown rest := by
  intro broke
  have taken (n : Nat) (short : IoFault) (input : Bytes) :
      Scan.take n (Error.io short) input ≠ .error .breakdown rest := by
    unfold Scan.take
    dsimp only
    split <;> exact nofun
  rcases Scan.bind_eq_error_iff.1 broke with broke | ⟨length, middle, -, broke⟩
  · exact taken 4 _ _ broke
  · split at broke
    · cases broke
    · exact taken _ _ _ broke

end Frame

namespace SaslClient

open Reply

/-- What comes in starts with a frame, and its payload says that the database is there. -/
def LetsIn (incoming : Bytes) : Prop :=
  ∃ reply rest, incoming = Frame.bytes reply ++ rest ∧ reply.length ≤ maxFrameLength ∧
    Provides .createDatabase 1 reply

/-- The first frame that comes in, if there is one, does not break the decoder down. -/
def Readable (incoming : Bytes) : Prop :=
  ∀ reply rest, incoming = Frame.bytes reply ++ rest → reply.length ≤ maxFrameLength →
    ¬ BreaksDown (decodeVoid .createDatabase 1 reply)

/-! ## The answer to the first call -/

variable {incoming rest : Bytes}

/-- What comes in starts with one frame only. -/
theorem first_unique {reply reply' rest' : Bytes}
    (received : Frame.payload incoming = .ok reply rest)
    (whole : incoming = Frame.bytes reply' ++ rest') (accepted : reply'.length ≤ maxFrameLength) :
    reply' = reply := by
  have received' := Frame.payload_eq_ok_iff.2 ⟨accepted, whole⟩
  rw [received] at received'
  cases received'
  rfl

theorem letsIn_iff {reply : Bytes} (received : Frame.payload incoming = .ok reply rest) :
    LetsIn incoming ↔ Provides .createDatabase 1 reply := by
  constructor
  · rintro ⟨reply', rest', whole, accepted, provides⟩
    rwa [first_unique received whole accepted] at provides
  · intro provides
    obtain ⟨accepted, whole⟩ := Frame.payload_eq_ok_iff.1 received
    exact ⟨reply, rest, whole, accepted, provides⟩

theorem not_letsIn {e : Error} (failed : Frame.payload incoming = .error e rest) :
    ¬ LetsIn incoming := by
  rintro ⟨reply, rest', whole, accepted, -⟩
  have received := Frame.payload_eq_ok_iff.2 ⟨accepted, whole⟩
  rw [failed] at received
  cases received

theorem readable_of_ok {reply : Bytes} (received : Frame.payload incoming = .ok reply rest)
    (stands : ¬ BreaksDown (decodeVoid .createDatabase 1 reply)) : Readable incoming := by
  intro reply' rest' whole accepted
  rwa [first_unique received whole accepted]

/-- A fresh client is told that a database is there just by what lets it in, and by anything else
it is given an error. -/
theorem exists_answer (readable : Readable incoming) {sink : Sink} (unlimited : sink.room = none)
    (now : Int32) (name : String) :
    ∃ answer c, (client now).createDatabase name { stream := { incoming, sink } } =
        result answer c ∧
      c.closed = false ∧ c.stream.sink.shutdowns = sink.shutdowns ∧
      ((∃ outcome, answer = .ok outcome) ↔ LetsIn incoming) ∧ answer ≠ .error .breakdown := by
  let fresh : SaslClient := { stream := { incoming, sink } }
  have called {received : Except Error Bytes} {rest : Bytes}
      (receives : fresh.Receives received rest) :=
    operation_of_receives rfl unlimited receives
      (fun number => (Request.createDatabase name).encode number) (createResult .createDatabase)
  cases received : Frame.payload incoming with
  | ok reply rest =>
    have receives : fresh.Receives (.ok reply) rest := received
    refine ⟨_, _, called receives, rfl, rfl, ?_, ?_⟩
    · rw [letsIn_iff received]
      exact createResult_isOk_iff nofun
    · obtain ⟨accepted, whole⟩ := Frame.payload_eq_ok_iff.1 received
      exact fun broke => readable reply rest whole accepted (createResult_eq_breakdown_iff.1 broke)
  | error e rest =>
    have receives : fresh.Receives (.error e) rest := received
    refine ⟨_, _, called receives, rfl, rfl, ?_, ?_⟩
    · constructor
      · rintro ⟨outcome, provided⟩
        cases provided
      · intro letsIn
        exact absurd letsIn (not_letsIn received)
    · intro broke
      cases broke
      exact Frame.payload_ne_breakdown received

/-! ## The close -/

/-- The client after it was closed: the end of its sending direction was tried once. -/
def ended (c : SaslClient) : SaslClient :=
  { c with
    stream.sink.shutdowns := c.stream.sink.shutdowns + 1
    closed := true }

/-- Closing an open client succeeds, whether or not the connection can be ended cleanly. -/
theorem close_of_open {c : SaslClient} (isOpen : c.closed = false) :
    close c = .ok () c.ended := by
  have goesOn : ¬ c.closed = true := by simp [isOpen]
  unfold close
  rw [if_neg goesOn]
  simp only [Stream.send, Sink.shutDown]
  by_cases fails : c.stream.sink.shutdownFails = true <;> simp [fails, ended]

theorem shutDown_of_open {s : Session SaslClient} (isOpen : s.client.closed = false)
    (now : Int32) :
    Session.leftBy ((client now).shutDown s) =
      { s with client := s.client.ended, exchanges := s.exchanges ++ [.close (.ok ())] } := by
  have closed : close s.client = result (.ok ()) s.client.ended := close_of_open isOpen
  exact leftBy_call closed .close

end SaslClient

namespace Run

variable {σ : Type} {client : Client σ} {run : Run} {state c : σ}

/-- A database that is there although it should be refused fails the authorization suite. -/
theorem suite_of_provided (suite : run.suite = .authorization) {outcome : CreateOutcome}
    (provided : client.createDatabase run.database state = .ok outcome c) :
    Suite.perform client run { client := state } =
      .error (.authorizationNotEnforced run.database)
        { client := c, exchanges := [.createDatabase run.database (.ok outcome)] } := by
  have tried : tryDeniedDatabase client run.database { client := state } =
      .ok .allowed
        { client := c, exchanges := [.createDatabase run.database (.ok outcome)] } := by
    simp [tryDeniedDatabase, Client.ensureDatabase, Session.call, provided]
  simp only [Suite.perform, suite, bind, EStateM.bind, tried]
  rfl

/-- A database that is refused passes it, whatever the error. -/
theorem suite_of_refused (suite : run.suite = .authorization) {e : Error}
    (answered : e ≠ .breakdown)
    (refused : client.createDatabase run.database state = .error e c) :
    Suite.perform client run { client := state } =
      .ok { authorization := some (.denied e.message) }
        { client := c
          exchanges := [.createDatabase run.database (.error e)]
          console := [.tagged .denied e.message] } := by
  have tried : tryDeniedDatabase client run.database { client := state } =
      .ok (.denied e.message)
        { client := c
          exchanges := [.createDatabase run.database (.error e)]
          console := [.tagged .denied e.message] } := by
    unfold tryDeniedDatabase
    simp [Client.ensureDatabase, Session.call, refused, Session.printed]
  simp only [Suite.perform, suite, bind, EStateM.bind, tried]
  rfl

open SaslClient

/-- **The authorization suite finds what the server does.**  Over frames, a run reports that the
authorization is not enforced just when what the server sends starts with a frame that provides the
database.  Otherwise it passes, reports the error of the call as a denial and prints that once.
The client is closed in either case. -/
theorem authorization_verdict {run : Run} (suite : run.suite = .authorization) (now : Int32)
    {incoming : Bytes} (readable : Readable incoming) {sink : Sink}
    (unlimited : sink.room = none) :
    let performed := run.perform (SaslClient.client now)
      { client := { stream := { incoming, sink } } }
    let result := Session.resultOf performed
    let left := Session.leftBy performed
    (result = .error (.authorizationNotEnforced run.database) ↔ LetsIn incoming) ∧
      (¬ LetsIn incoming → ∃ e,
        left.exchanges = [.createDatabase run.database (.error e), .close (.ok ())] ∧
          result = .ok { authorization := some (.denied e.message) } ∧
          left.console = [.tagged .denied e.message]) ∧
      left.client.closed = true ∧
      left.client.stream.sink.shutdowns = sink.shutdowns + 1 := by
  intro performed result left
  obtain ⟨answer, c, called, isOpen, shutdowns, provides, answered⟩ :=
    exists_answer readable unlimited now run.database
  cases answer with
  | ok outcome =>
    have letsIn : LetsIn incoming := provides.1 ⟨outcome, rfl⟩
    have reported : Error.authorizationNotEnforced run.database ≠ .breakdown := nofun
    have ended := perform_of_error _ reported (suite_of_provided suite called)
    rw [shutDown_of_open isOpen] at ended
    have verdict : result = .error (.authorizationNotEnforced run.database) :=
      congrArg Session.resultOf ended
    have left_eq : left = _ := congrArg Session.leftBy ended
    refine ⟨⟨fun _ => letsIn, fun _ => verdict⟩, fun shut => absurd letsIn shut, ?_, ?_⟩
    · rw [left_eq]
      rfl
    · rw [left_eq, ← shutdowns]
      rfl
  | error e =>
    have shut : ¬ LetsIn incoming := by
      intro letsIn
      obtain ⟨outcome, provided⟩ := provides.2 letsIn
      cases provided
    have broke : e ≠ .breakdown := fun eq => answered (congrArg Except.error eq)
    have ended := perform_of_ok _ (suite_of_refused suite broke called)
    rw [shutDown_of_open isOpen] at ended
    have verdict : result = .ok { authorization := some (.denied e.message) } :=
      congrArg Session.resultOf ended
    have left_eq : left = _ := congrArg Session.leftBy ended
    refine ⟨⟨fun enforced => ?_, fun letsIn => absurd letsIn shut⟩, fun _ => ?_, ?_, ?_⟩
    · rw [verdict] at enforced
      cases enforced
    · refine ⟨e, ?_, verdict, ?_⟩ <;> rw [left_eq] <;> rfl
    · rw [left_eq]
      rfl
    · rw [left_eq, ← shutdowns]
      rfl

/-- A database that exists is not refused, though another exception stands before that in the reply
and something follows the frame. -/
theorem authorization_verdict_of_existing_database :
    let reply : Bytes :=
      Writer.messageHead .reply "create_database" 1 ++ [0x0C, 0, 3, 0, 0x0C, 0, 1, 0, 0]
    let run : Run := ⟨⟨"h", 9083, none⟩, "d", .authorization, {}⟩
    let performed := run.perform (SaslClient.client 0)
      { client := { stream := { incoming := Frame.bytes reply ++ [7] } } }
    Session.resultOf performed = .error (.authorizationNotEnforced "d") := by
  intro reply run performed
  have accepted : reply.length ≤ maxFrameLength := by
    have length : reply.length = 36 := rfl
    rw [length]
    decide
  have received := Frame.payload_bytes_append accepted [7]
  have existed : (createResult .createDatabase 1 reply).toOption = some .alreadyExisted := by
    decide +kernel
  cases answer : createResult .createDatabase 1 reply with
  | error e => simp [answer, Except.toOption] at existed
  | ok outcome =>
    have stands : ¬ Reply.BreaksDown (Reply.decodeVoid .createDatabase 1 reply) := by
      rw [← createResult_eq_breakdown_iff, answer]
      exact nofun
    have readable := readable_of_ok received stands
    have creates : Method.createDatabase ≠ .getSchema := nofun
    have provides := (createResult_isOk_iff creates).1 ⟨outcome, answer⟩
    have letsIn := (letsIn_iff received).2 provides
    have verdict := @authorization_verdict run rfl 0 _ readable {} rfl
    exact verdict.1.2 letsIn

end Run

end MetastoreProbe
