import MetastoreProbe.Program
import MetastoreProbe.Proofs.Run.Answers
import MetastoreProbe.Proofs.Run.Failures
import MetastoreProbe.Proofs.Run.Verdict

/-!
# What a run shows

What is printed of a run is worded here, but it quotes texts that come from elsewhere.  `Run.shown`
lists them, and `Run.forgeries_carryOut` says that lines are forged by these texts alone, as often
as each of them is listed.

`Run.Given` is where such texts come from: the command line and the settings, dialling, and what the
link delivered.  What a run shows forges a line only if one of these texts does
(`Run.exists_given`).  The name of the database is one of them only in the suite that shows it, and
the message of an exception never is.
-/

namespace MetastoreProbe

open Console

/-! ## Answers and the errors that they cause -/

theorem Exchange.Passes.forgedBy_texts {x : Exchange} (passes : x.Passes) :
    forgedBy x.texts = 0 := by
  cases x with
  | createDatabase | createTable =>
    obtain ⟨outcome, rfl⟩ := passes
    rfl
  | getSchema =>
    cases passes
    have expected : forgedBy Schema.oneColumn.texts = 0 := by decide
    exact expected
  | close => rfl

/-- The error that a run ends with quotes what the answer brought along. -/
theorem Exchange.FailsWith.forgedBy_texts {x : Exchange} {e : Error} (fails : x.FailsWith e) :
    forgedBy x.texts = forgedBy e.quoted := by
  cases fails with
  | database | table | schema => rfl
  | difference database scenario schema different =>
    have label : forged scenario.label = 0 := by cases scenario <;> decide
    have expected : forged Schema.oneColumn.text = 0 := by decide
    simp only [texts, Error.quoted, forgedBy_cons, forgedBy_nil, label, expected,
      schema.forged_text, Nat.zero_add, Nat.add_zero]

theorem forgedBy_texts_of_passes {xs : List Exchange} (passes : ∀ x ∈ xs, x.Passes) :
    forgedBy (xs.flatMap Exchange.texts) = 0 := by
  rw [forgedBy_eq_zero_iff]
  intro text mem
  obtain ⟨x, member, brought⟩ := List.mem_flatMap.1 mem
  exact forgedBy_eq_zero_iff.1 (passes x member).forgedBy_texts text brought

theorem StopWith.forgedBy_texts {xs : List Exchange} {e : Error} (stop : StopWith xs e) :
    forgedBy (xs.flatMap Exchange.texts) = forgedBy e.quoted := by
  obtain ⟨before, last, rfl, passes, fails⟩ := stop
  rw [List.flatMap_append, forgedBy_append, forgedBy_texts_of_passes passes, List.flatMap_singleton,
    fails.forgedBy_texts, Nat.zero_add]

theorem Target.forged_address (target : Target) : forged target.address = forged target.host := by
  have parts : Parts ":" := by decide
  show forged (target.host ++ ":" ++ toString target.port.toNat) = _
  rw [parts.forged_append_append, forged_toString, Nat.add_zero]

/-! ## What the entries of a run quote -/

namespace Run

/-- The name of the database, in the suite that shows it. -/
def named (run : Run) : List String :=
  match run.suite with
  | .schema _ => []
  | .authorization => [run.database]

theorem forgeries_announcement (run : Run) :
    forgeries (Program.announcement run) = forgedBy run.named := by
  unfold Program.announcement named
  cases run.suite with
  | schema => rfl
  | authorization =>
    have attempt : forged (authorizationAttempt run.database) = forgedBy [run.database] :=
      (Parts.forged_append (by decide)).trans (forged_quoting_inside (by decide) (by decide))
    rw [forgeries_singleton]
    exact attempt

theorem forgeries_verdict_ok (run : Run) (report : Report) :
    forgeries (Program.verdict run (.ok report)) = forgedBy run.named := by
  unfold Program.verdict Program.successEntry named
  rw [forgeries_singleton]
  cases run.suite with
  | schema =>
    have message : forged "Test finished successfully!" = 0 := by decide
    exact message
  | authorization => exact forged_quoting_inside (by decide) (by decide)

theorem forgeries_verdict_error (run : Run) (e : Error) :
    forgeries (Program.verdict run (.error e)) = forgedBy e.quoted := by
  have told : forgeries [Program.errorEntry e] = forgedBy e.quoted :=
    (forgeries_singleton _).trans e.forged_message
  cases e with
  | breakdown => rfl
  | usage | config | metastore | schemaMismatch | authorizationNotEnforced | io => exact told

/-- The notices of a run are about its own tables. -/
theorem Course.forgeries_notices {run : Run} {xs : List Exchange} {es : List Entry}
    {result : Except Error Report} (course : run.Course xs es result) :
    forgeries (xs.filterMap Exchange.notice?) = 0 := by
  rw [forgeries, forgedBy_eq_zero_iff]
  intro text mem
  obtain ⟨entry, shown, rfl⟩ := List.mem_map.1 mem
  obtain ⟨x, member, notice⟩ := List.mem_filterMap.1 shown
  unfold Exchange.notice? at notice
  split at notice
  next table =>
    cases notice
    obtain ⟨scenario, name_eq⟩ := course.createTable_name member
    simp only [name_eq]
    cases scenario <;> decide
  next => cases notice

/-- **What a course prints, and its verdict, forge what its answers forge**, and the name of the
database where it is shown at the end. -/
theorem Course.forgeries_eq {run : Run} {xs : List Exchange} {es : List Entry}
    {result : Except Error Report} (course : run.Course xs es result)
    (answered : result ≠ .error .breakdown) :
    forgeries es + forgeries (Program.verdict run result) =
      forgedBy (xs.flatMap Exchange.texts) + forgedBy run.named := by
  cases suite : run.suite with
  | schema scenarios =>
    have unnamed : forgedBy run.named = 0 := by simp only [named, suite, forgedBy_nil]
    rw [course.notices_eq suite, course.forgeries_notices, Nat.zero_add, unnamed, Nat.add_zero]
    cases h : result with
    | ok report =>
      have passes := (course.matches_of_ok suite h).passes
      rw [forgeries_verdict_ok, unnamed, forgedBy_texts_of_passes passes]
    | error e => rw [forgeries_verdict_error, (course.stopWith_of_error suite h).forgedBy_texts]
  | authorization =>
    cases course with
    | unprovided suite' | checked suite' => cases suite.symm.trans suite'
    | allowed =>
      rw [forgeries_verdict_error, named, suite]
      rfl
    | denied _ e =>
      rw [forgeries_singleton, forgeries_verdict_ok, List.flatMap_singleton]
      exact congrArg (· + forgedBy run.named) e.forged_message
    | brokeDown => exact absurd rfl answered

/-! ## What carrying out a run shows -/

variable {σ : Type} {network : Network σ} {now : Int32} {run : Run}

/-- The texts that carrying out a run shows, in the order in which they are printed: the name of the
database where it is announced, and what the error in connecting quotes; or else what the answers
bring along, and the name once more. -/
def shown (network : Network σ) (now : Int32) (run : Run) : List String :=
  run.named ++
    match (network.connect run.target).result with
    | .error e => e.quoted
    | .ok _ => (run.execute network now).exchanges.flatMap Exchange.texts ++ run.named

/-- Closing the client brings no text along. -/
theorem Closed.flatMap_texts {xs : List Exchange} {e : Execution} (closed : Closed xs e) :
    e.exchanges.flatMap Exchange.texts = xs.flatMap Exchange.texts := by
  obtain ⟨-, made⟩ | ⟨-, answer, made⟩ := closed
  · rw [made]
  · rw [made, List.flatMap_append]
    exact List.append_nil _

/-- What executing a run prints, and its verdict, forge what it shows after the announcement. -/
theorem Executed.forgeries_eq {e : Execution} (executed : run.Executed network now e) :
    forgeries e.console + forgeries (Program.verdict run e.result) =
      forgedBy
        (match (network.connect run.target).result with
          | .error error => error.quoted
          | .ok _ => e.exchanges.flatMap Exchange.texts ++ run.named) := by
  unfold Network.connect
  cases executed with
  | refused asked =>
    rw [asked, forgeries_verdict_error]
    exact Nat.zero_add _
  | unreached plain dial =>
    rw [plain, forgeries_verdict_error]
    simp only [dial]
    exact Nat.zero_add _
  | @dialled link plain dial =>
    rw [plain]
    simp only [dial, forgedBy_append]
    obtain ⟨xs, es, result, course, result_eq, console_eq, closed⟩ :=
      run.exists_course (PlainClient.client network.link now) { link }
    have answered : result ≠ .error .breakdown := by
      rintro rfl
      have failure : Error.breakdown.exit = .failure :=
        PlainClient.isFailure_of_performed result_eq
      cases failure
    rw [result_eq, console_eq, closed.flatMap_texts]
    exact course.forgeries_eq answered

/-- **Carrying out a run forges what the texts that it shows forge.** -/
theorem forgeries_carryOut (network : Network σ) (now : Int32) (run : Run) :
    forgeries (Program.carryOut network now run).console = forgedBy (run.shown network now) := by
  have printed : (Program.carryOut network now run).console =
      Program.announcement run ++ (run.execute network now).console ++
        Program.verdict run (run.execute network now).result := rfl
  rw [printed, forgeries_append, forgeries_append, forgeries_announcement, shown, forgedBy_append,
    Nat.add_assoc, (run.executed network now).forgeries_eq]

/-! ## Where these texts come from -/

/-- The text is given to a run: by whoever asks for it, by dialling, or by the link. -/
inductive Given (network : Network σ) (run : Run) : String → Prop
  /-- The name of a database, in the suite that shows it. -/
  | database {name : String} (shown : name ∈ run.named) : Given network run name
  /-- The service that Kerberos is asked for. -/
  | service {kerberos : KerberosSettings} (asked : run.target.kerberos = some kerberos) :
    Given network run (kerberos.hostBasedService run.target.host)
  /-- The host that could not be reached. -/
  | host {reason : String} (plain : run.target.kerberos = none)
    (unreached : network.dial run.target = .error reason) : Given network run run.target.host
  /-- What is told of a host that could not be reached. -/
  | reason {reason : String} (plain : run.target.kerberos = none)
    (unreached : network.dial run.target = .error reason) : Given network run reason
  /-- What the link delivered. -/
  | delivered {link : σ} {text : String} (plain : run.target.kerberos = none)
    (dialled : network.dial run.target = .ok link) (delivers : network.link.Delivers text) :
    Given network run text

/-- A run that could not be connected shows what it was to connect to, and why it could not. -/
theorem exists_given_of_connect {e : Error}
    (failed : (network.connect run.target).result = .error e) {text : String}
    (quoted : text ∈ e.quoted) (forges : forged text ≠ 0) :
    ∃ given, run.Given network given ∧ forged given ≠ 0 := by
  unfold Network.connect at failed
  cases kerberos : run.target.kerberos with
  | some asked =>
    rw [kerberos] at failed
    cases failed
    cases List.mem_singleton.1 quoted
    exact ⟨_, .service kerberos, forges⟩
  | none =>
    rw [kerberos] at failed
    cases dial : network.dial run.target with
    | ok link =>
      simp only [dial] at failed
      cases failed
    | error reason =>
      simp only [dial] at failed
      cases failed
      obtain rfl | rest := List.mem_cons.1 quoted
      · rw [Target.forged_address] at forges
        exact ⟨_, .host kerberos dial, forges⟩
      · cases List.mem_singleton.1 rest
        exact ⟨_, .reason kerberos dial, forges⟩

/-- What an answer brings along was delivered. -/
theorem Executed.exists_given {e : Execution} (executed : run.Executed network now e)
    {x : Exchange} (made : x ∈ e.exchanges) (forges : forgedBy x.texts ≠ 0) :
    ∃ given, run.Given network given ∧ forged given ≠ 0 := by
  cases executed with
  | refused | unreached => cases made
  | dialled plain dial =>
    have answered := run.answers_of_performed (PlainClient.client network.link now) _ x made
    obtain ⟨text, delivers, forges⟩ := PlainClient.delivers_of_answers answered forges
    exact ⟨text, .delivered plain dial delivers, forges⟩

/-- **What a run shows forges a line only if a text that it is given does.** -/
theorem exists_given (forges : forgedBy (run.shown network now) ≠ 0) :
    ∃ given, run.Given network given ∧ forged given ≠ 0 := by
  obtain ⟨text, shown, forges⟩ := exists_forged forges
  obtain announced | later := List.mem_append.1 shown
  · exact ⟨text, .database announced, forges⟩
  cases connected : (network.connect run.target).result with
  | error e =>
    rw [connected] at later
    exact exists_given_of_connect connected later forges
  | ok client =>
    rw [connected] at later
    obtain brought | named := List.mem_append.1 later
    · obtain ⟨x, made, brought⟩ := List.mem_flatMap.1 brought
      exact (run.executed network now).exists_given made fun clean =>
        forges (forgedBy_eq_zero_iff.1 clean text brought)
    · exact ⟨text, .database named, forges⟩

end Run

end MetastoreProbe
