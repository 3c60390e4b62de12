import MetastoreProbe.Proofs.Program.Course
import MetastoreProbe.Proofs.Run.Output

/-!
# Verdicts on the output

A test driver looks for lines that start with `[SUCCESS]`, but the verdict is the exit: a passing
run prints one entry with that tag, and a failing one prints none (`Program.Tells`).  Entries are
not lines.  What a message says is printed as it is, so a line feed in the name of a database, in
what the metastore says or in a column starts a new line, and what follows it is not told from a
tag.

`Program.shown` lists the texts that the output of a command shows, and `Program.Given` says where
they come from.  `Program.run_success_lines` counts: there is one marked line for a run that passes,
and one more for each line feed in these texts that the tag follows.  If no text that is given has
such a line feed, the lines tell the verdict.
-/

namespace MetastoreProbe

open Console (Entry Level forged forgedBy)

/-! ## Settings files -/

/-- No location that can be missing has a name with which a line can be forged. -/
theorem Violation.forgedBy_of_mem_inOrder {violation : Violation}
    (listed : violation ∈ Violation.inOrder) : forgedBy violation.quoted = 0 := by
  revert violation
  decide

namespace Settings

/-- The text is given to whoever loads the settings at a path. -/
inductive Given (files : Files) (wording : Toml.Wording) (path : String) : String → Prop
  /-- The path of a file that cannot be read. -/
  | path {reason : String}
    (unreadable : load files path wording = .error (.unreadable path reason)) :
    Given files wording path path
  /-- What is told of a file that cannot be read. -/
  | reason {fault : FileFault} (unreadable : files path = .error fault) :
    Given files wording path fault.message
  /-- What is told of a document that is wrong. -/
  | document {bytes : Bytes} {text : String} {fault : Toml.Fault} (read : files path = .ok bytes)
    (decoded : Utf8.decode bytes = .ok text) (malformed : spelled text = .error fault) :
    Given files wording path (wording text fault)

variable {files : Files} {wording : Toml.Wording} {path : String} {fault : ConfigFault}

/-- **A fault in a settings file forges a line only if a text that is given does.** -/
theorem exists_given_of_load (failed : load files path wording = .error fault)
    (forges : forgedBy fault.quoted ≠ 0) :
    ∃ given, Given files wording path given ∧ forged given ≠ 0 := by
  obtain ⟨text, quoted, marked⟩ := Console.exists_forged forges
  have course := course_load files path wording
  rw [failed] at course
  cases course with
  | unread fault unread =>
    obtain rfl | rest := List.mem_cons.1 quoted
    · exact ⟨text, .path failed, marked⟩
    · cases List.mem_singleton.1 rest
      exact ⟨_, .reason unread, marked⟩
  | garbled =>
    obtain rfl | rest := List.mem_cons.1 quoted
    · exact ⟨text, .path failed, marked⟩
    · cases List.mem_singleton.1 rest
      exact absurd (by decide) marked
  | malformed fault read decoded malformed =>
    cases List.mem_singleton.1 quoted
    exact ⟨_, .document read decoded malformed, marked⟩
  | invalid _ violation _ _ _ listed =>
    exact absurd (Violation.forgedBy_of_mem_inOrder listed) forges

end Settings

/-! ## What a command prints -/

/-- The notices of a run tell no success. -/
theorem Exchange.isTold_notice? {x : Exchange} {e : Entry} (h : x.notice? = some e) : e.IsTold := by
  unfold notice? at h
  split at h
  next => cases h; exact ⟨.info, rfl, by decide⟩
  next => cases h

namespace Run

variable {σ : Type}

theorem Course.isTold {run : Run} {xs : List Exchange} {es : List Entry}
    {result : Except Error Report} (h : run.Course xs es result) : ∀ e ∈ es, e.IsTold := by
  cases h with
  | unprovided | allowed | brokeDown => exact List.forall_mem_nil _
  | checked =>
    intro e mem
    obtain ⟨x, -, notice⟩ := List.mem_filterMap.1 mem
    exact Exchange.isTold_notice? notice
  | denied => exact List.forall_mem_singleton.2 ⟨.denied, rfl, by decide⟩

/-- Executing a run prints nothing that tells success. -/
theorem Executed.isTold {network : Network σ} {now : Int32} {run : Run} {e : Execution}
    (executed : run.Executed network now e) : ∀ entry ∈ e.console, entry.IsTold := by
  cases executed with
  | refused | unreached => exact List.forall_mem_nil _
  | @dialled link =>
    obtain ⟨xs, es, result, course, -, printed, -⟩ :=
      run.exists_course (PlainClient.client network.link now) { link }
    show ∀ entry ∈ (run.performed _ _).console, entry.IsTold
    rw [printed]
    exact course.isTold

end Run

namespace Program

variable {σ : Type} (network : Network σ) (now : Int32)

/-- An outcome that keeps to the convention: the last entry tells success if the exit does, and no
other entry tells success. -/
def Tells (outcome : Outcome) : Prop :=
  ∃ told, (∀ e ∈ told, e.IsTold) ∧
    ((outcome.exit = .success ∧ ∃ message, outcome.console = told ++ [.tagged .success message]) ∨
      (outcome.exit ≠ .success ∧ outcome.console = told))

theorem isTold_errorEntry (e : Error) : (errorEntry e).IsTold :=
  ⟨.error, rfl, by decide⟩

theorem isTold_announcement (run : Run) : ∀ e ∈ announcement run, e.IsTold := by
  unfold announcement
  cases run.suite with
  | schema => exact List.forall_mem_nil _
  | authorization => exact List.forall_mem_singleton.2 ⟨.info, rfl, by decide⟩

theorem tells_carryOut (run : Run) : Tells (carryOut network now run) := by
  have told : ∀ e ∈ announcement run ++ (run.execute network now).console, e.IsTold :=
    List.forall_mem_append.2 ⟨isTold_announcement run, (run.executed network now).isTold⟩
  unfold carryOut
  dsimp only
  cases (run.execute network now).result with
  | ok report =>
    have success : ∃ message, successEntry run = .tagged .success message := by
      unfold successEntry
      cases run.suite <;> exact ⟨_, rfl⟩
    obtain ⟨message, shown⟩ := success
    exact ⟨_, told, .inl ⟨rfl, message, congrArg (_ ++ [·]) shown⟩⟩
  | error e =>
    have reported : ∀ entry ∈ verdict run (.error e), entry.IsTold := by
      cases e with
      | breakdown => exact List.forall_mem_nil _
      | usage | config | metastore | schemaMismatch | authorizationNotEnforced | io =>
        exact List.forall_mem_singleton.2 (isTold_errorEntry _)
    exact ⟨_, List.forall_mem_append.2 ⟨told, reported⟩, .inr ⟨e.exit_ne_success, rfl⟩⟩

/-! ## What a command shows -/

/-- The texts that the output of a command shows: what a fault in its settings quotes, or what
carrying out its run shows. -/
def shown (files : Files) (commandLine : CommandLine) (wording : Toml.Wording) : List String :=
  match settings files commandLine wording with
  | .error fault => fault.quoted
  | .ok settings =>
    match commandLine.command.run settings with
    | some run => run.shown network now
    | none => []

/-- The text is given to a command: with its settings file, or for its run. -/
inductive Given (files : Files) (commandLine : CommandLine) (wording : Toml.Wording) :
    String → Prop
  | settings {path text : String} (named : commandLine.config = some path)
    (given : Settings.Given files wording path text) : Given files commandLine wording text
  | run {settings : Settings} {run : Run} {text : String}
    (loaded : Program.settings files commandLine wording = .ok settings)
    (asked : commandLine.command.run settings = some run) (given : run.Given network text) :
    Given files commandLine wording text

variable {network now} {files : Files} {arguments : List String} {commandLine : CommandLine}
  {wording : Toml.Wording}

/-- **A command that checks a metastore keeps to the convention**, and it forges what the texts that
it shows forge. -/
theorem Course.tells_and_shows {outcome : Outcome}
    (course : Course network now files arguments wording outcome)
    (accepted : CommandLine.parse arguments = .ok commandLine)
    (checks : commandLine.command ≠ .validate) :
    Tells outcome ∧
      Console.forgeries outcome.console =
        forgedBy (shown network now files commandLine wording) := by
  cases course with
  | rejected rejection parsed => cases parsed.symm.trans accepted
  | unsettled _ fault accepted' failed =>
    cases accepted'.symm.trans accepted
    have told : ∀ e ∈ [errorEntry (.config fault)], e.IsTold :=
      List.forall_mem_singleton.2 (isTold_errorEntry _)
    rw [shown, failed, Console.forgeries_singleton]
    exact ⟨⟨_, told, .inr ⟨nofun, rfl⟩⟩, Error.forged_message (.config fault)⟩
  | validated _ settings accepted' loaded asked =>
    cases accepted'.symm.trans accepted
    exact absurd asked checks
  | carriedOut _ settings run accepted' loaded asked =>
    cases accepted'.symm.trans accepted
    simp only [shown, loaded, asked]
    exact ⟨tells_carryOut network now run, run.forgeries_carryOut network now⟩

/-- **What a command shows forges a line only if a text that it is given does.** -/
theorem exists_given (forges : forgedBy (shown network now files commandLine wording) ≠ 0) :
    ∃ given, Given network files commandLine wording given ∧ forged given ≠ 0 := by
  unfold shown at forges
  cases loaded : settings files commandLine wording with
  | error fault =>
    rw [loaded] at forges
    have failed := loaded
    unfold settings at failed
    cases named : commandLine.config with
    | none =>
      rw [named] at failed
      cases failed
    | some path =>
      rw [named] at failed
      obtain ⟨given, told, marked⟩ := Settings.exists_given_of_load failed forges
      exact ⟨given, .settings named told, marked⟩
  | ok settings =>
    rw [loaded] at forges
    cases asked : commandLine.command.run settings with
    | none =>
      simp only [asked] at forges
      exact absurd rfl forges
    | some run =>
      simp only [asked] at forges
      obtain ⟨given, told, marked⟩ := Run.exists_given forges
      exact ⟨given, .run loaded asked told, marked⟩

/-! ## The lines -/

/-- The lines of the output tell the verdict: some line starts with the tag of success just when the
exit code is 0, and then one does. -/
def LinesTell (outcome : Outcome) : Prop :=
  ((∃ line ∈ Console.lines outcome.console, Text.startsWith Console.successMark line) ↔
      outcome.exit.code = 0) ∧
    (outcome.exit.code = 0 → Console.successLines outcome.console = 1)

theorem Tells.successLines_eq {outcome : Outcome} (h : Tells outcome) :
    Console.successLines outcome.console =
      (if outcome.exit.code = 0 then 1 else 0) + Console.forgeries outcome.console := by
  obtain ⟨told, silent, ⟨passed, message, shown⟩ | ⟨failed, shown⟩⟩ := h
  · have success := Console.successLines_success message
    rw [if_pos (Exit.code_eq_zero_iff.2 passed), shown, Console.successLines_append,
      Console.forgeries_append, Console.successLines_of_told silent, success]
    omega
  · rw [if_neg (mt Exit.code_eq_zero_iff.1 failed), shown, Nat.zero_add]
    exact Console.successLines_of_told silent

theorem Tells.linesTell_iff {outcome : Outcome} (h : Tells outcome) :
    LinesTell outcome ↔ Console.forgeries outcome.console = 0 := by
  have counted := h.successLines_eq
  have some : (∃ line ∈ Console.lines outcome.console,
      Text.startsWith Console.successMark line) ↔ 0 < Console.successLines outcome.console :=
    List.countP_pos_iff.symm
  rw [LinesTell, some]
  by_cases passed : outcome.exit.code = 0
  · rw [if_pos passed] at counted
    simp only [passed, iff_true, true_imp_iff]
    omega
  · rw [if_neg passed] at counted
    simp only [passed, iff_false, false_imp_iff, and_true]
    omega

/-- **How many lines start with the tag of success**: one if the exit code is 0 and none otherwise,
and one more for each line feed in the texts shown that the tag follows.  So the lines tell the
verdict just when no text that is shown has such a line feed, and in any case if no text that the
command is given has one.  The message of an exception can have one: it is not shown as it is. -/
theorem run_success_lines (network : Network σ) (now : Int32) (files : Files)
    (wording : Toml.Wording) (accepted : CommandLine.parse arguments = .ok commandLine)
    (checks : commandLine.command ≠ .validate) :
    let outcome := run network now files arguments wording
    let shown := shown network now files commandLine wording
    Console.successLines outcome.console =
        (if outcome.exit.code = 0 then 1 else 0) + forgedBy shown ∧
      (LinesTell outcome ↔ ∀ text ∈ shown, Text.contains text "\n[SUCCESS]" = false) ∧
      ((∀ text, Given network files commandLine wording text →
          Text.contains text "\n[SUCCESS]" = false) → LinesTell outcome) := by
  intro outcome shown
  have course : Course network now files arguments wording outcome :=
    course_run network now files arguments wording
  obtain ⟨tells, forges⟩ := course.tells_and_shows accepted checks
  have tell : LinesTell outcome ↔ forgedBy shown = 0 := tells.linesTell_iff.trans (by rw [forges])
  refine ⟨forges ▸ tells.successLines_eq, ?_, fun clean => ?_⟩
  · rw [tell, Console.forgedBy_eq_zero_iff]
    simp only [Console.forged_eq_zero_iff]
  · refine tell.2 (Classical.byContradiction fun forging => ?_)
    obtain ⟨given, told, marked⟩ := exists_given forging
    exact marked (Console.forged_eq_zero_iff.2 (clean given told))

/-- The text of a failure that is told to be a denial forges a line: the run passes, and two lines
say so.  The same words in an exception do not, since they are shown in quotes. -/
theorem run_success_lines_of_denial :
    let network (denial : Delivery .createDatabase Unit) : Network Unit :=
      { link :=
          { createDatabase := fun _ => pure denial
            createTable := fun _ => pure (.failure "no")
            getSchema := fun _ => pure (.failure "no") }
        dial := fun _ => .ok ()
        dialStream := fun _ => .error "no" }
    let arguments := ["authz", "-m", "h"]
    let denied (denial : Delivery .createDatabase Unit) : Outcome :=
      run (network denial) 0 (fun _ => .error .notFound) arguments
    let failure := denied (.failure "no\n[SUCCESS] yes")
    let exception := denied (.exception ⟨2, by decide⟩ (some "no\n[SUCCESS] yes"))
    CommandLine.parse arguments = .ok { command := .authz { place := .host "h" } } ∧
      Command.authz { place := .host "h" } ≠ .validate ∧
      (failure.exit.code = 0 ∧ Console.successLines failure.console = 2 ∧ ¬ LinesTell failure) ∧
      exception.exit.code = 0 ∧ LinesTell exception := by
  intro network arguments denied failure exception
  have accepted : CommandLine.parse arguments =
      .ok { command := .authz { place := .host "h" } } := rfl
  have checks : Command.authz { place := .host "h" } ≠ .validate := nofun
  have counted (denial : Delivery .createDatabase Unit) :=
    run_success_lines (network denial) 0 (fun _ => .error .notFound) .brief accepted checks
  have passed : failure.exit.code = 0 := by decide +kernel
  have forges : forgedBy (shown (network (.failure "no\n[SUCCESS] yes")) 0
      (fun _ => .error .notFound) { command := .authz { place := .host "h" } } .brief) = 1 := by
    decide +kernel
  have two : Console.successLines failure.console = 2 := by
    have lines := (counted (.failure "no\n[SUCCESS] yes")).1
    rwa [if_pos passed, forges] at lines
  have tell : LinesTell exception := by
    refine (counted _).2.2 fun text given => ?_
    cases given with
    | settings named => cases named
    | run loaded asked given =>
      cases loaded
      cases asked
      cases given with
      | database shown =>
        cases List.mem_singleton.1 shown
        decide
      | service secured => cases secured
      | host _ unreached | reason _ unreached => cases unreached
      | delivered _ _ delivers =>
        cases delivers with
        | databaseFailure delivered => cases delivered
        | tableFailure delivered | schemaFailure delivered =>
          cases delivered
          decide
        | column delivered => cases delivered
  refine ⟨accepted, checks, ⟨passed, two, fun tell => ?_⟩, by decide +kernel, tell⟩
  have one := tell.2 passed
  rw [two] at one
  cases one

/-- So can the name of a database: nothing was dialled, and a line tells success. -/
theorem not_linesTell_of_database_name :
    let arguments := ["authz", "-m", "h", "--kerberos", "-d", "x\n[SUCCESS] y"]
    let outcome := run Network.offline 0 (fun _ => .error .notFound) arguments
    let line := "[SUCCESS] y' which is expected to fail due to " ++
      "'database_allow' authorization policy...!"
    (CommandLine.parse arguments).map (·.command) =
        .ok (.authz { place := .host "h", database := some "x\n[SUCCESS] y", kerberos := true }) ∧
      outcome.exit.code = 2 ∧ line ∈ Console.lines outcome.console ∧ ¬ LinesTell outcome := by
  intro arguments outcome line
  have exit : outcome.exit.code = 2 := by decide +kernel
  have forged : line ∈ Console.lines outcome.console := by decide +kernel
  refine ⟨rfl, exit, forged, fun tell => ?_⟩
  have success : outcome.exit.code = 0 := tell.1.1 ⟨_, forged, by decide⟩
  rw [exit] at success
  exact absurd success (by decide)

end Program

end MetastoreProbe
