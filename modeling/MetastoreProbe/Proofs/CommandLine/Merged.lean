import MetastoreProbe.Proofs.CommandLine.Options
import MetastoreProbe.Proofs.Settings.Validity

/-!
# Runs of valid settings

A run is made of the command line and of the settings, and of the two only the settings are
checked.  What a run takes from them alone stays valid: the locations of its scenarios and the
Kerberos principal.  Its port can come from the command line, which takes any.
`exists_run_of_valid` says that this is the only way in which a run can break a condition on
settings: its port is 0 just when one of the arguments says so.
-/

namespace MetastoreProbe

namespace CommandLine

/-! ## The port of the arguments -/

/-- The arguments give this port: the value of an option for the port spells it. -/
def GivesPort (arguments : List String) (p : UInt16) : Prop :=
  ∃ value, (.port, some value) ∈ optionsIn arguments ∧ readPort value = .ok p

namespace Given

variable {g g' : Given} {p : UInt16}

/-- The port is set by its own option alone, and once. -/
theorem port_of_take {use : OptionUse} (h : g.take use = .ok g') :
    g'.port = some p ↔
      g.port = some p ∨ ∃ value, (.port, some value) = use ∧ readPort value = .ok p := by
  cases gains_of_take h with
  | port unset read => simp [unset, read]
  | _ => simp

/-- The port that options give is the one that was given before, or else what one of them says. -/
theorem port_of_foldlM {uses : List OptionUse} (h : uses.foldlM take g = .ok g') :
    g'.port = some p ↔
      g.port = some p ∨ ∃ value, (.port, some value) ∈ uses ∧ readPort value = .ok p := by
  induction uses generalizing g with
  | nil =>
    cases h
    simp
  | cons use uses ih =>
    rw [List.foldlM_cons] at h
    obtain ⟨middle, taken, h⟩ := ok_of_bind h
    rw [ih h, port_of_take taken, or_assoc, ← exists_or]
    simp only [List.mem_cons, or_and_right]

end Given

/-- **The port of an accepted command is the one that its arguments give.** -/
theorem port_of_parse {arguments : List String} {commandLine : CommandLine}
    (accepted : parse arguments = .ok commandLine) {access : Access}
    (asked : commandLine.command.access? = some access) {p : UInt16} :
    access.port = some p ↔ GivesPort arguments p := by
  obtain ⟨front, uses, word, g, split, known, taken, named⟩ := given_of_parse accepted
  obtain ⟨place, rfl⟩ := Given.eq_of_access (Given.access_of_command named asked)
  rw [Given.port_of_foldlM taken, GivesPort, split]
  simp only [mem_front_append_iff known (show Opt.port ∉ Part.front.options by decide),
    reduceCtorEq, false_or]

end CommandLine

/-! ## The run -/

theorem Scenario.location_ne_empty {settings : ScenarioSettings}
    (s3 : settings.s3Location ≠ "") (hdfs : settings.hdfsLocation ≠ "") (scenario : Scenario)
    (database : String) : scenario.location settings database ≠ "" := by
  cases scenario with
  | «local» =>
    intro empty
    have slash : '/' ∈ (Scenario.local.location settings database).toList := by
      simp [location, toString]
    rw [empty] at slash
    cases slash
  | s3 => exact s3
  | hdfs => exact hdfs

theorem Command.exists_access {command : Command} (checks : command ≠ .validate) :
    ∃ access, command.access? = some access := by
  cases command with
  | smoke access _ | authz access => exact ⟨access, rfl⟩
  | validate => exact absurd rfl checks

/-- What a run takes from the command line and from the settings. -/
theorem Command.run_of_access {command : Command} {access : Access}
    (asked : command.access? = some access) (settings : Settings) :
    ∃ run, command.run settings = some run ∧ run.target = access.target settings ∧
      run.scenarios = settings.scenarios := by
  cases command with
  | smoke | authz =>
    cases asked
    exact ⟨_, rfl, rfl, rfl⟩
  | validate => cases asked

namespace CommandLine

/-- **A run of valid settings breaks a condition only by a port of its arguments.**  An accepted
command that checks a metastore has a run.  No location of its scenarios is empty and neither is
the service of its Kerberos principal; its port is 0 just when the arguments give the port 0. -/
theorem exists_run_of_valid {arguments : List String} {commandLine : CommandLine}
    {settings : Settings} (accepted : parse arguments = .ok commandLine)
    (checks : commandLine.command ≠ .validate) (valid : settings.validate = .ok ()) :
    ∃ run, commandLine.command.run settings = some run ∧
      (run.target.port = 0 ↔ GivesPort arguments 0) ∧
      (∀ location ∈ run.scenarios.locations, location.2 ≠ "") ∧
      (∀ scenario : Scenario, scenario.location run.scenarios run.database ≠ "") ∧
      ∀ principal, run.target.kerberos = some principal → principal.serviceName ≠ "" := by
  obtain ⟨access, asked⟩ := Command.exists_access checks
  obtain ⟨run, made, target, scenarios⟩ := Command.run_of_access asked settings
  have valid := Settings.validate_eq_ok_iff.1 valid
  refine ⟨run, made, ?_, ?_, ?_, ?_⟩
  · rw [target, ← port_of_parse accepted asked]
    cases port : access.port with
    | none => simpa [Access.target, port] using valid.port
    | some p => simp [Access.target, port]
  · rw [scenarios]
    simpa [ScenarioSettings.locations] using
      ⟨valid.warehouseRoot, valid.s3Location, valid.hdfsLocation⟩
  · rw [scenarios]
    exact fun scenario => scenario.location_ne_empty valid.s3Location valid.hdfsLocation _
  · rw [target]
    intro principal authenticates
    unfold Access.target at authenticates
    split at authenticates
    · cases authenticates
      exact valid.serviceName
    · cases authenticates

/-- The default settings are valid, and a run of theirs has the port 0 if the arguments say so. -/
theorem exists_run_of_valid_of_port_zero :
    ∃ run, Command.run {} (.smoke { place := .host "h", port := some 0, kerberos := true } []) =
        some run ∧ run.target.port = 0 ∧
      (∀ location ∈ run.scenarios.locations, location.2 ≠ "") ∧
      ∀ principal, run.target.kerberos = some principal → principal.serviceName ≠ "" := by
  have accepted : parse ["smoke", "-m", "h", "--kerberos", "-p", "0"] =
      .ok { command :=
        .smoke { place := .host "h", port := some 0, kerberos := true } [] } := rfl
  have said : optionsIn ["smoke", "-m", "h", "--kerberos", "-p", "0"] =
      [(.metastore, some "h"), (.kerberos, none), (.port, some "0")] := rfl
  have zero : GivesPort ["smoke", "-m", "h", "--kerberos", "-p", "0"] 0 :=
    ⟨"0", by simp [said], by simp [readPort, integer?]⟩
  have valid : Settings.validate {} = .ok () := rfl
  obtain ⟨run, made, port, locations, -, principal⟩ := exists_run_of_valid accepted nofun valid
  exact ⟨run, made, port.2 zero, locations, principal⟩

/-- Valid settings do not keep a run from having the port 0. -/
theorem run_of_port_zero :
    ¬ ∀ arguments commandLine settings run, parse arguments = .ok commandLine →
      settings.validate = .ok () → commandLine.command.run settings = some run →
      run.target.port ≠ 0 := by
  intro claim
  exact claim ["smoke", "-m", "h", "-p", "0"]
    { command := .smoke { place := .host "h", port := some 0 } [] } {} _ rfl rfl rfl rfl

end CommandLine

end MetastoreProbe
