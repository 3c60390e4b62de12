import Mathlib.Data.List.Infix
import MetastoreProbe.Proofs.CommandLine.Options

/-!
# What the arguments ask for

Of an accepted command line, the scenarios are those that its `--scenario` options name, in the
order in which they stand there (`scenariosIn`), and Kerberos is asked for just when `--kerberos` is
one of the arguments (`asked_of_parse`).  Both are read off the options in the arguments
(`optionsIn`), since neither option has a letter.
-/

namespace MetastoreProbe

namespace CommandLine

/-! ## Reading the arguments as they stand -/

/-- The value that an argument gives to `--scenario`: what stands behind an equals sign, or else
the next argument. -/
def scenarioValue? (argument : String) (next : Option String) : Option String :=
  if argument = "--scenario" then next
  else ("--scenario=".toList.isPrefixOf? argument.toList).map String.ofList

/-- The scenarios that a value names. -/
def namedScenarios : Option String → List Scenario
  | none => []
  | some value => (readScenarios value).toOption.getD []

/-- The scenarios that arguments ask for, in their order. -/
def scenariosIn : List String → List Scenario
  | [] => []
  | argument :: rest =>
    namedScenarios (scenarioValue? argument rest.head?) ++ scenariosIn rest

/-! ## Forms of arguments -/

/-- An argument with a name is spelled out by its name and its value. -/
theorem toList_of_named {argument name : String} {value : Option String}
    (form : Form.ofString argument = .named name value) :
    argument.toList =
      '-' :: '-' :: name.toList ++ value.elim [] fun v => '=' :: v.toList := by
  unfold Form.ofString at form
  split at form
  next => cases form
  next rest _ spelled =>
    have parts := List.takeWhile_append_dropWhile (p := (· ≠ '=')) (l := rest)
    split at form
    next ended =>
      cases form
      rw [ended] at parts
      simpa [spelled] using parts.symm
    next sign tail started =>
      cases form
      -- The first character that is dropped is the one that ended the name.
      have equals : sign = '=' := by
        have stops := List.head?_dropWhile_not (· ≠ '=') rest
        rw [started] at stops
        simpa using stops
      rw [started, equals] at parts
      simpa [spelled] using parts.symm
  next => cases form
  next => cases form

theorem form_kerberos_iff {argument : String} :
    argument = "--kerberos" ↔ Form.ofString argument = .named "kerberos" none := by
  constructor
  · rintro rfl
    rfl
  · intro form
    apply String.toList_injective
    exact toList_of_named form

/-- The value of `--scenario` can be read off the form of an argument. -/
theorem scenarioValue?_eq (argument : String) (next : Option String) :
    scenarioValue? argument next =
      match Form.ofString argument with
      | .named "scenario" value => value.or next
      | _ => none := by
  by_cases alone : argument = "--scenario"
  · subst alone
    rfl
  · unfold scenarioValue?
    rw [if_neg alone]
    cases found : "--scenario=".toList.isPrefixOf? argument.toList with
    | some value =>
      have spelled := List.isPrefixOf?_eq_some_iff_append_eq.1 found
      have form : Form.ofString argument = .named "scenario" (some (String.ofList value)) := by
        unfold Form.ofString
        rw [← spelled]
        rfl
      rw [form]
      rfl
    | none =>
      split
      next value form =>
        have spelled := toList_of_named form
        cases value with
        | none => exact absurd (String.toList_injective spelled) alone
        | some value =>
          have starts : "--scenario=".toList.isPrefixOf? argument.toList = some value.toList :=
            List.isPrefixOf?_eq_some_iff_append_eq.2 spelled.symm
          rw [found] at starts
          cases starts
      next => rfl

/-! ## Asking options -/

/-- The scenarios that an option adds. -/
def OptionUse.scenarios : OptionUse → List Scenario
  | (.scenario, value) => namedScenarios value
  | _ => []

theorem OptionUse.scenarios_eq_nil {use : OptionUse} (other : use.1 ≠ .scenario) :
    use.scenarios = [] := by
  obtain ⟨opt, value⟩ := use
  cases opt <;> first | rfl | exact absurd rfl other

theorem letter?_of_mem_optionsOfLetters {next : Option String} {letters : List Char}
    {use : OptionUse} (mem : use ∈ optionsOfLetters next letters) : use.1.letter? ≠ none := by
  induction letters with
  | nil => cases mem
  | cons letter rest ih =>
    unfold optionsOfLetters at mem
    cases found : Opt.lettered? letter with
    | none =>
      rw [found] at mem
      cases mem
    | some opt =>
      rw [found] at mem
      have lettered := List.find?_some found
      simp only [decide_eq_true_eq] at lettered
      have first : opt.letter? ≠ none := lettered ▸ Option.some_ne_none letter
      dsimp only at mem
      split at mem
      next =>
        obtain rfl := List.mem_singleton.1 mem
        exact first
      next =>
        obtain rfl | mem := List.mem_cons.1 mem
        · exact first
        · exact ih mem

theorem name_of_named? {name : String} {opt : Opt} (found : Opt.named? name = some opt) :
    opt.name = name := by
  simpa using List.find?_some found

/-- An argument asks for the scenarios that its options add. -/
theorem scenarios_of_form (argument : String) (next : Option String) :
    namedScenarios (scenarioValue? argument next) =
      ((Form.ofString argument).options next).flatMap OptionUse.scenarios := by
  rw [scenarioValue?_eq]
  cases Form.ofString argument with
  | named name value =>
    by_cases scenario : name = "scenario"
    · subst scenario
      exact (List.append_nil _).symm
    · cases found : Opt.named? name with
      | none => simp [Form.options, found, scenario, namedScenarios]
      | some opt =>
        have other : opt ≠ .scenario := by
          rintro rfl
          exact scenario (name_of_named? found).symm
        simp [Form.options, found, scenario, namedScenarios, OptionUse.scenarios_eq_nil, other]
  | lettered letters =>
    symm
    refine List.flatMap_eq_nil_iff.2 fun use mem => OptionUse.scenarios_eq_nil fun scenario => ?_
    have lettered := letter?_of_mem_optionsOfLetters mem
    rw [scenario] at lettered
    exact lettered rfl
  | word | escape => rfl

theorem scenariosIn_eq (arguments : List String) :
    scenariosIn arguments = (optionsIn arguments).flatMap OptionUse.scenarios := by
  induction arguments with
  | nil => rfl
  | cons argument rest ih =>
    rw [scenariosIn, optionsIn, List.flatMap_append, ih, scenarios_of_form]

/-- An argument is the option for Kerberos if this is one of its options. -/
theorem kerberos_of_form (argument : String) (next : Option String) :
    argument = "--kerberos" ↔ (.kerberos, none) ∈ (Form.ofString argument).options next := by
  rw [form_kerberos_iff]
  cases Form.ofString argument with
  | named name value =>
    cases found : Opt.named? name with
    | none =>
      simp only [Form.options, found, List.not_mem_nil, iff_false]
      rintro ⟨⟩
      cases found
    | some opt =>
      have named := name_of_named? found
      subst named
      simp only [Form.options, found, List.mem_singleton, Form.named.injEq, Prod.mk.injEq]
      cases opt <;> simp [Opt.name, Opt.takesValue, eq_comm]
  | lettered letters =>
    simp only [Form.options, reduceCtorEq, false_iff]
    exact fun mem => letter?_of_mem_optionsOfLetters mem rfl
  | word | escape => simp [Form.options]

theorem mem_kerberos_iff (arguments : List String) :
    "--kerberos" ∈ arguments ↔ (.kerberos, none) ∈ optionsIn arguments := by
  induction arguments with
  | nil => exact iff_of_false nofun nofun
  | cons argument rest ih =>
    rw [List.mem_cons, optionsIn, List.mem_append, ← ih, ← kerberos_of_form, eq_comm]

/-! ## What they give -/

namespace Given

variable {g g' : Given}

/-- Of the options, `--scenario` alone adds scenarios, and `--kerberos` alone asks for Kerberos. -/
theorem told_of_take {use : OptionUse} (h : g.take use = .ok g') :
    g'.scenarios = g.scenarios ++ use.scenarios ∧
      g'.kerberos = (g.kerberos || decide ((.kerberos, none) = use)) := by
  cases gains_of_take h with
  | scenario read => simp [OptionUse.scenarios, namedScenarios, read, Except.toOption]
  | _ => simp [OptionUse.scenarios]

/-- **What options give is what they ask for**, added to what was given before. -/
theorem told_of_foldlM {uses : List OptionUse} (h : uses.foldlM take g = .ok g') :
    g'.scenarios = g.scenarios ++ uses.flatMap OptionUse.scenarios ∧
      g'.kerberos = (g.kerberos || decide ((.kerberos, none) ∈ uses)) := by
  induction uses generalizing g with
  | nil =>
    cases h
    exact ⟨(List.append_nil _).symm, (Bool.or_false _).symm⟩
  | cons use uses ih =>
    rw [List.foldlM_cons] at h
    obtain ⟨middle, taken, h⟩ := ok_of_bind h
    obtain ⟨scenarios, kerberos⟩ := told_of_take taken
    obtain ⟨scenarios', kerberos'⟩ := ih h
    constructor
    · rw [scenarios', scenarios, List.append_assoc, List.flatMap_cons]
    · rw [kerberos', kerberos, Bool.or_assoc]
      simp only [List.mem_cons, Bool.decide_or]

end Given

/-! ## The command line -/

theorem scenarios_of_command {word : Word} {g : Given} {access : Access}
    {requested : List Scenario} (named : g.command word = .ok (.smoke access requested)) :
    requested = g.scenarios := by
  cases word with
  | smoke =>
    obtain ⟨_, -, h⟩ := ok_of_bind named
    cases h
    rfl
  | authz =>
    obtain ⟨_, -, h⟩ := ok_of_bind named
    cases h
  | validate | help => cases named

/-- **A command line that is accepted asks for what stands in its arguments**: the scenarios of its
`--scenario` options, in their order, and Kerberos just when `--kerberos` is one of them. -/
theorem asked_of_parse {arguments : List String} {commandLine : CommandLine}
    (accepted : parse arguments = .ok commandLine) :
    (∀ access requested, commandLine.command = .smoke access requested →
      requested = scenariosIn arguments ∧
        access.kerberos = decide ("--kerberos" ∈ arguments)) ∧
      ∀ access, commandLine.command = .authz access →
        access.kerberos = decide ("--kerberos" ∈ arguments) := by
  obtain ⟨front, uses, word, g, split, known, taken, named⟩ := given_of_parse accepted
  have silent : front.flatMap OptionUse.scenarios = [] := by
    refine List.flatMap_eq_nil_iff.2 fun use mem => OptionUse.scenarios_eq_nil fun scenario => ?_
    have known := known use mem
    rw [scenario] at known
    contradiction
  obtain ⟨scenarios, kerberos⟩ := Given.told_of_foldlM taken
  have authenticates {access : Access} (asked : commandLine.command.access? = some access) :
      access.kerberos = decide ("--kerberos" ∈ arguments) := by
    have behind : "--kerberos" ∈ arguments ↔ (.kerberos, none) ∈ uses := by
      rw [mem_kerberos_iff, split, mem_front_append_iff known (by decide)]
    obtain ⟨place, rfl⟩ := Given.eq_of_access (Given.access_of_command named asked)
    rw [kerberos, decide_eq_decide.2 behind, Bool.false_or]
  constructor
  · intro access requested command_eq
    rw [command_eq] at named
    refine ⟨?_, authenticates (by rw [command_eq]; rfl)⟩
    rw [scenarios_of_command named, scenariosIn_eq, split, List.flatMap_append, silent, scenarios]
  · intro access command_eq
    exact authenticates (by rw [command_eq]; rfl)

end CommandLine

end MetastoreProbe
