import MetastoreProbe.CommandLine.Parse

/-!
# The options in the arguments

A command line is read one argument at a time, an option may take effect only when the next one
does, and its value may stand in the argument behind it.  None of this shows in the result.
`optionsIn` lists the options as they stand in the arguments, each with its value, and the options
of an accepted command take effect in this order, one after the other (`given_of_parse`).

An option that is pending still has to take effect, and one that awaits its value is listed with
the argument that comes next (`Reading.outstanding`).  So a reading takes in what its argument
says whatever was pending before it (`Reading.Takes`), and readings can be put one after the other.
-/

namespace MetastoreProbe

namespace CommandLine

/-! ## Options as they stand in the arguments -/

/-- An option, with its value if it has one. -/
abbrev OptionUse : Type := Opt × Option String

namespace Opt

/-- The options. -/
def all : List Opt :=
  [.config, .verbose, .logFormat, .help, .version, .port, .database, .metastore, .space, .kerberos,
    .scenario]

/-- The option with a name. -/
def named? (name : String) : Option Opt := all.find? fun opt => opt.name = name

/-- The option with a letter. -/
def lettered? (letter : Char) : Option Opt := all.find? fun opt => opt.letter? = some letter

theorem named?_name (opt : Opt) : named? opt.name = some opt := by
  cases opt <;> decide

theorem lettered?_of_letter? {opt : Opt} {letter : Char} (h : opt.letter? = some letter) :
    lettered? letter = some opt := by
  cases opt <;> cases h <;> decide

end Opt

/-- The value that follows the letter of an option, an equals sign between them left out. -/
def valueBehindLetter : List Char → Option String
  | [] => none
  | '=' :: value => some (String.ofList value)
  | value => some (String.ofList value)

/-- The options that stand for letters.  One that takes a value is the last: what follows its
letter is the value, or else the next argument is. -/
def optionsOfLetters (next : Option String) : List Char → List OptionUse
  | [] => []
  | letter :: rest =>
    match Opt.lettered? letter with
    | none => []
    | some opt =>
      if opt.takesValue then [(opt, (valueBehindLetter rest).or next)]
      else (opt, none) :: optionsOfLetters next rest

/-- The options in an argument; `next` is the argument behind it. -/
def Form.options (next : Option String) : Form → List OptionUse
  | .named name value =>
    match Opt.named? name with
    | none => []
    | some opt => [(opt, if opt.takesValue then value.or next else value)]
  | .lettered letters => optionsOfLetters next letters
  | .escape | .word => []

/-- The options in the arguments, in their order. -/
def optionsIn : List String → List OptionUse
  | [] => []
  | argument :: rest => (Form.ofString argument).options rest.head? ++ optionsIn rest

example : optionsIn ["-vc=f", "smoke", "--namespace", "n", "-p0", "--kerberos"] =
    [(.verbose, none), (.config, some "f"), (.space, some "n"), (.port, some "0"),
      (.kerberos, none)] := rfl

theorem ok_of_bind {ε α β : Type} {x : Except ε α} {f : α → Except ε β} {b : β}
    (h : x >>= f = .ok b) : ∃ a, x = .ok a ∧ f a = .ok b := by
  cases x with
  | error e => cases h
  | ok a => exact ⟨a, rfl, h⟩

/-! ## Options taking effect -/

namespace Given

variable {g g' : Given} {use : OptionUse}

/-- What is given with one more option. -/
def take (g : Given) : OptionUse → Except Rejection Given
  | (opt, none) => g.flag opt
  | (opt, some value) => g.option opt value

/-- How an option adds to what is given. -/
inductive Gains (g : Given) : OptionUse → Given → Prop
  | config {path : String} (unset : g.config = none) (named : path ≠ "") :
    g.Gains (.config, some path) { g with config := some path }
  | logFormat {word : String} {f : LogFormat} (unset : g.logFormat = none)
    (read : readLogFormat word = .ok f) :
    g.Gains (.logFormat, some word) { g with logFormat := some f }
  | port {word : String} {p : UInt16} (unset : g.port = none) (read : readPort word = .ok p) :
    g.Gains (.port, some word) { g with port := some p }
  | database {name : String} (unset : g.database = none) :
    g.Gains (.database, some name) { g with database := some name }
  | metastore {name : String} (unset : g.metastore = none) :
    g.Gains (.metastore, some name) { g with metastore := some name }
  | space {name : String} (unset : g.space = none) :
    g.Gains (.space, some name) { g with space := some name }
  | scenario {word : String} {more : List Scenario} (read : readScenarios word = .ok more) :
    g.Gains (.scenario, some word) { g with scenarios := g.scenarios ++ more }
  | verbose : g.Gains (.verbose, none) { g with verbosity := min (g.verbosity + 1) maxVerbosity }
  | kerberos (plain : g.kerberos = false) : g.Gains (.kerberos, none) { g with kerberos := true }

theorem once_eq_ok {α β : Type} {current : Option α} {read : Except Rejection α} {set : α → β}
    {b : β} (h : once current read set = .ok b) :
    current = none ∧ ∃ a, read = .ok a ∧ b = set a := by
  unfold once at h
  cases current with
  | some _ => cases h
  | none =>
    cases read with
    | error e => cases h
    | ok a =>
      cases h
      exact ⟨rfl, a, rfl, rfl⟩

theorem gains_of_option {opt : Opt} {value : String} (h : g.option opt value = .ok g') :
    g.Gains (opt, some value) g' := by
  cases opt with
  | config =>
    obtain ⟨unset, path, read, rfl⟩ := once_eq_ok h
    split at read
    next => cases read
    next named =>
      cases read
      exact .config unset (by simpa using named)
  | logFormat =>
    obtain ⟨unset, f, read, rfl⟩ := once_eq_ok h
    exact .logFormat unset read
  | port =>
    obtain ⟨unset, p, read, rfl⟩ := once_eq_ok h
    exact .port unset read
  | database =>
    obtain ⟨unset, name, ⟨⟩, rfl⟩ := once_eq_ok h
    exact .database unset
  | metastore =>
    obtain ⟨unset, name, ⟨⟩, rfl⟩ := once_eq_ok h
    exact .metastore unset
  | space =>
    obtain ⟨unset, name, ⟨⟩, rfl⟩ := once_eq_ok h
    exact .space unset
  | scenario =>
    unfold option at h
    cases read : readScenarios value with
    | error e =>
      rw [read] at h
      cases h
    | ok more =>
      rw [read] at h
      cases h
      exact .scenario read
  | verbose | kerberos | help | version => cases h

theorem gains_of_flag {opt : Opt} (h : g.flag opt = .ok g') : g.Gains (opt, none) g' := by
  cases opt with
  | verbose =>
    cases h
    exact .verbose
  | kerberos =>
    unfold flag at h
    by_cases again : g.kerberos = true
    · rw [if_pos again] at h
      cases h
    · rw [if_neg again] at h
      cases h
      exact .kerberos (by simpa using again)
  | config | logFormat | port | database | metastore | space | scenario | help | version => cases h

/-- An option takes effect in one of these ways. -/
theorem gains_of_take (h : g.take use = .ok g') : g.Gains use g' := by
  obtain ⟨opt, _ | value⟩ := use
  · exact gains_of_flag h
  · exact gains_of_option h

end Given

/-! ## What a part of the command line knows -/

namespace Part

variable {part : Part} {opt : Opt}

theorem named?_eq_some {name : String} (found : part.named? name = some opt) :
    Opt.named? name = some opt ∧ opt ∈ part.options := by
  have named := List.find?_some found
  simp only [decide_eq_true_eq] at named
  exact ⟨named ▸ opt.named?_name, List.mem_of_find?_eq_some found⟩

theorem lettered?_eq_some {letter : Char} (found : part.lettered? letter = some opt) :
    Opt.lettered? letter = some opt ∧ opt ∈ part.options := by
  have lettered := List.find?_some found
  simp only [decide_eq_true_eq] at lettered
  exact ⟨Opt.lettered?_of_letter? lettered, List.mem_of_find?_eq_some found⟩

end Part

/-! ## Reading argument by argument -/

namespace Reading

variable {part : Part} {r r' r'' : Reading} {opt : Opt} {before middle next : Option String}
  {uses uses' : List OptionUse}

/-- The option that is still to take effect; `next` is the argument that comes next, in which its
value can be. -/
def outstanding (r : Reading) (next : Option String) : List OptionUse :=
  match r.pending with
  | none => []
  | some (opt, value) => [(opt, value.or next)]

/-- Reading on from `r`, where `before` comes next, to `r'`, where `next` does, takes in these
options: they are known, and together with what was outstanding they have taken effect up to what
is outstanding now. -/
structure Takes (part : Part) (r : Reading) (before : Option String) (uses : List OptionUse)
    (r' : Reading) (next : Option String) : Prop where
  known : ∀ use ∈ uses, use.1 ∈ part.options
  taken : ∃ done, r.outstanding before ++ uses = done ++ r'.outstanding next ∧
    done.foldlM Given.take r.given = .ok r'.given

theorem Takes.trans (h : Takes part r before uses r' middle)
    (h' : Takes part r' middle uses' r'' next) :
    Takes part r before (uses ++ uses') r'' next where
  known := by
    intro use mem
    exact (List.mem_append.1 mem).elim (h.known use) (h'.known use)
  taken := by
    obtain ⟨done, split, taken⟩ := h.taken
    obtain ⟨done', split', taken'⟩ := h'.taken
    refine ⟨done ++ done', ?_, ?_⟩
    · rw [← List.append_assoc, split, List.append_assoc, split', List.append_assoc]
    · rw [List.foldlM_append, taken]
      exact taken'

/-- Settling a reading lets what is outstanding take effect. -/
theorem foldlM_outstanding {g : Given} (h : r.settle = .ok g) (next : Option String) :
    (r.outstanding next).foldlM Given.take r.given = .ok g := by
  unfold settle at h
  unfold outstanding
  split at h
  next none =>
    rw [none]
    exact h
  next => cases h
  next opt value pending =>
    rw [pending]
    simpa [Given.take] using h

theorem takes_of_take {use : OptionUse} {given given' : Given} (known : use.1 ∈ part.options)
    (settled : r.settle = .ok given) (taken : given.take use = .ok given') :
    Takes part r before [use] { given := given' } next := by
  refine ⟨by simpa using known, _, (List.append_nil _).symm, ?_⟩
  rw [List.foldlM_append, foldlM_outstanding settled]
  change given.take use >>= pure = _
  rw [taken]
  rfl

theorem takes_of_flag (known : opt ∈ part.options) (h : r.flag opt = .ok r') :
    Takes part r before [(opt, none)] r' next := by
  obtain ⟨given, settled, h⟩ := ok_of_bind h
  obtain ⟨given', flagged, h⟩ := ok_of_bind h
  cases h
  exact takes_of_take known settled flagged

theorem takes_of_option (known : opt ∈ part.options) {value : String}
    (h : r.option opt value = .ok r') :
    Takes part r before [(opt, some value)] r' next := by
  obtain ⟨given, settled, h⟩ := ok_of_bind h
  obtain ⟨given', taken, h⟩ := ok_of_bind h
  cases h
  exact takes_of_take known settled taken

theorem takes_of_await (known : opt ∈ part.options) (h : r.await opt = .ok r') :
    Takes part r before [(opt, next)] r' next := by
  obtain ⟨given, settled, h⟩ := ok_of_bind h
  cases h
  exact ⟨by simpa using known, _, rfl, foldlM_outstanding settled before⟩

theorem takes_of_named {name : String} {value : Option String}
    (h : r.named part name value = .ok r') :
    Takes part r before ((Form.named name value).options next) r' next := by
  unfold named at h
  cases found : part.named? name with
  | none =>
    rw [found] at h
    cases h
  | some opt =>
    rw [found] at h
    dsimp only at h
    obtain ⟨named, known⟩ := Part.named?_eq_some found
    simp only [Form.options, named]
    match takes : opt.takesValue, value with
    | true, some value =>
      rw [takes] at h
      exact takes_of_option known h
    | true, none =>
      rw [takes] at h
      exact takes_of_await known h
    | false, some value =>
      rw [takes] at h
      cases h
    | false, none =>
      rw [takes] at h
      exact takes_of_flag known h

theorem valueBehindLetter_of_unsigned {rest : List Char} (more : rest ≠ [])
    (unsigned : ∀ value, rest ≠ '=' :: value) :
    valueBehindLetter rest = some (String.ofList rest) := by
  unfold valueBehindLetter
  split
  next => exact absurd rfl more
  next => exact absurd rfl (unsigned _)
  next => rfl

theorem takes_of_lettered {letters : List Char} (settled : letters = [] → r.pending = none)
    (h : lettered part letters r = .ok r') :
    Takes part r before (optionsOfLetters next letters) r' next := by
  induction letters generalizing r before with
  | nil =>
    cases h
    refine ⟨nofun, [], ?_, rfl⟩
    unfold outstanding
    rw [settled rfl]
    rfl
  | cons letter rest ih =>
    unfold lettered at h
    cases found : part.lettered? letter with
    | none =>
      rw [found] at h
      cases h
    | some opt =>
      rw [found] at h
      obtain ⟨lettered, known⟩ := Part.lettered?_eq_some found
      dsimp only at h
      simp only [optionsOfLetters, lettered]
      by_cases takes : opt.takesValue = true
      · rw [if_pos takes] at h ⊢
        split at h
        next => exact takes_of_await known h
        next => exact takes_of_option known h
        next signed unsigned =>
          rw [valueBehindLetter_of_unsigned signed unsigned]
          exact takes_of_option known h
      · rw [if_neg takes] at h ⊢
        obtain ⟨middle, flagged, h⟩ := ok_of_bind h
        have nothing : middle.pending = none := by
          obtain ⟨_, -, flagged⟩ := ok_of_bind flagged
          obtain ⟨_, -, flagged⟩ := ok_of_bind flagged
          cases flagged
          rfl
        have first : Takes part r before [(opt, none)] middle next := takes_of_flag known flagged
        exact first.trans (ih (fun _ => nothing) h)

theorem takes_of_word {word : String} (h : r.word part word = .ok r') :
    Takes part r (some word) [] r' next := by
  unfold Reading.word at h
  split at h
  next opt awaiting =>
    cases h
    unfold awaiting? at awaiting
    split at awaiting
    next pending =>
      cases awaiting
      refine ⟨nofun, [], ?_, rfl⟩
      unfold outstanding
      rw [pending]
      rfl
    next => cases awaiting
    next => cases awaiting
  next => cases h
  next => cases h

theorem letters_ne_nil {argument : String} {letters : List Char}
    (form : Form.ofString argument = .lettered letters) : letters ≠ [] := by
  unfold Form.ofString at form
  split at form
  next => cases form
  next =>
    split at form
    next => cases form
    next => cases form
  next =>
    cases form
    exact List.cons_ne_nil _ _
  next => cases form

/-- **A step takes in the options of its argument**, whatever is pending. -/
theorem takes_of_step {argument : String} (h : r.step part argument = .ok r') :
    Takes part r (some argument) ((Form.ofString argument).options next) r' next := by
  unfold step at h
  cases form : Form.ofString argument with
  | named name value =>
    rw [form] at h
    exact takes_of_named h
  | lettered letters =>
    rw [form] at h
    exact takes_of_lettered (fun nil => absurd nil (letters_ne_nil form)) h
  | word | escape =>
    rw [form] at h
    exact takes_of_word h

end Reading

/-! ## The arguments of a part -/

/-- How the reading of a part goes on behind an argument. -/
theorem readPart_cons {part : Part} {argument : String} {rest : List String} {r : Reading}
    {out : Reading × Option (Word × List String)}
    (h : readPart part (argument :: rest) r = .ok out) :
    (∃ word, part.word? argument = some word ∧ out = (r, some (word, rest))) ∨
      (Form.ofString argument = .escape ∧ rest = [] ∧ out = (r, none)) ∨
      ∃ r', r.step part argument = .ok r' ∧ readPart part rest r' = .ok out := by
  unfold readPart at h
  split at h
  next word _ found =>
    cases h
    exact .inl ⟨word, found, rfl⟩
  next =>
    by_cases escape : Form.ofString argument = .escape
    · rw [if_pos escape] at h
      cases rest with
      | cons stray _ => cases h
      | nil =>
        cases h
        exact .inr (.inl ⟨escape, rfl, rfl⟩)
    · rw [if_neg escape] at h
      exact .inr (.inr (ok_of_bind h))

theorem form_of_word? {part : Part} {argument : String} {word : Word}
    (found : part.word? argument = some word) : Form.ofString argument = .word := by
  cases part with
  | after _ => cases found
  | front =>
    change Word.ofString? argument = some word at found
    have spelled := List.find?_some found
    simp only [decide_eq_true_eq] at spelled
    subst spelled
    cases word <;> rfl

/-- **The options of a part take effect one after the other**, those that were outstanding first;
the part ends in front of the arguments that are left. -/
theorem options_of_readPart {part : Part} {arguments : List String} {r r' : Reading}
    {found : Option (Word × List String)} {g : Given}
    (h : readPart part arguments r = .ok (r', found)) (settled : r'.settle = .ok g)
    (known : ∀ use ∈ r.outstanding arguments.head?, use.1 ∈ part.options) :
    ∃ uses, r.outstanding arguments.head? ++ optionsIn arguments =
        uses ++ optionsIn (found.elim [] (·.2)) ∧
      (∀ use ∈ uses, use.1 ∈ part.options) ∧ uses.foldlM Given.take r.given = .ok g := by
  induction arguments generalizing r with
  | nil =>
    cases h
    exact ⟨_, rfl, known, Reading.foldlM_outstanding settled none⟩
  | cons argument rest ih =>
    obtain ⟨word, command, ended⟩ | ⟨escape, rfl, ended⟩ | ⟨middle, step, more⟩ := readPart_cons h
    · cases ended
      refine ⟨_, ?_, known, Reading.foldlM_outstanding settled (some argument)⟩
      rw [optionsIn, form_of_word? command]
      rfl
    · cases ended
      refine ⟨_, ?_, known, Reading.foldlM_outstanding settled (some argument)⟩
      rw [optionsIn, escape]
      rfl
    · have takes : Reading.Takes part r (some argument)
          ((Form.ofString argument).options rest.head?) middle rest.head? :=
        Reading.takes_of_step step
      obtain ⟨done, split, taken⟩ := takes.taken
      have known' : ∀ use ∈ done ++ middle.outstanding rest.head?, use.1 ∈ part.options := by
        intro use mem
        rw [← split] at mem
        exact (List.mem_append.1 mem).elim (known use) (takes.known use)
      obtain ⟨uses, split', knownRest, taken'⟩ :=
        ih more fun use mem => known' use (List.mem_append_right _ mem)
      refine ⟨done ++ uses, ?_, ?_, ?_⟩
      · rw [optionsIn, List.head?_cons, ← List.append_assoc, split, List.append_assoc, split',
          List.append_assoc]
      · intro use mem
        exact (List.mem_append.1 mem).elim (fun mem => known' use (List.mem_append_left _ mem))
          (knownRest use)
      · rw [List.foldlM_append, taken]
        exact taken'

/-- Behind a command word there is no other. -/
theorem found_of_readPart_after {word : Word} {arguments : List String} {r : Reading}
    {out : Reading × Option (Word × List String)}
    (h : readPart (.after word) arguments r = .ok out) : out.2 = none := by
  induction arguments generalizing r with
  | nil =>
    cases h
    rfl
  | cons argument rest ih =>
    obtain ⟨_, command, -⟩ | ⟨-, -, rfl⟩ | ⟨_, -, more⟩ := readPart_cons h
    · cases command
    · rfl
    · exact ih more

/-! ## The command -/

end CommandLine

/-- What a command says about the metastore to check. -/
def Command.access? : Command → Option Access
  | smoke access _ => some access
  | authz access => some access
  | validate => none

namespace CommandLine

theorem Given.eq_of_access {g : Given} {access : Access} (h : g.access = .ok access) :
    ∃ place,
      access = { place, port := g.port, database := g.database, kerberos := g.kerberos } := by
  obtain ⟨place, -, h⟩ := ok_of_bind h
  cases h
  exact ⟨place, rfl⟩

/-- What a command says about the metastore is what is given. -/
theorem Given.access_of_command {g : Given} {word : Word} {command : Command} {access : Access}
    (named : g.command word = .ok command) (asked : command.access? = some access) :
    g.access = .ok access := by
  cases word with
  | smoke | authz =>
    obtain ⟨found, given, h⟩ := ok_of_bind named
    cases h
    cases asked
    exact given
  | validate =>
    cases named
    cases asked
  | help => cases named

/-! ## The command line -/

/-- **What an accepted command line gives.**  In front of the command word there are only options
that are known there.  Those behind it take effect one after the other, and the command is made of
what they give. -/
theorem given_of_parse {arguments : List String} {commandLine : CommandLine}
    (accepted : parse arguments = .ok commandLine) :
    ∃ front uses word g, optionsIn arguments = front ++ uses ∧
      (∀ use ∈ front, use.1 ∈ Part.front.options) ∧ uses.foldlM Given.take {} = .ok g ∧
      g.command word = .ok commandLine.command := by
  obtain ⟨⟨reading, found⟩, readFront, h⟩ := ok_of_bind accepted
  match found with
  | none =>
    obtain ⟨_, -, h⟩ := ok_of_bind h
    cases h
  | some (word, rest) =>
    have read : ∃ before g, reading.settle = .ok before ∧
        readCommand word rest = .ok (commandLine.command, g) := by
      cases word with
      | help => cases h
      | smoke | authz | validate =>
        obtain ⟨⟨command, g⟩, read, h⟩ := ok_of_bind h
        obtain ⟨before, settled, h⟩ := ok_of_bind h
        cases h
        exact ⟨before, g, settled, read⟩
    obtain ⟨before, g, settledFront, read⟩ := read
    obtain ⟨⟨reading', found⟩, readRest, read⟩ := ok_of_bind read
    obtain ⟨given, settled, read⟩ := ok_of_bind read
    obtain ⟨command, named, read⟩ := ok_of_bind read
    cases read
    cases found_of_readPart_after readRest
    obtain ⟨front, split, known, -⟩ := options_of_readPart readFront settledFront nofun
    obtain ⟨uses, split', -, taken⟩ := options_of_readPart readRest settled nofun
    change optionsIn rest = uses ++ [] at split'
    rw [List.append_nil] at split'
    exact ⟨front, uses, word, g, split.trans (congrArg (front ++ ·) split'), known, taken, named⟩

/-- An option that is not known in front of the command word stands behind it. -/
theorem mem_front_append_iff {front uses : List OptionUse}
    (known : ∀ use ∈ front, use.1 ∈ Part.front.options) {opt : Opt}
    (other : opt ∉ Part.front.options) {value : Option String} :
    (opt, value) ∈ front ++ uses ↔ (opt, value) ∈ uses := by
  rw [List.mem_append]
  exact or_iff_right fun mem => other (known _ mem)

end CommandLine

end MetastoreProbe
