import Speedup.CommandLine.Parser
import Speedup.Proofs.Files.Resolution
import Speedup.Proofs.ObservationTable.Acceptance

/-!
# Names on the command line

A baseline and the keys of metrics have to be words. An argument can only add values of the right
kind to what is said (`Keeps`), so whatever a command line is read as, its names are words
(`isWord_of_read`); and one more name at its end is taken as it stands if it is a word, and refused
otherwise (`read_append`). A word may have blanks around it. The names of executables in tables
never have (`namesExe_iff`), so a name with blanks is accepted and then found in no table at all
(`takesName`).
-/

namespace Speedup

namespace CommandLine

variable {c : CommandName} {d d' e : Draft} {slot : Slot} {text : String}

/-! ## What one argument does -/

namespace Draft

theorem put_eq_ok_iff : d.put slot text = .ok d' ↔ (slot.isList = true ∨ d.has slot = false) ∧
    slot.kind.check text = .ok () ∧ d' = { d with filled := (slot, text) :: d.filled } := by
  unfold put
  cases slot.isList <;> cases d.has slot <;> cases slot.kind.check text <;>
    simp [bind, Except.bind, pure, Except.pure, throw, throwThe, MonadExceptOf.throw, eq_comm]

/-- What may happen to a draft: values of the right kind are filled in, and options stay options. -/
structure Keeps (d d' : Draft) : Prop where
  escaped : d'.escaped = d.escaped
  filled : ∀ p ∈ d'.filled, p ∈ d.filled ∨ p.1.kind.check p.2 = .ok ()

theorem Keeps.trans (first : Keeps d d') (later : Keeps d' e) : Keeps d e where
  escaped := later.escaped.trans first.escaped
  filled p hp := (later.filled p hp).elim (first.filled p) .inr

theorem keeps_of_eq (escaped : d'.escaped = d.escaped) (filled : d'.filled = d.filled) :
    Keeps d d' := ⟨escaped, fun _ hp => .inl (filled ▸ hp)⟩

theorem keeps_put (h : d.put slot text = .ok d') : Keeps d d' := by
  obtain ⟨_, checked, rfl⟩ := put_eq_ok_iff.mp h
  refine ⟨rfl, fun p hp => ?_⟩
  rcases List.mem_cons.mp hp with rfl | before
  · exact .inr checked
  · exact .inl before

theorem keeps_settle (h : d.settle = .ok d') : Keeps d d' := by
  unfold settle at h
  dsimp only at h
  split at h
  · cases h
    exact keeps_of_eq rfl rfl
  · cases h
  · have opened : Keeps d { d with pending := none, waiting := false } := keeps_of_eq rfl rfl
    exact opened.trans (keeps_put h)

theorem keeps_takeFlag (h : d.takeFlag slot = .ok d') : Keeps d d' := by
  obtain ⟨settled, hs, h⟩ := Files.bind_eq_ok_iff.mp h
  split at h
  · cases h
  · exact (keeps_settle hs).trans (keeps_put h)

theorem keeps_takeOption {attached : Option String} (h : d.takeOption slot attached = .ok d') :
    Keeps d d' := by
  obtain ⟨settled, hs, h⟩ := Files.bind_eq_ok_iff.mp h
  refine (keeps_settle hs).trans ?_
  cases attached with
  | some value => exact keeps_put h
  | none =>
      cases h
      exact keeps_of_eq rfl rfl

theorem keeps_takeFree (h : d.takeFree c text = .ok d') : Keeps d d' := by
  unfold takeFree at h
  split at h
  · obtain ⟨settled, hs, ⟨rfl⟩⟩ := Files.bind_eq_ok_iff.mp h
    exact (keeps_settle hs).trans (keeps_of_eq rfl rfl)
  · cases h

theorem keeps_takeLong {name : String} {attached : Option String}
    (h : d.takeLong c name attached = .ok d') : Keeps d d' := by
  unfold takeLong at h
  split at h
  · cases h
  · split at h
    · exact keeps_takeOption h
    · split at h
      · cases h
      · exact keeps_takeFlag h

theorem keeps_takeLetters {letters : List Char} (h : d.takeLetters c letters = .ok d') :
    Keeps d d' := by
  induction letters generalizing d with
  | nil =>
      cases h
      exact keeps_of_eq rfl rfl
  | cons letter rest ih =>
      unfold takeLetters at h
      split at h
      · cases h
      · split at h
        · exact keeps_takeOption h
        · obtain ⟨flagged, hf, h⟩ := Files.bind_eq_ok_iff.mp h
          exact (keeps_takeFlag hf).trans (ih h)

theorem ofText_eq_escape (h : Token.ofText text = .escape) : text = "--" := by
  unfold Token.ofText at h
  split at h
  next chars => rw [← String.ofList_toList (s := text), chars]
  next => split at h <;> cases h
  next => cases h
  next => cases h

/-- An argument keeps what is there, or it ends the options. -/
theorem keeps_take (h : d.take c text = .ok d') :
    Keeps d d' ∨ text = "--" ∧ d' = { d with escaped := true } := by
  unfold take at h
  split at h
  · exact .inl (keeps_takeFree h)
  · split at h
    next dashes =>
      cases h
      exact .inr ⟨ofText_eq_escape dashes, rfl⟩
    next => exact .inl (keeps_takeLong h)
    next => exact .inl (keeps_takeLetters h)
    next =>
      split at h
      · cases h
        exact .inl (keeps_of_eq rfl rfl)
      · exact .inl (keeps_takeFree h)

/-- Every value that is filled in by some arguments is of its kind. -/
theorem checked_foldlM {args : List String} (h : args.foldlM (take c) d = .ok d') :
    ∀ p ∈ d'.filled, p ∈ d.filled ∨ p.1.kind.check p.2 = .ok () := by
  induction args generalizing d with
  | nil =>
      cases h
      exact fun _ hp => .inl hp
  | cons arg args ih =>
      rw [List.foldlM_cons, Files.bind_eq_ok_iff] at h
      obtain ⟨taken, ht, h⟩ := h
      intro p hp
      rcases ih h p hp with there | checked
      · rcases keeps_take ht with keeps | ⟨_, rfl⟩
        · exact keeps.filled p there
        · exact .inl there
      · exact .inr checked

/-- Without two dashes among the arguments, options stay options. -/
theorem escaped_foldlM {args : List String} (h : args.foldlM (take c) d = .ok d')
    (options : "--" ∉ args) : d'.escaped = d.escaped := by
  induction args generalizing d with
  | nil =>
      cases h
      rfl
  | cons arg args ih =>
      rw [List.foldlM_cons, Files.bind_eq_ok_iff] at h
      obtain ⟨taken, ht, h⟩ := h
      rw [List.mem_cons, not_or] at options
      rcases keeps_take ht with keeps | ⟨dashes, _⟩
      · exact (ih h options.2).trans keeps.escaped
      · exact absurd dashes.symm options.1

/-! ## A value at the end -/

theorem settle_eq_self (checked : d.pending = none) (ready : d.waiting = false) :
    d.settle = .ok d := by
  obtain ⟨filled, pending, waiting, inputGiven, escaped⟩ := d
  cases checked
  cases ready
  rfl

theorem settled_of_settle (h : d.settle = .ok d') :
    d'.pending = none ∧ d'.waiting = false := by
  unfold settle at h
  dsimp only at h
  split at h
  · cases h
    exact ⟨rfl, rfl⟩
  · cases h
  · obtain ⟨_, _, rfl⟩ := put_eq_ok_iff.mp h
    exact ⟨rfl, rfl⟩

theorem settle_put (checked : d.pending = none) (ready : d.waiting = false) :
    (d.put slot text >>= settle) = d.put slot text := by
  cases h : d.put slot text with
  | error e => rfl
  | ok filled =>
      obtain ⟨_, _, rfl⟩ := put_eq_ok_iff.mp h
      exact settle_eq_self checked ready

end Draft

/-- An argument names a slot, perhaps with a value that is attached to it. -/
inductive Opens (c : CommandName) (slot : Slot) (attached : Option String) (arg : String) : Prop
  | long (name : String) : Token.ofText arg = .long name attached → c.long? name = some slot →
      Opens c slot attached arg
  | letter (letter : Char) (rest : List Char) : Token.ofText arg = .letters (letter :: rest) →
      c.short? letter = some slot → Draft.attachedTo rest = attached → Opens c slot attached arg

/-- Arguments that give a text to a slot: it is attached to the option or follows it. A text that
itself looks like an option has to be attached. -/
inductive Gives (c : CommandName) (slot : Slot) (text : String) : List String → Prop
  | attached {arg} : Opens c slot (some text) arg → Gives c slot text [arg]
  | apart {arg} : Opens c slot none arg → Token.ofText text = .plain text →
      Gives c slot text [arg, text]

namespace Draft

theorem take_of_opens {attached : Option String} {arg : String} (opens : Opens c slot attached arg)
    (value : slot.takesValue = true) (options : d.escaped = false) :
    d.take c arg = d.takeOption slot attached := by
  unfold take
  rw [options, if_neg Bool.false_ne_true]
  cases opens with
  | long name token found =>
      rw [token]
      simp only [takeLong, found, value, if_true]
  | letter letter rest token found behind =>
      rw [token]
      simp only [takeLetters, found, value, if_true, behind]

/-- Whichever way a text is given to a slot, it is filled in after all that was said before. -/
theorem settle_foldlM_of_gives {args : List String} (gives : Gives c slot text args)
    (value : slot.takesValue = true) (options : d.escaped = false) (h : d.settle = .ok e) :
    (args.foldlM (take c) d >>= settle) = e.put slot text := by
  obtain ⟨checked, ready⟩ := settled_of_settle h
  cases gives with
  | attached opens =>
      simp only [List.foldlM_cons, List.foldlM_nil, bind_pure,
        take_of_opens opens value options, takeOption, h]
      exact settle_put checked ready
  | apart opens plain =>
      have unescaped : e.escaped = false := (keeps_settle h).escaped.trans options
      have waits : take c { e with pending := some (slot, none), waiting := true } text =
          .ok { e with pending := some (slot, some text), waiting := false } := by
        unfold take
        dsimp only
        rw [unescaped, if_neg Bool.false_ne_true, plain]
        rfl
      have blank : ({ e with pending := none, waiting := false } : Draft) = e := by
        rw [← checked, ← ready]
      simp only [List.foldlM_cons, List.foldlM_nil, bind_pure,
        take_of_opens opens value options, takeOption, h]
      show (take c _ text >>= settle) = _
      rw [waits]
      show ({ e with pending := none, waiting := false } : Draft).put slot text = _
      rw [blank]

end Draft

/-! ## What a command is made of -/

namespace Command

def input? : Command → Option Input
  | .summary input _ => some input
  | .compare input _ _ => some input
  | .report input _ _ => some input
  | .config => none

def baseline? (command : Command) : Option String := command.input?.bind (·.baseline)

def metrics : Command → List String
  | .summary _ metrics => metrics
  | .compare _ metrics _ => metrics
  | _ => []

def name : Command → CommandName
  | .summary .. => .summary
  | .compare .. => .compare
  | .report .. => .report
  | .config => .config

/-- The command with one more text given to a slot. -/
def give (slot : Slot) (text : String) (command : Command) : Command :=
  match slot, command with
  | .baseline, .summary input metrics => .summary { input with baseline := some text } metrics
  | .baseline, .compare input metrics output =>
    .compare { input with baseline := some text } metrics output
  | .baseline, .report input folder environments =>
    .report { input with baseline := some text } folder environments
  | .metric, .summary input metrics => .summary input (metrics ++ [text])
  | .metric, .compare input metrics output => .compare input (metrics ++ [text]) output
  | _, command => command

/-- The texts of a command that have to be words. -/
def names (command : Command) : List String := command.baseline?.toList ++ command.metrics

end Command

namespace Draft

variable {command : Command}

theorem mem_values_iff : text ∈ d.values slot ↔ (slot, text) ∈ d.filled := by
  simp only [values, List.mem_map, List.mem_reverse, List.mem_filter, beq_iff_eq]
  constructor
  · rintro ⟨⟨s, t⟩, ⟨mem, rfl⟩, rfl⟩
    exact mem
  · exact fun mem => ⟨(slot, text), ⟨mem, rfl⟩, rfl⟩

theorem has_eq_false_iff : d.has slot = false ↔ d.values slot = [] := by
  simp [has, values, List.filter_eq_nil_iff]

theorem values_cons (d : Draft) (s : Slot) (text : String) (slot : Slot) :
    ({ d with filled := (s, text) :: d.filled } : Draft).values slot =
      if s = slot then d.values slot ++ [text] else d.values slot := by
  unfold values
  by_cases same : s = slot <;> simp [same]

theorem input?_eq_ok_iff {input : Input} : d.input? = .ok input ↔
    ∃ path, (d.values .input).head? = some path ∧
      input = ⟨path, (d.values .baseline).head?, d.values .excludedSuite, d.values .bench,
        d.values .exe⟩ := by
  unfold input?
  cases (d.values .input).head? <;> simp [eq_comm]

def assemble (c : CommandName) (d : Draft) (input : Input) : Command :=
  match c with
  | .summary => .summary input (d.values .metric)
  | .compare => .compare input (d.values .metric) ((d.values .output).head?.getD "-")
  | .report => .report input (d.values .folder).head? (!d.has .noEnvironments)
  | .config => .config

theorem command_eq_ok_iff (work : c ≠ .config) :
    d.command c = .ok command ↔ ∃ input, d.input? = .ok input ∧ d.assemble c input = command := by
  cases c with
  | summary => exact Files.bind_eq_ok_iff.trans (by simp [assemble, pure, Except.pure])
  | compare => exact Files.bind_eq_ok_iff.trans (by simp [assemble, pure, Except.pure])
  | report => exact Files.bind_eq_ok_iff.trans (by simp [assemble, pure, Except.pure])
  | config => exact absurd rfl work

theorem name_command (h : d.command c = .ok command) : command.name = c := by
  by_cases work : c = .config
  · subst work
    cases h
    rfl
  · obtain ⟨input, _, rfl⟩ := (command_eq_ok_iff work).mp h
    cases c <;> rfl

theorem baseline?_command (work : c ≠ .config) (h : d.command c = .ok command) :
    command.baseline? = (d.values .baseline).head? := by
  obtain ⟨input, hi, rfl⟩ := (command_eq_ok_iff work).mp h
  obtain ⟨path, _, rfl⟩ := input?_eq_ok_iff.mp hi
  cases c with
  | config => exact absurd rfl work
  | _ => rfl

theorem filled_of_mem_names (h : d.command c = .ok command) (mem : text ∈ command.names) :
    (Slot.baseline, text) ∈ d.filled ∨ (Slot.metric, text) ∈ d.filled := by
  by_cases work : c = .config
  · subst work
    cases h
    cases mem
  · rcases List.mem_append.mp mem with baseline | metric
    · rw [baseline?_command work h, Option.mem_toList] at baseline
      exact .inl (mem_values_iff.mp (List.mem_of_mem_head? baseline))
    · obtain ⟨input, _, rfl⟩ := (command_eq_ok_iff work).mp h
      have listed : text ∈ d.values .metric := by
        cases c with
        | summary => exact metric
        | compare => exact metric
        | _ => cases metric
      exact .inr (mem_values_iff.mp listed)

theorem command_cons_metric (h : d.command c = .ok command) (text : String) :
    ({ d with filled := (.metric, text) :: d.filled } : Draft).command c =
      .ok (command.give .metric text) := by
  by_cases work : c = .config
  · subst work
    cases h
    rfl
  · obtain ⟨input, hi, rfl⟩ := (command_eq_ok_iff work).mp h
    refine (command_eq_ok_iff work).mpr ⟨input, ?_, ?_⟩
    · rw [← hi]
      simp [input?, values_cons]
    · cases c <;> simp [assemble, Command.give, values_cons, has]

theorem command_cons_baseline (h : d.command c = .ok command) (none : d.values .baseline = [])
    (text : String) : ({ d with filled := (.baseline, text) :: d.filled } : Draft).command c =
      .ok (command.give .baseline text) := by
  by_cases work : c = .config
  · subst work
    cases h
    rfl
  · obtain ⟨input, hi, rfl⟩ := (command_eq_ok_iff work).mp h
    obtain ⟨path, hp, rfl⟩ := input?_eq_ok_iff.mp hi
    refine (command_eq_ok_iff work).mpr ⟨_, input?_eq_ok_iff.mpr ⟨path, ?_, rfl⟩, ?_⟩
    · rw [values_cons]
      exact hp
    · cases c <;> simp [assemble, Command.give, values_cons, has, none]

theorem put_word (word : slot.kind = .word) (room : slot.isList = true ∨ d.has slot = false) :
    d.put slot text = if isWord text then .ok { d with filled := (slot, text) :: d.filled }
      else .error .valueValidation := by
  have no_conflict : (!slot.isList && d.has slot) = false := by
    rcases room with list | new
    · rw [list]
      rfl
    · rw [new, Bool.and_false]
  unfold put
  rw [no_conflict, word, ValueKind.check]
  cases isWord text <;> rfl

end Draft

/-! ## What is read -/

variable {command : Command} {args more : List String} {i : Invocation}

theorem isWord_of_readCommand (h : readCommand c args = .ok command) :
    ∀ text ∈ command.names, isWord text = true := by
  obtain ⟨d, hd, h⟩ := Files.bind_eq_ok_iff.mp h
  obtain ⟨e, he, h⟩ := Files.bind_eq_ok_iff.mp h
  have checked : ∀ p ∈ e.filled, p.1.kind.check p.2 = .ok () := by
    intro p hp
    rcases (Draft.keeps_settle he).filled p hp with before | checked
    · exact (Draft.checked_foldlM hd p before).resolve_left nofun
    · exact checked
  have word {slot : Slot} {text : String} (kind : slot.kind = .word)
      (mem : (slot, text) ∈ e.filled) : isWord text = true := by
    have ok := checked _ mem
    dsimp only at ok
    rw [kind, ValueKind.check] at ok
    by_contra other
    rw [if_neg other] at ok
    cases ok
  intro text mem
  rcases Draft.filled_of_mem_names h mem with mem | mem
  · exact word rfl mem
  · exact word rfl mem

theorem name_of_readCommand (h : readCommand c args = .ok command) : command.name = c := by
  obtain ⟨d, hd, h⟩ := Files.bind_eq_ok_iff.mp h
  obtain ⟨e, he, h⟩ := Files.bind_eq_ok_iff.mp h
  exact Draft.name_command h

/-- A slot that takes one more word. -/
def Open (command : Command) (slot : Slot) : Prop :=
  slot = .baseline ∧ command.baseline? = none ∨ slot = .metric

theorem not_gives_config (word : slot.kind = .word) : ¬ Gives .config slot text args := by
  have only_help {o : OptionName} (listed : o ∈ CommandName.options .config)
      (same : o.slot = slot) : False := by
    cases List.mem_singleton.mp listed
    cases same
    cases word
  have no_option {attached : Option String} {arg : String} :
      ¬ Opens .config slot attached arg := by
    rintro (⟨name, _, found⟩ | ⟨letter, rest, _, found, _⟩)
    · obtain ⟨o, ho, same⟩ := Option.map_eq_some_iff.mp found
      exact only_help (List.mem_of_find?_eq_some ho) same
    · obtain ⟨o, ho, same⟩ := Option.map_eq_some_iff.mp found
      exact only_help (List.mem_of_find?_eq_some ho) same
  rintro (opens | ⟨opens, _⟩)
  · exact no_option opens
  · exact no_option opens

/-- With a baseline or a metric at its end, a command is what it was and has this text if it is a
word, and is refused otherwise. -/
theorem readCommand_append (h : readCommand c args = .ok command) (options : "--" ∉ args)
    (gives : Gives c slot text more) (room : Open command slot) :
    readCommand c (args ++ more) =
      if isWord text then .ok (command.give slot text) else .error .valueValidation := by
  obtain ⟨d, hd, h⟩ := Files.bind_eq_ok_iff.mp h
  obtain ⟨e, he, h⟩ := Files.bind_eq_ok_iff.mp h
  have unescaped : d.escaped = false := Draft.escaped_foldlM hd options
  have filled : readCommand c (args ++ more) = (e.put slot text >>= fun e => e.command c) := by
    have value : slot.takesValue = true := by
      rcases room with ⟨rfl, _⟩ | rfl
      · rfl
      · rfl
    rw [← Draft.settle_foldlM_of_gives gives value unescaped he]
    unfold readCommand
    rw [List.foldlM_append, hd]
    simp only [bind_assoc]
    rfl
  rw [filled]
  rcases room with ⟨rfl, none⟩ | rfl
  · have work : c ≠ .config := by
      rintro rfl
      exact not_gives_config rfl gives
    have nothing : e.values .baseline = [] := by
      rw [Draft.baseline?_command work h] at none
      exact List.head?_eq_none_iff.mp none
    rw [Draft.put_word rfl (.inr (Draft.has_eq_false_iff.mpr nothing))]
    split
    · exact Draft.command_cons_baseline h nothing text
    · rfl
  · rw [Draft.put_word rfl (.inl rfl)]
    split
    · exact Draft.command_cons_metric h text
    · rfl

/-- An argument that no `--` stands before, and that does not ask for help. -/
theorem readArguments_cons {text : String} (no_help : text ≠ "help") (verbosity : Nat)
    (rest : List String) : readArguments verbosity false (text :: rest) =
      match CommandName.ofText? text with
      | some c => (readCommand c rest).map fun command => ⟨verbosity, command⟩
      | none =>
        match Token.ofText text with
        | .escape => readArguments verbosity true rest
        | .long name attached => do
          readArguments (← readLong verbosity name attached) false rest
        | .letters cs => do readArguments (← readLetters verbosity cs) false rest
        | .plain _ => .error .invalidSubcommand := by
  rw [readArguments]
  refine ((if_neg Bool.false_ne_true).trans (if_neg no_help)).trans ?_
  rfl

/-- Behind a `--` there is no command. -/
theorem readArguments_escaped (verbosity : Nat) (args : List String) :
    readArguments verbosity true args ≠ .ok i := by
  cases args with
  | nil =>
      unfold readArguments
      split <;> exact nofun
  | cons text rest =>
      unfold readArguments
      rw [if_pos rfl]
      split <;> exact nofun

/-- Some arguments are read before the name of a command, and all others by the command. -/
theorem exists_of_readArguments {verbosity : Nat} (h : readArguments verbosity false args = .ok i) :
    ∃ before name rest, args = before ++ name :: rest ∧
      readCommand i.command.name rest = .ok i.command ∧
      ∀ more, readArguments verbosity false (args ++ more) =
        (readCommand i.command.name (rest ++ more)).map fun command => ⟨i.verbosity, command⟩ := by
  induction args generalizing verbosity with
  | nil =>
      unfold readArguments at h
      split at h <;> cases h
  | cons text rest ih =>
      have no_help : text ≠ "help" := by
        rintro rfl
        cases h
      rw [readArguments_cons no_help] at h
      simp only [List.cons_append, readArguments_cons no_help]
      cases named : CommandName.ofText? text with
      | some c =>
          simp only [named] at h ⊢
          cases hc : readCommand c rest with
          | error e =>
              rw [hc] at h
              cases h
          | ok command =>
              rw [hc] at h
              cases h
              rw [name_of_readCommand hc]
              exact ⟨[], text, rest, rfl, hc, fun more => rfl⟩
      | none =>
          simp only [named] at h ⊢
          have further {verbosity' : Nat} (next : readArguments verbosity' false rest = .ok i) :
              ∃ before name rest', text :: rest = before ++ name :: rest' ∧
                readCommand i.command.name rest' = .ok i.command ∧
                ∀ more, readArguments verbosity' false (rest ++ more) =
                  (readCommand i.command.name (rest' ++ more)).map fun command =>
                    ⟨i.verbosity, command⟩ := by
            obtain ⟨before, name, rest', rfl, command, all⟩ := ih next
            exact ⟨text :: before, name, rest', rfl, command, all⟩
          cases token : Token.ofText text with
          | escape =>
              simp only [token] at h
              exact absurd h (readArguments_escaped verbosity rest)
          | long name attached =>
              simp only [token, Files.bind_eq_ok_iff] at h
              obtain ⟨verbosity', told, next⟩ := h
              simp only [told]
              exact further next
          | letters cs =>
              simp only [token, Files.bind_eq_ok_iff] at h
              obtain ⟨verbosity', told, next⟩ := h
              simp only [told]
              exact further next
          | plain text =>
              simp only [token] at h
              cases h

/-- The same holds of all arguments: everything that has to be a word is one, and one more text is
taken exactly if it is a word. -/
theorem isWord_of_read (h : read args = .ok i) : ∀ text ∈ i.command.names, isWord text = true := by
  obtain ⟨_, _, _, _, command, _⟩ := exists_of_readArguments h
  exact isWord_of_readCommand command

theorem read_append (h : read args = .ok i) (options : "--" ∉ args)
    (gives : Gives i.command.name slot text more) (room : Open i.command slot) :
    read (args ++ more) = if isWord text then .ok { i with command := i.command.give slot text }
      else .error .valueValidation := by
  obtain ⟨before, name, rest, rfl, command, all⟩ := exists_of_readArguments h
  have options_rest : "--" ∉ rest := by
    intro mem
    exact options (List.mem_append_right _ (List.mem_cons_of_mem _ mem))
  show readArguments 0 false _ = _
  rw [all more, readCommand_append command options_rest gives room]
  split <;> rfl

end CommandLine

/-! ## Names in tables -/

namespace ObservationTable

/-- A table can be loaded in which an executable has this name. -/
def NamesExe (text : String) : Prop :=
  ∃ octets os, ofOctets octets = .ok os ∧ ∃ o ∈ os, o.exe = text

theorem exists_of_mem_mapM {α β ε : Type} {f : α → Except ε β} {xs : List α} {ys : List β}
    (h : xs.mapM f = .ok ys) : ∀ y ∈ ys, ∃ x ∈ xs, f x = .ok y := by
  induction xs generalizing ys with
  | nil =>
      cases h
      exact nofun
  | cons x xs ih =>
      rw [List.mapM_cons] at h
      obtain ⟨first, hf, h⟩ := Files.bind_eq_ok_iff.mp h
      obtain ⟨others, ho, ⟨rfl⟩⟩ := Files.bind_eq_ok_iff.mp h
      refine List.forall_mem_cons.mpr ⟨⟨x, List.mem_cons_self, hf⟩, fun y hy => ?_⟩
      obtain ⟨x', hx', same⟩ := ih ho y hy
      exact ⟨x', List.mem_cons_of_mem _ hx', same⟩

theorem bare_exe_of_ofRecord {β : Type}
    {text : Csv.Position → List β → Except Csv.Problem (List String)} {columns : List String}
    {r : Csv.Record β} {o : Observation} (h : ofRecord text columns r = .ok o) :
    Text.Bare o.exe := by
  unfold ofRecord at h
  split at h
  · cases h
  · split at h
    · cases h
    · split at h
      · cases h
      · cases h
        show Text.Bare (cell _ _ "exe")
        rw [cell_map_trim]
        exact Text.bare_trim _

/-- Names of executables are trimmed, whatever the table. -/
theorem bare_exe {octets : List UInt8} {os : List Observation} (h : ofOctets octets = .ok os) :
    ∀ o ∈ os, Text.Bare o.exe := by
  unfold ofOctets ofRecords at h
  dsimp only at h
  split at h
  · cases h
  · split at h
    · cases h
    · split at h
      · cases h
      next read =>
        cases h
        intro o ho
        obtain ⟨r, _, made⟩ := exists_of_mem_mapM read o ho
        exact bare_exe_of_ofRecord made

/-- Every trimmed text can be the name of an executable; in quotes it may have any characters. -/
theorem namesExe_iff {text : String} : NamesExe text ↔ Text.Bare text := by
  constructor
  · rintro ⟨octets, os, h, o, ho, rfl⟩
    exact bare_exe h o ho
  · intro bare
    let cells := ["", text, "", "", "", "", "", "", "", ""]
    have holds : Csv.Holds (Text.Utf8.encode
        (String.join ([knownColumns, cells].map Csv.record))) [knownColumns, cells] := by
      refine Csv.holds_join_record ?_ (Csv.unmarked_join_record _ (by decide +kernel))
      intro r hr
      rcases List.mem_pair.mp hr with rfl | rfl
      · exact ⟨by decide, by decide⟩
      · constructor <;> simp [cells]
    have columns : columnsOf [knownColumns, cells] = knownColumns := by
      show knownColumns.map columnName = knownColumns
      decide +kernel
    have acceptable : Acceptable knownColumns [cells] := by
      refine ⟨fun c hc => List.mem_append_left _ hc, ?_, fun _ => ?_⟩
      · intro r hr
        cases List.mem_singleton.mp hr
        rfl
      · unfold Unrepeated
        decide
    refine ⟨_, [rowOf knownColumns cells],
      (ofOctets_eq_ok_iff holds).mpr ⟨columns ▸ acceptable, columns ▸ rfl⟩,
      rowOf knownColumns cells, List.mem_singleton_self _, ?_⟩
    exact bare.trim_eq

end ObservationTable

namespace CommandLine

/-! ## Names that are given -/

theorem ofText_long (name text : String) (no_equals : name.toList.all (· != '=') = true) :
    Token.ofText ("--" ++ name ++ "=" ++ text) = .long name (some text) := by
  have before := List.all_eq_true.mp no_equals
  have chars : ("--" ++ name ++ "=" ++ text).toList =
      '-' :: '-' :: (name.toList ++ '=' :: text.toList) := by simp
  have value : (name.toList ++ '=' :: text.toList).dropWhile (· != '=') = '=' :: text.toList := by
    rw [List.dropWhile_append_of_pos before]
    rfl
  have front : (name.toList ++ '=' :: text.toList).takeWhile (· != '=') = name.toList := by
    rw [List.takeWhile_append_of_pos before]
    exact List.append_nil _
  obtain ⟨c, cs, behind⟩ := List.exists_cons_of_ne_nil
    (List.append_ne_nil_of_right_ne_nil name.toList (List.cons_ne_nil '=' text.toList))
  unfold Token.ofText
  rw [chars]
  rw [behind] at value front ⊢
  simp only [value]
  rw [front, String.ofList_toList, String.ofList_toList]

/-- A baseline or a metric can be attached to its option, whatever it is. -/
theorem gives_attached (c : CommandName) (text : String) :
    (c.readsInput = true → Gives c .baseline text ["--baseline=" ++ text]) ∧
    (c = .summary ∨ c = .compare → Gives c .metric text ["--metric=" ++ text]) := by
  have baseline : Token.ofText ("--baseline=" ++ text) = .long "baseline" (some text) :=
    ofText_long "baseline" text (by decide)
  have metric : Token.ofText ("--metric=" ++ text) = .long "metric" (some text) :=
    ofText_long "metric" text (by decide)
  constructor
  · intro reads
    refine .attached (.long _ baseline ?_)
    cases c with
    | summary => decide
    | compare => decide
    | report => decide
    | config => cases reads
  · rintro (rfl | rfl)
    · exact .attached (.long _ metric (by decide))
    · exact .attached (.long _ metric (by decide))

/-- What becomes of a text that is given as a name. -/
structure TakesName (text : String) : Prop where
  /-- It can be given to every command that has names. -/
  attached : ∀ c : CommandName,
    (c.readsInput = true → Gives c .baseline text ["--baseline=" ++ text]) ∧
    (c = .summary ∨ c = .compare → Gives c .metric text ["--metric=" ++ text])
  /-- Given at the end of a command line, it is what the line is accepted for. -/
  accepted : ∀ args i slot more, read args = .ok i → "--" ∉ args → Open i.command slot →
    Gives i.command.name slot text more → read (args ++ more) =
      if isWord text then .ok { i with command := i.command.give slot text }
      else .error .valueValidation
  /-- Wherever it is given, it is in no command that is read unless it is a word. -/
  held : ∀ args i, read args = .ok i → text ∈ i.command.names → isWord text = true
  /-- Words may have blanks before and after them, and no others. -/
  word_iff : isWord text = true ↔ Text.OneWord text
  blank_iff : isWord text = true ∧ Text.Bare text ↔ ∀ c ∈ text.toList, Text.isBlank c = false
  /-- A word is the name of an executable in some table just if there are no such blanks; without
  them it always is. -/
  found_iff : isWord text = true →
    (ObservationTable.NamesExe text ↔ ∀ c ∈ text.toList, Text.isBlank c = false)
  trimmed : ObservationTable.NamesExe (Text.trim text)

theorem isWord_iff {text : String} : isWord text = true ↔ Text.OneWord text := by
  rw [isWord, decide_eq_true_iff, Text.length_words_le_one_iff]

/-- A name is accepted just if it is a word. So it is accepted with blanks around it, and is then
different from the names of all executables that can be in a table. -/
theorem takesName (text : String) : TakesName text where
  attached c := gives_attached c text
  accepted _ _ _ _ read options room gives := read_append read options gives room
  held _ _ read := isWord_of_read read text
  word_iff := isWord_iff
  blank_iff := by rw [isWord_iff, Text.oneWord_and_bare_iff]
  found_iff word := by
    rw [ObservationTable.namesExe_iff, ← Text.oneWord_and_bare_iff,
      and_iff_right (isWord_iff.mp word)]
  trimmed := ObservationTable.namesExe_iff.mpr (Text.bare_trim text)

/-- A baseline with a blank in front is accepted as it is, and no executable has its name. -/
theorem takesName_blank :
    read ["compare", "r.csv", "--baseline= base"] =
      .ok ⟨0, .compare ⟨"r.csv", some " base", [], [], []⟩ [] "-"⟩ ∧
    isWord " base" = true ∧ ¬ ObservationTable.NamesExe " base" ∧
    ObservationTable.NamesExe "base" := by
  have names := takesName " base"
  have word : isWord " base" = true := by decide +kernel
  have without : read ["compare", "r.csv"] =
      .ok ⟨0, .compare ⟨"r.csv", none, [], [], []⟩ [] "-"⟩ := by decide +kernel
  refine ⟨?_, word, ?_, ?_⟩
  · have read := names.accepted _ _ .baseline _ without (by decide) (.inl ⟨rfl, rfl⟩)
      ((names.attached .compare).1 rfl)
    rw [word, if_pos rfl] at read
    exact read
  · rw [names.found_iff word]
    intro no_blank
    exact absurd (no_blank ' ' (by decide)) (by decide)
  · have trimmed : Text.trim " base" = "base" := by decide +kernel
    exact trimmed ▸ names.trimmed

end CommandLine

end Speedup
