import Mathlib.Tactic.SplitIfs
import RemovableMedia.Proofs.Command

/-!
# The grammar of commands

A text states a command exactly if it is the command's name followed by its arguments in
parentheses, none of which has a quote.  Every other text is refused, and for the first of four
reasons: it is no line, its name is that of no command, it has another number of arguments, or an
argument is absent that has to be there (`accepts_exactly_written`).

A command has the name and the arguments of the line that states it (`of_ofLine`), so the grammar of
lines settles which texts are accepted.  What is left is what each of the seven readers refuses.
-/

set_option autoImplicit false

namespace RemovableMedia.Command

/-! ## Written commands -/

/-- How an argument is written. -/
def argText : Option String → String
  | none => "nil"
  | some text => "\"" ++ text ++ "\""

/-- A command with its arguments as they are, in writing. -/
def written (command : Command) : String :=
  command.name ++ "(" ++ ", ".intercalate (command.args.map argText) ++ ")"

/-- An argument is rendered as it is written. -/
theorem toList_argText (arg : Option String) : (argText arg).toList = Line.renderArg arg := by
  cases arg with
  | none => rfl
  | some text => simp [argText, Line.renderArg]

/-- Arguments are rendered as they are written, with commas and blanks between them. -/
theorem renderArgs_eq (args : Arguments) :
    Line.renderArgs args = (", ".intercalate (args.map argText)).toList := by
  have hchars : ", ".toList = [',', ' '] := rfl
  have hargs : String.toList ∘ argText = Line.renderArg := funext toList_argText
  rw [String.toList_intercalate, hchars, List.map_map, hargs]
  induction args with
  | nil => rfl
  | cons arg rest ih =>
    by_cases hrest : rest = []
    · subst hrest
      exact List.intercalate_singleton.symm
    · have hne : rest.map Line.renderArg ≠ [] := by simpa using hrest
      rw [Line.renderArgs_cons arg hrest, ih, List.map_cons, List.intercalate_cons_of_ne_nil hne]
      simp

/-- A command is written as the line of its name and its arguments. -/
theorem render_eq_written (command : Command) :
    Line.render ⟨command.name, command.args⟩ = command.written := by
  apply String.toList_injective
  simp [Line.render, Line.renderChars, renderArgs_eq, written]

/-! ## Lines that state commands -/

/-- A command without arguments is read from no arguments. -/
theorem eq_of_nullary {command found : Command} {args : Arguments}
    (h : nullary command args = .ok found) : args = [] ∧ found = command := by
  unfold nullary at h
  split at h
  · exact ⟨rfl, (Except.ok.inj h).symm⟩
  · cases h

/-- A command with one argument is read from one text. -/
theorem eq_of_unary {make : String → Command} {found : Command} {args : Arguments}
    (h : unary make args = .ok found) : ∃ text, args = [some text] ∧ found = make text := by
  unfold unary at h
  split at h
  · exact ⟨_, rfl, (Except.ok.inj h).symm⟩
  · cases h
  · cases h

/-- A mount is read from a text and a second argument, which may be absent. -/
theorem eq_of_ofMountArgs {found : Command} {args : Arguments}
    (h : ofMountArgs args = .ok found) :
    ∃ path options, args = [some path, options] ∧ found = mount path options := by
  unfold ofMountArgs at h
  split at h
  · exact ⟨_, _, rfl, (Except.ok.inj h).symm⟩
  · cases h
  · cases h

/-- A command has the name and the arguments of the line that states it. -/
theorem of_ofLine {line : Line} {command : Command} (h : ofLine line = .ok command) :
    command.name = line.name ∧ command.args = line.args := by
  obtain ⟨name, args⟩ := line
  unfold ofLine at h
  -- one case for each name, with the arguments that its command takes
  split_ifs at h with hname hname hname hname hname hname hname <;> cases hname
  · obtain ⟨rfl, rfl⟩ := eq_of_nullary h
    exact ⟨rfl, rfl⟩
  · obtain ⟨path, rfl, rfl⟩ := eq_of_unary h
    exact ⟨rfl, rfl⟩
  · obtain ⟨path, options, rfl, rfl⟩ := eq_of_ofMountArgs h
    exact ⟨rfl, rfl⟩
  · obtain ⟨path, rfl, rfl⟩ := eq_of_unary h
    exact ⟨rfl, rfl⟩
  · obtain ⟨rfl, rfl⟩ := eq_of_nullary h
    exact ⟨rfl, rfl⟩
  · obtain ⟨filesystem, rfl, rfl⟩ := eq_of_unary h
    exact ⟨rfl, rfl⟩
  · obtain ⟨path, rfl, rfl⟩ := eq_of_unary h
    exact ⟨rfl, rfl⟩

/-- A command is read from a line with its own name and arguments. -/
theorem eq_of_parse {text : String} {command : Command} (h : Command.parse text = .ok command) :
    ∃ line, Line.parse text = .ok line ∧ command.name = line.name ∧ command.args = line.args := by
  unfold Command.parse at h
  cases hline : Line.parse text with
  | error cause => simp [hline] at h
  | ok line =>
    rw [hline] at h
    exact ⟨line, rfl, of_ofLine h⟩

/-- The line of a command's name and arguments states it. -/
theorem ofLine_parts (command : Command) : ofLine ⟨command.name, command.args⟩ = .ok command := by
  cases command <;> simp [ofLine, name, args, nullary, unary, ofMountArgs]

/-- A command makes a line that can be read back just if none of its texts has a quote. -/
theorem wellFormed_parts_iff (command : Command) :
    Line.WellFormed ⟨command.name, command.args⟩ ↔
      ∀ text, some text ∈ command.args → '"' ∉ text.toList := by
  constructor
  · intro h text hmem
    exact Line.writable_some.1 (h.args (some text) hmem)
  · intro h
    refine ⟨command.isName_name, fun arg hmem text htext => ?_⟩
    exact h text (htext ▸ hmem)

/-- A text is accepted exactly if it is the written form of a command without quotes. -/
theorem parse_eq_ok_iff {text : String} {command : Command} :
    Command.parse text = .ok command ↔
      (∀ argument, some argument ∈ command.args → '"' ∉ argument.toList) ∧
        text = command.written := by
  rw [← wellFormed_parts_iff, ← render_eq_written]
  constructor
  · intro h
    obtain ⟨line, hline, hname, hargs⟩ := eq_of_parse h
    rw [hname, hargs]
    exact Line.parse_eq_ok_iff.1 hline
  · intro h
    rw [Command.parse, Line.parse_eq_ok_iff.2 h]
    exact command.ofLine_parts

/-! ## Refusals -/

/-- The names of all commands, and how many arguments each of them takes. -/
def arities : List (String × Nat) :=
  [("list_all_removable_devices", 0), ("list_removable_device", 1), ("mount", 2), ("unmount", 1),
    ("list_supported_filesystems", 0), ("list_supported_filesystem_options", 1), ("poweroff", 1)]

/-- Why a command does not take some arguments: there are too few or too many, or else the first
one is absent. -/
def argumentsRefusal (name : String) (arity : Nat) (args : Arguments) : CommandError :=
  if args.length = arity then .nilArgument name 0 else .wrongArity name arity args.length

/-- Why a line states no command. -/
def lineRefusal (line : Line) : CommandError :=
  match arities.lookup line.name with
  | none => .unknown line.name
  | some arity => argumentsRefusal line.name arity line.args

/-- Why a text states no command. -/
def refusal (text : String) : CommandError :=
  match Line.parse text with
  | .error cause => .malformed cause
  | .ok line => lineRefusal line

/-- What is read is a command, or it is refused for a reason. -/
def ReadsOr (reason : CommandError) (outcome : Except CommandError Command) : Prop :=
  (∃ command, outcome = .ok command) ∨ outcome = .error reason

/-- Arguments that a command without arguments does not take are refused for the stated reason. -/
theorem nullary_readsOr (command : Command) (args : Arguments) :
    ReadsOr (argumentsRefusal command.name 0 args) (nullary command args) := by
  cases args with
  | nil => exact .inl ⟨command, rfl⟩
  | cons arg rest => exact .inr rfl

/-- Arguments that a command with one argument does not take are refused for the stated reason. -/
theorem unary_readsOr (make : String → Command) (args : Arguments) :
    ReadsOr (argumentsRefusal (make "").name 1 args) (unary make args) := by
  match args with
  | [] => exact .inr rfl
  | [none] => exact .inr rfl
  | [some text] => exact .inl ⟨make text, rfl⟩
  | first :: second :: rest =>
    have hlength : (first :: second :: rest).length ≠ 1 := by simp
    rw [argumentsRefusal, if_neg hlength]
    exact .inr (by cases first <;> rfl)

/-- Arguments that a mount does not take are refused for the stated reason. -/
theorem ofMountArgs_readsOr (args : Arguments) :
    ReadsOr (argumentsRefusal "mount" 2 args) (ofMountArgs args) := by
  match args with
  | [] => exact .inr rfl
  | [first] => exact .inr (by cases first <;> rfl)
  | [none, options] => exact .inr rfl
  | [some path, options] => exact .inl ⟨mount path options, rfl⟩
  | first :: second :: third :: rest =>
    have hlength : (first :: second :: third :: rest).length ≠ 2 := by simp
    rw [argumentsRefusal, if_neg hlength]
    exact .inr (by cases first <;> rfl)

/-- A line that states no command is refused for the stated reason. -/
theorem ofLine_readsOr (line : Line) : ReadsOr (lineRefusal line) (ofLine line) := by
  obtain ⟨name, args⟩ := line
  unfold ofLine lineRefusal
  dsimp only
  -- one case for each name, and one for all others
  split_ifs with hall hone hmount hunmount hnames hoptions hpoweroff
  · subst hall
    exact nullary_readsOr _ args
  · subst hone
    exact unary_readsOr listRemovableDevice args
  · subst hmount
    exact ofMountArgs_readsOr args
  · subst hunmount
    exact unary_readsOr unmount args
  · subst hnames
    exact nullary_readsOr _ args
  · subst hoptions
    exact unary_readsOr listSupportedFilesystemOptions args
  · subst hpoweroff
    exact unary_readsOr poweroff args
  · have hunknown : arities.lookup name = none := by
      simp [arities, List.lookup_eq_none_iff, *]
    rw [hunknown]
    exact .inr rfl

/-- A text states a command, or it is refused for the first reason that there is. -/
theorem parse_readsOr (text : String) : ReadsOr (refusal text) (Command.parse text) := by
  unfold Command.parse refusal
  cases Line.parse text with
  | error cause => exact .inr rfl
  | ok line => exact ofLine_readsOr line

/-- Only the options of a mount may be absent. -/
theorem absent_argument {command : Command} {i : Nat} (h : command.args[i]? = some none) :
    command.name = "mount" ∧ i = 1 := by
  cases command with
  | mount path options =>
    refine ⟨rfl, ?_⟩
    match i with
    | 0 => cases h
    | 1 => rfl
    | i + 2 => cases h
  | listAllRemovableDevices | listSupportedFilesystems => cases h
  | listRemovableDevice | unmount | listSupportedFilesystemOptions | poweroff =>
    cases i <;> cases h

/-- A text states a command exactly if it is the written form of that command and no text in it has
a quote.  Any other text is refused: as a malformed line, else for a name that is unknown, else for
the number of its arguments, and else because the first of them is absent.  Nothing but the options
of a mount is ever accepted as absent. -/
theorem accepts_exactly_written (text : String) :
    (∀ command, Command.parse text = .ok command ↔
      (∀ argument, some argument ∈ command.args → '"' ∉ argument.toList) ∧
        text = command.written) ∧
    ((∃ command, Command.parse text = .ok command) ∨ Command.parse text = .error (refusal text)) ∧
    ∀ line command, Line.parse text = .ok line → Command.parse text = .ok command →
      ∀ i : Nat, line.args[i]? = some none → line.name = "mount" ∧ i = 1 := by
  refine ⟨fun command => parse_eq_ok_iff, parse_readsOr text, ?_⟩
  intro line command hline hcommand i habsent
  obtain ⟨read, hread, hname, hargs⟩ := eq_of_parse hcommand
  obtain rfl : line = read := Except.ok.inj (hline.symm.trans hread)
  rw [← hargs] at habsent
  rw [← hname]
  exact absent_argument habsent

/-- A mount without options. -/
theorem accepts_exactly_written_of_mount :
    let text := "mount(\"/dev/sdb1\", nil)"
    let line : Line := ⟨"mount", [some "/dev/sdb1", none]⟩
    Line.parse text = .ok line ∧ Command.parse text = .ok (mount "/dev/sdb1" none) ∧
      line.args[1]? = some none ∧ line.name = "mount" := by
  intro text line
  obtain ⟨haccepts, -, habsent⟩ := accepts_exactly_written text
  have hplain : ∀ argument, some argument ∈ line.args → '"' ∉ argument.toList := by
    simp [line]
  have hcommand := (haccepts (mount "/dev/sdb1" none)).2 ⟨hplain, by decide +kernel⟩
  have hline : Line.parse text = .ok line :=
    Line.parse_eq_ok_iff.2 ⟨(wellFormed_parts_iff (mount "/dev/sdb1" none)).2 hplain,
      by decide +kernel⟩
  exact ⟨hline, hcommand, rfl, (habsent line _ hline hcommand 1 rfl).1⟩

end RemovableMedia.Command
