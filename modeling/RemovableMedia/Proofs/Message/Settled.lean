import Mathlib.Tactic.SplitIfs
import RemovableMedia.Proofs.Except
import RemovableMedia.Proofs.Message

/-!
# Lines as the daemon spells them

A line that states a message is the line of that message, but for two spellings of a mount: options
without a mount point say that nothing is mounted, and a mount point without options has empty ones
(`settleMount`).  Reading a line and writing the message again settles these and changes nothing
else (`reading_settles`).

For a line that does not describe a device, its message has the name and the arguments of the line
(`parts_of_ofParts`).  A description is read leniently, so which arguments state it is a relation of
its own (`Description.Stated`), which settling respects (`Description.Stated.settled`).
-/

set_option autoImplicit false

namespace RemovableMedia

open RemovableMedia.Line (clean clean_eq_self_iff map_clean_eq_self_iff)

/-! ## Descriptions -/

namespace Description

variable {args : Arguments} {device : Description}

/-- The arguments with both or none of the last two, a mount point and mount options. -/
def settleMount : Arguments → Arguments
  | [] => []
  | [none, _] => [none, none]
  | [some point, options] => [some point, some (options.getD "")]
  | arg :: rest => arg :: settleMount rest

/-- Whether arguments describe a device of a kind that can have a mount. -/
def statesMountable (args : Arguments) : Bool :=
  args[2]? == some (some Device.Kind.stateful.word) ||
    args[2]? == some (some Device.Kind.partition.word)

/-- The arguments of a description as the daemon spells them. -/
def settledArgs (args : Arguments) : Arguments :=
  if statesMountable args then settleMount args else args

/-- What the daemon says of a mount is the mount point and the options that are read. -/
theorem settleMount_pair (point options : Option String) :
    settleMount [point, options] =
      [(readMount point options).map Mount.Info.point,
        (readMount point options).map Mount.Info.options] := by
  cases point <;> rfl

/-- A mount is read back from its point and its options. -/
theorem readMount_map (mount : Option Mount.Info) :
    readMount (mount.map Mount.Info.point) (mount.map Mount.Info.options) = mount := by
  cases mount <;> rfl

/-- Of the arguments of a drive only those of the mount settle. -/
theorem settledArgs_stateful (parentPath path subtype state filesystem label : Option String)
    (point options : Option String) :
    settledArgs [parentPath, path, some Device.Kind.stateful.word, subtype, state, filesystem,
        label, point, options] =
      [parentPath, path, some Device.Kind.stateful.word, subtype, state, filesystem, label] ++
        settleMount [point, options] := by
  simp [settledArgs, statesMountable, settleMount]

/-- Of the arguments of a partition only those of the mount settle. -/
theorem settledArgs_partition (parentPath path filesystem label point options : Option String) :
    settledArgs [parentPath, path, some Device.Kind.partition.word, filesystem, label, point,
        options] =
      [parentPath, path, some Device.Kind.partition.word, filesystem, label] ++
        settleMount [point, options] := by
  simp [settledArgs, statesMountable, settleMount]

/-- Arguments of a mount that are clean are clean when they are settled. -/
theorem map_clean_settleMount (h : args.map (Option.map clean) = args) :
    (settleMount args).map (Option.map clean) = settleMount args := by
  fun_induction settleMount args with
  | case1 => rfl
  | case2 => rfl
  | case3 point options =>
    have hempty : clean "" = "" := rfl
    cases options with
    | none => simpa [hempty] using h
    | some text => exact h
  | case4 arg rest _ _ ih =>
    obtain ⟨harg, hrest⟩ := List.cons.inj h
    rw [List.map_cons, harg, ih hrest]

/-- Arguments of a description that are clean are clean when they are settled. -/
theorem map_clean_settledArgs (h : args.map (Option.map clean) = args) :
    (settledArgs args).map (Option.map clean) = settledArgs args := by
  unfold settledArgs
  split
  · exact map_clean_settleMount h
  · exact h

/-- Which arguments state which description. -/
inductive Stated : Arguments → Description → Prop where
  | stateless (parentPath path : String) (subtype : Device.Subtype) :
      Stated [some parentPath, some path, some Device.Kind.stateless.word, some subtype.word]
        ⟨parentPath, path, .stateless, some subtype, none, none, none, none⟩
  | stateful (parentPath path : String) (subtype : Device.Subtype) (state : Device.MediaState)
      (filesystem label point options : Option String) :
      Stated [some parentPath, some path, some Device.Kind.stateful.word, some subtype.word,
          some state.word, filesystem, label, point, options]
        ⟨parentPath, path, .stateful, some subtype, some state, filesystem, label,
          readMount point options⟩
  | partition (parentPath path : String) (filesystem label point options : Option String) :
      Stated [some parentPath, some path, some Device.Kind.partition.word, filesystem, label, point,
          options]
        ⟨parentPath, path, .partition, none, none, filesystem, label, readMount point options⟩

/-- A text is found in a field just if the field is there and is this text. -/
theorem textAt_eq_ok_iff {field text : String} {arg : Option (Option String)} :
    textAt field arg = .ok text ↔ arg = some (some text) := by
  rcases arg with _ | _ | found <;> simp [textAt]

/-- What is found by its word among a closed set of words has that word. -/
theorem word_eq_of_find? {α : Type} {word : α → String} {all : List α} {text : String}
    {found : α} (h : (all.find? fun item => word item == text) = some found) :
    word found = text := by
  have hword : (word found == text) = true := by
    simpa using List.find?_some h
  exact beq_iff_eq.1 hword

/-- A subtype is read from a text just if the text is its word. -/
theorem toOption_readSubtype (text : String) :
    (readSubtype text).toOption = Device.Subtype.ofWord? text := by
  unfold readSubtype
  cases Device.Subtype.ofWord? text <;> rfl

/-- A state is read from a text just if the text is its word. -/
theorem toOption_readState (text : String) :
    (readState text).toOption = Device.MediaState.ofWord? text := by
  unfold readState
  cases Device.MediaState.ofWord? text <;> rfl

/-- An argument that is read by its word among a closed set of words is the word of what is read. -/
theorem eq_word_of_read {α : Type} {word : α → String} {all : List α}
    {read : String → Except MessageFault α}
    (hread : ∀ text, (read text).toOption = all.find? fun item => word item == text)
    {field : String} {arg : Option String} {found : α}
    (h : textAt field (some arg) >>= read = .ok found) : arg = some (word found) := by
  obtain ⟨text, htext, hfound⟩ := Except.bind_eq_ok_iff.1 h
  have hfind := hread text
  rw [hfound] at hfind
  rw [word_eq_of_find? hfind.symm]
  exact Option.some.inj (textAt_eq_ok_iff.1 htext)

/-- What is received of a description has the cleaned arguments of it. -/
theorem args_received (device : Description) :
    device.received.args = device.args.map (Option.map clean) := by
  obtain ⟨parentPath, path, kind, subtype, state, filesystem, label, mount⟩ := device
  cases kind <;>
    simp [received, Description.args, contentArgs, clean_kind, clean_subtype, clean_state,
      Mount.Info.cleaned, Function.comp_def]

namespace Stated

/-- Arguments that state a description are read as it. -/
theorem ofArgs_eq (h : Stated args device) : ofArgs args = .ok device := by
  cases h <;>
    simp [ofArgs, textAt, ofRest, readSubtype, readState, bind, Except.bind, pure, Except.pure]

/-- What is read after the kind of a description states it. -/
theorem of_ofRest {parentPath path : String} {kind : Device.Kind} {rest : Arguments}
    (h : ofRest parentPath path kind rest = .ok device) :
    Stated (some parentPath :: some path :: some kind.word :: rest) device := by
  unfold ofRest at h
  split at h
  · obtain ⟨subtype, hsubtype, hdone⟩ := Except.bind_eq_ok_iff.1 h
    rw [eq_word_of_read toOption_readSubtype hsubtype, ← Except.ok.inj hdone]
    exact .stateless ..
  · obtain ⟨state, hstate, hrest⟩ := Except.bind_eq_ok_iff.1 h
    obtain ⟨subtype, hsubtype, hdone⟩ := Except.bind_eq_ok_iff.1 hrest
    rw [eq_word_of_read toOption_readState hstate, eq_word_of_read toOption_readSubtype hsubtype,
      ← Except.ok.inj hdone]
    exact .stateful ..
  · rw [← Except.ok.inj h]
    exact .partition ..
  · cases h

/-- Arguments that are read as a description state it. -/
theorem of_ofArgs (h : ofArgs args = .ok device) : Stated args device := by
  unfold ofArgs at h
  obtain ⟨parentPath, hparent, h⟩ := Except.bind_eq_ok_iff.1 h
  obtain ⟨path, hpath, h⟩ := Except.bind_eq_ok_iff.1 h
  obtain ⟨word, hword, h⟩ := Except.bind_eq_ok_iff.1 h
  rw [textAt_eq_ok_iff] at hparent hpath hword
  split at h
  · rename_i kind hkind
    have hargs : args = some parentPath :: some path :: some word :: args.drop 3 := by
      rcases args with _ | ⟨first, _ | ⟨second, _ | ⟨third, rest⟩⟩⟩ <;> simp_all
    have hkind : kind.word = word := word_eq_of_find? hkind
    rw [hargs, ← hkind]
    exact of_ofRest h
  · cases h

/-- The settled arguments state the description as well, and they are its own. -/
theorem settled (h : Stated args device) :
    Stated (settledArgs args) device ∧ device.args = settledArgs args := by
  cases h with
  | stateless parentPath path subtype =>
    exact ⟨.stateless parentPath path subtype, rfl⟩
  | stateful parentPath path subtype state filesystem label point options =>
    rw [settledArgs_stateful, settleMount_pair]
    refine ⟨?_, rfl⟩
    have hstated := stateful parentPath path subtype state filesystem label
      ((readMount point options).map Mount.Info.point)
      ((readMount point options).map Mount.Info.options)
    rwa [readMount_map] at hstated
  | partition parentPath path filesystem label point options =>
    rw [settledArgs_partition, settleMount_pair]
    refine ⟨?_, rfl⟩
    have hstated := partition parentPath path filesystem label
      ((readMount point options).map Mount.Info.point)
      ((readMount point options).map Mount.Info.options)
    rwa [readMount_map] at hstated

end Stated

end Description

/-! ## Lines of messages -/

/-- The names of the lines that describe a device. -/
def Line.descriptionNames : List String :=
  ["removable_device", "removable_device_added", "removable_device_changed"]

/-- The line with its arguments as the daemon spells them. -/
def Line.settled (line : Line) : Line :=
  if line.name ∈ descriptionNames then { line with args := Description.settledArgs line.args }
  else line

namespace Message

variable {line : Line} {message : Message}

/-- A line that describes a device is read as its description is. -/
theorem exists_ofParts_eq {name : String} (h : name ∈ Line.descriptionNames) :
    ∃ make : Description → Message,
      (∀ args, ofParts name args = some ((Description.ofArgs args).map make)) ∧
        ∀ description, (make description).name = name ∧
          (make description).args = description.args := by
  simp only [Line.descriptionNames, List.mem_cons, List.not_mem_nil, or_false] at h
  rcases h with rfl | rfl | rfl
  · exact ⟨device, fun _ => rfl, fun _ => ⟨rfl, rfl⟩⟩
  · exact ⟨fun description => notification (.added description), fun _ => rfl,
      fun _ => ⟨rfl, rfl⟩⟩
  · exact ⟨fun description => notification (.changed description), fun _ => rfl,
      fun _ => ⟨rfl, rfl⟩⟩

/-- Arguments that are read as texts are these texts. -/
theorem eq_of_texts {args : Arguments} {entries : List String} (h : texts args = .ok entries) :
    args = entries.map some := by
  fun_induction texts args generalizing entries with
  | case1 =>
    cases h
    rfl
  | case2 text rest ih =>
    obtain ⟨others, hothers, rfl⟩ := Except.map_eq_ok_iff.1 h
    rw [ih hothers, List.map_cons]
  | case3 rest => cases h

/-- An echo is read from the name of a command and its arguments. -/
theorem eq_of_ofEcho {build : String → Arguments → Message} {args : Arguments}
    (h : ofEcho build args = .ok message) :
    ∃ command rest, args = some command :: rest ∧ message = build command rest := by
  unfold ofEcho at h
  split at h
  · exact ⟨_, _, rfl, (Except.ok.inj h).symm⟩
  · cases h

/-- A failure is read from the name of a command, its arguments and a code. -/
theorem eq_of_ofFailure {args : Arguments} (h : ofFailure args = .ok message) :
    ∃ command rest code, args = some command :: (rest ++ [some (ErrorCode.word code)]) ∧
      message = failed command rest code := by
  unfold ofFailure at h
  split at h
  · rename_i command rest
    split at h
    · rename_i word hlast
      split at h
      · rename_i code hcode
        refine ⟨command, rest.dropLast, code, ?_, (Except.ok.inj h).symm⟩
        have hword : code.word = word := Description.word_eq_of_find? hcode
        rw [hword, List.dropLast_append_getLast? _ hlast]
      · cases h
    · cases h
  · cases h

/-- A message other than a description has the name and the arguments of the line that states it. -/
theorem parts_of_ofParts {name : String} {args : Arguments} (hname : name ∉ Line.descriptionNames)
    (h : ofParts name args = some (.ok message)) : message.name = name ∧ message.args = args := by
  unfold ofParts at h
  -- one case for each name; those of descriptions are excluded
  obtain ⟨rfl, h⟩ | ⟨-, h⟩ := ite_eq_iff.1 h
  · obtain ⟨command, rest, rfl, rfl⟩ := eq_of_ofEcho (Option.some.inj h)
    exact ⟨rfl, rfl⟩
  obtain ⟨rfl, h⟩ | ⟨-, h⟩ := ite_eq_iff.1 h
  · obtain ⟨command, rest, rfl, rfl⟩ := eq_of_ofEcho (Option.some.inj h)
    exact ⟨rfl, rfl⟩
  obtain ⟨rfl, h⟩ | ⟨-, h⟩ := ite_eq_iff.1 h
  · obtain ⟨command, rest, rfl, rfl⟩ := eq_of_ofEcho (Option.some.inj h)
    exact ⟨rfl, rfl⟩
  obtain ⟨rfl, h⟩ | ⟨-, h⟩ := ite_eq_iff.1 h
  · obtain ⟨command, rest, code, rfl, rfl⟩ := eq_of_ofFailure (Option.some.inj h)
    exact ⟨rfl, rfl⟩
  obtain ⟨rfl, h⟩ | ⟨-, h⟩ := ite_eq_iff.1 h
  · exact absurd (by decide) hname
  obtain ⟨rfl, h⟩ | ⟨-, h⟩ := ite_eq_iff.1 h
  · obtain ⟨names, htexts, rfl⟩ := Except.map_eq_ok_iff.1 (Option.some.inj h)
    exact ⟨rfl, (eq_of_texts htexts).symm⟩
  obtain ⟨rfl, h⟩ | ⟨-, h⟩ := ite_eq_iff.1 h
  · obtain ⟨options, htexts, rfl⟩ := Except.map_eq_ok_iff.1 (Option.some.inj h)
    exact ⟨rfl, (eq_of_texts htexts).symm⟩
  obtain ⟨rfl, h⟩ | ⟨-, h⟩ := ite_eq_iff.1 h
  · exact absurd (by decide) hname
  obtain ⟨rfl, h⟩ | ⟨-, h⟩ := ite_eq_iff.1 h
  · exact absurd (by decide) hname
  obtain ⟨rfl, h⟩ | ⟨-, h⟩ := ite_eq_iff.1 h
  · obtain ⟨entries, htexts, hread⟩ := Except.bind_eq_ok_iff.1 (Option.some.inj h)
    rw [eq_of_texts htexts]
    split at hread <;> cases hread
    exact ⟨rfl, rfl⟩
  obtain ⟨rfl, h⟩ | ⟨-, h⟩ := ite_eq_iff.1 h
  · obtain ⟨entries, htexts, hread⟩ := Except.bind_eq_ok_iff.1 (Option.some.inj h)
    rw [eq_of_texts htexts]
    split at hread <;> cases hread
    exact ⟨rfl, rfl⟩
  obtain ⟨rfl, h⟩ | ⟨-, h⟩ := ite_eq_iff.1 h
  · obtain ⟨entries, htexts, hread⟩ := Except.bind_eq_ok_iff.1 (Option.some.inj h)
    rw [eq_of_texts htexts]
    split at hread <;> cases hread
    exact ⟨rfl, rfl⟩
  · cases h

/-- A message is read from a line just if it is read from the name and the arguments of the line. -/
theorem ofLine_eq_ok_iff :
    ofLine line = .ok message ↔ ofParts line.name line.args = some (.ok message) := by
  unfold ofLine
  split <;> simp_all

/-- What a line states, its settled line states as well, and that has the message's own name and
arguments. -/
theorem of_ofLine (h : ofLine line = .ok message) :
    ofLine line.settled = .ok message ∧ line.settled = ⟨message.name, message.args⟩ := by
  rw [ofLine_eq_ok_iff] at h ⊢
  unfold Line.settled
  split
  · rename_i hname
    obtain ⟨make, hmake, hparts⟩ := exists_ofParts_eq hname
    rw [hmake, Option.some_inj, Except.map_eq_ok_iff] at h
    obtain ⟨description, hargs, rfl⟩ := h
    obtain ⟨hstated, heq⟩ := (Description.Stated.of_ofArgs hargs).settled
    refine ⟨?_, ?_⟩
    · show ofParts line.name (Description.settledArgs line.args) = _
      rw [hmake, hstated.ofArgs_eq]
      rfl
    · rw [(hparts description).1, (hparts description).2, heq]
  · rename_i hname
    obtain ⟨hsame, hargs⟩ := parts_of_ofParts hname h
    rw [hsame, hargs]
    exact ⟨h, rfl⟩

/-- What is received of a message has its name. -/
theorem name_received (message : Message) : message.received.name = message.name := by
  cases message with
  | notification event => cases event <;> rfl
  | _ => rfl

/-- What is received of a message has the cleaned arguments of it. -/
theorem args_received (message : Message) :
    message.received.args = message.args.map (Option.map clean) := by
  cases message with
  | failed command args code => simp [received, Message.args, clean_code]
  | device description => exact description.args_received
  | supportedFilesystems names | supportedFilesystemOptions options => simp [received, Message.args]
  | notification event =>
    cases event with
    | added description | changed description => exact description.args_received
    | _ => rfl
  | _ => rfl

/-- The line of a message is settled already. -/
theorem settled_line (message : Message) : message.line.settled = message.line := by
  rw [(of_ofLine message.ofLine_line).2, message.name_received, message.args_received]
  rfl

/-- A line with clean arguments has clean arguments when it is settled. -/
theorem map_clean_settled (h : line.args.map (Option.map clean) = line.args) :
    line.settled.args.map (Option.map clean) = line.settled.args := by
  unfold Line.settled
  split
  · exact Description.map_clean_settledArgs h
  · exact h

/-- Reading a line and writing the message again settles the line and changes nothing else, and what
is written so is read as the same message.  So but for settling, only lines that the daemon can
write are read. -/
theorem reading_settles
    (hclean : ∀ text, some text ∈ line.args →
      '"' ∉ text.toList ∧ '\n' ∉ text.toList ∧ '\r' ∉ text.toList)
    (h : ofLine line = .ok message) :
    ofLine message.line = .ok message ∧ message.line = line.settled ∧
      ((∃ sent : Message, sent.line = line) ↔ line.settled = line) := by
  have hargs : line.args.map (Option.map clean) = line.args := by
    rw [map_clean_eq_self_iff]
    intro text hmem
    exact clean_eq_self_iff.2 (hclean text hmem)
  obtain ⟨hread, hparts⟩ := of_ofLine h
  have hline : message.line = line.settled := by
    have hkeep := map_clean_settled hargs
    rw [hparts] at hkeep ⊢
    exact congrArg (Line.mk message.name) hkeep
  refine ⟨?_, hline, ?_⟩
  · rw [hline]
    exact hread
  · constructor
    · rintro ⟨sent, rfl⟩
      exact sent.settled_line
    · intro hsettled
      exact ⟨message, hline.trans hsettled⟩

/-- A partition with a mount point and no options, as the daemon does not spell it. -/
theorem reading_settles_of_partition :
    let line : Line := ⟨"removable_device", [some "/dev/sdb", some "/dev/sdb1", some "partition",
      some "vfat", none, some "/media/sdb1", none]⟩
    let message := device ⟨"/dev/sdb", "/dev/sdb1", .partition, none, none, some "vfat", none,
      some ⟨"/media/sdb1", ""⟩⟩
    (∀ text, some text ∈ line.args →
      '"' ∉ text.toList ∧ '\n' ∉ text.toList ∧ '\r' ∉ text.toList) ∧
      ofLine line = .ok message ∧ ofLine message.line = .ok message ∧
      message.line.args = [some "/dev/sdb", some "/dev/sdb1", some "partition", some "vfat", none,
        some "/media/sdb1", some ""] ∧
      ¬ ∃ sent : Message, sent.line = line := by
  intro line message
  have hclean : ∀ text, some text ∈ line.args →
      '"' ∉ text.toList ∧ '\n' ∉ text.toList ∧ '\r' ∉ text.toList := by
    simp [line]
  have hread : ofLine line = .ok message := by
    decide
  obtain ⟨hagain, hline, hsent⟩ := reading_settles hclean hread
  have hsettled : line.settled.args = [some "/dev/sdb", some "/dev/sdb1", some "partition",
      some "vfat", none, some "/media/sdb1", some ""] := by
    decide
  refine ⟨hclean, hread, hagain, hline ▸ hsettled, ?_⟩
  rw [hsent]
  intro hsame
  rw [hsame] at hsettled
  exact absurd hsettled (by decide)

end Message

end RemovableMedia
