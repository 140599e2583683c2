import RemovableMedia.Proofs.Command.Grammar
import RemovableMedia.Proofs.Server.Effect

/-!
# Commands that are repeated

Every answer repeats the command that it answers, and a client knows its answers by that.  The
arguments of a command are read as they stand, and are cleaned when they are written again.  A frame
has no newline and its arguments have no quotes, so a command is repeated as it was received unless
there is a carriage return in it, which cleaning replaces although it could be written
(`echo_is_exact_iff`).
-/

set_option autoImplicit false

namespace RemovableMedia

/-! ## Characters of a line -/

namespace Line

variable {line : Line} {c : Char}

/-- The characters that a line has beside those of its name and of its texts. -/
def punctuation : List Char :=
  ['n', 'i', 'l', '"', ',', ' ', '(', ')']

/-- A character other than punctuation is written only as part of a text. -/
theorem mem_renderArg_iff (hc : c ∉ punctuation) (arg : Option String) :
    c ∈ renderArg arg ↔ ∃ text, arg = some text ∧ c ∈ text.toList := by
  cases arg with
  | none => simp_all [renderArg, punctuation]
  | some text => simp_all [renderArg, punctuation]

/-- A character other than punctuation is written only as part of one of the texts. -/
theorem mem_renderArgs_iff (hc : c ∉ punctuation) {args : Arguments} :
    c ∈ renderArgs args ↔ ∃ text, some text ∈ args ∧ c ∈ text.toList := by
  induction args with
  | nil => simp [renderArgs]
  | cons arg rest ih =>
    have hfirst := mem_renderArg_iff hc arg
    by_cases hrest : rest = []
    · subst hrest
      rw [renderArgs, hfirst]
      simp [eq_comm]
    · have hseparator : c ≠ ',' ∧ c ≠ ' ' := by
        constructor <;> rintro rfl <;> exact hc (by decide)
      rw [renderArgs_cons arg hrest, List.mem_append, List.mem_cons, List.mem_cons, hfirst, ih]
      simp [hseparator, eq_comm, or_and_right, exists_or]

/-- Any other character of a line is in its name or in one of its texts. -/
theorem mem_render_iff (h : line.WellFormed) (hc : c ∉ punctuation)
    (hname : isNameChar c = false) :
    c ∈ line.render.toList ↔ ∃ text, some text ∈ line.args ∧ c ∈ text.toList := by
  have hparens : c ≠ '(' ∧ c ≠ ')' := by
    constructor <;> rintro rfl <;> exact hc (by decide)
  rw [← mem_renderArgs_iff hc]
  simp [render, renderChars, not_mem_of_isName h.name hname, hparens]

/-- The arguments of a line without newlines are fit for the wire if there is no carriage return
in it. -/
theorem map_clean_args_eq_iff (h : line.WellFormed) (hline : '\n' ∉ line.render.toList) :
    line.args.map (Option.map clean) = line.args ↔ '\r' ∉ line.render.toList := by
  rw [mem_render_iff h (by decide) (by decide)] at hline ⊢
  rw [map_clean_eq_self_iff]
  constructor
  · rintro hkeep ⟨text, hmem, hreturn⟩
    exact (clean_eq_self_iff.1 (hkeep text hmem)).2.2 hreturn
  · intro hnone text hmem
    have hquote : '"' ∉ text.toList := h.args (some text) hmem text rfl
    exact clean_eq_self_iff.2 ⟨hquote, fun hnewline => hline ⟨text, hmem, hnewline⟩,
      fun hreturn => hnone ⟨text, hmem, hreturn⟩⟩

end Line

/-! ## Answers -/

/-- What a message says after the command that it repeats: the code of a failure. -/
def Message.codeArgs : Message → Arguments
  | .failed _ _ code => [some code.word]
  | _ => []

/-- The code of a failure is left alone by cleaning. -/
theorem Message.map_clean_codeArgs (message : Message) :
    message.codeArgs.map (Option.map Line.clean) = message.codeArgs := by
  cases message with
  | failed command args code => simp [codeArgs, clean_code]
  | _ => rfl

namespace Server

open RemovableMedia.Mount (Host Orchestrator Rehearsal)

variable {σ : Type} {command : Command} {replies : List Message}

/-- Some part of an answer repeats its command. -/
theorem Answer.exists_repeats (h : Answer command replies) :
    ∃ message ∈ replies, message.command? ≠ none := by
  cases h with
  | succeeded | failed | listed => exact ⟨_, List.mem_cons_self, nofun⟩

/-- Whatever repeats a command repeats its name and its arguments. -/
theorem Answer.args_eq (h : Answer command replies) {message : Message}
    (hmem : message ∈ replies) (hrepeats : message.command? ≠ none) :
    message.args = some command.name :: (command.args ++ message.codeArgs) := by
  cases h with
  | succeeded =>
    obtain rfl := List.mem_singleton.1 hmem
    exact congrArg _ (List.append_nil _).symm
  | failed code =>
    obtain rfl := List.mem_singleton.1 hmem
    rfl
  | listed hbody =>
    obtain rfl | rfl := eq_of_mem_listing hbody hmem hrepeats <;>
      exact congrArg _ (List.append_nil _).symm

/-- The line of a message that repeats a command has the arguments of the command cleaned. -/
theorem Answer.line_eq (h : Answer command replies) {message : Message}
    (hmem : message ∈ replies) (hrepeats : message.command? ≠ none) :
    message.line = ⟨message.name,
      some command.name :: (command.args.map (Option.map Line.clean) ++ message.codeArgs)⟩ := by
  -- only the arguments of a command come from outside
  have hname : Line.clean command.name = command.name :=
    Line.clean_eq_self_iff.2 ⟨Line.not_mem_of_isName command.isName_name (by decide),
      Line.not_mem_of_isName command.isName_name (by decide),
      Line.not_mem_of_isName command.isName_name (by decide)⟩
  rw [Message.line, h.args_eq hmem hrepeats, Line.make, List.map_cons, List.map_append,
    message.map_clean_codeArgs, Option.map_some, hname]

/-- A frame without newlines that is a command is answered by messages that repeat it.  The line of
each is read back with the name of the command and its arguments, which are cleaned, and before the
code of a failure.  They are the arguments of the frame itself just if the frame has no carriage
return. -/
theorem echo_is_exact_iff (orchestrator : Orchestrator σ) (config : Config) (host : Host σ)
    {frame : String} {outcome : Outcome} (hframe : '\n' ∉ frame.toList)
    (hdispatch : (dispatch orchestrator config frame host).1 = .ok outcome) :
    ∃ line, Line.parse frame = .ok line ∧
      (∃ message ∈ outcome.replies, message.command? ≠ none) ∧
      ∀ message ∈ outcome.replies, message.command? ≠ none →
        '\n' ∉ message.line.render.toList ∧
        Line.parse message.line.render = .ok ⟨message.name,
          some line.name :: (line.args.map (Option.map Line.clean) ++ message.codeArgs)⟩ ∧
        (Line.parse message.line.render = .ok ⟨message.name,
            some line.name :: (line.args ++ message.codeArgs)⟩ ↔
          '\r' ∉ frame.toList) := by
  obtain ⟨command, hcommand, hanswer⟩ := dispatch_eq_ok hdispatch
  obtain ⟨line, hline, hname, hargs⟩ := Command.eq_of_parse (parse_of_recognize hcommand)
  refine ⟨line, hline, hanswer.exists_repeats, fun message hmem hrepeats => ?_⟩
  obtain ⟨hwellFormed, rfl⟩ := Line.eq_of_parse hline
  have hread : Line.parse message.line.render = .ok message.line :=
    Line.parse_render_make message.isName_name message.args
  have hmade := hanswer.line_eq hmem hrepeats
  rw [hname, hargs] at hmade
  refine ⟨message.newline_not_mem_render, hread.trans (congrArg _ hmade), ?_⟩
  rw [hread, hmade, ← Line.map_clean_args_eq_iff hwellFormed hframe]
  simp

/-- A path that looks like the end of a line, and options that are absent. -/
theorem echo_is_exact_iff_of_forged_path :
    let frame := "mount(\"/dev/x, nil)\", nil)"
    let message := Message.failure (.mount "/dev/x, nil)" none) .noSuchRemovableDevice
    '\n' ∉ frame.toList ∧
      (dispatch Rehearsal.orchestrator .standard frame ⟨.plugged, .empty, .start true⟩).1 =
        .ok ⟨[message], []⟩ ∧
      Line.parse message.line.render = .ok ⟨"failed",
        [some "mount", some "/dev/x, nil)", none, some "no_such_removable_device"]⟩ := by
  intro frame message
  have hframe : '\n' ∉ frame.toList := by decide
  have hdispatch : (dispatch Rehearsal.orchestrator .standard frame
      ⟨.plugged, .empty, .start true⟩).1 = .ok ⟨[message], []⟩ := by
    decide +kernel
  have hparse : Line.parse frame = .ok ⟨"mount", [some "/dev/x, nil)", none]⟩ := by
    decide +kernel
  obtain ⟨line, hline, -, hreplies⟩ := echo_is_exact_iff Rehearsal.orchestrator .standard
    ⟨.plugged, .empty, .start true⟩ hframe hdispatch
  obtain rfl := Except.ok.inj (hparse.symm.trans hline)
  obtain ⟨-, -, hexact⟩ := hreplies message (List.mem_singleton.2 rfl) nofun
  exact ⟨hframe, hdispatch, hexact.2 (by decide)⟩

/-- A path with a carriage return is not repeated as it was received. -/
theorem carriage_return_is_replaced :
    let frame := "list_removable_device(\"/dev/sd\rb\")"
    let command := Command.listRemovableDevice "/dev/sd\rb"
    let message := Message.failure command .noSuchRemovableDevice
    '\n' ∉ frame.toList ∧
      (dispatch Rehearsal.orchestrator .standard frame ⟨.plugged, .empty, .start true⟩).1 =
        .ok ⟨[message], []⟩ ∧
      Line.parse frame = .ok ⟨"list_removable_device", [some "/dev/sd\rb"]⟩ ∧
      message.line.wire =
        "failed(\"list_removable_device\", \"/dev/sd_b\", \"no_such_removable_device\")\n" ∧
      Line.parse message.line.render ≠ .ok ⟨"failed", [some "list_removable_device",
        some "/dev/sd\rb", some "no_such_removable_device"]⟩ := by
  decide +kernel

end Server

end RemovableMedia
