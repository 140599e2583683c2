import RemovableMedia.Command
import RemovableMedia.Proofs.Line.Grammar
import RemovableMedia.Proofs.Server.Frame

/-!
# Commands on the wire

A command is read from its line as it was written, up to the characters that no line can carry
(`parse_render`).  Since these are exactly the characters that could end a text or a line early, a
stream of commands arrives as the same commands however its bytes are cut on the way
(`stream_arrives`).
-/

set_option autoImplicit false

namespace RemovableMedia

namespace Line

/-- A cleaned text has nothing left to clean. -/
theorem clean_clean (text : String) : clean (clean text) = clean text := by
  simp [clean, Function.comp_def]

/-- Cleaned arguments have nothing left to clean. -/
theorem map_clean_clean (args : Arguments) :
    (args.map (Option.map clean)).map (Option.map clean) = args.map (Option.map clean) := by
  simp [Function.comp_def, clean_clean]

/-- A cleaned argument is written without a newline. -/
theorem newline_not_mem_renderArg (arg : Option String) :
    '\n' ∉ renderArg (arg.map clean) := by
  cases arg with
  | none => decide
  | some text =>
    have htext := not_mem_clean text (.inr (.inl rfl))
    simp [renderArg, htext]

/-- Cleaned arguments are written without a newline. -/
theorem newline_not_mem_renderArgs (args : Arguments) :
    '\n' ∉ renderArgs (args.map (Option.map clean)) := by
  induction args with
  | nil => simp [renderArgs]
  | cons arg rest ih =>
    have harg := newline_not_mem_renderArg arg
    cases rest with
    | nil => exact harg
    | cons next rest =>
      rw [List.map_cons, renderArgs_cons _ (by simp), List.mem_append, List.mem_cons,
        List.mem_cons, not_or, not_or, not_or]
      exact ⟨harg, by decide, by decide, ih⟩

/-- On the wire a line is followed by a newline, which is the byte 10. -/
theorem encode_wire (line : Line) :
    Text.Utf8.encode line.wire = Text.Utf8.encode line.render ++ [10] := by
  rw [wire, Text.Utf8.encode_append, Text.Utf8.encode_newline]

/-- A line that is built is written without a newline. -/
theorem newline_not_mem_render_make {name : String} (h : isName name.toList = true)
    (args : Arguments) : '\n' ∉ (make name args).render.toList := by
  have hname := not_mem_of_isName h (c := '\n') (by decide)
  have hargs := newline_not_mem_renderArgs args
  simp [render, renderChars, make, hname, hargs]

end Line

namespace Command

/-- A command with every text as an argument can carry it. -/
def cleaned : Command → Command
  | listAllRemovableDevices => listAllRemovableDevices
  | listRemovableDevice path => listRemovableDevice (Line.clean path)
  | mount path options => mount (Line.clean path) (options.map Line.clean)
  | unmount path => unmount (Line.clean path)
  | listSupportedFilesystems => listSupportedFilesystems
  | listSupportedFilesystemOptions filesystem =>
    listSupportedFilesystemOptions (Line.clean filesystem)
  | poweroff path => poweroff (Line.clean path)

/-- Cleaning its arguments leaves a command's name alone. -/
@[simp]
theorem name_cleaned (command : Command) : command.cleaned.name = command.name := by
  cases command <;> rfl

/-- The arguments of a cleaned command are the cleaned arguments of the command. -/
@[simp]
theorem args_cleaned (command : Command) :
    command.cleaned.args = command.args.map (Option.map Line.clean) := by
  cases command <;> rfl

/-- Cleaning its arguments leaves a command one that is, or is not, answered by a listing. -/
theorem isListing_cleaned (command : Command) :
    command.cleaned.isListing = command.isListing := by
  cases command <;> rfl

/-- Each command has a name that lines can have. -/
theorem isName_name (command : Command) : Line.isName command.name.toList = true := by
  cases command <;> simp only [name] <;> decide

/-- A command that is put in a line is read back from it, cleaned. -/
theorem ofLine_line (command : Command) : ofLine command.line = .ok command.cleaned := by
  cases command <;>
    simp [ofLine, line, Line.make, name, args, nullary, unary, ofMountArgs, cleaned]

/-- A command is read from its line with its texts cleaned. -/
theorem parse_render (command : Command) :
    Command.parse command.line.render = .ok command.cleaned := by
  rw [Command.parse, line, Line.parse_render_make command.isName_name]
  exact command.ofLine_line

/-- A command is written without a newline. -/
theorem newline_not_mem_render (command : Command) : '\n' ∉ command.line.render.toList :=
  Line.newline_not_mem_render_make command.isName_name command.args

/-- Commands whose lines are short enough, sent one after another, arrive as the same commands with
their texts cleaned, however the bytes of their lines are cut into pieces. -/
theorem stream_arrives (commands : List Command) (pieces : List (List UInt8))
    (hlength : ∀ command ∈ commands,
      (Text.Utf8.encode command.line.wire).length ≤ Server.FrameBuffer.usualLimit)
    (hpieces : pieces.flatten =
      commands.flatMap fun command => Text.Utf8.encode command.line.wire) :
    let arrival := Server.FrameBuffer.empty.feedAll pieces
    (∀ fed ∈ arrival.1, fed.error = none) ∧ arrival.2.pending = [] ∧
      (arrival.1.flatMap Server.Fed.frames).map Command.parse =
        commands.map fun command => .ok command.cleaned := by
  let texts := commands.map fun command => command.line.render
  -- The newline counts for the length of a line on the wire but not for that of a frame.
  have hshort : ∀ text ∈ texts, '\n' ∉ text.toList ∧
      (Text.Utf8.encode text).length < Server.FrameBuffer.usualLimit := by
    intro text hmem
    obtain ⟨command, hcommand, rfl⟩ := List.mem_map.1 hmem
    refine ⟨command.newline_not_mem_render, ?_⟩
    have := hlength command hcommand
    rw [Line.encode_wire, List.length_append] at this
    exact Nat.lt_of_succ_le this
  have hwhole : Server.FrameBuffer.empty.feed pieces.flatten =
      (⟨texts, none⟩, ⟨Server.FrameBuffer.usualLimit, []⟩) := by
    have hbytes : pieces.flatten = texts.flatMap fun text => Text.Utf8.encode (text ++ "\n") := by
      rw [hpieces, List.flatMap_map]
      rfl
    rw [hbytes]
    exact Server.FrameBuffer.drain_lines (by decide) texts hshort
  obtain ⟨herrors, hframes, hbuffer⟩ :=
    Server.FrameBuffer.feedAll_of_feed Server.FrameBuffer.settled_empty pieces (by rw [hwhole])
  refine ⟨herrors, by rw [hbuffer, hwhole], ?_⟩
  rw [hframes, hwhole, List.map_map]
  exact List.map_congr_left fun command _ => command.parse_render

/-- A stream that is cut inside the two bytes of a letter, of a command whose path looks like the
end of its line and the beginning of another. -/
theorem stream_arrives_of_cut_letter :
    let commands := [unmount "/é\")\npoweroff(\"/", listSupportedFilesystems]
    let bytes := commands.flatMap fun command => Text.Utf8.encode command.line.wire
    let pieces := [bytes.take 11, bytes.drop 11]
    (∀ command ∈ commands,
      (Text.Utf8.encode command.line.wire).length ≤ Server.FrameBuffer.usualLimit) ∧
      bytes.take 11 ≠ [] ∧ bytes.drop 11 ≠ [] ∧ Text.Utf8.decode? (bytes.take 11) = none ∧
      ((Server.FrameBuffer.empty.feedAll pieces).1.flatMap Server.Fed.frames).map Command.parse =
        [.ok (unmount "/é_)_poweroff(_/"), .ok listSupportedFilesystems] := by
  intro commands bytes pieces
  have hlength : ∀ command ∈ commands,
      (Text.Utf8.encode command.line.wire).length ≤ Server.FrameBuffer.usualLimit := by
    simp only [Text.Utf8.encode_eq, commands]
    decide +kernel
  have hbytes : bytes.take 11 = [117, 110, 109, 111, 117, 110, 116, 40, 34, 47, 195] ∧
      bytes.drop 11 ≠ [] := by
    simp only [bytes, Text.Utf8.encode_eq, commands]
    decide +kernel
  have hpath : Line.clean "/é\")\npoweroff(\"/" = "/é_)_poweroff(_/" := by decide +kernel
  have harrives := stream_arrives commands pieces hlength (by simp [pieces, bytes])
  refine ⟨hlength, by simp [hbytes.1], hbytes.2, ?_, ?_⟩
  · rw [hbytes.1]
    decide +kernel
  · rw [harrives.2.2]
    simp [commands, cleaned, hpath]

end Command

end RemovableMedia
