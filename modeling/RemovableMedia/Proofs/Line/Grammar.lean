import RemovableMedia.Line.Parser

/-!
# The grammar of lines

A line can be written if its name is a name and no text in it has a quote.  The reader accepts
exactly the written forms of such lines, and reads each as the line that was written
(`parse_eq_ok_iff`).  Building a line cleans its texts, so a line that is built arrives as it was
built (`parse_render_make`).

The proof follows the recursion of the reader: one argument, then the arguments up to the closing
parenthesis, then the name.  What carries it is that a text without quotes ends at the next quote
of the input, whatever else is in it.
-/

set_option autoImplicit false

namespace RemovableMedia.Line

/-- Whether an argument can be written: if it is a text, it has no quote. -/
def Writable (arg : Option String) : Prop :=
  ∀ text, arg = some text → '"' ∉ text.toList

/-- Whether a line can be written. -/
structure WellFormed (line : Line) : Prop where
  name : isName line.name.toList = true
  args : ∀ arg ∈ line.args, Writable arg

/-- An absent argument can be written. -/
theorem writable_none : Writable none := by
  intro text h
  cases h

/-- A text can be written just if it has no quote. -/
theorem writable_some {text : String} : Writable (some text) ↔ '"' ∉ text.toList :=
  ⟨fun h => h text rfl, fun h _ htext => Option.some.inj htext ▸ h⟩

/-! ## One argument -/

/-- An argument that is written is read back, whatever follows it. -/
theorem parseArg_renderArg {arg : Option String} (h : Writable arg) (rest : List Char) :
    parseArg (renderArg arg ++ rest) = .ok (arg, rest) := by
  cases arg with
  | none => rfl
  | some text =>
    have hsplit : Text.splitOnce '"' (text.toList ++ '"' :: rest) = some (text.toList, rest) :=
      Text.splitOnce_append (writable_some.1 h) rest
    simp [renderArg, parseArg, hsplit]

/-- What is read as an argument begins with the argument as it is written. -/
theorem eq_of_parseArg {input rest : List Char} {arg : Option String}
    (h : parseArg input = .ok (arg, rest)) : Writable arg ∧ input = renderArg arg ++ rest := by
  unfold parseArg at h
  split at h
  · obtain ⟨rfl, rfl⟩ := by simpa using h
    exact ⟨writable_none, rfl⟩
  · rename_i body
    split at h
    · rename_i text after hsplit
      obtain ⟨rfl, rfl⟩ := by simpa using h
      have hbody := Text.eq_of_splitOnce_eq_some hsplit
      have hquote := Text.not_mem_of_splitOnce_eq_some hsplit
      exact ⟨writable_some.2 (by simpa using hquote), by simp [renderArg, hbody]⟩
    · cases h
  · cases h

/-! ## Arguments -/

/-- Arguments are written one after another, with a comma and a blank between them. -/
theorem renderArgs_cons (arg : Option String) {rest : Arguments} (h : rest ≠ []) :
    renderArgs (arg :: rest) = renderArg arg ++ ',' :: ' ' :: renderArgs rest := by
  cases rest with
  | nil => exact absurd rfl h
  | cons next rest => rfl

/-- What becomes of the arguments is decided by the first of them and what follows it. -/
theorem parseArgs_eq (input : List Char) :
    parseArgs input =
      match parseArg input with
      | .error e => .error e
      | .ok (arg, ',' :: ' ' :: next) => (parseArgs next).map (arg :: ·)
      | .ok (arg, [')']) => .ok [arg]
      | .ok (_, ')' :: tail) => .error (.trailingData (String.ofList tail))
      | .ok (_, after) => .error (.expectedSeparator (String.ofList after)) := by
  -- one case for each branch, so that later proofs need not open the recursion
  fun_cases parseArgs input with
  | case1 e harg => rw [harg]
  | case2 arg next harg _ args hnext =>
    rw [harg]
    show Except.ok (arg :: args) = (parseArgs next).map (arg :: ·)
    rw [hnext]
    rfl
  | case3 arg next harg _ e hnext =>
    rw [harg]
    show Except.error e = (parseArgs next).map (arg :: ·)
    rw [hnext]
    rfl
  | case4 arg harg =>
    rw [harg]
    rfl
  | case5 arg tail hne harg =>
    rw [harg]
    split <;> rename_i hsame <;> cases hsame
    · exact absurd rfl hne
    · rfl
    · grind
  | case6 arg after hcomma hclosed hclose harg =>
    rw [harg]
    split <;> rename_i hsame <;> cases hsame
    · exact absurd rfl (hcomma _)
    · exact absurd rfl hclosed
    · exact absurd rfl (hclose _)
    · rfl

/-- After a comma and a blank the other arguments are read. -/
theorem parseArgs_of_separator {input next : List Char} {arg : Option String}
    (harg : parseArg input = .ok (arg, ',' :: ' ' :: next)) :
    parseArgs input = (parseArgs next).map (arg :: ·) := by
  rw [parseArgs_eq, harg]
  rfl

/-- Before the closing parenthesis the last argument is read. -/
theorem parseArgs_of_closing {input : List Char} {arg : Option String}
    (harg : parseArg input = .ok (arg, [')'])) : parseArgs input = .ok [arg] := by
  rw [parseArgs_eq, harg]
  rfl

/-- Arguments that are written are read back up to the closing parenthesis. -/
theorem parseArgs_renderArgs {args : Arguments} (hne : args ≠ [])
    (h : ∀ arg ∈ args, Writable arg) : parseArgs (renderArgs args ++ [')']) = .ok args := by
  induction args with
  | nil => exact absurd rfl hne
  | cons arg rest ih =>
    have harg := parseArg_renderArg (h arg List.mem_cons_self)
    by_cases hrest : rest = []
    · subst hrest
      exact parseArgs_of_closing (harg [')'])
    · have hread := ih hrest fun other hmem => h other (List.mem_cons_of_mem _ hmem)
      rw [renderArgs_cons arg hrest, List.append_assoc, List.cons_append, List.cons_append,
        parseArgs_of_separator (harg _), hread]
      rfl

/-- What is read as arguments is how they are written, with the closing parenthesis. -/
theorem eq_of_parseArgs {input : List Char} {args : Arguments} (h : parseArgs input = .ok args) :
    args ≠ [] ∧ (∀ arg ∈ args, Writable arg) ∧ input = renderArgs args ++ [')'] := by
  -- Only two ways through the reader end well: after the last argument, and after one that is
  -- followed by a separator and by arguments that are read well.
  fun_induction parseArgs input generalizing args with
  | case2 input arg next harg _ rest hrest ih =>
    cases h
    obtain ⟨hne, hwritable, rfl⟩ := ih hrest
    obtain ⟨hfirst, rfl⟩ := eq_of_parseArg harg
    refine ⟨by simp, List.forall_mem_cons.2 ⟨hfirst, hwritable⟩, ?_⟩
    rw [renderArgs_cons arg hne]
    simp
  | case4 input arg harg =>
    cases h
    obtain ⟨hfirst, rfl⟩ := eq_of_parseArg harg
    exact ⟨by simp, by simpa using hfirst, rfl⟩
  | case1 | case3 | case5 | case6 => cases h

/-- What stands in the parentheses is read back, also if there are no arguments. -/
theorem parseBody_renderArgs {args : Arguments} (h : ∀ arg ∈ args, Writable arg) :
    parseBody (renderArgs args ++ [')']) = .ok args := by
  cases args with
  | nil => rfl
  | cons arg rest =>
    -- Nothing that an argument begins with is a parenthesis, so the reader of arguments is asked.
    have hread := parseArgs_renderArgs (by simp) h
    unfold parseBody
    split
    · rename_i hinput
      cases arg <;> cases rest <;> simp [renderArgs, renderArg] at hinput
    · rename_i hinput
      cases arg <;> cases rest <;> simp [renderArgs, renderArg] at hinput
    · exact hread

/-- What is read from inside the parentheses is how the arguments are written. -/
theorem eq_of_parseBody {input : List Char} {args : Arguments} (h : parseBody input = .ok args) :
    (∀ arg ∈ args, Writable arg) ∧ input = renderArgs args ++ [')'] := by
  unfold parseBody at h
  split at h
  · cases h
    exact ⟨by simp, rfl⟩
  · cases h
  · exact (eq_of_parseArgs h).2

/-! ## Lines -/

/-- A name has only characters of names. -/
theorem not_mem_of_isName {name : List Char} (h : isName name = true) {c : Char}
    (hc : isNameChar c = false) : c ∉ name := by
  intro hmem
  unfold isName at h
  rw [Bool.and_eq_true, List.all_eq_true] at h
  have := h.2 c hmem
  simp [hc] at this

/-- A line that is written is read back. -/
theorem parse_render {line : Line} (h : line.WellFormed) : parse line.render = .ok line := by
  have hcut : Text.splitOnce '(' line.renderChars =
      some (line.name.toList, renderArgs line.args ++ [')']) :=
    Text.splitOnce_append (not_mem_of_isName h.name (by decide)) _
  have hchars : line.renderChars.isEmpty = false := by
    simp [renderChars]
  simp [parse, render, parseChars, hchars, hcut, h.name, parseBody_renderArgs h.args]

/-- What is read as a line is how the line is written. -/
theorem eq_of_parse {text : String} {line : Line} (h : parse text = .ok line) :
    line.WellFormed ∧ text = line.render := by
  unfold parse parseChars at h
  split at h
  · cases h
  · split at h
    · cases h
    · rename_i name body hcut
      split at h
      · rename_i hname
        split at h
        · rename_i args hbody
          cases h
          obtain ⟨hwritable, rfl⟩ := eq_of_parseBody hbody
          refine ⟨⟨by simpa using hname, hwritable⟩, ?_⟩
          have htext := Text.eq_of_splitOnce_eq_some hcut
          rw [← String.toList_inj]
          simpa [render, renderChars] using htext
        · cases h
      · cases h

/-- A text is read as a line exactly if the line can be written and the text is its written form. -/
theorem parse_eq_ok_iff {text : String} {line : Line} :
    parse text = .ok line ↔ line.WellFormed ∧ text = line.render :=
  ⟨eq_of_parse, fun ⟨h, htext⟩ => htext ▸ parse_render h⟩

/-! ## Lines that are built -/

/-- A cleaned text has no quote, no newline and no carriage return. -/
theorem not_mem_clean (text : String) {c : Char} (hc : c = '"' ∨ c = '\n' ∨ c = '\r') :
    c ∉ (clean text).toList := by
  intro hmem
  simp only [clean, String.toList_ofList, List.mem_map] at hmem
  obtain ⟨d, -, rfl⟩ := hmem
  obtain ⟨hquote, hnewline, hreturn⟩ := cleanChar_ne d
  rcases hc with h | h | h
  · exact hquote h
  · exact hnewline h
  · exact hreturn h

/-- Cleaning changes a text just if it has one of the characters that are replaced. -/
theorem clean_eq_self_iff {text : String} :
    clean text = text ↔ '"' ∉ text.toList ∧ '\n' ∉ text.toList ∧ '\r' ∉ text.toList := by
  constructor
  · intro h
    rw [← h]
    exact ⟨not_mem_clean text (.inl rfl), not_mem_clean text (.inr (.inl rfl)),
      not_mem_clean text (.inr (.inr rfl))⟩
  · rintro ⟨hquote, hnewline, hreturn⟩
    have hkeep : ∀ c ∈ text.toList, cleanChar c = c := by
      intro c hmem
      refine if_neg ?_
      rintro (rfl | rfl | rfl)
      · exact hquote hmem
      · exact hnewline hmem
      · exact hreturn hmem
    rw [clean, List.map_congr_left hkeep, List.map_id', String.ofList_toList]

/-- Cleaning leaves arguments as they are just if it leaves each text of them. -/
theorem map_clean_eq_self_iff {args : Arguments} :
    args.map (Option.map clean) = args ↔ ∀ text, some text ∈ args → clean text = text := by
  induction args with
  | nil => simp
  | cons arg rest ih =>
    rw [List.map_cons, List.cons.injEq, ih]
    cases arg with
    | none => simp
    | some first => simp

/-- A line that is made with a proper name can be written. -/
theorem wellFormed_make {name : String} (h : isName name.toList = true) (args : Arguments) :
    (make name args).WellFormed where
  name := h
  args := by
    intro arg hmem text htext
    obtain ⟨given, -, rfl⟩ := List.mem_map.1 hmem
    obtain ⟨raw, -, rfl⟩ := Option.map_eq_some_iff.1 htext
    exact not_mem_clean raw (.inl rfl)

/-- A line that is made with a proper name is read back. -/
theorem parse_render_make {name : String} (h : isName name.toList = true) (args : Arguments) :
    parse (make name args).render = .ok (make name args) :=
  parse_render (wellFormed_make h args)

/-- Arguments that are added one by one are the same as arguments that are given at once. -/
theorem foldl_push_make (name : String) (given more : Arguments) :
    more.foldl push (make name given) = make name (given ++ more) := by
  induction more generalizing given with
  | nil => simp
  | cons arg rest ih =>
    have hpush : push (make name given) arg = make name (given ++ [arg]) := by
      simp [push, make]
    rw [List.foldl_cons, hpush, ih, List.append_assoc, List.singleton_append]

/-- The reader accepts exactly what is written of lines that can be written, which fixes the line,
and reads every line that is built, with as many arguments as it was given and absent ones at the
same places. -/
theorem reads_exactly_written_lines (text : String) (line : Line) (name : String)
    (given more : Arguments) :
    (parse text = .ok line ↔ line.WellFormed ∧ text = line.render) ∧
      (isName name.toList = true →
        let built := more.foldl push (make name given)
        parse built.render = .ok built ∧ built.args.length = (given ++ more).length ∧
          ∀ i : Nat, built.args[i]? = some none ↔ (given ++ more)[i]? = some none) := by
  refine ⟨parse_eq_ok_iff, fun hname => ?_⟩
  rw [foldl_push_make]
  refine ⟨parse_render_make hname _, List.length_map _, fun i => ?_⟩
  simp only [make, List.getElem?_map]
  cases (given ++ more)[i]? with
  | none => simp
  | some arg => cases arg <;> simp

/-- A text that looks like the end of a line, an absent argument and a text with a quote. -/
theorem reads_exactly_written_lines_of_mount :
    parse "x(\"a, nil)\", nil)" = .ok ⟨"x", [some "a, nil)", none]⟩ ∧
      isName "mount".toList = true ∧
      parse (([none].foldl push (make "mount" [some "/dev/\"sdb1\n"]))).render =
        .ok ⟨"mount", [some "/dev/_sdb1_", none]⟩ := by
  have hwellFormed : WellFormed ⟨"x", [some "a, nil)", none]⟩ := by
    refine ⟨by decide, ?_⟩
    simp [writable_none, writable_some]
  have hname : isName "mount".toList = true := by decide
  have h := reads_exactly_written_lines "x(\"a, nil)\", nil)" ⟨"x", [some "a, nil)", none]⟩ "mount"
    [some "/dev/\"sdb1\n"] [none]
  exact ⟨h.1.2 ⟨hwellFormed, by decide⟩, hname, (h.2 hname).1⟩

end RemovableMedia.Line
