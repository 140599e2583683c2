import Mathlib.Logic.ExistsUnique
import RemovableMedia.Proofs.Line.Grammar
import RemovableMedia.Proofs.Text.Split

/-!
# Where a text leaves the grammar

A text that is no line goes wrong at one place, and the refusal names it: what stands before that
place can be completed to a line, and what stands there is nothing that could follow (`Fault`).
Every text that is not accepted has just one fault, and the reader finds it
(`refusal_is_first_fault`).

What carries the proof is how far the reader has come.  Up to the place it has seen a name, the
parenthesis, and arguments each of which a separator follows (`lead`), perhaps with one more
argument at the end; reading goes on from there as if nothing had stood before (`parseArgs_lead`).
The beginnings of lines are just the texts of this form, since a completion by `nil)`, by a quote or
by a parenthesis shows which of them it completes (`accepted_append_nil_iff` and its like).
-/

set_option autoImplicit false

namespace RemovableMedia.Line

/-! ## Arguments and separators -/

/-- Arguments with a separator after each of them. -/
def lead (args : Arguments) : List Char :=
  args.flatMap fun arg => renderArg arg ++ [',', ' ']

/-- Arguments are written as those before the last one, each with its separator, and the last one.
-/
theorem renderArgs_concat (args : Arguments) (arg : Option String) :
    renderArgs (args ++ [arg]) = lead args ++ renderArg arg := by
  induction args with
  | nil => rfl
  | cons first rest ih =>
    rw [List.cons_append, renderArgs_cons first (by simp), ih]
    simp [lead]

/-- After arguments and separators the reader goes on with the rest. -/
theorem parseArgs_lead {args : Arguments} (h : ∀ arg ∈ args, Writable arg) (rest : List Char) :
    parseArgs (lead args ++ rest) = (parseArgs rest).map (args ++ ·) := by
  induction args with
  | nil =>
    show parseArgs rest = _
    cases parseArgs rest <;> rfl
  | cons arg args ih =>
    obtain ⟨harg, hargs⟩ := List.forall_mem_cons.1 h
    have hinput : lead (arg :: args) ++ rest =
        renderArg arg ++ ',' :: ' ' :: (lead args ++ rest) := by
      simp [lead]
    rw [hinput, parseArgs_of_separator (parseArg_renderArg harg _), ih hargs]
    cases parseArgs rest <;> rfl

/-- No argument begins with the parenthesis that ends a line. -/
theorem not_close_prefix_renderArg (arg : Option String) (rest : List Char) :
    ¬ [')'] <+: renderArg arg ++ rest := by
  cases arg <;> simp [renderArg]

/-- Where an argument comes with its separator, there is no closing parenthesis first. -/
theorem not_close_prefix_lead {args : Arguments} (hne : args ≠ []) (rest : List Char) :
    ¬ [')'] <+: lead args ++ rest := by
  obtain ⟨arg, args, rfl⟩ := List.exists_cons_of_ne_nil hne
  simp only [lead, List.flatMap_cons, List.append_assoc]
  exact not_close_prefix_renderArg arg _

/-- Where an argument is written, there is no closing parenthesis first. -/
theorem not_close_prefix_renderArgs {args : Arguments} (hne : args ≠ []) (rest : List Char) :
    ¬ [')'] <+: renderArgs args ++ rest := by
  obtain ⟨init, last, rfl⟩ := args.eq_nil_or_concat.resolve_left hne
  rw [List.concat_eq_append, renderArgs_concat, List.append_assoc]
  by_cases hinit : init = []
  · rw [hinit]
    exact not_close_prefix_renderArg last rest
  · exact not_close_prefix_lead hinit _

/-! ## What goes wrong among the arguments -/

/-- How arguments go wrong. -/
inductive ArgsFault : List Char → LineError → Prop where
  | expectedArgument {args : Arguments} {rest : List Char} (hargs : ∀ arg ∈ args, Writable arg)
      (hnil : ¬ ['n', 'i', 'l'] <+: rest) (hquote : ¬ ['"'] <+: rest) :
      ArgsFault (lead args ++ rest) (.expectedArgument (String.ofList rest))
  | unterminatedString {args : Arguments} {body : List Char} (hargs : ∀ arg ∈ args, Writable arg)
      (hbody : '"' ∉ body) : ArgsFault (lead args ++ '"' :: body) .unterminatedString
  | expectedSeparator {args : Arguments} {rest : List Char} (hne : args ≠ [])
      (hargs : ∀ arg ∈ args, Writable arg) (hcomma : ¬ [',', ' '] <+: rest)
      (hclose : ¬ [')'] <+: rest) :
      ArgsFault (renderArgs args ++ rest) (.expectedSeparator (String.ofList rest))
  | trailingData {args : Arguments} {rest : List Char} (hne : args ≠ [])
      (hargs : ∀ arg ∈ args, Writable arg) (hrest : rest ≠ []) :
      ArgsFault (renderArgs args ++ ')' :: rest) (.trailingData (String.ofList rest))

namespace ArgsFault

variable {input : List Char} {e : LineError}

/-- A fault after an argument with its separator is one of the arguments. -/
theorem cons {arg : Option String} (harg : Writable arg) (h : ArgsFault input e) :
    ArgsFault (renderArg arg ++ ',' :: ' ' :: input) e := by
  have hlead : ∀ (args : Arguments) (rest : List Char),
      renderArg arg ++ ',' :: ' ' :: (lead args ++ rest) = lead (arg :: args) ++ rest := by
    simp [lead]
  have hrender : ∀ (args : Arguments) (rest : List Char), args ≠ [] →
      renderArg arg ++ ',' :: ' ' :: (renderArgs args ++ rest) =
        renderArgs (arg :: args) ++ rest := by
    intro args rest hne
    rw [renderArgs_cons arg hne]
    simp
  cases h with
  | expectedArgument hargs hnil hquote =>
    rw [hlead]
    exact .expectedArgument (List.forall_mem_cons.2 ⟨harg, hargs⟩) hnil hquote
  | unterminatedString hargs hbody =>
    rw [hlead]
    exact .unterminatedString (List.forall_mem_cons.2 ⟨harg, hargs⟩) hbody
  | expectedSeparator hne hargs hcomma hclose =>
    rw [hrender _ _ hne]
    exact .expectedSeparator (by simp) (List.forall_mem_cons.2 ⟨harg, hargs⟩) hcomma hclose
  | trailingData hne hargs hrest =>
    rw [hrender _ _ hne]
    exact .trailingData (by simp) (List.forall_mem_cons.2 ⟨harg, hargs⟩) hrest

/-- A fault of the first argument is one of the arguments. -/
theorem of_parseArg (h : parseArg input = .error e) : ArgsFault input e := by
  unfold parseArg at h
  split at h
  · cases h
  · split at h
    · cases h
    · rename_i hcut
      cases h
      exact @ArgsFault.unterminatedString [] _ (by simp) (Text.splitOnce_eq_none_iff.1 hcut)
  · rename_i hnil hquote
    cases h
    refine @ArgsFault.expectedArgument [] _ (by simp) ?_ ?_
    · rintro ⟨rest, rfl⟩
      exact hnil rest rfl
    · rintro ⟨rest, rfl⟩
      exact hquote rest rfl

/-- What is refused as arguments has a fault. -/
theorem of_parseArgs (h : parseArgs input = .error e) : ArgsFault input e := by
  -- the reader fails at the first argument, after it, or among those that follow a separator
  fun_induction parseArgs input generalizing e with
  | case1 input other harg =>
    cases h
    exact of_parseArg harg
  | case3 input arg next harg _ other hrest ih =>
    cases h
    obtain ⟨hfirst, rfl⟩ := eq_of_parseArg harg
    exact cons hfirst (ih hrest)
  | case5 input arg rest hne harg =>
    cases h
    obtain ⟨hwritable, rfl⟩ := eq_of_parseArg harg
    have hrest : rest ≠ [] := by
      rintro rfl
      exact hne rfl
    exact @ArgsFault.trailingData [arg] _ (by simp) (by simpa using hwritable) hrest
  | case6 input arg rest hcomma hclosed hclose harg =>
    cases h
    obtain ⟨hwritable, rfl⟩ := eq_of_parseArg harg
    refine @ArgsFault.expectedSeparator [arg] _ (by simp) (by simpa using hwritable) ?_ ?_
    · rintro ⟨next, rfl⟩
      exact hcomma next rfl
    · rintro ⟨tail, rfl⟩
      exact hclose tail rfl
  | case2 | case4 => cases h

/-- Arguments with a fault are refused with it. -/
theorem refused (h : ArgsFault input e) : parseArgs input = .error e := by
  cases h with
  | @expectedArgument args rest hargs hnil hquote =>
    have hrest : parseArg rest = .error (.expectedArgument (String.ofList rest)) := by
      unfold parseArg
      split
      · exact absurd (List.prefix_append ['n', 'i', 'l'] _) hnil
      · exact absurd (List.prefix_append ['"'] _) hquote
      · rfl
    rw [parseArgs_lead hargs, parseArgs_eq, hrest]
    rfl
  | @unterminatedString args body hargs hbody =>
    have hrest : parseArg ('"' :: body) = .error .unterminatedString := by
      rw [parseArg, Text.splitOnce_eq_none_iff.2 hbody]
    rw [parseArgs_lead hargs, parseArgs_eq, hrest]
    rfl
  | @expectedSeparator args rest hne hargs hcomma hclose =>
    obtain ⟨init, last, rfl⟩ := args.eq_nil_or_concat.resolve_left hne
    rw [List.concat_eq_append] at hargs ⊢
    obtain ⟨hinit, hlast⟩ := List.forall_mem_append.1 hargs
    -- the last argument is where the loop looks for a separator
    have hrest : parseArgs (renderArg last ++ rest) =
        .error (.expectedSeparator (String.ofList rest)) := by
      rw [parseArgs_eq, parseArg_renderArg (hlast last (by simp))]
      split <;> rename_i hsame <;> cases hsame
      · exact absurd (List.prefix_append [',', ' '] _) hcomma
      · exact absurd (List.prefix_refl [')']) hclose
      · exact absurd (List.prefix_append [')'] _) hclose
      · rfl
    rw [renderArgs_concat, List.append_assoc, parseArgs_lead hinit, hrest]
    rfl
  | @trailingData args rest hne hargs hrest =>
    obtain ⟨init, last, rfl⟩ := args.eq_nil_or_concat.resolve_left hne
    rw [List.concat_eq_append] at hargs ⊢
    obtain ⟨hinit, hlast⟩ := List.forall_mem_append.1 hargs
    have hend : parseArgs (renderArg last ++ ')' :: rest) =
        .error (.trailingData (String.ofList rest)) := by
      rw [parseArgs_eq, parseArg_renderArg (hlast last (by simp))]
      split <;> rename_i hsame <;> cases hsame
      · exact absurd rfl hrest
      · rfl
      · grind
    rw [renderArgs_concat, List.append_assoc, parseArgs_lead hinit, hend]
    rfl

end ArgsFault

/-! ## What follows the parenthesis -/

/-- Something after a closing parenthesis is refused as trailing data. -/
theorem parseBody_close {tail : List Char} (h : tail ≠ []) :
    parseBody (')' :: tail) = .error (.trailingData (String.ofList tail)) := by
  cases tail with
  | nil => exact absurd rfl h
  | cons c rest => rfl

/-- Without a closing parenthesis first, arguments are read. -/
theorem parseBody_eq_parseArgs {body : List Char} (h : ¬ [')'] <+: body) :
    parseBody body = parseArgs body := by
  unfold parseBody
  split
  · exact absurd (List.prefix_refl [')']) h
  · exact absurd (List.prefix_append [')'] _) h
  · rfl

/-- A name, the parenthesis, and what follows it. -/
def opened (name : String) (body : List Char) : List Char :=
  name.toList ++ '(' :: body

/-- What follows an opened text follows what was opened in it. -/
theorem opened_append (name : String) (body rest : List Char) :
    opened name body ++ rest = opened name (body ++ rest) := by
  simp [opened]

/-- A text with a parenthesis falls into what stands before the first one and what follows. -/
theorem exists_opened {text : String} (h : '(' ∈ text.toList) :
    ∃ name body, '(' ∉ String.toList name ∧ text.toList = opened name body := by
  cases hcut : Text.splitOnce '(' text.toList with
  | none => exact absurd h (Text.splitOnce_eq_none_iff.1 hcut)
  | some parts =>
    obtain ⟨before, body⟩ := parts
    refine ⟨String.ofList before, body, ?_, ?_⟩
    · rw [String.toList_ofList]
      exact Text.not_mem_of_splitOnce_eq_some hcut
    · rw [opened, String.toList_ofList]
      exact Text.eq_of_splitOnce_eq_some hcut

/-- Up to the first opening parenthesis is the name, which has to be proper, and after it the
arguments. -/
theorem parse_opened {text name : String} {body : List Char} (hfirst : '(' ∉ name.toList)
    (htext : text.toList = opened name body) :
    parse text =
      if isName name.toList then (parseBody body).map (Line.mk name)
      else .error (.invalidName name) := by
  have hcut : Text.splitOnce '(' (opened name body) = some (name.toList, body) :=
    Text.splitOnce_append hfirst body
  have hne : (opened name body).isEmpty = false := by
    simp [opened]
  rw [parse, htext, parseChars, hne, hcut]
  cases hbody : parseBody body <;> simp [hbody, Except.map]

/-- A text that is not empty and opens no parenthesis is refused for just that. -/
theorem parse_of_not_mem {text : String} (hne : text ≠ "") (hopen : '(' ∉ text.toList) :
    parse text = .error .missingOpenParen := by
  simp [parse, parseChars, hne, Text.splitOnce_eq_none_iff.2 hopen]

/-- A fault of the arguments is one of the text in which they are opened. -/
theorem refused_of_argsFault {text : String} {line : Line} (h : line.WellFormed)
    {body : List Char} {e : LineError} (htext : text.toList = opened line.name body)
    (hclose : ¬ [')'] <+: body) (hfault : ArgsFault body e) : parse text = .error e := by
  have hfirst : '(' ∉ line.name.toList := not_mem_of_isName h.name (by decide)
  rw [parse_opened hfirst htext, if_pos h.name, parseBody_eq_parseArgs hclose, hfault.refused]
  rfl

/-! ## Beginnings of lines -/

/-- Whether a text is read as a line. -/
def Accepted (text : String) : Prop :=
  ∃ line, parse text = .ok line

/-- A text is accepted just if a line is written so. -/
theorem accepted_iff {text : String} :
    Accepted text ↔ ∃ line : Line, line.WellFormed ∧
      text.toList = opened line.name (renderArgs line.args ++ [')']) := by
  unfold Accepted
  refine exists_congr fun line => parse_eq_ok_iff.trans (and_congr_right fun _ => ?_)
  rw [← String.toList_inj, render, String.toList_ofList]
  rfl

/-- A text that is refused is not accepted. -/
theorem not_accepted_of_refused {text : String} {e : LineError} (h : parse text = .error e) :
    ¬ Accepted text := by
  rintro ⟨line, hline⟩
  rw [h] at hline
  cases hline

/-- A text with a closing parenthesis added is accepted just if it is a line up to there. -/
theorem accepted_append_close_iff {read : String} :
    Accepted (read ++ ")") ↔ ∃ line : Line, line.WellFormed ∧
      read.toList = opened line.name (renderArgs line.args) := by
  rw [accepted_iff]
  refine exists_congr fun line => and_congr_right fun _ => ?_
  rw [← opened_append, String.toList_append]
  exact List.append_left_inj _

/-- An argument as it is written, without its last character. -/
def argStem : Option String → List Char
  | none => ['n', 'i']
  | some text => '"' :: text.toList

/-- The last character of an argument as it is written. -/
def argEnd : Option String → Char
  | none => 'l'
  | some _ => '"'

/-- An argument is written as a stem and its last character. -/
theorem renderArg_eq (arg : Option String) : renderArg arg = argStem arg ++ [argEnd arg] := by
  cases arg <;> rfl

/-- Whatever can be closed and does not end in the parenthesis that opens it ends in an argument. -/
theorem eq_of_append_singleton {read : List Char} {c : Char} {line : Line} (hc : c ≠ '(')
    (h : read ++ [c] = opened line.name (renderArgs line.args)) :
    ∃ args arg, line.args = args ++ [arg] ∧ argEnd arg = c ∧
      read = opened line.name (lead args ++ argStem arg) := by
  obtain hnil | ⟨args, arg, hargs⟩ := line.args.eq_nil_or_concat
  · rw [hnil] at h
    have hlast := (List.append_inj' (h : read ++ [c] = line.name.toList ++ ['(']) rfl).2
    exact absurd (List.singleton_inj.1 hlast) hc
  · rw [List.concat_eq_append] at hargs
    rw [hargs, renderArgs_concat, renderArg_eq, ← List.append_assoc, ← opened_append] at h
    obtain ⟨hread, hlast⟩ := List.append_inj' h rfl
    exact ⟨args, arg, hargs, (List.singleton_inj.1 hlast).symm, hread⟩

/-- A text can go on with an absent argument and be accepted just if it is a line up to an argument.
-/
theorem accepted_append_nil_iff {read : String} :
    Accepted (read ++ "nil)") ↔ ∃ line : Line, line.WellFormed ∧
      read.toList = opened line.name (lead line.args) := by
  have hcut : read ++ "nil)" = (read ++ "nil") ++ ")" := by
    rw [String.append_assoc]
    rfl
  rw [hcut, accepted_append_close_iff]
  constructor
  · rintro ⟨line, h, hread⟩
    have hend : (read.toList ++ ['n', 'i']) ++ ['l'] =
        opened line.name (renderArgs line.args) := by
      rw [← hread, String.toList_append, List.append_assoc]
      rfl
    obtain ⟨args, arg, hargs, hlast, hread⟩ := eq_of_append_singleton (by decide) hend
    cases arg with
    | some text => exact absurd hlast (by simp [argEnd])
    | none =>
      refine ⟨⟨line.name, args⟩, ⟨h.name, fun arg harg => ?_⟩, ?_⟩
      · exact h.args arg (hargs ▸ List.mem_append_left _ harg)
      · rw [← opened_append] at hread
        exact (List.append_left_inj _).1 hread
  · rintro ⟨line, h, hread⟩
    refine ⟨⟨line.name, line.args ++ [none]⟩, ⟨h.name, ?_⟩, ?_⟩
    · exact List.forall_mem_append.2 ⟨h.args, by simp [writable_none]⟩
    · rw [String.toList_append, hread, opened_append, renderArgs_concat]
      rfl

/-- A text is in the midst of a quoted argument just if a quote and a parenthesis complete a line.
-/
theorem accepted_append_quote_iff {text : String} :
    Accepted (text ++ "\")") ↔ ∃ (line : Line) (body : List Char), line.WellFormed ∧
      '"' ∉ body ∧ text.toList = opened line.name (lead line.args ++ '"' :: body) := by
  have hcut : text ++ "\")" = (text ++ "\"") ++ ")" := by
    rw [String.append_assoc]
    rfl
  rw [hcut, accepted_append_close_iff]
  constructor
  · rintro ⟨line, h, hread⟩
    have hend : text.toList ++ ['"'] = opened line.name (renderArgs line.args) := by
      rw [← hread, String.toList_append]
      rfl
    obtain ⟨args, arg, hargs, hlast, hread⟩ := eq_of_append_singleton (by decide) hend
    have hwritable : ∀ other ∈ args ++ [arg], Writable other := hargs ▸ h.args
    obtain ⟨hbefore, harg⟩ := List.forall_mem_append.1 hwritable
    cases arg with
    | none => exact absurd hlast (by simp [argEnd])
    | some body =>
      refine ⟨⟨line.name, args⟩, body.toList, ⟨h.name, hbefore⟩, ?_, hread⟩
      exact writable_some.1 (harg _ (by simp))
  · rintro ⟨line, body, h, hbody, hread⟩
    refine ⟨⟨line.name, line.args ++ [some (String.ofList body)]⟩, ⟨h.name, ?_⟩, ?_⟩
    · refine List.forall_mem_append.2 ⟨h.args, ?_⟩
      simpa [writable_some] using hbody
    · rw [String.toList_append, hread, opened_append, renderArgs_concat]
      simp [renderArg]

/-! ## Faults -/

/-- What is wrong with a text, and from where on.  Of a text that is read in part, the part can be
completed to a line, and the rest begins with nothing that could follow the part. -/
inductive Fault : String → LineError → Prop where
  | empty : Fault "" .empty
  | missingOpenParen {text : String} (hne : text ≠ "") (hopen : '(' ∉ text.toList) :
      Fault text .missingOpenParen
  | invalidName {name rest : String} (hopen : '(' ∉ name.toList)
      (hname : isName name.toList = false) : Fault (name ++ "(" ++ rest) (.invalidName name)
  -- where an argument can stand; a parenthesis can stand there too if it is the first argument
  | expectedArgument {read rest : String} (hread : Accepted (read ++ "nil)"))
      (hnil : ¬ "nil".toList <+: rest.toList) (hquote : ¬ "\"".toList <+: rest.toList)
      (hclose : Accepted (read ++ ")") → ¬ ")".toList <+: rest.toList) :
      Fault (read ++ rest) (.expectedArgument rest)
  | unterminatedString {text : String} (hread : Accepted (text ++ "\")")) :
      Fault text .unterminatedString
  -- where the line can end, but no argument can stand
  | expectedSeparator {read rest : String} (hread : Accepted (read ++ ")"))
      (harg : ¬ Accepted (read ++ "nil)")) (hcomma : ¬ ", ".toList <+: rest.toList)
      (hclose : ¬ ")".toList <+: rest.toList) : Fault (read ++ rest) (.expectedSeparator rest)
  | trailingData {read rest : String} (hread : Accepted read) (hrest : rest ≠ "") :
      Fault (read ++ rest) (.trailingData rest)

namespace Fault

variable {text : String} {e : LineError}

/-- A text with a fault is refused with it. -/
theorem refused (h : Fault text e) : parse text = .error e := by
  cases h with
  | empty => rfl
  | missingOpenParen hne hopen => exact parse_of_not_mem hne hopen
  | @invalidName name rest hopen hname =>
    have htext : (name ++ "(" ++ rest).toList = opened name rest.toList := by
      simp [opened]
    rw [parse_opened hopen htext, hname]
    rfl
  | @expectedArgument read rest hread hnil hquote hclose =>
    obtain ⟨line, h, hread⟩ := accepted_append_nil_iff.1 hread
    have htext : (read ++ rest).toList = opened line.name (lead line.args ++ rest.toList) := by
      rw [String.toList_append, hread, opened_append]
    have hfault := ArgsFault.expectedArgument h.args hnil hquote
    rw [String.ofList_toList] at hfault
    refine refused_of_argsFault h htext ?_ hfault
    by_cases hargs : line.args = []
    · -- no argument is read yet, so the line could be closed as well
      rw [hargs] at hread ⊢
      refine hclose (accepted_append_close_iff.2 ⟨⟨line.name, []⟩, ⟨h.name, ?_⟩, hread⟩)
      simp
    · exact not_close_prefix_lead hargs _
  | unterminatedString hread =>
    obtain ⟨line, body, h, hbody, htext⟩ := accepted_append_quote_iff.1 hread
    refine refused_of_argsFault h htext ?_ (.unterminatedString h.args hbody)
    by_cases hargs : line.args = []
    · rw [hargs]
      simp [lead]
    · exact not_close_prefix_lead hargs _
  | @expectedSeparator read rest hread harg hcomma hclose =>
    obtain ⟨line, h, hread⟩ := accepted_append_close_iff.1 hread
    have htext : (read ++ rest).toList =
        opened line.name (renderArgs line.args ++ rest.toList) := by
      rw [String.toList_append, hread, opened_append]
    -- without arguments the text could also go on with one, which is another fault
    have hargs : line.args ≠ [] := by
      intro hargs
      rw [hargs] at hread
      refine harg (accepted_append_nil_iff.2 ⟨⟨line.name, []⟩, ⟨h.name, ?_⟩, hread⟩)
      simp
    have hfault := ArgsFault.expectedSeparator hargs h.args hcomma hclose
    rw [String.ofList_toList] at hfault
    exact refused_of_argsFault h htext (not_close_prefix_renderArgs hargs _) hfault
  | @trailingData read rest hread hrest =>
    obtain ⟨line, h, hread⟩ := accepted_iff.1 hread
    have htext : (read ++ rest).toList =
        opened line.name (renderArgs line.args ++ ')' :: rest.toList) := by
      rw [String.toList_append, hread, opened_append]
      simp
    have hrest : rest.toList ≠ [] := by simpa using hrest
    by_cases hargs : line.args = []
    · rw [hargs] at htext
      have hfirst : '(' ∉ line.name.toList := not_mem_of_isName h.name (by decide)
      rw [parse_opened hfirst htext, if_pos h.name]
      show (parseBody (')' :: rest.toList)).map (Line.mk line.name) = _
      rw [parseBody_close hrest, String.ofList_toList]
      rfl
    · have hfault := ArgsFault.trailingData hargs h.args hrest
      rw [String.ofList_toList] at hfault
      exact refused_of_argsFault h htext (not_close_prefix_renderArgs hargs _) hfault

/-- A text is what is read of it and the rest. -/
theorem eq_append_of_opened {name : String} {read rest : List Char}
    (htext : text.toList = opened name (read ++ rest)) :
    text = String.ofList (opened name read) ++ String.ofList rest := by
  apply String.toList_injective
  rw [htext]
  simp [opened]

/-- A fault of the arguments after a proper name is a fault of the text. -/
theorem of_argsFault {line : Line} (h : line.WellFormed) {body : List Char}
    (htext : text.toList = opened line.name body) (hclose : ¬ [')'] <+: body)
    (hfault : ArgsFault body e) : Fault text e := by
  cases hfault with
  | @expectedArgument args rest hargs hnil hquote =>
    rw [eq_append_of_opened htext]
    refine .expectedArgument (accepted_append_nil_iff.2 ⟨⟨line.name, args⟩, ⟨h.name, hargs⟩, ?_⟩)
      ?_ ?_ ?_
    · rw [String.toList_ofList]
    · simpa using hnil
    · simpa using hquote
    · intro haccepted
      by_cases hempty : args = []
      · rw [hempty] at hclose
        simpa [lead] using hclose
      · -- after a separator the line cannot be closed
        have hseparated : ArgsFault (lead args ++ [')']) (.expectedArgument ")") :=
          .expectedArgument hargs (by decide) (by decide)
        refine absurd haccepted (not_accepted_of_refused (refused_of_argsFault h ?_
          (not_close_prefix_lead hempty _) hseparated))
        simp [opened]
  | @unterminatedString args body hargs hbody =>
    exact .unterminatedString
      (accepted_append_quote_iff.2 ⟨⟨line.name, args⟩, body, ⟨h.name, hargs⟩, hbody, htext⟩)
  | @expectedSeparator args rest hne hargs hcomma hclosed =>
    rw [eq_append_of_opened htext]
    refine .expectedSeparator (accepted_append_close_iff.2 ⟨⟨line.name, args⟩, ⟨h.name, hargs⟩, ?_⟩)
      ?_ ?_ ?_
    · rw [String.toList_ofList]
    · -- after an argument no other one can stand at once
      have hnext : ArgsFault (renderArgs args ++ "nil)".toList) (.expectedSeparator "nil)") :=
        .expectedSeparator hne hargs (by decide) (by decide)
      refine not_accepted_of_refused (refused_of_argsFault h ?_
        (not_close_prefix_renderArgs hne _) hnext)
      simp [opened]
    · simpa using hcomma
    · simpa using hclosed
  | @trailingData args rest hne hargs hrest =>
    rw [List.append_cons] at htext
    rw [eq_append_of_opened htext]
    refine .trailingData (accepted_iff.2 ⟨⟨line.name, args⟩, ⟨h.name, hargs⟩, ?_⟩) ?_
    · rw [String.toList_ofList]
    · simpa using hrest

/-- A fault of what stands in the parentheses after a proper name is a fault of the text. -/
theorem of_parseBody {name : String} {body : List Char} (hname : isName name.toList = true)
    (htext : text.toList = opened name body) (h : parseBody body = .error e) : Fault text e := by
  have hline : (⟨name, []⟩ : Line).WellFormed := ⟨hname, by simp⟩
  by_cases hclose : [')'] <+: body
  · obtain ⟨tail, rfl⟩ := hclose
    have htail : tail ≠ [] := by
      rintro rfl
      cases h
    rw [List.singleton_append, parseBody_close htail] at h
    cases h
    rw [eq_append_of_opened htext]
    refine .trailingData (accepted_iff.2 ⟨⟨name, []⟩, hline, ?_⟩) (by simpa using htail)
    rw [String.toList_ofList]
    rfl
  · rw [parseBody_eq_parseArgs hclose] at h
    exact of_argsFault hline htext hclose (.of_parseArgs h)

/-- What is refused has a fault. -/
theorem of_refused (h : parse text = .error e) : Fault text e := by
  by_cases hne : text = ""
  · subst hne
    cases h
    exact .empty
  by_cases hopen : '(' ∈ text.toList
  · obtain ⟨name, body, hfirst, htext⟩ := exists_opened hopen
    rw [parse_opened hfirst htext] at h
    split at h
    · rename_i hname
      cases hbody : parseBody body with
      | ok args =>
        rw [hbody] at h
        cases h
      | error other =>
        rw [hbody] at h
        cases h
        exact of_parseBody hname htext hbody
    · rename_i hname
      cases h
      have hcut : text = name ++ "(" ++ String.ofList body := by
        apply String.toList_injective
        rw [htext]
        simp [opened]
      rw [hcut]
      exact .invalidName hfirst (by simpa using hname)
  · rw [parse_of_not_mem hne hopen] at h
    cases h
    exact .missingOpenParen hne hopen

end Fault

/-- A text is refused with an error just if this is its fault. -/
theorem parse_eq_error_iff {text : String} {e : LineError} :
    parse text = .error e ↔ Fault text e :=
  ⟨.of_refused, Fault.refused⟩

/-- A text is refused for just what is wrong with it, and just one thing is wrong with every text
that is not accepted. -/
theorem refusal_is_first_fault (text : String) :
    (∀ e, parse text = .error e ↔ Fault text e) ∧ (¬ Accepted text ↔ ∃! e, Fault text e) := by
  refine ⟨fun e => parse_eq_error_iff, ?_⟩
  constructor
  · intro hrefused
    cases h : parse text with
    | ok line => exact absurd ⟨line, h⟩ hrefused
    | error e =>
      refine ⟨e, .of_refused h, fun other hother => ?_⟩
      have hsame := hother.refused
      rw [h] at hsame
      exact (Except.error.inj hsame).symm
  · rintro ⟨e, hfault, -⟩
    exact not_accepted_of_refused hfault.refused

end RemovableMedia.Line
