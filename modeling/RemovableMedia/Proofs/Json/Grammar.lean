import RemovableMedia.Proofs.Json.Text

/-!
# The grammar of JSON texts

The texts that spell a value differ by the blanks between their tokens.  `Spells` relates a text to
the value that it spells, for values without numbers whose strings are texts, and the reader finds
this value whatever the blanks are (`parse?_of_spells`).

The proof follows the derivation of the spelling.  Each part of a spelling is shorter than the whole
by a token at least, which is why the reader has steps enough when it is given as many as the text
is long.
-/

set_option autoImplicit false

namespace RemovableMedia.Json

/-- Characters that may stand between tokens. -/
def Blank (gap : List Char) : Prop :=
  ∀ c ∈ gap, isSpace c = true

mutual

/-- The texts that spell a value, without blanks around them. -/
inductive Spells : List Char → Json → Prop where
  | null : Spells ['n', 'u', 'l', 'l'] .null
  | yes : Spells ['t', 'r', 'u', 'e'] (.bool true)
  | no : Spells ['f', 'a', 'l', 's', 'e'] (.bool false)
  | text (text : String) : Spells (renderText text) (.text text)
  | emptyArray : Spells ['[', ']'] (.array [])
  | array {before chars : List Char} {items : List Json} (hbefore : Blank before)
      (h : SpellsItems chars items) : Spells ('[' :: (before ++ chars)) (.array items)
  | emptyObject : Spells ['\x7b', '\x7d'] (.object [])
  | object {before chars : List Char} {fields : List (Option String × Json)}
      (hbefore : Blank before) (h : SpellsFields chars fields) :
      Spells ('\x7b' :: (before ++ chars)) (.object fields)

/-- The texts that spell one or more items of an array, with the bracket that closes it. -/
inductive SpellsItems : List Char → List Json → Prop where
  | last {chars after : List Char} {item : Json} (h : Spells chars item) (hafter : Blank after) :
      SpellsItems (chars ++ (after ++ [']'])) [item]
  | more {chars after before rest : List Char} {item : Json} {items : List Json}
      (h : Spells chars item) (hafter : Blank after) (hbefore : Blank before)
      (hrest : SpellsItems rest items) :
      SpellsItems (chars ++ (after ++ ',' :: (before ++ rest))) (item :: items)

/-- The texts that spell one or more fields of an object, with the brace that closes it. -/
inductive SpellsFields : List Char → List (Option String × Json) → Prop where
  | last (name : String) {gap chars after : List Char} {value : Json} (hgap : Blank gap)
      (h : Spells chars value) (hafter : Blank after) :
      SpellsFields (renderText name ++ ':' :: (gap ++ (chars ++ (after ++ ['\x7d']))))
        [(some name, value)]
  | more (name : String) {gap chars after before rest : List Char} {value : Json}
      {fields : List (Option String × Json)} (hgap : Blank gap) (h : Spells chars value)
      (hafter : Blank after) (hbefore : Blank before) (hrest : SpellsFields rest fields) :
      SpellsFields
        (renderText name ++ ':' :: (gap ++ (chars ++ (after ++ ',' :: (before ++ rest)))))
        ((some name, value) :: fields)

end

/-! ## Blanks -/

/-- No characters are blank. -/
theorem blank_nil : Blank [] := by
  simp [Blank]

/-- Blanks before the rest are passed over. -/
theorem skipSpace_append {gap : List Char} (h : Blank gap) (input : List Char) :
    skipSpace (gap ++ input) = skipSpace input := by
  induction gap with
  | nil => rfl
  | cons c gap ih =>
    obtain ⟨hfirst, hrest⟩ := List.forall_mem_cons.1 h
    have hskip : skipSpace (c :: (gap ++ input)) = skipSpace (gap ++ input) :=
      List.dropWhile_cons_of_pos hfirst
    exact hskip.trans (ih hrest)

/-- Nothing is passed over before a character that is no blank. -/
theorem skipSpace_of_not_isSpace {c : Char} (h : isSpace c = false) (input : List Char) :
    skipSpace (c :: input) = c :: input :=
  List.dropWhile_cons_of_neg (by simp [h])

/-- What is after blanks is found by skipping them. -/
theorem skipSpace_append_cons {gap : List Char} (hgap : Blank gap) {c : Char}
    (h : isSpace c = false) (input : List Char) :
    skipSpace (gap ++ c :: input) = c :: input :=
  (skipSpace_append hgap _).trans (skipSpace_of_not_isSpace h input)

/-! ## First characters -/

/-- What is spelled begins with a character that is neither a blank nor a closing bracket. -/
theorem Spells.exists_cons {chars : List Char} {value : Json} (h : Spells chars value) :
    ∃ c rest, chars = c :: rest ∧ isSpace c = false ∧ c ≠ ']' := by
  cases h <;> exact ⟨_, _, rfl, by decide, by decide⟩

/-- What spells items begins with a character that neither is blank nor ends them. -/
theorem SpellsItems.exists_cons {chars : List Char} {items : List Json}
    (h : SpellsItems chars items) :
    ∃ c rest, chars = c :: rest ∧ isSpace c = false ∧ c ≠ ']' := by
  cases h with
  | last h | more h =>
    obtain ⟨c, rest, rfl, hspace, hclose⟩ := h.exists_cons
    exact ⟨c, _, rfl, hspace, hclose⟩

/-- What spells fields begins with a quote. -/
theorem SpellsFields.exists_cons {chars : List Char} {fields : List (Option String × Json)}
    (h : SpellsFields chars fields) : ∃ rest, chars = '"' :: rest := by
  cases h with
  | last | more => exact ⟨_, rfl⟩

/-! ## The reader, one step at a time -/

section Steps

variable {steps : Nat} {input inner rest next tail : List Char} {c : Char} {item value : Json}
  {items : List Json} {name : Option String} {fields : List (Option String × Json)}

/-- An array is read from its bracket and its items. -/
theorem parseValue_array (hopen : skipSpace input = '[' :: inner)
    (hinner : skipSpace inner = c :: rest) (hc : c ≠ ']')
    (hitems : parseItems steps (c :: rest) = some (items, tail)) :
    parseValue (steps + 1) input = some (.array items, tail) := by
  rw [parseValue, hopen]
  simp only [hinner]
  split
  · rename_i heq
    exact absurd (List.cons.inj heq).1 hc
  · rw [hitems]
    rfl

/-- The last item of an array is read from its value and the closing bracket. -/
theorem parseItems_last (hitem : parseValue steps input = some (item, rest))
    (hclose : skipSpace rest = ']' :: tail) :
    parseItems (steps + 1) input = some ([item], tail) := by
  rw [parseItems, hitem]
  simp [hclose]

/-- An item is read before others from its value and a comma. -/
theorem parseItems_more (hitem : parseValue steps input = some (item, rest))
    (hcomma : skipSpace rest = ',' :: next)
    (hitems : parseItems steps next = some (items, tail)) :
    parseItems (steps + 1) input = some (item :: items, tail) := by
  rw [parseItems, hitem]
  simp [hcomma, hitems]

/-- An object is read from its brace and its fields. -/
theorem parseValue_object (hopen : skipSpace input = '\x7b' :: inner)
    (hinner : skipSpace inner = '"' :: rest)
    (hfields : parseFields steps ('"' :: rest) = some (fields, tail)) :
    parseValue (steps + 1) input = some (.object fields, tail) := by
  rw [parseValue, hopen]
  simp [hinner, hfields]

/-- The last field of an object is read from its name, a colon, its value and the closing brace. -/
theorem parseFields_last (hname : skipSpace input = '"' :: inner)
    (hread : parseString inner = some (name, rest)) (hcolon : skipSpace rest = ':' :: next)
    (hvalue : parseValue steps next = some (value, tail)) {after : List Char}
    (hclose : skipSpace tail = '\x7d' :: after) :
    parseFields (steps + 1) input = some ([(name, value)], after) := by
  rw [parseFields, hname]
  simp [hread, hcolon, hvalue, hclose]

/-- A field is read before others from its name, a colon, its value and a comma. -/
theorem parseFields_more (hname : skipSpace input = '"' :: inner)
    (hread : parseString inner = some (name, rest)) (hcolon : skipSpace rest = ':' :: next)
    (hvalue : parseValue steps next = some (value, tail)) {more after : List Char}
    (hcomma : skipSpace tail = ',' :: more)
    (hfields : parseFields steps more = some (fields, after)) :
    parseFields (steps + 1) input = some ((name, value) :: fields, after) := by
  rw [parseFields, hname]
  simp [hread, hcolon, hvalue, hcomma, hfields]

end Steps

/-! ## Spellings are read -/

/-- With a number of steps the reader finds what is spelled by a text that is not longer, after
blanks and before any other text. -/
structure ReadsSpellings (steps : Nat) : Prop where
  value {chars before : List Char} {value : Json} (h : Spells chars value)
    (hlength : chars.length ≤ steps) (hbefore : Blank before) (rest : List Char) :
    parseValue steps (before ++ (chars ++ rest)) = some (value, rest)
  items {chars before : List Char} {items : List Json} (h : SpellsItems chars items)
    (hlength : chars.length ≤ steps) (hbefore : Blank before) (rest : List Char) :
    parseItems steps (before ++ (chars ++ rest)) = some (items, rest)
  fields {chars before : List Char} {fields : List (Option String × Json)}
    (h : SpellsFields chars fields) (hlength : chars.length ≤ steps) (hbefore : Blank before)
    (rest : List Char) : parseFields steps (before ++ (chars ++ rest)) = some (fields, rest)

/-- Nothing is spelled by no characters. -/
theorem readsSpellings_zero : ReadsSpellings 0 where
  value h hlength := by
    obtain ⟨c, rest, rfl, -⟩ := h.exists_cons
    cases hlength
  items h hlength := by
    obtain ⟨c, rest, rfl, -⟩ := h.exists_cons
    cases hlength
  fields h hlength := by
    obtain ⟨rest, rfl⟩ := h.exists_cons
    cases hlength

namespace ReadsSpellings

variable {steps : Nat} {chars before : List Char}

/-- If shorter spellings are read, a spelling of a value is, whatever follows it. -/
theorem value_succ (ih : ReadsSpellings steps) {value : Json} (h : Spells chars value)
    (hlength : chars.length ≤ steps + 1) (hbefore : Blank before) (rest : List Char) :
    parseValue (steps + 1) (before ++ (chars ++ rest)) = some (value, rest) := by
  -- the first token of a spelling is what the reader comes upon after the blanks
  have hskip : ∀ {c : Char} {tail : List Char}, chars = c :: tail → isSpace c = false →
      skipSpace (before ++ (chars ++ rest)) = c :: (tail ++ rest) := by
    rintro c tail rfl hspace
    exact skipSpace_append_cons hbefore hspace _
  cases h with
  | null | yes | no | emptyArray | emptyObject =>
    rw [parseValue, hskip rfl (by decide)]
    rfl
  | text text =>
    rw [parseValue, hskip rfl (by decide), List.append_assoc, List.singleton_append]
    simp only [parseString_renderText]
    rfl
  | @array gap inner items hgap hitems =>
    have hlength : inner.length ≤ steps := by
      simp only [List.length_cons, List.length_append] at hlength
      omega
    have hread := ih.items hitems hlength blank_nil rest
    obtain ⟨c, tail, rfl, hspace, hclose⟩ := hitems.exists_cons
    have hinner : skipSpace ((gap ++ c :: tail) ++ rest) = c :: (tail ++ rest) := by
      rw [List.append_assoc]
      exact skipSpace_append_cons hgap hspace _
    exact parseValue_array (hskip rfl (by decide)) hinner hclose hread
  | @object gap inner fields hgap hfields =>
    have hlength : inner.length ≤ steps := by
      simp only [List.length_cons, List.length_append] at hlength
      omega
    have hread := ih.fields hfields hlength blank_nil rest
    obtain ⟨tail, rfl⟩ := hfields.exists_cons
    have hinner : skipSpace ((gap ++ '"' :: tail) ++ rest) = '"' :: (tail ++ rest) := by
      rw [List.append_assoc]
      exact skipSpace_append_cons hgap (by decide) _
    exact parseValue_object (hskip rfl (by decide)) hinner hread

/-- If shorter spellings are read, a spelling of items is, whatever follows it. -/
theorem items_succ (ih : ReadsSpellings steps) {items : List Json} (h : SpellsItems chars items)
    (hlength : chars.length ≤ steps + 1) (hbefore : Blank before) (rest : List Char) :
    parseItems (steps + 1) (before ++ (chars ++ rest)) = some (items, rest) := by
  cases h with
  | @last first after item h hafter =>
    have hlength : first.length ≤ steps := by
      simp only [List.length_cons, List.length_append] at hlength
      omega
    have hclose : skipSpace (after ++ ']' :: rest) = ']' :: rest :=
      skipSpace_append_cons hafter (by decide) rest
    have hitem := ih.value h hlength hbefore (after ++ ']' :: rest)
    simp only [List.append_assoc, List.singleton_append]
    exact parseItems_last hitem hclose
  | @more first after gap others item items h hafter hgap hrest =>
    simp only [List.length_cons, List.length_append] at hlength
    have hcomma : skipSpace (after ++ ',' :: (gap ++ (others ++ rest))) =
        ',' :: (gap ++ (others ++ rest)) :=
      skipSpace_append_cons hafter (by decide) _
    have hitem := ih.value h (by omega) hbefore (after ++ ',' :: (gap ++ (others ++ rest)))
    have hitems := ih.items hrest (by omega) hgap rest
    simp only [List.append_assoc, List.cons_append]
    exact parseItems_more hitem hcomma hitems

/-- If shorter spellings are read, a spelling of fields is, whatever follows it. -/
theorem fields_succ (ih : ReadsSpellings steps) {fields : List (Option String × Json)}
    (h : SpellsFields chars fields) (hlength : chars.length ≤ steps + 1) (hbefore : Blank before)
    (rest : List Char) :
    parseFields (steps + 1) (before ++ (chars ++ rest)) = some (fields, rest) := by
  cases h with
  | @last name gap first after value hgap h hafter =>
    simp only [List.length_cons, List.length_append] at hlength
    have hclose : skipSpace (after ++ '\x7d' :: rest) = '\x7d' :: rest :=
      skipSpace_append_cons hafter (by decide) rest
    have hvalue := ih.value h (by omega) hgap (after ++ '\x7d' :: rest)
    have hcolon := skipSpace_of_not_isSpace (c := ':') (by decide)
      (gap ++ (first ++ (after ++ '\x7d' :: rest)))
    simp only [renderText, List.append_assoc, List.cons_append, List.nil_append]
    exact parseFields_last (skipSpace_append_cons hbefore (by decide) _)
      (parseString_renderText name _) hcolon hvalue hclose
  | @more name gap first after between others value fields hgap h hafter hbetween hrest =>
    simp only [List.length_cons, List.length_append] at hlength
    have hcomma : skipSpace (after ++ ',' :: (between ++ (others ++ rest))) =
        ',' :: (between ++ (others ++ rest)) :=
      skipSpace_append_cons hafter (by decide) _
    have hvalue := ih.value h (by omega) hgap (after ++ ',' :: (between ++ (others ++ rest)))
    have hcolon := skipSpace_of_not_isSpace (c := ':') (by decide)
      (gap ++ (first ++ (after ++ ',' :: (between ++ (others ++ rest)))))
    have hfields := ih.fields hrest (by omega) hbetween rest
    simp only [renderText, List.append_assoc, List.cons_append, List.nil_append]
    exact parseFields_more (skipSpace_append_cons hbefore (by decide) _)
      (parseString_renderText name _) hcolon hvalue hcomma hfields

end ReadsSpellings

/-- Spellings that are not longer than the steps are read, by induction on the steps. -/
theorem readsSpellings (steps : Nat) : ReadsSpellings steps := by
  -- on the steps rather than on the spelling, since values, items and fields take turns
  induction steps with
  | zero => exact readsSpellings_zero
  | succ steps ih => exact ⟨ih.value_succ, ih.items_succ, ih.fields_succ⟩

/-- The reader finds the value that a text spells. -/
theorem parse?_of_spells {chars : List Char} {value : Json} (h : Spells chars value) :
    parse? (String.ofList chars) = some value := by
  have hread := (readsSpellings (chars.length + 1)).value h (Nat.le_succ _) blank_nil []
  rw [List.append_nil, List.nil_append] at hread
  rw [parse?, String.toList_ofList, parseChars?, hread]
  rfl

end RemovableMedia.Json
