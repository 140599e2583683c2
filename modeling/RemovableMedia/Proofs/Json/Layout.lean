import RemovableMedia.Proofs.Json.Grammar

/-!
# Layouts

Both layouts of a value spell it: the compact one with no blanks at all, the indented one with a new
line before each item and each field.  So whatever is written of a value without numbers whose
strings are texts is read back as the value (`Textual.parse?_render` and
`Textual.parse?_renderIndented`).
-/

set_option autoImplicit false

namespace RemovableMedia.Json

/-- Values without numbers whose strings are texts. -/
inductive Textual : Json → Prop where
  | null : Textual .null
  | bool (value : Bool) : Textual (.bool value)
  | text (text : String) : Textual (.text text)
  | array {items : List Json} (h : ∀ item ∈ items, Textual item) : Textual (.array items)
  | record {fields : List (String × Json)} (h : ∀ field ∈ fields, Textual field.2) :
      Textual (.record fields)

/-! ## The compact layout -/

/-- Items are printed as a spelling of them if each of them is. -/
theorem spellsItems_renderItems {items : List Json} (hne : items ≠ [])
    (h : ∀ item ∈ items, Spells item.renderChars item) : SpellsItems (renderItems items) items := by
  induction items with
  | nil => exact absurd rfl hne
  | cons first rest ih =>
    obtain ⟨hfirst, hrest⟩ := List.forall_mem_cons.1 h
    cases rest with
    | nil => exact .last hfirst blank_nil
    | cons second rest => exact .more hfirst blank_nil blank_nil (ih (by simp) hrest)

/-- Fields are printed as a spelling of them if the value of each of them is. -/
theorem spellsFields_renderFields {fields : List (String × Json)} (hne : fields ≠ [])
    (h : ∀ field ∈ fields, Spells field.2.renderChars field.2) :
    let named := fields.map fun field => (some field.1, field.2)
    SpellsFields (renderFields named) named := by
  induction fields with
  | nil => exact absurd rfl hne
  | cons first rest ih =>
    obtain ⟨hfirst, hrest⟩ := List.forall_mem_cons.1 h
    cases rest with
    | nil => exact .last first.1 blank_nil hfirst blank_nil
    | cons second rest =>
      exact .more first.1 blank_nil hfirst blank_nil blank_nil (ih (by simp) hrest)

/-- What holds texts only is printed as a spelling of it. -/
theorem Textual.spells_renderChars {value : Json} (h : value.Textual) :
    Spells value.renderChars value := by
  induction h with
  | null => exact .null
  | bool value => cases value <;> constructor
  | text text => exact .text text
  | @array items _ ih =>
    by_cases hne : items = []
    · subst hne
      exact .emptyArray
    · exact .array blank_nil (spellsItems_renderItems hne ih)
  | @record fields _ ih =>
    by_cases hne : fields = []
    · subst hne
      exact .emptyObject
    · exact .object blank_nil (spellsFields_renderFields hne ih)

/-- A value is read back from its compact text. -/
theorem Textual.parse?_render {value : Json} (h : value.Textual) :
    parse? value.render = some value :=
  parse?_of_spells h.spells_renderChars

/-! ## The indented layout -/

/-- A new line with its indentation is blank. -/
theorem blank_newline (level : Nat) : Blank (newline level) := by
  intro c hmem
  rcases List.mem_cons.1 hmem with rfl | hspace
  · rfl
  · rw [List.eq_of_mem_replicate hspace]
    rfl

/-- Items on lines of their own are spelled after the first new line. -/
theorem exists_spellsItems_renderIndentedItems {level : Nat} {items : List Json} (hne : items ≠ [])
    (h : ∀ item ∈ items, Spells (renderIndentedChars (level + 1) item) item) :
    ∃ chars, renderIndentedItems level items = newline (level + 1) ++ chars ∧
      SpellsItems chars items := by
  induction items with
  | nil => exact absurd rfl hne
  | cons first rest ih =>
    obtain ⟨hfirst, hrest⟩ := List.forall_mem_cons.1 h
    cases rest with
    | nil =>
      -- the bracket that closes the items is on a line of the level outside
      refine ⟨_, ?_, .last hfirst (blank_newline level)⟩
      simp [renderIndentedItems]
    | cons second rest =>
      obtain ⟨chars, hchars, hspells⟩ := ih (by simp) hrest
      refine ⟨_, ?_, .more hfirst blank_nil (blank_newline (level + 1)) hspells⟩
      simp [renderIndentedItems, hchars]

/-- Fields are printed on lines of their own, after which they are a spelling of them. -/
theorem exists_spellsFields_renderIndentedFields {level : Nat} {fields : List (String × Json)}
    (hne : fields ≠ [])
    (h : ∀ field ∈ fields, Spells (renderIndentedChars (level + 1) field.2) field.2) :
    let named := fields.map fun field => (some field.1, field.2)
    ∃ chars, renderIndentedFields level named = newline (level + 1) ++ chars ∧
      SpellsFields chars named := by
  induction fields with
  | nil => exact absurd rfl hne
  | cons first rest ih =>
    obtain ⟨hfirst, hrest⟩ := List.forall_mem_cons.1 h
    have hgap : Blank [' '] := by
      simp [Blank, isSpace]
    cases rest with
    | nil =>
      refine ⟨_, ?_, .last first.1 hgap hfirst (blank_newline level)⟩
      simp [renderIndentedFields, renderString]
    | cons second rest =>
      obtain ⟨chars, hchars, hspells⟩ := ih (by simp) hrest
      refine ⟨_, ?_, .more first.1 hgap hfirst blank_nil (blank_newline (level + 1)) hspells⟩
      simp only [List.map_cons] at hchars
      simp [renderIndentedFields, renderString, hchars]

/-- What holds texts only is printed over several lines as a spelling of it. -/
theorem Textual.spells_renderIndentedChars {value : Json} (h : value.Textual) (level : Nat) :
    Spells (value.renderIndentedChars level) value := by
  induction h generalizing level with
  | null => exact .null
  | bool value => cases value <;> constructor
  | text text => exact .text text
  | @array items _ ih =>
    cases items with
    | nil => exact .emptyArray
    | cons first rest =>
      obtain ⟨chars, hchars, hspells⟩ := exists_spellsItems_renderIndentedItems (by simp)
        fun item hmem => ih item hmem (level + 1)
      rw [renderIndentedChars, hchars]
      exact .array (blank_newline (level + 1)) hspells
  | @record fields _ ih =>
    cases fields with
    | nil => exact .emptyObject
    | cons first rest =>
      obtain ⟨chars, hchars, hspells⟩ := exists_spellsFields_renderIndentedFields (by simp)
        fun field hmem => ih field hmem (level + 1)
      rw [List.map_cons] at hchars hspells
      rw [Json.record, List.map_cons, renderIndentedChars, hchars]
      exact .object (blank_newline (level + 1)) hspells

/-- A value is read back from its indented text. -/
theorem Textual.parse?_renderIndented {value : Json} (h : value.Textual) :
    parse? value.renderIndented = some value :=
  parse?_of_spells (h.spells_renderIndentedChars 0)

end RemovableMedia.Json
