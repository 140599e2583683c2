import Mathlib.Data.List.Nodup
import RemovableMedia.Json.Shape
import RemovableMedia.Proofs.Json.Layout

/-!
# Reading what was written of a structure

An object with some of its fields left out is read as the list of its values, with gaps where a
field was left out (`slots_written`).  Whatever stands beside a tag is separated from it without
loss (`untag_written`), as long as it has no numbers and is not nested too deeply.
-/

set_option autoImplicit false

namespace RemovableMedia.Json

/-- The fields of a structure as they are written: those without a value are left out. -/
def written (entries : List (String × Option Json)) : List (String × Json) :=
  entries.filterMap fun entry => entry.2.map fun value => (entry.1, value)

variable {entries : List (String × Option Json)} {name tag : String}

/-- A property of all fields that are written is one of all entries that have a value. -/
theorem forall_mem_written {p : String × Json → Prop} :
    (∀ field ∈ written entries, p field) ↔
      ∀ entry ∈ entries, ∀ value, entry.2 = some value → p (entry.1, value) := by
  simp only [written, List.mem_filterMap, Option.map_eq_some_iff]
  constructor
  · intro h entry hmem value hvalue
    exact h _ ⟨entry, hmem, value, hvalue, rfl⟩
  · rintro h field ⟨entry, hmem, value, hvalue, rfl⟩
    exact h entry hmem value hvalue

/-! ## Fields that are found or missing -/

/-- The values of a name in what is written are those of the entries with this name. -/
theorem valuesNamed_written (name : String) (entries : List (String × Option Json)) :
    valuesNamed name ((written entries).map fun field => (some field.1, field.2)) =
      (entries.filter fun entry => entry.1 == name).filterMap Prod.snd := by
  induction entries with
  | nil => rfl
  | cons first rest ih =>
    obtain ⟨other, value⟩ := first
    unfold valuesNamed written at ih ⊢
    cases value <;> by_cases hname : other = name <;> simp [hname, ← ih]

/-- Of entries with different names only one has the name of an entry. -/
theorem filter_name_eq (h : (entries.map Prod.fst).Nodup) {entry : String × Option Json}
    (hmem : entry ∈ entries) : entries.filter (fun other => other.1 == entry.1) = [entry] := by
  induction entries with
  | nil => cases hmem
  | cons first rest ih =>
    obtain ⟨hfirst, hrest⟩ := List.nodup_cons.1 h
    rcases List.mem_cons.1 hmem with rfl | hmem
    · have hnone : rest.filter (fun other => other.1 == entry.1) = [] := by
        rw [List.filter_eq_nil_iff]
        intro other hother hname
        exact hfirst (List.mem_map.2 ⟨other, hother, beq_iff_eq.1 hname⟩)
      simp [hnone]
    · have hname : first.1 ≠ entry.1 :=
        fun hname => hfirst (List.mem_map.2 ⟨entry, hmem, hname.symm⟩)
      simp [hname, ih hrest hmem]

/-- A field that was written is found, and one that was left out is missing. -/
theorem slot_written (h : (entries.map Prod.fst).Nodup) {entry : String × Option Json}
    (hmem : entry ∈ entries) :
    slot ((written entries).map fun field => (some field.1, field.2)) entry.1 = some entry.2 := by
  rw [slot, valuesNamed_written, filter_name_eq h hmem]
  obtain ⟨name, value⟩ := entry
  cases value <;> rfl

/-- Each of some entries is found in what is written of entries with different names. -/
theorem mapM_slot_written (h : (entries.map Prod.fst).Nodup)
    {part : List (String × Option Json)} (hpart : ∀ entry ∈ part, entry ∈ entries) :
    (part.map Prod.fst).mapM
        (slot ((written entries).map fun field => (some field.1, field.2))) =
      some (part.map Prod.snd) := by
  induction part with
  | nil => rfl
  | cons first rest ih =>
    obtain ⟨hfirst, hrest⟩ := List.forall_mem_cons.1 hpart
    rw [List.map_cons, List.mapM_cons, slot_written h hfirst, ih hrest]
    rfl

/-- A structure is read as the values that its fields had. -/
theorem slots_written (entries : List (String × Option Json))
    (h : (entries.map Prod.fst).Nodup) :
    slots (entries.map Prod.fst) (.record (written entries)) = some (entries.map Prod.snd) := by
  have hnamed : ((written entries).map fun field => (some field.1, field.2)).all
      (fun field => field.1.isSome) = true := by
    simp
  simp only [slots, record, hnamed, if_true]
  exact mapM_slot_written h fun _ => id

section Read

variable {α : Type} {read : Json → Option α} {write : α → Json}

/-- A field that is there has to be read. -/
@[simp]
theorem required_some (read : Json → Option α) (value : Json) :
    required read (some value) = read value := rfl

/-- An optional value that is written, and never as null, is read back. -/
theorem asOptional_write (hread : ∀ a, read (write a) = some a) (hnull : ∀ a, write a ≠ .null)
    (a : α) : asOptional read (write a) = some (some a) := by
  unfold asOptional
  split
  · rename_i heq
    exact absurd heq (hnull a)
  · rw [hread]
    rfl

/-- A field that is left out when it is absent. -/
theorem optional_map (hread : ∀ a, read (write a) = some a) (hnull : ∀ a, write a ≠ .null)
    (value : Option α) : optional read (value.map write) = some value := by
  cases value with
  | none => rfl
  | some a => exact asOptional_write hread hnull a

/-- A field that is null when it is absent. -/
theorem optional_getD_null (hread : ∀ a, read (write a) = some a) (hnull : ∀ a, write a ≠ .null)
    (value : Option α) : optional read (some ((value.map write).getD .null)) = some value := by
  cases value with
  | none => rfl
  | some a => exact asOptional_write hread hnull a

end Read

/-- A text is read from a text. -/
@[simp]
theorem asText_text (s : String) : asText (.text s) = some s := rfl

/-- An optional text that is written, or else left out, is read back. -/
@[simp]
theorem optional_map_text (s : Option String) : optional asText (s.map .text) = some s :=
  optional_map asText_text (by simp [text]) s

/-- An optional text that is written, or else as null, is read back. -/
@[simp]
theorem optional_textOrNull (s : Option String) :
    optional asText (some (textOrNull s)) = some s := by
  cases s <;> rfl

/-! ## Values that are held back -/

/-- Items are plain just if each of them is. -/
theorem arePlain_iff {items : List Json} :
    arePlain items = true ↔ ∀ item ∈ items, item.isPlain = true := by
  induction items with
  | nil => simp [arePlain]
  | cons first rest ih => simp [arePlain, ih]

/-- Fields are plain just if the value of each of them is. -/
theorem arePlainFields_iff {fields : List (String × Json)} :
    arePlainFields (fields.map fun field => (some field.1, field.2)) = true ↔
      ∀ field ∈ fields, field.2.isPlain = true := by
  induction fields with
  | nil => simp [arePlainFields]
  | cons first rest ih => simp [arePlainFields, ih]

/-- A value without numbers whose strings are texts loses nothing by being held back. -/
theorem Textual.isPlain {value : Json} (h : value.Textual) : value.isPlain = true := by
  induction h with
  | null | bool | text => rfl
  | array _ ih =>
    rw [Json.isPlain]
    exact arePlain_iff.2 ih
  | record _ ih =>
    rw [Json.record, Json.isPlain]
    exact arePlainFields_iff.2 ih

/-- Values that can stand beside a tag: at most one container deep, without numbers, with strings
that are texts. -/
structure Shallow (value : Json) : Prop where
  textual : value.Textual
  depth : value.depth ≤ 1

/-- A text is shallow. -/
theorem shallow_text (s : String) : (text s).Shallow := ⟨.text s, Nat.zero_le 1⟩

/-- A text or null is shallow. -/
theorem shallow_textOrNull (s : Option String) : (textOrNull s).Shallow := by
  cases s with
  | none => exact ⟨.null, Nat.zero_le 1⟩
  | some s => exact shallow_text s

/-- A tagged object with shallow fields holds texts only. -/
theorem textual_tagged (tag word : String) {fields : List (String × Json)}
    (hshallow : ∀ field ∈ fields, field.2.Shallow) :
    (record ((tag, .text word) :: fields)).Textual := by
  refine .record (List.forall_mem_cons.2 ⟨.text word, ?_⟩)
  intro field hmem
  exact (hshallow field hmem).textual

/-- The tag of a structure is separated from its other fields. -/
theorem untag_written (word : String) (h : tag ∉ entries.map Prod.fst) {level : Nat}
    (hlevel : level < nestingLimit) (hshallow : ∀ field ∈ written entries, field.2.Shallow) :
    untag tag level (.record ((tag, .text word) :: written entries)) =
      some (word, .record (written entries)) := by
  let fields := (written entries).map fun field => (some field.1, field.2)
  -- the tag is the only field with its name, and what is left over can be held back
  have hother : ∀ field ∈ fields, field.1 ≠ some tag := by
    intro field hmem
    obtain ⟨given, hgiven, rfl⟩ := List.mem_map.1 hmem
    obtain ⟨entry, hentry, hvalue⟩ := List.mem_filterMap.1 hgiven
    obtain ⟨value, -, rfl⟩ := Option.map_eq_some_iff.1 hvalue
    intro hname
    exact h (List.mem_map.2 ⟨entry, hentry, Option.some.inj hname⟩)
  have hrest : ((some tag, text word) :: fields).filter (fun field => field.1 != some tag) =
      fields := by
    simpa [List.filter_eq_self] using hother
  have htag : valuesNamed tag ((some tag, text word) :: fields) = [text word] := by
    have hnone : fields.filter (fun field => field.1 == some tag) = [] := by
      simpa [List.filter_eq_nil_iff] using hother
    simp [valuesNamed, hnone]
  have hheld : fields.all (fun field => field.1.isSome && canHoldBack level field.2) = true := by
    rw [List.all_eq_true]
    intro field hmem
    obtain ⟨given, hgiven, rfl⟩ := List.mem_map.1 hmem
    have hdepth := (hshallow given hgiven).depth
    have hnesting : level + given.2.depth ≤ nestingLimit := by omega
    simp [canHoldBack, (hshallow given hgiven).textual.isPlain, hnesting]
  have hfields : record ((tag, text word) :: written entries) =
      .object ((some tag, text word) :: fields) := rfl
  rw [hfields, untag, hrest, htag]
  simp only [text, hheld, if_true]
  rfl

end RemovableMedia.Json
