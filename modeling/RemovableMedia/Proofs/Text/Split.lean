import RemovableMedia.Text.Split

/-!
# Pieces of a text

Cutting a text at every occurrence of a character is undone by putting the character back between
the pieces (`intercalate_splitString`), and pieces without the character are found again in the
text that they make (`splitString_intercalate`).  So a text falls into pieces in one way only.  Texts
that have the character themselves are cut further (`splitString_intercalate_eq_flatMap`).
-/

set_option autoImplicit false

namespace RemovableMedia.Text

variable {α : Type} [DecidableEq α]

/-- What comes before the first occurrence of a character, or the whole text without one. -/
theorem getD_fst_splitOnce (c : α) (text : List α) :
    ((splitOnce c text).map Prod.fst).getD text = text.takeWhile (· ≠ c) := by
  induction text with
  | nil => rfl
  | cons x rest ih =>
    by_cases hx : x = c
    · simp [splitOnce, hx]
    · rw [List.takeWhile_cons_of_pos (by simpa using hx), ← ih]
      cases hrest : splitOnce c rest <;> simp [splitOnce, hx, hrest]

/-- Just a text without the character is not cut. -/
theorem splitOnce_eq_none_iff {c : α} {text : List α} : splitOnce c text = none ↔ c ∉ text := by
  induction text with
  | nil => simp [splitOnce]
  | cons x rest ih =>
    by_cases hx : x = c
    · simp [splitOnce, hx]
    · simp [splitOnce, hx, ih, Ne.symm hx]

/-- The pieces of a text are those of the library's cut. -/
theorem splitAll_eq_splitOn (c : α) (text : List α) : splitAll c text = text.splitOn c := by
  induction text with
  | nil => rfl
  | cons x rest ih =>
    rw [splitAll, List.splitOn_cons_eq_if_modifyHead, ih]
    by_cases hx : x = c
    · simp [hx]
    · have hne := List.splitOn_ne_nil c rest
      cases hrest : rest.splitOn c with
      | nil => exact absurd hrest hne
      | cons piece pieces => simp [hx]

/-- No piece of a text holds the character at which it was cut. -/
theorem not_mem_of_mem_splitAll {c : α} {text piece : List α} (h : piece ∈ splitAll c text) :
    c ∉ piece := by
  induction text generalizing piece with
  | nil => simp_all [splitAll]
  | cons x rest ih =>
    rw [splitAll] at h
    split at h
    · rcases List.mem_cons.1 h with rfl | hrest
      · exact List.not_mem_nil
      · exact ih hrest
    · rename_i hx
      split at h
      · rw [List.mem_singleton.1 h, List.mem_singleton]
        exact Ne.symm hx
      · rename_i first pieces hrest
        rcases List.mem_cons.1 h with rfl | hmem
        · rw [List.mem_cons, not_or]
          exact ⟨Ne.symm hx, ih (hrest ▸ List.mem_cons_self)⟩
        · exact ih (hrest ▸ List.mem_cons_of_mem _ hmem)

/-- Pieces are found again in the text that they make when each of them is ended by the character; after
the last of them nothing is left. -/
theorem splitAll_flatMap_ended {c : α} {pieces : List (List α)} (h : ∀ piece ∈ pieces, c ∉ piece) :
    splitAll c (pieces.flatMap fun piece => piece ++ [c]) = pieces ++ [[]] := by
  induction pieces with
  | nil => rfl
  | cons piece rest ih =>
    obtain ⟨hpiece, hrest⟩ := List.forall_mem_cons.1 h
    rw [splitAll_eq_splitOn] at ih ⊢
    rw [List.flatMap_cons, List.append_assoc, List.singleton_append,
      List.splitOn_append_cons_self_of_not_mem hpiece, ih hrest, List.cons_append]

section Strings

variable {c : Char} {separator : String}

/-- No piece of a string holds the character at which it was cut. -/
theorem not_mem_of_mem_splitString {text piece : String} (h : piece ∈ splitString c text) :
    c ∉ piece.toList := by
  obtain ⟨chars, hchars, rfl⟩ := List.mem_map.1 h
  rw [String.toList_ofList]
  exact not_mem_of_mem_splitAll hchars

/-- The pieces of a string with the separator between them are the string. -/
theorem intercalate_splitString (hseparator : separator.toList = [c]) (text : String) :
    separator.intercalate (splitString c text) = text := by
  apply String.toList_injective
  have hpieces : (splitString c text).map String.toList = text.toList.splitOn c := by
    rw [splitString, splitAll_eq_splitOn, List.map_map]
    exact (List.map_congr_left fun chars _ => String.toList_ofList).trans (List.map_id _)
  rw [String.toList_intercalate, hseparator, hpieces, List.intercalate_splitOn]

/-- A string without the separator is one piece. -/
theorem splitString_of_not_mem {text : String} (h : c ∉ text.toList) :
    splitString c text = [text] := by
  rw [splitString, splitAll_eq_splitOn, List.splitOn_eq_singleton h, List.map_singleton,
    String.ofList_toList]

/-- A string with the separator in its midst has the pieces before it and those after it. -/
theorem splitString_append (hseparator : separator.toList = [c]) (before after : String) :
    splitString c (before ++ separator ++ after) =
      splitString c before ++ splitString c after := by
  simp only [splitString, splitAll_eq_splitOn, String.toList_append, hseparator, List.append_assoc,
    List.singleton_append, List.splitOn_append_cons_self, List.map_append]

/-- Texts with the separator between them have the pieces of each of them, one after another. -/
theorem splitString_intercalate_eq_flatMap (hseparator : separator.toList = [c])
    {texts : List String} (hne : texts ≠ []) :
    splitString c (separator.intercalate texts) = texts.flatMap (splitString c) := by
  induction texts with
  | nil => exact absurd rfl hne
  | cons text rest ih =>
    cases rest with
    | nil => rw [String.intercalate_singleton, List.flatMap_singleton]
    | cons next rest =>
      rw [String.intercalate_cons_cons, splitString_append hseparator,
        ih (List.cons_ne_nil next rest)]
      exact List.flatMap_cons.symm

/-- What is no separator is in texts put together just if it is in one of them. -/
theorem mem_intercalate_iff (h : c ∉ separator.toList) {texts : List String} :
    c ∈ (separator.intercalate texts).toList ↔ ∃ text ∈ texts, c ∈ text.toList := by
  induction texts with
  | nil => simp
  | cons text rest ih =>
    by_cases hrest : rest = []
    · simp [hrest]
    · rw [String.intercalate_cons_of_ne_nil hrest, String.toList_append, String.toList_append,
        List.mem_append, List.mem_append, ih]
      simp [h]

/-- Pieces are found again in the string that they make with the separator between them. -/
theorem splitString_intercalate (hseparator : separator.toList = [c]) {pieces : List String}
    (hne : pieces ≠ []) (hpieces : ∀ piece ∈ pieces, c ∉ piece.toList) :
    splitString c (separator.intercalate pieces) = pieces := by
  have hwhole : ∀ piece ∈ pieces, splitString c piece = [piece] :=
    fun piece hpiece => splitString_of_not_mem (hpieces piece hpiece)
  rw [splitString_intercalate_eq_flatMap hseparator hne, List.flatMap_def,
    List.map_congr_left hwhole, ← List.flatMap_def, List.flatMap_singleton']

end Strings

end RemovableMedia.Text
