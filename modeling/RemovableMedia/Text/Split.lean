/-!
# Cutting text at a character

`splitOnce` cuts at the first occurrence of a character, `splitAll` at every one.  Both drop the
character itself, and both are undone by putting it back between the pieces.
-/

set_option autoImplicit false

namespace RemovableMedia.Text

variable {α : Type} [DecidableEq α]

/-- The text before and after the first occurrence of a character, if it occurs. -/
def splitOnce (c : α) : List α → Option (List α × List α)
  | [] => none
  | x :: rest =>
    if x = c then some ([], rest)
    else (splitOnce c rest).map fun parts => (x :: parts.1, parts.2)

/-- The pieces of a text between the occurrences of a character; there is always at least one. -/
def splitAll (c : α) : List α → List (List α)
  | [] => [[]]
  | x :: rest =>
    if x = c then [] :: splitAll c rest
    else
      match splitAll c rest with
      | [] => [[x]]
      | piece :: pieces => (x :: piece) :: pieces

/-- A cut puts the character back between what it found. -/
theorem eq_of_splitOnce_eq_some {c : α} {text before after : List α}
    (h : splitOnce c text = some (before, after)) : text = before ++ c :: after := by
  induction text generalizing before after with
  | nil => simp [splitOnce] at h
  | cons x rest ih =>
    by_cases hx : x = c
    · simp [splitOnce, hx] at h
      simp [h, hx]
    · simp [splitOnce, hx] at h
      obtain ⟨b, hb, rfl⟩ := h
      simp [ih hb]

/-- What follows a cut is shorter than the text. -/
theorem length_lt_of_splitOnce_eq_some {c : α} {text before after : List α}
    (h : splitOnce c text = some (before, after)) : after.length < text.length := by
  rw [eq_of_splitOnce_eq_some h]
  simp
  omega

/-- A text is cut where the character occurs first. -/
theorem splitOnce_append {c : α} {before : List α} (h : c ∉ before) (after : List α) :
    splitOnce c (before ++ c :: after) = some (before, after) := by
  induction before with
  | nil => simp [splitOnce]
  | cons x rest ih =>
    rw [List.mem_cons, not_or] at h
    have hx : x ≠ c := Ne.symm h.1
    simp [splitOnce, hx, ih h.2]

/-- The character does not occur before a cut. -/
theorem not_mem_of_splitOnce_eq_some {c : α} {text before after : List α}
    (h : splitOnce c text = some (before, after)) : c ∉ before := by
  induction text generalizing before after with
  | nil => simp [splitOnce] at h
  | cons x rest ih =>
    by_cases hx : x = c
    · simp [splitOnce, hx] at h
      simp [h]
    · simp [splitOnce, hx] at h
      obtain ⟨b, hb, rfl⟩ := h
      simp [ih hb, Ne.symm hx]

/-- The pieces of a string between the occurrences of a character. -/
def splitString (c : Char) (text : String) : List String :=
  (splitAll c text.toList).map String.ofList

end RemovableMedia.Text
