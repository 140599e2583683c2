import Mathlib.Data.List.Nodup
import Mathlib.Data.List.Perm.Basic

/-!
# Lists without repeated keys

Devices are kept in lists and looked up by their path.  Where no path occurs twice, looking one up
finds the only member with that path (`find?_eq_some_iff_of_nodup`), whatever the order of the
list is (`find?_eq_of_perm`).
-/

set_option autoImplicit false

namespace RemovableMedia.Keyed

variable {α κ : Type} {key : α → κ} {items others : List α}

/-- Members with the same key are the same. -/
theorem eq_of_key_eq (h : (items.map key).Nodup) {first second : α} (hfirst : first ∈ items)
    (hsecond : second ∈ items) (hkey : key first = key second) : first = second :=
  List.inj_on_of_nodup_map h hfirst hsecond hkey

/-- Looking up a key finds the member with that key. -/
theorem find?_eq_some_iff_of_nodup {p : α → Bool} {k : κ} {item : α}
    (h : (items.map key).Nodup) (hp : ∀ a, p a = true ↔ key a = k) :
    items.find? p = some item ↔ item ∈ items ∧ key item = k := by
  constructor
  · intro hfind
    exact ⟨List.mem_of_find?_eq_some hfind, (hp item).1 (List.find?_some hfind)⟩
  · rintro ⟨hmem, hkey⟩
    obtain ⟨found, hfound⟩ : ∃ found, items.find? p = some found :=
      Option.isSome_iff_exists.1 (List.find?_isSome.2 ⟨item, hmem, (hp item).2 hkey⟩)
    have hsame : key found = key item := ((hp found).1 (List.find?_some hfound)).trans hkey.symm
    rw [hfound, eq_of_key_eq h (List.mem_of_find?_eq_some hfound) hmem hsame]

/-- Looking up a key does not depend on the order. -/
theorem find?_eq_of_perm {p : α → Bool} {k : κ} (h : (items.map key).Nodup)
    (hperm : items.Perm others) (hp : ∀ a, p a = true ↔ key a = k) :
    items.find? p = others.find? p := by
  have hothers : (others.map key).Nodup := (hperm.map key).nodup_iff.1 h
  ext item
  rw [find?_eq_some_iff_of_nodup h hp, find?_eq_some_iff_of_nodup hothers hp, hperm.mem_iff]

/-- There is at most one member with a key, and looking the key up finds it. -/
theorem filter_eq_toList_find? {p : α → Bool} {k : κ} (h : (items.map key).Nodup)
    (hp : ∀ a, p a = true ↔ key a = k) : items.filter p = (items.find? p).toList := by
  induction items with
  | nil => rfl
  | cons item rest ih =>
    obtain ⟨hfresh, hrest⟩ := List.nodup_cons.1 h
    by_cases hitem : p item = true
    · have hnone : rest.filter p = [] := by
        refine List.filter_eq_nil_iff.2 fun other hmem hother => hfresh ?_
        rw [(hp item).1 hitem, ← (hp other).1 hother]
        exact List.mem_map_of_mem hmem
      rw [List.filter_cons_of_pos hitem, List.find?_cons_of_pos hitem, hnone]
      rfl
    · rw [List.filter_cons_of_neg hitem, List.find?_cons_of_neg hitem, ih hrest]

end RemovableMedia.Keyed
