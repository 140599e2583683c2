import RemovableMedia.Proofs.Tree.Invariant

/-!
# Actions that come twice

An action that comes again right after it came finds nothing left to do (`apply_twice`).  A device that
was brought in is there, so it is refused; a device that was changed is known as it is; and a path that
was taken away names no device any more, as no other device had the same path.
-/

set_option autoImplicit false

namespace RemovableMedia.Tree

open RemovableMedia.Device (Record)

variable {tree : Tree}

/-! ## Bringing in -/

/-- Inserting a device again changes nothing. -/
theorem insert_insert (h : tree.UniquePaths) (record : Record) :
    (tree.insert record).1.insert record = ((tree.insert record).1, []) := by
  refine insert_of_not_admits ?_
  cases hadmits : tree.admits record with
  | false => rwa [insert_of_not_admits hadmits]
  | true =>
    have hfound : (tree.insert record).1.get? record.path = some ⟨record, none⟩ := by
      rw [(h.insert record).get?_of_perm_cons (nodes_insert_perm h hadmits)]
      exact if_pos rfl
    refine Bool.eq_false_iff.2 fun hagain => ?_
    rw [get?_of_admits hagain] at hfound
    cases hfound

/-! ## Taking away -/

/-- Nothing is at a path after the device there was removed. -/
theorem get?_remove_self (h : tree.UniquePaths) (path : String) :
    (tree.remove path).1.get? path = none := by
  rw [get?_remove h]
  split
  · rfl
  · rename_i hstays
    cases hget : tree.get? path with
    | none => rfl
    | some node => exact absurd (path_mem_departing hget) hstays

/-- Removing a device again changes nothing. -/
theorem remove_remove (h : tree.UniquePaths) (path : String) :
    (tree.remove path).1.remove path = ((tree.remove path).1, []) :=
  remove_of_get?_eq_none (get?_remove_self h path)

/-! ## Changing -/

/-- Changing a record again changes nothing. -/
theorem change_change (tree : Tree) (record : Record) :
    (tree.change record).1.change record = ((tree.change record).1, []) := by
  obtain ⟨node, hget, -, -, hchange⟩ | ⟨-, hchange⟩ := change_cases tree record
  · have hknown : (tree.change record).1.get? record.path = some { node with record := record } := by
      rw [hchange, get?_update (f := fun node => { node with record := record }) (fun _ _ => rfl),
        if_pos rfl, hget]
      rfl
    obtain ⟨other, hother, -, hnews, -⟩ | ⟨-, hsilent⟩ :=
      change_cases (tree.change record).1 record
    · rw [hknown] at hother
      cases hother
      exact absurd rfl hnews
    · exact hsilent
  · rw [hchange]
    exact hchange

/-! ## Every action -/

/-- An action that comes twice in a row is told of at most once: whatever became of it the first time,
the second time nothing is told, and all devices stay as they were left, mounts included. -/
theorem apply_twice (h : tree.Reachable) (record : Record) (action : Device.Action) :
    (tree.apply record action).1.apply record action = ((tree.apply record action).1, []) := by
  have hpaths := h.wellFormed.paths
  obtain hinsert | hremoval | rfl := effect_cases action
  · simp only [apply_of_isInsert hinsert]
    exact insert_insert hpaths record
  · simp only [apply_of_isRemoval hremoval]
    exact remove_remove hpaths record.path
  · exact change_change tree record

/-- A stick goes twice while its partition is mounted. -/
theorem apply_twice_of_stick :
    let mounted := (plugged.reconcile [⟨"/dev/sdb1", ⟨"/mnt", "rw"⟩⟩]).1
    let gone := mounted.apply .usbStick .offline
    mounted.Reachable ∧ gone.2 = [.removed "/dev/sdb1", .removed "/dev/sdb"] ∧
      gone.1.apply .usbStick .offline = (gone.1, []) := by
  intro mounted gone
  have hmounted : mounted.Reachable := plugged_reachable.reconcile _
  exact ⟨hmounted, by decide, apply_twice hmounted .usbStick .offline⟩

end RemovableMedia.Tree
