import RemovableMedia.Proofs.Mount.Host
import RemovableMedia.Proofs.Tree.Reconcile

/-!
# Where a believed mount comes from

A device is believed mounted because a table that was taken over states so or because it was mounted on
request.  No other operation brings a mount: a change of a device neither moves it nor makes it one of
another kind, and leaves its mount alone.  So whatever holds, with the path and the kind of the device,
of all mounts that tables state and of all that are made on request, holds of every mount that is
believed (`run_believes`).
-/

set_option autoImplicit false

namespace RemovableMedia

open RemovableMedia.Device (Record)

namespace Tree

variable {tree : Tree} {may : String → Device.Kind → Mount.Info → Prop}

/-- Every mount that is believed is one that the device may have, by its path and kind. -/
def Believes (may : String → Device.Kind → Mount.Info → Prop) (tree : Tree) : Prop :=
  ∀ node ∈ tree.nodes, ∀ info, node.mount = some info → may node.path node.record.kind info

namespace Believes

/-- The empty tree believes nothing. -/
theorem empty : Tree.empty.Believes may := by
  intro node hnode
  cases hnode

/-- A new device is not believed mounted. -/
theorem insert (h : tree.Believes may) (hpaths : tree.UniquePaths) (record : Record) :
    (tree.insert record).1.Believes may := by
  cases hadmits : tree.admits record with
  | false => rwa [insert_of_not_admits hadmits]
  | true =>
    intro node hnode info hmount
    rcases List.mem_cons.1 ((nodes_insert_perm hpaths hadmits).mem_iff.1 hnode) with rfl | hold
    · cases hmount
    · exact h node hold info hmount

/-- Whoever stays when devices are removed is believed mounted as before. -/
theorem remove (h : tree.Believes may) (hpaths : tree.UniquePaths) (path : String) :
    (tree.remove path).1.Believes may := by
  intro node hnode
  rw [nodes_remove hpaths] at hnode
  exact h node (List.mem_filter.1 hnode).1

/-- A device whose record changes is believed mounted as before, and keeps its kind. -/
theorem change (h : tree.Believes may) (hpaths : tree.UniquePaths) (record : Record) :
    (tree.change record).1.Believes may := by
  obtain ⟨found, hget, hplace, -, hchange⟩ | ⟨-, hchange⟩ := change_cases tree record
  · rw [hchange]
    intro node hnode info hmount
    rw [Tree.update, nodes_map] at hnode
    obtain ⟨before, hbefore, rfl⟩ := List.mem_map.1 hnode
    by_cases hpath : before.path = record.path
    · -- the device that is changed keeps its mount, and its path and kind with it
      rw [if_pos hpath] at hmount ⊢
      have hsame : before = found := hpaths.eq_of_get? hget hbefore hpath
      subst hsame
      have hbelieved := h before hbefore info hmount
      rwa [hpath, hplace.kind] at hbelieved
    · rw [if_neg hpath] at hmount ⊢
      exact h before hbefore info hmount
  · rwa [hchange]

/-- What a monitor reports makes nobody believed mounted otherwise. -/
theorem apply (h : tree.Believes may) (hpaths : tree.UniquePaths) (record : Record)
    (action : Device.Action) : (tree.apply record action).1.Believes may := by
  obtain hinsert | hremoval | rfl := effect_cases action
  · exact apply_of_isInsert hinsert tree record ▸ h.insert hpaths record
  · exact apply_of_isRemoval hremoval tree record ▸ h.remove hpaths record.path
  · exact h.change hpaths record

/-- A mount is noted that the device may have, or one is cleared. -/
theorem update (h : tree.Believes may) {path : String} {mount : Option Mount.Info}
    (hmount : ∀ node ∈ tree.nodes, node.path = path → ∀ info, mount = some info →
      may path node.record.kind info) :
    (tree.update path fun node => { node with mount }).Believes may := by
  intro node hnode info hinfo
  rw [Tree.update, nodes_map] at hnode
  obtain ⟨before, hbefore, rfl⟩ := List.mem_map.1 hnode
  by_cases hpath : before.path = path
  · rw [if_pos hpath] at hinfo ⊢
    have hbelieved := hmount before hbefore hpath info hinfo
    rwa [← hpath] at hbelieved
  · rw [if_neg hpath] at hinfo ⊢
    exact h before hbefore info hinfo

/-- Reconciliation believes only mounts that the table states. -/
theorem reconcile {table : Mount.Table}
    (htable : ∀ path kind info, table.lookup path = some info → may path kind info) :
    (tree.reconcile table).1.Believes may := by
  intro node hnode info hmount
  exact htable _ _ info ((reconciled_reconcile tree table node hnode).symm.trans hmount)

end Believes

end Tree

namespace Mount.Host

variable {σ : Type} {orchestrator : Orchestrator σ} {config : Config}
  {may : String → Device.Kind → Info → Prop}

/-- One operation, if the devices may have the mounts that tables state and that are made on request. -/
theorem perform_believes
    (hrequested : ∀ (host : Host σ) path options node info, host.tree.get? path = some node →
      (host.mount orchestrator config path options).1 = .ok (.mounted path info) →
      may path node.record.kind info)
    {host : Host σ} (hpaths : host.tree.UniquePaths) (h : host.tree.Believes may)
    {operation : Operation σ}
    (hstated : ∀ table, operation = .reconcile table → ∀ path kind info,
      table.lookup path = some info → may path kind info) :
    (host.perform orchestrator config operation).2.tree.Believes may := by
  cases operation with
  | apply record action => exact h.apply hpaths record action
  | mount path options =>
    simp only [perform]
    obtain ⟨node, info, hget, hmount, hresult, htree⟩ | ⟨code, -, htree⟩ :=
      mount_cases orchestrator config path options host
    · rw [htree, Tree.setMount_of_unmounted hget hmount]
      refine h.update fun other hother hpath noted hnoted => ?_
      cases hnoted
      rw [hpaths.eq_of_get? hget hother hpath]
      exact hrequested host path options node info hget hresult
    · rwa [htree]
  | unmount path =>
    simp only [perform]
    obtain ⟨node, info, hget, hmount, -, htree⟩ | ⟨code, -, htree⟩ :=
      unmount_cases orchestrator config path host
    · rw [htree, Tree.clearMount_of_mounted hget hmount]
      refine h.update fun _ _ _ info hnone => ?_
      cases hnone
    · rwa [htree]
  | reconcile table => exact .reconcile (hstated table rfl)
  | interfere files mounts => exact h

/-- Over any run, devices have only mounts they may have, if tables state and requests make no
others. -/
theorem run_believes
    (hrequested : ∀ (host : Host σ) path options node info, host.tree.get? path = some node →
      (host.mount orchestrator config path options).1 = .ok (.mounted path info) →
      may path node.record.kind info)
    {host : Host σ} (hpaths : host.tree.UniquePaths) (h : host.tree.Believes may)
    {operations : List (Operation σ)}
    (hstated : ∀ table, .reconcile table ∈ operations → ∀ path kind info,
      table.lookup path = some info → may path kind info) :
    (host.run orchestrator config operations).2.tree.Believes may := by
  induction operations generalizing host with
  | nil => exact h
  | cons operation rest ih =>
    have hany : operation.Brings fun _ => True := by
      cases operation <;> trivial
    have hstep := host.perform_step orchestrator config hany
    have hone := perform_believes hrequested hpaths h fun table htable =>
      hstated table (htable ▸ List.mem_cons_self)
    refine ih (hstep.uniquePaths hpaths) hone ?_
    exact fun table htable => hstated table (List.mem_cons_of_mem _ htable)

end Mount.Host

end RemovableMedia
