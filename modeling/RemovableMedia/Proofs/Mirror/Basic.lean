import RemovableMedia.Proofs.Tree.Lookup

/-!
# Mirrors

A client that once listed all devices and then follows the notifications has a picture of the
devices that are there.  A notification bears only on what is known at its own path
(`observeAll_of_path_ne`), and what it makes of that does not depend on the mount options that were
known before (`forgetOptions_observeAll`).
-/

set_option autoImplicit false

namespace RemovableMedia

/-- What is known of a device apart from its mount options. -/
def Description.forgetOptions (device : Description) : Description :=
  { device with mount := device.mount.map fun info => { info with options := "" } }

/-- What a notification makes of what was known of its device. -/
def Notification.entry : Notification → Option Description → Option Description
  | .added device, _ => some device
  | .removed _, _ => none
  | .changed device, _ => some device
  | .mounted _ info, known => known.map fun device => { device with mount := some info }
  | .unmounted _ _, known => known.map fun device => { device with mount := none }

/-- What somebody knows of the device at each path. -/
abbrev Mirror := String → Option Description

namespace Mirror

/-- Knowing of no device. -/
def empty : Mirror := fun _ => none

/-- What is learnt from a listing. -/
def ofListing (listing : List Description) : Mirror :=
  fun path => listing.find? fun device => device.path = path

/-- What is learnt from the listing of all devices. -/
def ofTree (tree : Tree) : Mirror :=
  ofListing (tree.nodes.map Node.description)

/-- What is known after a notification. -/
def observe (mirror : Mirror) (event : Notification) : Mirror :=
  fun path => if path = event.path then event.entry (mirror path) else mirror path

/-- What is known after notifications one after another. -/
def observeAll (mirror : Mirror) (events : List Notification) : Mirror :=
  events.foldl observe mirror

/-- What is known apart from mount options. -/
def forgetOptions (mirror : Mirror) : Mirror :=
  fun path => (mirror path).map Description.forgetOptions

/-! ## Trees -/

/-- A listing tells of each path what is in the tree there. -/
theorem ofTree_apply (tree : Tree) (path : String) :
    ofTree tree path = (tree.get? path).map Node.description := by
  unfold ofTree ofListing
  rw [List.find?_map, Tree.get?_eq_find?]
  rfl

/-- Whoever knows a tree knows of a device in it what is told of the device. -/
theorem ofTree_of_get? {tree : Tree} {path : String} {node : Node}
    (h : tree.get? path = some node) : ofTree tree path = some node.description := by
  rw [ofTree_apply, h, Option.map_some]

/-- What a listing tells of a path is told of the device that is found there. -/
theorem get?_of_ofTree {tree : Tree} {path : String} {known : Description}
    (h : ofTree tree path = some known) :
    ∃ node, tree.get? path = some node ∧ node.description = known := by
  rw [ofTree_apply] at h
  exact Option.map_eq_some_iff.1 h

/-! ## Notifications -/

section Observe

variable (mirror : Mirror)

/-- Without events everything is known as before. -/
@[simp]
theorem observeAll_nil : mirror.observeAll [] = mirror := rfl

/-- Events are observed one after another. -/
@[simp]
theorem observeAll_cons (event : Notification) (rest : List Notification) :
    mirror.observeAll (event :: rest) = (mirror.observe event).observeAll rest := rfl

/-- Events that follow others are observed after them. -/
theorem observeAll_append (first later : List Notification) :
    mirror.observeAll (first ++ later) = (mirror.observeAll first).observeAll later :=
  List.foldl_append

/-- An event bears only on what is known of its own path. -/
theorem observe_apply (event : Notification) (path : String) :
    mirror.observe event path =
      if path = event.path then event.entry (mirror path) else mirror path := rfl

/-- A device that is told to be mounted is known to be. -/
theorem observe_mounted {path : String} {device : Description} (h : mirror path = some device)
    (info : Mount.Info) :
    mirror.observe (.mounted path info) path = some { device with mount := some info } := by
  rw [observe_apply, h]
  exact if_pos rfl

/-- A device that is told to be unmounted is known to be. -/
theorem observe_unmounted {path : String} {device : Description} (h : mirror path = some device)
    (point : String) :
    mirror.observe (.unmounted path point) path = some { device with mount := none } := by
  rw [observe_apply, h]
  exact if_pos rfl

/-- Notifications of other devices do not bear on what is known at a path. -/
theorem observeAll_of_path_ne {events : List Notification} {path : String}
    (h : ∀ event ∈ events, event.path ≠ path) : mirror.observeAll events path = mirror path := by
  induction events generalizing mirror with
  | nil => rfl
  | cons event rest ih =>
    rw [observeAll_cons, ih _ fun other hmem => h other (List.mem_cons_of_mem _ hmem),
      observe_apply, if_neg (h event List.mem_cons_self).symm]

/-- What is known at a path after some notifications depends on what was known there. -/
theorem observeAll_congr {first second : Mirror} {path : String} (h : first path = second path)
    (events : List Notification) :
    first.observeAll events path = second.observeAll events path := by
  induction events generalizing first second with
  | nil => exact h
  | cons event rest ih =>
    refine ih ?_
    rw [observe_apply, observe_apply, h]

/-- Once devices are told to be gone, nothing is known of them any more. -/
theorem observeAll_removed (gone : List Node) (path : String) :
    mirror.observeAll (gone.map fun node => .removed node.path) path =
      if path ∈ gone.map Node.path then none else mirror path := by
  induction gone generalizing mirror with
  | nil => rfl
  | cons node rest ih =>
    rw [List.map_cons, observeAll_cons, ih, observe_apply]
    by_cases hpath : path = node.path
    · simp [hpath, Notification.path, Notification.entry]
    · simp [hpath, Notification.path]

/-- When something is told of each of some devices, what is known at the path of one of them is what
was told of this one. -/
theorem observeAll_flatMap {news : Node → List Notification}
    (hnews : ∀ node, ∀ event ∈ news node, event.path = node.path) {nodes : List Node}
    (hnodup : (nodes.map Node.path).Nodup) {node : Node} (hnode : node ∈ nodes) :
    mirror.observeAll (nodes.flatMap news) node.path =
      mirror.observeAll (news node) node.path := by
  -- Nothing that is told before or after bears on the path of this one.
  obtain ⟨before, after, rfl⟩ := List.append_of_mem hnode
  rw [List.map_append, List.map_cons, List.nodup_middle, List.nodup_cons] at hnodup
  have hother : ∀ part : List Node, (∀ other ∈ part, other ∈ before ++ after) →
      ∀ event ∈ part.flatMap news, event.path ≠ node.path := by
    intro part hpart event hevent hsame
    obtain ⟨other, hmem, hin⟩ := List.mem_flatMap.1 hevent
    refine hnodup.1 ?_
    rw [← List.map_append, ← hsame, hnews other event hin]
    exact List.mem_map_of_mem (hpart other hmem)
  rw [List.flatMap_append, List.flatMap_cons, observeAll_append, observeAll_append,
    observeAll_of_path_ne _ (hother after fun _ hmem => List.mem_append_right _ hmem)]
  refine observeAll_congr ?_ _
  exact observeAll_of_path_ne _ (hother before fun _ hmem => List.mem_append_left _ hmem)

end Observe

/-! ## Mount options -/

/-- Apart from mount options, a device that is mounted at the same point is the same. -/
theorem forgetOptions_ofRecord {record : Device.Record} {first second : Option Mount.Info}
    (h : first.map Mount.Info.point = second.map Mount.Info.point) :
    (Description.ofRecord record first).forgetOptions =
      (Description.ofRecord record second).forgetOptions := by
  have hmount : ∀ mount : Option Mount.Info,
      mount.map (fun info => { info with options := "" }) =
        (mount.map Mount.Info.point).map fun point => ⟨point, ""⟩ := by
    intro mount
    cases mount <;> rfl
  simp only [Description.forgetOptions, Description.ofRecord, hmount, h]

/-- Options that were forgotten need not be forgotten again. -/
theorem map_forgetOptions_twice (known : Option Description) :
    (known.map Description.forgetOptions).map Description.forgetOptions =
      known.map Description.forgetOptions := by
  cases known with
  | none => rfl
  | some device => simp [Description.forgetOptions, Function.comp_def]

/-- What a notification makes of a path does not depend on the mount options known there. -/
theorem map_forgetOptions_entry (event : Notification) (known : Option Description) :
    (event.entry (known.map Description.forgetOptions)).map Description.forgetOptions =
      (event.entry known).map Description.forgetOptions := by
  cases event <;> cases known <;> rfl

/-- What is known after a notification does not depend on the mount options known before. -/
theorem forgetOptions_observe (mirror : Mirror) (event : Notification) :
    (mirror.forgetOptions.observe event).forgetOptions = (mirror.observe event).forgetOptions := by
  funext path
  simp only [forgetOptions, observe_apply]
  split
  · exact map_forgetOptions_entry event (mirror path)
  · exact map_forgetOptions_twice (mirror path)

/-- Whoever forgets options before events knows the same after them, apart from options. -/
theorem forgetOptions_observeAll (mirror : Mirror) (events : List Notification) :
    (mirror.forgetOptions.observeAll events).forgetOptions =
      (mirror.observeAll events).forgetOptions := by
  induction events generalizing mirror with
  | nil => exact funext fun path => map_forgetOptions_twice (mirror path)
  | cons event rest ih =>
    rw [observeAll_cons, observeAll_cons, ← ih, forgetOptions_observe, ih]

/-- Who knows the same apart from mount options knows the same after the same notifications. -/
theorem observeAll_agree {first second : Mirror} (h : first.forgetOptions = second.forgetOptions)
    (events : List Notification) :
    (first.observeAll events).forgetOptions = (second.observeAll events).forgetOptions := by
  rw [← forgetOptions_observeAll, h, forgetOptions_observeAll]

end Mirror

end RemovableMedia
