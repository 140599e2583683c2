import RemovableMedia.Proofs.Monitor.Consumer
import RemovableMedia.Proofs.Udev.Listing

/-!
# Disks that go

When a disk goes, little may be left by which to tell what it was: its properties may be missing, and
the kernel may show it no more.  Still the event that is made of the properties has the node of the
disk as its path (`event?_of_removed_disk`), whichever way the record is made.  What goes with the disk
is decided by what was known of it before and not by that record, so neither the monitor nor the tree
knows the disk or one of its partitions afterwards, and all other devices stay
(`disk_removal_removes`).  Monitor and tree are seen when the queue between them is empty, which is no
restriction on when the items are taken (`foldl_observe_eq_drain`).
-/

set_option autoImplicit false

namespace RemovableMedia

open RemovableMedia.Device (Record)
open RemovableMedia.Monitor (Shadow)
open RemovableMedia.Server (Loop)

namespace Udev

/-! ## Names of devices -/

/-- A name of a device stands for a path: it is the path, or what follows the directory of devices. -/
def Denotes (name path : String) : Prop :=
  name = path ∨ name ≠ "" ∧ Path.isAbsolute name = false ∧ "/dev/" ++ name = path

namespace Properties

variable {props : Properties} {sysfs : Sysfs} {path : String}

/-- The node of a device is what its DEVNAME denotes. -/
theorem deviceNode?_of_denotes {name : String} (hname : props.get? "DEVNAME" = some name)
    (hdenotes : Denotes name path) (hpath : Device.isDevicePath path = true) :
    props.deviceNode? = some path := by
  unfold deviceNode? nonEmpty?
  rw [hname]
  simp only [Device.isDevicePath, Bool.and_eq_true] at hpath
  obtain rfl | ⟨hne, hrelative, hbelow⟩ := hdenotes
  · have hne : name ≠ "" := by
      rintro rfl
      exact absurd hpath.1 (by decide)
    have habsolute : Path.isAbsolute name = true := hpath.1
    simp [hne, habsolute]
  · simp [hne, hrelative, hbelow]

/-! ## Events -/

/-- The record of a classified device is that of its node. -/
theorem deviceNode?_of_classify {record : Record} (h : props.classify sysfs = some record) :
    props.deviceNode? = some record.path := by
  obtain ⟨node, location, media, made, hnode, -, -, hmake, rfl⟩ := classify_eq_some h
  obtain ⟨-, -, rfl⟩ := Record.make?_eq_ok hmake
  exact hnode

/-- The record of a disk that cannot be classified is made of its node alone. -/
theorem vanishedDisk?_eq_some {record : Record} (h : props.vanishedDisk? = some record) :
    ∃ node, props.deviceNode? = some node ∧ Record.stateless? node .unknown = .ok record := by
  simp only [vanishedDisk?, Option.bind_eq_bind, Option.bind_eq_some_iff] at h
  obtain ⟨node, hnode, hmade⟩ := h
  refine ⟨node, hnode, ?_⟩
  cases hmake : Record.stateless? node .unknown with
  | error e => simp [hmake, Except.toOption] at hmade
  | ok other =>
    rw [hmake] at hmade
    rw [Option.some.inj hmade]

/-- A device that is gone is reported as a disk of an unknown kind at its path. -/
theorem vanishedDisk?_of_deviceNode? (hnode : props.deviceNode? = some path)
    (hpath : Device.isDevicePath path = true) :
    props.vanishedDisk? = some ⟨path, .stateless .unknown, none⟩ := by
  have hmake : Record.stateless? path .unknown = .ok ⟨path, .stateless .unknown, none⟩ := by
    simp [Record.stateless?, Record.make?, hpath, Device.Media.fits, Device.Media.normalize]
  simp [vanishedDisk?, hnode, hmake, Except.toOption]

/-- The record of an event is a classified one, or that of a disk that cannot be classified. -/
theorem event?_eq_some {event : Device.Event} (h : props.event? sysfs = some event) :
    props.classify sysfs = some event.record ∨ props.vanishedDisk? = some event.record := by
  simp only [event?, Option.bind_eq_bind, Option.bind_eq_some_iff] at h
  obtain ⟨action, -, hevent⟩ := h
  cases hclassify : props.classify sysfs with
  | some record =>
    rw [hclassify] at hevent
    cases hevent
    exact .inl rfl
  | none =>
    rw [hclassify] at hevent
    dsimp only at hevent
    split at hevent
    · obtain ⟨record, hvanished, hmade⟩ := Option.bind_eq_some_iff.1 hevent
      cases hmade
      exact .inr hvanished
    · cases hevent

/-- Every record that is reported is built. -/
theorem built_of_event? {event : Device.Event} (h : props.event? sysfs = some event) :
    event.record.Built := by
  obtain hclassified | hvanished := event?_eq_some h
  · exact built_of_classify hclassified
  · obtain ⟨node, -, hmake⟩ := vanishedDisk?_eq_some hvanished
    exact .make hmake

/-- A disk that goes is reported under its node, however much is known of it. -/
theorem event?_of_removed_disk {action : Device.Action}
    (haction : (props.get? "ACTION").bind Device.Action.ofWord? = some action)
    (hremoval : action.isRemoval = true) (htype : props.has "DEVTYPE" "disk" = true)
    (hnode : props.deviceNode? = some path) (hpath : Device.isDevicePath path = true)
    (sysfs : Sysfs) :
    ∃ record, props.event? sysfs = some ⟨action, record⟩ ∧ record.path = path := by
  unfold event?
  rw [haction]
  cases hclassify : props.classify sysfs with
  | some record =>
    rw [deviceNode?_of_classify hclassify] at hnode
    exact ⟨record, rfl, Option.some.inj hnode⟩
  | none =>
    have hvanished := vanishedDisk?_of_deviceNode? hnode hpath
    exact ⟨⟨path, .stateless .unknown, none⟩, by simp [hremoval, htype, hvanished], rfl⟩

end Properties

/-! ## What a daemon knows -/

/-- What the monitor of a daemon remembers, and the tree of the daemon when it has taken all items
from its queue. -/
structure Picture where
  shadow : Shadow
  tree : Tree

namespace Picture

variable {picture : Picture}

/-- An event changes both if it is news, and neither if it is not. -/
def observe (picture : Picture) (event : Device.Event) : Picture :=
  match picture.shadow.accept event with
  | some shadow => ⟨shadow, (picture.tree.apply event.record event.action).1⟩
  | none => picture

/-- Observing events one by one is relaying them and applying the news. -/
theorem foldl_observe_eq_relay (shadow : Shadow) (tree : Tree) (events : List Device.Event) :
    events.foldl observe ⟨shadow, tree⟩ =
      ⟨(shadow.relay events).2,
        (Loop.applyItems tree ((shadow.relay events).1.map .news)).1⟩ := by
  induction events generalizing shadow tree with
  | nil => rfl
  | cons event rest ih =>
    simp only [List.foldl_cons, observe, Shadow.relay]
    cases shadow.accept event with
    | none => exact ih shadow tree
    | some next => exact ih next (tree.apply event.record event.action).1

/-- It makes no difference whether the daemon takes each item when it comes or all of them after the
monitor has seen the last event. -/
theorem foldl_observe_eq_drain {monitor : Monitor} {id : Nat}
    (hregistered : monitor.queues.Registered id) (hnone : monitor.queues.pending id = [])
    (tree : Tree) (events : List Device.Event) :
    events.foldl observe ⟨monitor.shadow, tree⟩ =
      ⟨(events.foldl Monitor.observe monitor).shadow,
        (Loop.applyItems tree ((events.foldl Monitor.observe monitor).drain id).1).1⟩ := by
  obtain ⟨hshadow, hpending⟩ := Monitor.foldl_observe monitor events hregistered
  rw [foldl_observe_eq_relay, Monitor.drain, Monitor.Queues.drain, hshadow, hpending, hnone,
    List.nil_append]

/-- Properties that are reported count as the event that they state, if they state one. -/
def report (picture : Picture) (props : Properties) (sysfs : Sysfs) : Picture :=
  match props.event? sysfs with
  | some event => picture.observe event
  | none => picture

/-- What can be known after devices were listed as present and properties were reported, while
devices were mounted and unmounted. -/
inductive Reached : Picture → Prop where
  | start : Reached ⟨[], .empty⟩
  | listed {picture : Picture} {props : Properties} {sysfs : Sysfs} {record : Record}
      (hrecord : props.classify sysfs = some record) (h : Reached picture) :
      Reached (picture.observe ⟨.add, record⟩)
  | reported {picture : Picture} (props : Properties) (sysfs : Sysfs) (h : Reached picture) :
      Reached (picture.report props sysfs)
  | remounted {picture : Picture} {tree : Tree} (hmounts : picture.tree.Remounted tree)
      (h : Reached picture) : Reached ⟨picture.shadow, tree⟩

/-- The monitor and the tree know the same devices, and the tree has its shape. -/
structure InStep (picture : Picture) : Prop where
  tracks : picture.shadow.Tracks picture.tree
  shape : picture.tree.WellFormed

/-- An event with a record that is built keeps a picture in step. -/
theorem InStep.observe (h : picture.InStep) {event : Device.Event}
    (hbuilt : event.record.Built) : (picture.observe event).InStep := by
  unfold Picture.observe
  cases haccept : picture.shadow.accept event with
  | none => exact h
  | some next => exact ⟨h.tracks.accept h.shape haccept, h.shape.apply hbuilt event.action⟩

/-- A report keeps a picture in step. -/
theorem InStep.report (h : picture.InStep) (props : Properties) (sysfs : Sysfs) :
    (picture.report props sysfs).InStep := by
  unfold Picture.report
  cases hevent : props.event? sysfs with
  | none => exact h
  | some event => exact h.observe (Properties.built_of_event? hevent)

/-- Mounts are not remembered by the monitor. -/
theorem InStep.remounted (h : picture.InStep) {tree : Tree}
    (hmounts : picture.tree.Remounted tree) : InStep ⟨picture.shadow, tree⟩ := by
  refine ⟨?_, h.shape.remounted hmounts⟩
  obtain ⟨f, rfl, hf⟩ := hmounts
  have hsame : Shadow.ofTree (picture.tree.map f) = Shadow.ofTree picture.tree := by
    rw [Shadow.ofTree, Tree.nodes_map, List.map_map]
    exact List.map_congr_left fun node _ => by rw [Function.comp_apply, hf]
  rw [Shadow.Tracks, hsame]
  exact h.tracks

/-- Whatever is reported, the monitor and the tree stay in step. -/
theorem Reached.inStep (h : picture.Reached) : picture.InStep := by
  induction h with
  | start => exact ⟨Shadow.tracks_empty, .empty⟩
  | listed hrecord _ ih => exact ih.observe (Properties.built_of_classify hrecord)
  | reported props sysfs _ ih => exact ih.report props sysfs
  | remounted hmounts _ ih => exact ih.remounted hmounts

/-! ## Disks that go -/

/-- Of a disk in the tree the monitor remembers that it is no partition. -/
theorem InStep.exists_node (h : picture.InStep) {path : String} {disk : Monitor.Known}
    (hdisk : picture.shadow.find? path = some disk) :
    ∃ node, picture.tree.get? path = some node ∧ disk = .ofRecord node.record := by
  rw [h.tracks.find?_eq h.shape.paths] at hdisk
  obtain ⟨node, hget, rfl⟩ := Option.map_eq_some_iff.1 hdisk
  exact ⟨node, hget, rfl⟩

/-- The event that a known disk goes is news, whatever record it brings, and just the disk and its
partitions are forgotten. -/
theorem InStep.observe_removal (h : picture.InStep) {disk : Monitor.Known} (event : Device.Event)
    (hdisk : picture.shadow.find? event.record.path = some disk) (hkind : disk.kind ≠ .partition)
    (hremoval : event.action.isRemoval = true) :
    (picture.shadow.accept event).isSome = true ∧
      (picture.observe event).shadow = List.filter (fun known =>
        known.path ≠ event.record.path ∧ known.parent ≠ event.record.path) picture.shadow ∧
      (picture.observe event).tree.nodes = picture.tree.nodes.filter fun node =>
        node.path ≠ event.record.path ∧ node.record.parentPath ≠ event.record.path := by
  obtain ⟨node, hget, rfl⟩ := h.exists_node hdisk
  have hpath := Tree.path_of_get? hget
  have haccept := (h.tracks.accept_of_isRemoval h.shape hremoval).2 ⟨node, hget, rfl⟩
  have hroot : event.record.path ≠ Device.rootPath :=
    hpath ▸ (h.shape.built node (Tree.mem_of_get? hget)).path_ne_root
  rw [Picture.observe, haccept]
  refine ⟨rfl, ?_, ?_⟩
  · refine List.filter_congr fun known _ => ?_
    have hgone : (Monitor.Known.ofRecord node.record).path = event.record.path := hpath
    have hroots : (Monitor.Known.kind (.ofRecord node.record) == .partition) = false :=
      beq_false_of_ne hkind
    rw [hgone, hroots, Bool.false_or, Bool.eq_iff_iff]
    simp
  · rw [Tree.apply_of_isRemoval hremoval, Tree.nodes_remove h.shape.paths]
    refine List.filter_congr fun other hother => decide_eq_decide.2 ?_
    rw [h.shape.paths.path_mem_departing_iff hother, h.shape.mem_departing_iff hroot,
      and_iff_right hother, not_or]

/-- Properties that say that a known disk goes state an event, whatever else they say or leave out and
whatever the kernel still shows.  The event is news, and afterwards neither the monitor nor the tree
knows the disk or one of its partitions; all other devices stay. -/
theorem disk_removal_removes (h : picture.Reached) {path : String} {disk : Monitor.Known}
    (hdisk : picture.shadow.find? path = some disk) (hkind : disk.kind ≠ .partition)
    {props : Properties}
    (haction : props.get? "ACTION" = some "remove" ∨ props.get? "ACTION" = some "offline")
    (htype : props.get? "DEVTYPE" = some "disk") {name : String}
    (hname : props.get? "DEVNAME" = some name) (hdenotes : Denotes name path) (sysfs : Sysfs) :
    ∃ event, props.event? sysfs = some event ∧
      event.record.path = path ∧ event.action.isRemoval = true ∧
      (picture.shadow.accept event).isSome = true ∧
      (picture.report props sysfs).shadow =
        List.filter (fun known => known.path ≠ path ∧ known.parent ≠ path) picture.shadow ∧
      (picture.report props sysfs).tree.nodes = picture.tree.nodes.filter fun node =>
        node.path ≠ path ∧ node.record.parentPath ≠ path := by
  have hstep := h.inStep
  have hpath : Device.isDevicePath path = true := by
    obtain ⟨node, hget, -⟩ := hstep.exists_node hdisk
    exact Tree.path_of_get? hget ▸ (hstep.shape.built node (Tree.mem_of_get? hget)).isDevicePath
  obtain ⟨action, hword, hremoval⟩ : ∃ action : Device.Action,
      (props.get? "ACTION").bind Device.Action.ofWord? = some action ∧
        action.isRemoval = true := by
    obtain hremove | hoffline := haction
    · exact ⟨.remove, by rw [hremove]; rfl, rfl⟩
    · exact ⟨.offline, by rw [hoffline]; rfl, rfl⟩
  have hnode := Properties.deviceNode?_of_denotes hname hdenotes hpath
  have htype : props.has "DEVTYPE" "disk" = true := by simp [Properties.has, htype]
  obtain ⟨record, hevent, rfl⟩ :=
    Properties.event?_of_removed_disk hword hremoval htype hnode hpath sysfs
  have hreport : picture.report props sysfs = picture.observe ⟨action, record⟩ := by
    rw [report, hevent]
  rw [hreport]
  obtain ⟨haccept, hshadow, htree⟩ :=
    hstep.observe_removal ⟨action, record⟩ hdisk hkind hremoval
  exact ⟨⟨action, record⟩, hevent, rfl, hremoval, haccept, hshadow, htree⟩

/-- A stick with a partition goes, and only its name and that it was a disk is still known of it. -/
theorem disk_removal_removes_of_stick :
    let nothing : Sysfs := ⟨.empty, "sys", []⟩
    let stick : Properties := ⟨[("ACTION", "add"), ("SUBSYSTEM", "block"), ("DEVTYPE", "disk"),
      ("DEVNAME", "/dev/sdb"), ("DEVPATH", "/devices/usb1/block/sdb"), ("ID_BUS", "usb")]⟩
    let part : Properties := ⟨[("ACTION", "online"), ("SUBSYSTEM", "block"),
      ("DEVTYPE", "partition"), ("DEVNAME", "sdb1"), ("DEVPATH", "/devices/usb1/block/sdb/sdb1")]⟩
    let gone : Properties := ⟨[("DEVTYPE", "disk"), ("DEVNAME", "sdb"), ("ACTION", "offline")]⟩
    let picture := ((⟨[], .empty⟩ : Picture).report stick nothing).report part nothing
    picture.Reached ∧ picture.shadow.length = 2 ∧ gone.classify nothing = none ∧
      ∃ event, gone.event? nothing = some event ∧
        event.record.path = "/dev/sdb" ∧ event.action.isRemoval = true ∧
        (picture.shadow.accept event).isSome = true ∧
        (picture.report gone nothing).shadow =
          List.filter (fun known => known.path ≠ "/dev/sdb" ∧ known.parent ≠ "/dev/sdb")
            picture.shadow ∧
        (picture.report gone nothing).tree.nodes = picture.tree.nodes.filter fun node =>
          node.path ≠ "/dev/sdb" ∧ node.record.parentPath ≠ "/dev/sdb" := by
  intro nothing stick part gone picture
  have hpicture : picture.Reached := (Reached.start.reported stick nothing).reported part nothing
  have hdisk : picture.shadow.find? "/dev/sdb" = some ⟨"/dev/sdb", .stateless, "/"⟩ := rfl
  have hdenotes : Denotes "sdb" "/dev/sdb" := .inr ⟨by decide, rfl, rfl⟩
  exact ⟨hpicture, rfl, rfl,
    disk_removal_removes hpicture hdisk (by decide) (.inr rfl) rfl rfl hdenotes nothing⟩

end Picture

end Udev

end RemovableMedia
