import RemovableMedia.Proofs.Files.Path
import RemovableMedia.Proofs.Monitor.Admission
import RemovableMedia.Proofs.Udev.Removal

/-!
# Partitions and the names of their disks

The kernel shows a device as a directory and calls its node by the same name, but for slashes: a
node can be in a directory of its own, and a slash is an exclamation mark in the name of the device
(`nodeName`).  The path of a device comes from its node, and the path of the disk that a partition
names comes from the directory above.  The two agree for the names without an exclamation mark, and
for no other (`partition_names_disk_iff`).

For the first, the partitions of every disk that is announced are announced as well.  For the others
the partitions are lost at the start: they name a path where no device is, since no node has an
exclamation mark in its path.
-/

set_option autoImplicit false

namespace RemovableMedia.Udev

open RemovableMedia.Device (Record)
open RemovableMedia.Monitor (Shadow)

/-! ## Names and nodes -/

/-- What the node of a device is called, below the directory of devices. -/
def nodeName (name : String) : String :=
  String.ofList (name.toList.map fun c => if c = '!' then '/' else c)

/-- No exclamation mark is left in the name of a node. -/
theorem mark_not_mem_nodeName (name : String) : '!' ∉ (nodeName name).toList := by
  intro hmem
  simp only [nodeName, String.toList_ofList, List.mem_map] at hmem
  obtain ⟨c, -, hc⟩ := hmem
  split at hc
  · cases hc
  · rename_i hother
    exact hother hc

/-- A name without exclamation marks is that of its node. -/
theorem nodeName_eq_self {name : String} (h : '!' ∉ name.toList) : nodeName name = name := by
  have hkeep : ∀ c ∈ name.toList, (if c = '!' then '/' else c) = c := by
    intro c hmem
    refine if_neg ?_
    rintro rfl
    exact h hmem
  rw [nodeName, List.map_congr_left hkeep, List.map_id', String.ofList_toList]

namespace Properties

variable {props : Properties} {sysfs : Sysfs} {directory name step : String} {record : Record}

/-- The properties of a device that the kernel shows in a directory and calls by a name. -/
structure NamedBy (props : Properties) (directory name : String) : Prop where
  isName : Path.IsName name
  location : props.get? "DEVPATH" = some (directory ++ "/" ++ name)
  node : props.get? "DEVNAME" = some (nodeName name) ∨
    props.get? "DEVNAME" = some ("/dev/" ++ nodeName name)

/-- The path of a device comes from its DEVNAME. -/
theorem path_of_classify (h : props.classify sysfs = some record) :
    ∃ node, props.get? "DEVNAME" = some node ∧
      record.path = if Path.isAbsolute node then node else "/dev/" ++ node := by
  have hnode := deviceNode?_of_classify h
  unfold deviceNode? nonEmpty? at hnode
  obtain ⟨node, hfilter, hpath⟩ := Option.map_eq_some_iff.1 hnode
  exact ⟨node, (Option.filter_eq_some_iff.1 hfilter).1, hpath.symm⟩

namespace NamedBy

/-- No exclamation mark is left in the path of a device whose node is named by sysfs. -/
theorem mark_not_mem_path (hnamed : props.NamedBy directory name)
    (h : props.classify sysfs = some record) : '!' ∉ record.path.toList := by
  have hnode := mark_not_mem_nodeName name
  obtain ⟨node, hget, hpath⟩ := path_of_classify h
  have hmark : '!' ∉ node.toList := by
    rcases hnamed.node with hname | hname
    · rw [hname] at hget
      rwa [← Option.some.inj hget]
    · rw [hname] at hget
      rw [← Option.some.inj hget, String.toList_append]
      simpa using hnode
  rw [hpath]
  split
  · exact hmark
  · rw [String.toList_append]
    simpa using hmark

/-- The path of a device is its sysfs name in /dev, if that has no exclamation mark. -/
theorem path_eq (hnamed : props.NamedBy directory name) (hmark : '!' ∉ name.toList)
    (h : props.classify sysfs = some record) : record.path = "/dev/" ++ name := by
  obtain ⟨node, hget, hpath⟩ := path_of_classify h
  have hsame := nodeName_eq_self hmark
  rw [hpath]
  rcases hnamed.node with hname | hname
  · rw [hname, hsame] at hget
    rw [← Option.some.inj hget, Path.isAbsolute_of_no_slash hnamed.isName.no_slash]
    rfl
  · rw [hname, hsame] at hget
    have habsolute : Path.isAbsolute ("/dev/" ++ name) = true := by
      simp [Path.isAbsolute]
    rw [← Option.some.inj hget, if_pos habsolute]

end NamedBy

/-- The disk that a partition names is called like the directory above. -/
theorem parentPath_of_classify (hname : Path.IsName name) (hstep : Path.IsName step)
    (hlocation : props.get? "DEVPATH" = some (directory ++ "/" ++ name ++ "/" ++ step))
    (h : props.classify sysfs = some record) (hkind : record.kind = .partition) :
    record.parentPath = "/dev/" ++ name := by
  obtain ⟨node, location, media, made, -, hget, hmedia, hmake, rfl⟩ := classify_eq_some h
  obtain ⟨-, -, rfl⟩ := Record.make?_eq_ok hmake
  obtain rfl := Option.some.inj (hlocation.symm.trans hget)
  unfold media? at hmedia
  rw [Path.parentName?_append hname hstep] at hmedia
  dsimp only at hmedia
  split at hmedia
  · split at hmedia
    · cases hmedia
      cases hkind
    · obtain ⟨subtype, -, rfl⟩ := Option.map_eq_some_iff.1 hmedia
      cases hkind
  · split at hmedia
    · cases hmedia
      rfl
    · cases hmedia

end Properties

/-! ## Partitions at the start -/

/-- Every device in the list of block devices is named as the kernel does. -/
def KernelNames (sysfs : Sysfs) (database : String → Option String) : Prop :=
  ∀ names, sysfs.blockNames = .ok names → ∀ entry ∈ names, ∀ props,
    blockProperties? sysfs database entry = some props →
      ∃ directory name, props.NamedBy directory name

/-- A partition names the path of its disk exactly if there is no exclamation mark in the name of
the disk.  Then at the start it is held back at most because its path is taken, and otherwise it is
lost. -/
theorem partition_names_disk_iff {sysfs : Sysfs} {disk part : Properties}
    {directory name step : String} {diskRecord partRecord : Record}
    (hnamed : disk.NamedBy directory name) (hdisk : disk.classify sysfs = some diskRecord)
    (hstateless : diskRecord.kind = .stateless) (hstep : Path.IsName step)
    (hbelow : part.get? "DEVPATH" = some (directory ++ "/" ++ name ++ "/" ++ step))
    (hpart : part.classify sysfs = some partRecord) (hpartition : partRecord.kind = .partition) :
    (partRecord.parentPath = diskRecord.path ↔ '!' ∉ name.toList) ∧
      ∀ database records, enumerate sysfs database = .ok records → ∃ present started,
        (Monitor.create (.start records [])).start = (.ok present, started) ∧
          (diskRecord ∈ present → partRecord ∈ records →
            ('!' ∉ name.toList → ∃ known ∈ present, known.path = partRecord.path) ∧
              (KernelNames sysfs database → (records.map Record.path).Nodup →
                (partRecord ∈ present ↔ '!' ∉ name.toList))) := by
  have hparent := Properties.parentPath_of_classify hnamed.isName hstep hbelow hpart hpartition
  have hsame : '!' ∉ name.toList → partRecord.parentPath = diskRecord.path := by
    intro hmark
    rw [hparent, hnamed.path_eq hmark hdisk]
  -- the node of no device is where a partition of such a disk looks for the disk
  have hlost : ∀ path : String, '!' ∉ path.toList → '!' ∈ name.toList →
      partRecord.parentPath ≠ path := by
    rintro path hfree hmark rfl
    rw [hparent, String.toList_append] at hfree
    exact hfree (List.mem_append_right _ hmark)
  have hroot : partRecord.isRoot = false := by
    rw [(Properties.built_of_classify hpart).isRoot_eq, hpartition]
    rfl
  refine ⟨⟨?_, hsame⟩, ?_⟩
  · intro hequal hmark
    exact hlost _ (hnamed.mark_not_mem_path hdisk) hmark hequal
  · intro database records henumerate
    obtain ⟨names, found, hnames, rfl, hlisted⟩ := of_enumerate henumerate
    refine ⟨(Shadow.admitAll [] (inListingOrder found)).1, _, rfl, fun hpresent hmem => ?_⟩
    have hannounced : '!' ∉ name.toList →
        ∃ known ∈ (Shadow.admitAll [] (inListingOrder found)).1, known.path = partRecord.path :=
      fun hmark => Shadow.exists_announced_of_disk (pairwise_inListingOrder found) hpresent
        hstateless hmem (hsame hmark) hroot
    refine ⟨hannounced, fun hkernel hpaths => ⟨?_, ?_⟩⟩
    · intro hthere hmark
      obtain ⟨other, hother, hpath⟩ := Shadow.exists_disk_of_announced hthere hroot
      obtain ⟨entry, hentry, props, hprops, hclassify⟩ := hlisted other hother
      obtain ⟨_, _, hprops⟩ := hkernel names hnames entry hentry props hprops
      exact hlost _ (hprops.mark_not_mem_path hclassify) hmark hpath.symm
    · intro hmark
      obtain ⟨known, hknown, hpath⟩ := hannounced hmark
      have hlistedToo := Shadow.mem_of_mem_admitAll hknown
      obtain rfl := Keyed.eq_of_key_eq hpaths hlistedToo hmem hpath
      exact hknown

/-- A stick and its partition. -/
theorem partition_names_disk_iff_of_stick :
    let nothing : Sysfs := ⟨.empty, "sys", []⟩
    let disk := Properties.ofPairs [("SUBSYSTEM", "block"), ("DEVTYPE", "disk"), ("DEVNAME", "sdb"),
      ("DEVPATH", "/devices/usb1/block/sdb"), ("ID_BUS", "usb")]
    let part := Properties.ofPairs [("SUBSYSTEM", "block"), ("DEVTYPE", "partition"),
      ("DEVNAME", "sdb1"), ("DEVPATH", "/devices/usb1/block/sdb/sdb1"), ("ID_FS_TYPE", "vfat")]
    let diskRecord : Record := ⟨"/dev/sdb", .stateless .removableDisk,
      some "/devices/usb1/block/sdb"⟩
    let partRecord : Record := ⟨"/dev/sdb1", .partition "/dev/sdb" (some "vfat") none,
      some "/devices/usb1/block/sdb/sdb1"⟩
    disk.NamedBy "/devices/usb1/block" "sdb" ∧ disk.classify nothing = some diskRecord ∧
      diskRecord.kind = .stateless ∧ Path.IsName "sdb1" ∧
      part.get? "DEVPATH" = some ("/devices/usb1/block" ++ "/" ++ "sdb" ++ "/" ++ "sdb1") ∧
      part.classify nothing = some partRecord ∧ partRecord.kind = .partition ∧
      (partRecord.parentPath = diskRecord.path ↔ '!' ∉ "sdb".toList) := by
  intro nothing disk part diskRecord partRecord
  have hnamed : disk.NamedBy "/devices/usb1/block" "sdb" :=
    ⟨by decide, by decide, .inl (by decide)⟩
  have hdisk : disk.classify nothing = some diskRecord := by
    decide
  have hstep : Path.IsName "sdb1" := by
    decide
  have hbelow : part.get? "DEVPATH" =
      some ("/devices/usb1/block" ++ "/" ++ "sdb" ++ "/" ++ "sdb1") := by
    decide
  have hpart : part.classify nothing = some partRecord := by
    decide
  refine ⟨hnamed, hdisk, rfl, hstep, hbelow, hpart, rfl, ?_⟩
  exact (partition_names_disk_iff hnamed hdisk rfl hstep hbelow hpart rfl).1

/-- A disk of an array, whose node is in a directory of its own, and its partition. -/
theorem array_partition_lost :
    let nothing : Sysfs := ⟨.empty, "sys", []⟩
    let disk := Properties.ofPairs [("SUBSYSTEM", "block"), ("DEVTYPE", "disk"),
      ("DEVNAME", "cciss/c0d0"), ("DEVPATH", "/devices/pci0/block/cciss!c0d0"), ("ID_BUS", "usb")]
    let part := Properties.ofPairs [("SUBSYSTEM", "block"), ("DEVTYPE", "partition"),
      ("DEVNAME", "cciss/c0d0p1"), ("DEVPATH", "/devices/pci0/block/cciss!c0d0/cciss!c0d0p1"),
      ("ID_FS_TYPE", "vfat")]
    let diskRecord : Record := ⟨"/dev/cciss/c0d0", .stateless .removableDisk,
      some "/devices/pci0/block/cciss!c0d0"⟩
    let partRecord : Record := ⟨"/dev/cciss/c0d0p1",
      .partition "/dev/cciss!c0d0" (some "vfat") none,
      some "/devices/pci0/block/cciss!c0d0/cciss!c0d0p1"⟩
    disk.NamedBy "/devices/pci0/block" "cciss!c0d0" ∧
      part.NamedBy ("/devices/pci0/block" ++ "/" ++ "cciss!c0d0") "cciss!c0d0p1" ∧
      disk.classify nothing = some diskRecord ∧ part.classify nothing = some partRecord ∧
      partRecord.parentPath ≠ diskRecord.path ∧
      (Monitor.create (.start [diskRecord, partRecord] [])).start.1.toOption =
        some [diskRecord] := by
  intro nothing disk part diskRecord partRecord
  have hdisk : disk.NamedBy "/devices/pci0/block" "cciss!c0d0" :=
    ⟨by decide, by decide, .inl (by decide)⟩
  have hpart : part.NamedBy ("/devices/pci0/block" ++ "/" ++ "cciss!c0d0") "cciss!c0d0p1" :=
    ⟨by decide, by decide, .inl (by decide)⟩
  exact ⟨hdisk, hpart, by decide, by decide, by decide, by decide⟩

end RemovableMedia.Udev
