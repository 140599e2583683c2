import RemovableMedia.Device.Record

/-!
# Records that are built

A record that comes from a source is made by `Record.make?` and then perhaps marked.  Building
checks the path and the parent, so a built record is a partition exactly if it does not stand on
its own (`Built.isRoot_eq`), and no device is where the root is (`Built.path_ne_root`).
-/

set_option autoImplicit false

namespace RemovableMedia.Device.Record

/-- The records that sources can make. -/
inductive Built : Record → Prop where
  | make {path : String} {media : Media} {record : Record} (h : make? path media = .ok record) :
      Built record
  | mark {record : Record} (tag : String) (h : Built record) : Built (record.withTag tag)

/-- Two records that agree on where a device belongs and on its kind. -/
structure SamePlace (first second : Record) : Prop where
  path : first.path = second.path
  kind : first.kind = second.kind
  parentPath : first.parentPath = second.parentPath

/-- Building keeps a path and media that are acceptable, with empty texts left out. -/
theorem make?_eq_ok {path : String} {media : Media} {record : Record}
    (h : make? path media = .ok record) :
    isDevicePath path = true ∧ media.fits path = true ∧
      record = ⟨path, media.normalize, none⟩ := by
  unfold make? at h
  split at h
  · rename_i hpath
    split at h
    · rename_i hfits
      cases h
      exact ⟨hpath, hfits, rfl⟩
    · cases h
  · cases h

/-- Normalising what is known of a medium does not bear on where it fits. -/
theorem fits_normalize (media : Media) (path : String) :
    media.normalize.fits path = media.fits path := by
  cases media <;> rfl

/-- The path of a built record can be that of a device. -/
theorem Built.isDevicePath {record : Record} (h : record.Built) :
    isDevicePath record.path = true := by
  induction h with
  | make h =>
    obtain ⟨hpath, -, rfl⟩ := make?_eq_ok h
    exact hpath
  | mark tag _ ih => exact ih

/-- A built partition has a parent that could be another device. -/
theorem Built.fits {record : Record} (h : record.Built) :
    record.media.fits record.path = true := by
  induction h with
  | make h =>
    obtain ⟨-, hfits, rfl⟩ := make?_eq_ok h
    exact (fits_normalize _ _).trans hfits
  | mark tag _ ih => exact ih

/-- No device is where the root is. -/
theorem Built.path_ne_root {record : Record} (h : record.Built) : record.path ≠ rootPath := by
  have hpath := h.isDevicePath
  simp only [Device.isDevicePath, Bool.and_eq_true, bne_iff_ne] at hpath
  exact hpath.2

/-- Whatever is not a partition names the root as its parent. -/
theorem parentPath_eq_root {record : Record} (h : record.kind ≠ .partition) :
    record.parentPath = rootPath := by
  obtain ⟨path, media, tag⟩ := record
  cases media with
  | stateless => rfl
  | stateful => rfl
  | partition => exact absurd rfl h

/-- A built record stands on its own exactly if it is no partition. -/
theorem Built.isRoot_eq {record : Record} (h : record.Built) :
    record.isRoot = (record.kind != .partition) := by
  have hfits := h.fits
  obtain ⟨path, media, tag⟩ := record
  cases media with
  | stateless => rfl
  | stateful => rfl
  | partition parent filesystem label =>
    simp only [Media.fits, Bool.and_eq_true, bne_iff_ne] at hfits
    exact beq_false_of_ne hfits.2

/-- A record that was built stands on its own unless it is that of a partition. -/
theorem Built.isRoot_iff {record : Record} (h : record.Built) :
    record.isRoot = true ↔ record.kind ≠ .partition := by
  rw [h.isRoot_eq, bne_iff_ne]

/-! ## A stick and its partition -/

/-- A stick as a source reports it. -/
def usbStick : Record :=
  ⟨"/dev/sdb", .stateless .removableDisk, none⟩

/-- The partition of the stick. -/
def usbPartition : Record :=
  ⟨"/dev/sdb1", .partition "/dev/sdb" (some "vfat") none, some "sdb1"⟩

/-- The stick is a record that can be built. -/
theorem usbStick_built : usbStick.Built :=
  .make (show stateless? "/dev/sdb" .removableDisk = .ok usbStick from rfl)

/-- The partition is a record that can be built. -/
theorem usbPartition_built : usbPartition.Built :=
  .mark "sdb1" (.make (show partition? "/dev/sdb1" "/dev/sdb" (some "vfat") (some "") =
    .ok ⟨"/dev/sdb1", .partition "/dev/sdb" (some "vfat") none, none⟩ from rfl))

end RemovableMedia.Device.Record
