import RemovableMedia.Monitor.Basic
import RemovableMedia.Proofs.Udev.Listing

/-!
# Which of the listed devices are announced

The monitor goes through a listing from the front and decides on each device by what it remembers of
those before it (`mem_admitAll_iff`).  A partition is announced after its disk, so it waits for
nothing if the disk was announced (`exists_announced_of_disk`), and it is never announced without a
listed disk at the path that it names as its parent (`exists_disk_of_announced`).
-/

set_option autoImplicit false

namespace RemovableMedia.Monitor.Shadow

open RemovableMedia.Device (Record)
open RemovableMedia.Udev (listedBefore listedBefore_iff)

variable {shadow : Shadow} {records : List Record} {path : String}

/-! ## One device after the other -/

/-- The first device is announced and remembered if it may be, and the others come after it. -/
theorem admitAll_cons (shadow : Shadow) (record : Record) (rest : List Record) :
    shadow.admitAll (record :: rest) =
      if shadow.admits record then
        (record :: ((shadow ++ [Known.ofRecord record]).admitAll rest).1,
          ((shadow ++ [Known.ofRecord record]).admitAll rest).2)
      else shadow.admitAll rest := by
  simp only [admitAll, accept]
  by_cases hadmits : shadow.admits record = true <;> simp [hadmits]

/-- Devices that are listed later meet what is remembered of the earlier ones. -/
theorem admitAll_append (shadow : Shadow) (first later : List Record) :
    shadow.admitAll (first ++ later) =
      ((shadow.admitAll first).1 ++ ((shadow.admitAll first).2.admitAll later).1,
        ((shadow.admitAll first).2.admitAll later).2) := by
  induction first generalizing shadow with
  | nil => rfl
  | cons record rest ih =>
    rw [List.cons_append, admitAll_cons, admitAll_cons]
    split
    · simp [ih]
    · exact ih shadow

/-- Just the announced devices are remembered in addition. -/
theorem admitAll_snd (shadow : Shadow) (records : List Record) :
    (shadow.admitAll records).2 = shadow ++ (shadow.admitAll records).1.map .ofRecord := by
  induction records generalizing shadow with
  | nil => simp [admitAll]
  | cons record rest ih =>
    rw [admitAll_cons]
    split
    · simp [ih]
    · exact ih shadow

/-- A device is announced where it is listed and may be announced next. -/
theorem mem_admitAll_iff {record : Record} :
    record ∈ (shadow.admitAll records).1 ↔
      ∃ before after, records = before ++ record :: after ∧
        (shadow.admitAll before).2.admits record = true := by
  constructor
  · intro hmem
    induction records generalizing shadow with
    | nil => cases hmem
    | cons first rest ih =>
      rw [admitAll_cons] at hmem
      split at hmem
      · rename_i hadmits
        rcases List.mem_cons.1 hmem with rfl | hlater
        · exact ⟨[], rest, rfl, hadmits⟩
        · obtain ⟨before, after, rfl, hrecord⟩ := ih hlater
          refine ⟨first :: before, after, rfl, ?_⟩
          rwa [admitAll_cons, if_pos hadmits]
      · rename_i hrefused
        obtain ⟨before, after, rfl, hrecord⟩ := ih hmem
        refine ⟨first :: before, after, rfl, ?_⟩
        rwa [admitAll_cons, if_neg hrefused]
  · rintro ⟨before, after, rfl, hadmits⟩
    rw [admitAll_append, admitAll_cons, if_pos hadmits]
    exact List.mem_append_right _ List.mem_cons_self

/-- Only listed devices are announced. -/
theorem mem_of_mem_admitAll {record : Record} (h : record ∈ (shadow.admitAll records).1) :
    record ∈ records := by
  obtain ⟨before, after, rfl, -⟩ := mem_admitAll_iff.1 h
  exact List.mem_append_right _ List.mem_cons_self

/-- What is remembered of a path, with an empty memory at the start, is a device that was announced
there. -/
theorem exists_announced_of_find? {known : Known}
    (h : (admitAll [] records).2.find? path = some known) :
    ∃ record ∈ (admitAll [] records).1, record.path = path := by
  unfold find? at h
  have hmem := List.mem_of_find?_eq_some h
  have hpath : (known.path == path) = true := by
    simpa using List.find?_some h
  rw [admitAll_snd, List.nil_append] at hmem
  obtain ⟨record, hrecord, rfl⟩ := List.mem_map.1 hmem
  exact ⟨record, hrecord, beq_iff_eq.1 hpath⟩

/-! ## Disks -/

/-- A disk is known at a path just if what is remembered there is one. -/
theorem hasDisk_iff :
    shadow.hasDisk path = true ↔ ∃ known, shadow.find? path = some known ∧
      known.kind = .stateless := by
  unfold hasDisk
  cases shadow.find? path <;> simp

/-- A disk that is known stays known when more is remembered. -/
theorem hasDisk_append (h : shadow.hasDisk path = true) (more : Shadow) :
    hasDisk (shadow ++ more) path = true := by
  obtain ⟨known, hfind, hkind⟩ := hasDisk_iff.1 h
  refine hasDisk_iff.2 ⟨known, ?_, hkind⟩
  unfold find? at hfind ⊢
  rw [List.find?_append, hfind]
  rfl

/-- A disk that may be announced is known once it is remembered. -/
theorem hasDisk_of_admits {disk : Record} (h : shadow.admits disk = true)
    (hkind : disk.kind = .stateless) :
    hasDisk (shadow ++ [Known.ofRecord disk]) disk.path = true := by
  simp only [admits, Bool.and_eq_true, Option.isNone_iff_eq_none] at h
  refine hasDisk_iff.2 ⟨.ofRecord disk, ?_, hkind⟩
  have hfree := h.1
  unfold find? at hfree ⊢
  rw [List.find?_append, hfree]
  simp [Known.ofRecord]

/-- If a disk is announced, each of its partitions is announced, or another device at its path. -/
theorem exists_announced_of_disk (hsorted : records.Pairwise fun a b => listedBefore a b = true)
    {disk part : Record} (hdisk : disk ∈ (admitAll [] records).1) (hkind : disk.kind = .stateless)
    (hpart : part ∈ records) (hparent : part.parentPath = disk.path)
    (hroot : part.isRoot = false) :
    ∃ known ∈ (admitAll [] records).1, known.path = part.path := by
  obtain ⟨before, after, rfl, hadmits⟩ := mem_admitAll_iff.1 hdisk
  have hfirst : disk.isRoot = true := by
    refine beq_iff_eq.2 (Record.parentPath_eq_root ?_)
    rw [hkind]
    decide
  have hafter : part ∈ after := by
    rcases List.mem_append.1 hpart with hmem | hmem
    · -- no partition is listed before a disk
      have hlisted := (List.pairwise_append.1 hsorted).2.2 part hmem disk List.mem_cons_self
      rw [(listedBefore_iff.1 hlisted).1 hfirst] at hroot
      cases hroot
    · refine (List.mem_cons.1 hmem).resolve_left ?_
      rintro rfl
      rw [hfirst] at hroot
      cases hroot
  obtain ⟨between, rest, rfl⟩ := List.append_of_mem hafter
  have hsplit : before ++ disk :: (between ++ part :: rest) =
      (before ++ disk :: between) ++ part :: rest := by
    simp
  rw [hsplit]
  have hready : (admitAll [] (before ++ disk :: between)).2.hasDisk part.parentPath = true := by
    rw [hparent, admitAll_append, admitAll_cons, if_pos hadmits, admitAll_snd]
    exact hasDisk_append (hasDisk_of_admits hadmits hkind) _
  -- the partition is held back only if its path is taken
  cases hknown : (admitAll [] (before ++ disk :: between)).2.find? part.path with
  | none =>
    refine ⟨part, mem_admitAll_iff.2 ⟨_, rest, rfl, ?_⟩, rfl⟩
    simp [admits, hknown, hready]
  | some known =>
    obtain ⟨other, hother, hpath⟩ := exists_announced_of_find? hknown
    refine ⟨other, ?_, hpath⟩
    rw [admitAll_append]
    exact List.mem_append_left _ hother

/-- A partition is announced only if a disk is listed where it says its parent is. -/
theorem exists_disk_of_announced {part : Record} (h : part ∈ (admitAll [] records).1)
    (hroot : part.isRoot = false) : ∃ disk ∈ records, disk.path = part.parentPath := by
  obtain ⟨before, after, rfl, hadmits⟩ := mem_admitAll_iff.1 h
  simp only [admits, hroot, Bool.false_or, Bool.and_eq_true] at hadmits
  obtain ⟨known, hfind, -⟩ := hasDisk_iff.1 hadmits.2
  obtain ⟨disk, hdisk, hpath⟩ := exists_announced_of_find? hfind
  exact ⟨disk, List.mem_append_left _ (mem_of_mem_admitAll hdisk), hpath⟩

end RemovableMedia.Monitor.Shadow
