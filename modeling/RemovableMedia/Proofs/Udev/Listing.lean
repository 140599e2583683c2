import Mathlib.Data.List.Perm.Basic
import RemovableMedia.Proofs.Device.Record
import RemovableMedia.Proofs.Except
import RemovableMedia.Proofs.Keyed
import RemovableMedia.Udev.Enumerate

/-!
# The order of a listing

Devices that are present are listed by their paths, those that stand on their own before the
partitions.  A listing has the records of the directory, whatever their order there
(`inListingOrder_eq_of_perm`), and each of them was built by the classification
(`built_of_mem_enumerate`).
-/

set_option autoImplicit false

namespace RemovableMedia.Udev

open RemovableMedia.Device (Record)

/-! ## Order -/

/-- Devices that stand on their own come first, and among devices of one sort the path decides. -/
theorem listedBefore_iff {a b : Record} :
    listedBefore a b = true ↔
      (b.isRoot = true → a.isRoot = true) ∧ (a.isRoot = b.isRoot → a.path ≤ b.path) := by
  unfold listedBefore
  split
  · rename_i hsame
    simp [hsame]
  · rename_i hother
    cases ha : a.isRoot <;> cases hb : b.isRoot <;> simp_all

/-- The order of a listing is transitive. -/
theorem listedBefore_trans {a b c : Record} (hab : listedBefore a b = true)
    (hbc : listedBefore b c = true) : listedBefore a c = true := by
  obtain ⟨hfirst, hpath⟩ := listedBefore_iff.1 hab
  obtain ⟨hsecond, hnext⟩ := listedBefore_iff.1 hbc
  refine listedBefore_iff.2 ⟨hfirst ∘ hsecond, fun hac => ?_⟩
  -- whatever is between two of one sort is of that sort as well
  have hba : a.isRoot = b.isRoot :=
    Bool.eq_iff_iff.2 ⟨fun ha => hsecond (hac ▸ ha), hfirst⟩
  exact String.le_trans (hpath hba) (hnext (hba.symm.trans hac))

/-- Of two records, one is listed before the other. -/
theorem listedBefore_total (a b : Record) : (listedBefore a b || listedBefore b a) = true := by
  rw [Bool.or_eq_true, listedBefore_iff, listedBefore_iff]
  have hpath := String.le_total a.path b.path
  cases a.isRoot <;> cases b.isRoot <;> simp [hpath]

/-- Devices that are listed before each other have the same path. -/
theorem path_eq_of_listedBefore {a b : Record} (hab : listedBefore a b = true)
    (hba : listedBefore b a = true) : a.path = b.path := by
  obtain ⟨hfirst, hpath⟩ := listedBefore_iff.1 hab
  obtain ⟨hsecond, hback⟩ := listedBefore_iff.1 hba
  have hsame : a.isRoot = b.isRoot := Bool.eq_iff_iff.2 ⟨hsecond, hfirst⟩
  exact String.le_antisymm (hpath hsame) (hback hsame.symm)

/-! ## Listings -/

/-- The listing has the records that were found. -/
theorem inListingOrder_perm (records : List Record) : (inListingOrder records).Perm records :=
  List.mergeSort_perm records listedBefore

/-- A record is listed just if it was found. -/
theorem mem_inListingOrder {records : List Record} {record : Record} :
    record ∈ inListingOrder records ↔ record ∈ records :=
  (inListingOrder_perm records).mem_iff

/-- No path is listed twice if none was found twice. -/
theorem nodup_inListingOrder {records : List Record} (h : (records.map Record.path).Nodup) :
    ((inListingOrder records).map Record.path).Nodup :=
  ((inListingOrder_perm records).map Record.path).nodup_iff.2 h

/-- The listing is in order. -/
theorem pairwise_inListingOrder (records : List Record) :
    (inListingOrder records).Pairwise fun a b => listedBefore a b = true :=
  @List.pairwise_mergeSort _ listedBefore (fun _ _ _ => listedBefore_trans) listedBefore_total
    records

/-- The order in which a directory yields its records makes no difference. -/
theorem inListingOrder_eq_of_perm {given records : List Record} (hgiven : given.Perm records)
    (hpaths : (records.map Record.path).Nodup) : inListingOrder given = inListingOrder records := by
  have hperm : (inListingOrder given).Perm (inListingOrder records) :=
    ((inListingOrder_perm given).trans hgiven).trans (inListingOrder_perm records).symm
  -- lists in the same order with the same elements differ at most where the order ties
  refine hperm.eq_of_pairwise ?_ (pairwise_inListingOrder given) (pairwise_inListingOrder records)
  intro a b ha hb hab hba
  have ha : a ∈ records := hgiven.mem_iff.1 (mem_inListingOrder.1 ha)
  have hb : b ∈ records := mem_inListingOrder.1 hb
  exact Keyed.eq_of_key_eq hpaths ha hb (path_eq_of_listedBefore hab hba)

/-- The devices of a listing that stand on their own. -/
def listedRoots (records : List Record) : List Record :=
  (inListingOrder records).filter Record.isRoot

/-- The other devices of a listing. -/
def listedParts (records : List Record) : List Record :=
  (inListingOrder records).filter fun record => !record.isRoot

/-- A list in which everything with a property comes first is cut where the property ends. -/
theorem eq_filter_append_filter {records : List Record}
    (h : records.Pairwise fun a b => listedBefore a b = true) :
    records = records.filter Record.isRoot ++ records.filter fun record => !record.isRoot := by
  induction records with
  | nil => rfl
  | cons first rest ih =>
    obtain ⟨hfirst, hrest⟩ := List.pairwise_cons.1 h
    cases hroot : first.isRoot with
    | true =>
      rw [List.filter_cons_of_pos hroot, List.filter_cons_of_neg (by simp [hroot]),
        List.cons_append, ← ih hrest]
    | false =>
      have hparts : ∀ record ∈ rest, record.isRoot = false := by
        intro record hmem
        cases hother : record.isRoot with
        | true =>
          rw [(listedBefore_iff.1 (hfirst record hmem)).1 hother] at hroot
          cases hroot
        | false => rfl
      have hnone : (first :: rest).filter Record.isRoot = [] := by
        simpa [List.filter_eq_nil_iff, hroot] using hparts
      have hall : (first :: rest).filter (fun record => !record.isRoot) = first :: rest := by
        simpa [List.filter_eq_self, hroot] using hparts
      rw [hnone, hall, List.nil_append]

/-- The devices that stand on their own come before all others. -/
theorem inListingOrder_eq (records : List Record) :
    inListingOrder records = listedRoots records ++ listedParts records :=
  eq_filter_append_filter (pairwise_inListingOrder records)

/-- Records of one sort are listed in the order of their paths. -/
theorem pairwise_path_filter {records : List Record} (h : (records.map Record.path).Nodup)
    (p : Record → Bool) {sort : Bool} (hsort : ∀ record, p record = true → record.isRoot = sort) :
    (((inListingOrder records).filter p).map Record.path).Pairwise (· < ·) := by
  have hdistinct := List.pairwise_map.1 (nodup_inListingOrder h)
  have hboth := ((pairwise_inListingOrder records).and hdistinct).filter p
  refine List.pairwise_map.2 (hboth.imp_of_mem ?_)
  rintro a b ha hb ⟨hlisted, hne⟩
  have hsame : a.isRoot = b.isRoot :=
    (hsort a (List.mem_filter.1 ha).2).trans (hsort b (List.mem_filter.1 hb).2).symm
  have hle := (listedBefore_iff.1 hlisted).2 hsame
  exact String.not_le.1 fun hge => hne (String.le_antisymm hle hge)

/-! ## Classified records -/

/-- A classified device has a record of its node with the media that its properties state, marked
with its device path. -/
theorem Properties.classify_eq_some {props : Properties} {sysfs : Sysfs} {record : Record}
    (h : props.classify sysfs = some record) :
    ∃ node location media made, props.deviceNode? = some node ∧
      props.get? "DEVPATH" = some location ∧ props.media? sysfs node location = some media ∧
        Record.make? node media = .ok made ∧ record = made.withTag location := by
  unfold Properties.classify at h
  split at h
  · cases h
  · simp only [Option.bind_eq_bind, Option.bind_eq_some_iff] at h
    obtain ⟨node, hnode, location, hlocation, media, hmedia, made, hmade, hrecord⟩ := h
    refine ⟨node, location, media, made, hnode, hlocation, hmedia, ?_, (Option.some.inj hrecord).symm⟩
    cases hmake : Record.make? node media with
    | error e => simp [hmake, Except.toOption] at hmade
    | ok other =>
      rw [hmake] at hmade
      rw [Option.some.inj hmade]

/-- A device that is classified has a record that is built. -/
theorem Properties.built_of_classify {props : Properties} {sysfs : Sysfs} {record : Record}
    (h : props.classify sysfs = some record) : record.Built := by
  obtain ⟨node, location, media, made, -, -, -, hmake, rfl⟩ := classify_eq_some h
  exact .mark location (.make hmake)

/-- A listing has the classified devices of the list of block devices. -/
theorem of_enumerate {sysfs : Sysfs} {database : String → Option String} {records : List Record}
    (h : enumerate sysfs database = .ok records) :
    ∃ names found, sysfs.blockNames = .ok names ∧ records = inListingOrder found ∧
      ∀ record ∈ records, ∃ name ∈ names, ∃ props,
        blockProperties? sysfs database name = some props ∧ props.classify sysfs = some record := by
  unfold enumerate at h
  obtain ⟨names, hnames, hrecords⟩ := Except.bind_eq_ok_iff.1 h
  obtain rfl := Except.ok.inj hrecords
  refine ⟨names, _, hnames, rfl, fun record hmem => ?_⟩
  obtain ⟨name, hname, hrecord⟩ := List.mem_filterMap.1 (mem_inListingOrder.1 hmem)
  obtain ⟨props, hprops, hclassify⟩ := Option.bind_eq_some_iff.1 hrecord
  exact ⟨name, hname, props, hprops, hclassify⟩

/-- Every device that is listed as present has a record that is built. -/
theorem built_of_mem_enumerate {sysfs : Sysfs} {database : String → Option String}
    {records : List Record} (h : enumerate sysfs database = .ok records) {record : Record}
    (hmem : record ∈ records) : record.Built := by
  obtain ⟨names, found, -, -, hlisted⟩ := of_enumerate h
  obtain ⟨name, -, props, -, hclassify⟩ := hlisted record hmem
  exact Properties.built_of_classify hclassify

end RemovableMedia.Udev
