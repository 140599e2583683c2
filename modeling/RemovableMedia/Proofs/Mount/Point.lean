import Mathlib.Data.List.Nodup
import RemovableMedia.Mount.Point
import RemovableMedia.Proofs.Device.Record
import RemovableMedia.Proofs.Files.Lookup

/-!
# The choice of a mount point

The places that are tried for a device differ in their last name, and each place that is taken accounts
for a name that something else has: an entry of the file tree, or the mount point of a device
(`mem_takenNames`).  There are only so many of these, so the search comes to an end
(`length_le_of_occupied`).  What it finds is the first place that is free, and it lies one name below
the mount directory whatever the label of the device is (`chosen_point_is_first_free`).
-/

set_option autoImplicit false

namespace RemovableMedia.Mount

open RemovableMedia.Device (Record)

/-! ## Names for mount points -/

/-- A label with underscores in place of its slashes. -/
def flattened (label : String) : String :=
  String.ofList (label.toList.map fun c => if c = '/' then '_' else c)

/-- The name for which a device's mount point is named: its label, flattened, or the last piece of
its path if it has no label, not even an empty one, or one that only stands for a place. -/
inductive NamedFor (record : Record) : String → Prop where
  | label {label : String} (hlabel : record.label = some label)
      (hnames : label ≠ "" ∧ label ≠ "." ∧ label ≠ "..") : NamedFor record (flattened label)
  | device (hlabel : ∀ label, record.label = some label → label = "" ∨ label = "." ∨ label = "..") :
      NamedFor record (Path.lastPiece record.path)

/-- No flattened label has a slash. -/
theorem no_slash_flattened (label : String) : '/' ∉ (flattened label).toList := by
  rw [flattened, String.toList_ofList, List.mem_map]
  rintro ⟨c, -, hc⟩
  split at hc
  · exact absurd hc (by decide)
  · rename_i hne
    exact hne hc

/-- Only dots are flattened to dots. -/
theorem flattened_eq_iff {label : String} (dots : String) (hdots : ∀ c ∈ dots.toList, c = '.') :
    flattened label = dots ↔ label = dots := by
  constructor
  · intro hflat
    have hchars : label.toList.map (fun c => if c = '/' then '_' else c) = dots.toList := by
      rw [← hflat, flattened, String.toList_ofList]
    have hkept : label.toList.map (fun c => if c = '/' then '_' else c) = label.toList := by
      refine (List.map_congr_left fun c hc => ?_).trans (List.map_id _)
      have hdot := hdots _ (hchars ▸ List.mem_map_of_mem hc)
      split at hdot
      · exact absurd hdot (by decide)
      · rename_i hne
        exact if_neg hne
    exact String.toList_injective (hkept.symm.trans hchars)
  · rintro rfl
    refine String.toList_injective ?_
    rw [flattened, String.toList_ofList]
    refine (List.map_congr_left fun c hc => ?_).trans (List.map_id _)
    rw [hdots c hc]
    rfl

/-- Flattening leaves just those labels without a name that are empty or stand for a place. -/
theorem flattened_names_iff {label : String} :
    (flattened label != "" && flattened label != "." && flattened label != "..") = true ↔
      label ≠ "" ∧ label ≠ "." ∧ label ≠ ".." := by
  simp only [Bool.and_eq_true, bne_iff_ne, ne_eq, flattened_eq_iff "" (by simp),
    flattened_eq_iff "." (by simp), flattened_eq_iff ".." (by simp), and_assoc]

/-- A device has the name of its label, flattened, unless that is no name. -/
theorem labelName?_eq (record : Record) :
    labelName? record = (record.label.map flattened).filter fun name =>
      name != "" && name != "." && name != ".." := rfl

/-- No source reports an empty label. -/
theorem label_ne_empty_of_built {record : Record} (h : record.Built) : record.label ≠ some "" := by
  have hnonempty : ∀ text, Device.nonEmpty text ≠ some "" := by
    intro text
    cases text with
    | none => simp [Device.nonEmpty]
    | some text => simp [Device.nonEmpty, Option.filter_some]
  induction h with
  | @make path media record hmake =>
    obtain ⟨-, -, rfl⟩ := Device.Record.make?_eq_ok hmake
    cases media with
    | stateless subtype => exact Option.some_ne_none "" ∘ Eq.symm
    | stateful subtype state filesystem label => exact hnonempty label
    | partition parent filesystem label => exact hnonempty label
  | mark tag hbuilt ih => exact ih

/-- The base name of a device is one for which it is named. -/
theorem namedFor_baseName (record : Record) : NamedFor record (baseName record) := by
  unfold baseName
  rw [labelName?_eq]
  cases hlabel : record.label with
  | none =>
    refine .device fun label hsome => ?_
    rw [hlabel] at hsome
    cases hsome
  | some label =>
    by_cases hnames : label ≠ "" ∧ label ≠ "." ∧ label ≠ ".."
    · rw [Option.map_some, Option.filter_some, if_pos (flattened_names_iff.2 hnames)]
      exact .label hlabel hnames
    · rw [Option.map_some, Option.filter_some, if_neg (mt flattened_names_iff.1 hnames)]
      refine .device fun other hother => ?_
      rw [hlabel] at hother
      cases hother
      by_contra hnone
      simp only [not_or] at hnone
      exact hnames hnone

namespace NamedFor

variable {record : Record} {base : String} (h : NamedFor record base)
include h

/-- A name for a mount point has no slash. -/
theorem no_slash : '/' ∉ base.toList := by
  cases h with
  | label hlabel hnames => exact no_slash_flattened _
  | device hlabel => exact Path.no_slash_lastPiece record.path

/-- Only the device's own name can be dots. -/
theorem ne_of_lastPiece_ne {dots : String} (hdots : dots = "" ∨ dots = "." ∨ dots = "..")
    (hdevice : Path.lastPiece record.path ≠ dots) : base ≠ dots := by
  cases h with
  | @label label hlabel hnames =>
    have hall : ∀ c ∈ dots.toList, c = '.' := by
      obtain rfl | rfl | rfl := hdots <;> simp
    rw [ne_eq, flattened_eq_iff dots hall]
    rintro rfl
    obtain rfl | rfl | rfl := hdots
    · exact hnames.1 rfl
    · exact hnames.2.1 rfl
    · exact hnames.2.2 rfl
  | device hlabel => exact hdevice

/-- A name for a mount point names an entry of a directory, if the device's path ends in such a
name. -/
theorem isName (hdevice : Path.IsName (Path.lastPiece record.path)) : Path.IsName base where
  no_slash := h.no_slash
  ne_empty := h.ne_of_lastPiece_ne (.inl rfl) hdevice.ne_empty
  ne_here := h.ne_of_lastPiece_ne (.inr (.inl rfl)) hdevice.ne_here
  ne_up := h.ne_of_lastPiece_ne (.inr (.inr rfl)) hdevice.ne_up

end NamedFor

/-- All candidates but the first have a number behind the base. -/
theorem candidateName_succ (base : String) (n : Nat) :
    candidateName base (n + 1) = base ++ "_" ++ toString (n + 1) := rfl

/-- The number stands in decimal digits behind an underscore. -/
theorem toList_candidateName_succ (base : String) (n : Nat) :
    (candidateName base (n + 1)).toList = base.toList ++ '_' :: Nat.toDigits 10 (n + 1) := by
  rw [candidateName_succ, String.toList_append, String.toList_append, Nat.toString_eq_repr,
    Nat.toList_repr]
  simp

/-- No candidate has a slash if the base has none. -/
theorem no_slash_candidateName {base : String} (h : '/' ∉ base.toList) (n : Nat) :
    '/' ∉ (candidateName base n).toList := by
  cases n with
  | zero => exact h
  | succ n =>
    rw [toList_candidateName_succ, List.mem_append, List.mem_cons, not_or, not_or]
    refine ⟨h, by decide, fun hdigit => ?_⟩
    exact absurd (Nat.isDigit_of_mem_toDigits (by decide) (by decide) hdigit) (by decide)

/-- No candidate is a text without an underscore, unless the base is that text. -/
theorem candidateName_ne {base text : String} (htext : '_' ∉ text.toList) (h : base ≠ text)
    (n : Nat) : candidateName base n ≠ text := by
  cases n with
  | zero => exact h
  | succ n =>
    rintro rfl
    refine htext ?_
    rw [toList_candidateName_succ]
    simp

/-- Every candidate names an entry of a directory if the base does. -/
theorem isName_candidateName {base : String} (h : Path.IsName base) (n : Nat) :
    Path.IsName (candidateName base n) where
  no_slash := no_slash_candidateName h.no_slash n
  ne_empty := candidateName_ne (by decide) h.ne_empty n
  ne_here := candidateName_ne (by decide) h.ne_here n
  ne_up := candidateName_ne (by decide) h.ne_up n

/-- No place is tried twice. -/
theorem candidateName_injective (base : String) : Function.Injective (candidateName base) := by
  have hlonger : ∀ n, candidateName base 0 ≠ candidateName base (n + 1) := by
    intro n hsame
    have hlength := congrArg String.toList hsame
    rw [toList_candidateName_succ] at hlength
    simp [candidateName] at hlength
  intro first second hsame
  cases first with
  | zero =>
    cases second with
    | zero => rfl
    | succ second => exact absurd hsame (hlonger second)
  | succ first =>
    cases second with
    | zero => exact absurd hsame.symm (hlonger first)
    | succ second =>
      have htext := congrArg String.toList hsame
      rw [toList_candidateName_succ, toList_candidateName_succ, List.append_cancel_left_eq,
        List.cons.injEq] at htext
      -- the digits of a number tell which it is
      have hnumber := congrArg (fun digits => Nat.ofDigitChars 10 digits 0) htext.2
      simpa only [Nat.ofDigitChars_ten_toDigits] using hnumber

/-! ## Places that are taken -/

/-- Why nothing may be mounted at a place: there is something in it, or a device is believed to be
mounted there, however that is written. -/
inductive Occupied (tree : Tree) (files : FileTree) (point : String) : Prop where
  | filled (hfilled : files.isNonEmptyDirectory point = true)
  | mounted {node : Node} {info : Info} (hnode : node ∈ tree.nodes)
      (hmount : node.mount = some info) (hpoint : Path.parts info.point = Path.parts point)

variable {tree : Tree} {files : FileTree}

/-- A mount point is taken just if it is occupied. -/
theorem isTaken_iff {point : String} :
    isTaken tree files point = true ↔ Occupied tree files point := by
  unfold isTaken
  rw [Bool.or_eq_true, List.any_eq_true]
  constructor
  · rintro (hfilled | ⟨info, hinfo, hsame⟩)
    · exact .filled hfilled
    · obtain ⟨node, hnode, hmount⟩ := List.mem_filterMap.1 hinfo
      exact .mounted hnode hmount (beq_iff_eq.1 hsame)
  · rintro (hfilled | ⟨hnode, hmount, hpoint⟩)
    · exact .inl hfilled
    · exact .inr ⟨_, List.mem_filterMap.2 ⟨_, hnode, hmount⟩, beq_iff_eq.2 hpoint⟩

/-- The names that something has: an entry of the file tree, or a device's mount point. -/
def takenNames (tree : Tree) (files : FileTree) : List String :=
  files.entries.filterMap (fun entry => entry.1.getLast?) ++
    tree.nodes.filterMap fun node => node.mount.bind fun info => Path.fileName? info.point

/-- There are at most as many taken names as devices and entries. -/
theorem length_takenNames_le (tree : Tree) (files : FileTree) :
    (takenNames tree files).length ≤ tree.nodes.length + files.entries.length := by
  have hfiles := List.length_filterMap_le (fun entry => entry.1.getLast?) files.entries
  have hnodes := List.length_filterMap_le
    (fun node : Node => node.mount.bind fun info => Path.fileName? info.point) tree.nodes
  rw [takenNames, List.length_append]
  omega

/-- Whatever occupies a place has its name. -/
theorem mem_takenNames {dir name : String} (hname : Path.IsName name)
    (h : Occupied tree files (Path.join dir name)) : name ∈ takenNames tree files := by
  rw [takenNames, List.mem_append]
  cases h with
  | filled hfilled =>
    obtain ⟨location, hlocation, hdirectory, -⟩ :=
      FileTree.isNonEmptyDirectory_eq_true_iff.1 hfilled
    obtain ⟨directory, -, rfl⟩ := FileTree.resolve_join hname hlocation
    have hsome := FileTree.isSome_of_isDirectoryAt hdirectory
    rw [FileTree.isSome_entry?_iff (by simp)] at hsome
    obtain ⟨entry, hentry, hplace⟩ := List.mem_map.1 hsome
    refine .inl (List.mem_filterMap.2 ⟨entry, hentry, ?_⟩)
    rw [hplace, List.getLast?_concat]
  | mounted hnode hmount hpoint =>
    refine .inr (List.mem_filterMap.2 ⟨_, hnode, ?_⟩)
    rw [hmount, Option.bind_some, Path.fileName?, hpoint, Path.parts_join hname]
    simp

/-- So many places in a row can only be occupied if so many things have names. -/
theorem length_le_of_occupied {mountDir base : String} (hbase : Path.IsName base) {count : Nat}
    (h : ∀ n < count, Occupied tree files (candidate mountDir base n)) :
    count ≤ tree.nodes.length + files.entries.length := by
  have hnodup : ((List.range count).map (candidateName base)).Nodup :=
    List.nodup_range.map (candidateName_injective base)
  have hsubset : (List.range count).map (candidateName base) ⊆ takenNames tree files := by
    intro name hname
    obtain ⟨n, hn, rfl⟩ := List.mem_map.1 hname
    exact mem_takenNames (isName_candidateName hbase n) (h n (List.mem_range.1 hn))
  have hlength := hnodup.length_le_of_subset hsubset
  rw [List.length_map, List.length_range] at hlength
  exact Nat.le_trans hlength (length_takenNames_le tree files)

/-! ## The choice -/

/-- The search comes to an end at the first place that is not occupied. -/
theorem choosePoint_eq (mountDir : String) (tree : Tree) (files : FileTree) {record : Record}
    (hbase : Path.IsName (baseName record)) :
    ∃ n, choosePoint mountDir tree files record = candidate mountDir (baseName record) n ∧
      ¬ Occupied tree files (candidate mountDir (baseName record) n) ∧
      ∀ m < n, Occupied tree files (candidate mountDir (baseName record) m) := by
  have hchosen : choosePoint mountDir tree files record = candidate mountDir (baseName record)
      (((List.range (candidateCount tree files)).find? fun n =>
        !isTaken tree files (candidate mountDir (baseName record) n)).getD 0) := by
    unfold choosePoint
    rfl
  rw [hchosen]
  cases hfind : (List.range (candidateCount tree files)).find? fun n =>
      !isTaken tree files (candidate mountDir (baseName record) n) with
  -- not all candidates are taken, since there are more of them than of names to take them
  | none =>
    have hall : ∀ n < candidateCount tree files,
        Occupied tree files (candidate mountDir (baseName record) n) := by
      intro n hn
      rw [← isTaken_iff]
      simpa using List.find?_eq_none.1 hfind n (List.mem_range.2 hn)
    have hcount := length_le_of_occupied hbase hall
    unfold candidateCount at hcount
    omega
  | some n =>
    obtain ⟨hfree, -, htried⟩ := List.find?_range_eq_some.1 hfind
    refine ⟨n, by rw [Option.getD_some], ?_, fun m hm => ?_⟩
    · rw [← isTaken_iff]
      simpa using hfree
    · rw [← isTaken_iff]
      simpa using htried m hm

/-- If the node of a device has a name, its mount point is one name below the mount directory. -/
theorem exists_choosePoint_eq_join (mountDir : String) (tree : Tree) (files : FileTree)
    {record : Record} (hdevice : Path.IsName (Path.lastPiece record.path)) :
    ∃ name, Path.IsName name ∧ choosePoint mountDir tree files record = Path.join mountDir name := by
  have hbase := (namedFor_baseName record).isName hdevice
  obtain ⟨n, hpoint, -⟩ := choosePoint_eq mountDir tree files hbase
  exact ⟨_, isName_candidateName hbase n, hpoint⟩

/-- A mount point goes up only where the mount directory or the device's own name does. -/
theorem up_not_mem_parts_choosePoint {mountDir : String} (hdir : .up ∉ Path.parts mountDir)
    (tree : Tree) (files : FileTree) {record : Record}
    (hdevice : Path.lastPiece record.path ≠ "..") :
    .up ∉ Path.parts (choosePoint mountDir tree files record) := by
  have hnamed := namedFor_baseName record
  have hbase := hnamed.ne_of_lastPiece_ne (.inr (.inr rfl)) hdevice
  exact Path.up_not_mem_parts_join hdir (no_slash_candidateName hnamed.no_slash _)
    (candidateName_ne (by decide) hbase _)

/-- If the node of a device has a name, a place is found for the device, whatever label it has: the
name for which it is named, or else the first number after it, such that neither something is in the
place nor a device is believed to be mounted there.  All places that were tried before are occupied,
and there are no more of them than nodes and files.  The place is one name below the mount directory,
and in whatever state the file system will be, it leads from the mount directory to nowhere else. -/
theorem chosen_point_is_first_free (mountDir : String) (tree : Tree) (files : FileTree)
    {record : Record} (hdevice : Path.IsName (Path.lastPiece record.path)) :
    let point := choosePoint mountDir tree files record
    ∃ base n, NamedFor record base ∧ Path.IsName (candidateName base n) ∧
      point = Path.join mountDir (candidateName base n) ∧
      Path.parts point = Path.parts mountDir ++ [.name (candidateName base n)] ∧
      ¬ Occupied tree files point ∧
      (∀ m < n, Occupied tree files (Path.join mountDir (candidateName base m))) ∧
      n ≤ tree.nodes.length + files.entries.length ∧
      ∀ (other : FileTree) (location : Location), other.resolve point = .ok location →
        ∃ directory, other.walk (other.start mountDir) (Path.pieces mountDir) = .ok directory ∧
          location = directory ++ [candidateName base n] := by
  intro point
  have hnamed := namedFor_baseName record
  have hbase := hnamed.isName hdevice
  obtain ⟨n, hpoint, hfree, htried⟩ := choosePoint_eq mountDir tree files hbase
  have hname := isName_candidateName hbase n
  have hjoin : point = Path.join mountDir (candidateName (baseName record) n) := hpoint
  refine ⟨baseName record, n, hnamed, hname, hjoin, ?_, ?_, htried, length_le_of_occupied hbase htried,
    fun other location hlocation => ?_⟩
  · rw [hjoin, Path.parts_join hname]
  · rw [hjoin]
    exact hfree
  · rw [hjoin] at hlocation
    exact FileTree.resolve_join hname hlocation

/-- A label with a slash, of which the first place has a file in it and the second is believed to be
another device's mount point, under another spelling. -/
theorem chosen_point_is_first_free_of_slash :
    let record : Record := ⟨"/dev/sdb1", .partition "/dev/sdb" (some "vfat") (some "a/b"), none⟩
    let tree : Tree :=
      ⟨[⟨⟨⟨"/dev/sdb", .stateless .removableDisk, none⟩, none⟩, [⟨record, none⟩]⟩,
        ⟨⟨⟨"/dev/sr0", .stateful .cdrom .ok (some "udf") none, none⟩, some ⟨"media/./a_b_1/", "ro"⟩⟩,
          []⟩]⟩
    let files : FileTree :=
      ⟨[(["work"], .directory), (["work", "media"], .directory),
        (["work", "media", "a_b"], .directory), (["work", "media", "a_b", "x"], .file [])], ["work"]⟩
    Path.IsName (Path.lastPiece record.path) ∧
      choosePoint "media" tree files record = "media/a_b_2" ∧
      ¬ Occupied tree files "media/a_b_2" ∧
      ∃ base n, NamedFor record base ∧ "media/a_b_2" = Path.join "media" (candidateName base n) ∧
        ∀ m < n, Occupied tree files (Path.join "media" (candidateName base m)) := by
  intro record tree files
  have hdevice : Path.IsName (Path.lastPiece record.path) := by decide +kernel
  have hpoint : choosePoint "media" tree files record = "media/a_b_2" := by decide +kernel
  obtain ⟨base, n, hnamed, -, hjoin, -, hfree, htried, -⟩ :=
    chosen_point_is_first_free "media" tree files hdevice
  rw [hpoint] at hjoin hfree
  exact ⟨hdevice, hpoint, hfree, base, n, hnamed, hjoin, htried⟩

end RemovableMedia.Mount
