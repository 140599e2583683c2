import RemovableMedia.Proofs.Files.Lookup

/-!
# Paths that lie in a directory

A path lies in a directory if its parts begin with those of the directory; what follows is the rest of
its parts (`Path.beyond`).  So the kernel, which follows the pieces of the path, passes through the
directory (`exists_base_of_startsWith`).  If the rest does not go up, then it spells the names that lead
from the directory to the place of the path (`exists_names_of_startsWith`), and there are none exactly if
the path is the directory itself.

Nothing of the kind holds for a rest that goes up, nor for the empty text, in which every path lies and
which leads nowhere.
-/

set_option autoImplicit false

namespace RemovableMedia

namespace Path

variable {path dir : String}

/-! ## The rest of a path -/

/-- The parts of a path after those of a directory. -/
def beyond (path dir : String) : List Part :=
  (parts path).drop (parts dir).length

/-- The parts of a path inside a directory are those of the directory and those beyond it. -/
theorem parts_eq_append_beyond (h : startsWith path dir = true) :
    parts path = parts dir ++ beyond path dir := by
  obtain ⟨rest, hrest⟩ := List.isPrefixOf_iff_prefix.1 h
  rw [beyond, ← hrest, List.drop_left]

/-- A path inside a directory is the same as the directory just if nothing lies beyond it. -/
theorem same_iff_beyond_eq_nil (h : startsWith path dir = true) :
    same path dir = true ↔ beyond path dir = [] := by
  rw [same, beq_iff_eq, parts_eq_append_beyond h, List.append_right_eq_self]

/-- Beyond a directory, a path that joins a name to it has just this name. -/
theorem beyond_join {name : String} (h : IsName name) (dir : String) :
    beyond (join dir name) dir = [.name name] := by
  rw [beyond, parts_join h, List.drop_left]

/-- Only the empty path has no parts. -/
theorem parts_eq_nil_iff : parts path = [] ↔ path = "" := by
  constructor
  · intro h
    obtain ⟨piece, rest, hpieces⟩ := List.exists_cons_of_ne_nil (pieces_ne_nil path)
    have hjoin : "/".intercalate (piece :: rest) = path :=
      hpieces ▸ Text.intercalate_splitString (by decide) path
    unfold parts at h
    simp only [hpieces, List.head?_cons] at h
    split at h
    · cases h
    · rename_i hrelative
      split at h
      · cases h
      · rename_i hhere
        -- what is dropped in front is empty, and a slash after it would make the path absolute
        have hdropped := List.filterMap_eq_nil_iff.1 h piece List.mem_cons_self
        have hempty : piece = "" := by
          unfold partOf? at hdropped
          grind
        subst hempty
        cases rest with
        | nil => rw [← hjoin, String.intercalate_singleton]
        | cons next rest =>
          refine absurd ?_ hrelative
          rw [← hjoin, String.intercalate_cons_cons, String.empty_append]
          exact isAbsolute_slash _
  · rintro rfl
    rfl

/-- Only the first part of a path is no step, and that belongs to the directory. -/
theorem isStep_of_mem_beyond (hdir : dir ≠ "") : ∀ part ∈ beyond path dir, part.IsStep := by
  obtain ⟨lead, steps, hparts, hlead, hsteps⟩ := parts_shape path
  have hlength : lead.length ≤ (parts dir).length := by
    have hpositive := List.length_pos_of_ne_nil (mt parts_eq_nil_iff.1 hdir)
    rcases hlead with rfl | rfl | rfl
    · exact Nat.zero_le _
    · exact hpositive
    · exact hpositive
  intro part hpart
  rw [beyond, hparts, List.drop_append, List.drop_eq_nil_of_le hlength, List.nil_append] at hpart
  exact hsteps part (List.mem_of_mem_drop hpart)

/-- Steps that never lead up are names. -/
theorem exists_names_of_isStep {steps : List Part} (hsteps : ∀ part ∈ steps, part.IsStep)
    (hup : .up ∉ steps) :
    ∃ names : List String, steps = names.map .name ∧ ∀ name ∈ names, IsName name := by
  induction steps with
  | nil => exact ⟨[], rfl, by simp⟩
  | cons part rest ih =>
    rw [List.mem_cons, not_or] at hup
    obtain ⟨names, rfl, hnames⟩ := ih (fun part hpart => hsteps part (List.mem_cons_of_mem _ hpart))
      hup.2
    obtain rfl | ⟨name, rfl, hname⟩ := hsteps part List.mem_cons_self
    · exact absurd rfl hup.1
    · exact ⟨name :: names, rfl, List.forall_mem_cons.2 ⟨hname, hnames⟩⟩

/-! ## The pieces that are followed -/

/-- The piece by which a part is followed, unless it stays where it is. -/
def Part.piece? : Part → Option String
  | .up => some ".."
  | .name text => some text
  | _ => none

/-- A piece, unless it stays where it is. -/
def moveOf? (piece : String) : Option String :=
  (partOf? piece).bind Part.piece?

/-- The pieces of a path that do not stay where they are. -/
def moves (path : String) : List String :=
  (parts path).filterMap Part.piece?

/-- The moves of a path are those of its pieces. -/
theorem moves_eq (path : String) : moves path = (pieces path).filterMap moveOf? :=
  filterMap_parts rfl rfl path

/-- Every piece is a move but the empty one and a dot. -/
theorem moveOf?_eq (piece : String) :
    moveOf? piece = if piece = "" ∨ piece = "." then none else some piece := by
  unfold moveOf? partOf?
  split
  · rfl
  · split
    · simp_all [Part.piece?]
    · rfl

/-- The pieces of names are the names. -/
theorem filterMap_piece?_names (names : List String) :
    (names.map Part.name).filterMap Part.piece? = names := by
  rw [List.filterMap_map]
  exact List.filterMap_some

end Path

namespace FileTree

variable {tree : FileTree} {location next : Location} {path dir : String}

/-- Only from a directory a walk leads to a directory. -/
theorem isDirectoryAt_of_walk {pieces : List String} (hwalk : tree.walk location pieces = .ok next)
    (hdirectory : tree.isDirectoryAt next = true) : tree.isDirectoryAt location = true := by
  cases pieces with
  | nil =>
    cases hwalk
    exact hdirectory
  | cons piece rest =>
    obtain ⟨between, hstep, -⟩ := walk_cons_eq_ok_iff.1 hwalk
    exact (step_cases hstep).1

/-- On the way to a directory, pieces that stay where they are make no difference. -/
theorem walk_moves (hdirectory : tree.isDirectoryAt next = true) {pieces : List String} :
    tree.walk location (pieces.filterMap Path.moveOf?) = .ok next ↔
      tree.walk location pieces = .ok next := by
  induction pieces generalizing location with
  | nil => rfl
  | cons piece rest ih =>
    by_cases hstays : piece = "" ∨ piece = "."
    · have hnone : Path.moveOf? piece = none := by
        rw [Path.moveOf?_eq, if_pos hstays]
      have hstep : tree.isDirectoryAt location = true → tree.step location piece = .ok location := by
        intro hlocation
        simp [step, hlocation, hstays]
      rw [List.filterMap_cons_none hnone, ih]
      -- staying needs a directory too, and there is one because the rest leads to one
      constructor
      · intro hrest
        have hlocation := isDirectoryAt_of_walk hrest hdirectory
        exact walk_cons_eq_ok_iff.2 ⟨location, hstep hlocation, hrest⟩
      · intro hwalk
        have hlocation := isDirectoryAt_of_walk hwalk hdirectory
        obtain ⟨between, hbetween, hrest⟩ := walk_cons_eq_ok_iff.1 hwalk
        rw [hstep hlocation] at hbetween
        cases hbetween
        exact hrest
    · have hsome : Path.moveOf? piece = some piece := by
        rw [Path.moveOf?_eq, if_neg hstays]
      simp only [List.filterMap_cons_some hsome, walk_cons_eq_ok_iff, ih]

/-- A path inside a directory starts where the directory's own path starts. -/
theorem start_of_startsWith (hdir : dir ≠ "") (h : Path.startsWith path dir = true) :
    tree.start path = tree.start dir := by
  have hsame : Path.isAbsolute path = Path.isAbsolute dir := by
    refine Bool.eq_iff_iff.2 ?_
    rw [Path.isAbsolute_iff, Path.isAbsolute_iff, Path.parts_eq_append_beyond h,
      List.head?_append_of_ne_nil _ (mt Path.parts_eq_nil_iff.1 hdir)]
  unfold start
  rw [hsame]

/-- Whoever follows a path that lies in a directory, to a directory, passes through that directory. -/
theorem exists_base_of_startsWith (hdir : dir ≠ "") (h : Path.startsWith path dir = true)
    (hresolve : tree.resolve path = .ok location)
    (hdirectory : tree.isDirectoryAt location = true) :
    ∃ base, tree.walk (tree.start dir) (Path.pieces dir) = .ok base ∧
      tree.walk base ((Path.beyond path dir).filterMap Path.Part.piece?) = .ok location := by
  have hmoves : Path.moves path =
      Path.moves dir ++ (Path.beyond path dir).filterMap Path.Part.piece? := by
    rw [Path.moves, Path.parts_eq_append_beyond h, List.filterMap_append]
    rfl
  have hwalk := (walk_moves hdirectory).2 (resolve_eq_ok.1 hresolve).2
  rw [← Path.moves_eq, hmoves, start_of_startsWith hdir h, walk_append] at hwalk
  cases hbase : tree.walk (tree.start dir) (Path.moves dir) with
  | error e => simp [hbase, Except.bind] at hwalk
  | ok base =>
    rw [hbase] at hwalk
    rw [Path.moves_eq] at hbase
    exact ⟨base, (walk_moves (isDirectoryAt_of_walk hwalk hdirectory)).1 hbase, hwalk⟩

/-- Where a path lies in a directory and does not go up from there, names lead from the directory to its
place, and none do only if it is the directory. -/
theorem exists_names_of_startsWith (hdir : dir ≠ "") (h : Path.startsWith path dir = true)
    (hup : .up ∉ Path.beyond path dir) (hresolve : tree.resolve path = .ok location)
    (hdirectory : tree.isDirectoryAt location = true) :
    ∃ base names, tree.walk (tree.start dir) (Path.pieces dir) = .ok base ∧
      location = base ++ names ∧ (names = [] ↔ Path.same path dir = true) := by
  obtain ⟨base, hbase, hrest⟩ := exists_base_of_startsWith hdir h hresolve hdirectory
  obtain ⟨names, hbeyond, hnames⟩ :=
    Path.exists_names_of_isStep (Path.isStep_of_mem_beyond hdir) hup
  have hdown : names.filterMap Path.nameOf? = names := by
    refine (List.filterMap_congr fun name hname => ?_).trans List.filterMap_some
    simp [Path.nameOf?, (hnames name hname).partOf?_eq, Path.Part.name?]
  rw [hbeyond, Path.filterMap_piece?_names] at hrest
  have hplace := place_eq_of_walk (fun hmem => (hnames _ hmem).ne_up rfl) hrest
  refine ⟨base, names, hbase, hdown ▸ hplace, ?_⟩
  rw [Path.same_iff_beyond_eq_nil h, hbeyond, List.map_eq_nil_iff]

end FileTree

end RemovableMedia
