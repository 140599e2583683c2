import Mathlib.Data.List.Induction
import Mathlib.Data.List.TakeWhile
import RemovableMedia.Files.FileTree
import RemovableMedia.Proofs.Except
import RemovableMedia.Proofs.Files.Path

/-!
# Where paths lead

A path is followed piece by piece, so what it leads to in a tree it also leads to in every tree that
holds the same and more (`Within.walk`).  A path that ends in a name leads to that name in the
directory to which its other pieces lead, or to nothing (`Leads.eq_of_resolve`).

In a tree in which everything lies in a directory (`Nested`), a path that never goes up leads to the
place that its names spell, and to nowhere else (`place_eq_of_walk`, `Nested.walk_of_within`).
-/

set_option autoImplicit false

namespace RemovableMedia.FileTree

variable {tree other : FileTree} {location next : Location}

/-! ## What is at a place -/

/-- Below the root, what is at a place is the first entry for it. -/
theorem entry?_of_ne_nil (hne : location ≠ []) :
    tree.entry? location = (tree.entries.find? fun entry => entry.1 == location).map Prod.snd := by
  unfold entry?
  rw [if_neg (by simpa using hne)]

/-- Below the root, something is at a place just if there is an entry for it. -/
theorem isSome_entry?_iff (hne : location ≠ []) :
    (tree.entry? location).isSome = true ↔ location ∈ tree.entries.map Prod.fst := by
  rw [entry?_of_ne_nil hne]
  simp

/-- What is at other places does not count. -/
theorem find?_filter_ne {entries : List (Location × FileEntry)} {place : Location}
    (hne : place ≠ location) :
    (entries.filter fun entry => entry.1 ≠ location).find? (fun entry => entry.1 == place) =
      entries.find? fun entry => entry.1 == place := by
  rw [List.find?_filter]
  congr 1
  funext entry
  by_cases hplace : entry.1 = place <;> simp [hplace, hne]

/-- No entry for a place is left among those that are not for it. -/
theorem find?_filter_self {entries : List (Location × FileEntry)} :
    (entries.filter fun entry => entry.1 ≠ location).find? (fun entry => entry.1 == location) =
      none := by
  simp

/-- What is put at a place is there, and elsewhere everything is as it was. -/
theorem entry?_put (hne : location ≠ []) (entry : FileEntry) (place : Location) :
    FileTree.entry? (tree.put location entry) place =
      if place = location then some entry else tree.entry? place := by
  by_cases hnil : place = []
  · subst hnil
    rw [if_neg (Ne.symm hne)]
    rfl
  · rw [entry?_of_ne_nil hnil, entry?_of_ne_nil hnil, put, List.find?_append]
    by_cases hplace : place = location
    · subst hplace
      rw [find?_filter_self, if_pos rfl]
      simp
    · rw [find?_filter_ne hplace, if_neg hplace]
      simp [Ne.symm hplace]

/-- At a place that was cleared nothing is, and elsewhere everything is as it was. -/
theorem entry?_erase (hne : location ≠ []) (place : Location) :
    FileTree.entry? (tree.erase location) place =
      if place = location then none else tree.entry? place := by
  by_cases hnil : place = []
  · subst hnil
    rw [if_neg (Ne.symm hne)]
    rfl
  · rw [entry?_of_ne_nil hnil, entry?_of_ne_nil hnil, erase]
    by_cases hplace : place = location
    · subst hplace
      rw [find?_filter_self, if_pos rfl]
      rfl
    · rw [find?_filter_ne hplace, if_neg hplace]

/-- A directory has something in it if there is something one name further. -/
theorem hasEntriesAt_iff :
    tree.hasEntriesAt location = true ↔
      ∃ name, (tree.entry? (location ++ [name])).isSome = true := by
  unfold hasEntriesAt
  rw [List.any_eq_true]
  constructor
  · rintro ⟨entry, hentry, hplace⟩
    obtain ⟨hne, hin⟩ := of_decide_eq_true hplace
    refine ⟨entry.1.getLast hne, ?_⟩
    rw [← hin, List.dropLast_concat_getLast, isSome_entry?_iff hne]
    exact List.mem_map_of_mem hentry
  · rintro ⟨name, hsome⟩
    rw [isSome_entry?_iff (by simp)] at hsome
    obtain ⟨entry, hentry, hplace⟩ := List.mem_map.1 hsome
    refine ⟨entry, hentry, decide_eq_true ?_⟩
    simp [hplace]

/-- A place is a directory just if its entry is one. -/
theorem isDirectoryAt_iff :
    tree.isDirectoryAt location = true ↔ tree.entry? location = some .directory := by
  unfold isDirectoryAt
  simp

/-- Something is at a place that is a directory. -/
theorem isSome_of_isDirectoryAt (h : tree.isDirectoryAt location = true) :
    (tree.entry? location).isSome = true := by
  rw [isDirectoryAt_iff.1 h]
  rfl

/-! ## Following the pieces of a path -/

/-- A piece can only be followed from a directory: it stays there, goes up, or goes down to something
that is there. -/
theorem step_cases {piece : String} (h : tree.step location piece = .ok next) :
    tree.isDirectoryAt location = true ∧
      ((Path.nameOf? piece = none ∧ piece ≠ ".." ∧ next = location) ∨
        (piece = ".." ∧ next = location.dropLast) ∨
        (Path.nameOf? piece = some piece ∧ next = location ++ [piece] ∧
          (tree.entry? next).isSome = true)) := by
  unfold step at h
  split at h
  · cases h
  · rename_i hdirectory
    refine ⟨by simpa using hdirectory, ?_⟩
    split at h
    · rename_i hstays
      cases h
      refine .inl ⟨?_, ?_, rfl⟩
      · rcases hstays with rfl | rfl <;> rfl
      · rcases hstays with rfl | rfl <;> decide
    · rename_i hmoves
      split at h
      · rename_i hup
        cases h
        exact .inr (.inl ⟨hup, rfl⟩)
      · rename_i hdown
        split at h
        · cases h
        · split at h
          · rename_i hsome
            cases h
            refine .inr (.inr ⟨?_, rfl, hsome⟩)
            simp [Path.nameOf?, Path.partOf?, hmoves, hdown, Path.Part.name?]
          · cases h

/-- A step by a name leads from a directory into it, to where something of this name is. -/
theorem step_of_isName {name : String} (h : Path.IsName name) :
    tree.step location name = .ok next ↔
      tree.isDirectoryAt location = true ∧ name.utf8ByteSize ≤ nameLimit ∧
        next = location ++ [name] ∧ (tree.entry? next).isSome = true := by
  unfold step
  simp only [h.ne_empty, h.ne_here, h.ne_up, or_self, if_false]
  split
  · simp_all
  · split
    · rename_i hlong
      simp [Nat.not_le.2 hlong]
    · rename_i hfits
      split
      · rename_i hsome
        constructor
        · intro hok
          cases hok
          exact ⟨by simp_all, Nat.not_lt.1 hfits, rfl, hsome⟩
        · rintro ⟨-, -, rfl, -⟩
          rfl
      · rename_i hnone
        constructor
        · intro hok
          cases hok
        · rintro ⟨-, -, rfl, hsome⟩
          exact absurd hsome hnone

/-- A walk is a step and then a walk from where it led. -/
theorem walk_cons (tree : FileTree) (location : Location) (piece : String) (rest : List String) :
    tree.walk location (piece :: rest) =
      (tree.step location piece).bind fun next => tree.walk next rest := by
  rw [walk]
  cases tree.step location piece <;> rfl

/-- Following pieces and then more of them is following all of them. -/
theorem walk_append (tree : FileTree) (location : Location) (front rest : List String) :
    tree.walk location (front ++ rest) =
      (tree.walk location front).bind fun next => tree.walk next rest := by
  induction front generalizing location with
  | nil => rfl
  | cons piece front ih =>
    rw [List.cons_append, walk_cons, walk_cons]
    cases tree.step location piece with
    | error e => rfl
    | ok next => exact ih next

/-- A walk succeeds just if its first step does and the rest of it from there. -/
theorem walk_cons_eq_ok_iff {piece : String} {rest : List String} :
    tree.walk location (piece :: rest) = .ok next ↔
      ∃ between, tree.step location piece = .ok between ∧ tree.walk between rest = .ok next := by
  rw [walk_cons]
  cases tree.step location piece <;> simp [Except.bind]

/-! ## Trees that hold more -/

/-- All that is in a tree is in another one at the same place. -/
structure Within (tree other : FileTree) : Prop where
  workingDirectory : other.workingDirectory = tree.workingDirectory
  kept : ∀ location entry, tree.entry? location = some entry → other.entry? location = some entry

namespace Within

/-- A tree has everything that it has. -/
theorem refl (tree : FileTree) : tree.Within tree :=
  ⟨rfl, fun _ _ hentry => hentry⟩

/-- What has all that has all of a tree has all of the tree. -/
theorem trans {first second third : FileTree} (h : first.Within second)
    (hmore : second.Within third) : first.Within third :=
  ⟨hmore.workingDirectory.trans h.workingDirectory,
    fun location entry hentry => hmore.kept location entry (h.kept location entry hentry)⟩

variable (h : tree.Within other)
include h

/-- Where something is, there is something in a tree that has more. -/
theorem isSome (hsome : (tree.entry? location).isSome = true) :
    (other.entry? location).isSome = true := by
  obtain ⟨entry, hentry⟩ := Option.isSome_iff_exists.1 hsome
  rw [h.kept location entry hentry]
  rfl

/-- What is a directory is one in a tree that has more. -/
theorem isDirectoryAt (hdirectory : tree.isDirectoryAt location = true) :
    other.isDirectoryAt location = true :=
  isDirectoryAt_iff.2 (h.kept location .directory (isDirectoryAt_iff.1 hdirectory))

/-- Paths start from the same place in a tree that has more. -/
theorem start (path : String) : other.start path = tree.start path := by
  unfold FileTree.start
  rw [h.workingDirectory]

/-- A step that succeeds leads to the same place in a tree that has more. -/
theorem step {piece : String} (hstep : tree.step location piece = .ok next) :
    other.step location piece = .ok next := by
  have hdirectory := (step_cases hstep).1
  have hother := h.isDirectoryAt hdirectory
  have hsome : ∀ place, (tree.entry? place).isSome = true → (other.entry? place).isSome = true :=
    fun place => h.isSome
  unfold FileTree.step at hstep ⊢
  simp only [hdirectory, hother] at hstep ⊢
  grind

/-- What a path leads to in a tree, it also leads to where there is more. -/
theorem walk {pieces : List String} (hwalk : tree.walk location pieces = .ok next) :
    other.walk location pieces = .ok next := by
  induction pieces generalizing location with
  | nil => exact hwalk
  | cons piece rest ih =>
    obtain ⟨between, hstep, hrest⟩ := walk_cons_eq_ok_iff.1 hwalk
    exact walk_cons_eq_ok_iff.2 ⟨between, h.step hstep, ih hrest⟩

end Within

/-! ## Paths that reach a name -/

/-- A path leads to a place just if it can be a path and a walk by its pieces leads there. -/
theorem resolve_eq_ok {path : String} :
    tree.resolve path = .ok location ↔
      checkPath path = .ok () ∧ tree.walk (tree.start path) (Path.pieces path) = .ok location := by
  constructor
  · intro h
    obtain ⟨_, hpath, hwalk⟩ := Except.bind_eq_ok_iff.1 h
    exact ⟨hpath, hwalk⟩
  · rintro ⟨hpath, hwalk⟩
    exact Except.bind_eq_ok_iff.2 ⟨(), hpath, hwalk⟩

/-- A path that leads somewhere leads to the same place in a tree that has more. -/
theorem Within.resolve {path : String} (h : tree.Within other)
    (hresolve : tree.resolve path = .ok location) : other.resolve path = .ok location := by
  obtain ⟨hpath, hwalk⟩ := resolve_eq_ok.1 hresolve
  refine resolve_eq_ok.2 ⟨hpath, ?_⟩
  rw [h.start]
  exact h.walk hwalk

/-- Something is at a path just if the path leads somewhere. -/
theorem exists?_eq_true_iff {path : String} :
    tree.exists? path = true ↔ ∃ location, tree.resolve path = .ok location := by
  unfold exists?
  cases tree.resolve path <;> simp [Except.toBool]

/-- A path is a directory just if it leads to one. -/
theorem isDirectory_eq_true_iff {path : String} :
    tree.isDirectory path = true ↔
      ∃ location, tree.resolve path = .ok location ∧ tree.isDirectoryAt location = true := by
  unfold isDirectory
  cases tree.resolve path <;> simp

/-- A path is a directory with something in it just if it leads to one with entries below it. -/
theorem isNonEmptyDirectory_eq_true_iff {path : String} :
    tree.isNonEmptyDirectory path = true ↔
      ∃ location, tree.resolve path = .ok location ∧ tree.isDirectoryAt location = true ∧
        tree.hasEntriesAt location = true := by
  unfold isNonEmptyDirectory
  cases tree.resolve path <;> simp

/-- Empty pieces lead nowhere else. -/
theorem walk_of_empty {slashes : List String} (hslashes : ∀ piece ∈ slashes, piece = "")
    (hdirectory : tree.isDirectoryAt location = true) : tree.walk location slashes = .ok location := by
  induction slashes with
  | nil => rfl
  | cons piece rest ih =>
    have hstays : tree.step location piece = .ok location := by
      simp [step, hdirectory, hslashes piece List.mem_cons_self]
    exact walk_cons_eq_ok_iff.2 ⟨location, hstays,
      ih fun piece hpiece => hslashes piece (List.mem_cons_of_mem _ hpiece)⟩

/-- A walk by empty pieces stays where it is. -/
theorem walk_eq_of_empty {slashes : List String} (hslashes : ∀ piece ∈ slashes, piece = "")
    (hwalk : tree.walk location slashes = .ok next) : next = location := by
  cases slashes with
  | nil =>
    cases hwalk
    rfl
  | cons piece rest =>
    obtain ⟨between, hstep, -⟩ := walk_cons_eq_ok_iff.1 hwalk
    have hstays := walk_of_empty hslashes (step_cases hstep).1
    rw [hstays] at hwalk
    exact (Except.ok.inj hwalk).symm

/-- Only empty pieces at the end of a path are trimmed, and all of them. -/
theorem trimmedPieces_shape (path : String) :
    (∃ slashes, Path.pieces path = trimmedPieces path ++ slashes ∧ ∀ piece ∈ slashes, piece = "") ∧
      (trimmedPieces path).getLast? ≠ some "" := by
  constructor
  · refine ⟨((Path.pieces path).reverse.takeWhile (· == "")).reverse, ?_, fun piece hpiece => ?_⟩
    · rw [trimmedPieces, ← List.reverse_append, List.takeWhile_append_dropWhile, List.reverse_reverse]
    · simpa using List.mem_takeWhile_imp (List.mem_reverse.1 hpiece)
  · rw [trimmedPieces, List.getLast?_reverse]
    intro hempty
    have hkept := List.head?_dropWhile_not (fun piece : String => piece == "")
      (Path.pieces path).reverse
    simp [hempty] at hkept

/-- A path leads to a name in a directory, whether there is anything under the name or not: its last
piece but for slashes at its end is the name, and its other pieces lead to the directory. -/
structure Leads (tree : FileTree) (path : String) (directory : Location) (name : String) :
    Prop where
  path_ok : checkPath path = .ok ()
  last : (trimmedPieces path).getLast? = some name
  walk : tree.walk (tree.start path) (trimmedPieces path).dropLast = .ok directory
  isDirectory : tree.isDirectoryAt directory = true
  ne_here : name ≠ "."
  ne_up : name ≠ ".."
  fits : name.utf8ByteSize ≤ nameLimit

/-- A path is cut into a directory and a last name just if it leads to this name in the directory.
-/
theorem resolveLast_eq_ok_iff {path : String} {directory : Location} {name : String} :
    tree.resolveLast path = .ok (directory, some name) ↔ tree.Leads path directory name := by
  constructor
  · intro h
    unfold resolveLast at h
    obtain ⟨_, hpath, h⟩ := Except.bind_eq_ok_iff.1 h
    cases hlast : (trimmedPieces path).getLast? with
    | none =>
      rw [hlast] at h
      cases h
    | some last =>
      rw [hlast] at h
      obtain ⟨reached, hwalk, h⟩ := Except.bind_eq_ok_iff.1 h
      simp only [bind, Except.bind] at h
      split at h
      · cases h
      · rename_i hdirectory
        split at h
        · cases h
        · rename_i hname
          split at h
          · cases h
          · rename_i hfits
            cases h
            rw [not_or] at hname
            exact ⟨hpath, hlast, hwalk, by simpa using hdirectory, hname.1, hname.2,
              Nat.not_lt.1 hfits⟩
  · intro h
    have hname := not_or.2 ⟨h.ne_here, h.ne_up⟩
    simp only [resolveLast, bind, Except.bind, h.path_ok, h.last, h.walk, h.isDirectory, hname]
    simp [Nat.not_lt.2 h.fits, pure, Except.pure]

namespace Leads

variable {path name : String} {directory : Location} (h : tree.Leads path directory name)
include h

/-- In a tree that has more the path leads to the same name in the same directory. -/
theorem within (hwithin : tree.Within other) : other.Leads path directory name where
  path_ok := h.path_ok
  last := h.last
  walk := by
    rw [hwithin.start]
    exact hwithin.walk h.walk
  isDirectory := hwithin.isDirectoryAt h.isDirectory
  ne_here := h.ne_here
  ne_up := h.ne_up
  fits := h.fits

/-- The last name of a path is not empty. -/
theorem ne_empty : name ≠ "" := by
  rintro rfl
  exact (trimmedPieces_shape path).2 h.last

/-- The last name of a path is a name, and no dots. -/
theorem nameOf?_eq : Path.nameOf? name = some name := by
  simp [Path.nameOf?, Path.partOf?, h.ne_empty, h.ne_here, h.ne_up, Path.Part.name?]

/-- The pieces of a path are those before its last name, the name, and empty ones for slashes at its
end. -/
theorem pieces_eq :
    ∃ slashes, Path.pieces path = (trimmedPieces path).dropLast ++ name :: slashes ∧
      ∀ piece ∈ slashes, piece = "" := by
  obtain ⟨⟨slashes, hpieces, hslashes⟩, -⟩ := trimmedPieces_shape path
  obtain ⟨front, hfront⟩ := List.getLast?_eq_some_iff.1 h.last
  refine ⟨slashes, ?_, hslashes⟩
  rw [hpieces, hfront]
  simp

/-- A path that leads to a name does not lead anywhere else, whatever is missing. -/
theorem eq_of_resolve {found : FileTree} (hwithin : found.Within tree)
    (hresolve : found.resolve path = .ok location) :
    location = directory ++ [name] ∧ (found.entry? location).isSome = true := by
  obtain ⟨slashes, hpieces, hslashes⟩ := h.pieces_eq
  have hwalk := (resolve_eq_ok.1 hresolve).2
  rw [hpieces, walk_append] at hwalk
  cases hfront : found.walk (found.start path) (trimmedPieces path).dropLast with
  | error e => simp [hfront, Except.bind] at hwalk
  | ok reached =>
    have hsame : reached = directory := by
      have hthere := hwithin.walk hfront
      rw [← hwithin.start, h.walk] at hthere
      exact (Except.ok.inj hthere).symm
    rw [hfront, hsame] at hwalk
    obtain ⟨between, hstep, hrest⟩ := walk_cons_eq_ok_iff.1 hwalk
    rw [walk_eq_of_empty hslashes hrest]
    obtain ⟨-, ⟨hnone, -⟩ | ⟨hpiece, -⟩ | ⟨-, hnext, hsome⟩⟩ := step_cases hstep
    · rw [h.nameOf?_eq] at hnone
      cases hnone
    · exact absurd hpiece h.ne_up
    · exact ⟨hnext, hsome⟩

/-- A path that leads to the name of a directory leads to the directory. -/
theorem resolve_eq (hdirectory : tree.isDirectoryAt (directory ++ [name]) = true) :
    tree.resolve path = .ok (directory ++ [name]) := by
  obtain ⟨slashes, hpieces, hslashes⟩ := h.pieces_eq
  refine resolve_eq_ok.2 ⟨h.path_ok, ?_⟩
  rw [hpieces, walk_append, h.walk]
  refine walk_cons_eq_ok_iff.2 ⟨directory ++ [name], ?_, walk_of_empty hslashes hdirectory⟩
  simp [step, h.isDirectory, h.ne_empty, h.ne_here, h.ne_up, Nat.not_lt.2 h.fits,
    isSome_of_isDirectoryAt hdirectory]

end Leads

/-- A path that ends in a name and leads to anything leads to that name. -/
theorem exists_leads_of_resolve {path : String} (hname : Path.IsName (Path.lastPiece path))
    (hresolve : tree.resolve path = .ok location) :
    ∃ directory, tree.Leads path directory (Path.lastPiece path) ∧
      location = directory ++ [Path.lastPiece path] := by
  have htrimmed : trimmedPieces path = Path.pieces path := by
    unfold trimmedPieces
    rw [Path.pieces_eq_concat path, List.reverse_append]
    simp [hname.ne_empty]
  obtain ⟨hpath, hwalk⟩ := resolve_eq_ok.1 hresolve
  rw [Path.pieces_eq_concat path, walk_append, ← htrimmed] at hwalk
  cases hfront : tree.walk (tree.start path) (trimmedPieces path).dropLast with
  | error e => simp [hfront, Except.bind] at hwalk
  | ok directory =>
    rw [hfront] at hwalk
    obtain ⟨between, hstep, hrest⟩ := walk_cons_eq_ok_iff.1 hwalk
    cases hrest
    obtain ⟨hdirectory, hfits, hlocation, -⟩ := (step_of_isName hname).1 hstep
    have hlast : (trimmedPieces path).getLast? = some (Path.lastPiece path) := by
      rw [htrimmed, Path.pieces_eq_concat path, List.getLast?_concat]
    exact ⟨directory,
      ⟨hpath, hlast, hfront, hdirectory, hname.ne_here, hname.ne_up, hfits⟩, hlocation⟩

/-- A directory continued by a name leads to that name in the directory, wherever it is followed. -/
theorem resolve_join {dir name : String} (hname : Path.IsName name)
    (hresolve : tree.resolve (Path.join dir name) = .ok location) :
    ∃ directory, tree.walk (tree.start dir) (Path.pieces dir) = .ok directory ∧
      location = directory ++ [name] := by
  obtain ⟨-, hwalk⟩ := resolve_eq_ok.1 hresolve
  obtain ⟨front, hjoin, hdir⟩ := Path.pieces_join hname.no_slash dir
  have hstart : tree.start (Path.join dir name) = tree.start dir := by
    unfold start
    rw [Path.isAbsolute_join hname]
  rw [hstart, hjoin, walk_append] at hwalk
  cases hfront : tree.walk (tree.start dir) front with
  | error e => simp [hfront, Except.bind] at hwalk
  | ok directory =>
    rw [hfront] at hwalk
    obtain ⟨between, hstep, hrest⟩ := walk_cons_eq_ok_iff.1 hwalk
    cases hrest
    obtain ⟨hdirectory, -, hlocation, -⟩ := (step_of_isName hname).1 hstep
    refine ⟨directory, ?_, hlocation⟩
    rcases hdir with hdir | hdir
    · rwa [hdir]
    · rw [hdir, walk_append, hfront]
      exact walk_of_empty (by simp) hdirectory

/-! ## Paths that never go up -/

/-- Everything lies in a directory. -/
def Nested (tree : FileTree) : Prop :=
  ∀ location entry, tree.entry? location = some entry → tree.isDirectoryAt location.dropLast = true

/-- If everything is in a directory, whatever leads to a directory is one. -/
theorem Nested.isDirectoryAt_of_append (h : tree.Nested) (location more : Location)
    (hdirectory : tree.isDirectoryAt (location ++ more) = true) :
    tree.isDirectoryAt location = true := by
  induction more using List.reverseRecOn with
  | nil => simpa using hdirectory
  | append_singleton more name ih =>
    have hparent := h _ _ (isDirectoryAt_iff.1 hdirectory)
    rw [← List.append_assoc, List.dropLast_concat] at hparent
    exact ih hparent

/-- The place that a path spells which never goes up. -/
def place (tree : FileTree) (path : String) : Location :=
  tree.start path ++ Path.names path

/-- A walk that does not go up ends below its start, at the names among its pieces. -/
theorem place_eq_of_walk {pieces : List String} (hup : ".." ∉ pieces)
    (hwalk : tree.walk location pieces = .ok next) :
    next = location ++ pieces.filterMap Path.nameOf? := by
  induction pieces generalizing location with
  | nil =>
    cases hwalk
    simp
  | cons piece rest ih =>
    rw [List.mem_cons, not_or] at hup
    obtain ⟨between, hstep, hrest⟩ := walk_cons_eq_ok_iff.1 hwalk
    rw [ih hup.2 hrest]
    obtain ⟨-, ⟨hnone, -, rfl⟩ | ⟨hpiece, -⟩ | ⟨hname, rfl, -⟩⟩ := step_cases hstep
    · rw [List.filterMap_cons_none hnone]
    · exact absurd hpiece.symm hup.1
    · rw [List.filterMap_cons_some hname, List.append_assoc, List.singleton_append]

/-- In a tree where everything lies in a directory, whatever a path spells that leads there in a
larger tree is reached in this one. -/
theorem Nested.walk_of_within (h : tree.Nested) (hwithin : tree.Within other)
    {pieces : List String} (hup : ".." ∉ pieces) (hwalk : other.walk location pieces = .ok next)
    (hdirectory : tree.isDirectoryAt next = true) : tree.walk location pieces = .ok next := by
  induction pieces generalizing location with
  | nil => exact hwalk
  | cons piece rest ih =>
    rw [List.mem_cons, not_or] at hup
    obtain ⟨between, hstep, hrest⟩ := walk_cons_eq_ok_iff.1 hwalk
    have hbetween : tree.isDirectoryAt between = true := by
      rw [place_eq_of_walk hup.2 hrest] at hdirectory
      exact h.isDirectoryAt_of_append between _ hdirectory
    have hlocation : tree.isDirectoryAt location = true := by
      obtain ⟨-, ⟨-, -, rfl⟩ | ⟨hpiece, -⟩ | ⟨-, rfl, -⟩⟩ := step_cases hstep
      · exact hbetween
      · exact absurd hpiece.symm hup.1
      · exact h.isDirectoryAt_of_append location [piece] hbetween
    refine walk_cons_eq_ok_iff.2 ⟨between, ?_, ih hup.2 hrest⟩
    have hsome := isSome_of_isDirectoryAt hbetween
    have hother := hwithin.isDirectoryAt hlocation
    unfold step at hstep ⊢
    simp only [hlocation, hother] at hstep ⊢
    grind

end RemovableMedia.FileTree
