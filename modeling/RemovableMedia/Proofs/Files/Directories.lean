import RemovableMedia.Proofs.Files.Lookup

/-!
# Making and removing directories

Making a directory with those that lead to it makes directories one after another, each on the way to
it (`makeDirectories_makes`), so nothing that was there is lost (`Makes.within`).  Where the path never
goes up and everything lies in a directory, a directory that was not there is made as the last one
(`makeDirectories_fresh`), and as nothing is in it then, it can be removed again
(`removeDirectory_of_makeDirectory`).

Removing a directory takes it away if it is empty, and else changes nothing
(`removeDirectory_eq_ok_iff`).  In all that is made and removed, everything stays in a directory
(`Nested.empty` and what follows it).
-/

set_option autoImplicit false

namespace RemovableMedia.FileTree

variable {tree made : FileTree} {location : Location} {path : String}

/-! ## Putting and erasing -/

/-- Nothing is lost by putting something at a place that was free. -/
theorem within_put (hne : location ≠ []) (hfree : tree.entry? location = none) (entry : FileEntry) :
    tree.Within (tree.put location entry) := by
  refine ⟨rfl, fun place found hfound => ?_⟩
  have hplace : place ≠ location := by
    rintro rfl
    rw [hfree] at hfound
    cases hfound
  rw [entry?_put hne, if_neg hplace, hfound]

/-- Nothing is gained by taking something away. -/
theorem erase_within (hne : location ≠ []) : (tree.erase location).Within tree := by
  refine ⟨rfl, fun place found hfound => ?_⟩
  rw [entry?_erase hne] at hfound
  split at hfound
  · cases hfound
  · exact hfound

/-- After everything below a place is gone, what is left is what was elsewhere. -/
theorem entry?_prune_eq_some_iff {place : Location} {entry : FileEntry} (hne : place ≠ []) :
    FileTree.entry? (tree.prune location) place = some entry ↔
      ¬ location <+: place ∧ tree.entry? place = some entry := by
  rw [entry?_of_ne_nil hne, entry?_of_ne_nil hne, prune]
  by_cases hgone : location <+: place
  · have hnone : (tree.entries.filter fun other => !location.isPrefixOf other.1).find?
        (fun other => other.1 == place) = none := by
      refine List.find?_eq_none.2 fun other hother hplace => ?_
      obtain ⟨-, hkept⟩ := List.mem_filter.1 hother
      rw [beq_iff_eq.1 hplace, List.isPrefixOf_iff_prefix.2 hgone] at hkept
      cases hkept
    simp [hnone, hgone]
  · have hsame : (tree.entries.filter fun other => !location.isPrefixOf other.1).find?
        (fun other => other.1 == place) = tree.entries.find? fun other => other.1 == place := by
      rw [List.find?_filter]
      congr 1
      funext other
      by_cases hplace : other.1 = place
      · have hkept : location.isPrefixOf place = false := by
          rw [Bool.eq_false_iff, ne_eq, List.isPrefixOf_iff_prefix]
          exact hgone
        simp [hplace, hkept]
      · simp [hplace]
    simp [hsame, hgone]

/-- What is put at a name in a directory lies in it, unless it takes the place of a directory. -/
theorem Nested.put (h : tree.Nested) {directory : Location} {name : String}
    (hdirectory : tree.isDirectoryAt directory = true)
    (hplace : tree.isDirectoryAt (directory ++ [name]) = false) (entry : FileEntry) :
    (tree.put (directory ++ [name]) entry).Nested := by
  have hkept : ∀ location, tree.isDirectoryAt location = true →
      (tree.put (directory ++ [name]) entry).isDirectoryAt location = true := by
    intro location hlocation
    have hother : location ≠ directory ++ [name] := by
      rintro rfl
      rw [hplace] at hlocation
      cases hlocation
    rw [isDirectoryAt_iff, entry?_put (by simp), if_neg hother]
    exact isDirectoryAt_iff.1 hlocation
  intro place found hfound
  rw [entry?_put (by simp)] at hfound
  split at hfound
  · rename_i hsame
    rw [hsame, List.dropLast_concat]
    exact hkept directory hdirectory
  · exact hkept _ (h place found hfound)

/-- A place where nothing is is no directory. -/
theorem isDirectoryAt_of_free (hfree : tree.entry? location = none) :
    tree.isDirectoryAt location = false := by
  simp [isDirectoryAt, hfree]

/-- There is nothing in what is no directory. -/
theorem Nested.hasEntriesAt_eq_false (h : tree.Nested)
    (hlocation : tree.isDirectoryAt location = false) : tree.hasEntriesAt location = false := by
  refine Bool.eq_false_iff.2 fun hentries => ?_
  obtain ⟨below, hbelow⟩ := hasEntriesAt_iff.1 hentries
  obtain ⟨entry, hentry⟩ := Option.isSome_iff_exists.1 hbelow
  have hparent := h _ entry hentry
  rw [List.dropLast_concat, hlocation] at hparent
  cases hparent

/-- Taking away something with nothing below it leaves everything in a directory. -/
theorem Nested.erase (h : tree.Nested) (hne : location ≠ [])
    (hempty : tree.hasEntriesAt location = false) : (tree.erase location).Nested := by
  intro place found hfound
  have hkept := (erase_within hne).kept place found hfound
  have hparent := isDirectoryAt_iff.1 (h place found hkept)
  have hother : place.dropLast ≠ location := by
    intro hlocation
    have hplace : place ≠ [] := by
      rintro rfl
      exact hne hlocation.symm
    refine Bool.eq_false_iff.1 hempty (hasEntriesAt_iff.2 ⟨place.getLast hplace, ?_⟩)
    rw [← hlocation, List.dropLast_concat_getLast, hkept]
    rfl
  rw [isDirectoryAt_iff, entry?_erase hne, if_neg hother, hparent]

/-! ## Making one directory -/

/-- A directory is made in a directory, at a place where nothing is. -/
theorem makeDirectory_eq_ok (h : tree.makeDirectory path = .ok made) :
    ∃ directory name, tree.Leads path directory name ∧
      tree.entry? (directory ++ [name]) = none ∧
      made = tree.put (directory ++ [name]) .directory := by
  unfold makeDirectory at h
  obtain ⟨⟨directory, name⟩, hlast, h⟩ := Except.bind_eq_ok_iff.1 h
  cases name with
  | none => cases h
  | some name =>
    dsimp only at h
    split at h
    · cases h
    · rename_i hfree
      cases h
      exact ⟨directory, name, resolveLast_eq_ok_iff.1 hlast, by simpa using hfree, rfl⟩

/-- Making a directory takes nothing away. -/
theorem within_of_makeDirectory (h : tree.makeDirectory path = .ok made) : tree.Within made := by
  obtain ⟨directory, name, -, hfree, rfl⟩ := makeDirectory_eq_ok h
  exact within_put (by simp) hfree .directory

/-- A directory that was made is there. -/
theorem isDirectory_of_makeDirectory (h : tree.makeDirectory path = .ok made) :
    made.isDirectory path = true := by
  have hwithin := within_of_makeDirectory h
  obtain ⟨directory, name, hleads, hfree, rfl⟩ := makeDirectory_eq_ok h
  have hdirectory : (tree.put (directory ++ [name]) .directory).isDirectoryAt (directory ++ [name]) =
      true := by
    rw [isDirectoryAt_iff, entry?_put (by simp), if_pos rfl]
  exact isDirectory_eq_true_iff.2 ⟨_, (hleads.within hwithin).resolve_eq hdirectory, hdirectory⟩

/-! ## Making all directories on the way -/

/-- A tree that is made from another one by making directories on the way to a path. -/
inductive Makes (path : String) (tree : FileTree) : FileTree → Prop where
  | nothing : Makes path tree tree
  | more {between made : FileTree} {step : String} (h : Makes path tree between)
      (hway : Path.OnWay step path) (hmake : between.makeDirectory step = .ok made) :
      Makes path tree made

/-- Making the directories on the way to a path, level by level, makes nothing else. -/
theorem makeDirectoriesWithin_makes {start : FileTree} {step : String} (levels : Nat)
    (h : Makes path start tree) (hway : Path.OnWay step path) :
    Makes path start (tree.makeDirectoriesWithin step levels).1 := by
  induction levels generalizing step tree with
  | zero => exact h
  | succ levels ih =>
    unfold makeDirectoriesWithin
    split
    · exact h
    · split
      · rename_i hmake
        exact h.more hway hmake
      · split
        · exact h
        · rename_i parent hparent
          have hbefore := ih h (hway.parent hparent)
          split
          · rename_i hdone
            rwa [hdone] at hbefore
          · rename_i hdone
            rw [hdone] at hbefore
            split
            · rename_i hmake
              exact hbefore.more hway hmake
            · split <;> exact hbefore
      · split <;> exact h

/-- Making the directories of a path makes directories on the way to it only. -/
theorem makeDirectories_makes (tree : FileTree) (path : String) :
    Makes path tree (tree.makeDirectories path).1 :=
  makeDirectoriesWithin_makes _ .nothing (.refl path)

/-- Nothing is lost when directories are made. -/
theorem Makes.within (h : Makes path tree made) : tree.Within made := by
  induction h with
  | nothing => exact .refl tree
  | more _ _ hmake ih => exact ih.trans (within_of_makeDirectory hmake)

/-- After directories are made on the way to a path, everything is in a directory still. -/
theorem Makes.nested (h : Makes path tree made) (hnested : tree.Nested) : made.Nested := by
  induction h with
  | nothing => exact hnested
  | more _ _ hmake ih =>
    obtain ⟨directory, name, hleads, hfree, rfl⟩ := makeDirectory_eq_ok hmake
    exact ih.put hleads.isDirectory (isDirectoryAt_of_free hfree) .directory

/-- A path that never goes up ends at the place that it spells. -/
theorem Leads.eq_place {directory : Location} {name : String} (h : tree.Leads path directory name)
    (hup : .up ∉ Path.parts path) : directory ++ [name] = tree.place path := by
  obtain ⟨slashes, hpieces, hslashes⟩ := h.pieces_eq
  have hslashes : slashes.filterMap Path.nameOf? = [] := by
    refine List.filterMap_eq_nil_iff.2 fun piece hpiece => ?_
    rw [hslashes piece hpiece]
    rfl
  rw [Path.up_mem_parts_iff, hpieces] at hup
  have hfront : ".." ∉ (trimmedPieces path).dropLast := fun hin => hup (List.mem_append_left _ hin)
  rw [place, Path.names_eq, hpieces, place_eq_of_walk hfront h.walk, List.filterMap_append,
    List.filterMap_cons_some h.nameOf?_eq, hslashes, List.append_assoc]

/-- Where a path never goes up, directories are made at places on the way to the one it spells. -/
theorem Makes.place_prefix (h : Makes path tree made) (hup : .up ∉ Path.parts path)
    (hmade : (made.entry? location).isSome = true) (hfree : tree.entry? location = none) :
    location <+: tree.place path := by
  induction h with
  | nothing => simp [hfree] at hmade
  | @more between made step hbefore hway hmake ih =>
    obtain ⟨directory, name, hleads, -, rfl⟩ := makeDirectory_eq_ok hmake
    rw [entry?_put (by simp)] at hmade
    split at hmade
    · rename_i hlocation
      have hstepup : .up ∉ Path.parts step := fun hin => hup (hway.parts_prefix.subset hin)
      have hstart : between.start step = tree.start path := by
        unfold start
        rw [hbefore.within.workingDirectory, hway.isAbsolute_eq]
      rw [hlocation, hleads.eq_place hstepup, place, place, hstart]
      exact List.prefix_append_right_inj _ |>.2 (hway.parts_prefix.filterMap _)
    · exact ih hmade

/-- A directory that could be made is there. -/
theorem isDirectory_of_makeDirectories (hne : path ≠ "")
    (hmade : tree.makeDirectories path = (made, .ok ())) : made.isDirectory path = true := by
  unfold makeDirectories makeDirectoriesWithin at hmade
  rw [if_neg hne] at hmade
  split at hmade
  · rename_i hmake
    cases hmade
    exact isDirectory_of_makeDirectory hmake
  · split at hmade
    · cases hmade
    · split at hmade
      · cases hmade
      · split at hmade
        · rename_i hmake
          cases hmade
          exact isDirectory_of_makeDirectory hmake
        · split at hmade
          · cases hmade
            assumption
          · cases hmade
  · split at hmade
    · cases hmade
      assumption
    · cases hmade

/-- The directories that lead to a parent do not make a path lead to a directory that it did not lead
to, if it never goes up and everything lies in a directory. -/
theorem exists?_of_parent {parent : String} {levels : Nat} (hnested : tree.Nested)
    (hup : .up ∉ Path.parts path) (hparent : Path.parent? path = some parent)
    (hmade : tree.makeDirectoriesWithin parent levels = (made, .ok ()))
    (hdirectory : made.isDirectory path = true) : tree.exists? path = true := by
  obtain ⟨location, hlocation, hdirectory⟩ := isDirectory_eq_true_iff.1 hdirectory
  obtain ⟨hpath, hwalk⟩ := resolve_eq_ok.1 hlocation
  have hmakes : Makes parent tree (tree.makeDirectoriesWithin parent levels).1 :=
    makeDirectoriesWithin_makes levels .nothing (.refl parent)
  rw [hmade] at hmakes
  rw [hmakes.within.start] at hwalk
  have hpieces : ".." ∉ Path.pieces path := mt Path.up_mem_parts_iff.2 hup
  -- otherwise the directory would be new, and below the parent there is none
  have hthere : tree.isDirectoryAt location = true := by
    by_contra hnew
    have hfree : tree.entry? location = none := by
      by_contra hsome
      obtain ⟨entry, hentry⟩ := Option.ne_none_iff_exists'.1 hsome
      have hkept := hmakes.within.kept location entry hentry
      rw [isDirectoryAt_iff.1 hdirectory] at hkept
      exact hnew (isDirectoryAt_iff.2 (hentry.trans hkept.symm))
    obtain ⟨hparts, habsolute⟩ := Path.parts_of_parent? hparent
    obtain rfl | ⟨name, hnames⟩ := Path.names_of_parent? hparent hup
    · cases levels with
      | zero => cases hmade
      | succ levels =>
        cases hmade
        exact hnew hdirectory
    · have hparentup : .up ∉ Path.parts parent := by
        rw [hparts]
        exact fun hin => hup (List.dropLast_subset _ hin)
      have hlength := (hmakes.place_prefix hparentup (isSome_of_isDirectoryAt hdirectory)
        hfree).length_le
      rw [place_eq_of_walk hpieces hwalk, ← Path.names_eq, hnames, place, start, start, habsolute]
        at hlength
      simp only [List.length_append, List.length_singleton] at hlength
      omega
  have hreached := hnested.walk_of_within hmakes.within hpieces hwalk hthere
  exact exists?_eq_true_iff.2 ⟨location, resolve_eq_ok.2 ⟨hpath, hreached⟩⟩

/-- In a tree where everything lies in a directory, a directory that was not there is made after those
that lead to it, if its path never goes up. -/
theorem makeDirectories_fresh (hnested : tree.Nested) (hup : .up ∉ Path.parts path) (hne : path ≠ "")
    (habsent : tree.exists? path = false) (hmade : tree.makeDirectories path = (made, .ok ())) :
    ∃ between, Makes path tree between ∧ between.makeDirectory path = .ok made := by
  -- the directory cannot have been made by others, since its path is not there
  have hmissing : ∀ {other : FileTree}, (other.isDirectory path = true → tree.exists? path = true) →
      other.isDirectory path ≠ true := by
    intro other hother hdirectory
    rw [hother hdirectory] at habsent
    cases habsent
  have hself : tree.isDirectory path = true → tree.exists? path = true := by
    intro hdirectory
    obtain ⟨location, hlocation, -⟩ := isDirectory_eq_true_iff.1 hdirectory
    exact exists?_eq_true_iff.2 ⟨location, hlocation⟩
  unfold makeDirectories makeDirectoriesWithin at hmade
  rw [if_neg hne] at hmade
  split at hmade
  · rename_i hmake
    cases hmade
    exact ⟨tree, .nothing, hmake⟩
  · split at hmade
    · cases hmade
    · rename_i parent hparent
      split at hmade
      · cases hmade
      · rename_i between hbetween
        have hmakes : Makes path tree
            (tree.makeDirectoriesWithin parent (Path.parts path).length).1 :=
          makeDirectoriesWithin_makes _ .nothing ((Path.OnWay.refl path).parent hparent)
        rw [hbetween] at hmakes
        split at hmade
        · rename_i hmake
          cases hmade
          exact ⟨between, hmakes, hmake⟩
        · rw [if_neg (hmissing (exists?_of_parent hnested hup hparent hbetween))] at hmade
          cases hmade
  · rw [if_neg (hmissing hself)] at hmade
    cases hmade

/-! ## Removing a directory -/

/-- Just an empty directory is removed. -/
theorem removeDirectory_eq_ok_iff {removed : FileTree} :
    tree.removeDirectory path = .ok removed ↔
      ∃ directory name, tree.Leads path directory name ∧
        tree.isDirectoryAt (directory ++ [name]) = true ∧
        tree.hasEntriesAt (directory ++ [name]) = false ∧
        removed = tree.erase (directory ++ [name]) := by
  constructor
  · intro h
    unfold removeDirectory at h
    obtain ⟨⟨directory, name⟩, hlast, h⟩ := Except.bind_eq_ok_iff.1 h
    cases name with
    | none => cases h
    | some name =>
      dsimp only at h
      split at h
      · cases h
      · rename_i hentry
        split at h
        · cases h
        · rename_i hempty
          exact ⟨directory, name, resolveLast_eq_ok_iff.1 hlast, isDirectoryAt_iff.2 hentry,
            by simpa using hempty, (Except.ok.inj h).symm⟩
      · cases h
  · rintro ⟨directory, name, hleads, hdirectory, hempty, rfl⟩
    simp only [removeDirectory, resolveLast_eq_ok_iff.2 hleads, bind, Except.bind,
      isDirectoryAt_iff.1 hdirectory, hempty]
    rfl

/-- Where a directory was removed there is nothing, and nothing else is gone. -/
theorem exists?_of_removeDirectory {removed : FileTree} (h : tree.removeDirectory path = .ok removed) :
    removed.exists? path = false ∧ removed.Within tree := by
  obtain ⟨directory, name, hleads, -, -, rfl⟩ := removeDirectory_eq_ok_iff.1 h
  have hwithin : (tree.erase (directory ++ [name])).Within tree := erase_within (by simp)
  refine ⟨Bool.eq_false_iff.2 fun hexists => ?_, hwithin⟩
  obtain ⟨location, hlocation⟩ := exists?_eq_true_iff.1 hexists
  obtain ⟨rfl, hsome⟩ := hleads.eq_of_resolve hwithin hlocation
  rw [entry?_erase (by simp), if_pos rfl] at hsome
  cases hsome

/-- Removing a directory that was just made leaves what was there before. -/
theorem removeDirectory_of_makeDirectory (hnested : tree.Nested)
    (hmake : tree.makeDirectory path = .ok made) :
    ∃ removed, made.removeDirectory path = .ok removed ∧ tree.Within removed := by
  have hwithin := within_of_makeDirectory hmake
  obtain ⟨directory, name, hleads, hfree, rfl⟩ := makeDirectory_eq_ok hmake
  refine ⟨_, removeDirectory_eq_ok_iff.2 ⟨directory, name, hleads.within hwithin, ?_, ?_, rfl⟩, rfl,
    fun place found hfound => ?_⟩
  · rw [isDirectoryAt_iff, entry?_put (by simp), if_pos rfl]
  · have hempty := hnested.hasEntriesAt_eq_false (isDirectoryAt_of_free hfree)
    refine Bool.eq_false_iff.2 fun hentries => Bool.eq_false_iff.1 hempty ?_
    obtain ⟨below, hbelow⟩ := hasEntriesAt_iff.1 hentries
    rw [entry?_put (by simp), if_neg (by simp)] at hbelow
    exact hasEntriesAt_iff.2 ⟨below, hbelow⟩
  · have hother : place ≠ directory ++ [name] := by
      rintro rfl
      rw [hfree] at hfound
      cases hfound
    rw [entry?_erase (by simp), if_neg hother]
    exact hwithin.kept place found hfound

/-! ## Everything stays in a directory -/

namespace Nested

/-- In the tree without files everything is in a directory. -/
theorem empty : FileTree.empty.Nested := by
  intro location entry hentry
  by_cases hnil : location = []
  · subst hnil
    rfl
  · have hplace := (isSome_entry?_iff hnil).1 (Option.isSome_iff_exists.2 ⟨entry, hentry⟩)
    obtain rfl : location = ["work"] := by simpa [FileTree.empty] using hplace
    rfl

variable {next : FileTree} (h : tree.Nested)
include h

/-- After the directories of a path are made, everything is in a directory still. -/
theorem makeDirectories (path : String) : (tree.makeDirectories path).1.Nested :=
  (makeDirectories_makes tree path).nested h

/-- After a directory is removed, everything is in a directory still. -/
theorem removeDirectory (hremoved : tree.removeDirectory path = .ok next) : next.Nested := by
  obtain ⟨directory, name, -, -, hempty, rfl⟩ := removeDirectory_eq_ok_iff.1 hremoved
  exact h.erase (by simp) hempty

/-- After something is written, everything is in a directory still. -/
theorem writeEntry {entry : FileEntry} (hwritten : tree.writeEntry path entry = .ok next) :
    next.Nested := by
  unfold FileTree.writeEntry at hwritten
  obtain ⟨⟨directory, name⟩, hlast, hwritten⟩ := Except.bind_eq_ok_iff.1 hwritten
  cases name with
  | none => cases hwritten
  | some name =>
    have hleads := resolveLast_eq_ok_iff.1 hlast
    dsimp only at hwritten
    split at hwritten
    · cases hwritten
    · split at hwritten
      · cases hwritten
      · cases hwritten
      · rename_i hdirectory hsocket
        cases hwritten
        refine h.put hleads.isDirectory (Bool.eq_false_iff.2 fun hplace => ?_) entry
        exact hdirectory (isDirectoryAt_iff.1 hplace)

/-- After a file is removed, everything is in a directory still. -/
theorem removeFile (hremoved : tree.removeFile path = .ok next) : next.Nested := by
  unfold FileTree.removeFile at hremoved
  obtain ⟨location, hresolve, hremoved⟩ := Except.bind_eq_ok_iff.1 hremoved
  split at hremoved
  · cases hremoved
  · rename_i hentry
    cases hremoved
    have hplace : tree.isDirectoryAt location = false :=
      Bool.eq_false_iff.2 fun hdirectory => hentry (isDirectoryAt_iff.1 hdirectory)
    refine h.erase ?_ (h.hasEntriesAt_eq_false hplace)
    rintro rfl
    cases hplace

/-- After everything at a path is removed, everything is in a directory still. -/
theorem removeAll (hremoved : tree.removeAll path = .ok next) : next.Nested := by
  unfold FileTree.removeAll at hremoved
  obtain ⟨location, hresolve, hremoved⟩ := Except.bind_eq_ok_iff.1 hremoved
  cases hremoved
  intro place found hfound
  by_cases hnil : place = []
  · subst hnil
    rfl
  · obtain ⟨hkept, hbefore⟩ := (entry?_prune_eq_some_iff hnil).1 hfound
    by_cases hroot : place.dropLast = []
    · rw [hroot]
      rfl
    · refine isDirectoryAt_iff.2 ((entry?_prune_eq_some_iff hroot).2 ⟨fun hgone => ?_, ?_⟩)
      · exact hkept (hgone.trans (List.dropLast_prefix place))
      · exact isDirectoryAt_iff.1 (h place found hbefore)

end Nested

end RemovableMedia.FileTree
