import Mathlib.Data.List.Basic
import RemovableMedia.Files.Path
import RemovableMedia.Proofs.Text.Split

/-!
# Names below a directory

A name is a text that is one step down when it stands in a path.  A directory continued by a name has
the parts of the directory and the name as one part more (`parts_join`), so it lies in the directory.
Going to the parent of a path drops its last part (`parts_of_parent?`).
-/

set_option autoImplicit false

namespace RemovableMedia.Path

/-! ## Names -/

/-- A text that stands for one step down in a path. -/
structure IsName (text : String) : Prop where
  no_slash : '/' ∉ text.toList
  ne_empty : text ≠ ""
  ne_here : text ≠ "."
  ne_up : text ≠ ".."

instance (text : String) : Decidable (IsName text) :=
  decidable_of_iff ('/' ∉ text.toList ∧ text ≠ "" ∧ text ≠ "." ∧ text ≠ "..")
    ⟨fun ⟨hslash, hempty, hhere, hup⟩ => ⟨hslash, hempty, hhere, hup⟩,
      fun h => ⟨h.no_slash, h.ne_empty, h.ne_here, h.ne_up⟩⟩

namespace IsName

variable {name : String}

/-- A name as a piece is the part with this name. -/
theorem partOf?_eq (h : IsName name) : partOf? name = some (.name name) := by
  simp [partOf?, h.ne_empty, h.ne_here, h.ne_up]

end IsName

/-- A text without a slash is no absolute path. -/
theorem isAbsolute_of_no_slash {text : String} (h : '/' ∉ text.toList) : isAbsolute text = false := by
  rw [isAbsolute, beq_eq_false_iff_ne]
  exact fun hslash => h (List.mem_of_mem_head? hslash)

/-! ## Pieces -/

/-- Every path has a piece. -/
theorem pieces_ne_nil (path : String) : pieces path ≠ [] := by
  simp [pieces, Text.splitString, Text.splitAll_eq_splitOn, List.splitOn_ne_nil]

/-- A text without a slash is its only piece. -/
theorem pieces_of_no_slash {text : String} (h : '/' ∉ text.toList) : pieces text = [text] :=
  Text.splitString_of_not_mem h

/-- Paths with a slash between them have the pieces of both. -/
theorem pieces_append_slash (dir rest : String) :
    pieces (dir ++ "/" ++ rest) = pieces dir ++ pieces rest :=
  Text.splitString_append (by decide) dir rest

/-- A directory continued by one piece has that as a piece more, in place of the empty piece after a
slash at its end. -/
theorem pieces_join {piece : String} (h : '/' ∉ piece.toList) (dir : String) :
    ∃ front, pieces (join dir piece) = front ++ [piece] ∧
      (pieces dir = front ∨ pieces dir = front ++ [""]) := by
  unfold join
  rw [isAbsolute_of_no_slash h, if_neg Bool.false_ne_true]
  by_cases hempty : dir = ""
  · refine ⟨[], ?_, .inr ?_⟩
    · rw [if_pos (.inl hempty), hempty, String.empty_append, pieces_of_no_slash h, List.nil_append]
    · rw [hempty]
      rfl
  · by_cases hslash : dir.toList.getLast? = some '/'
    · obtain ⟨front, hfront⟩ := List.getLast?_eq_some_iff.1 hslash
      have hdir : dir = String.ofList front ++ "/" := by
        apply String.toList_injective
        simp [hfront]
      refine ⟨pieces (String.ofList front), ?_, .inr ?_⟩
      · rw [if_pos (.inr hslash), hdir, pieces_append_slash, pieces_of_no_slash h]
      · have hend := pieces_append_slash (String.ofList front) ""
        rw [String.append_empty] at hend
        rw [hdir, hend]
        rfl
    · refine ⟨pieces dir, ?_, .inl rfl⟩
      rw [if_neg (not_or.2 ⟨hempty, hslash⟩), pieces_append_slash, pieces_of_no_slash h]

/-- A path that ends in a name is not empty. -/
theorem join_ne_empty {name : String} (h : IsName name) (dir : String) : join dir name ≠ "" := by
  intro hempty
  obtain ⟨front, hpieces, -⟩ := pieces_join h.no_slash dir
  rw [hempty] at hpieces
  have hname : [""] = front ++ [name] := hpieces
  have hlast := congrArg List.getLast? hname
  simp at hlast
  exact h.ne_empty hlast

/-- The last piece of a path that ends in a name is the name. -/
theorem lastPiece_join {name : String} (h : IsName name) (dir : String) :
    lastPiece (join dir name) = name := by
  obtain ⟨front, hpieces, -⟩ := pieces_join h.no_slash dir
  rw [lastPiece, hpieces, List.getLast?_concat, Option.getD_some]

/-- A path is its last piece after those that lead to it. -/
theorem pieces_eq_concat (path : String) :
    pieces path = (pieces path).dropLast ++ [lastPiece path] := by
  obtain ⟨front, last, hpieces⟩ := (pieces path).eq_nil_or_concat.resolve_left (pieces_ne_nil path)
  rw [lastPiece, hpieces]
  simp

/-- The last piece of a path has no slash. -/
theorem no_slash_lastPiece (path : String) : '/' ∉ (lastPiece path).toList := by
  have hlast : lastPiece path ∈ pieces path := by
    rw [pieces_eq_concat path]
    exact List.mem_append_right _ (List.mem_singleton_self _)
  exact Text.not_mem_of_mem_splitString hlast

/-! ## Parts -/

/-- An absolute path has a slash at its beginning. -/
theorem exists_of_isAbsolute {path : String} (h : isAbsolute path = true) :
    ∃ rest, path = "" ++ "/" ++ rest := by
  rw [isAbsolute, beq_iff_eq] at h
  obtain ⟨rest, hrest⟩ := List.head?_eq_some_iff.1 h
  refine ⟨String.ofList rest, String.toList_injective ?_⟩
  simp [hrest]

/-- The first piece of a path from the root is empty. -/
theorem head?_pieces_of_isAbsolute {path : String} (h : isAbsolute path = true) :
    (pieces path).head? = some "" := by
  obtain ⟨rest, rfl⟩ := exists_of_isAbsolute h
  rw [pieces_append_slash]
  rfl

/-- A path with a slash at its beginning is absolute. -/
theorem isAbsolute_slash (rest : String) : isAbsolute ("/" ++ rest) = true := by
  simp [isAbsolute, String.toList_append]

/-- Joining a name to a directory leaves it absolute or not. -/
theorem isAbsolute_join {name : String} (h : IsName name) (dir : String) :
    isAbsolute (join dir name) = isAbsolute dir := by
  unfold join
  rw [isAbsolute_of_no_slash h.no_slash, if_neg Bool.false_ne_true]
  by_cases hempty : dir = ""
  · rw [if_pos (.inl hempty), hempty, String.empty_append, isAbsolute_of_no_slash h.no_slash]
    rfl
  · obtain ⟨c, rest, hdir⟩ : ∃ c rest, dir.toList = c :: rest :=
      List.exists_cons_of_ne_nil (by simpa using hempty)
    unfold isAbsolute
    split <;> simp [String.toList_append, hdir]

/-- A directory continued by a name has the name as one part more. -/
theorem parts_join {name : String} (h : IsName name) (dir : String) :
    parts (join dir name) = parts dir ++ [.name name] := by
  obtain ⟨front, hjoin, hdir⟩ := pieces_join h.no_slash dir
  have hrest : (pieces dir).filterMap partOf? = front.filterMap partOf? := by
    rcases hdir with hdir | hdir
    · rw [hdir]
    · rw [hdir, List.filterMap_append]
      exact List.append_nil _
  have hhere : (front ++ [name]).head? = some "." ↔ (pieces dir).head? = some "." := by
    cases front with
    | nil =>
      have hempty : pieces dir = [""] := hdir.resolve_left (pieces_ne_nil dir)
      simp [hempty, h.ne_here]
    | cons piece front =>
      rcases hdir with hdir | hdir <;> simp [hdir]
  have hlast : [name].filterMap partOf? = [.name name] := by
    simp [h.partOf?_eq]
  unfold parts
  simp only [isAbsolute_join h, hjoin, hhere, hrest, List.filterMap_append, hlast]
  split
  · rfl
  · split <;> rfl

/-- The parent of what is one step below a name has that name. -/
theorem parentName?_append {name step : String} (hname : IsName name) (hstep : IsName step)
    (dir : String) : parentName? (dir ++ "/" ++ name ++ "/" ++ step) = some name := by
  have hpieces : (pieces (dir ++ "/" ++ name ++ "/" ++ step)).filterMap partOf? =
      (pieces dir).filterMap partOf? ++ [.name name, .name step] := by
    rw [pieces_append_slash, pieces_append_slash, pieces_of_no_slash hname.no_slash,
      pieces_of_no_slash hstep.no_slash]
    simp [hname.partOf?_eq, hstep.partOf?_eq]
  have hparts : ∃ front, parts (dir ++ "/" ++ name ++ "/" ++ step) =
      front ++ [.name name, .name step] := by
    unfold parts
    rw [hpieces]
    split
    · exact ⟨.root :: _, rfl⟩
    · split
      · exact ⟨.here :: _, rfl⟩
      · exact ⟨_, rfl⟩
  obtain ⟨front, hfront⟩ := hparts
  simp [parentName?, hfront]

/-- A directory continued by a name lies in the directory. -/
theorem startsWith_join {name : String} (h : IsName name) (dir : String) :
    startsWith (join dir name) dir = true := by
  rw [startsWith, parts_join h]
  exact List.isPrefixOf_iff_prefix.2 (List.prefix_append _ _)

/-! ## Going up -/

/-- A part that is not the beginning of a path. -/
def Part.IsStep (part : Part) : Prop :=
  part = .up ∨ ∃ text, part = .name text ∧ IsName text

/-- What is read from a piece without slashes is a step, and is written as this piece. -/
theorem isStep_of_partOf? {piece : String} {part : Part} (hslash : '/' ∉ piece.toList)
    (h : partOf? piece = some part) : part.IsStep ∧ ofParts.partText part = piece := by
  unfold partOf? at h
  split at h
  · cases h
  · rename_i hkept
    split at h
    · rename_i hup
      cases h
      exact ⟨.inl rfl, hup.symm⟩
    · rename_i hup
      cases h
      exact ⟨.inr ⟨piece, rfl, hslash, fun he => hkept (.inl he), fun he => hkept (.inr he), hup⟩,
        rfl⟩

namespace Part.IsStep

variable {part : Part}

/-- A step that is written is read back. -/
theorem partOf?_partText (h : part.IsStep) : partOf? (ofParts.partText part) = some part := by
  obtain rfl | ⟨text, rfl, htext⟩ := h
  · rfl
  · exact htext.partOf?_eq

/-- A step is not written as the empty text. -/
theorem partText_ne_empty (h : part.IsStep) : ofParts.partText part ≠ "" := by
  obtain rfl | ⟨text, rfl, htext⟩ := h
  · decide
  · exact htext.ne_empty

/-- A step is not written as a single dot. -/
theorem partText_ne_here (h : part.IsStep) : ofParts.partText part ≠ "." := by
  obtain rfl | ⟨text, rfl, htext⟩ := h
  · decide
  · exact htext.ne_here

/-- A step is written without a slash. -/
theorem no_slash (h : part.IsStep) : '/' ∉ (ofParts.partText part).toList := by
  obtain rfl | ⟨text, rfl, htext⟩ := h
  · decide
  · exact htext.no_slash

end Part.IsStep

/-- A path begins at the root, where it stands, or with its first step, and goes on in steps. -/
theorem parts_shape (path : String) :
    ∃ lead steps, parts path = lead ++ steps ∧ (lead = [] ∨ lead = [.root] ∨ lead = [.here]) ∧
      ∀ part ∈ steps, part.IsStep := by
  have hsteps : ∀ part ∈ (pieces path).filterMap partOf?, part.IsStep := by
    intro part hpart
    obtain ⟨piece, hpiece, hkept⟩ := List.mem_filterMap.1 hpart
    exact (isStep_of_partOf? (Text.not_mem_of_mem_splitString hpiece) hkept).1
  unfold parts
  simp only
  split
  · exact ⟨[.root], _, rfl, .inr (.inl rfl), hsteps⟩
  · split
    · exact ⟨[.here], _, rfl, .inr (.inr rfl), hsteps⟩
    · exact ⟨[], _, rfl, .inl rfl, hsteps⟩

/-- Only a path from the root begins with an empty piece and goes on. -/
theorem not_isAbsolute {path text : String} (h : (pieces path).head? = some text) (hne : text ≠ "") :
    isAbsolute path = false := by
  refine Bool.eq_false_iff.2 fun habsolute => hne ?_
  rw [head?_pieces_of_isAbsolute habsolute] at h
  exact (Option.some.inj h).symm

/-- Steps that are written are all read back. -/
theorem filterMap_partText {steps : List Part} (hsteps : ∀ part ∈ steps, part.IsStep) :
    (steps.map ofParts.partText).filterMap partOf? = steps := by
  rw [List.filterMap_map]
  refine (List.filterMap_congr fun part hpart => ?_).trans List.filterMap_some
  exact (hsteps part hpart).partOf?_partText

/-- The pieces of steps that are put together are the texts of the steps, after the pieces before
them. -/
theorem pieces_intercalate_partText (front : List String) {steps : List Part}
    (hfront : ∀ text ∈ front, '/' ∉ text.toList) (hsteps : ∀ part ∈ steps, part.IsStep)
    (hne : front ++ steps.map ofParts.partText ≠ []) :
    pieces ("/".intercalate (front ++ steps.map ofParts.partText)) =
      front ++ steps.map ofParts.partText := by
  refine Text.splitString_intercalate (by decide) hne fun text htext => ?_
  rcases List.mem_append.1 htext with hin | hin
  · exact hfront text hin
  · obtain ⟨part, hpart, rfl⟩ := List.mem_map.1 hin
    exact (hsteps part hpart).no_slash

/-- Steps that are written one after another are read back. -/
theorem parts_ofParts_steps {steps : List Part} (hsteps : ∀ part ∈ steps, part.IsStep) :
    parts (ofParts steps) = steps := by
  cases hcons : steps with
  | nil => rfl
  | cons part rest =>
    have hpart := hsteps part (hcons ▸ List.mem_cons_self)
    have hpath : ofParts (part :: rest) = "/".intercalate (steps.map ofParts.partText) := by
      obtain rfl | ⟨text, rfl, -⟩ := hpart <;> rw [hcons] <;> rfl
    have hpieces : pieces (ofParts (part :: rest)) = steps.map ofParts.partText := by
      rw [hpath]
      exact pieces_intercalate_partText [] (by simp) hsteps (by simp [hcons])
    have hhead : (pieces (ofParts (part :: rest))).head? = some (ofParts.partText part) := by
      simp [hpieces, hcons]
    have hrelative := not_isAbsolute hhead hpart.partText_ne_empty
    simp only [parts, hrelative, hpieces, filterMap_partText hsteps]
    simp [hpart.partText_ne_here, hcons]

/-- The parts of an absolute path that is written are those it was written from. -/
theorem parts_ofParts_root {steps : List Part} (hsteps : ∀ part ∈ steps, part.IsStep) :
    parts (ofParts (.root :: steps)) = .root :: steps := by
  have hpath : ofParts (.root :: steps) =
      "" ++ "/" ++ "/".intercalate (steps.map ofParts.partText) := rfl
  have habsolute : isAbsolute (ofParts (.root :: steps)) = true := isAbsolute_slash _
  have hrest : (pieces ("/".intercalate (steps.map ofParts.partText))).filterMap partOf? = steps := by
    by_cases hnil : steps = []
    · rw [hnil]
      rfl
    · have hpieces := pieces_intercalate_partText [] (by simp) hsteps (by simpa using hnil)
      rw [List.nil_append] at hpieces
      rw [hpieces, filterMap_partText hsteps]
  have hall : (pieces (ofParts (.root :: steps))).filterMap partOf? = steps := by
    rw [hpath, pieces_append_slash, List.filterMap_append, hrest]
    rfl
  simp only [parts, habsolute, hall, if_true]

/-- The parts of a path that is written with a dot before it are those it was written from. -/
theorem parts_ofParts_here {steps : List Part} (hsteps : ∀ part ∈ steps, part.IsStep) :
    parts (ofParts (.here :: steps)) = .here :: steps := by
  have hpieces : pieces (ofParts (.here :: steps)) = "." :: steps.map ofParts.partText :=
    pieces_intercalate_partText ["."] (by decide) hsteps (by simp)
  have hrelative : isAbsolute (ofParts (.here :: steps)) = false :=
    not_isAbsolute (congrArg List.head? hpieces) (by decide)
  have hall : ("." :: steps.map ofParts.partText).filterMap partOf? = steps :=
    filterMap_partText hsteps
  simp only [parts, hrelative, hpieces, hall, List.head?_cons, if_true, Bool.false_eq_true, if_false]

/-- A path is absolute just if its first part is the root. -/
theorem isAbsolute_iff {path : String} :
    isAbsolute path = true ↔ (parts path).head? = some .root := by
  have hroot : ∀ piece, partOf? piece ≠ some .root := by
    intro piece
    unfold partOf?
    split
    · simp
    · split <;> simp
  unfold parts
  simp only
  split
  · simp [*]
  · rename_i hrelative
    refine iff_of_false hrelative fun hhead => ?_
    split at hhead
    · simp at hhead
    · obtain ⟨piece, -, hpiece⟩ := List.mem_filterMap.1 (List.mem_of_mem_head? hhead)
      exact hroot piece hpiece

/-- The parent of a path has all its parts but the last, and starts from where the path does. -/
theorem parts_of_parent? {path parent : String} (h : parent? path = some parent) :
    parts parent = (parts path).dropLast ∧ isAbsolute parent = isAbsolute path := by
  have hparent : parent = ofParts (parts path).dropLast ∧ parts path ≠ [] ∧
      (parts path).getLast? ≠ some .root := by
    unfold parent? at h
    split at h
    · cases h
    · cases h
    · rename_i last hroot hlast
      refine ⟨(Option.some.inj h).symm, ?_, by simpa [hlast] using hroot⟩
      rintro hnil
      simp [hnil] at hlast
  obtain ⟨rfl, hne, hroot⟩ := hparent
  -- the parts that are left make a path with just these parts
  have hround : parts (ofParts (parts path).dropLast) = (parts path).dropLast := by
    obtain ⟨lead, steps, hparts, hlead, hsteps⟩ := parts_shape path
    rw [hparts] at hne hroot ⊢
    by_cases hnil : steps = []
    · subst hnil
      obtain rfl | rfl | rfl := hlead
      · exact absurd rfl hne
      · exact absurd rfl hroot
      · rfl
    · have hkept : ∀ part ∈ steps.dropLast, part.IsStep :=
        fun part hpart => hsteps part (List.dropLast_subset _ hpart)
      rw [List.dropLast_append_of_ne_nil hnil]
      obtain rfl | rfl | rfl := hlead
      · exact parts_ofParts_steps hkept
      · exact parts_ofParts_root hkept
      · exact parts_ofParts_here hkept
  refine ⟨hround, Bool.eq_iff_iff.2 ?_⟩
  rw [isAbsolute_iff, isAbsolute_iff, hround]
  match hparts : parts path with
  | [] => exact absurd hparts hne
  | [part] => simpa [hparts] using hroot
  | first :: second :: rest => simp

/-- A path on the way to another one: it starts from where that one does and has the first of its
parts. -/
structure OnWay (path target : String) : Prop where
  isAbsolute_eq : isAbsolute path = isAbsolute target
  parts_prefix : parts path <+: parts target

/-- A path is on the way to itself. -/
theorem OnWay.refl (path : String) : OnWay path path :=
  ⟨rfl, List.prefix_refl _⟩

/-- The parent of a path on the way is on the way too. -/
theorem OnWay.parent {path target parent : String} (h : OnWay path target)
    (hparent : parent? path = some parent) : OnWay parent target := by
  obtain ⟨hparts, habsolute⟩ := parts_of_parent? hparent
  refine ⟨habsolute.trans h.isAbsolute_eq, ?_⟩
  rw [hparts]
  exact (List.dropLast_prefix _).trans h.parts_prefix

/-! ## The names in a path -/

/-- The name of a part that is a step down. -/
def Part.name? : Part → Option String
  | .name text => some text
  | _ => none

/-- The name that a piece stands for, if it is a step down. -/
def nameOf? (piece : String) : Option String :=
  (partOf? piece).bind Part.name?

/-- The steps down in a path. -/
def names (path : String) : List String :=
  (parts path).filterMap Part.name?

/-- What is read off the steps of a path is read off its pieces. -/
theorem filterMap_parts {β : Type} {read : Part → Option β} (hroot : read .root = none)
    (hhere : read .here = none) (path : String) :
    (parts path).filterMap read = (pieces path).filterMap fun piece => (partOf? piece).bind read := by
  rw [← List.filterMap_filterMap]
  unfold parts
  simp only
  split
  · exact List.filterMap_cons_none hroot
  · split
    · exact List.filterMap_cons_none hhere
    · rfl

/-- The names of a path are those among its pieces. -/
theorem names_eq (path : String) : names path = (pieces path).filterMap nameOf? :=
  filterMap_parts rfl rfl path

/-- Where a path never goes up, its parent has one name less, or is empty. -/
theorem names_of_parent? {path parent : String} (h : parent? path = some parent)
    (hup : .up ∉ parts path) : parent = "" ∨ ∃ name, names path = names parent ++ [name] := by
  have hparts := (parts_of_parent? h).1
  obtain ⟨lead, steps, hshape, hlead, hsteps⟩ := parts_shape path
  obtain rfl | ⟨front, last, rfl⟩ := steps.eq_nil_or_concat
  · rw [List.append_nil] at hshape
    unfold parent? at h
    rw [hshape] at h
    obtain rfl | rfl | rfl := hlead
    · cases h
    · cases h
    · exact .inl (Option.some.inj h).symm
  · right
    obtain rfl | ⟨name, rfl, -⟩ := hsteps last (by simp)
    · exact absurd (by simp [hshape]) hup
    · refine ⟨name, ?_⟩
      have hlast : ([Part.name name] : List Part).filterMap Part.name? = [name] := rfl
      rw [names, names, hparts, hshape, List.concat_eq_append, ← List.append_assoc,
        List.dropLast_concat, List.filterMap_append, hlast]

/-- A path has a part that leads up just if one of its pieces is two dots. -/
theorem up_mem_parts_iff {path : String} : .up ∈ parts path ↔ ".." ∈ pieces path := by
  have hpiece : ∀ piece, partOf? piece = some .up ↔ piece = ".." := by
    intro piece
    unfold partOf?
    split
    · rename_i hdropped
      rcases hdropped with rfl | rfl <;> decide
    · split <;> simp [*]
  have hrest : .up ∈ (pieces path).filterMap partOf? ↔ ".." ∈ pieces path := by
    simp [hpiece]
  unfold parts
  simp only
  split
  · simpa using hrest
  · split
    · simpa using hrest
    · exact hrest

/-- A directory continued by one piece goes up only where the directory or the piece does. -/
theorem up_not_mem_parts_join {dir piece : String} (hdir : .up ∉ parts dir)
    (hslash : '/' ∉ piece.toList) (hpiece : piece ≠ "..") : .up ∉ parts (join dir piece) := by
  rw [up_mem_parts_iff] at hdir ⊢
  obtain ⟨front, hjoin, hfront⟩ := pieces_join hslash dir
  rw [hjoin, List.mem_append, List.mem_singleton, not_or]
  refine ⟨fun hin => hdir ?_, Ne.symm hpiece⟩
  rcases hfront with hfront | hfront
  · rwa [hfront]
  · rw [hfront]
    exact List.mem_append_left _ hin

end RemovableMedia.Path
