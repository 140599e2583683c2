/-!
# Segments of a stream

Where an element ends segments, a stream falls into the segments that it ends and the open one
after the last of them.  Every stream is an open segment alone or begins with a segment that is
ended, and facts about streams are proved along this (`segment_induction`).  Whoever takes a stream
up to the first such element takes its first segment (`takeWhile_append_cons`).
-/

set_option autoImplicit false

namespace RemovableMedia.Text

section

variable {α : Type} [BEq α] [LawfulBEq α] {c : α} {segment : List α}

/-- All elements of a list without the end mark differ from it. -/
theorem forall_bne_of_not_mem (h : c ∉ segment) : ∀ x ∈ segment, (x != c) = true := by
  intro x hx
  rw [bne_iff_ne]
  rintro rfl
  exact h hx

/-! ## Up to the first -/

/-- What stands before the end mark is taken up to it. -/
theorem takeWhile_append_cons (h : c ∉ segment) (rest : List α) :
    (segment ++ c :: rest).takeWhile (· != c) = segment := by
  rw [List.takeWhile_append_of_pos (forall_bne_of_not_mem h), List.takeWhile_cons_of_neg (by simp),
    List.append_nil]

/-- What stands before the end mark is dropped up to it. -/
theorem dropWhile_append_cons (h : c ∉ segment) (rest : List α) :
    (segment ++ c :: rest).dropWhile (· != c) = c :: rest := by
  rw [List.dropWhile_append_of_pos (forall_bne_of_not_mem h), List.dropWhile_cons_of_neg (by simp)]

/-- Without an end mark everything is taken. -/
theorem takeWhile_of_not_mem (h : c ∉ segment) : segment.takeWhile (· != c) = segment := by
  have happend : (segment ++ []).takeWhile (· != c) = segment ++ [] :=
    List.takeWhile_append_of_pos (forall_bne_of_not_mem h)
  rwa [List.append_nil] at happend

/-- Without an end mark everything is dropped. -/
theorem dropWhile_of_not_mem (h : c ∉ segment) : segment.dropWhile (· != c) = [] := by
  have happend : (segment ++ []).dropWhile (· != c) = [] :=
    List.dropWhile_append_of_pos (forall_bne_of_not_mem h)
  rwa [List.append_nil] at happend

end

variable {α : Type} [DecidableEq α] {c : α}

/-- The segments of a stream that an element ends, without that element. -/
def closedSegments (c : α) (stream : List α) : List (List α) :=
  (stream.splitOn c).dropLast

/-- The segment of a stream that is not ended. -/
def openSegment (c : α) (stream : List α) : List α :=
  (stream.splitOn c).getLastD []

/-- A stream is a segment that is not ended, or one that is and the stream after it. -/
theorem segment_induction {motive : List α → Prop} (c : α)
    (hopen : ∀ segment, c ∉ segment → motive segment)
    (hclosed : ∀ segment rest, c ∉ segment → motive rest → motive (segment ++ c :: rest))
    (stream : List α) : motive stream := by
  by_cases hmem : c ∈ stream
  · obtain ⟨segment, rest, hstream, hsegment⟩ := List.eq_append_cons_of_mem hmem
    have hshorter : rest.length < stream.length := by
      rw [hstream, List.length_append, List.length_cons]
      omega
    rw [hstream]
    exact hclosed segment rest hsegment (segment_induction c hopen hclosed rest)
  · exact hopen stream hmem
termination_by stream.length

/-! ## The first segment -/

/-- Without an end mark no segment is closed. -/
theorem closedSegments_of_not_mem {segment : List α} (h : c ∉ segment) :
    closedSegments c segment = [] := by
  rw [closedSegments, List.splitOn_eq_singleton h]
  rfl

/-- Without an end mark everything is the open segment. -/
theorem openSegment_of_not_mem {segment : List α} (h : c ∉ segment) :
    openSegment c segment = segment := by
  rw [openSegment, List.splitOn_eq_singleton h]
  rfl

/-- The first segment that is closed comes before those of the rest. -/
theorem closedSegments_append_cons {segment : List α} (h : c ∉ segment) (rest : List α) :
    closedSegments c (segment ++ c :: rest) = segment :: closedSegments c rest := by
  rw [closedSegments, List.splitOn_append_cons_self_of_not_mem h,
    List.dropLast_cons_of_ne_nil (List.splitOn_ne_nil c rest)]
  rfl

/-- What is open after a closed segment is what is open in the rest. -/
theorem openSegment_append_cons {segment : List α} (h : c ∉ segment) (rest : List α) :
    openSegment c (segment ++ c :: rest) = openSegment c rest := by
  rw [openSegment, List.splitOn_append_cons_self_of_not_mem h, openSegment]
  obtain ⟨first, more, hrest⟩ := List.exists_cons_of_ne_nil (List.splitOn_ne_nil c rest)
  rw [hrest]
  rfl

/-! ## All segments -/

/-- There is no end mark in the open segment. -/
theorem not_mem_openSegment (stream : List α) : c ∉ openSegment c stream := by
  induction stream using segment_induction c with
  | hopen segment h => rwa [openSegment_of_not_mem h]
  | hclosed segment rest h ih => rwa [openSegment_append_cons h]

/-- A stream goes on after its segments if none of them is left open. -/
theorem closedSegments_append {first : List α} (h : openSegment c first = []) (later : List α) :
    closedSegments c (first ++ later) = closedSegments c first ++ closedSegments c later := by
  induction first using segment_induction c with
  | hopen segment hmem =>
    rw [openSegment_of_not_mem hmem] at h
    rw [h, closedSegments_of_not_mem List.not_mem_nil]
    rfl
  | hclosed segment rest hmem ih =>
    rw [openSegment_append_cons hmem] at h
    rw [List.append_assoc, List.cons_append, closedSegments_append_cons hmem,
      closedSegments_append_cons hmem, ih h]
    rfl

/-- Where nothing is open, later items open what they open alone. -/
theorem openSegment_append {first : List α} (h : openSegment c first = []) (later : List α) :
    openSegment c (first ++ later) = openSegment c later := by
  induction first using segment_induction c with
  | hopen segment hmem =>
    rw [openSegment_of_not_mem hmem] at h
    rw [h]
    rfl
  | hclosed segment rest hmem ih =>
    rw [openSegment_append_cons hmem] at h
    rw [List.append_assoc, List.cons_append, openSegment_append_cons hmem, ih h]

end RemovableMedia.Text
