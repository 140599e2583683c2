import RemovableMedia.Proofs.Server.Frame
import RemovableMedia.Proofs.Text.Segment

/-!
# The frames of a stream

A frame is a segment of the stream that a newline ends, if it stays below the limit and is text.
However a stream is cut into pieces, a buffer takes out the frames before the first segment that is
not one, reports what is wrong with that segment, and otherwise keeps the open segment
(`frames_are_segments`).

That the pieces make no difference follows from what is known of a buffer that gets more bytes
(`drain_push`), so the segments of a stream need only be looked at as a whole (`drain_stream`).
-/

set_option autoImplicit false

namespace RemovableMedia.Server.FrameBuffer

open RemovableMedia.Text (closedSegments openSegment)

/-! ## Good and bad segments -/

/-- What is wrong with a segment of a stream.  A segment that is still open can only be too long. -/
def violation? (limit : Nat) (isClosed : Bool) (segment : List UInt8) : Option FrameError :=
  if limit ≤ segment.length then some (.overflow limit)
  else if isClosed && (Text.Utf8.decode? segment).isNone then some .invalidUtf8
  else none

/-- The segments of a stream before the first that is bad. -/
def goodSegments (limit : Nat) (stream : List UInt8) : List (List UInt8) :=
  (closedSegments newline stream).takeWhile fun segment => (violation? limit true segment).isNone

/-- What is wrong with the first bad segment of a stream, if there is one. -/
def firstViolation? (limit : Nat) (stream : List UInt8) : Option FrameError :=
  ((closedSegments newline stream).findSome? (violation? limit true)).or
    (violation? limit false (openSegment newline stream))

/-- Takes in pieces one after another, up to the first violation. -/
def feedUntilViolation (buffer : FrameBuffer) : List (List UInt8) → Fed × FrameBuffer
  | [] => (⟨[], none⟩, buffer)
  | piece :: rest =>
    match buffer.feed piece with
    | (⟨frames, some e⟩, buffer) => (⟨frames, some e⟩, buffer)
    | (⟨frames, none⟩, buffer) =>
      let (fed, buffer) := buffer.feedUntilViolation rest
      ({ fed with frames := frames ++ fed.frames }, buffer)

section

variable {limit : Nat} {segment : List UInt8}

/-- A segment that reaches the limit is too long, with or without its newline. -/
theorem violation?_of_long (isClosed : Bool) (h : limit ≤ segment.length) :
    violation? limit isClosed segment = some (.overflow limit) :=
  if_pos h

/-- A segment below the limit that may still grow is no violation. -/
theorem violation?_of_open (h : segment.length < limit) :
    violation? limit false segment = none := by
  rw [violation?, if_neg (Nat.not_le_of_lt h), Bool.false_and]
  rfl

/-- A complete segment below the limit that decodes is no violation. -/
theorem violation?_of_text {text : String} (h : segment.length < limit)
    (htext : Text.Utf8.decode? segment = some text) : violation? limit true segment = none := by
  rw [violation?, if_neg (Nat.not_le_of_lt h), htext]
  rfl

/-- A complete segment below the limit that does not decode is a violation. -/
theorem violation?_of_no_text (h : segment.length < limit)
    (htext : Text.Utf8.decode? segment = none) :
    violation? limit true segment = some .invalidUtf8 := by
  rw [violation?, if_neg (Nat.not_le_of_lt h), htext]
  rfl

end

/-! ## A whole stream -/

section

variable {limit : Nat} {segment : List UInt8} (rest : List UInt8)

/-- Without a newline there is no complete segment. -/
theorem goodSegments_of_open (h : newline ∉ segment) : goodSegments limit segment = [] := by
  rw [goodSegments, Text.closedSegments_of_not_mem h]
  rfl

/-- Without a newline, a violation is that of the segment which may still grow. -/
theorem firstViolation?_of_open (h : newline ∉ segment) :
    firstViolation? limit segment = violation? limit false segment := by
  rw [firstViolation?, Text.closedSegments_of_not_mem h, Text.openSegment_of_not_mem h]
  rfl

/-- A good segment is followed by the good segments after it. -/
theorem goodSegments_of_good (h : newline ∉ segment) (hgood : violation? limit true segment = none) :
    goodSegments limit (segment ++ newline :: rest) = segment :: goodSegments limit rest := by
  rw [goodSegments, Text.closedSegments_append_cons h, List.takeWhile_cons_of_pos (by simp [hgood])]
  rfl

/-- The first violation stands after the good segments. -/
theorem firstViolation?_of_good (h : newline ∉ segment)
    (hgood : violation? limit true segment = none) :
    firstViolation? limit (segment ++ newline :: rest) = firstViolation? limit rest := by
  rw [firstViolation?, Text.closedSegments_append_cons h, Text.openSegment_append_cons h,
    List.findSome?_cons, hgood]
  rfl

/-- Nothing after a bad segment is good. -/
theorem goodSegments_of_bad (h : newline ∉ segment) {e : FrameError}
    (hbad : violation? limit true segment = some e) :
    goodSegments limit (segment ++ newline :: rest) = [] := by
  rw [goodSegments, Text.closedSegments_append_cons h, List.takeWhile_cons_of_neg (by simp [hbad])]

/-- A bad segment is the first violation. -/
theorem firstViolation?_of_bad (h : newline ∉ segment) {e : FrameError}
    (hbad : violation? limit true segment = some e) :
    firstViolation? limit (segment ++ newline :: rest) = some e := by
  rw [firstViolation?, Text.closedSegments_append_cons h, List.findSome?_cons, hbad]
  rfl

end

/-- What a buffer has taken out of a stream: the frames before the first bad segment, what is wrong
with that one, and if there is none, everything but the open segment. -/
structure Extracted (limit : Nat) (stream : List UInt8) (done : Fed × FrameBuffer) : Prop where
  frames : done.1.frames.map Text.Utf8.encode = goodSegments limit stream
  error : done.1.error = firstViolation? limit stream
  pending : done.1.error = none → done.2 = ⟨limit, openSegment newline stream⟩

namespace Extracted

variable {limit : Nat} {segment : List UInt8}

/-- A bad segment first of all gives no frame but its error. -/
theorem of_bad (h : newline ∉ segment) {e : FrameError}
    (hbad : violation? limit true segment = some e) (rest : List UInt8) (buffer : FrameBuffer) :
    Extracted limit (segment ++ newline :: rest) (⟨[], some e⟩, buffer) where
  frames := (goodSegments_of_bad rest h hbad).symm
  error := (firstViolation?_of_bad rest h hbad).symm
  pending := nofun

/-- A good segment first of all gives its text, and then what the rest gives. -/
theorem of_good {rest : List UInt8} {done : Fed × FrameBuffer} (hrest : Extracted limit rest done)
    (h : newline ∉ segment) {text : String} (hlength : segment.length < limit)
    (htext : Text.Utf8.decode? segment = some text) :
    Extracted limit (segment ++ newline :: rest)
      ({ done.1 with frames := text :: done.1.frames }, done.2) := by
  have hgood := violation?_of_text hlength htext
  constructor
  · rw [goodSegments_of_good rest h hgood, ← hrest.frames, ← Text.Utf8.encode_of_decode? htext]
    rfl
  · rw [firstViolation?_of_good rest h hgood]
    exact hrest.error
  · intro herror
    rw [Text.openSegment_append_cons h]
    exact hrest.pending herror

end Extracted

/-- Out of a whole stream a buffer takes just the good segments. -/
theorem drain_stream (limit : Nat) (stream : List UInt8) :
    Extracted limit stream (drain ⟨limit, stream⟩) := by
  induction stream using Text.segment_induction newline with
  | hopen segment h =>
    have hframes : goodSegments limit segment = [] := goodSegments_of_open h
    have herror : firstViolation? limit segment = _ := firstViolation?_of_open h
    have hnext : next ⟨limit, segment⟩ = _ := next_of_open h
    by_cases hlength : limit ≤ segment.length
    · rw [if_pos hlength] at hnext
      rw [drain_of_error hnext]
      rw [violation?_of_long false hlength] at herror
      exact ⟨hframes.symm, herror.symm, nofun⟩
    · rw [if_neg hlength] at hnext
      rw [drain_of_settled hnext]
      rw [violation?_of_open (Nat.lt_of_not_le hlength)] at herror
      refine ⟨hframes.symm, herror.symm, fun _ => ?_⟩
      rw [Text.openSegment_of_not_mem h]
  -- the buffer looks at the length of a segment before it decodes it
  | hclosed segment rest h ih =>
    have hnext : next ⟨limit, segment ++ newline :: rest⟩ = _ := next_of_frame h rest
    by_cases hlength : limit ≤ segment.length
    · rw [if_pos hlength] at hnext
      rw [drain_of_error hnext]
      exact .of_bad h (violation?_of_long true hlength) rest _
    · rw [if_neg hlength] at hnext
      have hshort := Nat.lt_of_not_le hlength
      cases htext : Text.Utf8.decode? segment with
      | some text =>
        rw [htext] at hnext
        rw [drain_of_frame hnext]
        exact ih.of_good h hshort htext
      | none =>
        rw [htext] at hnext
        rw [drain_of_error hnext]
        exact .of_bad h (violation?_of_no_text hshort htext) rest _

/-! ## A stream in pieces -/

/-- Up to the first violation, taking in pieces is taking in all of them at once. -/
theorem feedUntilViolation_eq {buffer : FrameBuffer} (hsettled : buffer.Settled)
    (pieces : List (List UInt8)) :
    (buffer.feedUntilViolation pieces).1 = (buffer.feed pieces.flatten).1 ∧
      ((buffer.feed pieces.flatten).1.error = none →
        (buffer.feedUntilViolation pieces).2 = (buffer.feed pieces.flatten).2) := by
  induction pieces generalizing buffer with
  | nil =>
    have hnothing : buffer.feed [].flatten = (⟨[], none⟩, buffer) := by
      rw [feed, List.flatten_nil, push_nil, drain_of_settled hsettled]
    rw [hnothing]
    exact ⟨rfl, fun _ => rfl⟩
  | cons piece rest ih =>
    have hwhole : buffer.feed (piece :: rest).flatten =
        ((buffer.push piece).push rest.flatten).drain := by
      rw [push_push, feed, List.flatten_cons]
    rw [hwhole, drain_push, feedUntilViolation, feed]
    rcases hdrain : (buffer.push piece).drain with ⟨⟨frames, error⟩, after⟩
    cases error with
    | some e => simp
    | none =>
      have hafter : after.Settled := by
        have hdrained : (buffer.push piece).drain.2.Settled := settled_drain (by rw [hdrain])
        rwa [hdrain] at hdrained
      obtain ⟨hfed, hbuffer⟩ := ih hafter
      refine ⟨?_, hbuffer⟩
      dsimp only
      rw [hfed]
      rfl

/-- With a positive limit, an empty buffer has nothing to take out. -/
theorem settled_nil {limit : Nat} (h : 0 < limit) : Settled ⟨limit, []⟩ := by
  have hlength : ¬ limit ≤ [].length (α := UInt8) := Nat.not_le_of_lt h
  rw [Settled, next_of_open List.not_mem_nil, if_neg hlength]

/-- Whatever the pieces, what is taken out is what the joined bytes have in them. -/
theorem extracted_feedUntilViolation {limit : Nat} (hlimit : 0 < limit)
    (pieces : List (List UInt8)) :
    Extracted limit pieces.flatten (feedUntilViolation ⟨limit, []⟩ pieces) := by
  obtain ⟨hfed, hbuffer⟩ := feedUntilViolation_eq (settled_nil hlimit) pieces
  have hwhole : Extracted limit pieces.flatten (feed ⟨limit, []⟩ pieces.flatten) :=
    drain_stream limit pieces.flatten
  constructor
  · rw [hfed]
    exact hwhole.frames
  · rw [hfed]
    exact hwhole.error
  · intro herror
    rw [hfed] at herror
    rw [hbuffer herror]
    exact hwhole.pending herror

/-- An open segment that is not too long leaves room for the next byte. -/
theorem length_openSegment_lt {limit : Nat} {stream : List UInt8}
    (h : firstViolation? limit stream = none) :
    (openSegment newline stream).length < limit := by
  rw [firstViolation?, Option.or_eq_none_iff] at h
  refine Nat.lt_of_not_le fun hlong => ?_
  rw [violation?_of_long false hlong] at h
  exact nomatch h.2

/-- However a stream is cut, up to the first violation a buffer takes out the segments that a
newline ends, in order, before the first bad one.  The violation is what is wrong with that one,
and there is none if no segment is bad.  Whenever pieces were taken in without a violation, just
the open segment is kept. -/
theorem frames_are_segments (limit : Nat) (hlimit : 0 < limit) (pieces : List (List UInt8)) :
    let buffer : FrameBuffer := ⟨limit, []⟩
    let fed := (buffer.feedUntilViolation pieces).1
    fed.frames.map Text.Utf8.encode = goodSegments limit pieces.flatten ∧
      fed.error = firstViolation? limit pieces.flatten ∧
      ∀ earlier later, pieces = earlier ++ later →
        (buffer.feedUntilViolation earlier).1.error = none →
          let kept := (buffer.feedUntilViolation earlier).2.pending
          kept = openSegment newline earlier.flatten ∧ newline ∉ kept ∧ kept.length < limit := by
  intro buffer fed
  have hextracted := extracted_feedUntilViolation hlimit pieces
  refine ⟨hextracted.frames, hextracted.error, fun earlier later _ herror => ?_⟩
  have hearlier := extracted_feedUntilViolation hlimit earlier
  have hkept : (buffer.feedUntilViolation earlier).2.pending =
      openSegment newline earlier.flatten :=
    congrArg FrameBuffer.pending (hearlier.pending herror)
  intro kept
  rw [show kept = _ from hkept]
  refine ⟨rfl, Text.not_mem_openSegment earlier.flatten, length_openSegment_lt ?_⟩
  rw [← hearlier.error]
  exact herror

/-- A command in two pieces, and after it one that is too long before its newline comes. -/
theorem frames_are_segments_of_slow_overflow :
    let buffer : FrameBuffer := ⟨8, []⟩
    let begun : List (List UInt8) := [[111], [107, 40, 41, 10, 48, 49]]
    let pieces := begun ++ [[50, 51, 52, 53, 54, 55], [10]]
    let fed := (buffer.feedUntilViolation pieces).1
    0 < 8 ∧ fed.frames.map Text.Utf8.encode = [[111, 107, 40, 41]] ∧
      fed.error = some (.overflow 8) ∧
      (buffer.feedUntilViolation begun).1.error = none ∧
      (buffer.feedUntilViolation begun).2.pending = [48, 49] := by
  intro buffer begun pieces fed
  obtain ⟨hframes, herror, hkept⟩ := frames_are_segments 8 (by decide) pieces
  have hsound : (buffer.feedUntilViolation begun).1.error = none := by
    rw [(frames_are_segments 8 (by decide) begun).2.1]
    decide +kernel
  refine ⟨by decide, ?_, ?_, hsound, ?_⟩
  · rw [hframes]
    decide +kernel
  · rw [herror]
    decide +kernel
  · rw [(hkept begun _ rfl hsound).1]
    decide +kernel

end RemovableMedia.Server.FrameBuffer
