import RemovableMedia.Proofs.Text.Segment
import RemovableMedia.Proofs.Text.Utf8
import RemovableMedia.Server.Frame

/-!
# Frames of a stream in pieces

What a frame buffer takes out does not depend on what comes later: a frame or a violation that is
there stays the same when more bytes are added (`next_push`).  So taking in two pieces one after
the other gives the same as taking in both at once (`drain_push`), and as long as there is no
violation the cuts between pieces make no difference (`feedAll_of_feed`).
-/

set_option autoImplicit false

namespace RemovableMedia.Server.FrameBuffer

/-- Takes in pieces one after another. -/
def feedAll (buffer : FrameBuffer) : List (List UInt8) → List Fed × FrameBuffer
  | [] => ([], buffer)
  | piece :: rest =>
    let (fed, buffer) := buffer.feed piece
    let (later, buffer) := buffer.feedAll rest
    (fed :: later, buffer)

/-- Later pieces are taken in where the earlier ones have stopped. -/
theorem feedAll_append (buffer : FrameBuffer) (first later : List (List UInt8)) :
    buffer.feedAll (first ++ later) =
      ((buffer.feedAll first).1 ++ ((buffer.feedAll first).2.feedAll later).1,
        ((buffer.feedAll first).2.feedAll later).2) := by
  induction first generalizing buffer with
  | nil => rfl
  | cons piece rest ih =>
    simp only [List.cons_append, feedAll, ih]

/-- Whether nothing can be taken out before more bytes come. -/
def Settled (buffer : FrameBuffer) : Prop :=
  buffer.next = (.ok none, buffer)

/-- A new buffer has nothing to take out. -/
theorem settled_empty : empty.Settled := rfl

/-- Nothing that comes changes nothing. -/
@[simp]
theorem push_nil (buffer : FrameBuffer) : buffer.push [] = buffer := by
  simp [push]

/-- Bytes that come one after another come together. -/
theorem push_push (buffer : FrameBuffer) (first later : List UInt8) :
    (buffer.push first).push later = buffer.push (first ++ later) := by
  simp [push]

/-! ## The first frame -/

/-- The bytes of a buffer either have no newline or are cut at the first. -/
theorem cut_cases (bytes : List UInt8) :
    newline ∉ bytes ∨ ∃ frame rest, bytes = frame ++ newline :: rest ∧ newline ∉ frame := by
  by_cases h : newline ∈ bytes
  · exact .inr (List.eq_append_cons_of_mem h)
  · exact .inl h

/-- The first line is taken out if it is below the limit and decodes, and is an error else. -/
theorem next_of_frame {limit : Nat} {frame : List UInt8} (hframe : newline ∉ frame)
    (rest : List UInt8) :
    next ⟨limit, frame ++ newline :: rest⟩ =
      if limit ≤ frame.length then (.error (.overflow limit), ⟨limit, frame ++ newline :: rest⟩)
      else
        match Text.Utf8.decode? frame with
        | some text => (.ok (some text), ⟨limit, rest⟩)
        | none => (.error .invalidUtf8, ⟨limit, rest⟩) := by
  have htake := Text.takeWhile_append_cons hframe rest
  have hdrop := Text.dropWhile_append_cons hframe rest
  by_cases hlimit : limit ≤ frame.length
  · simp [next, htake, hlimit]
  · cases hdecode : Text.Utf8.decode? frame <;> simp [next, htake, hdrop, hlimit, hdecode]

/-- Bytes without a newline wait for more of them, unless they reach the limit. -/
theorem next_of_open {limit : Nat} {bytes : List UInt8} (hbytes : newline ∉ bytes) :
    next ⟨limit, bytes⟩ =
      if limit ≤ bytes.length then (.error (.overflow limit), ⟨limit, bytes⟩)
      else (.ok none, ⟨limit, bytes⟩) := by
  simp only [next, Text.takeWhile_of_not_mem hbytes, Text.dropWhile_of_not_mem hbytes]

/-- Bytes that reach the limit before any newline overflow whatever follows. -/
theorem next_of_overlong {limit : Nat} {bytes : List UInt8} (hbytes : newline ∉ bytes)
    (hlimit : limit ≤ bytes.length) (rest : List UInt8) :
    next ⟨limit, bytes ++ rest⟩ = (.error (.overflow limit), ⟨limit, bytes ++ rest⟩) := by
  have htake : limit ≤ ((bytes ++ rest).takeWhile (· != newline)).length := by
    rw [List.takeWhile_append_of_pos (Text.forall_bne_of_not_mem hbytes), List.length_append]
    omega
  simp only [next, htake, if_true]

/-- Without a frame and a violation the buffer stays as it is. -/
theorem settled_of_next {buffer : FrameBuffer} (h : buffer.next.1 = .ok none) :
    buffer.Settled := by
  obtain ⟨limit, bytes⟩ := buffer
  obtain hopen | ⟨frame, rest, rfl, hframe⟩ := cut_cases bytes
  · rw [next_of_open hopen] at h
    rw [Settled, next_of_open hopen]
    split at h
    · cases h
    · rw [if_neg ‹_›]
  · rw [next_of_frame hframe] at h
    split at h
    · cases h
    · split at h <;> cases h

/-- More bytes do not change a frame or a violation that is there. -/
theorem next_push {buffer : FrameBuffer} (h : buffer.next.1 ≠ .ok none) (bytes : List UInt8) :
    (buffer.push bytes).next = (buffer.next.1, buffer.next.2.push bytes) := by
  obtain ⟨limit, pending⟩ := buffer
  obtain hopen | ⟨frame, rest, rfl, hframe⟩ := cut_cases pending
  · by_cases hlimit : limit ≤ pending.length
    · rw [next_of_open hopen, if_pos hlimit]
      exact next_of_overlong hopen hlimit bytes
    · rw [next_of_open hopen, if_neg hlimit] at h
      exact absurd rfl h
  · have hpush : push ⟨limit, frame ++ newline :: rest⟩ bytes =
        ⟨limit, frame ++ newline :: (rest ++ bytes)⟩ := by
      simp [push]
    rw [hpush, next_of_frame hframe, next_of_frame hframe]
    split
    · rw [hpush]
    · split <;> rfl

/-! ## All frames -/

/-- A frame that is taken out is the first of those that are drained. -/
theorem drain_of_frame {buffer rest : FrameBuffer} {text : String}
    (h : buffer.next = (.ok (some text), rest)) :
    buffer.drain = ({ rest.drain.1 with frames := text :: rest.drain.1.frames }, rest.drain.2) := by
  rw [drain]
  split <;> rename_i hnext <;> rw [h] at hnext <;> cases hnext
  rfl

/-- A settled buffer gives nothing. -/
theorem drain_of_settled {buffer : FrameBuffer} (h : buffer.Settled) :
    buffer.drain = (⟨[], none⟩, buffer) := by
  rw [drain]
  split <;> rename_i hnext <;> rw [h] at hnext <;> cases hnext
  rfl

/-- Draining stops at the first error. -/
theorem drain_of_error {buffer rest : FrameBuffer} {e : FrameError}
    (h : buffer.next = (.error e, rest)) : buffer.drain = (⟨[], some e⟩, rest) := by
  rw [drain]
  split <;> rename_i hnext <;> rw [h] at hnext <;> cases hnext
  rfl

/-- The buffer is settled once all frames are taken out without a violation. -/
theorem settled_drain {buffer : FrameBuffer} (h : buffer.drain.1.error = none) :
    buffer.drain.2.Settled := by
  fun_induction drain buffer with
  | case1 buffer text rest hnext _ fed after hdrain ih =>
    rw [hdrain] at ih
    exact ih h
  | case2 buffer rest hnext =>
    have hsettled := settled_of_next (congrArg Prod.fst hnext)
    obtain rfl : buffer = rest := congrArg Prod.snd (hsettled.symm.trans hnext)
    exact hsettled
  | case3 => cases h

/-- What a buffer does with more bytes: nothing after a violation, and otherwise what it does with
them after it has taken out all frames. -/
theorem drain_push (buffer : FrameBuffer) (bytes : List UInt8) :
    (buffer.push bytes).drain =
      match buffer.drain with
      | (⟨frames, some e⟩, rest) => (⟨frames, some e⟩, rest.push bytes)
      | (⟨frames, none⟩, rest) =>
        ({ (rest.push bytes).drain.1 with frames := frames ++ (rest.push bytes).drain.1.frames },
          (rest.push bytes).drain.2) := by
  fun_induction drain buffer with
  | case1 buffer text rest hnext _ fed after hdrain ih =>
    have hpush : (buffer.push bytes).next = (.ok (some text), rest.push bytes) := by
      rw [next_push (by simp [hnext]), hnext]
    obtain ⟨frames, error⟩ := fed
    rw [drain_of_frame hpush, ih, hdrain]
    cases error <;> rfl
  | case2 buffer rest hnext =>
    have hsettled := settled_of_next (congrArg Prod.fst hnext)
    obtain rfl : buffer = rest := congrArg Prod.snd (hsettled.symm.trans hnext)
    rfl
  | case3 buffer e rest hnext =>
    have hpush : (buffer.push bytes).next = (.error e, rest.push bytes) := by
      rw [next_push (by simp [hnext]), hnext]
    exact drain_of_error hpush

/-! ## Pieces -/

/-- As long as there is no violation, it makes no difference how a stream is cut. -/
theorem feedAll_of_feed {buffer : FrameBuffer} (hsettled : buffer.Settled)
    (pieces : List (List UInt8)) (h : (buffer.feed pieces.flatten).1.error = none) :
    (∀ fed ∈ (buffer.feedAll pieces).1, fed.error = none) ∧
      (buffer.feedAll pieces).1.flatMap Fed.frames = (buffer.feed pieces.flatten).1.frames ∧
      (buffer.feedAll pieces).2 = (buffer.feed pieces.flatten).2 := by
  induction pieces generalizing buffer with
  | nil => simp [feedAll, feed, drain_of_settled hsettled]
  | cons piece rest ih =>
    have hfeed : buffer.feed (piece :: rest).flatten =
        ((buffer.push piece).push rest.flatten).drain := by
      rw [push_push, feed, List.flatten_cons]
    rw [hfeed, drain_push] at h ⊢
    rcases hdrain : (buffer.push piece).drain with ⟨⟨frames, error⟩, after⟩
    cases error with
    | some e => rw [hdrain] at h; cases h
    | none =>
      rw [hdrain] at h
      have hafter : after.Settled := by
        have hdrained : (buffer.push piece).drain.2.Settled := settled_drain (by rw [hdrain])
        rwa [hdrain] at hdrained
      obtain ⟨herrors, hframes, hbuffer⟩ := ih hafter h
      have hpiece : buffer.feedAll (piece :: rest) =
          (⟨frames, none⟩ :: (after.feedAll rest).1, (after.feedAll rest).2) := by
        simp only [feedAll, feed, hdrain]
      rw [hpiece]
      refine ⟨List.forall_mem_cons.2 ⟨rfl, herrors⟩, ?_, hbuffer⟩
      rw [List.flatMap_cons, hframes]
      rfl

/-! ## Lines -/

/-- A line that is short enough is taken out before what follows it. -/
theorem drain_line {limit : Nat} {text : String} (htext : '\n' ∉ text.toList)
    (hlimit : (Text.Utf8.encode text).length < limit) (rest : List UInt8) :
    drain ⟨limit, Text.Utf8.encode (text ++ "\n") ++ rest⟩ =
      ({ (drain ⟨limit, rest⟩).1 with frames := text :: (drain ⟨limit, rest⟩).1.frames },
        (drain ⟨limit, rest⟩).2) := by
  have hbytes : Text.Utf8.encode (text ++ "\n") ++ rest =
      Text.Utf8.encode text ++ newline :: rest := by
    simp [Text.Utf8.encode_newline, newline]
  have hframe : newline ∉ Text.Utf8.encode text :=
    fun hmem => htext (Text.Utf8.newline_mem_encode_iff.1 hmem)
  refine drain_of_frame ?_
  rw [hbytes, next_of_frame hframe, if_neg (by omega), Text.Utf8.decode?_encode]

/-- Texts without newlines and below the limit are drained as they were encoded. -/
theorem drain_lines {limit : Nat} (hpositive : 0 < limit) (texts : List String)
    (h : ∀ text ∈ texts, '\n' ∉ text.toList ∧ (Text.Utf8.encode text).length < limit) :
    drain ⟨limit, texts.flatMap fun text => Text.Utf8.encode (text ++ "\n")⟩ =
      (⟨texts, none⟩, ⟨limit, []⟩) := by
  induction texts with
  | nil =>
    refine drain_of_settled ?_
    rw [Settled, List.flatMap_nil, next_of_open (by simp), if_neg (by simp; omega)]
  | cons text rest ih =>
    obtain ⟨htext, hlimit⟩ := h text List.mem_cons_self
    have hrest := ih fun other hmem => h other (List.mem_cons_of_mem _ hmem)
    rw [List.flatMap_cons, drain_line htext hlimit, hrest]

end RemovableMedia.Server.FrameBuffer
