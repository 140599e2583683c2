import RemovableMedia.Text.Utf8

/-!
# Frames

A client's bytes become frames at their newlines, however they were cut on the way.  A frame has
to stay below a limit, also while its newline is still to come, and has to be text.
-/

set_option autoImplicit false

namespace RemovableMedia.Server

/-- The byte that ends a frame. -/
def newline : UInt8 := 10

/-- How a client can break framing. -/
inductive FrameError where
  | overflow (limit : Nat)
  | invalidUtf8
deriving DecidableEq, Repr

/-- How a violation is worded. -/
def FrameError.message : FrameError → String
  | .overflow limit => s!"command exceeds {limit} bytes without a newline"
  | .invalidUtf8 => "command is not valid UTF-8"

/-- What has come of a client's bytes: the frames that they complete, and the violation after
them. -/
structure Fed where
  frames : List String
  error : Option FrameError
deriving DecidableEq, Repr

/-- The bytes of a client that are not yet part of a frame. -/
structure FrameBuffer where
  /-- The number of bytes that a frame stays below. -/
  limit : Nat
  pending : List UInt8
deriving DecidableEq, Repr

namespace FrameBuffer

/-- The number of bytes that a command stays below. -/
def usualLimit : Nat := 4096

/-- The buffer of a client of whom nothing was received. -/
def empty : FrameBuffer := ⟨usualLimit, []⟩

/-- The buffer with more bytes at its end. -/
def push (buffer : FrameBuffer) (bytes : List UInt8) : FrameBuffer :=
  { buffer with pending := buffer.pending ++ bytes }

/-- Takes the first frame, without its newline.  A frame that is too long stays; one that is not
text is dropped. -/
def next (buffer : FrameBuffer) : Except FrameError (Option String) × FrameBuffer :=
  let frame := buffer.pending.takeWhile (· != newline)
  if buffer.limit ≤ frame.length then (.error (.overflow buffer.limit), buffer)
  else
    match buffer.pending.dropWhile (· != newline) with
    | [] => (.ok none, buffer)
    | _ :: rest =>
      match Text.Utf8.decode? frame with
      | some text => (.ok (some text), { buffer with pending := rest })
      | none => (.error .invalidUtf8, { buffer with pending := rest })

/-- What follows the newline of a frame is shorter than what was there. -/
theorem length_lt_of_dropWhile_eq_cons {α : Type} {p : α → Bool} {bytes rest : List α} {x : α}
    (h : bytes.dropWhile p = x :: rest) : rest.length < bytes.length := by
  have := (List.dropWhile_suffix p (l := bytes)).length_le
  rw [h] at this
  simp at this
  omega

/-- Taking a frame leaves less. -/
theorem next_length_lt {buffer rest : FrameBuffer} {text : String}
    (h : buffer.next = (.ok (some text), rest)) :
    rest.pending.length < buffer.pending.length := by
  unfold next at h
  dsimp only at h
  split at h
  · simp at h
  · split at h
    · simp at h
    · rename_i hdrop
      split at h
      · simp only [Prod.mk.injEq] at h
        rw [← h.2]
        exact length_lt_of_dropWhile_eq_cons hdrop
      · simp at h

/-- Takes all frames up to the first violation. -/
def drain (buffer : FrameBuffer) : Fed × FrameBuffer :=
  match h : buffer.next with
  | (.ok (some text), rest) =>
    have := next_length_lt h
    let (fed, rest) := rest.drain
    ({ fed with frames := text :: fed.frames }, rest)
  | (.ok none, rest) => (⟨[], none⟩, rest)
  | (.error e, rest) => (⟨[], some e⟩, rest)
termination_by buffer.pending.length

/-- Takes in bytes and takes out all frames that are now complete. -/
def feed (buffer : FrameBuffer) (bytes : List UInt8) : Fed × FrameBuffer :=
  (buffer.push bytes).drain

end FrameBuffer

end RemovableMedia.Server
