import RemovableMedia.Json.Parser
import RemovableMedia.Json.Printer

/-!
# Strings in JSON

A text that is written as a JSON string is read back as it was, whatever characters it has
(`parseString_renderText`).  A character is written as itself, by a short escape, or by a code unit
below 32; no such code unit is half of a surrogate pair, so the pieces that are read can be joined
one by one.
-/

set_option autoImplicit false

namespace RemovableMedia.Json

/-! ## Escapes -/

/-- A code unit below 32 is written with two zeros and two more digits. -/
theorem escapeDigits_eq : ∀ n < 32,
    (if n < 16 then ['\\', 'u', '0', '0', '0'] ++ Text.hexDigits n
      else ['\\', 'u', '0', '0'] ++ Text.hexDigits n) =
        ['\\', 'u', '0', '0', Nat.digitChar (n / 16), Nat.digitChar (n % 16)] := by
  decide +kernel

/-- Two hexadecimal digits after two zeros are the code of a control character. -/
theorem codeUnit?_digitChar : ∀ n < 32,
    codeUnit? '0' '0' (Nat.digitChar (n / 16)) (Nat.digitChar (n % 16)) = some n := by
  decide +kernel

/-- A control character that has no short escape is written as its code unit. -/
theorem escapeChar_of_lt_32 {c : Char} (h : c.toNat < 32)
    (hshort : c ∉ ['\x08', '\t', '\n', '\x0c', '\r']) :
    escapeChar c =
      ['\\', 'u', '0', '0', Nat.digitChar (c.toNat / 16), Nat.digitChar (c.toNat % 16)] := by
  have hquote : c ≠ '"' ∧ c ≠ '\\' := by
    constructor <;> rintro rfl <;> exact absurd h (by decide)
  simp only [List.mem_cons, List.not_mem_nil, or_false, not_or] at hshort
  rw [← escapeDigits_eq c.toNat h]
  simp only [escapeChar, hquote, hshort, h, if_true, if_false]

/-- A character stands for itself in a string unless it is a quote, a backslash or a control
character. -/
theorem isPlainChar_iff {c : Char} :
    isPlainChar c = true ↔ c ≠ '"' ∧ c ≠ '\\' ∧ 32 ≤ c.toNat := by
  simp [isPlainChar, and_assoc]

/-- A character that stands for itself is not escaped. -/
theorem escapeChar_of_isPlainChar {c : Char} (h : isPlainChar c = true) : escapeChar c = [c] := by
  obtain ⟨hquote, hslash, hvisible⟩ := isPlainChar_iff.1 h
  have hshort : c ≠ '\x08' ∧ c ≠ '\t' ∧ c ≠ '\n' ∧ c ≠ '\x0c' ∧ c ≠ '\r' := by
    refine ⟨?_, ?_, ?_, ?_, ?_⟩ <;> rintro rfl <;> exact absurd hvisible (by decide)
  have hlong : ¬ c.toNat < 16 ∧ ¬ c.toNat < 32 := by omega
  simp only [escapeChar, hquote, hslash, hshort, hlong, if_false]

/-! ## Pieces -/

/-- A short escape is read as its character. -/
theorem parsePieces_of_shortEscape? {e c : Char} (h : shortEscape? e = some c)
    (input : List Char) :
    parsePieces ('\\' :: e :: input) =
      (parsePieces input).map fun read => (.character c :: read.1, read.2) := by
  rw [parsePieces, h]
  · cases parsePieces input <;> rfl
  · rintro - - - - - rfl
    cases h

/-- An escape with four digits is read as its code. -/
theorem parsePieces_of_codeUnit? {a b c d : Char} {n : Nat} (h : codeUnit? a b c d = some n)
    (input : List Char) :
    parsePieces ('\\' :: 'u' :: a :: b :: c :: d :: input) =
      (parsePieces input).map fun read => (.unit n :: read.1, read.2) := by
  rw [parsePieces, h]
  cases parsePieces input <;> rfl

/-- A character that stands for itself is read as itself. -/
theorem parsePieces_of_isPlainChar {c : Char} (h : isPlainChar c = true) (input : List Char) :
    parsePieces (c :: input) =
      (parsePieces input).map fun read => (.character c :: read.1, read.2) := by
  have hne : c ≠ '"' ∧ c ≠ '\\' := by
    constructor <;> rintro rfl <;> cases h
  rw [parsePieces, if_pos h]
  · cases parsePieces input <;> rfl
  all_goals simp [hne]

/-- A code unit that is no half of a pair stands for a character by itself. -/
theorem joinPieces_unit {n : Nat} (h : n < 32) (pieces : List Piece) :
    joinPieces (.unit n :: pieces) = (joinPieces pieces).map (Char.ofNat n :: ·) := by
  have hhigh : isHighSurrogate n = false := by
    simp only [isHighSurrogate, Bool.and_eq_false_iff, decide_eq_false_iff_not]
    omega
  have hlow : isLowSurrogate n = false := by
    simp only [isLowSurrogate, Bool.and_eq_false_iff, decide_eq_false_iff_not]
    omega
  cases pieces with
  | nil => simp [joinPieces, hhigh, hlow]
  | cons piece rest => cases piece <;> simp [joinPieces, hhigh, hlow]

/-- Every character is read as one piece, which stands for the character. -/
theorem exists_piece_of_escapeChar (c : Char) :
    ∃ piece,
      (∀ input, parsePieces (escapeChar c ++ input) =
        (parsePieces input).map fun read => (piece :: read.1, read.2)) ∧
      ∀ pieces, joinPieces (piece :: pieces) = (joinPieces pieces).map (c :: ·) := by
  -- what is neither written as itself nor by a short escape is a control character
  by_cases hplain : isPlainChar c = true
  · refine ⟨.character c, fun input => ?_, fun _ => rfl⟩
    rw [escapeChar_of_isPlainChar hplain]
    exact parsePieces_of_isPlainChar hplain input
  by_cases hshort : c ∈ ['"', '\\', '\x08', '\t', '\n', '\x0c', '\r']
  · refine ⟨.character c, fun input => ?_, fun _ => rfl⟩
    simp only [List.mem_cons, List.not_mem_nil, or_false] at hshort
    rcases hshort with rfl | rfl | rfl | rfl | rfl | rfl | rfl <;>
      exact parsePieces_of_shortEscape? rfl input
  · have hcontrol : c.toNat < 32 := by
      simp only [isPlainChar_iff, not_and, Nat.not_le] at hplain
      exact hplain (fun h => hshort (by simp [h])) fun h => hshort (by simp [h])
    have hother : c ∉ ['\x08', '\t', '\n', '\x0c', '\r'] :=
      fun hmem => hshort (List.mem_cons_of_mem _ (List.mem_cons_of_mem _ hmem))
    refine ⟨.unit c.toNat, fun input => ?_, fun pieces => ?_⟩
    · rw [escapeChar_of_lt_32 hcontrol hother]
      exact parsePieces_of_codeUnit? (codeUnit?_digitChar c.toNat hcontrol) input
    · rw [joinPieces_unit hcontrol, Char.ofNat_toNat]

/-! ## Texts -/

/-- Characters that are escaped are read back up to the closing quote. -/
theorem exists_pieces (chars rest : List Char) :
    ∃ pieces, parsePieces (chars.flatMap escapeChar ++ '"' :: rest) = some (pieces, rest) ∧
      joinPieces pieces = some chars := by
  induction chars with
  | nil => exact ⟨[], rfl, rfl⟩
  | cons c chars ih =>
    obtain ⟨pieces, hparse, hjoin⟩ := ih
    obtain ⟨piece, hread, hstands⟩ := exists_piece_of_escapeChar c
    refine ⟨piece :: pieces, ?_, ?_⟩
    · rw [List.flatMap_cons, List.append_assoc, hread, hparse]
      rfl
    · rw [hstands, hjoin]
      rfl

/-- A text is read back from its string. -/
theorem parseString_renderText (text : String) (rest : List Char) :
    parseString (text.toList.flatMap escapeChar ++ '"' :: rest) = some (some text, rest) := by
  obtain ⟨pieces, hparse, hjoin⟩ := exists_pieces text.toList rest
  rw [parseString, hparse]
  simp [hjoin]

end RemovableMedia.Json
