import RemovableMedia.Text.Utf8

/-!
# The bytes of a text

The bytes of a text are those of its characters one after another, and they are read back as the
text (`decode?_encode`).  The checker that looks for the first fault finds none in them
(`fault?_encode`), and only a character below 128 makes its byte (`ascii_mem_encode_iff`).
-/

set_option autoImplicit false

namespace RemovableMedia.Text.Utf8

open String (utf8EncodeChar)

/-! ## Bytes -/

/-- The loop of the list of bytes puts the bytes that remain behind those that it has read. -/
theorem toList_loop_eq (bytes : ByteArray) (i : Nat) (read : List UInt8) :
    ByteArray.toList.loop bytes i read = read.reverse ++ bytes.data.toList.drop i := by
  fun_induction ByteArray.toList.loop bytes i read with
  | case1 i read hlt ih =>
    have hdata : i < bytes.data.size := hlt
    have hdrop : bytes.data.toList.drop i = bytes.get! i :: bytes.data.toList.drop (i + 1) := by
      rw [List.drop_eq_getElem_cons hdata, Array.getElem_toList]
      exact congrArg (· :: _) (getElem!_pos bytes.data i hdata).symm
    rw [ih, hdrop, List.reverse_cons, List.append_assoc, List.singleton_append]
  | case2 i read hge =>
    have hdata : bytes.data.toList.length ≤ i := Nat.le_of_not_lt hge
    rw [List.drop_eq_nil_of_le hdata, List.append_nil]

/-- The bytes of an array as a list are those of its data. -/
theorem toList_eq (bytes : ByteArray) : bytes.toList = bytes.data.toList := by
  rw [ByteArray.toList, toList_loop_eq]
  simp

/-- A text is encoded character by character. -/
theorem encode_eq (text : String) : encode text = text.toList.flatMap utf8EncodeChar := by
  have hbytes : text.toByteArray = (text.toList.flatMap utf8EncodeChar).toByteArray :=
    String.utf8Encode_toList.symm
  rw [encode, String.toUTF8, toList_eq, hbytes, List.toList_data_toByteArray]

/-- Texts in a row are encoded in a row. -/
@[simp]
theorem encode_append (first second : String) :
    encode (first ++ second) = encode first ++ encode second := by
  simp [encode_eq]

/-- The bytes of a text are read as the text. -/
@[simp]
theorem decode?_encode (text : String) : decode? (encode text) = some text := by
  have hbytes : ByteArray.mk (encode text).toArray = text.toByteArray := by
    rw [encode, String.toUTF8, toList_eq]
  rw [decode?, hbytes, String.fromUTF8?, dif_pos text.isValidUTF8]
  rfl

/-- Bytes that are read as a text are the bytes of the text. -/
theorem encode_of_decode? {bytes : List UInt8} {text : String} (h : decode? bytes = some text) :
    encode text = bytes := by
  rw [decode?, String.fromUTF8?] at h
  split at h
  · rw [← Option.some.inj h, encode, String.toUTF8, toList_eq]
    rfl
  · cases h

/-! ## Single bytes -/

/-- A number below 256 is the value of its byte. -/
theorem toNat_ofNat_of_lt {n : Nat} (h : n < 256) : (UInt8.ofNat n).toNat = n := by
  rw [UInt8.toNat_ofNat', Nat.mod_eq_of_lt h]

/-- Only a character below 128 has a byte below 128, which is its number. -/
theorem toNat_of_byte_mem_encodeChar {c : Char} {n : Nat} (hn : n < 128)
    (h : UInt8.ofNat n ∈ utf8EncodeChar c) : c.val.toNat = n := by
  simp only [utf8EncodeChar] at h
  generalize c.val.toNat = v at h ⊢
  -- All bytes but that of a character below 128 are at least 128.
  have hbyte : ∀ m, m < 256 → UInt8.ofNat n = UInt8.ofNat m → m = n := by
    intro m hm heq
    rw [← toNat_ofNat_of_lt hm, ← heq, toNat_ofNat_of_lt (by omega)]
  split at h
  · exact hbyte v (by omega) (by simpa only [List.mem_singleton] using h)
  · exfalso
    split at h
    · simp only [List.mem_cons, List.not_mem_nil, or_false] at h
      rcases h with h | h <;> have := hbyte _ (by omega) h <;> omega
    · split at h
      · simp only [List.mem_cons, List.not_mem_nil, or_false] at h
        rcases h with h | h | h <;> have := hbyte _ (by omega) h <;> omega
      · simp only [List.mem_cons, List.not_mem_nil, or_false] at h
        rcases h with h | h | h | h <;> have := hbyte _ (by omega) h <;> omega

/-- The byte of a character below 128 is among the bytes of a text just if the character is in it. -/
theorem ascii_mem_encode_iff {c : Char} (hc : c.val.toNat < 128) {text : String} :
    UInt8.ofNat c.val.toNat ∈ encode text ↔ c ∈ text.toList := by
  rw [encode_eq, List.mem_flatMap]
  constructor
  · rintro ⟨other, hother, h⟩
    rwa [Char.ext (UInt32.toNat_inj.1 (toNat_of_byte_mem_encodeChar hc h))] at hother
  · intro h
    refine ⟨c, h, ?_⟩
    rw [utf8EncodeChar, if_pos (by omega)]
    exact List.mem_singleton.2 rfl

/-- A text has a newline just if its encoding does. -/
theorem newline_mem_encode_iff {text : String} : 10 ∈ encode text ↔ '\n' ∈ text.toList :=
  ascii_mem_encode_iff (c := '\n') (by decide)

/-- A newline is one byte. -/
theorem encode_newline : encode "\n" = [10] := by
  rw [encode_eq]
  decide

/-! ## Faults -/

/-- Six bits with the mark of a continuation are a continuation byte. -/
theorem isContinuation_ofNat (n : Nat) : isContinuation (UInt8.ofNat (n % 64 + 128)) = true := by
  have hlt : n % 64 < 64 := Nat.mod_lt n (by omega)
  rw [isContinuation, Bool.and_eq_true, decide_eq_true_eq, decide_eq_true_eq,
    UInt8.le_iff_toNat_le, UInt8.le_iff_toNat_le, toNat_ofNat_of_lt (by omega)]
  exact ⟨Nat.le_add_left 128 _, Nat.add_le_add_right (Nat.le_of_lt_succ hlt) 128⟩

/-- The first byte of a character announces its size, if it may be one. -/
theorem announced_ofNat {n : Nat} (h : n < 256) : announced (UInt8.ofNat n) =
    if n < 128 then some 1
    else if 194 ≤ n ∧ n ≤ 223 then some 2
    else if 224 ≤ n ∧ n ≤ 239 then some 3
    else if 240 ≤ n ∧ n ≤ 244 then some 4
    else none := by
  simp [announced, UInt8.lt_iff_toNat_lt, UInt8.le_iff_toNat_le, toNat_ofNat_of_lt h]

/-- The first byte of a character restricts the second one. -/
theorem secondByteRange_ofNat {n : Nat} (h : n < 256) : secondByteRange (UInt8.ofNat n) =
    if n = 224 then (160, 191)
    else if n = 237 then (128, 159)
    else if n = 240 then (144, 191)
    else if n = 244 then (128, 143)
    else (128, 191) := by
  simp [secondByteRange, ← UInt8.toNat_inj, toNat_ofNat_of_lt h]

/-- A first and a second byte that fit leave the rest of the character to check. -/
theorem head_of_second {n m size : Nat} (hn : n < 256) (hm : m < 256)
    (hsize : announced (UInt8.ofNat n) = some (size + 2)) (hcontinues : 128 ≤ m ∧ m ≤ 191)
    (h224 : n = 224 → 160 ≤ m) (h237 : n = 237 → m ≤ 159) (h240 : n = 240 → 144 ≤ m)
    (h244 : n = 244 → m ≤ 143) (more : List UInt8) :
    head (UInt8.ofNat n) (UInt8.ofNat m :: more) = checkRest (size + 2) 2 more := by
  have hrange : (secondByteRange (UInt8.ofNat n)).1.toNat ≤ m ∧
      m ≤ (secondByteRange (UInt8.ofNat n)).2.toNat := by
    rw [secondByteRange_ofNat hn]
    split
    · exact ⟨h224 ‹_›, hcontinues.2⟩
    · split
      · exact ⟨hcontinues.1, h237 ‹_›⟩
      · split
        · exact ⟨h240 ‹_›, hcontinues.2⟩
        · split
          · exact ⟨hcontinues.1, h244 ‹_›⟩
          · exact hcontinues
  simp only [head, hsize]
  rw [if_pos]
  rw [Bool.and_eq_true, decide_eq_true_eq, decide_eq_true_eq, UInt8.le_iff_toNat_le,
    UInt8.le_iff_toNat_le, toNat_ofNat_of_lt hm]
  exact hrange

/-- A character that is seen whole is accepted. -/
theorem checkRest_of_le {size seen : Nat} (h : size ≤ seen) (rest : List UInt8) :
    checkRest size seen rest = .character size := by
  cases rest <;> simp [checkRest, h]

/-- A continuation byte goes one byte further in the character. -/
theorem checkRest_continuation {size seen : Nat} (h : seen < size) (n : Nat)
    (rest : List UInt8) :
    checkRest size seen (UInt8.ofNat (n % 64 + 128) :: rest) = checkRest size (seen + 1) rest := by
  rw [checkRest, if_neg (by omega), if_pos (isContinuation_ofNat n)]

/-- The bytes of a character stand at the head of any bytes that begin with them. -/
theorem head_encodeChar (c : Char) (rest : List UInt8) :
    ∃ first more, utf8EncodeChar c = first :: more ∧
      head first (more ++ rest) = .character (more.length + 1) := by
  have hvalid : c.val.toNat < 55296 ∨ 57343 < c.val.toNat ∧ c.val.toNat < 1114112 := c.valid
  simp only [utf8EncodeChar]
  generalize c.val.toNat = v at *
  split
  · refine ⟨_, _, rfl, ?_⟩
    rw [head, announced_ofNat (by omega), if_pos (by omega)]
    rfl
  · split
    · refine ⟨_, _, rfl, ?_⟩
      have hsize : announced (UInt8.ofNat (v / 64 % 32 + 192)) = some (0 + 2) := by
        rw [announced_ofNat (by omega), if_neg (by omega), if_pos (by omega)]
      rw [List.singleton_append, head_of_second (by omega) (by omega) hsize (by omega) (by omega)
        (by omega) (by omega) (by omega)]
      exact checkRest_of_le (by omega) rest
    · split
      · refine ⟨_, _, rfl, ?_⟩
        have hsize : announced (UInt8.ofNat (v / 4096 % 16 + 224)) = some (1 + 2) := by
          rw [announced_ofNat (by omega), if_neg (by omega), if_neg (by omega),
            if_pos (by omega)]
        -- The limits of the second byte keep out what is encoded in fewer bytes and surrogates.
        rw [List.cons_append, head_of_second (by omega) (by omega) hsize (by omega) (by omega)
          (by omega) (by omega) (by omega), List.singleton_append,
          checkRest_continuation (by omega)]
        exact checkRest_of_le (by omega) rest
      · refine ⟨_, _, rfl, ?_⟩
        have hsize : announced (UInt8.ofNat (v / 262144 % 8 + 240)) = some (2 + 2) := by
          rw [announced_ofNat (by omega), if_neg (by omega), if_neg (by omega),
            if_neg (by omega), if_pos (by omega)]
        rw [List.cons_append, head_of_second (by omega) (by omega) hsize (by omega) (by omega)
          (by omega) (by omega) (by omega), List.cons_append,
          checkRest_continuation (by omega), List.singleton_append,
          checkRest_continuation (by omega)]
        exact checkRest_of_le (by omega) rest

/-- Bytes that are accepted are passed over. -/
theorem faultFrom_skip (pos : Nat) (accepted rest : List UInt8) :
    faultFrom pos accepted.length (accepted ++ rest) =
      faultFrom (pos + accepted.length) 0 rest := by
  induction accepted generalizing pos with
  | nil => rfl
  | cons byte more ih =>
    rw [List.cons_append, List.length_cons, faultFrom, ih, Nat.add_assoc, Nat.add_comm 1]

/-- An encoded character is passed over. -/
theorem faultFrom_encodeChar (pos : Nat) (c : Char) (rest : List UInt8) :
    faultFrom pos 0 (utf8EncodeChar c ++ rest) =
      faultFrom (pos + (utf8EncodeChar c).length) 0 rest := by
  obtain ⟨first, more, hbytes, hhead⟩ := head_encodeChar c rest
  rw [hbytes, List.cons_append, faultFrom, hhead]
  dsimp only
  rw [Nat.add_sub_cancel, faultFrom_skip, List.length_cons, Nat.add_assoc, Nat.add_comm 1]

/-- The bytes of a text have no fault. -/
@[simp]
theorem fault?_encode (text : String) : fault? (encode text) = none := by
  have hchars : ∀ (chars : List Char) (pos : Nat),
      faultFrom pos 0 (chars.flatMap utf8EncodeChar) = none := by
    intro chars
    induction chars with
    | nil => exact fun _ => rfl
    | cons c rest ih =>
      intro pos
      rw [List.flatMap_cons, faultFrom_encodeChar]
      exact ih _
  rw [fault?, encode_eq]
  exact hchars _ 0

end RemovableMedia.Text.Utf8
