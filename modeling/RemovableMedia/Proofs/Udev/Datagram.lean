import Mathlib.Algebra.Group.Nat.Defs
import Mathlib.Data.List.Basic
import RemovableMedia.Proofs.Text.Split
import RemovableMedia.Proofs.Text.Utf8
import RemovableMedia.Udev.Classify

/-!
# Datagrams that arrive whole

The device manager writes the properties of a device into one datagram (`Header.datagram`): a header of
forty bytes, and a body of parts that a zero byte ends.  A receiver finds the body again where the
header says it is (`body?_datagram`), and in it the properties, whatever other parts stand between them
(`properties?_of_body`).  A part of the datagram is taken only if it lies within the datagram
(`slice?_eq_some_iff`), so of a datagram that was cut off nothing is read (`properties?_of_cut`).
-/

set_option autoImplicit false

namespace RemovableMedia.Udev

open Text (splitAll)

/-! ## Properties -/

namespace Properties

/-- A property that is inserted is found under its key, and all others as before. -/
theorem get?_insert (props : Properties) (key value other : String) :
    (props.insert key value).get? other = if other = key then some value else props.get? other := by
  unfold insert get?
  rw [List.find?_append]
  by_cases hother : other = key
  · subst hother
    have hnone : (props.pairs.filter fun pair => pair.1 ≠ other).find?
        (fun pair => pair.1 == other) = none := by
      rw [List.find?_eq_none]
      intro pair hpair
      simpa using (List.mem_filter.1 hpair).2
    rw [hnone]
    simp
  · have hsame : (props.pairs.filter fun pair => pair.1 ≠ key).find? (fun pair => pair.1 == other) =
        props.pairs.find? fun pair => pair.1 == other := by
      rw [List.find?_filter]
      congr 1
      funext pair
      by_cases hpair : pair.1 = other
      · simp [hpair, hother]
      · simp [hpair]
    rw [hsame, if_neg hother]
    simp [Ne.symm hother]

/-- Of several values for one key the last one counts. -/
theorem get?_insertAll (props : Properties) (pairs : List (String × String)) (key : String) :
    (props.insertAll pairs).get? key = (pairs.reverse.lookup key).or (props.get? key) := by
  induction pairs generalizing props with
  | nil => rfl
  | cons pair rest ih =>
    obtain ⟨other, value⟩ := pair
    have hinsert := ih (props.insert other value)
    rw [get?_insert] at hinsert
    rw [List.reverse_cons, List.lookup_append, Option.or_assoc]
    refine hinsert.trans (congrArg _ ?_)
    by_cases hkey : key = other
    · simp [hkey]
    · simp [List.lookup_cons, beq_false_of_ne hkey, hkey]

/-- The keys of the properties. -/
def keys (props : Properties) : List String :=
  props.pairs.map Prod.fst

/-- No key occurs twice after an insertion. -/
theorem nodup_keys_insert {props : Properties} (h : props.keys.Nodup) (key value : String) :
    (props.insert key value).keys.Nodup := by
  unfold keys insert
  rw [List.map_append, List.nodup_append]
  refine ⟨h.sublist (List.filter_sublist.map _), List.pairwise_singleton _ _, ?_⟩
  intro other hother new hnew
  obtain ⟨pair, hpair, rfl⟩ := List.mem_map.1 hother
  rw [List.mem_singleton.1 hnew]
  exact of_decide_eq_true (List.mem_filter.1 hpair).2

/-- No key occurs twice after insertions. -/
theorem nodup_keys_insertAll {props : Properties} (h : props.keys.Nodup)
    (pairs : List (String × String)) : (props.insertAll pairs).keys.Nodup := by
  induction pairs generalizing props with
  | nil => exact h
  | cons pair rest ih => exact ih (nodup_keys_insert h pair.1 pair.2)

/-- No key occurs twice in properties made of pairs. -/
theorem nodup_keys_ofPairs (pairs : List (String × String)) : (ofPairs pairs).keys.Nodup :=
  nodup_keys_insertAll (show empty.keys.Nodup from List.nodup_nil) pairs

/-- Under each key the last value is found. -/
theorem get?_ofPairs (pairs : List (String × String)) (key : String) :
    (ofPairs pairs).get? key = pairs.reverse.lookup key := by
  rw [ofPairs, get?_insertAll]
  exact Option.or_none

end Properties

namespace Datagram

/-! ## Numbers -/

/-- A number in the given number of bytes, the last one first. -/
def spell : Nat → Nat → List UInt8
  | 0, _ => []
  | count + 1, n => UInt8.ofNat n :: spell count (n / 256)

/-- A number is spelled in as many bytes as are given. -/
@[simp]
theorem length_spell (count n : Nat) : (spell count n).length = count := by
  induction count generalizing n with
  | zero => rfl
  | succ count ih => simp [spell, ih]

/-- A number is read back with the last byte first, if it fits. -/
theorem littleEndian_spell {count n : Nat} (h : n < 256 ^ count) :
    littleEndian (spell count n) = n := by
  induction count generalizing n with
  | zero =>
    have hzero : n = 0 := by simpa using h
    rw [hzero]
    rfl
  | succ count ih =>
    have hrest : n / 256 < 256 ^ count := by
      rw [Nat.div_lt_iff_lt_mul (by decide)]
      rwa [Nat.pow_succ] at h
    have hstep : littleEndian (spell (count + 1) n) =
        (UInt8.ofNat n).toNat + 256 * littleEndian (spell count (n / 256)) := rfl
    rw [hstep, ih hrest, UInt8.toNat_ofNat']
    exact Nat.mod_add_div n 256

/-- A number is read back with the last byte last, if it fits. -/
theorem bigEndian_reverse_spell {count n : Nat} (h : n < 256 ^ count) :
    bigEndian (spell count n).reverse = n := by
  rw [bigEndian, List.reverse_reverse, littleEndian_spell h]

/-! ## Parts of a datagram -/

/-- A field is read at its place. -/
theorem word_append {before field after : List UInt8} {place : Nat} (hplace : before.length = place)
    (hfield : field.length = 4) : word (before ++ (field ++ after)) place = field := by
  rw [word, ← hplace, List.drop_left, ← hfield, List.take_left]

/-- A field that lies within a datagram is read in full. -/
theorem length_word {datagram : Datagram} {place : Nat} (h : place + 4 ≤ datagram.length) :
    (datagram.word place).length = 4 := by
  rw [word, List.length_take, List.length_drop]
  omega

/-- A datagram that is cut has the same field if the cut is behind it. -/
theorem word_of_cut {cut datagram : Datagram} (hcut : cut <+: datagram) {place : Nat}
    (h : place + 4 ≤ cut.length) : cut.word place = datagram.word place := by
  obtain ⟨rest, rfl⟩ := hcut
  rw [word, word, List.drop_append_of_le_length (by omega),
    List.take_append_of_le_length (by rw [List.length_drop]; omega)]

/-- A part is taken exactly if it stands in the datagram at its place and with its length. -/
theorem slice?_eq_some_iff {datagram : Datagram} {offset length : Nat} {part : List UInt8} :
    datagram.slice? offset length = some part ↔
      ∃ before after, datagram = before ++ part ++ after ∧
        before.length = offset ∧ part.length = length := by
  unfold slice?
  constructor
  · intro h
    split at h
    · rename_i hinside
      cases h
      refine ⟨datagram.take offset, datagram.drop (offset + length), ?_, ?_, ?_⟩
      · rw [List.append_assoc, ← List.drop_drop, List.take_append_drop, List.take_append_drop]
      · rw [List.length_take]
        omega
      · rw [List.length_take, List.length_drop]
        omega
    · cases h
  · rintro ⟨before, after, rfl, rfl, rfl⟩
    rw [if_pos (by simp only [List.length_append]; omega), List.append_assoc, List.drop_left,
      List.take_left]

/-- After a proper header the body is the part that the header states. -/
theorem body?_eq_slice? {datagram : Datagram} (hheader : headerLength ≤ datagram.length)
    (hbeginning : datagram.take beginning.length = beginning)
    (hmagic : bigEndian (datagram.word 8) = magic) :
    datagram.body? =
      datagram.slice? (littleEndian (datagram.word 16)) (littleEndian (datagram.word 20)) := by
  rw [body?, if_neg (Nat.not_lt.2 hheader), if_neg (not_not_intro hbeginning),
    if_neg (not_not_intro hmagic)]

/-! ## Headers -/

/-- What a header says besides the place and the length of the body: its own length, and what filters
go by. -/
structure Header where
  size : List UInt8
  filters : List UInt8
  length_size : size.length = 4
  length_filters : filters.length = 16

namespace Header

/-- The header before a body of the given length. -/
def bytes (header : Header) (length : Nat) : List UInt8 :=
  beginning ++ ((spell 4 magic).reverse ++ (header.size ++
    (spell 4 headerLength ++ (spell 4 length ++ header.filters))))

/-- A body with its header before it. -/
def datagram (header : Header) (body : List UInt8) : Datagram :=
  header.bytes body.length ++ body

variable (header : Header) {body : List UInt8}

/-- A header has a fixed length. -/
theorem length_bytes (length : Nat) : (header.bytes length).length = headerLength := by
  simp [bytes, header.length_size, header.length_filters, beginning, headerLength]

/-- A datagram is as long as its header and its body. -/
theorem length_datagram (body : List UInt8) :
    (header.datagram body).length = headerLength + body.length := by
  rw [datagram, List.length_append, length_bytes]

/-- The fields of a datagram are the magic number, the place of the body and its length. -/
theorem word_datagram (body : List UInt8) :
    (header.datagram body).word 8 = (spell 4 magic).reverse ∧
      (header.datagram body).word 16 = spell 4 headerLength ∧
      (header.datagram body).word 20 = spell 4 body.length := by
  let start := beginning ++ ((spell 4 magic).reverse ++ header.size)
  have hmagic : header.datagram body = beginning ++ ((spell 4 magic).reverse ++ (header.size ++
      (spell 4 headerLength ++ (spell 4 body.length ++ (header.filters ++ body))))) := by
    simp only [datagram, bytes, List.append_assoc]
  have hplace : header.datagram body = start ++ (spell 4 headerLength ++
      (spell 4 body.length ++ (header.filters ++ body))) := by
    simp only [hmagic, start, List.append_assoc]
  have hlength : header.datagram body = (start ++ spell 4 headerLength) ++
      (spell 4 body.length ++ (header.filters ++ body)) := by
    simp only [hplace, List.append_assoc]
  have hstart : start.length = 16 := by
    simp [start, header.length_size, beginning]
  refine ⟨?_, ?_, ?_⟩
  · rw [hmagic]
    exact word_append rfl (by simp)
  · rw [hplace]
    exact word_append hstart (length_spell 4 _)
  · rw [hlength]
    exact word_append (by rw [List.length_append, hstart, length_spell]) (length_spell 4 _)

/-- A datagram begins as all of them do. -/
theorem take_datagram (body : List UInt8) :
    (header.datagram body).take beginning.length = beginning := by
  rw [datagram, bytes, List.append_assoc, List.take_left]

/-- A body that is not longer than its header can say is found again. -/
theorem body?_datagram (hfits : body.length < 2 ^ 32) :
    (header.datagram body).body? = some body := by
  obtain ⟨hmagic, hplace, hlength⟩ := header.word_datagram body
  have hlong : headerLength ≤ (header.datagram body).length := by
    rw [length_datagram]
    omega
  rw [body?_eq_slice? hlong (header.take_datagram body)
    (hmagic ▸ bigEndian_reverse_spell (by decide)), hplace, hlength,
    littleEndian_spell (by decide), littleEndian_spell (by simpa using hfits)]
  refine slice?_eq_some_iff.2 ⟨header.bytes body.length, [], ?_, header.length_bytes _, rfl⟩
  rw [datagram, List.append_nil]

end Header

/-! ## Bodies -/

/-- A part of a body: a property, or something that is none. -/
inductive Chunk where
  | property (key value : String)
  | other (bytes : List UInt8)

namespace Chunk

/-- The bytes of a part. -/
def bytes : Chunk → List UInt8
  | property key value => Text.Utf8.encode (key ++ "=" ++ value)
  | other bytes => bytes

/-- The property that a part states. -/
def pair? : Chunk → Option (String × String)
  | property key value => some (key, value)
  | other _ => none

/-- A part is as it should be: it has no zero byte, the key of a property has no equals sign, and what
is no property is not text or has no equals sign. -/
def Proper : Chunk → Prop
  | property key value => '\x00' ∉ key.toList ∧ '=' ∉ key.toList ∧ '\x00' ∉ value.toList
  | other bytes => 0 ∉ bytes ∧ (Text.Utf8.decode? bytes = none ∨ 0x3d ∉ bytes)

instance : (chunk : Chunk) → Decidable chunk.Proper
  | property _ _ => inferInstanceAs (Decidable (_ ∧ _ ∧ _))
  | other _ => inferInstanceAs (Decidable (_ ∧ _))

variable {chunk : Chunk}

/-- A proper part has no zero byte. -/
theorem Proper.zero_not_mem (h : chunk.Proper) : 0 ∉ chunk.bytes := by
  cases chunk with
  | property key value =>
    obtain ⟨hkey, -, hvalue⟩ := h
    have hzero : 0 ∈ Text.Utf8.encode (key ++ "=" ++ value) ↔
        '\x00' ∈ (key ++ "=" ++ value).toList :=
      Text.Utf8.ascii_mem_encode_iff (c := '\x00') (by decide)
    rw [bytes, hzero]
    simp [hkey, hvalue]
  | other bytes => exact h.1

/-- A part states just the property that was written into it. -/
theorem Proper.pairOfText? (h : chunk.Proper) :
    (Text.Utf8.decode? chunk.bytes).bind Properties.pairOfText? = chunk.pair? := by
  cases chunk with
  | property key value =>
    rw [bytes, Text.Utf8.decode?_encode, Option.bind_some, Properties.pairOfText?,
      String.toList_append, String.toList_append, List.append_assoc]
    have hcut : Text.splitOnce '=' (key.toList ++ ("=".toList ++ value.toList)) =
        some (key.toList, value.toList) := Text.splitOnce_append h.2.1 value.toList
    rw [hcut]
    simp [pair?]
  | other bytes =>
    cases hdecode : Text.Utf8.decode? bytes with
    | none => rw [Chunk.bytes, hdecode]; rfl
    | some text =>
      have hsign : '=' ∉ text.toList := by
        have hbyte : 0x3d ∉ bytes := h.2.resolve_left (by simp [hdecode])
        rw [← Text.Utf8.encode_of_decode? hdecode] at hbyte
        exact fun hmem => hbyte ((Text.Utf8.ascii_mem_encode_iff (c := '=') (by decide)).2 hmem)
      rw [Chunk.bytes, hdecode, Option.bind_some, Properties.pairOfText?,
        Text.splitOnce_eq_none_iff.2 hsign]
      rfl

end Chunk

/-- A body of parts, each of which a zero byte ends. -/
def bodyOf (chunks : List Chunk) : List UInt8 :=
  (chunks.map Chunk.bytes).flatMap fun bytes => bytes ++ [0]

/-- The properties that parts state, one after another. -/
def pairsOf (chunks : List Chunk) : List (String × String) :=
  chunks.filterMap Chunk.pair?

variable {chunks : List Chunk}

/-- The properties that are read from a body are those of its parts. -/
theorem pairsOfTexts_bodyOf (h : ∀ chunk ∈ chunks, chunk.Proper) :
    Properties.pairsOfTexts ((splitAll 0 (bodyOf chunks)).filterMap Text.Utf8.decode?) =
      pairsOf chunks := by
  have hpieces : ∀ piece ∈ chunks.map Chunk.bytes, 0 ∉ piece := by
    rintro piece hpiece
    obtain ⟨chunk, hchunk, rfl⟩ := List.mem_map.1 hpiece
    exact (h chunk hchunk).zero_not_mem
  have hrest : ([] : List UInt8) = Text.Utf8.encode "" := by rw [Text.Utf8.encode_eq]; rfl
  rw [bodyOf, Text.splitAll_flatMap_ended hpieces, List.filterMap_append, List.filterMap_map,
    Properties.pairsOfTexts, List.filterMap_append, List.filterMap_filterMap]
  have hlast : List.filterMap Properties.pairOfText? (List.filterMap Text.Utf8.decode? [[]]) = [] := by
    rw [hrest, List.filterMap_cons_some (Text.Utf8.decode?_encode "")]
    rfl
  rw [hlast, List.append_nil, pairsOf]
  exact List.filterMap_congr fun chunk hchunk => (h chunk hchunk).pairOfText?

/-- All properties of a datagram that arrives whole are read, and nothing else. -/
theorem properties?_datagram (header : Header) (h : ∀ chunk ∈ chunks, chunk.Proper)
    (hfits : (bodyOf chunks).length < 2 ^ 32) :
    (header.datagram (bodyOf chunks)).properties? = some (.ofPairs (pairsOf chunks)) := by
  rw [properties?, header.body?_datagram hfits, Option.map_some, pairsOfTexts_bodyOf h]

/-! ## Datagrams that are cut off -/

/-- What has to hold of a datagram of which something is read. -/
structure Whole (datagram : Datagram) : Prop where
  header : headerLength ≤ datagram.length
  beginning : datagram.take beginning.length = beginning
  magic : bigEndian (datagram.word 8) = magic
  body : littleEndian (datagram.word 16) + littleEndian (datagram.word 20) ≤ datagram.length

/-- A datagram has properties just if it is whole. -/
theorem isSome_properties?_iff {datagram : Datagram} :
    datagram.properties?.isSome = true ↔ datagram.Whole := by
  rw [properties?, Option.isSome_map]
  constructor
  · intro h
    unfold body? slice? at h
    split at h
    · cases h
    · split at h
      · cases h
      · split at h
        · cases h
        · split at h
          · rename_i hlong hbeginning hmagic hbody
            exact ⟨Nat.le_of_not_lt hlong, Decidable.not_not.1 hbeginning, Decidable.not_not.1 hmagic,
              hbody⟩
          · cases h
  · rintro ⟨hlong, hbeginning, hmagic, hbody⟩
    rw [body?_eq_slice? hlong hbeginning hmagic, slice?, if_pos hbody]
    rfl

/-- All numbers of a header have their four bytes. -/
theorem Whole.length_word {datagram : Datagram} (h : datagram.Whole) :
    ∀ place ∈ [8, 16, 20], (datagram.word place).length = 4 := by
  have hlong := h.header
  rw [headerLength] at hlong
  intro place hplace
  simp only [List.mem_cons, List.not_mem_nil, or_false] at hplace
  exact Datagram.length_word (by omega)

/-- Properties are read from the bytes that stand where the header says, and from no others. -/
theorem exists_body_of_properties? {datagram : Datagram} {props : Properties}
    (h : datagram.properties? = some props) :
    ∃ before body after, datagram = before ++ body ++ after ∧
      before.length = littleEndian (datagram.word 16) ∧
      body.length = littleEndian (datagram.word 20) ∧
      props = .ofPairs (Properties.pairsOfTexts
        ((splitAll 0 body).filterMap Text.Utf8.decode?)) := by
  have hwhole : datagram.Whole := isSome_properties?_iff.1 (by rw [h]; rfl)
  obtain ⟨body, hbody, rfl⟩ := Option.map_eq_some_iff.1 h
  rw [body?_eq_slice? hwhole.header hwhole.beginning hwhole.magic] at hbody
  obtain ⟨before, after, hparts, hbefore, hlength⟩ := slice?_eq_some_iff.1 hbody
  exact ⟨before, body, after, hparts, hbefore, hlength, rfl⟩

/-- Of a datagram that was cut off nothing is read. -/
theorem properties?_of_cut (header : Header) {body : List UInt8} (hfits : body.length < 2 ^ 32)
    {cut : Datagram} (hcut : cut <+: header.datagram body) (hne : cut ≠ header.datagram body) :
    cut.properties? = none := by
  rw [← Option.not_isSome_iff_eq_none, isSome_properties?_iff]
  rintro ⟨hlong, -, -, hbody⟩
  have hshorter : cut.length < (header.datagram body).length :=
    Nat.lt_of_le_of_ne hcut.length_le fun hsame => hne (hcut.eq_of_length hsame)
  rw [headerLength] at hlong
  obtain ⟨-, hplace, hlength⟩ := header.word_datagram body
  rw [word_of_cut hcut (by omega), word_of_cut hcut (by omega), hplace, hlength,
    littleEndian_spell (by decide), littleEndian_spell (by simpa using hfits),
    ← header.length_datagram] at hbody
  omega

/-- A datagram that is longer than what is received of it is passed over. -/
theorem event?_of_too_long (header : Header) {body : List UInt8} (hfits : body.length < 2 ^ 32)
    (hlong : receiveLimit < (header.datagram body).length) (sysfs : Sysfs) :
    (header.datagram body).event? sysfs = none := by
  have hne : (header.datagram body).received ≠ header.datagram body := by
    intro hsame
    have hlength := congrArg List.length hsame
    rw [received, List.length_take] at hlength
    omega
  have hcut : (header.datagram body).received <+: header.datagram body := List.take_prefix _ _
  rw [Datagram.event?, properties?_of_cut header hfits hcut hne]
  rfl

/-- From a datagram that arrives whole all properties are read: of several values for one key the last
one, and nothing of parts that are not text or have no equals sign.  From any beginning of it that is
not all of it nothing is read, so it is passed over if it is longer than what is received of it.  From
any bytes something is read exactly if they begin as a header does, with the magic number, and have a
body at the place and with the length that the header states; and it is that body that is read. -/
theorem properties_arrive_whole (header : Header) {chunks : List Chunk}
    (hproper : ∀ chunk ∈ chunks, chunk.Proper) (hfits : (bodyOf chunks).length < 2 ^ 32) :
    (∃ props, (header.datagram (bodyOf chunks)).properties? = some props ∧ props.keys.Nodup ∧
        ∀ key, props.get? key = (pairsOf chunks).reverse.lookup key) ∧
      (∀ cut : Datagram, cut <+: header.datagram (bodyOf chunks) →
        cut ≠ header.datagram (bodyOf chunks) → cut.properties? = none) ∧
      (receiveLimit < (header.datagram (bodyOf chunks)).length →
        ∀ sysfs, (header.datagram (bodyOf chunks)).event? sysfs = none) ∧
      ∀ datagram : Datagram,
        (datagram.properties?.isSome = true ↔ datagram.Whole) ∧
          (datagram.Whole → ∀ place ∈ [8, 16, 20], (datagram.word place).length = 4) ∧
          ∀ props, datagram.properties? = some props →
            ∃ before body after, datagram = before ++ body ++ after ∧
              before.length = littleEndian (datagram.word 16) ∧
              body.length = littleEndian (datagram.word 20) ∧
              props = .ofPairs (Properties.pairsOfTexts
                ((splitAll 0 body).filterMap Text.Utf8.decode?)) := by
  refine ⟨⟨.ofPairs (pairsOf chunks), properties?_datagram header hproper hfits,
    Properties.nodup_keys_ofPairs _, Properties.get?_ofPairs _⟩, ?_, ?_, ?_⟩
  · exact fun cut => properties?_of_cut header hfits
  · exact event?_of_too_long header hfits
  · exact fun datagram =>
      ⟨isSome_properties?_iff, Whole.length_word, fun props => exists_body_of_properties?⟩

/-- A change of a disk, with a second value for one of its keys, and with bytes that are not text and a
word that states nothing between its properties. -/
theorem properties_arrive_whole_of_change :
    let header : Header := ⟨spell 4 headerLength, List.replicate 16 0, rfl, rfl⟩
    let chunks : List Chunk := [.property "ACTION" "add", .other [0xff, 0x3d, 0x31],
      .property "DEVNAME" "sdb", .other [0x78], .property "ACTION" "change"]
    let datagram := header.datagram (bodyOf chunks)
    (∃ props, datagram.properties? = some props ∧ props.keys.Nodup ∧
        props.get? "ACTION" = some "change" ∧ props.get? "x" = none) ∧
      Datagram.properties? (datagram.take 60) = none := by
  intro header chunks datagram
  have hproper : ∀ chunk ∈ chunks, chunk.Proper := by decide +kernel
  have hfits : (bodyOf chunks).length < 2 ^ 32 := by decide +kernel
  obtain ⟨⟨props, hprops, hkeys, hget⟩, hcut, -, -⟩ := properties_arrive_whole header hproper hfits
  refine ⟨⟨props, hprops, hkeys, (hget _).trans rfl, (hget _).trans rfl⟩, ?_⟩
  exact hcut _ (List.take_prefix _ _) (by decide +kernel)

end Datagram

end RemovableMedia.Udev
