import Mathlib.Algebra.Group.Nat.Defs
import RemovableMedia.Mount.Filesystem
import RemovableMedia.Mount.Kernel
import RemovableMedia.Proofs.Keyed
import RemovableMedia.Proofs.Text.Split

/-!
# From a client's options to the kernel

The options that a client asks for are one text.  It is cut at the commas to check every piece
against the whitelist of the file system (`resolve_eq_ok_iff`), its pieces are told apart into flags
and words for the file system (`Kernel.testBit_flags_iff`, `Kernel.isDataWord_iff`), and the kernel
cuts the words for the file system at the commas once more (`Kernel.splitString_data`).  All of them
see the same pieces, so nothing reaches the kernel that is not on the whitelist, and everything that
a client asks for does, except for the word for a writable mount
(`client_options_reach_kernel`).
-/

set_option autoImplicit false

namespace RemovableMedia.Mount

/-! ## The whitelist -/

/-- The key of an option: what comes before its first equals sign, or all of it without one. -/
def optionKey (option : String) : String :=
  String.ofList (option.toList.takeWhile (· ≠ '='))

/-- An option that a client may ask for. -/
structure Whitelisted (allowed : List String) (option : String) : Prop where
  nonempty : option ≠ ""
  unblank : ∀ c ∈ option.toList, Text.isBlank c = false
  key_allowed : optionKey option ∈ allowed

/-- The word of an option is its key. -/
theorem optionWord_eq_optionKey (option : String) : optionWord option = optionKey option := by
  have hkey := Text.getD_fst_splitOnce '=' option.toList
  unfold optionWord optionKey
  rw [← hkey]
  cases Text.splitOnce '=' option.toList <;> simp

namespace Filesystem

variable {filesystem : Filesystem}

/-- An option is allowed just if its key is on the list. -/
theorem allows_iff {option : String} :
    filesystem.allows option = true ↔ optionKey option ∈ filesystem.allowed := by
  rw [allows, optionWord_eq_optionKey, List.contains_iff_mem]

/-- An option is accepted just if it is on the whitelist. -/
theorem accepts_iff {option : String} :
    filesystem.accepts option = true ↔ Whitelisted filesystem.allowed option := by
  have hblank : (!option.toList.any Text.isBlank) = true ↔
      ∀ c ∈ option.toList, Text.isBlank c = false := by simp
  rw [accepts, Bool.and_eq_true, Bool.and_eq_true, bne_iff_ne, hblank, allows_iff]
  constructor
  · rintro ⟨⟨hnonempty, hunblank⟩, hkey⟩
    exact ⟨hnonempty, hunblank, hkey⟩
  · intro h
    exact ⟨⟨h.nonempty, h.unblank⟩, h.key_allowed⟩

/-- A client gets just the pieces that it asks for, and only if each of them is on the whitelist. -/
theorem resolve_eq_ok_iff {options : String} {resolved : List String} :
    filesystem.resolve (some options) = .ok resolved ↔
      resolved = Text.splitString ',' options ∧
        ∀ piece ∈ Text.splitString ',' options, Whitelisted filesystem.allowed piece := by
  have hall : (Text.splitString ',' options).all filesystem.accepts = true ↔
      ∀ piece ∈ Text.splitString ',' options, Whitelisted filesystem.allowed piece := by
    simp only [List.all_eq_true, accepts_iff]
  rw [resolve, ← hall]
  split
  · rename_i haccepts
    simp [haccepts, eq_comm]
  · rename_i haccepts
    simp [haccepts]

end Filesystem

/-! ## Flags and words for the file system -/

namespace Kernel

variable {options : List String} {option : String}

/-- A word has a flag just if the table says so. -/
theorem flag?_eq_some_iff {bit : Nat} : flag? option = some bit ↔ (option, bit) ∈ flagWords := by
  have hwords : (flagWords.map Prod.fst).Nodup := by decide
  have hfind : ∀ entry : String × Nat,
      (flagWords.find? fun other => other.1 == option) = some entry ↔
        entry ∈ flagWords ∧ entry.1 = option :=
    fun entry => Keyed.find?_eq_some_iff_of_nodup hwords fun other => beq_iff_eq
  rw [flag?, Option.map_eq_some_iff]
  constructor
  · rintro ⟨entry, hentry, rfl⟩
    obtain ⟨hmem, rfl⟩ := (hfind entry).1 hentry
    exact hmem
  · intro hmem
    exact ⟨(option, bit), (hfind _).2 ⟨hmem, rfl⟩, rfl⟩

/-- A word has no flag just if it is not in the table. -/
theorem flag?_eq_none_iff : flag? option = none ↔ option ∉ flagWords.map Prod.fst := by
  rw [flag?, Option.map_eq_none_iff, List.find?_eq_none]
  simp only [beq_iff_eq, List.mem_map, not_exists, not_and]

/-- Every flag is one bit. -/
theorem bit_of_mem_flagWords {word : String} {bit : Nat} (h : (word, bit) ∈ flagWords) :
    ∃ i, bit = 2 ^ i := by
  have hbits : ∀ entry ∈ flagWords, ∃ i < 22, entry.2 = 2 ^ i := by decide
  obtain ⟨i, -, hbit⟩ := hbits _ h
  exact ⟨i, hbit⟩

/-- A bit is set in flags put together just if one of them has it. -/
theorem testBit_foldl_or (bits : List Nat) (start i : Nat) :
    (bits.foldl (· ||| ·) start).testBit i = true ↔
      start.testBit i = true ∨ ∃ bit ∈ bits, bit.testBit i = true := by
  induction bits generalizing start with
  | nil => simp
  | cons bit rest ih =>
    rw [List.foldl_cons, ih, Nat.testBit_or, Bool.or_eq_true]
    simp [or_assoc]

/-- A bit of the flags is set exactly if the word that stands for it is among the options. -/
theorem testBit_flags_iff {i : Nat} :
    (flags options).testBit i = true ↔ ∃ option ∈ options, (option, 2 ^ i) ∈ flagWords := by
  have hmem : ∀ bit : Nat, bit ∈ options.filterMap flag? ↔
      ∃ option ∈ options, (option, bit) ∈ flagWords := by
    intro bit
    simp only [List.mem_filterMap, flag?_eq_some_iff]
  rw [flags, testBit_foldl_or]
  constructor
  · rintro (hzero | ⟨bit, hbit, hset⟩)
    · simp at hzero
    · obtain ⟨option, hoption, hword⟩ := (hmem bit).1 hbit
      obtain ⟨k, rfl⟩ := bit_of_mem_flagWords hword
      rw [Nat.testBit_two_pow, decide_eq_true_iff] at hset
      exact ⟨option, hoption, hset ▸ hword⟩
  · intro hword
    exact .inr ⟨2 ^ i, (hmem _).2 hword, Nat.testBit_two_pow_self⟩

/-- A word is data just if it has no flag and does not only ask to write. -/
theorem isDataWord_iff :
    isDataWord option = true ↔ option ∉ flagWords.map Prod.fst ∧ option ≠ "rw" := by
  rw [isDataWord, Bool.and_eq_true, bne_iff_ne, Option.isNone_iff_eq_none, flag?_eq_none_iff]

/-- Every option is the word for a writable mount, the word of a flag, or for the file system. -/
theorem word_cases (option : String) :
    option = "rw" ∨ (∃ i, (option, 2 ^ i) ∈ flagWords) ∨ isDataWord option = true := by
  by_cases hwritable : option = "rw"
  · exact .inl hwritable
  · by_cases hflag : option ∈ flagWords.map Prod.fst
    · obtain ⟨⟨word, bit⟩, hword, rfl⟩ := List.mem_map.1 hflag
      obtain ⟨i, rfl⟩ := bit_of_mem_flagWords hword
      exact .inr (.inl ⟨i, hword⟩)
    · exact .inr (.inr (isDataWord_iff.2 ⟨hflag, hwritable⟩))

/-- There is a text for the file system exactly if some option is for the file system. -/
theorem data_eq_empty_iff (h : ∀ option ∈ options, option ≠ "") :
    data options = "" ↔ dataWords options = [] := by
  constructor
  · intro hdata
    cases hwords : dataWords options with
    | nil => rfl
    | cons word rest =>
      have hword : word ∈ options :=
        (List.mem_filter.1 (hwords ▸ List.mem_cons_self : word ∈ dataWords options)).1
      refine absurd ?_ (h word hword)
      rw [data, hwords] at hdata
      cases rest with
      | nil => simpa using hdata
      | cons next rest => simp at hdata
  · intro hwords
    rw [data, hwords, String.intercalate_nil]

/-- The kernel finds the words for the file system as they were put together. -/
theorem splitString_data (hcommas : ∀ option ∈ options, ',' ∉ option.toList)
    (hwords : dataWords options ≠ []) :
    Text.splitString ',' (data options) = dataWords options := by
  refine Text.splitString_intercalate (by decide) hwords ?_
  intro word hword
  exact hcommas word (List.mem_filter.1 hword).1

end Kernel

/-! ## The whole way -/

/-- A client's options are granted exactly if every piece between commas is on the whitelist.
Together the granted options are what the client asked for.  The kernel is given a flag exactly if
some piece is the word of that flag, and besides that just the pieces that are neither the word of a
flag nor the word for a writable mount, in their order and between commas.  So cutting what the
kernel is given finds allowed keys only, and no piece is lost except for the word for a writable
mount. -/
theorem client_options_reach_kernel (filesystem : Filesystem) (options : String) :
    let pieces := Text.splitString ',' options
    (",".intercalate pieces = options ∧ ∀ piece ∈ pieces, ',' ∉ piece.toList) ∧
    ((∃ granted, filesystem.resolve (some options) = .ok granted) ↔
      ∀ piece ∈ pieces, Whitelisted filesystem.allowed piece) ∧
    ∀ request : Request, filesystem.resolve (some options) = .ok request.options →
      let flags := Kernel.flags request.options
      let data := Kernel.data request.options
      let passed := pieces.filter fun piece =>
        piece ∉ Kernel.flagWords.map Prod.fst ∧ piece ≠ "rw"
      request.optionsText = options ∧
      (∀ i, flags.testBit i = true ↔ ∃ piece ∈ pieces, (piece, 2 ^ i) ∈ Kernel.flagWords) ∧
      data = ",".intercalate passed ∧
      (data ≠ "" → Text.splitString ',' data = passed ∧
        ∀ word ∈ Text.splitString ',' data, optionKey word ∈ filesystem.allowed) ∧
      ∀ piece ∈ pieces, piece = "rw" ∨
        (∃ i, (piece, 2 ^ i) ∈ Kernel.flagWords ∧ flags.testBit i = true) ∨
        (data ≠ "" ∧ piece ∈ Text.splitString ',' data) := by
  intro pieces
  have hjoin : ",".intercalate pieces = options :=
    Text.intercalate_splitString (by decide) options
  have hcommas : ∀ piece ∈ pieces, ',' ∉ piece.toList :=
    fun piece hpiece => Text.not_mem_of_mem_splitString hpiece
  refine ⟨⟨hjoin, hcommas⟩, ?_, ?_⟩
  · simp only [Filesystem.resolve_eq_ok_iff, exists_and_right, exists_eq, true_and, pieces]
  · intro request hgranted flags data passed
    obtain ⟨hoptions, hlisted⟩ := Filesystem.resolve_eq_ok_iff.1 hgranted
    have hmem : ∀ piece, piece ∈ request.options ↔ piece ∈ pieces := by
      intro piece
      rw [hoptions]
    have hpassed : Kernel.dataWords request.options = passed := by
      rw [hoptions]
      refine List.filter_congr fun piece _ => Bool.eq_iff_iff.2 ?_
      rw [Kernel.isDataWord_iff, decide_eq_true_iff]
    -- no allowed piece is empty, so the data is empty only if no word is passed on
    have hdata : data = "" ↔ Kernel.dataWords request.options = [] :=
      Kernel.data_eq_empty_iff fun piece hpiece => (hlisted piece ((hmem piece).1 hpiece)).nonempty
    have hcut : data ≠ "" → Text.splitString ',' data = passed := by
      intro hne
      rw [← hpassed]
      exact Kernel.splitString_data (fun piece hpiece => hcommas piece ((hmem piece).1 hpiece))
        (mt hdata.2 hne)
    refine ⟨?_, ?_, ?_, ?_, ?_⟩
    · rw [Request.optionsText, hoptions, hjoin]
    · intro i
      simp only [← hmem]
      exact Kernel.testBit_flags_iff
    · rw [← hpassed]
      rfl
    · intro hne
      rw [hcut hne]
      refine ⟨rfl, ?_⟩
      intro word hword
      exact (hlisted word (List.mem_filter.1 hword).1).key_allowed
    · intro piece hpiece
      obtain hwritable | ⟨i, hword⟩ | hpasses := Kernel.word_cases piece
      · exact .inl hwritable
      · exact .inr (.inl ⟨i, hword, Kernel.testBit_flags_iff.2 ⟨piece, (hmem piece).2 hpiece, hword⟩⟩)
      · have hin : piece ∈ Kernel.dataWords request.options :=
          List.mem_filter.2 ⟨(hmem piece).2 hpiece, hpasses⟩
        have hne : data ≠ "" := mt hdata.1 (List.ne_nil_of_mem hin)
        rw [hpassed] at hin
        exact .inr (.inr ⟨hne, (hcut hne).symm ▸ hin⟩)

/-- A flag, a word with a value, the word for a writable mount, and a word with a value that would be
a flag without it. -/
theorem client_options_reach_kernel_of_vfat :
    let vfat : Filesystem := ⟨["rw"], ownerlessWords⟩
    let request : Request := ⟨"/dev/sdb1", "/media/sdb1", "vfat", ["ro", "uid=1000", "rw", "ro="]⟩
    vfat.resolve (some "ro,uid=1000,rw,ro=") = .ok request.options ∧
      request.optionsText = "ro,uid=1000,rw,ro=" ∧
      (Kernel.flags request.options).testBit 0 = true ∧
      (Kernel.flags request.options).testBit 1 = false ∧
      Kernel.data request.options = "uid=1000,ro=" ∧
      ∀ word ∈ Text.splitString ',' (Kernel.data request.options), optionKey word ∈ vfat.allowed := by
  intro vfat request
  have hgranted : vfat.resolve (some "ro,uid=1000,rw,ro=") = .ok request.options := by
    decide +kernel
  have hdata : Kernel.data request.options = "uid=1000,ro=" := by decide +kernel
  obtain ⟨htext, hflags, -, hcut, -⟩ :=
    (client_options_reach_kernel vfat "ro,uid=1000,rw,ro=").2.2 request hgranted
  have hnonempty : Kernel.data request.options ≠ "" := by
    rw [hdata]
    decide
  refine ⟨hgranted, htext, (hflags 0).2 ⟨"ro", by decide +kernel, by decide⟩, ?_, hdata,
    (hcut hnonempty).2⟩
  rw [Bool.eq_false_iff, ne_eq, hflags 1]
  decide +kernel

end RemovableMedia.Mount
