import RemovableMedia.Mount.Kernel
import RemovableMedia.Proofs.Except
import RemovableMedia.Proofs.Mount.Options
import RemovableMedia.Proofs.Text.Segment
import RemovableMedia.Proofs.Text.Utf8

/-!
# What the kernel is asked for

The kernel reads a text up to its first NUL, so it reads all of a text just if the text has none
(`passed_eq_encode_iff`).  A request whose texts have none is put to the kernel as it is, and any
other one is refused before the kernel is asked (`call_eq_ok`, `call_eq_error_iff`).  The options
reach it as flags and as one text.  Both are made word by word, so a NUL comes into the text only with
a word that is passed on (`hasNul_data_iff`), and of options put together each part adds its own flags
and words (`flags_append`, `dataWords_append`).
-/

set_option autoImplicit false

namespace RemovableMedia.Mount.Kernel

open RemovableMedia.Text (Utf8.encode)

/-! ## Texts for the kernel -/

/-- A text that the kernel would not read to its end. -/
def HasNul (text : String) : Prop :=
  '\x00' ∈ text.toList

instance (text : String) : Decidable (HasNul text) :=
  inferInstanceAs (Decidable ('\x00' ∈ text.toList))

/-- What the kernel reads of a text, which is handed over with a NUL after its last byte. -/
def passed (text : String) : List UInt8 :=
  (Utf8.encode text ++ [0]).takeWhile (· != 0)

/-- A text is whole just if it has no NUL. -/
theorem isWhole_eq_true_iff {text : String} : isWhole text = true ↔ ¬HasNul text := by
  rw [isWhole, HasNul, Bool.not_eq_true', ← Bool.not_eq_true, List.contains_iff_mem]

/-- A NUL is encoded as a zero byte, and nothing else is. -/
theorem zero_mem_encode_iff {text : String} : 0 ∈ Utf8.encode text ↔ HasNul text :=
  Text.Utf8.ascii_mem_encode_iff (c := '\x00') (by decide)

/-- The kernel reads all of a text just if the text has no NUL. -/
theorem passed_eq_encode_iff {text : String} : passed text = Utf8.encode text ↔ ¬HasNul text := by
  rw [← zero_mem_encode_iff]
  constructor
  · intro hpassed hzero
    rw [← hpassed] at hzero
    have hall : (passed text).all (· != 0) = true := List.all_takeWhile
    exact absurd (List.all_eq_true.1 hall 0 hzero) (by decide)
  · intro hzero
    exact Text.takeWhile_append_cons hzero []

/-! ## Options -/

variable {options : List String}

/-- The text for the file system has a NUL just if one of the words that it is made of has one. -/
theorem hasNul_data_iff :
    HasNul (data options) ↔
      ∃ option ∈ options, option ∉ flagWords.map Prod.fst ∧ option ≠ "rw" ∧ HasNul option := by
  rw [HasNul, data, Text.mem_intercalate_iff (by decide)]
  constructor
  · rintro ⟨word, hword, hnul⟩
    obtain ⟨hoption, hdata⟩ := List.mem_filter.1 hword
    obtain ⟨hflag, hwritable⟩ := isDataWord_iff.1 hdata
    exact ⟨word, hoption, hflag, hwritable, hnul⟩
  · rintro ⟨option, hoption, hflag, hwritable, hnul⟩
    have hword : option ∈ dataWords options :=
      List.mem_filter.2 ⟨hoption, isDataWord_iff.2 ⟨hflag, hwritable⟩⟩
    exact ⟨option, hword, hnul⟩

/-- Options put together have the flags of both. -/
theorem flags_append (first second : List String) :
    flags (first ++ second) = flags first ||| flags second := by
  refine Nat.eq_of_testBit_eq fun i => Bool.eq_iff_iff.2 ?_
  rw [Nat.testBit_or, Bool.or_eq_true, testBit_flags_iff, testBit_flags_iff, testBit_flags_iff]
  simp only [List.mem_append, or_and_right, exists_or]

/-- Options put together have the words of both, one after another. -/
theorem dataWords_append (first second : List String) :
    dataWords (first ++ second) = dataWords first ++ dataWords second :=
  List.filter_append first second

/-! ## Requests -/

/-- The texts that a request hands to the kernel. -/
def texts (request : Request) : List String :=
  [request.device, request.point, request.filesystem, data request.options]

variable {request : Request}

/-- The four texts of a request are looked at one by one. -/
theorem all_isWhole_texts :
    (texts request).all isWhole = (isWhole request.device && isWhole request.point &&
      isWhole request.filesystem && isWhole (data request.options)) := by
  simp [texts, Bool.and_assoc]

/-- A request that the kernel would read to the end is put to it as it is. -/
theorem call_eq_ok (h : ∀ text ∈ texts request, ¬HasNul text) :
    call request = .ok ⟨request.device, request.point, request.filesystem, flags request.options,
      data request.options⟩ := by
  have hwhole : (texts request).all isWhole = true := by
    rw [List.all_eq_true]
    intro text htext
    exact isWhole_eq_true_iff.2 (h text htext)
  rw [all_isWhole_texts] at hwhole
  exact if_pos hwhole

/-- Just a request that the kernel would not read to the end is refused. -/
theorem call_eq_error_iff :
    call request = .error .genericError ↔ ∃ text ∈ texts request, HasNul text := by
  constructor
  · intro hrefused
    by_contra hnone
    have hwhole : ∀ text ∈ texts request, ¬HasNul text := by
      intro text htext hnul
      exact hnone ⟨text, htext, hnul⟩
    rw [call_eq_ok hwhole] at hrefused
    cases hrefused
  · rintro ⟨text, htext, hnul⟩
    have hcut : ¬(texts request).all isWhole = true := by
      intro hwhole
      exact isWhole_eq_true_iff.1 (List.all_eq_true.1 hwhole text htext) hnul
    rw [all_isWhole_texts] at hcut
    exact if_neg hcut

variable {point : String}

/-- A mount point without a NUL is the one that is unmounted. -/
theorem unmountTarget_eq_ok (h : ¬HasNul point) : unmountTarget point = .ok point :=
  if_pos (isWhole_eq_true_iff.2 h)

/-- Unmounting fails before the kernel is asked just for a mount point with a NUL. -/
theorem unmountTarget_eq_error_iff :
    unmountTarget point = .error .genericError ↔ HasNul point := by
  rw [unmountTarget]
  split
  · rename_i hwhole
    simp [isWhole_eq_true_iff.1 hwhole]
  · rename_i hcut
    rw [isWhole_eq_true_iff, not_not] at hcut
    simp [hcut]

/-! ## System calls -/

section

variable {σ : Type} {system : System σ} {state : σ} {failure : Option Int → ErrorCode}

/-- The same kernel with a record of what it is asked for, the latest last. -/
def System.recorded (system : System σ) : System (σ × List SystemCall) :=
  fun asked (state, calls) =>
    let (outcome, state) := system asked state
    (outcome, state, calls ++ [asked])

/-- A call without a reason against it is the only one, and its outcome is that of the kernel. -/
theorem ask_recorded_ok (asked : SystemCall) :
    ask system.recorded failure (.ok asked) (state, []) =
      ((system asked state).1.mapError failure, (system asked state).2, [asked]) :=
  rfl

/-- The kernel is not asked just if there is a reason against it. -/
theorem ask_recorded_eq_refused_iff {asked : Except ErrorCode SystemCall} {code : ErrorCode} :
    ask system.recorded failure asked (state, []) = (.error code, state, []) ↔
      asked = .error code := by
  cases asked with
  | error reason => simp [ask]
  | ok asked =>
    rw [ask_recorded_ok]
    simp

end

/-- Whatever the kernel does, a request to mount fails without asking it just if the device, the mount
point, the file system or the text made of the options has a NUL, and that text has one just if some
option has one that is neither the word of a flag nor the word for a writable mount.  Any other request
is one call with these texts, all of which the kernel reads to the end, and its outcome is that of the
call.  The flags of options put together are those of either part, and their words for the file system
are those of the first part and then those of the second.  A request to unmount is refused in the same
way, or is one call. -/
theorem whole_texts_reach_kernel {σ : Type} (system : System σ) (state : σ) (request : Request) :
    let answer := mount system.recorded request (state, [])
    (answer = (.error .genericError, state, []) ↔ ∃ text ∈ texts request, HasNul text) ∧
    (HasNul (data request.options) ↔ ∃ option ∈ request.options,
      option ∉ flagWords.map Prod.fst ∧ option ≠ "rw" ∧ HasNul option) ∧
    ((∀ text ∈ texts request, ¬HasNul text) →
      let asked := SystemCall.mount ⟨request.device, request.point, request.filesystem,
        flags request.options, data request.options⟩
      answer = ((system asked state).1.mapError mountFailure, (system asked state).2, [asked]) ∧
      ∀ text ∈ texts request, passed text = Utf8.encode text) ∧
    (∀ first second, request.options = first ++ second →
      flags request.options = flags first ||| flags second ∧
      dataWords request.options = dataWords first ++ dataWords second ∧
      data request.options = ",".intercalate (dataWords first ++ dataWords second)) ∧
    ∀ point, let answer := unmount system.recorded point (state, [])
      (answer = (.error .genericError, state, []) ↔ HasNul point) ∧
      (¬HasNul point →
        let asked := SystemCall.unmount point 0
        answer = ((system asked state).1.mapError unmountFailure, (system asked state).2, [asked]) ∧
        passed point = Utf8.encode point) := by
  intro answer
  refine ⟨?_, hasNul_data_iff, ?_, ?_, ?_⟩
  · exact ask_recorded_eq_refused_iff.trans (Except.map_eq_error_iff.trans call_eq_error_iff)
  · intro hwhole asked
    constructor
    · simp only [answer, mount, call_eq_ok hwhole]
      exact ask_recorded_ok asked
    · intro text htext
      exact passed_eq_encode_iff.2 (hwhole text htext)
  · intro first second hoptions
    rw [data, hoptions, dataWords_append]
    exact ⟨flags_append first second, rfl, rfl⟩
  · intro point answer
    constructor
    · exact ask_recorded_eq_refused_iff.trans
        (Except.map_eq_error_iff.trans unmountTarget_eq_error_iff)
    · intro hwhole asked
      constructor
      · simp only [answer, unmount, unmountTarget_eq_ok hwhole]
        exact ask_recorded_ok asked
      · exact passed_eq_encode_iff.2 hwhole

/-- A busy mount point is reported after one call, and an option with a NUL before any. -/
theorem whole_texts_reach_kernel_of_cut_option :
    let busy : System Unit := fun _ _ => (.error (some 16), ())
    let request : Request := ⟨"/dev/sdb1", "/media/sdb1", "vfat", ["ro", "rw", "uid=1000"]⟩
    let cut : Request := { request with options := ["ro", "uid=1000\x00"] }
    (∀ text ∈ texts request, ¬HasNul text) ∧
      mount busy.recorded request ((), []) = (.error .mountPointBusy, (),
        [.mount ⟨"/dev/sdb1", "/media/sdb1", "vfat", 1, "uid=1000"⟩]) ∧
      passed "uid=1000" = Utf8.encode "uid=1000" ∧
      HasNul (data cut.options) ∧
      mount busy.recorded cut ((), []) = (.error .genericError, (), []) := by
  intro busy request cut
  have hwhole : ∀ text ∈ texts request, ¬HasNul text := by decide +kernel
  have hdata : data request.options = "uid=1000" := by decide +kernel
  have hflags : flags request.options = 1 := by decide +kernel
  have hcut : HasNul (data cut.options) := by decide +kernel
  obtain ⟨hasked, hpassed⟩ := (whole_texts_reach_kernel busy () request).2.2.1 hwhole
  rw [hdata, hflags] at hasked
  refine ⟨hwhole, hasked, hpassed _ ?_, hcut, ?_⟩
  · rw [← hdata]
    simp [texts]
  · exact (whole_texts_reach_kernel busy () cut).1.2 ⟨_, by simp [texts], hcut⟩

end RemovableMedia.Mount.Kernel
