import RemovableMedia.Config.Reader
import RemovableMedia.Proofs.Mount.Decision
import RemovableMedia.Proofs.Mount.Host

/-!
# The options of a mount without options

A configuration states, for each file system, which options are used when a client asks for nothing.
Before it is accepted, the key of every one of them is looked up among those that a client may use
(`checked_eq_ok_iff`).  They are handed over as one text, with commas between them
(`optionsText_of_mount_noted`), and that text is cut at the commas again by whoever reads it.  So what
counts are the words of the default options, and not the default options themselves
(`splitString_intercalate_eq_flatMap`).  They are the same where no default option has a comma
(`default_words_whitelisted_iff`); a default option with a comma brings in words that no client may
use (`second_word_is_not_looked_up`).
-/

set_option autoImplicit false

namespace RemovableMedia

open RemovableMedia.Mount

variable {σ : Type}

namespace Mount

/-- A file system that is found under a name is listed under this name. -/
theorem Filesystems.mem_of_get? {filesystems : Filesystems} {name : String} {filesystem : Filesystem}
    (h : filesystems.get? name = some filesystem) : (name, filesystem) ∈ filesystems := by
  obtain ⟨⟨found, other⟩, hfind, rfl⟩ := Option.map_eq_some_iff.1 h
  have hname : found = name := by simpa using List.find?_some hfind
  rw [← hname]
  exact List.mem_of_find?_eq_some hfind

/-- Without options of a client, a mount that is granted has the default options of its file system.
-/
theorem Grants.options_eq_defaults {filesystems : Filesystems} {tree : Tree} {path : String}
    {decided : Plan} {filesystem : Filesystem} (h : Grants filesystems tree path none decided)
    (hlisted : filesystems.get? decided.filesystem = some filesystem) :
    decided.options = filesystem.defaults := by
  cases h with
  | intro hget hmountable hname hfound hmount hoptions =>
    cases hfound.symm.trans hlisted
    cases hoptions
    rfl

/-- An orchestrator that is asked for a mount without options gets the defaults, with commas between
them. -/
theorem Host.optionsText_of_mount_noted {orchestrator : Orchestrator σ} {config : Config}
    {host : Host σ} {device : String} {request : Request} {answer : Except ErrorCode Unit}
    {filesystem : Filesystem}
    (h : (.mount request, answer) ∈
      (host.noted.mount orchestrator.noting config device none).2.mounts.notes)
    (hlisted : config.filesystems.get? request.filesystem = some filesystem) :
    request.optionsText = ",".intercalate filesystem.defaults := by
  obtain ⟨decided, hgrants, hcall⟩ := granted_of_mount_noted h
  cases hcall
  exact congrArg ",".intercalate (hgrants.options_eq_defaults hlisted)

end Mount

namespace Config

/-- A configuration is accepted as it is, exactly if the keys of all default options are allowed. -/
theorem checked_eq_ok_iff {config accepted : Config} :
    config.checked = .ok accepted ↔ accepted = config ∧
      ∀ entry ∈ config.filesystems, ∀ option ∈ entry.2.defaults,
        optionKey option ∈ entry.2.allowed := by
  have hnone : forbiddenDefault? config.filesystems = none ↔
      ∀ entry ∈ config.filesystems, ∀ option ∈ entry.2.defaults,
        optionKey option ∈ entry.2.allowed := by
    simp [forbiddenDefault?, ← Filesystem.allows_iff]
  rw [← hnone, checked]
  cases forbiddenDefault? config.filesystems with
  | none => simp [eq_comm]
  | some found => simp

/-- In a configuration that is read, each default option has a key that is allowed. -/
theorem keys_allowed_of_parse {path text name : String} {config : Config} {filesystem : Filesystem}
    (hparse : parse path text = .ok config)
    (hlisted : config.filesystems.get? name = some filesystem) :
    ∀ option ∈ filesystem.defaults, optionKey option ∈ filesystem.allowed := by
  unfold parse at hparse
  cases hstated : (Toml.parse? text).bind ofFields with
  | none => simp [hstated] at hparse
  | some stated =>
    rw [hstated] at hparse
    obtain ⟨rfl, hkeys⟩ := checked_eq_ok_iff.1 hparse
    exact hkeys (name, filesystem) (Filesystems.mem_of_get? hlisted)

/-- The keys of the default options in an accepted configuration are all allowed, and a mount without
options hands over the default options with commas between them.  If there are any, a client may ask
for that text exactly if all its words are on the whitelist, and they are exactly if all words of each
default option are.  This is so if each default option is a word in itself: if it is not empty and has
neither commas nor blanks. -/
theorem default_words_whitelisted_iff (orchestrator : Orchestrator σ) {path text name : String}
    {config : Config} {filesystem : Filesystem} (hparse : parse path text = .ok config)
    (hlisted : config.filesystems.get? name = some filesystem) :
    let joined := ",".intercalate filesystem.defaults
    let whitelisted := ∀ word ∈ Text.splitString ',' joined, Whitelisted filesystem.allowed word
    (∀ (host : Host σ) (device : String) (request : Request) (answer : Except ErrorCode Unit),
      (.mount request, answer) ∈
        (host.noted.mount orchestrator.noting config device none).2.mounts.notes →
      request.filesystem = name → request.optionsText = joined) ∧
    (∀ option ∈ filesystem.defaults, optionKey option ∈ filesystem.allowed) ∧
    (filesystem.defaults ≠ [] →
      ((∃ resolved, filesystem.resolve (some joined) = .ok resolved) ↔ whitelisted) ∧
      (whitelisted ↔ ∀ option ∈ filesystem.defaults, ∀ word ∈ Text.splitString ',' option,
        Whitelisted filesystem.allowed word) ∧
      ((∀ option ∈ filesystem.defaults,
        option ≠ "" ∧ ∀ c ∈ option.toList, c ≠ ',' ∧ Text.isBlank c = false) → whitelisted)) := by
  intro joined whitelisted
  have hkeys := keys_allowed_of_parse hparse hlisted
  refine ⟨?_, hkeys, fun hne => ?_⟩
  · rintro host device request answer hnoted rfl
    exact Host.optionsText_of_mount_noted hnoted hlisted
  · have hwords : Text.splitString ',' joined =
        filesystem.defaults.flatMap (Text.splitString ',') :=
      Text.splitString_intercalate_eq_flatMap (by decide) hne
    have hiff : whitelisted ↔ ∀ option ∈ filesystem.defaults,
        ∀ word ∈ Text.splitString ',' option, Whitelisted filesystem.allowed word := by
      simp only [whitelisted, hwords, List.mem_flatMap]
      exact ⟨fun h option hoption word hword => h word ⟨option, hoption, hword⟩,
        fun h word ⟨option, hoption, hword⟩ => h option hoption word hword⟩
    refine ⟨?_, hiff, fun hplain => hiff.2 fun option hoption word hword => ?_⟩
    · simp only [Filesystem.resolve_eq_ok_iff, exists_and_right, exists_eq, true_and, whitelisted]
    · obtain ⟨hnonempty, hchars⟩ := hplain option hoption
      have hcomma : ',' ∉ option.toList := fun hmem => (hchars ',' hmem).1 rfl
      rw [Text.splitString_of_not_mem hcomma, List.mem_singleton] at hword
      subst hword
      exact ⟨hnonempty, fun c hc => (hchars c hc).2, hkeys word hoption⟩

/-- Two default options, one of them with a value, that a client may ask for as they are handed over. -/
theorem default_words_whitelisted_iff_of_vfat :
    let text := "[filesystems.vfat]\ndefault_options = [\"uid=1000\", \"ro\"]\n" ++
      "allowed_options = [\"uid\", \"ro\"]\n"
    let vfat : Filesystem := ⟨["uid=1000", "ro"], ["uid", "ro"]⟩
    let config := { standard with filesystems := [("vfat", vfat)] }
    let request : Request := ⟨"/dev/sdb1", "/media/sdb1", "vfat", ["uid=1000", "ro"]⟩
    let host : Host Rehearsal := ⟨.plugged, .empty, .start true⟩
    parse "mediad.toml" text = .ok config ∧ config.filesystems.get? "vfat" = some vfat ∧
      (host.noted.mount Rehearsal.orchestrator.noting config "/dev/sdb1" none).2.mounts.notes =
        [(.mount request, .ok ())] ∧
      request.optionsText = "uid=1000,ro" ∧
      (∀ word ∈ Text.splitString ',' "uid=1000,ro", Whitelisted vfat.allowed word) ∧
      ∃ resolved, vfat.resolve (some "uid=1000,ro") = .ok resolved := by
  intro text vfat config request host
  have hparse : parse "mediad.toml" text = .ok config := by decide +kernel
  have hlisted : config.filesystems.get? "vfat" = some vfat := by decide +kernel
  have hnotes : (host.noted.mount Rehearsal.orchestrator.noting config "/dev/sdb1"
      none).2.mounts.notes = [(.mount request, .ok ())] := by
    decide +kernel
  have hjoined : ",".intercalate vfat.defaults = "uid=1000,ro" := by decide +kernel
  have hchars : ∀ option ∈ vfat.defaults, option ≠ "" ∧
      (option.toList.all fun c => c ≠ ',' ∧ Text.isBlank c = false) = true := by
    decide +kernel
  obtain ⟨hhanded, -, hnonempty⟩ :=
    default_words_whitelisted_iff Rehearsal.orchestrator hparse hlisted
  obtain ⟨hask, -, hplain⟩ := hnonempty (by decide)
  rw [hjoined] at hhanded hask hplain
  have hwords := hplain fun option hoption =>
    ⟨(hchars option hoption).1, by simpa using (hchars option hoption).2⟩
  refine ⟨hparse, hlisted, hnotes, ?_, hwords, hask.2 hwords⟩
  exact hhanded host "/dev/sdb1" request (.ok ()) (by rw [hnotes]; exact List.mem_singleton_self _) rfl

/-- A default option with a comma.  Its key is that of its first word, which is allowed, so the
configuration is accepted; its second word is handed over all the same, though no client may use it. -/
theorem second_word_is_not_looked_up :
    let text := "[filesystems.vfat]\ndefault_options = [\"uid=0,exec\"]\n" ++
      "allowed_options = [\"uid\"]\n"
    let vfat : Filesystem := ⟨["uid=0,exec"], ["uid"]⟩
    let config := { standard with filesystems := [("vfat", vfat)] }
    let request : Request := ⟨"/dev/sdb1", "/media/sdb1", "vfat", ["uid=0,exec"]⟩
    let host : Host Rehearsal := ⟨.plugged, .empty, .start true⟩
    parse "mediad.toml" text = .ok config ∧ config.filesystems.get? "vfat" = some vfat ∧
      (host.noted.mount Rehearsal.orchestrator.noting config "/dev/sdb1" none).2.mounts.notes =
        [(.mount request, .ok ())] ∧
      request.optionsText = "uid=0,exec" ∧
      "exec" ∈ Text.splitString ',' request.optionsText ∧ optionKey "exec" ∉ vfat.allowed ∧
      vfat.resolve (some request.optionsText) = .error .failedParsingMountOptions := by
  intro text vfat config request host
  exact ⟨by decide +kernel, by decide +kernel, by decide +kernel, by decide +kernel,
    by decide +kernel, by decide +kernel, by decide +kernel⟩

end Config

end RemovableMedia
