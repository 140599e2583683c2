import RemovableMedia.Message.Json
import RemovableMedia.Proofs.Json.Shape

/-!
# Values in JSON

Whatever is written of a value in JSON is read back as the value, in either layout and whatever
texts it has (`shared_types_round_trip`).  The grammar takes care of the layouts.  What is left is
that the reader of each type inverts its writer: fields that are left out and fields that are null
are both read as absent, and the content of a tagged value survives being held back.
-/

set_option autoImplicit false

namespace RemovableMedia

open RemovableMedia.Json (Textual written slots_written untag_written)

/-- What is written of any value of a type is read back as the value, in both layouts. -/
def RoundTrips {α : Type} (toJson : α → Json) (ofJson? : Json → Option α) : Prop :=
  ∀ value, (Json.parse? (toJson value).render).bind ofJson? = some value ∧
    (Json.parse? (toJson value).renderIndented).bind ofJson? = some value

namespace Json

/-- A type round-trips when its values are written without numbers and its reader inverts its
writer. -/
theorem roundTrips_of_textual {α : Type} {toJson : α → Json} {ofJson? : Json → Option α}
    (htextual : ∀ value, (toJson value).Textual)
    (hread : ∀ value, ofJson? (toJson value) = some value) : RoundTrips toJson ofJson? := by
  intro value
  rw [(htextual value).parse?_render, (htextual value).parse?_renderIndented]
  exact ⟨hread value, hread value⟩

/-- A closed set of words round-trips when each word is read back. -/
theorem roundTrips_of_word {α : Type} {word : α → String} {ofWord? : String → Option α}
    (h : ∀ value, ofWord? (word value) = some value) (via : Via) :
    RoundTrips (fun value => .text (word value)) (asWord ofWord? via) :=
  roundTrips_of_textual (fun value => .text (word value)) h

end Json

open RemovableMedia.Json (shallow_text shallow_textOrNull textual_tagged)

/-! ## Devices -/

namespace Device

/-- A kind of device is read back from its value. -/
@[simp]
theorem Kind.ofJson?_toJson (via : Json.Via) (kind : Kind) :
    Kind.ofJson? via kind.toJson = some kind :=
  kind.ofJsonWord?_jsonWord

/-- A subtype is read back from its value. -/
@[simp]
theorem Subtype.ofJson?_toJson (via : Json.Via) (subtype : Subtype) :
    Subtype.ofJson? via subtype.toJson = some subtype :=
  subtype.ofWord?_word

/-- A state of media is read back from its value. -/
@[simp]
theorem MediaState.ofJson?_toJson (via : Json.Via) (state : MediaState) :
    MediaState.ofJson? via state.toJson = some state :=
  state.ofWord?_word

namespace Media

/-- The tag of media. -/
def tag : Media → String
  | .stateless _ => "stateless"
  | .stateful _ _ _ _ => "stateful"
  | .partition _ _ _ => "partition"

/-- The fields of media beside the tag. -/
def entries : Media → List (String × Option Json)
  | .stateless subtype => [("subtype", some subtype.toJson)]
  | .stateful subtype state filesystem label =>
    [("subtype", some subtype.toJson), ("state", some state.toJson),
      ("filesystem", some (.textOrNull filesystem)), ("label", some (.textOrNull label))]
  | .partition parent filesystem label =>
    [("parent", some (.text parent)), ("filesystem", some (.textOrNull filesystem)),
      ("label", some (.textOrNull label))]

/-- What is known of a medium is written as its tag and then its entries. -/
theorem toJson_eq (media : Media) :
    media.toJson = .record (("kind", .text media.tag) :: written media.entries) := by
  cases media <;> rfl

/-- The entries of a medium have different names, and none of them is that of the tag. -/
theorem nodup_entries (media : Media) : ("kind" :: media.entries.map Prod.fst).Nodup := by
  cases media <;> simp [entries]

/-- All that is written of a medium is shallow. -/
theorem shallow_of_mem_written (media : Media) :
    ∀ field ∈ written media.entries, field.2.Shallow := by
  rw [Json.forall_mem_written]
  cases media <;>
    simp [entries, Subtype.toJson, MediaState.toJson, shallow_text, shallow_textOrNull]

/-- The value of a medium holds texts only. -/
theorem textual_toJson (media : Media) : media.toJson.Textual := by
  rw [toJson_eq]
  exact textual_tagged "kind" media.tag media.shallow_of_mem_written

/-- A medium is read from its tag and what is written of its entries. -/
theorem ofContent?_entries (media : Media) :
    ofContent? media.tag (.record (written media.entries)) = some media := by
  have hslots := slots_written media.entries (List.nodup_cons.1 media.nodup_entries).2
  cases media <;>
    simp only [entries, List.map_cons, List.map_nil] at hslots <;>
    simp [ofContent?, tag, entries, hslots]

/-- A medium is read back from its value, at any level that is not too deep. -/
theorem ofJson?_toJson {level : Nat} (h : level < Json.nestingLimit) (media : Media) :
    ofJson? level media.toJson = some media := by
  rw [ofJson?, toJson_eq, untag_written media.tag (List.nodup_cons.1 media.nodup_entries).1 h
    media.shallow_of_mem_written]
  exact media.ofContent?_entries

end Media

namespace Record

/-- The fields of a record. -/
def entries (record : Record) : List (String × Option Json) :=
  [("path", some (.text record.path)), ("media", some record.media.toJson),
    ("platform_tag", record.tag.map .text)]

/-- A record is written as its entries. -/
theorem toJson_eq (record : Record) : record.toJson = .record (written record.entries) := by
  obtain ⟨path, media, tag⟩ := record
  cases tag <;> rfl

/-- The value of a record holds texts only. -/
theorem textual_toJson (record : Record) : record.toJson.Textual := by
  rw [toJson_eq]
  refine .record (Json.forall_mem_written.2 ?_)
  simp [entries, Media.textual_toJson, Textual.text]

/-- A record is read back from its value. -/
theorem ofJson?_toJson (record : Record) : ofJson? record.toJson = some record := by
  have hslots := slots_written record.entries (by simp [entries])
  have hmedia : Media.ofJson? 2 record.media.toJson = some record.media :=
    record.media.ofJson?_toJson (by decide)
  rw [ofJson?, toJson_eq]
  simp only [entries, List.map_cons, List.map_nil] at hslots
  simp [entries, hslots, hmedia]

end Record

end Device

/-! ## Mounts -/

namespace Mount

/-- The value of a mount holds texts only. -/
theorem Info.textual_toJson (info : Info) : info.toJson.Textual := by
  refine .record ?_
  simp [Textual.text]

/-- A mount is read back from its value. -/
@[simp]
theorem Info.ofJson?_toJson (info : Info) : ofJson? info.toJson = some info := by
  have hslots : Json.slots ["mount_point", "options"] info.toJson =
      some [some (.text info.point), some (.text info.options)] :=
    slots_written [("mount_point", some (.text info.point)),
      ("options", some (.text info.options))] (by simp)
  simp [ofJson?, hslots]

/-- The value of a row of the table holds texts only. -/
theorem Entry.textual_toJson (entry : Entry) : entry.toJson.Textual := by
  refine .record ?_
  simp [Textual.text]

/-- A row of the table is read back from its value. -/
theorem Entry.ofJson?_toJson (entry : Entry) : ofJson? entry.toJson = some entry := by
  have hslots : Json.slots ["device", "mount_point", "options"] entry.toJson =
      some [some (.text entry.device), some (.text entry.info.point),
        some (.text entry.info.options)] :=
    slots_written [("device", some (.text entry.device)),
      ("mount_point", some (.text entry.info.point)),
      ("options", some (.text entry.info.options))] (by simp)
  simp [ofJson?, hslots]

end Mount

/-! ## Descriptions and notifications -/

namespace Description

/-- The fields of a description. -/
def entries (device : Description) : List (String × Option Json) :=
  [("parent_path", some (.text device.parentPath)), ("path", some (.text device.path)),
    ("kind", some device.kind.toJson), ("subtype", device.subtype.map Device.Subtype.toJson),
    ("state", device.state.map Device.MediaState.toJson),
    ("filesystem", some (.textOrNull device.filesystem)),
    ("label", some (.textOrNull device.label)),
    ("mount", some ((device.mount.map Mount.Info.toJson).getD .null))]

/-- The fields of a description are what is written of its entries. -/
theorem jsonFields_eq (device : Description) : device.jsonFields = written device.entries := by
  obtain ⟨parentPath, path, kind, subtype, state, filesystem, label, mount⟩ := device
  cases subtype <;> cases state <;> rfl

/-- The value of a mount, or null without one, is shallow. -/
theorem shallow_mount (mount : Option Mount.Info) :
    ((mount.map Mount.Info.toJson).getD .null).Shallow := by
  cases mount with
  | none => exact ⟨.null, Nat.zero_le 1⟩
  | some info => exact ⟨info.textual_toJson, Nat.le_refl 1⟩

/-- All that is written of a description is shallow. -/
theorem shallow_of_mem_written (device : Description) :
    ∀ field ∈ written device.entries, field.2.Shallow := by
  rw [Json.forall_mem_written]
  simp [entries, Device.Kind.toJson, Device.Subtype.toJson, Device.MediaState.toJson, shallow_text,
    shallow_textOrNull, shallow_mount]

/-- The value of a description holds texts only. -/
theorem textual_toJson (device : Description) : device.toJson.Textual := by
  rw [toJson, jsonFields_eq]
  exact .record fun field hmem => (device.shallow_of_mem_written field hmem).textual

/-- A description is read from what is written of its entries. -/
theorem ofJson?_entries (via : Json.Via) (device : Description) :
    ofJson? via (.record (written device.entries)) = some device := by
  have hslots := slots_written device.entries (by simp [entries])
  have hsubtype : Json.optional (Device.Subtype.ofJson? via)
      (device.subtype.map Device.Subtype.toJson) = some device.subtype :=
    Json.optional_map (Device.Subtype.ofJson?_toJson via) nofun device.subtype
  have hstate : Json.optional (Device.MediaState.ofJson? via)
      (device.state.map Device.MediaState.toJson) = some device.state :=
    Json.optional_map (Device.MediaState.ofJson?_toJson via) nofun device.state
  have hmount := Json.optional_getD_null Mount.Info.ofJson?_toJson nofun device.mount
  simp only [entries, List.map_cons, List.map_nil] at hslots
  simp [ofJson?, fieldNames, entries, hslots, hsubtype, hstate, hmount]

/-- A description is read back from its value. -/
theorem ofJson?_toJson (via : Json.Via) (device : Description) :
    ofJson? via device.toJson = some device := by
  rw [toJson, jsonFields_eq]
  exact device.ofJson?_entries via

/-- The value of a list of descriptions holds texts only. -/
theorem textual_listToJson (devices : List Description) : (listToJson devices).Textual := by
  refine .array fun item hmem => ?_
  obtain ⟨device, -, rfl⟩ := List.mem_map.1 hmem
  exact device.textual_toJson

/-- A list of descriptions is read back from its value. -/
theorem listOfJson?_listToJson (devices : List Description) :
    listOfJson? (listToJson devices) = some devices := by
  simp only [listOfJson?, listToJson]
  induction devices with
  | nil => rfl
  | cons first rest ih =>
    rw [List.map_cons, List.mapM_cons, ofJson?_toJson, ih]
    rfl

end Description

namespace Notification

/-- The tag of a notification. -/
def tag : Notification → String
  | added _ => "added"
  | removed _ => "removed"
  | changed _ => "changed"
  | mounted _ _ => "mounted"
  | unmounted _ _ => "unmounted"

/-- The fields of a notification beside the tag. -/
def entries : Notification → List (String × Option Json)
  | added device => device.entries
  | removed path => [("path", some (.text path))]
  | changed device => device.entries
  | mounted path info =>
    [("path", some (.text path)), ("mount_point", some (.text info.point)),
      ("options", some (.text info.options))]
  | unmounted path point => [("path", some (.text path)), ("mount_point", some (.text point))]

/-- A notification is written as its tag and then its entries. -/
theorem toJson_eq (event : Notification) :
    event.toJson = .record (("event", .text event.tag) :: written event.entries) := by
  cases event with
  | added device | changed device =>
    rw [toJson, device.jsonFields_eq]
    rfl
  | removed | mounted | unmounted => rfl

/-- The entries of a notification have different names, and none of them is that of the tag. -/
theorem nodup_entries (event : Notification) :
    ("event" :: event.entries.map Prod.fst).Nodup := by
  cases event <;> simp [entries, Description.entries]

/-- All that is written of a notification is shallow. -/
theorem shallow_of_mem_written (event : Notification) :
    ∀ field ∈ written event.entries, field.2.Shallow := by
  cases event with
  | added device | changed device => exact device.shallow_of_mem_written
  | removed | mounted | unmounted =>
    rw [Json.forall_mem_written]
    simp [entries, shallow_text]

/-- The value of a notification holds texts only. -/
theorem textual_toJson (event : Notification) : event.toJson.Textual := by
  rw [toJson_eq]
  exact textual_tagged "event" event.tag event.shallow_of_mem_written

/-- A notification is read from its tag and what is written of its entries. -/
theorem ofContent?_entries (event : Notification) :
    ofContent? event.tag (.record (written event.entries)) = some event := by
  have hslots := slots_written event.entries (List.nodup_cons.1 event.nodup_entries).2
  cases event with
  | added device | changed device =>
    simp [ofContent?, tag, entries, Description.ofJson?_entries]
  | removed | mounted | unmounted =>
    simp only [entries, List.map_cons, List.map_nil] at hslots
    simp [ofContent?, tag, entries, hslots]

/-- A notification is read back from its value. -/
theorem ofJson?_toJson (event : Notification) : ofJson? event.toJson = some event := by
  rw [ofJson?, toJson_eq, untag_written event.tag (List.nodup_cons.1 event.nodup_entries).1
    (by decide) event.shallow_of_mem_written]
  exact event.ofContent?_entries

end Notification

/-! ## All types -/

/-- Whatever is written in JSON, in the compact or in the indented layout, is read back as the same
value, whatever texts it has and whichever of its fields are absent. -/
theorem shared_types_round_trip :
    RoundTrips Device.Record.toJson Device.Record.ofJson? ∧
    RoundTrips Device.Media.toJson (Device.Media.ofJson? 1) ∧
    RoundTrips Description.toJson (Description.ofJson? .direct) ∧
    RoundTrips Description.listToJson Description.listOfJson? ∧
    RoundTrips Notification.toJson Notification.ofJson? ∧
    RoundTrips Mount.Info.toJson Mount.Info.ofJson? ∧
    RoundTrips Mount.Entry.toJson Mount.Entry.ofJson? ∧
    RoundTrips Device.Action.toJson (Device.Action.ofJson? .direct) ∧
    RoundTrips Device.Kind.toJson (Device.Kind.ofJson? .direct) ∧
    RoundTrips Device.Subtype.toJson (Device.Subtype.ofJson? .direct) ∧
    RoundTrips Device.MediaState.toJson (Device.MediaState.ofJson? .direct) ∧
    RoundTrips ErrorCode.toJson (ErrorCode.ofJson? .direct) := by
  refine ⟨?_, ?_, ?_, ?_, ?_, ?_, ?_, ?_, ?_, ?_, ?_, ?_⟩
  · exact Json.roundTrips_of_textual Device.Record.textual_toJson Device.Record.ofJson?_toJson
  · exact Json.roundTrips_of_textual Device.Media.textual_toJson
      (Device.Media.ofJson?_toJson (by decide))
  · exact Json.roundTrips_of_textual Description.textual_toJson
      (Description.ofJson?_toJson .direct)
  · exact Json.roundTrips_of_textual Description.textual_listToJson
      Description.listOfJson?_listToJson
  · exact Json.roundTrips_of_textual Notification.textual_toJson Notification.ofJson?_toJson
  · exact Json.roundTrips_of_textual Mount.Info.textual_toJson Mount.Info.ofJson?_toJson
  · exact Json.roundTrips_of_textual Mount.Entry.textual_toJson Mount.Entry.ofJson?_toJson
  · exact Json.roundTrips_of_word Device.Action.ofWord?_word .direct
  · exact Json.roundTrips_of_word Device.Kind.ofJsonWord?_jsonWord .direct
  · exact Json.roundTrips_of_word Device.Subtype.ofWord?_word .direct
  · exact Json.roundTrips_of_word Device.MediaState.ofWord?_word .direct
  · exact Json.roundTrips_of_word ErrorCode.ofWord?_word .direct

end RemovableMedia
