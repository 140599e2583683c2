import RemovableMedia.Device.Action
import RemovableMedia.Device.Record
import RemovableMedia.ErrorCode
import RemovableMedia.Json.Shape
import RemovableMedia.Mount.Entry

/-!
# Devices in JSON

The JSON forms of records, media, mounts and the closed word sets.  Media carry a tag named `kind`
beside their fields; the mark of a record is left out when it is absent.  Reading checks the shape
only, not the paths.
-/

set_option autoImplicit false

namespace RemovableMedia

namespace Device

/-- A kind in JSON. -/
def Kind.toJson (kind : Kind) : Json := .text kind.jsonWord

/-- The kind that a JSON value states. -/
def Kind.ofJson? (via : Json.Via) : Json → Option Kind := Json.asWord ofJsonWord? via

/-- A subtype in JSON. -/
def Subtype.toJson (subtype : Subtype) : Json := .text subtype.word

/-- The subtype that a JSON value states. -/
def Subtype.ofJson? (via : Json.Via) : Json → Option Subtype := Json.asWord ofWord? via

/-- A media state in JSON. -/
def MediaState.toJson (state : MediaState) : Json := .text state.word

/-- The media state that a JSON value states. -/
def MediaState.ofJson? (via : Json.Via) : Json → Option MediaState := Json.asWord ofWord? via

/-- An action in JSON. -/
def Action.toJson (action : Action) : Json := .text action.word

/-- The action that a JSON value states. -/
def Action.ofJson? (via : Json.Via) : Json → Option Action := Json.asWord ofWord? via

/-- Media in JSON. -/
def Media.toJson : Media → Json
  | .stateless subtype => .record [("kind", .text "stateless"), ("subtype", subtype.toJson)]
  | .stateful subtype state filesystem label =>
    .record [("kind", .text "stateful"), ("subtype", subtype.toJson), ("state", state.toJson),
      ("filesystem", .textOrNull filesystem), ("label", .textOrNull label)]
  | .partition parent filesystem label =>
    .record [("kind", .text "partition"), ("parent", .text parent),
      ("filesystem", .textOrNull filesystem), ("label", .textOrNull label)]

/-- The media with the given tag and content. -/
def Media.ofContent? (tag : String) (content : Json) : Option Media :=
  if tag = "stateless" then
    match Json.slots ["subtype"] content with
    | some [subtype] => do
      let subtype ← Json.required (Subtype.ofJson? .heldBack) subtype
      return .stateless subtype
    | _ => none
  else if tag = "stateful" then
    match Json.slots ["subtype", "state", "filesystem", "label"] content with
    | some [subtype, state, filesystem, label] => do
      let subtype ← Json.required (Subtype.ofJson? .heldBack) subtype
      let state ← Json.required (MediaState.ofJson? .heldBack) state
      let filesystem ← Json.optional Json.asText filesystem
      let label ← Json.optional Json.asText label
      return .stateful subtype state filesystem label
    | _ => none
  else if tag = "partition" then
    match Json.slots ["parent", "filesystem", "label"] content with
    | some [parent, filesystem, label] => do
      let parent ← Json.required Json.asText parent
      let filesystem ← Json.optional Json.asText filesystem
      let label ← Json.optional Json.asText label
      return .partition parent filesystem label
    | _ => none
  else none

/-- The media that a JSON value inside `level - 1` other containers states. -/
def Media.ofJson? (level : Nat) (value : Json) : Option Media := do
  let (tag, content) ← Json.untag "kind" level value
  ofContent? tag content

/-- A record in JSON. -/
def Record.toJson (record : Record) : Json :=
  .record ([("path", .text record.path), ("media", record.media.toJson)] ++
    (record.tag.map fun tag => ("platform_tag", Json.text tag)).toList)

/-- The record that a JSON value states. -/
def Record.ofJson? (value : Json) : Option Record :=
  match Json.slots ["path", "media", "platform_tag"] value with
  | some [path, media, tag] => do
    let path ← Json.required Json.asText path
    let media ← Json.required (Media.ofJson? 2) media
    let tag ← Json.optional Json.asText tag
    return ⟨path, media, tag⟩
  | _ => none

end Device

namespace Mount

/-- A mount in JSON. -/
def Info.toJson (info : Info) : Json :=
  .record [("mount_point", .text info.point), ("options", .text info.options)]

/-- The mount that a JSON value states. -/
def Info.ofJson? (value : Json) : Option Info :=
  match Json.slots ["mount_point", "options"] value with
  | some [point, options] => do
    let point ← Json.required Json.asText point
    let options ← Json.required Json.asText options
    return ⟨point, options⟩
  | _ => none

/-- A row of the mount table in JSON. -/
def Entry.toJson (entry : Entry) : Json :=
  .record [("device", .text entry.device), ("mount_point", .text entry.info.point),
    ("options", .text entry.info.options)]

/-- The row of the mount table that a JSON value states. -/
def Entry.ofJson? (value : Json) : Option Entry :=
  match Json.slots ["device", "mount_point", "options"] value with
  | some [device, point, options] => do
    let device ← Json.required Json.asText device
    let point ← Json.required Json.asText point
    let options ← Json.required Json.asText options
    return ⟨device, ⟨point, options⟩⟩
  | _ => none

end Mount

/-- An error code in JSON. -/
def ErrorCode.toJson (code : ErrorCode) : Json := .text code.word

/-- The error code that a JSON value states. -/
def ErrorCode.ofJson? (via : Json.Via) : Json → Option ErrorCode := Json.asWord ofWord? via

end RemovableMedia
