import RemovableMedia.Device.Json
import RemovableMedia.Message

/-!
# Messages in JSON

The JSON forms of descriptions and notifications.  A notification carries a tag named `event`
beside its fields; the subtype and the state of a description are left out when they are absent.
-/

set_option autoImplicit false

namespace RemovableMedia

namespace Description

/-- The fields of a description in JSON. -/
def jsonFields (device : Description) : List (String × Json) :=
  [("parent_path", .text device.parentPath), ("path", .text device.path),
      ("kind", device.kind.toJson)] ++
    (device.subtype.map fun subtype => ("subtype", subtype.toJson)).toList ++
    (device.state.map fun state => ("state", state.toJson)).toList ++
    [("filesystem", .textOrNull device.filesystem), ("label", .textOrNull device.label),
      ("mount", (device.mount.map Mount.Info.toJson).getD .null)]

/-- A description in JSON. -/
def toJson (device : Description) : Json :=
  .record device.jsonFields

/-- The names of the fields of a description. -/
def fieldNames : List String :=
  ["parent_path", "path", "kind", "subtype", "state", "filesystem", "label", "mount"]

/-- The description that a JSON value states. -/
def ofJson? (via : Json.Via) (value : Json) : Option Description :=
  match Json.slots fieldNames value with
  | some [parentPath, path, kind, subtype, state, filesystem, label, mount] => do
    let parentPath ← Json.required Json.asText parentPath
    let path ← Json.required Json.asText path
    let kind ← Json.required (Device.Kind.ofJson? via) kind
    let subtype ← Json.optional (Device.Subtype.ofJson? via) subtype
    let state ← Json.optional (Device.MediaState.ofJson? via) state
    let filesystem ← Json.optional Json.asText filesystem
    let label ← Json.optional Json.asText label
    let mount ← Json.optional Mount.Info.ofJson? mount
    return ⟨parentPath, path, kind, subtype, state, filesystem, label, mount⟩
  | _ => none

/-- A list of descriptions in JSON. -/
def listToJson (devices : List Description) : Json :=
  .array (devices.map toJson)

/-- The list of descriptions that a JSON value states. -/
def listOfJson? : Json → Option (List Description)
  | .array items => items.mapM (ofJson? .direct)
  | _ => none

end Description

namespace Notification

/-- A notification in JSON. -/
def toJson : Notification → Json
  | added device => .record (("event", .text "added") :: device.jsonFields)
  | removed path => .record [("event", .text "removed"), ("path", .text path)]
  | changed device => .record (("event", .text "changed") :: device.jsonFields)
  | mounted path info =>
    .record [("event", .text "mounted"), ("path", .text path), ("mount_point", .text info.point),
      ("options", .text info.options)]
  | unmounted path point =>
    .record [("event", .text "unmounted"), ("path", .text path), ("mount_point", .text point)]

/-- The notification with the given tag and content. -/
def ofContent? (tag : String) (content : Json) : Option Notification :=
  if tag = "added" then (Description.ofJson? .heldBack content).map added
  else if tag = "changed" then (Description.ofJson? .heldBack content).map changed
  else if tag = "removed" then
    match Json.slots ["path"] content with
    | some [path] => (Json.required Json.asText path).map removed
    | _ => none
  else if tag = "mounted" then
    match Json.slots ["path", "mount_point", "options"] content with
    | some [path, point, options] => do
      let path ← Json.required Json.asText path
      let point ← Json.required Json.asText point
      let options ← Json.required Json.asText options
      return .mounted path ⟨point, options⟩
    | _ => none
  else if tag = "unmounted" then
    match Json.slots ["path", "mount_point"] content with
    | some [path, point] => do
      let path ← Json.required Json.asText path
      let point ← Json.required Json.asText point
      return .unmounted path point
    | _ => none
  else none

/-- The notification that a JSON value states. -/
def ofJson? (value : Json) : Option Notification := do
  let (tag, content) ← Json.untag "event" 1 value
  ofContent? tag content

end Notification

end RemovableMedia
