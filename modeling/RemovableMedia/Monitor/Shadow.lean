import RemovableMedia.Device.Event

/-!
# What the monitor knows

Sources repeat themselves and report things out of order.  The monitor remembers which devices it
has announced, and announces only what is news: a device that is not known yet and whose disk is
known if it is a partition, the end of a known device, and a change of a known device that is
still of its kind.
-/

set_option autoImplicit false

namespace RemovableMedia.Monitor

/-- What is remembered of an announced device. -/
structure Known where
  path : String
  kind : Device.Kind
  parent : String
deriving DecidableEq, Repr

/-- What is remembered of a record. -/
def Known.ofRecord (record : Device.Record) : Known :=
  ⟨record.path, record.kind, record.parentPath⟩

/-- The devices that are announced; no two have the same path. -/
abbrev Shadow := List Known

namespace Shadow

/-- What is remembered of the device at a path. -/
def find? (shadow : Shadow) (path : String) : Option Known :=
  List.find? (fun known => known.path == path) shadow

/-- Whether a disk that can have partitions is known at a path. -/
def hasDisk (shadow : Shadow) (path : String) : Bool :=
  match shadow.find? path with
  | some known => known.kind == .stateless
  | none => false

/-- Whether a device may be announced next. -/
def admits (shadow : Shadow) (record : Device.Record) : Bool :=
  (shadow.find? record.path).isNone && (record.isRoot || shadow.hasDisk record.parentPath)

/-- What is remembered after a device is gone: partitions go with their disk. -/
def without (shadow : Shadow) (gone : Known) : Shadow :=
  shadow.filter fun known =>
    known.path != gone.path && (gone.kind == .partition || known.parent != gone.path)

/-- What is remembered after an event, if the event is news. -/
def accept (shadow : Shadow) (event : Device.Event) : Option Shadow :=
  match event.action with
  | .add | .online =>
    if shadow.admits event.record then some (shadow ++ [.ofRecord event.record]) else none
  | .remove | .offline => (shadow.find? event.record.path).map shadow.without
  | .change =>
    match shadow.find? event.record.path with
    | some known => if known.kind = event.record.kind then some shadow else none
    | none => none

/-- The records that are news when each is said to be present, and what is remembered after
that. -/
def admitAll (shadow : Shadow) : List Device.Record → List Device.Record × Shadow
  | [] => ([], shadow)
  | record :: rest =>
    match shadow.accept ⟨.add, record⟩ with
    | some shadow =>
      let (admitted, shadow) := shadow.admitAll rest
      (record :: admitted, shadow)
    | none => shadow.admitAll rest

end Shadow

end RemovableMedia.Monitor
