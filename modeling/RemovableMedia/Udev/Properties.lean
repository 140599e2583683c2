import RemovableMedia.Text.Split

/-!
# Device properties

What the device manager knows of a device: values under keys.  Of several values for one key the
last one counts.
-/

set_option autoImplicit false

namespace RemovableMedia.Udev

/-- Values under keys, each key once. -/
structure Properties where
  pairs : List (String × String)
deriving DecidableEq, Repr

namespace Properties

/-- No properties at all. -/
def empty : Properties := ⟨[]⟩

/-- The properties with a value put under a key, in place of any other. -/
def insert (props : Properties) (key value : String) : Properties :=
  ⟨props.pairs.filter (fun pair => pair.1 ≠ key) ++ [(key, value)]⟩

/-- The value under a key. -/
def get? (props : Properties) (key : String) : Option String :=
  (props.pairs.find? fun pair => pair.1 == key).map Prod.snd

/-- The properties with pairs put in one after the other. -/
def insertAll (props : Properties) (pairs : List (String × String)) : Properties :=
  pairs.foldl (fun props pair => props.insert pair.1 pair.2) props

/-- The properties that pairs state. -/
def ofPairs (pairs : List (String × String)) : Properties :=
  empty.insertAll pairs

/-- The key and the value that a text states: what stands before and after its first equals
sign. -/
def pairOfText? (text : String) : Option (String × String) :=
  (Text.splitOnce '=' text.toList).map fun parts =>
    (String.ofList parts.1, String.ofList parts.2)

/-- The pairs that texts state; texts without an equals sign state none. -/
def pairsOfTexts (texts : List String) : List (String × String) :=
  texts.filterMap pairOfText?

/-- Whether the value under a key is the given one. -/
def has (props : Properties) (key value : String) : Bool :=
  props.get? key == some value

/-- Whether a flag is set. -/
def flag (props : Properties) (key : String) : Bool :=
  props.has key "1"

/-- The value under a key, unless it is empty. -/
def nonEmpty? (props : Properties) (key : String) : Option String :=
  (props.get? key).filter fun value => value != ""

end Properties

end RemovableMedia.Udev
