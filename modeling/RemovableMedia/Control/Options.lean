import RemovableMedia.Text.Split

/-!
# Options of a command line

An option begins with a dash.  Long options take their value after an equals sign or from the next
argument, which must not look like an option itself; short ones take none and may be joined.  Two
dashes end the options.  No option may be given twice.
-/

set_option autoImplicit false

namespace RemovableMedia.Control

/-- An option that a command knows. -/
structure Flag where
  name : String
  /-- The letter that stands for the option. -/
  letter : Option Char
  takesValue : Bool
deriving DecidableEq, Repr

/-- What is given on a command line. -/
structure Given where
  /-- The options by their names, with their values. -/
  options : List (String × Option String)
  /-- The arguments that are no options. -/
  words : List String
deriving DecidableEq, Repr

namespace Given

/-- Whether an option is given. -/
def has (given : Given) (name : String) : Bool :=
  given.options.any fun option => option.1 == name

/-- The value of an option. -/
def value? (given : Given) (name : String) : Option String :=
  ((given.options.find? fun option => option.1 == name).map Prod.snd).join

/-- With more options before the others. -/
def withOptions (given : Given) (options : List (String × Option String)) : Given :=
  { given with options := options ++ given.options }

/-- With one more word before the others. -/
def withWord (given : Given) (word : String) : Given :=
  { given with words := word :: given.words }

/-- Whether no option is given twice. -/
def isOnce (given : Given) : Bool :=
  decide (given.options.map Prod.fst).Nodup

end Given

/-- What one argument with a dash says. -/
inductive Dashed where
  | given (options : List (String × Option String))
  /-- The value of the option is the next argument. -/
  | awaiting (name : String)
deriving DecidableEq, Repr

/-- Whether an argument looks like an option. -/
def isDashed (argument : String) : Bool :=
  argument.toList.head? == some '-' && argument != "-"

/-- The option of a name. -/
def flagNamed (flags : List Flag) (name : String) : Option Flag :=
  flags.find? fun flag => flag.name == name

/-- The option without a value for which a letter stands. -/
def flagLettered (flags : List Flag) (letter : Char) : Option Flag :=
  flags.find? fun flag => flag.letter == some letter && !flag.takesValue

/-- What a long option says, given without its dashes. -/
def longOption (flags : List Flag) (body : List Char) : Option Dashed :=
  match Text.splitOnce '=' body with
  | some (name, value) => do
    let flag ← flagNamed flags (String.ofList name)
    if flag.takesValue then some (.given [(flag.name, some (String.ofList value))]) else none
  | none => do
    let flag ← flagNamed flags (String.ofList body)
    some (if flag.takesValue then .awaiting flag.name else .given [(flag.name, none)])

/-- What an argument with a dash says, if it is known. -/
def dashed? (flags : List Flag) (argument : String) : Option Dashed :=
  match argument.toList with
  | '-' :: '-' :: body => longOption flags body
  | '-' :: letters =>
    (letters.mapM (flagLettered flags)).map fun found =>
      .given (found.map fun flag => (flag.name, none))
  | _ => none

/-- Reads options and words.  With `stopsAtWord` everything from the first word on is left as it
is. -/
def scan (flags : List Flag) (stopsAtWord : Bool) : List String → Option Given
  | [] => some ⟨[], []⟩
  | argument :: rest =>
    if argument = "--" then if stopsAtWord then none else some ⟨[], rest⟩
    else if isDashed argument then
      match dashed? flags argument with
      | none => none
      | some (.given options) =>
        (scan flags stopsAtWord rest).map fun given => given.withOptions options
      | some (.awaiting name) =>
        match rest with
        | [] => none
        | value :: rest =>
          if isDashed value then none
          else
            (scan flags stopsAtWord rest).map fun given =>
              given.withOptions [(name, some value)]
    else if stopsAtWord then some ⟨[], argument :: rest⟩
    else (scan flags stopsAtWord rest).map fun given => given.withWord argument

/-- What is given on a command line, if it is well formed. -/
def read? (flags : List Flag) (stopsAtWord : Bool) (arguments : List String) : Option Given :=
  (scan flags stopsAtWord arguments).filter Given.isOnce

end RemovableMedia.Control
