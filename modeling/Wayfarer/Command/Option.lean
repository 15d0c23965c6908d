/-!
Options on a command line: what an argument looks like, and which options are given with which
values.
-/
namespace Wayfarer.Command

/-- An option of a command. -/
structure Switch where
  long : String
  short : Option Char := none
  /-- Which values it may have, if it takes one. -/
  value : Option (String → Bool) := none

/-- What may stand on the command line behind a name. -/
structure Slots where
  switches : List Switch
  /-- How many arguments there may be that are no options. -/
  places : Nat := 0

/-- Options given, by their long names, each with its value. -/
abbrev Given := List (String × String)

namespace Given

def has (g : Given) (s : Switch) : Bool :=
  g.any (·.1 == s.long)

/-- Options are given at most once. -/
def add (g : Given) (s : Switch) (value : String) : Option Given :=
  if g.has s || s.value.any (fun accepts => !accepts value) then none
  else some (g ++ [(s.long, value)])

def value? (g : Given) (s : Switch) : Option String :=
  (g.find? (·.1 == s.long)).map (·.2)

end Given

/-- How an argument is understood where options may stand. -/
inductive Shape where
  /-- What follows holds no options. -/
  | divider
  | long (name : String) (value : Option String)
  /-- Letters of options, or one letter with a value. -/
  | short (letters : List Char)
  | plain

def shape (arg : String) : Shape :=
  match arg.toList with
  | ['-', '-'] => .divider
  | '-' :: '-' :: rest =>
    match rest.span (· != '=') with
    | (name, []) => .long (String.ofList name) none
    | (name, _ :: value) => .long (String.ofList name) (some (String.ofList value))
  | '-' :: c :: rest => .short (c :: rest)
  | _ => .plain

/-- Arguments that may be the value of the option in front of them. -/
def mayBeValue (arg : String) : Bool :=
  match shape arg with
  | .plain => true
  | _ => false

/-- The value behind the letter of an option; an equals sign may stand between them. -/
def attached : List Char → String
  | '=' :: value => String.ofList value
  | value => String.ofList value

def help : Switch := { long := "help", short := some 'h' }
def version : Switch := { long := "version", short := some 'V' }

/-- Asking for one of these ends the reading. -/
def isLast (s : Switch) : Bool :=
  [help, version].any (·.long == s.long)

/-- Takes the options in a cluster of letters. Answers the option that still lacks its value. -/
def takeLetters (switches : List Switch) : Given → List Char → Option (Given × Option Switch)
  | g, [] => some (g, none)
  | g, c :: rest => do
    let s ← switches.find? (·.short == some c)
    if isLast s then return (← g.add s "", none)
    else if s.value.isNone then takeLetters switches (← g.add s "") rest
    else if rest.isEmpty then return (g, some s)
    else return (← g.add s (attached rest), none)

/-- Takes an option by its long name. Answers the option if it still lacks its value. -/
def takeLong (switches : List Switch) (g : Given) (name : String) (value : Option String) :
    Option (Given × Option Switch) := do
  let s ← switches.find? (·.long == name)
  match s.value, value with
  | none, none => return (← g.add s "", none)
  | none, some _ => none
  | some _, none => return (g, some s)
  | some _, some value => return (← g.add s value, none)

/-- Arguments read so far. -/
structure Reading where
  given : Given := []
  /-- Arguments that are no options, in order. -/
  plain : List String := []
  /-- The option whose value comes next. -/
  pending : Option Switch := none
  /-- No options follow. -/
  divided : Bool := false

namespace Reading

def addPlain (slots : Slots) (r : Reading) (arg : String) : Option Reading :=
  if r.plain.length < slots.places then some { r with plain := r.plain ++ [arg] } else none

/-- An option is given behind which no more is read. -/
def isOver (r : Reading) : Bool :=
  r.given.has help || r.given.has version

/-- Reads one more argument. What is wrong with it is found before what comes behind it is read. -/
def read (slots : Slots) (r : Reading) (arg : String) : Option Reading := do
  if r.isOver then return r
  else if r.divided then r.addPlain slots arg
  else match r.pending with
    | some s =>
      if mayBeValue arg then return { r with given := ← r.given.add s arg, pending := none }
      else none
    | none =>
      match shape arg with
      | .divider => return { r with divided := true }
      | .plain => r.addPlain slots arg
      | .long name value =>
        let (given, pending) ← takeLong slots.switches r.given name value
        return { r with given, pending }
      | .short letters =>
        let (given, pending) ← takeLetters slots.switches r.given letters
        return { r with given, pending }

/-- Reads all arguments. An option must not be left without its value. -/
def readAll (slots : Slots) (args : List String) : Option Reading :=
  (args.foldlM (read slots) {}).filter (·.pending.isNone)

end Reading

end Wayfarer.Command
