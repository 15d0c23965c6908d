import Wayfarer.Command
import Wayfarer.Command.Option

/-!
What a command line asks for.
-/
namespace Wayfarer

/-- What a command line asks for. -/
inductive Request where
  | invoke (i : Invocation)
  | version
  | help
  /-- The line is not well formed. -/
  | misuse
  deriving DecidableEq, Repr

namespace Command

def usage : String :=
  "usage: waywalk [--no-pause] init [--force] | validate | arm WAY [--limit N] [--spot SPOT] | " ++
  "status | run | loop [--max-ticks N]\n"

/-- A number below `2 ^ 32`. It may have a sign, so that zero may be negative. -/
def number? (text : String) : Option Nat :=
  match text.toList with
  | '-' :: digits =>
    match Text.readNumeral Text.wordBound digits with
    | .ok 0 => if digits.head? == some '+' then none else some 0
    | _ => none
  | s =>
    match Text.readNumeral Text.halfWordBound s with
    | .ok n => some n
    | .error _ => none

/-- The value of an option, if it is given and well formed. -/
def optional (read : String → Option α) : Option String → Option (Option α)
  | none => some none
  | some text => (read text).map some

def spot? (text : String) : Option Spot :=
  match Spot.parse text with
  | .ok spot => some spot
  | .error _ => none

def noPause : Switch := { long := "no-pause" }
def force : Switch := { long := "force", short := some 'f' }

def limit : Switch :=
  { long := "limit", short := some 'l', value := some fun text => (number? text).isSome }

def spot : Switch :=
  { long := "spot", short := some 's', value := some fun text => (spot? text).isSome }

def maxTicks : Switch :=
  { long := "max-ticks", value := some fun text => (number? text).isSome }

/-- What may stand in front of the name of a command. -/
def topSlots : Slots :=
  { switches := [noPause, help, version] }

/-- What may stand behind the name of a command. -/
def slots? (name : String) : Option Slots := do
  let (switches, places) ←
    match name with
    | "init" => some ([force], 0)
    | "validate" => some ([], 0)
    | "arm" => some ([limit, spot], 1)
    | "status" => some ([], 0)
    | "run" => some ([], 0)
    | "loop" => some ([maxTicks], 0)
    | _ => none
  return { switches := switches ++ [noPause, help], places }

/-- The command with this name and these arguments. -/
def build (name : String) (r : Reading) : Option Command :=
  match name, r.plain with
  | "init", [] => some (.init (r.given.has force))
  | "validate", [] => some .validate
  | "arm", [way] => do
    let limit ← optional number? (r.given.value? limit)
    let spot ← optional spot? (r.given.value? spot)
    return .arm way limit spot
  | "status", [] => some .status
  | "run", [] => some .run
  | "loop", [] => do return .loop (← optional number? (r.given.value? maxTicks))
  | _, _ => none

end Command

namespace Request

open Command

def versionText : String := "waywalk 0.1.0\n"

/-- Reads the arguments behind the name of a command. -/
def ofCommand (noPause : Bool) (name : String) (args : List String) : Option Request := do
  let r ← Reading.readAll (← slots? name) args
  if r.isOver then return .help
  return .invoke ⟨noPause || r.given.has Command.noPause, ← build name r⟩

/-- Help may be asked for with the name of one command. -/
def ofHelp : List String → Option Request
  | [] => some .help
  | [name] => if name == "help" || (slots? name).isSome then some .help else none
  | _ => none

/-- Reads on where the name of a command is still to come. -/
def read (r : Reading) : List String → Option Request
  | [] => none
  | arg :: rest =>
    match shape arg with
    | .plain =>
      if arg == "help" then ofHelp rest else ofCommand (r.given.has Command.noPause) arg rest
    | .divider => none
    | _ => do
      let r ← r.read topSlots arg
      if r.given.has Command.version then return .version
      else if r.given.has Command.help then return .help
      else read r rest

/-- Understands a command line. -/
def ofArguments (args : List String) : Request :=
  (read {} args).getD .misuse

end Request

end Wayfarer
