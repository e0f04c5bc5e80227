/-!
# Option grammars

Reading a list of arguments against a grammar of options with one optional
positional argument and, possibly, subcommands. An option takes its value after
an equals sign, directly after its letter, or from the next argument; a lone
`--` ends the options. A value is examined only when something else follows it,
so of two faults the one that is met first in this sense is reported.
-/
namespace RecordGateway.CommandLine

inductive UsageError where
  | displayHelp
  | displayHelpOnMissing
  | unknownArgument
  | invalidSubcommand
  | missingSubcommand
  | missingRequiredArgument
  | invalidValue
  | argumentConflict
  | tooManyValues
deriving DecidableEq

def UsageError.text : UsageError → String
  | displayHelp => "DisplayHelp"
  | displayHelpOnMissing => "DisplayHelpOnMissingArgumentOrSubcommand"
  | unknownArgument => "UnknownArgument"
  | invalidSubcommand => "InvalidSubcommand"
  | missingSubcommand => "MissingSubcommand"
  | missingRequiredArgument => "MissingRequiredArgument"
  | invalidValue => "InvalidValue"
  | argumentConflict => "ArgumentConflict"
  | tooManyValues => "TooManyValues"

/-- One option. Every grammar also has `--help` and `-h`. -/
structure OptionRule where
  long : String
  letter : Option Char := none
  takesValue : Bool := true
  repeatable : Bool := false
  filled : Bool := false
deriving DecidableEq

structure Grammar where
  options : List OptionRule
  positional : Bool := false
  subcommands : List String := []

/-- What has been read: the options with their values in order, the positional argument, and an
option whose value has not been examined, or not even been seen. -/
structure Reading where
  found : List (String × String) := []
  positional : Option String := none
  pending : Option (OptionRule × Option String) := none

namespace Reading

def enter (r : Reading) (rule : OptionRule) (value : String) : Except UsageError Reading :=
  if !rule.repeatable && r.found.any fun f => f.1 == rule.long then .error .argumentConflict
  else if rule.filled && value.isEmpty then .error .invalidValue
  else .ok { r with found := r.found ++ [(rule.long, value)] }

def settle (r : Reading) : Except UsageError Reading :=
  match r.pending with
  | none => .ok r
  | some (_, none) => .error .invalidValue
  | some (rule, some value) => { r with pending := none }.enter rule value

def awaits (r : Reading) : Bool :=
  match r.pending with
  | some (_, none) => true
  | _ => false

def supply (r : Reading) (value : String) : Reading :=
  { r with pending := r.pending.map fun p => (p.1, some value) }

def takeOption (r : Reading) (rule : OptionRule) (attached : Option String) :
    Except UsageError Reading :=
  match rule.takesValue, attached with
  | true, none => r.settle.map fun r => { r with pending := some (rule, none) }
  | _, value => r.settle.bind fun r => r.enter rule (value.getD "")

/-- Asking for help counts only when no value is amiss before it. -/
def help (r : Reading) : Except UsageError Reading :=
  match r.settle with
  | .ok _ => .error .displayHelp
  | .error e => .error e

def value? (r : Reading) (long : String) : Option String :=
  (r.found.find? fun f => f.1 == long).map Prod.snd

def values (r : Reading) (long : String) : List String :=
  (r.found.filter fun f => f.1 == long).map Prod.snd

end Reading

def readLong (g : Grammar) (r : Reading) (body : List Char) : Except UsageError Reading :=
  let name := String.ofList (body.takeWhile (· != '='))
  let attached := match body.dropWhile (· != '=') with
    | [] => none
    | _ :: value => some (String.ofList value)
  match g.options.find? fun rule => rule.long == name with
  | some rule =>
    if !rule.takesValue && attached.isSome then .error .tooManyValues
    else r.takeOption rule attached
  | none =>
    if name = "help" then if attached.isSome then .error .tooManyValues else r.help
    else .error .unknownArgument

/-- The letters after one hyphen. A letter that takes a value takes all that follows it. -/
def readLetters (g : Grammar) (r : Reading) : List Char → Except UsageError Reading
  | [] => .ok r
  | c :: rest =>
    match g.options.find? fun rule => rule.letter == some c with
    | some rule =>
      if rule.takesValue then
        r.takeOption rule (match rest with
          | [] => none
          | '=' :: value => some (String.ofList value)
          | value => some (String.ofList value))
      else (r.takeOption rule none).bind fun r => readLetters g r rest
    | none => if c = 'h' then r.help else .error .unknownArgument

def readPlain (g : Grammar) (r : Reading) (afterMark : Bool) (arg : String) :
    Except UsageError Reading :=
  if g.positional && r.positional.isNone then
    r.settle.map fun r => { r with positional := some arg }
  else if g.subcommands.isEmpty || (afterMark && g.subcommands.contains arg) then
    .error .unknownArgument
  else .error .invalidSubcommand

/-- Read arguments up to a subcommand, which is given with what follows it. -/
def readLevel (g : Grammar) : Bool → Reading → List String →
    Except UsageError (Reading × Option (String × List String))
  | _, r, [] => .ok (r, none)
  | true, r, arg :: rest =>
    match readPlain g r true arg with
    | .ok r => readLevel g true r rest
    | .error e => .error e
  | false, r, arg :: rest =>
    if !r.awaits && g.subcommands.contains arg then .ok (r, some (arg, rest))
    else
      let next : Except UsageError (Bool × Reading) := match arg.toList with
        | ['-', '-'] => .ok (true, r)
        | '-' :: '-' :: body => (readLong g r body).map fun r => (false, r)
        | '-' :: c :: body => (readLetters g r (c :: body)).map fun r => (false, r)
        | _ =>
          if r.awaits then .ok (false, r.supply arg)
          else (readPlain g r false arg).map fun r => (false, r)
      match next with
      | .ok (mark, r) => readLevel g mark r rest
      | .error e => .error e

end RecordGateway.CommandLine
