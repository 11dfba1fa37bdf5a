import DataRecipe.Decimal.Reading
import DataRecipe.Text.Split
/-!
# Options of a command line

An option has a name behind two hyphens, and it may have a letter behind one.  Its value is the
next argument, or stands behind an equals sign, or behind the letter.  After two hyphens alone no
option follows.

The value of an option is looked at when the next option, or the end of the line, is reached; so of
several faults the one found first is told.

Main definitions:

- Definition `OptionSpec`, `Grammar`: what a command takes.
- Definition `UsageError`: why a command line is refused.
- Definition `Scan.read`: reads arguments up to the name of a command.
-/

namespace DataRecipe
namespace Command

open Text

/-! ## Grammars -/

/-- What an option takes. -/
inductive OptionKind where
  | flag
  /-- A flag that may be repeated. -/
  | counted
  | path
  | text
  /-- A text that may be repeated. -/
  | texts
  | number
  | choice (names : List String)
  /-- Asks for help instead of a run. -/
  | help
  /-- Asks for the version instead of a run. -/
  | version
  deriving DecidableEq, Repr

/-- An option. -/
structure OptionSpec where
  name : String
  letter : Option Char := none
  kind : OptionKind
  required : Bool := false
  deriving DecidableEq, Repr

/-- What a command takes: options, one argument without a name, or the name of another command. -/
structure Grammar where
  options : List OptionSpec
  operand : Option OptionSpec := none
  commands : List String := []
  deriving DecidableEq, Repr

/-- Why a command line is refused. -/
inductive UsageError where
  | helpAsked
  | versionAsked
  | nothingGiven
  | unknownArgument
  | unknownCommand
  /-- A value is missing, or it is not among those that can be chosen. -/
  | invalidValue
  /-- A value is no number. -/
  | malformedValue
  /-- A flag has a value. -/
  | surplusValue
  | repeatedOption
  | missingOption
  | missingCommand
  deriving DecidableEq, Repr

namespace OptionKind

/-- Whether an option has a value. -/
def takesValue : OptionKind → Bool
  | path | text | texts | number | choice _ => true
  | _ => false

/-- Whether an option may be repeated. -/
def isRepeatable : OptionKind → Bool
  | counted | texts => true
  | _ => false

/-- Whether an option takes a value. -/
def check (value : String) : OptionKind → Except UsageError Unit
  | path => if value.isEmpty then .error .invalidValue else .ok ()
  | number =>
    if (Decimal.readNat? Decimal.wordBound value.toList).isNone then .error .malformedValue
    else .ok ()
  | choice names => if names.contains value then .ok () else .error .invalidValue
  | _ => .ok ()

end OptionKind

/-! ## Reading -/

/-- What has been read of a line. -/
structure Scan where
  /-- The options with their values, which are empty for flags. -/
  values : List (String × String) := []
  /-- The last option with a value, and the value if it has been reached. -/
  pending : Option (OptionSpec × Option String) := none
  /-- Whether no option can follow. -/
  trailing : Bool := false
  /-- Whether the argument without a name has been reached. -/
  operandGiven : Bool := false
  deriving DecidableEq, Repr

namespace Scan

/-- Whether an option has been given. -/
def has (s : Scan) (name : String) : Bool := s.values.any (·.1 == name)

/-- The values given for an option. -/
def all (s : Scan) (name : String) : List String :=
  s.values.filterMap fun v => if v.1 == name then some v.2 else none

/-- The value given for an option. -/
def value? (s : Scan) (name : String) : Option String := (s.all name).head?

/-- The number given for an option. -/
def number? (s : Scan) (name : String) : Option Nat :=
  (s.value? name).bind fun v => Decimal.readNat? Decimal.wordBound v.toList

/-- Adds an option with its value. -/
def add (s : Scan) (o : OptionSpec) (value : String) : Except UsageError Scan := do
  if !o.kind.isRepeatable && s.has o.name then .error .repeatedOption
  else
    o.kind.check value
    return { s with values := s.values ++ [(o.name, value)] }

/-- Adds the last option with a value. -/
def settle (s : Scan) : Except UsageError Scan :=
  match s.pending with
  | none => .ok s
  | some (_, none) => .error .invalidValue
  | some (o, some value) => ({ s with pending := none } : Scan).add o value

/-- Whether the next argument may be the value of the last option. -/
def awaitsValue (s : Scan) : Bool := s.pending.any (·.2.isNone)

/-- Takes a flag. -/
def takeFlag (s : Scan) (o : OptionSpec) : Except UsageError Scan := do
  let s ← s.settle
  match o.kind with
  | .help => .error .helpAsked
  | .version => .error .versionAsked
  | _ => s.add o ""

/-- Takes an option whose value is still to come. -/
def takeName (s : Scan) (o : OptionSpec) : Except UsageError Scan := do
  return { ← s.settle with pending := some (o, none) }

/-- Takes an option with its value. -/
def takeValue (s : Scan) (o : OptionSpec) (value : String) : Except UsageError Scan := do
  (← s.settle).add o value

/-- Reads an option by its name, behind the hyphens. -/
def readName (g : Grammar) (s : Scan) (cs : List Char) : Except UsageError Scan :=
  let name := String.ofList (cs.takeWhile (· != '='))
  let value := (cs.drop name.length).tail?.map String.ofList
  match g.options.find? (·.name == name) with
  | none => .error .unknownArgument
  | some o =>
    match o.kind.takesValue, value with
    | true, some value => s.takeValue o value
    | true, none => s.takeName o
    | false, some _ => .error .surplusValue
    | false, none => s.takeFlag o

/-- Drops an equals sign. -/
def dropEquals : List Char → List Char
  | '=' :: rest => rest
  | cs => cs

/-- Reads options by their letters, behind the hyphen. -/
def readLetters (g : Grammar) : List Char → Scan → Except UsageError Scan
  | [], s => .ok s
  | c :: rest, s =>
    match g.options.find? (·.letter == some c) with
    | none => .error .unknownArgument
    | some o =>
      if !o.kind.takesValue then (s.takeFlag o).bind (readLetters g rest)
      else if rest.isEmpty then s.takeName o
      else s.takeValue o (String.ofList (dropEquals rest))

/-- Why an argument without a name is refused. -/
def operandError (g : Grammar) (s : Scan) (argument : String) : UsageError :=
  if g.commands.isEmpty || (s.trailing && g.commands.contains argument) then .unknownArgument
  else .unknownCommand

/-- Takes an argument without a name. -/
def takeOperand (g : Grammar) (s : Scan) (argument : String) : Except UsageError Scan :=
  match g.operand with
  | none => .error (operandError g s argument)
  | some o =>
    if s.operandGiven then .error (operandError g s argument)
    else do
      return { ← s.settle with pending := some (o, some argument), operandGiven := true }

/-- Reads one argument. -/
def readArgument (g : Grammar) (s : Scan) (argument : String) : Except UsageError Scan :=
  if s.trailing then s.takeOperand g argument
  else
    match argument.toList with
    | ['-', '-'] => .ok { s with trailing := true }
    | '-' :: '-' :: name => s.readName g name
    | '-' :: c :: letters => readLetters g (c :: letters) s
    | _ =>
      match s.pending with
      | some (o, none) => .ok { s with pending := some (o, some argument) }
      | _ => s.takeOperand g argument

/-- Reads arguments up to the name of a command, which is told with the arguments behind it. -/
def read (g : Grammar) :
    List String → Scan → Except UsageError (Scan × Option (String × List String))
  | [], s => .ok (s, none)
  | argument :: rest, s =>
    if !s.trailing && !s.awaitsValue && g.commands.contains argument then
      .ok (s, some (argument, rest))
    else (s.readArgument g argument).bind (read g rest)

/-- Reads all arguments of a command that names no other command. -/
def readAll (g : Grammar) (arguments : List String) : Except UsageError Scan := do
  let (s, _) ← read g arguments {}
  let s ← s.settle
  if g.options.any fun o => o.required && !s.has o.name then .error .missingOption
  else if g.operand.any fun o => o.required && !s.has o.name then .error .missingOption
  else return s

end Scan
end Command
end DataRecipe
