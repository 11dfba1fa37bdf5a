import DataRecipe.Config.Basic
import DataRecipe.Text.Split
import DataRecipe.Text.Unicode.Case
/-!
# Filters of log messages

Rules separated by commas.  A rule is a level, or the name of a target with a level, which is
`trace` where it is left out.  A target may be followed by the name of a span in square brackets.
The more specific rules come first, and a rule replaces an earlier one for the same target.

Main definitions:

- Definition `LogRule`: one rule.
- Definition `LogRule.readAll?`: the rules that a text spells.
- Definition `logFilter`: the filter for a verbosity.
-/

namespace DataRecipe

open Text Unicode

/-! ## Levels and rules -/

/-- The least severe messages that are logged. -/
inductive LogLevel where
  | off
  | error
  | warn
  | info
  | debug
  | trace
  deriving DecidableEq, Repr

namespace LogLevel

/-- The levels, each at the place of its number. -/
def all : List LogLevel := [.off, .error, .warn, .info, .debug, .trace]

/-- The name of a level. -/
def name : LogLevel → String
  | .off => "off"
  | .error => "error"
  | .warn => "warn"
  | .info => "info"
  | .debug => "debug"
  | .trace => "trace"

/-- The level with a name, in any case, or with a number. -/
def read? (cs : List Char) : Option LogLevel :=
  match Decimal.readNat? Decimal.wordBound cs with
  | some n => all[n]?
  | none => all.find? fun l => l.name == asciiLowered (String.ofList cs)

/-- The level that is meant where one may be left out. -/
def readOrTrace? (cs : List Char) : Option LogLevel := if cs.isEmpty then some .trace else read? cs

end LogLevel

/-- A level for the messages of a target and of a span, or for all others. -/
structure LogRule where
  target : Option String := none
  span : Option String := none
  level : LogLevel
  deriving DecidableEq, Repr

namespace LogRule

/-! ## Reading -/

/-- A character that a rule may begin with. -/
def isStart (c : Char) : Bool := c == '-' || c == ':' || c == '_' || c == '[' || isAlphanumeric c

/-- The level behind an equals sign, which may be left out. -/
def levelBehind? : List Char → Option LogLevel
  | [] => some .trace
  | '=' :: level => LogLevel.readOrTrace? level
  | _ => none

/-- The rule for a target and the rest behind it. -/
def ofParts? (target rest : List Char) : Option LogRule :=
  let name := if target.isEmpty then none else some (String.ofList target)
  match rest with
  | [] =>
    match LogLevel.read? target with
    | some level => some { level := level }
    | none => some { target := name, level := .trace }
  | '[' :: rest => do
    let span := rest.takeWhile fun c => c != ']' && c != '\x7b'
    let level ← levelBehind? (← (rest.drop span.length).tail?)
    if (rest.drop span.length).head? == some ']' then
      some { target := name, span := some (String.ofList span), level := level }
    else none
  | rest => (levelBehind? rest).map fun level => { target := name, level := level }

/-- The rule that a text spells. -/
def read? (text : List Char) : Option LogRule :=
  let cs := trim text
  match cs with
  | [] => none
  | c :: _ =>
    if !isStart c then none
    else
      let target := cs.takeWhile fun c => c != '=' && c != '['
      ofParts? target (cs.drop target.length)

/-! ## Order -/

/-- Whether a text comes before another where longer ones come first, and missing ones last. -/
def textOrder (a b : Option String) : Ordering :=
  let size (s : Option String) : Nat := s.elim 0 fun s => s.utf8ByteSize + 1
  (compare (size b) (size a)).then (compare (b.getD "") (a.getD ""))

/-- The order of rules, the more specific ones first. -/
def order (a b : LogRule) : Ordering :=
  (textOrder a.target b.target).then (compare (b.span.getD "") (a.span.getD ""))

/-- Adds a rule at its place, or replaces the rule for the same target. -/
def insert (r : LogRule) : List LogRule → List LogRule
  | [] => [r]
  | x :: xs =>
    match order r x with
    | .lt => r :: x :: xs
    | .eq => r :: xs
    | .gt => x :: insert r xs

/-- Rules in their order, those for spans last. -/
def arrange (rules : List LogRule) : List LogRule :=
  let sorted (rs : List LogRule) := rs.foldl (fun sorted r => insert r sorted) []
  sorted (rules.filter (·.span.isNone)) ++ sorted (rules.filter (·.span.isSome))

/-- The rules that a text spells.  A text without rules turns logging off. -/
def readAll? (text : String) : Option (List LogRule) := do
  let pieces := (splitWhere (· == ',') text.toList).filter (!·.isEmpty)
  let rules ← pieces.mapM read?
  return if rules.isEmpty then [{ level := .off }] else arrange rules

/-! ## Writing -/

/-- The text of a rule. -/
def text (r : LogRule) : String :=
  let lead := r.target.getD "" ++ (r.span.elim "" fun s => "[" ++ s ++ "]")
  if lead.isEmpty then r.level.name else lead ++ "=" ++ r.level.name

end LogRule

/-! ## Filters -/

/-- The filter for a verbosity, which overrides the configured one unless it is zero.  A malformed
filter is replaced by the level `warn`. -/
def logFilter (verbosity : Nat) (configured : String) : List LogRule :=
  let text := match verbosity with
    | 0 => configured
    | 1 => "info"
    | 2 => "debug"
    | _ => "trace"
  (LogRule.readAll? text).getD [{ level := .warn }]

/-- The text of a filter. -/
def filterText (rules : List LogRule) : String := joined "," (rules.map LogRule.text)

end DataRecipe
