import DataRecipe.Recipe.Instance
import DataRecipe.Text.Unicode.Category
/-!
# References to registers

A text may refer to register `n` as `$Rn`, with one or two digits.  A reference is replaced by
the text of the register when the register is filled.  A backslash before it keeps it as it is;
of an even number of backslashes none does.

Main definitions:

- Definition `Registers`: the texts of the registers that are being filled.
- Definition `Registers.substitute`: a text with its references replaced.
- Definition `Registers.fill`: the steps after a position with their references replaced.
-/

namespace DataRecipe

open Text

/-- The texts of registers with consecutive numbers. -/
structure Registers where
  /-- The number of the first register. -/
  first : Nat
  values : List (List Char)

/-- A decimal digit of any script. -/
def isNumeral (c : Char) : Bool := Unicode.decimalNumber.contains c

/-- A backslash so many times. -/
def backslashes (n : Nat) : List Char := List.replicate n '\\'

/-- A reference as it is written. -/
def referenceText (digits : List Char) : List Char := '$' :: 'R' :: digits

/-- The digits of the reference that a text begins with, if it does. -/
def referenceDigits? : List Char → Option (List Char)
  | '$' :: 'R' :: rest =>
    let digits := (rest.take 2).takeWhile isNumeral
    if digits.isEmpty then none else some digits
  | _ => none

namespace Registers

/-- The text of a register of a number that is written in ASCII digits. -/
def lookup? (r : Registers) (digits : List Char) : Option (List Char) :=
  match Decimal.readNat? Decimal.wordBound digits with
  | some n => if n < r.first then none else r.values[n - r.first]?
  | none => none

/-- What becomes of a reference after so many backslashes. -/
def resolve (r : Registers) (slashes : Nat) (digits : List Char) : List Char :=
  match r.lookup? digits with
  | none => backslashes slashes ++ referenceText digits
  | some value =>
    if slashes % 2 = 1 then backslashes (slashes - 1) ++ referenceText digits
    else backslashes slashes ++ value

/-- A text with its references replaced, where so many backslashes come before it. -/
def substituteAfter (r : Registers) (n : Nat) : List Char → List Char
  | [] => backslashes n
  | c :: cs =>
    if c = '\\' then substituteAfter r (n + 1) cs
    else
      match referenceDigits? (c :: cs) with
      | some ds => r.resolve n ds ++ substituteAfter r 0 (cs.drop (ds.length + 1))
      | none => backslashes n ++ c :: substituteAfter r 0 cs
termination_by cs => cs.length

/-- A text with its references replaced. -/
def substitute (r : Registers) (text : String) : String :=
  String.ofList (r.substituteAfter 0 text.toList)

/-- An argument with its references replaced. -/
def fillArgument (r : Registers) : Argument → Argument
  | .text s => .text (r.substitute s)
  | .toggle s choice => .toggle (r.substitute s) choice
  | .bool b => .bool b
  | .number x => .number x

/-- A step with the references in its arguments replaced, unless it is disabled. -/
def fillStep (r : Registers) (i : Instance) : Instance :=
  if i.disabled then i else { i with args := i.args.map r.fillArgument }

/-- Steps with the references after a position replaced. -/
def fill (r : Registers) (position : Nat) (steps : List Instance) : List Instance :=
  steps.take (position + 1) ++ (steps.drop (position + 1)).map r.fillStep

end Registers
end DataRecipe
