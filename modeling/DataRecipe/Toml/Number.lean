import DataRecipe.Toml.Quoted
import DataRecipe.Decimal.Reading
import DataRecipe.Document.Node
/-!
# Numbers and dates in a TOML document

Digits may be grouped by single underscores.  A whole number may be written in base 16, 8, or 2,
and fits into a signed word.  A date, a time, or both denote a map with one text.

Main definitions:

- Definition `readInt?`: a whole number.
- Definition `readFloat?`: a number with a fraction or an exponent, an infinity, or no number.
- Definition `readDateTime?`: a date, a time, or both.
-/

namespace DataRecipe
namespace Toml

open Text Document

/-! ## Digits -/

/-- Digits behind the first one, which may be grouped. -/
def takeGrouped (isDigitOf : Char → Bool) : List Char → List Char × List Char
  | '_' :: c :: rest =>
    if isDigitOf c then
      let (ds, rest) := takeGrouped isDigitOf rest
      (c :: ds, rest)
    else ([], '_' :: c :: rest)
  | c :: rest =>
    if isDigitOf c then
      let (ds, rest) := takeGrouped isDigitOf rest
      (c :: ds, rest)
    else ([], c :: rest)
  | [] => ([], [])

/-- Digits, of which there is at least one. -/
def readDigits? (isDigitOf : Char → Bool) : List Char → Option (List Char × List Char)
  | c :: rest =>
    if isDigitOf c then
      let (ds, rest) := takeGrouped isDigitOf rest
      some (c :: ds, rest)
    else none
  | [] => none

/-- Digits in base ten, which do not begin with a zero unless that is all. -/
def readDecimal? : List Char → Option (List Char × List Char)
  | '0' :: rest => some (['0'], rest)
  | cs => readDigits? isDigit cs

/-! ## Whole numbers -/

/-- A digit of a base. -/
def isDigitOfBase (base : Nat) (c : Char) : Bool := (hexValue? c).any (· < base)

/-- A whole number, if it fits into a signed word. -/
def inWord? (n : Int) : Option Node :=
  if -Int.ofNat (Nat.pow 2 63) ≤ n && n < Int.ofNat (Nat.pow 2 63) then some (.int n) else none

/-- A whole number in a base, behind the letter of the base. -/
def readInBase? (base : Nat) (cs : List Char) : Option (Node × List Char) := do
  let (ds, rest) ← readDigits? (isDigitOfBase base) cs
  let node ← inWord? (ofDigits base (ds.filterMap hexValue?))
  return (node, rest)

/-- A whole number. -/
def readInt? : List Char → Option (Node × List Char)
  | '0' :: 'x' :: rest => readInBase? 16 rest
  | '0' :: 'o' :: rest => readInBase? 8 rest
  | '0' :: 'b' :: rest => readInBase? 2 rest
  | cs => do
    let (negative, cs) := Decimal.takeSign cs
    let (ds, rest) ← readDecimal? cs
    let n : Int := Decimal.digitsValue ds
    let node ← inWord? (if negative then -n else n)
    return (node, rest)

/-! ## Other numbers -/

/-- A fraction behind its point, if there is one. -/
def readFraction? : List Char → Option (Option (List Char) × List Char)
  | '.' :: rest => (readDigits? isDigit rest).map fun (ds, rest) => (some ds, rest)
  | cs => some (none, cs)

/-- An exponent behind its letter, if there is one. -/
def readExponent? : List Char → Option (Option Int × List Char)
  | c :: rest =>
    if c == 'e' || c == 'E' then do
      let (negative, rest) := Decimal.takeSign rest
      let (ds, rest) ← readDigits? isDigit rest
      let n : Int := Decimal.digitsValue ds
      return (some (if negative then -n else n), rest)
    else some (none, c :: rest)
  | [] => some (none, [])

/-- A number with a fraction or an exponent.  It must not be so large that it is rounded to
positive infinity. -/
def readFinite? (cs : List Char) : Option (Node × List Char) := do
  let (negative, cs) := Decimal.takeSign cs
  let (whole, rest) ← readDecimal? cs
  let (fraction, rest) ← readFraction? rest
  let (exponent, rest) ← readExponent? rest
  if fraction.isNone && exponent.isNone then none
  else
    let part := fraction.getD []
    let value := Decimal.ofDecimal (Decimal.digitsValue (whole ++ part))
      (exponent.getD 0 - part.length)
    if value.isInf && !negative then none
    else return (.float (Decimal.withSign negative value), rest)

/-- An infinity, or no number. -/
def readSpecial? (cs : List Char) : Option (Node × List Char) :=
  let (negative, cs) := Decimal.takeSign cs
  match cs with
  | 'i' :: 'n' :: 'f' :: rest => some (.float (Decimal.withSign negative Decimal.infinity), rest)
  | 'n' :: 'a' :: 'n' :: rest => some (.float (Decimal.withSign negative Decimal.notANumber), rest)
  | _ => none

/-- A number that is not written as a whole number. -/
def readFloat? (cs : List Char) : Option (Node × List Char) :=
  (readFinite? cs).orElse fun _ => readSpecial? cs

/-! ## Dates and times -/

/-- A number of exactly so many digits that is in a range. -/
def readField? (digits low high : Nat) (cs : List Char) : Option (Nat × List Char) :=
  let ds := cs.take digits
  let n := Decimal.digitsValue ds
  if ds.length = digits && ds.all isDigit && low ≤ n && n ≤ high then some (n, cs.drop digits)
  else none

/-- The rest behind a character. -/
def readChar? (c : Char) : List Char → Option (List Char)
  | x :: rest => if x == c then some rest else none
  | [] => none

/-- The number of days of a month. -/
def daysOf (year month : Nat) : Nat :=
  if month = 2 then
    if year % 4 = 0 && (year % 100 != 0 || year % 400 = 0) then 29 else 28
  else if [4, 6, 9, 11].contains month then 30
  else 31

/-- The rest behind a date. -/
def readDate? (cs : List Char) : Option (List Char) := do
  let (year, cs) ← readField? 4 0 9999 cs
  let (month, cs) ← readField? 2 1 12 (← readChar? '-' cs)
  let (_, cs) ← readField? 2 1 (daysOf year month) (← readChar? '-' cs)
  return cs

/-- The rest behind the fraction of a second, if there is one. -/
def readSecondFraction? : List Char → Option (List Char)
  | '.' :: d :: rest => if isDigit d then some (rest.dropWhile isDigit) else none
  | '.' :: [] => none
  | cs => some cs

/-- The rest behind a time of day. -/
def readTime? (cs : List Char) : Option (List Char) := do
  let (_, cs) ← readField? 2 0 23 cs
  let (_, cs) ← readField? 2 0 59 (← readChar? ':' cs)
  let (_, cs) ← readField? 2 0 60 (← readChar? ':' cs)
  readSecondFraction? cs

/-- The rest behind a distance from universal time, if there is one. -/
def readOffset? : List Char → Option (List Char)
  | c :: rest =>
    if c == 'Z' || c == 'z' then some rest
    else if c == '+' || c == '-' then do
      let (_, rest) ← readField? 2 0 23 rest
      let (_, rest) ← readField? 2 0 59 (← readChar? ':' rest)
      return rest
    else some (c :: rest)
  | [] => some []

/-- The rest behind a time of day after a date, if there is one. -/
def readTimeOfDate? : List Char → Option (List Char)
  | c :: rest =>
    if c == 'T' || c == 't' then (readTime? rest).bind readOffset?
    else if c == ' ' && rest.head?.any isDigit then (readTime? rest).bind readOffset?
    else some (c :: rest)
  | [] => some []

/-- The rest behind a date, a time, or both. -/
def dateTimeRest? (cs : List Char) : Option (List Char) :=
  ((readDate? cs).bind readTimeOfDate?).orElse fun _ => readTime? cs

/-- The name of the only entry of a map that denotes a date or a time. -/
def dateTimeKey : String := "$__toml_private_datetime"

/-- A date, a time, or both. -/
def readDateTime? (cs : List Char) : Option (Node × List Char) := do
  let rest ← dateTimeRest? cs
  let text := cs.take (cs.length - rest.length)
  return (.map [(.string dateTimeKey, .string (String.ofList text))], rest)

/-- A number or a date. -/
def readNumber? (cs : List Char) : Option (Node × List Char) :=
  ((readDateTime? cs).orElse fun _ => readFloat? cs).orElse fun _ => readInt? cs

end Toml
end DataRecipe
