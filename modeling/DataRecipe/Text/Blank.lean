/-!
# White space and control characters

The two character classes that the engine itself asks about, each a property of the
Unicode standard, and trimming by white space.
-/

namespace DataRecipe
namespace Text

/-- The Unicode property White_Space. -/
def isBlank (c : Char) : Bool :=
  let n := c.toNat
  (0x09 ≤ n && n ≤ 0x0D) || n == 0x20 || n == 0x85 || n == 0xA0 || n == 0x1680 ||
    (0x2000 ≤ n && n ≤ 0x200A) || n == 0x2028 || n == 0x2029 || n == 0x202F ||
    n == 0x205F || n == 0x3000

/-- The Unicode general category Cc. -/
def isControl (c : Char) : Bool :=
  let n := c.toNat
  n ≤ 0x1F || (0x7F ≤ n && n ≤ 0x9F)

/-- Drops the longest blank beginning. -/
def trimStart (cs : List Char) : List Char := cs.dropWhile isBlank

/-- Drops the longest ending whose characters all satisfy `p`. -/
def dropEndWhile (p : Char → Bool) (cs : List Char) : List Char :=
  (cs.reverse.dropWhile p).reverse

/-- Drops the longest blank ending. -/
def trimEnd (cs : List Char) : List Char := dropEndWhile isBlank cs

/-- Drops blank characters from both ends. -/
def trim (cs : List Char) : List Char := trimEnd (trimStart cs)

/-- A text without its blank ends. -/
def trimmed (s : String) : String := String.ofList (trim s.toList)

/-- A character in lower case, where only ASCII letters have one. -/
def asciiLower (c : Char) : Char :=
  if 'A' ≤ c && c ≤ 'Z' then Char.ofNat (c.toNat + 32) else c

/-- A text whose ASCII letters are in lower case. -/
def asciiLowered (s : String) : String := String.ofList (s.toList.map asciiLower)

/-- The value of an ASCII digit. -/
def digitValue? (c : Char) : Option Nat :=
  if '0' ≤ c && c ≤ '9' then some (c.toNat - 48) else none

/-- An ASCII digit. -/
def isDigit (c : Char) : Bool := '0' ≤ c && c ≤ '9'

/-- The value of an ASCII hexadecimal digit, of either case. -/
def hexValue? (c : Char) : Option Nat :=
  if '0' ≤ c && c ≤ '9' then some (c.toNat - 48)
  else if 'a' ≤ c && c ≤ 'f' then some (c.toNat - 87)
  else if 'A' ≤ c && c ≤ 'F' then some (c.toNat - 55)
  else none

/-- An ASCII hexadecimal digit. -/
def isHexDigit (c : Char) : Bool := (hexValue? c).isSome

/-- The number that a list of digit values denotes in a base. -/
def ofDigits (base : Nat) (ds : List Nat) : Nat := ds.foldl (fun n d => n * base + d) 0

/-- Digits of `n` in lower case hexadecimal, at least one. -/
def hexText (n : Nat) : String := String.ofList (Nat.toDigits 16 n)

/-- Digits of `n` in lower case hexadecimal, padded with zeros to `width`. -/
def hexPadded (width n : Nat) : String :=
  let ds := Nat.toDigits 16 n
  String.ofList (List.replicate (width - ds.length) '0' ++ ds)

end Text
end DataRecipe
