import DataRecipe.Detection.Language
import DataRecipe.Text.Blank
/-!
# Measures of data

Main definitions:

- Definition `entropy`: the bits of information in a byte.
- Definition `printableShare`: the share of characters that can be shown.
-/

namespace DataRecipe
namespace Detection

open Text

/-- What a byte that occurs `n` times in `length` adds to the entropy. -/
def information (length : Float) (n : Nat) : Float :=
  let p := Float.ofNat n / length
  (-p) * Float.log2 p

/-- The Shannon entropy in bits per byte. -/
def entropy (data : Bytes) : Float :=
  if data.isEmpty then 0.0
  else
    let counts := (byteCounts data).toList.filter (0 < ·)
    total (counts.map (information (Float.ofNat data.length)))

/-- A control character. -/
def isControl (c : Char) : Bool := c.toNat < 0x20 || (0x7F ≤ c.toNat && c.toNat ≤ 0x9F)

/-- A character that can be shown, or a blank. -/
def isPrintable (c : Char) : Bool := c != Utf8.replacement && (!isControl c || isBlank c)

/-- The share of printable characters in the text of data. -/
def printableShare (data : Bytes) : Float :=
  let text := Utf8.decodeLossyChars data
  if text.isEmpty then 0.0
  else Float.ofNat (text.countP isPrintable) / Float.ofNat text.length

end Detection
end DataRecipe
