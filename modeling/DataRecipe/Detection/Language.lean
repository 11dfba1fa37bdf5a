import DataRecipe.Decimal.Binary64
import DataRecipe.Text.Utf8
/-!
# Languages

How far the bytes of a text are from what a language leads to expect, as a chi-squared
statistic over the values of a byte.  A lower score is a closer match.

The order of every sum is part of its meaning, since sums of binary numbers are rounded.

Main definitions:

- Definitions `commonLanguages`, `allLanguages`: the languages with the expected share of
  every byte.
- Definition `chiSquared`: the statistic.
- Definition `chiSquaredProbability`: how likely a value as large is by chance.
- Definition `detectLanguages`: the scores of data, best first.
-/

namespace DataRecipe
namespace Detection

open Text

/-! ## Expected shares -/

/-- The least expected share of a byte, in percent. -/
def floorShare : Float := 0.05

/-- The expected share of a digit. -/
def digitShare : Float := 0.05

/-- The expected shares of blanks and marks. -/
def punctuation : List (Char × Float) := [
  (' ', 16.0), ('\n', 0.5), (',', 1.0), ('.', 1.0), ('\x27', 0.2), ('\x22', 0.2), ('-', 0.2),
  ('!', 0.05), ('?', 0.05), (':', 0.05), (';', 0.05), ('(', 0.05), (')', 0.05)]

/-- The shares of the letters from `a` to `z` and of accented letters, in percent of letters. -/
structure LetterTable where
  name : String
  accented : Float
  letters : List Float

/-- The tables of widespread languages. -/
def commonTables : List LetterTable := [
  ⟨"English", 0.0, [
    8.167, 1.492, 2.782, 4.253, 12.702, 2.228, 2.015, 6.094, 6.966, 0.153, 0.772, 4.025, 2.406,
    6.749, 7.507, 1.929, 0.095, 5.987, 6.327, 9.056, 2.758, 0.978, 2.360, 0.150, 1.974, 0.074]⟩,
  ⟨"German", 2.323, [
    6.516, 1.886, 2.732, 5.076, 16.396, 1.656, 3.009, 4.577, 6.550, 0.268, 1.417, 3.437, 2.534,
    9.776, 2.594, 0.670, 0.018, 7.003, 7.270, 6.154, 4.166, 0.846, 1.921, 0.034, 0.039, 1.134]⟩,
  ⟨"French", 2.864, [
    7.636, 0.901, 3.260, 3.669, 14.715, 1.066, 0.866, 0.737, 7.529, 0.613, 0.074, 5.456, 2.968,
    7.095, 5.796, 2.521, 1.362, 6.693, 7.948, 7.244, 6.311, 1.838, 0.049, 0.427, 0.128, 0.326]⟩,
  ⟨"Spanish", 2.966, [
    11.525, 2.215, 4.019, 5.010, 12.181, 0.692, 1.768, 0.703, 6.247, 0.493, 0.011, 4.967, 3.157,
    6.712, 8.683, 2.510, 0.877, 6.871, 7.977, 4.632, 2.927, 1.138, 0.017, 0.215, 1.008, 0.467]⟩,
  ⟨"Italian", 1.096, [
    11.745, 0.927, 4.501, 3.736, 11.792, 1.153, 1.644, 0.636, 10.143, 0.011, 0.009, 6.510, 2.512,
    6.883, 9.832, 3.056, 0.505, 6.367, 4.981, 5.623, 3.011, 2.097, 0.033, 0.003, 0.020, 1.181]⟩,
  ⟨"Dutch", 0.0, [
    7.486, 1.584, 1.242, 5.933, 18.910, 0.805, 3.403, 2.380, 6.499, 1.460, 2.248, 3.568, 2.213,
    10.032, 6.063, 1.570, 0.009, 6.411, 3.730, 6.790, 1.990, 2.850, 1.520, 0.036, 0.035, 1.390]⟩,
  ⟨"Portuguese", 2.400, [
    14.634, 1.043, 3.882, 4.992, 12.570, 1.023, 1.303, 0.781, 6.186, 0.397, 0.015, 2.779, 4.738,
    4.446, 9.735, 2.523, 1.204, 6.530, 6.805, 4.336, 3.639, 1.575, 0.037, 0.253, 0.006, 0.470]⟩]

/-- The tables of further languages. -/
def furtherTables : List LetterTable := [
  ⟨"Swedish", 4.440, [
    9.383, 1.535, 1.486, 4.702, 10.149, 2.027, 2.862, 2.090, 5.817, 0.614, 3.140, 5.275, 3.471,
    8.542, 4.482, 1.839, 0.020, 8.431, 6.590, 7.691, 1.919, 2.415, 0.142, 0.159, 0.708, 0.070]⟩,
  ⟨"Turkish", 11.806, [
    11.920, 2.844, 0.963, 4.706, 8.912, 0.461, 1.253, 1.212, 8.600, 0.034, 4.683, 5.922, 3.752,
    7.487, 2.476, 0.886, 0.0, 6.722, 3.014, 3.314, 3.235, 0.959, 0.0, 0.0, 3.336, 1.500]⟩,
  ⟨"Polish", 5.100, [
    10.503, 1.740, 3.895, 3.725, 7.352, 0.143, 1.731, 1.015, 8.328, 1.836, 2.753, 2.564, 2.515,
    6.237, 6.667, 2.445, 0.0, 5.243, 5.224, 2.475, 2.062, 0.012, 5.813, 0.004, 3.206, 4.852]⟩]

/-- The sum of numbers from left to right; the sum of none is negative zero. -/
def total (xs : List Float) : Float := xs.foldl (· + ·) (-0.0)

/-- The greater of two numbers. -/
def atLeast (low x : Float) : Float := if x < low then low else x

/-- The share of all letters among all characters, in percent. -/
def letterMass : Float := 100.0 - (total (punctuation.map (·.2)) + digitShare * 10.0)

/-- The expected share of a byte in a language, before the shares are brought to a whole.  An
accented letter is a lead byte and one of the continuation bytes.  Capitals are counted as small
letters. -/
def rawShare (t : LetterTable) (b : Nat) : Float :=
  let letters := total t.letters + t.accented
  let accented := letterMass * t.accented / letters / 2.0
  if 65 ≤ b && b ≤ 90 then 0.0
  else if 0 < t.accented && b == 0xC3 then accented
  else if 0 < t.accented && 0x80 ≤ b && b < 0xC0 then atLeast floorShare (accented / 64.0)
  else if 97 ≤ b && b ≤ 122 then
    atLeast floorShare (letterMass * t.letters.getD (b - 97) 0.0 / letters)
  else if 48 ≤ b && b ≤ 57 then digitShare
  else (punctuation.lookup (Char.ofNat b)).getD floorShare

/-- A language with the expected share of every byte, in percent. -/
structure Language where
  name : String
  expected : List Float

/-- The language of a table. -/
def LetterTable.language (t : LetterTable) : Language :=
  let shares := (List.range 256).map (rawShare t)
  let whole := total shares
  ⟨t.name, shares.map (· * (100.0 / whole))⟩

/-- The widespread languages. -/
def commonLanguages : List Language := commonTables.map LetterTable.language

/-- All languages. -/
def allLanguages : List Language := (commonTables ++ furtherTables).map LetterTable.language

/-! ## Statistics -/

/-- How often every byte occurs. -/
def byteCounts (data : Bytes) : Array Nat :=
  data.foldl (fun counts b => counts.modify b.toNat (· + 1)) (Array.replicate 256 0)

/-- A byte with capitals counted as small letters. -/
def foldedByte (b : UInt8) : UInt8 := if 65 ≤ b && b ≤ 90 then b + 32 else b

/-- The shares of all bytes in some data, in percent. -/
def frequencies (data : Bytes) : List Float :=
  let length := Float.ofNat data.length
  (byteCounts (data.map foldedByte)).toList.map fun n => Float.ofNat n * 100.0 / length

/-- What one bin adds to the statistic. -/
def deviation (observed expected : Float) : Float :=
  (observed - expected) * (observed - expected) / expected

/-- The statistic over the bins in which something is expected, added to a sum. -/
def chiSquaredFrom (sum : Float) : List Float → List Float → Float
  | o :: os, e :: es => chiSquaredFrom (if 0 < e then sum + deviation o e else sum) os es
  | _, _ => sum

/-- The chi-squared statistic over the bins in which something is expected. -/
def chiSquared (observed expected : List Float) : Float := chiSquaredFrom (-0.0) observed expected

/-- The complementary error function at a number that is not negative, by a polynomial in
`1 / (1 + 0.3275911 x)` times `exp (-x²)`. -/
def upperErrorFunction (x : Float) : Float :=
  let t := 1.0 / (1.0 + 0.3275911 * x)
  let poly := t * (0.254829592 +
    t * (-0.284496736 + t * (1.421413741 + t * (-1.453152027 + t * 1.061405429))))
  poly * Float.exp ((-x) * x)

/-- The complementary error function. -/
def complementaryError (x : Float) : Float :=
  if x < 0 then 2.0 - upperErrorFunction (-x) else upperErrorFunction x

/-- The square root of two. -/
def sqrtTwo : Float := 1.41421356237309504880

/-- How likely a statistic of at least `x` is by chance with `df` degrees of freedom: its cube
root is nearly normal. -/
def chiSquaredProbability (x df : Float) : Float :=
  if x ≤ 0 then 1.0
  else
    let k := 2.0 / (9.0 * df)
    let z := (Float.cbrt (x / df) - (1.0 - k)) / Float.sqrt k
    0.5 * complementaryError (z / sqrtTwo)

/-! ## Scores -/

/-- How well data matches a language. -/
structure LanguageScore where
  language : String
  /-- The distance; a lower one is closer. -/
  score : Float
  probability : Float

/-- A match that is less probable than this counts as none. -/
def leastProbability : Float := 1e-3

/-- The score of shares in a language. -/
def Language.score (observed : List Float) (l : Language) : LanguageScore :=
  let score := chiSquared observed l.expected
  ⟨l.name, score, chiSquaredProbability score 255.0⟩

/-- The one score of data without bytes. -/
def unknownLanguage : LanguageScore := ⟨"Unknown", Decimal.largest, 0⟩

/-- The scores of data in all languages that are asked for, best first. -/
def detectLanguages (data : Bytes) (extensive : Bool) : List LanguageScore :=
  if data.isEmpty then [unknownLanguage]
  else
    let observed := frequencies data
    ((if extensive then allLanguages else commonLanguages).map (·.score observed)).mergeSort
      fun a b => decide (Decimal.rank a.score ≤ Decimal.rank b.score)

/-- Whether the best score tells a language. -/
def hasLanguage (scores : List LanguageScore) : Bool :=
  match scores with
  | [] => false
  | s :: _ => leastProbability < s.probability

/-- The distance of the closest language. -/
def bestScore (scores : List LanguageScore) : Float :=
  match scores with
  | [] => Decimal.largest
  | s :: _ => s.score

end Detection
end DataRecipe
