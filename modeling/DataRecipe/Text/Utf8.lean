/-!
# UTF-8

Texts as bytes and bytes as texts.  Reading is total: it splits any byte string into
characters and ill-formed runs, where an ill-formed run is a longest beginning of a
character that the next byte breaks off.

Main definitions:

- Definition `encode`: the bytes of a text.
- Definition `units`: a byte string as characters (`some c`) and ill-formed runs (`none`).
- Definition `decode?`: the text of a well-formed byte string.
- Definition `decodeLossy`: every ill-formed run becomes one replacement character.
-/

namespace DataRecipe
namespace Text

/-- The bytes that flow through a recipe. -/
abbrev Bytes := List UInt8

namespace Utf8

/-- U+FFFD, which stands for an ill-formed run. -/
def replacement : Char := '\uFFFD'

/-- The bytes of a list of characters. -/
def encodeChars (cs : List Char) : Bytes := cs.flatMap String.utf8EncodeChar

/-- The bytes of a text. -/
def encode (s : String) : Bytes := encodeChars s.toList

/-- A byte that continues a character. -/
def isTail (b : UInt8) : Bool := 0x80 ≤ b && b ≤ 0xBF

/-- The second bytes that a three-byte character starting with `b₀` may have. -/
def isSecondOfThree (b₀ b₁ : UInt8) : Bool :=
  if b₀ == 0xE0 then 0xA0 ≤ b₁ && b₁ ≤ 0xBF
  else if b₀ == 0xED then 0x80 ≤ b₁ && b₁ ≤ 0x9F
  else 0xE1 ≤ b₀ && b₀ ≤ 0xEF && isTail b₁

/-- The second bytes that a four-byte character starting with `b₀` may have. -/
def isSecondOfFour (b₀ b₁ : UInt8) : Bool :=
  if b₀ == 0xF0 then 0x90 ≤ b₁ && b₁ ≤ 0xBF
  else if b₀ == 0xF4 then 0x80 ≤ b₁ && b₁ ≤ 0x8F
  else 0xF1 ≤ b₀ && b₀ ≤ 0xF3 && isTail b₁

/-- The character with the given payload bits. -/
def ofBits (n : Nat) : Option Char := some (Char.ofNat n)

/-- The six payload bits of a continuation byte. -/
def tailBits (b : UInt8) : Nat := b.toNat % 64

/-- A byte string as characters (`some c`) and ill-formed runs (`none`). -/
def units : Bytes → List (Option Char)
  | [] => []
  | b₀ :: r₀ =>
    if b₀ < 0x80 then some (Char.ofNat b₀.toNat) :: units r₀
    else
      match r₀ with
      | [] => [none]
      | b₁ :: r₁ =>
        if 0xC2 ≤ b₀ && b₀ ≤ 0xDF && isTail b₁ then
          ofBits ((b₀.toNat % 32) * 64 + tailBits b₁) :: units r₁
        else if isSecondOfThree b₀ b₁ then
          match r₁ with
          | [] => [none]
          | b₂ :: r₂ =>
            if isTail b₂ then
              ofBits (((b₀.toNat % 16) * 64 + tailBits b₁) * 64 + tailBits b₂) :: units r₂
            else none :: units (b₂ :: r₂)
        else if isSecondOfFour b₀ b₁ then
          match r₁ with
          | [] => [none]
          | b₂ :: r₂ =>
            if isTail b₂ then
              match r₂ with
              | [] => [none]
              | b₃ :: r₃ =>
                if isTail b₃ then
                  ofBits ((((b₀.toNat % 8) * 64 + tailBits b₁) * 64 + tailBits b₂) * 64
                    + tailBits b₃) :: units r₃
                else none :: units (b₃ :: r₃)
            else none :: units (b₂ :: r₂)
        else none :: units (b₁ :: r₁)

/-- The characters of a byte string, each ill-formed run read as U+FFFD. -/
def decodeLossyChars (bytes : Bytes) : List Char :=
  (units bytes).map fun c => c.getD replacement

/-- The text of a byte string, each ill-formed run read as U+FFFD. -/
def decodeLossy (bytes : Bytes) : String := String.ofList (decodeLossyChars bytes)

/-- Whether a byte string is well-formed UTF-8. -/
def isValid (bytes : Bytes) : Bool := (units bytes).all Option.isSome

/-- The text of a well-formed byte string. -/
def decode? (bytes : Bytes) : Option String :=
  if isValid bytes then some (decodeLossy bytes) else none

/-- Bytes that could start a character and end before it does. -/
def isCutOff : Bytes → Bool
  | [b₀] => 0xC2 ≤ b₀ && b₀ ≤ 0xF4
  | [b₀, b₁] => isSecondOfThree b₀ b₁ || isSecondOfFour b₀ b₁
  | [b₀, b₁, b₂] => isSecondOfFour b₀ b₁ && isTail b₂
  | _ => false

/-- The longest well-formed beginning of a byte string. -/
def wellFormedStart (bytes : Bytes) : List Char :=
  ((units bytes).takeWhile Option.isSome).filterMap id

/-- The bytes that follow the longest well-formed beginning. -/
def afterWellFormed (bytes : Bytes) : Bytes :=
  bytes.drop (encodeChars (wellFormedStart bytes)).length

end Utf8
end Text
end DataRecipe
