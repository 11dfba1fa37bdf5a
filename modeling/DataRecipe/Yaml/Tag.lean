import DataRecipe.Yaml.Cursor
import DataRecipe.Yaml.Token
import DataRecipe.Text.Utf8
/-!
# Names, tags and directives

What begins with an ampersand, an asterisk, an exclamation mark, or a percent sign.

Main definitions:

- Definition `readName?`: the name of an anchor or an alias.
- Definition `readTag?`: a tag, split into the short form of its beginning and the rest.
- Definition `readDirective?`: a directive.
-/

namespace DataRecipe
namespace Yaml

open Text

/-! ## Names -/

/-- A character that may stand right behind a name. -/
def endsName (c : Option Char) : Bool :=
  isGap c || c.any fun x =>
    x == '?' || x == ':' || x == ',' || x == ']' || x == '\x7d' || x == '%' || x == '@' ||
      x == '\x60'

/-- The name of an anchor or an alias behind its sign, and the position behind it. -/
def readName? (c : Cursor) : Option (String × Cursor) :=
  let (name, after) := (c.skip 1).takeWhile isNameChar
  if name.isEmpty || !endsName after.rest.head? then none else some (String.ofList name, after)

/-! ## Tags -/

/-- A character of a tag; some characters end a tag that is not in angle brackets. -/
def isTagChar (bracketed : Bool) (c : Char) : Bool :=
  isNameChar c || ";/?:@&=+$.%!~*\x27()".toList.contains c ||
    (bracketed && (c == ',' || c == '[' || c == ']'))

/-- The number of bytes of a character that starts with the given byte. -/
def characterWidth? (lead : UInt8) : Option Nat :=
  if lead < 0x80 then some 1
  else if lead &&& 0xE0 == 0xC0 then some 2
  else if lead &&& 0xF0 == 0xE0 then some 3
  else if lead &&& 0xF8 == 0xF0 then some 4
  else none

/-- The byte that a percent sign and two digits stand for. -/
def escapedByte? : List Char → Option UInt8
  | '%' :: a :: b :: _ => do
    let high ← hexValue? a
    let low ← hexValue? b
    return UInt8.ofNat (high * 16 + low)
  | _ => none

/-- Further escaped bytes of one character. -/
def readContinuation? : Nat → Cursor → Option (Bytes × Cursor)
  | 0, c => some ([], c)
  | n + 1, c => do
    let b ← escapedByte? c.rest
    if b &&& 0xC0 != 0x80 then none
    else
      let (bytes, after) ← readContinuation? n (c.skip 3)
      return (b :: bytes, after)

/-- The bytes of one escaped character. -/
def readEscapedChar? (c : Cursor) : Option (Bytes × Cursor) := do
  let lead ← escapedByte? c.rest
  let width ← characterWidth? lead
  let (bytes, after) ← readContinuation? (width - 1) (c.skip 3)
  return (lead :: bytes, after)

/-- The bytes of a tag as far as its characters reach. -/
def readTagBytes? (bracketed : Bool) : Nat → Cursor → Option (Bytes × Cursor)
  | 0, c => some ([], c)
  | fuel + 1, c =>
    match c.rest with
    | [] => some ([], c)
    | x :: _ =>
      if !isTagChar bracketed x then some ([], c)
      else do
        let (bytes, c') ←
          if x == '%' then readEscapedChar? c else some ([UInt8.ofNat x.toNat], c.skip 1)
        let (more, after) ← readTagBytes? bracketed fuel c'
        return (bytes ++ more, after)

/-- The text of a tag behind some of its characters, and the position behind it.  It may be empty
only where a sign has been read before. -/
def readTagText? (bracketed : Bool) (lead : List Char) (c : Cursor) : Option (String × Cursor) := do
  let (bytes, after) ← readTagBytes? bracketed (c.textLength + 1) c
  if lead.isEmpty && bytes.isEmpty then none
  else return (Utf8.decodeLossy (Utf8.encodeChars (lead.drop 1) ++ bytes), after)

/-- The short form of the beginning of a tag: a name in exclamation marks, of which the second
may be missing. -/
def readHandle? (c : Cursor) : Option (List Char × Cursor) :=
  if !c.sees '!' then none
  else
    let (name, after) := (c.skip 1).takeWhile isNameChar
    if after.sees '!' then some ('!' :: name ++ ['!'], after.skip 1) else some ('!' :: name, after)

/-- A tag before it is checked what stands behind it. -/
def readTagBody? (c : Cursor) : Option (Token × Cursor) := do
  if c.peek 1 == some '<' then
    let (suffix, after) ← readTagText? true [] (c.skip 2)
    if after.sees '>' then return (.tag "" suffix, after.skip 1) else none
  else
    let (handle, c') ← readHandle? c
    if handle.length > 1 && handle.getLast? == some '!' then
      let (suffix, after) ← readTagText? false [] c'
      return (.tag (String.ofList handle) suffix, after)
    else
      let (suffix, after) ← readTagText? false handle c'
      return (if suffix.isEmpty then .tag "" "!" else .tag "!" suffix, after)

/-- A tag.  White space must follow; inside brackets a comma may follow too. -/
def readTag? (flow : Bool) (c : Cursor) : Option (Token × Cursor) := do
  let (tag, after) ← readTagBody? c
  if after.seesGap || (flow && after.sees ',') then return (tag, after) else none

/-! ## Directives -/

/-- A number of at most nine digits. -/
def readVersionNumber? (c : Cursor) : Option (Nat × Cursor) :=
  let (digits, after) := c.takeWhile isDigit
  if digits.isEmpty || 9 < digits.length then none
  else some (ofDigits 10 (digits.filterMap digitValue?), after)

/-- The version that a directive states. -/
def readVersion? (c : Cursor) : Option (Token × Cursor) := do
  let (major, c') ← readVersionNumber? (c.skipWhile isSpaceOrTab)
  if !c'.sees '.' then none
  else
    let (minor, after) ← readVersionNumber? (c'.skip 1)
    return (.version major minor, after)

/-- The short form that a directive defines, and what it stands for. -/
def readShortForm? (c : Cursor) : Option (Token × Cursor) := do
  let (handle, c') ← readHandle? (c.skipWhile isSpaceOrTab)
  if handle.length > 1 && handle.getLast? != some '!' then none
  else if !c'.seesSpace then none
  else
    let (lead, after) ← readTagText? true [] (c'.skipWhile isSpaceOrTab)
    if after.seesGap then return (.tagShort (String.ofList handle) lead, after) else none

/-- The end of a directive's line, behind a comment. -/
def readDirectiveEnd? (c : Cursor) : Option Cursor :=
  let after := (c.skipWhile isSpaceOrTab).skipComment
  if !isLineEnd after.rest.head? then none else some after.skipLine

/-- A directive: a version or a short form of tags. -/
def readDirective? (c : Cursor) : Option (Token × Cursor) := do
  let (name, c') := (c.skip 1).takeWhile isNameChar
  if !c'.seesGap then none
  else
    let (token, c'') ← match String.ofList name with
      | "YAML" => readVersion? c'
      | "TAG" => readShortForm? c'
      | _ => none
    return (token, ← readDirectiveEnd? c'')

end Yaml
end DataRecipe
