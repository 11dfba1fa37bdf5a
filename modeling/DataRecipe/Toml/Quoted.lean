import DataRecipe.Toml.Line
/-!
# Texts in a TOML document

A text in double quotes may hold escapes, and one in single quotes may not.  Three quotes open a
text that may go over several lines; a line break right behind them is dropped.

Main definitions:

- Definition `readEscape?`: the character of an escape.
- Definitions `readBasic?`, `readLiteral?`: a text on one line.
- Definition `readQuoted?`: a text of any kind.
-/

namespace DataRecipe
namespace Toml

open Text

/-! ## Escapes -/

/-- The character of an escape by a number of digits. -/
def readCode? (digits : Nat) (cs : List Char) : Option (Char × List Char) := do
  let values ← (cs.take digits).mapM hexValue?
  let code := ofDigits 16 values
  if values.length = digits && code.isValidChar then some (Char.ofNat code, cs.drop digits)
  else none

/-- The character of an escape behind its backslash. -/
def readEscape? : List Char → Option (Char × List Char)
  | 'b' :: rest => some ('\x08', rest)
  | 't' :: rest => some ('\t', rest)
  | 'n' :: rest => some ('\n', rest)
  | 'f' :: rest => some ('\x0c', rest)
  | 'r' :: rest => some ('\r', rest)
  | '\x22' :: rest => some ('\x22', rest)
  | '\\' :: rest => some ('\\', rest)
  | 'u' :: rest => readCode? 4 rest
  | 'U' :: rest => readCode? 8 rest
  | _ => none

/-! ## Texts on one line -/

/-- The rest of a text in double quotes. -/
def readBasic? : Nat → List Char → Option (List Char × List Char)
  | 0, _ => none
  | fuel + 1, cs =>
    match cs with
    | '\x22' :: rest => some ([], rest)
    | '\\' :: rest => do
      let (c, rest) ← readEscape? rest
      let (text, rest) ← readBasic? fuel rest
      return (c :: text, rest)
    | c :: rest =>
      if !isLineChar c then none
      else do
        let (text, rest) ← readBasic? fuel rest
        return (c :: text, rest)
    | [] => none

/-- The rest of a text in single quotes. -/
def readLiteral? (cs : List Char) : Option (List Char × List Char) :=
  let text := cs.takeWhile fun c => isLineChar c && c != '\x27'
  match cs.drop text.length with
  | '\x27' :: rest => some (text, rest)
  | _ => none

/-! ## Texts over several lines -/

/-- Drops blanks and line breaks. -/
def skipBreaks (cs : List Char) : List Char :=
  cs.dropWhile fun c => isBlankChar c || c == '\n' || c == '\r'

/-- The rest behind a backslash at the end of a line and the white space after it. -/
def readContinuation? (cs : List Char) : Option (List Char) :=
  (readBreak? (skipBlank cs)).map skipBreaks

/-- Closing quotes: the quotes that still belong to the text, and the rest.  Up to two quotes may
stand right before the closing ones. -/
def readClosing? (quote : Char) (cs : List Char) : Option (List Char × List Char) :=
  let count := (cs.takeWhile (· == quote)).length
  if count < 3 then none
  else
    let kept := min (count - 3) 2
    some (List.replicate kept quote, cs.drop (kept + 3))

/-- The rest of a text in three quotes, with escapes in it or without. -/
def readLong? (quote : Char) (escapes : Bool) :
    Nat → List Char → Option (List Char × List Char)
  | 0, _ => none
  | fuel + 1, cs =>
    match readClosing? quote cs with
    | some closed => some closed
    | none => do
      let (c, rest) ← readLongChar? cs
      let (text, rest) ← readLong? quote escapes fuel rest
      return (c ++ text, rest)
where
  /-- One character of the text, or none where a line is continued. -/
  readLongChar? (cs : List Char) : Option (List Char × List Char) :=
    match readBreak? cs with
    | some rest => some (['\n'], rest)
    | none =>
      match cs with
      | [] => none
      | c :: rest =>
        if escapes && c == '\\' then
          match readContinuation? rest with
          | some rest => some ([], rest)
          | none => (readEscape? rest).map fun (x, rest) => ([x], rest)
        else if isLineChar c then some ([c], rest)
        else none

/-- Drops a line break. -/
def skipBreak (cs : List Char) : List Char := (readBreak? cs).getD cs

/-- A text on one line, with its quotes. -/
def readShort? : List Char → Option (List Char × List Char)
  | '\x22' :: rest => readBasic? (rest.length + 1) rest
  | '\x27' :: rest => readLiteral? rest
  | _ => none

/-- A text of any kind, with its quotes. -/
def readQuoted? : List Char → Option (List Char × List Char)
  | '\x22' :: '\x22' :: '\x22' :: rest => readLong? '\x22' true (rest.length + 1) (skipBreak rest)
  | '\x27' :: '\x27' :: '\x27' :: rest => readLong? '\x27' false (rest.length + 1) (skipBreak rest)
  | cs => readShort? cs

end Toml
end DataRecipe
