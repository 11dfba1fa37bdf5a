import DataRecipe.Pattern.Ast
import DataRecipe.Pattern.CodeSet
import DataRecipe.Text.Unicode.Script
/-!
# Classes by property

The sets of code points that classes with names stand for: the classes of the ASCII range,
the classes that have a letter of their own, and those by Unicode property, category or
script.  Names are compared without regard to case, blanks, underscores and hyphens.

No class here asks for the values of other properties, such as the age of a character or the places
where a text breaks.

Main definitions:

- Definition `asciiSet`: the classes of the ASCII range.
- Definition `shorthandSet`: the classes that have a letter of their own.
- Definition `querySet`: the classes by property, category or script.
-/

namespace DataRecipe
namespace Pattern

open Text Unicode

/-- A class of the ASCII range. -/
def asciiSet : String → CodeSet
  | "alnum" => [(48, 57), (65, 90), (97, 122)]
  | "alpha" => [(65, 90), (97, 122)]
  | "ascii" => [(0, 127)]
  | "blank" => [(9, 9), (32, 32)]
  | "cntrl" => [(0, 31), (127, 127)]
  | "digit" => [(48, 57)]
  | "graph" => [(33, 126)]
  | "lower" => [(97, 122)]
  | "print" => [(32, 126)]
  | "punct" => [(33, 47), (58, 64), (91, 96), (123, 126)]
  | "space" => [(9, 13), (32, 32)]
  | "upper" => [(65, 90)]
  | "word" => [(48, 57), (65, 90), (95, 95), (97, 122)]
  | "xdigit" => [(48, 57), (65, 70), (97, 102)]
  | _ => []

/-- The characters of words. -/
def wordSet : CodeSet :=
  CodeSet.normalized ([alphabetic, nonspacingMark, spacingMark, enclosingMark, decimalNumber,
    connectorPunctuation, joinControl].flatMap CodeSet.ofTable)

/-- A class that has a letter of its own, over all characters or over the ASCII range. -/
def shorthandSet (unicode : Bool) (kind : ShorthandClass) : CodeSet :=
  match kind, unicode with
  | .digit, true => CodeSet.ofTable decimalNumber
  | .space, true => CodeSet.ofTable whiteSpace
  | .word, true => wordSet
  | .digit, false => asciiSet "digit"
  | .space, false => asciiSet "space"
  | .word, false => asciiSet "word"

/-- The part of a name that matters when names are compared. -/
def symbolicName (name : String) : String :=
  let cs := name.toList
  let hasIs := (cs.take 2).map asciiLower == ['i', 's']
  let body := if hasIs then cs.drop 2 else cs
  let plain := body.filter fun c => c.toNat < 128 && c != ' ' && c != '_' && c != '-'
  let kept := plain.map asciiLower
  if hasIs && kept == ['c'] then "isc" else String.ofList kept

/-- Whether a name that is already reduced names the same thing as another. -/
def names (reduced name : String) : Bool := symbolicName name == reduced

/-- Categories that unite others, with their names. -/
def unitedCategories : List (List String × List String) := [
  (["LC", "Cased_Letter"], ["Lu", "Ll", "Lt"]),
  (["L", "Letter"], ["Lu", "Ll", "Lt", "Lm", "Lo"]),
  (["M", "Mark", "Combining_Mark"], ["Mn", "Mc", "Me"]),
  (["N", "Number"], ["Nd", "Nl", "No"]),
  (["P", "Punctuation", "punct"], ["Pc", "Pd", "Ps", "Pe", "Pi", "Pf", "Po"]),
  (["S", "Symbol"], ["Sm", "Sc", "Sk", "So"]),
  (["Z", "Separator"], ["Zs", "Zl", "Zp"]),
  (["C", "Other"], ["Cc", "Cf", "Co", "Cn"]),
  (["digit"], ["Nd"]),
  (["cntrl"], ["Cc"])]

/-- A category by its short name. -/
def categorySet (code : String) : CodeSet :=
  (categories.filter fun c => c.1 == code).flatMap fun c => CodeSet.ofTable c.2.2

/-- The set of a category, `none` where there is none of the name.  The category of surrogates is
known but holds no characters. -/
def findCategory? (reduced : String) : Option (Except FaultKind CodeSet) :=
  if reduced == "any" then some (.ok [(0, CodeSet.lastPoint)])
  else if reduced == "assigned" then
    some (.ok (CodeSet.complement CodeSet.lastPoint (CodeSet.ofTable unassigned)))
  else if reduced == "ascii" then some (.ok [(0, CodeSet.lastAscii)])
  else if reduced == "cs" || reduced == "surrogate" then some (.error .propertyValueNotFound)
  else
    match categories.find? fun c => names reduced c.1 || names reduced c.2.1 with
    | some c => some (.ok (CodeSet.ofTable c.2.2))
    | none =>
      (unitedCategories.find? fun c => c.1.any (names reduced)).map fun c =>
        .ok (c.2.flatMap categorySet)

/-- The script of a name. -/
def findScript? (reduced : String) : Option Script :=
  scripts.find? fun s => names reduced s.code || names reduced s.name

/-- The set of a property that characters have or lack. -/
def findProperty? (reduced : String) : Option CodeSet :=
  if reduced == "cf" || reduced == "sc" || reduced == "lc" then none
  else
    (properties.find? fun p => names reduced p.1 || names reduced p.2.1).map fun p =>
      CodeSet.ofTable p.2.2

/-- Properties whose values no class can ask for. -/
def otherProperties : List String := [
  "Age", "blk", "Block", "bc", "Bidi_Class", "ccc", "Canonical_Combining_Class", "dt",
  "Decomposition_Type", "ea", "East_Asian_Width", "GCB", "Grapheme_Cluster_Break", "hst",
  "Hangul_Syllable_Type", "InPC", "InSC", "jg", "Joining_Group", "jt", "Joining_Type", "lb",
  "Line_Break", "nt", "Numeric_Type", "nv", "Numeric_Value", "na", "Name", "SB",
  "Sentence_Break", "vo", "Vertical_Orientation", "WB", "Word_Break", "cf", "Case_Folding",
  "lc", "Lowercase_Mapping", "uc", "Uppercase_Mapping", "tc", "Titlecase_Mapping", "isc"]

/-- The set that a category or script stands for. -/
def namedSet (name : String) : Except FaultKind CodeSet :=
  let reduced := symbolicName name
  match findProperty? reduced with
  | some s => .ok s
  | none =>
    match findCategory? reduced with
    | some r => r
    | none =>
      match findScript? reduced with
      | some s => .ok (CodeSet.ofTable s.own)
      | none => .error .propertyNotFound

/-- The set of the characters for which a property has a value. -/
def valuedSet (property value : String) : Except FaultKind CodeSet :=
  let key := symbolicName property
  let reduced := symbolicName value
  if names key "gc" || names key "General_Category" then
    (findCategory? reduced).getD (.error .propertyValueNotFound)
  else if names key "sc" || names key "Script" then
    match findScript? reduced with
    | some s => .ok (CodeSet.ofTable s.own)
    | none => .error .propertyValueNotFound
  else if names key "scx" || names key "Script_Extensions" then
    match findScript? reduced with
    | some s => .ok (CodeSet.ofTable s.extended)
    | none => .error .propertyValueNotFound
  else if (findProperty? key).isSome || otherProperties.any (names key) then
    .error .propertyValueNotFound
  else .error .propertyNotFound

/-- The set that a query asks for. -/
def querySet : UnicodeQuery → Except FaultKind CodeSet
  | .named name => namedSet name
  | .valued property value => valuedSet property value

end Pattern
end DataRecipe
