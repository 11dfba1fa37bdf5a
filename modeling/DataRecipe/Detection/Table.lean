import DataRecipe.Detection.Language
import DataRecipe.Json.Printer
import DataRecipe.Text.Split
/-!
# The table of findings

Findings, given as documents, as a table for display.  The table is first put together from
tags and texts, and only the texts are escaped when it is written, so no text can become a tag.

Main definitions:

- Definitions `Tag`, `Markup`: the parts that a table is put together from.
- Definition `Markup.render`: a part as it is written.
- Definition `Table.ofFindings`: the table of findings.
- Definition `Table.html`: the page that shows them.
-/

namespace DataRecipe
namespace Detection

open Text

/-- The tags of a table. -/
inductive Tag where
  | tableStart
  | tableEnd
  | rowStart
  | rowEnd
  | headStart
  | headEnd
  | cellStart
  | cellEnd
  | lineBreak
  deriving DecidableEq, Repr

/-- A tag as it is written. -/
def Tag.text : Tag → String
  | tableStart => "<table class='table table-hover table-sm table-bordered table-nonfluid'>"
  | tableEnd => "</table>"
  | rowStart => "<tr>"
  | rowEnd => "</tr>"
  | headStart => "<th>"
  | headEnd => "</th>"
  | cellStart => "<td>"
  | cellEnd => "</td>"
  | lineBreak => "<br>"

/-- A tag or a text. -/
inductive Markup where
  | tag (t : Tag)
  | text (s : String)
  deriving DecidableEq, Repr

/-- A character so that it is shown as it is. -/
def escapeMarkup (c : Char) : List Char :=
  if c == '&' then "&amp;".toList
  else if c == '<' then "&lt;".toList
  else if c == '>' then "&gt;".toList
  else if c == '\x22' then "&quot;".toList
  else if c == '\x27' then "&#x27;".toList
  else [c]

/-- A part as it is written. -/
def Markup.render : Markup → List Char
  | tag t => t.text.toList
  | text s => s.toList.flatMap escapeMarkup

/-- Parts as they are written, one after the other. -/
def render (parts : List Markup) : String := String.ofList (parts.flatMap Markup.render)

namespace Table

/-- Lines with breaks between them. -/
def lines (parts : List (List Markup)) : List Markup := join [.tag .lineBreak] parts

/-- The items of an array, none where there is no array. -/
def itemsOf (v : Json) : List Json := v.array?.getD []

/-- The text of a value, empty where it is no text. -/
def textOf (v : Json) : String := v.string?.getD ""

/-- A step with its arguments. -/
def stepText (step : Json) : List Markup :=
  [.text (textOf (step.member "op")), .text "(",
    .text (joined ", " ((itemsOf (step.member "args")).map Json.compact)), .text ")"]

/-- The steps of a recipe, one to a line. -/
def recipeMarkup (finding : Json) : List Markup :=
  lines ((itemsOf (finding.member "recipe")).map stepText)

/-- A line with the format, if there is one. -/
def fileTypeLine (finding : Json) : List (List Markup) :=
  match finding.member "file_type" with
  | .object members =>
    let t := Json.object members
    [[.text "Possible file type: ", .text (textOf (t.member "name")), .text " (",
      .text (textOf (t.member "extension")), .text ")"]]
  | _ => []

/-- A line with the entropy, if it is known. -/
def entropyLine (finding : Json) : List (List Markup) :=
  match (finding.member "entropy").number? with
  | some e => [[.text "Entropy: ", .text (Decimal.fixed 2 e)]]
  | none => []

/-- Whether a score tells a language. -/
def isProbable (score : Json) : Bool :=
  leastProbability < (score.member "probability").number?.getD 0

/-- A line with the first language that is probable, if there is one. -/
def languageLine (finding : Json) : List (List Markup) :=
  match (itemsOf (finding.member "language_scores")).find? isProbable with
  | some best => [[.text "Possible language: ", .text (textOf (best.member "lang"))]]
  | none => []

/-- A line that tells well-formed text. -/
def utf8Line (finding : Json) : List (List Markup) :=
  match finding.member "is_utf8" with
  | .bool true => [[.text "Valid UTF8"]]
  | _ => []

/-- A line with the operations that the data looks made for, if there are any. -/
def suggestionLine (finding : Json) : List (List Markup) :=
  let found := itemsOf (finding.member "matching_ops")
  if found.isEmpty then []
  else
    [[.text "Matching ops: ",
      .text (joined ", " (found.filterMap fun o => (o.member "op").string?))]]

/-- The properties of a finding, one to a line. -/
def propertiesMarkup (finding : Json) : List Markup :=
  lines (fileTypeLine finding ++ entropyLine finding ++ languageLine finding ++
    utf8Line finding ++ suggestionLine finding)

/-- Parts between two tags. -/
def between (start stop : Tag) (parts : List Markup) : List Markup :=
  .tag start :: parts ++ [.tag stop]

/-- The row of a finding. -/
def row (finding : Json) : List Markup :=
  between .rowStart .rowEnd
    (between .cellStart .cellEnd (recipeMarkup finding) ++
      between .cellStart .cellEnd [.text (textOf (finding.member "data"))] ++
      between .cellStart .cellEnd (propertiesMarkup finding))

/-- The row of the titles. -/
def titles : List Markup :=
  between .rowStart .rowEnd
    (["Recipe (click to load)", "Result snippet", "Properties"].flatMap fun title =>
      between .headStart .headEnd [.text title])

/-- The table of findings. -/
def ofFindings (findings : List Json) : List Markup :=
  between .tableStart .tableEnd (titles ++ findings.flatMap row)

/-- What is shown where there are no findings. -/
def nothingFound : String := "Nothing of interest could be detected about the input data."

/-- The page that shows findings. -/
def html (findings : List Json) : String :=
  if findings.isEmpty then nothingFound else render (ofFindings findings)

end Table
end Detection
end DataRecipe
