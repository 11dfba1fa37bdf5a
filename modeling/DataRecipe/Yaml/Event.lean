import DataRecipe.Yaml.Token
/-!
# The structure of a YAML document

The nodes of a document in written order: scalars, aliases, and lists and maps with their
ends.  A node that is left out where one is due is an empty scalar.

Main definitions:

- Definition `Event`: a node, the start of a list or a map, or an end.
- Definition `Directives`: what stands before a document.
- Definition `node?`: the events of the node at the head of a list of tokens.
- Definition `Draft`: the events of the first document of a text, and what is known of the rest.
-/

namespace DataRecipe
namespace Yaml

/-! ## Events -/

/-- The name and the tag that a node carries. -/
structure Marks where
  anchor : Option String := none
  tag : Option String := none
  deriving DecidableEq, Repr

/-- A node, the start of a list or a map, or the end of the innermost one. -/
inductive Event where
  | alias (name : String)
  | scalar (marks : Marks) (text : String) (plain : Bool)
  | listStart (marks : Marks)
  | mapStart (marks : Marks)
  | stop
  deriving DecidableEq, Repr

/-- The scalar for a node that is left out. -/
def emptyScalar (marks : Marks) : Event := .scalar marks "" true

/-! ## Directives -/

/-- The short forms of tags in a document. -/
abbrev ShortForms := List (String × String)

/-- What the short forms stand for that need no directive. -/
def usualForms : ShortForms := [("!", "!"), ("!!", "tag:yaml.org,2002:")]

/-- Reads the directives before a document.  There is at most one version, which must be 1.1 or
1.2, and one definition of each short form. -/
def directives? : Bool → ShortForms → List Token → Option (ShortForms × List Token)
  | versioned, forms, .version major minor :: ts =>
    if versioned || major != 1 || (minor != 1 && minor != 2) then none
    else directives? true forms ts
  | versioned, forms, .tagShort handle lead :: ts =>
    if forms.any (·.1 == handle) then none else directives? versioned (forms ++ [(handle, lead)]) ts
  | _, forms, ts => some (forms ++ usualForms, ts)

/-- The whole tag for a tag in short form. -/
def fullTag? (forms : ShortForms) (handle suffix : String) : Option String :=
  if handle.isEmpty then some suffix
  else (forms.find? (·.1 == handle)).map fun f => f.2 ++ suffix

/-! ## Nodes -/

/-- The marks before a node: an anchor, a tag, or both in either order. -/
def marks? (forms : ShortForms) : List Token → Option (Marks × List Token)
  | .anchor a :: .tag h s :: ts => do
    return ({ anchor := some a, tag := some (← fullTag? forms h s) }, ts)
  | .tag h s :: .anchor a :: ts => do
    return ({ anchor := some a, tag := some (← fullTag? forms h s) }, ts)
  | .anchor a :: ts => some ({ anchor := some a }, ts)
  | .tag h s :: ts => do
    return ({ tag := some (← fullTag? forms h s) }, ts)
  | ts => some ({}, ts)

/-- The marks of a scalar; an exclamation mark alone is no tag of a scalar. -/
def Marks.ofScalar (m : Marks) : Marks := if m.tag == some "!" then { m with tag := none } else m

/-- Where a node stands, which decides what may be written there. -/
inductive Place where
  /-- Inside brackets, where there are no blocks. -/
  | inFlow
  /-- In a block. -/
  | inBlock
  /-- In a block map, where the items of a list need not be indented. -/
  | inBlockMap
  deriving DecidableEq, Repr

/-- Whether a token ends an item of a block list that is not indented, so that the item is empty. -/
def endsIndentless : Token → Bool
  | .blockEntry | .key | .value | .blockEnd => true
  | _ => false

/-- Whether a token ends an item of a block list, so that the item is empty. -/
def endsEntry : Token → Bool
  | .blockEntry | .blockEnd => true
  | _ => false

/-- Whether a token ends a key or a value of a block map, so that it is empty. -/
def endsPair : Token → Bool
  | .key | .value | .blockEnd => true
  | _ => false

/-- The events of some nodes, with the tokens behind them. -/
abbrev Parsed := Option (List Event × List Token)

/-- Puts events before those of the rest. -/
def Parsed.after (events : List Event) : Parsed → Parsed
  | none => none
  | some (more, ts) => some (events ++ more, ts)

/-- A node, or the empty scalar if a token comes that ends the place of the node. -/
def orEmpty (ends : Token → Bool) (node : List Token → Parsed) : List Token → Parsed
  | [] => none
  | t :: ts => if ends t then some ([emptyScalar {}], t :: ts) else node (t :: ts)

/-- One part of the input, then another. -/
def andThen (first next : List Token → Parsed) (ts : List Token) : Parsed := do
  let (events, ts') ← first ts
  (next ts').after events

/-- A value behind its colon; without a colon it is the empty scalar. -/
def valueOr (ends : Token → Bool) (node : List Token → Parsed) : List Token → Parsed
  | .value :: ts => orEmpty ends node ts
  | [] => none
  | ts => some ([emptyScalar {}], ts)

/-- Whether a token ends a key or a value inside square brackets. -/
def endsListItem : Token → Bool
  | .flowEntry | .flowSequenceEnd => true
  | _ => false

/-- Whether a token ends a key or a value inside curly brackets. -/
def endsMapItem : Token → Bool
  | .value | .flowEntry | .flowMappingEnd => true
  | _ => false

/-- Whether a token ends a value inside curly brackets. -/
def endsMapValue : Token → Bool
  | .flowEntry | .flowMappingEnd => true
  | _ => false

mutual

/-- The events of the node at the head of the tokens. -/
def node? (forms : ShortForms) : Nat → Place → List Token → Parsed
  | 0, _, _ => none
  | fuel + 1, place, ts =>
    match ts with
    | .alias name :: ts => some ([.alias name], ts)
    | ts => do
      let (marks, ts) ← marks? forms ts
      content? forms fuel place marks ts

/-- The events of a node behind its marks. -/
def content? (forms : ShortForms) : Nat → Place → Marks → List Token → Parsed
  | 0, _, _, _ => none
  | fuel + 1, place, marks, ts =>
    match ts with
    | [] => none
    | .scalar text plain :: ts => some ([.scalar marks.ofScalar text plain], ts)
    | .flowSequenceStart :: ts => (flowItem? forms fuel ts).after [.listStart marks]
    | .flowMappingStart :: ts => (flowPair? forms fuel ts).after [.mapStart marks]
    | t :: rest =>
      if t == .blockEntry && place == .inBlockMap then
        (indentlessItems? forms fuel ts).after [.listStart marks]
      else if t == .blockSequenceStart && place != .inFlow then
        (blockItems? forms fuel rest).after [.listStart marks]
      else if t == .blockMappingStart && place != .inFlow then
        (blockPairs? forms fuel rest).after [.mapStart marks]
      else if marks.anchor.isSome || marks.tag.isSome then some ([emptyScalar marks], ts)
      else none

/-- The items of a block list up to its end. -/
def blockItems? (forms : ShortForms) : Nat → List Token → Parsed
  | 0, _ => none
  | fuel + 1, ts =>
    match ts with
    | .blockEntry :: ts =>
      andThen (orEmpty endsEntry (node? forms fuel .inBlock)) (blockItems? forms fuel) ts
    | .blockEnd :: ts => some ([.stop], ts)
    | _ => none

/-- The items of a block list that is not indented; any other token is behind its end. -/
def indentlessItems? (forms : ShortForms) : Nat → List Token → Parsed
  | 0, _ => none
  | fuel + 1, ts =>
    match ts with
    | .blockEntry :: ts =>
      andThen (orEmpty endsIndentless (node? forms fuel .inBlock)) (indentlessItems? forms fuel) ts
    | [] => none
    | ts => some ([.stop], ts)

/-- The entries of a block map up to its end. -/
def blockPairs? (forms : ShortForms) : Nat → List Token → Parsed
  | 0, _ => none
  | fuel + 1, ts =>
    let child := orEmpty endsPair (node? forms fuel .inBlockMap)
    let pair := valueOr endsPair (node? forms fuel .inBlockMap)
    match ts with
    | .key :: ts => andThen child (andThen pair (blockPairs? forms fuel)) ts
    | .blockEnd :: ts => some ([.stop], ts)
    | _ => none

/-- The items of a list in brackets behind its first item, up to the closing bracket. -/
def flowItems? (forms : ShortForms) : Nat → List Token → Parsed
  | 0, _ => none
  | fuel + 1, ts =>
    match ts with
    | .flowSequenceEnd :: ts => some ([.stop], ts)
    | .flowEntry :: ts => flowItem? forms fuel ts
    | _ => none

/-- One item of a list in brackets, and those after it.  An item with a colon is a map with one
entry. -/
def flowItem? (forms : ShortForms) : Nat → List Token → Parsed
  | 0, _ => none
  | fuel + 1, ts =>
    match ts with
    | .flowSequenceEnd :: ts => some ([.stop], ts)
    | .key :: ts =>
      let value := valueOr endsListItem (node? forms fuel .inFlow)
      let others (ts : List Token) := (flowItems? forms fuel ts).after [.stop]
      (andThen (flowKey? forms fuel) (andThen value others) ts).after [.mapStart {}]
    | ts => andThen (node? forms fuel .inFlow) (flowItems? forms fuel) ts

/-- The key of a map with one entry in a list in brackets.  Where no key is written, the token that
ends its place is passed. -/
def flowKey? (forms : ShortForms) : Nat → List Token → Parsed
  | 0, _ => none
  | fuel + 1, ts =>
    match ts with
    | [] => none
    | t :: rest =>
      if t == .value || endsListItem t then some ([emptyScalar {}], rest)
      else node? forms fuel .inFlow ts

/-- The entries of a map in brackets behind its first entry, up to the closing bracket. -/
def flowPairs? (forms : ShortForms) : Nat → List Token → Parsed
  | 0, _ => none
  | fuel + 1, ts =>
    match ts with
    | .flowMappingEnd :: ts => some ([.stop], ts)
    | .flowEntry :: ts => flowPair? forms fuel ts
    | _ => none

/-- One entry of a map in brackets, and those after it. -/
def flowPair? (forms : ShortForms) : Nat → List Token → Parsed
  | 0, _ => none
  | fuel + 1, ts =>
    match ts with
    | .flowMappingEnd :: ts => some ([.stop], ts)
    | .key :: ts =>
      let value := valueOr endsMapValue (node? forms fuel .inFlow)
      andThen (orEmpty endsMapItem (node? forms fuel .inFlow))
        (andThen value (flowPairs? forms fuel)) ts
    | ts =>
      let others (ts : List Token) := (flowPairs? forms fuel ts).after [emptyScalar {}]
      andThen (node? forms fuel .inFlow) others ts

end

/-! ## Documents -/

/-- The events of the first document of a text.  If there are none, a fault lies in them. -/
structure Draft where
  events : Option (List Event)
  /-- Whether a fault or a second document follows. -/
  more : Bool := false

/-- Whether nothing is left but the ends of documents. -/
def isOver : List Token → Bool
  | .documentEnd :: ts => isOver ts
  | [.streamEnd] => true
  | _ => false

/-- Whether a document without a start ends before a token, so that it is empty. -/
def endsDocument : Token → Bool
  | .version _ _ | .tagShort _ _ | .documentStart | .documentEnd | .streamEnd => true
  | _ => false

/-- The document whose root is to be read. -/
def draftOf (root : Parsed) : Draft :=
  match root with
  | none => { events := none }
  | some (events, ts) => { events := some events, more := !isOver ts }

/-- The first document of the tokens of a text.  A text without any holds the empty document. -/
def firstDraft (ts : List Token) : Draft :=
  let fuel := 4 * (ts.length + 2)
  match ts with
  | [] => { events := none }
  | [.streamEnd] => { events := some [emptyScalar {}] }
  | t :: _ =>
    if t == .documentEnd || !endsDocument t then
      draftOf (node? usualForms fuel .inBlock ts)
    else
      match directives? false [] ts with
      | some (forms, .documentStart :: ts) =>
        draftOf (orEmpty endsDocument (node? forms fuel .inBlock) ts)
      | _ => { events := none }

end Yaml
end DataRecipe
