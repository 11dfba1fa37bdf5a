import DataRecipe.Yaml.Event
import DataRecipe.Yaml.Resolution
import DataRecipe.Yaml.Tokens
/-!
# YAML documents

The document tree of a text.  An alias stands for the node that was last given its name.  Lists
and maps may be nested 128 deep, and a document may follow its aliases at most a hundred times as
often as it has nodes.

Main definitions:

- Definition `nodeAt?`: the document tree that begins at an event.
- Definition `FirstDocument`: the first document of a text, and whether more follows.
- Definition `readDocument`: the document of a text.
-/

namespace DataRecipe
namespace Yaml

open Text Document

/-- How deep lists and maps may be nested. -/
def depthLimit : Nat := 128

/-- The name that an event gives to a node. -/
def Event.anchor? : Event → Option String
  | .scalar marks _ _ => marks.anchor
  | .listStart marks => marks.anchor
  | .mapStart marks => marks.anchor
  | _ => none

/-- The place of the last event that gives a name. -/
def lastAnchored? (name : String) (events : List Event) : Option Nat :=
  (events.reverse.findIdx? fun e => e.anchor? == some name).map fun i => events.length - 1 - i

/-- How often aliases may be followed in a document. -/
def aliasLimit (events : Array Event) : Nat := 100 * events.size

/-- A place in a document, and how many aliases have been followed. -/
structure Progress where
  place : Nat := 0
  followed : Nat := 0

/-- The next place. -/
def Progress.next (p : Progress) : Progress := { p with place := p.place + 1 }

/-- Whether a list or a map with these marks can be read at a depth. -/
def opens (marks : Marks) (depth : Nat) : Bool := depth != 0 && !marks.tag.any isLocalTag

mutual

/-- The document tree that begins at a place, with the place behind it. -/
def nodeAt? (events : Array Event) : Nat → Nat → Progress → Option (Node × Progress)
  | 0, _, _ => none
  | fuel + 1, depth, p =>
    match events[p.place]? with
    | some (.scalar marks text plain) => do
      return (← scalarNode? marks.tag text plain, p.next)
    | some (.alias name) => do
      let target ← lastAnchored? name (events.toList.take p.place)
      if aliasLimit events ≤ p.followed then none
      else
        let (node, q) ← nodeAt? events fuel depth ⟨target, p.followed + 1⟩
        return (node, ⟨p.place + 1, q.followed⟩)
    | some (.listStart marks) =>
      if opens marks depth then do
        let (items, q) ← itemsAt? events fuel (depth - 1) p.next
        return (.list items, q)
      else none
    | some (.mapStart marks) =>
      if opens marks depth then do
        let (entries, q) ← entriesAt? events fuel (depth - 1) p.next
        return (.map entries, q)
      else none
    | _ => none

/-- The items of a list from a place to its end. -/
def itemsAt? (events : Array Event) : Nat → Nat → Progress → Option (List Node × Progress)
  | 0, _, _ => none
  | fuel + 1, depth, p =>
    match events[p.place]? with
    | some .stop => some ([], p.next)
    | _ => do
      let (item, q) ← nodeAt? events fuel depth p
      let (items, q) ← itemsAt? events fuel depth q
      return (item :: items, q)

/-- The entries of a map from a place to its end. -/
def entriesAt? (events : Array Event) :
    Nat → Nat → Progress → Option (List (Node × Node) × Progress)
  | 0, _, _ => none
  | fuel + 1, depth, p =>
    match events[p.place]? with
    | some .stop => some ([], p.next)
    | _ => do
      let (key, q) ← nodeAt? events fuel depth p
      let (value, q) ← nodeAt? events fuel depth q
      let (entries, q) ← entriesAt? events fuel depth q
      return ((key, value) :: entries, q)

end

/-- The document tree of the events of a document. -/
def nodeOfEvents? (events : Array Event) : Option Node :=
  (nodeAt? events ((depthLimit + 2) * (events.size + 2)) depthLimit {}).map (·.1)

/-- The first document of a text. -/
structure FirstDocument where
  /-- Its document tree; if there is none, a fault lies in the document. -/
  node : Option Node
  /-- Whether a fault or a second document follows. -/
  more : Bool

/-- The first document of a text. -/
def readDocument (text : String) : FirstDocument :=
  let draft := firstDraft (tokens text)
  { node := draft.events.bind fun events => nodeOfEvents? events.toArray, more := draft.more }

end Yaml
end DataRecipe
