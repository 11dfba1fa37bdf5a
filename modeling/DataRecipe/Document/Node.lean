/-!
# Document trees

What a text in one of the data formats denotes: scalars, lists, and maps with their
entries in written order, repetitions included.

Main definitions:

- Definition `Node`: a document tree.
- Definition `Node.entry?`: the value of a key that is written once.
-/

namespace DataRecipe
namespace Document

/-- A document tree. -/
inductive Node where
  | null
  | bool (b : Bool)
  | int (n : Int)
  | float (x : Float)
  | string (s : String)
  | list (items : List Node)
  | map (entries : List (Node × Node))
  deriving Inhabited

namespace Node

/-- The number that a node denotes. -/
def number? : Node → Option Float
  | .int n =>
    some (if n < 0 then -(UInt64.ofNat (-n).toNat).toFloat else (UInt64.ofNat n.toNat).toFloat)
  | .float x => some x
  | _ => none

/-- The truth value that a node denotes. -/
def bool? : Node → Option Bool
  | .bool b => some b
  | _ => none

/-- The text that a node denotes. -/
def string? : Node → Option String
  | .string s => some s
  | _ => none

/-- The items of a list. -/
def list? : Node → Option (List Node)
  | .list items => some items
  | _ => none

end Node
end Document
end DataRecipe
