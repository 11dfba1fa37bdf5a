import DataRecipe.Document.Node
import DataRecipe.Decimal.Written
/-!
# JSON values

An integer is kept exactly; any other number is a binary value.  In a normal form the
members of every object are sorted by key and no key is repeated; a document that is only
to be written may keep its members in another order.

Main definitions:

- Definition `Json`: a value.
- Definition `Json.insert`: sets a member of an object.
- Definition `Json.ofNode`: the value that a document tree denotes, in normal form.
- Definition `Json.sorted`: a value in normal form.
- Definition `Json.same`: equality of values, where numbers compare as numbers.
-/

namespace DataRecipe

/-- A JSON value. -/
inductive Json where
  | null
  | bool (b : Bool)
  | int (n : Int)
  | float (x : Float)
  | string (s : String)
  | array (items : List Json)
  | object (members : List (String × Json))
  deriving Inhabited

namespace Json

open Document

/-- Sets a member, in the order of the keys. -/
def insert (key : String) (value : Json) : List (String × Json) → List (String × Json)
  | [] => [(key, value)]
  | (k, v) :: rest =>
    if key < k then (key, value) :: (k, v) :: rest
    else if key == k then (key, value) :: rest
    else (k, v) :: insert key value rest

/-- The object with the given members, of which a later one overrides an earlier. -/
def ofMembers (members : List (String × Json)) : Json :=
  .object (members.foldl (fun acc kv => insert kv.1 kv.2 acc) [])

/-- A number, `null` where it is not finite. -/
def ofFloat (x : Float) : Json := if x.isFinite then .float x else .null

mutual

/-- The value that a document tree denotes; a key that is no text is dropped. -/
def ofNode : Node → Json
  | .null => .null
  | .bool b => .bool b
  | .int n => .int n
  | .float x => ofFloat x
  | .string s => .string s
  | .list items => .array (ofItems items)
  | .map entries => ofMembers (ofEntries entries)

/-- The values of the items of a list. -/
def ofItems : List Node → List Json
  | [] => []
  | n :: rest => ofNode n :: ofItems rest

/-- The members of a map. -/
def ofEntries : List (Node × Node) → List (String × Json)
  | [] => []
  | (k, v) :: rest =>
    match k with
    | .string s => (s, ofNode v) :: ofEntries rest
    | _ => ofEntries rest

end

mutual

/-- A value with the members of every object in the order of their keys. -/
def sorted : Json → Json
  | .array items => .array (sortedItems items)
  | .object members => ofMembers (sortedMembers members)
  | .null => .null
  | .bool b => .bool b
  | .int n => .int n
  | .float x => .float x
  | .string s => .string s

/-- The items of an array with their members in order. -/
def sortedItems : List Json → List Json
  | [] => []
  | v :: rest => sorted v :: sortedItems rest

/-- The members of an object with their own members in order. -/
def sortedMembers : List (String × Json) → List (String × Json)
  | [] => []
  | (k, v) :: rest => (k, sorted v) :: sortedMembers rest

end

mutual

/-- The document tree of a value. -/
def toNode : Json → Node
  | .null => .null
  | .bool b => .bool b
  | .int n => .int n
  | .float x => .float x
  | .string s => .string s
  | .array items => .list (toNodes items)
  | .object members => .map (toEntries members)

/-- The document trees of the items of an array. -/
def toNodes : List Json → List Node
  | [] => []
  | v :: rest => toNode v :: toNodes rest

/-- The entries of an object. -/
def toEntries : List (String × Json) → List (Node × Node)
  | [] => []
  | (k, v) :: rest => (.string k, toNode v) :: toEntries rest

end

mutual

/-- Equality of values, where a float equals a float as numbers do. -/
def same : Json → Json → Bool
  | .null, .null => true
  | .bool a, .bool b => a == b
  | .int a, .int b => a == b
  | .float a, .float b => a == b
  | .string a, .string b => a == b
  | .array a, .array b => sameItems a b
  | .object a, .object b => sameMembers a b
  | _, _ => false

/-- Equality of lists of values. -/
def sameItems : List Json → List Json → Bool
  | [], [] => true
  | a :: as, b :: bs => same a b && sameItems as bs
  | _, _ => false

/-- Equality of lists of members. -/
def sameMembers : List (String × Json) → List (String × Json) → Bool
  | [], [] => true
  | (j, a) :: as, (k, b) :: bs => j == k && same a b && sameMembers as bs
  | _, _ => false

end

/-- A member of an object; `null` where there is none. -/
def member (key : String) : Json → Json
  | .object members => ((members.find? fun kv => kv.1 == key).map (·.2)).getD .null
  | _ => .null

/-- The text of a text value. -/
def string? : Json → Option String
  | .string s => some s
  | _ => none

/-- The items of an array. -/
def array? : Json → Option (List Json)
  | .array items => some items
  | _ => none

/-- The number of a numeric value. -/
def number? : Json → Option Float
  | .int n => (Node.int n).number?
  | .float x => some x
  | _ => none

end Json
end DataRecipe
