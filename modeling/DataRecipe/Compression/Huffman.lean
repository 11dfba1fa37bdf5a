import DataRecipe.Compression.Bits
/-!
# Canonical prefix codes

Codes that are given by the lengths of their words: shorter words come first, and among
words of one length those of smaller symbols.

Main definitions:

- Definition `PrefixCode.ofLengths`: the code with given lengths.
- Definition `PrefixCode.decode`: the symbol at a position of a byte string.
-/

namespace DataRecipe
namespace Compression

/-- A canonical code: how many words there are of each length from one on, and the symbols in the
order of their words. -/
structure PrefixCode where
  counts : List Nat
  symbols : Array Nat

/-- The symbols whose words have a given length. -/
def symbolsOfLength (lengths : List Nat) (n : Nat) : List Nat :=
  (lengths.zipIdx.filter fun p => p.1 == n).map (·.2)

/-- The code with given lengths of at most `longest`; length zero stands for no word. -/
def PrefixCode.ofLengths (longest : Nat) (lengths : List Nat) : PrefixCode :=
  let groups := (List.range' 1 longest).map (symbolsOfLength lengths)
  ⟨groups.map List.length, groups.flatten.toArray⟩

/-- The room that words take of all words of length `longest`. -/
def codeRoom (longest : Nat) (lengths : List Nat) : Nat :=
  ((lengths.filter (· != 0)).map fun n => Nat.pow 2 (longest - n)).foldl Nat.add 0

/-- The number of symbols that have a word. -/
def usedSymbols (lengths : List Nat) : Nat := (lengths.filter (· != 0)).length

/-- Whether a code fills all the room there is. -/
def isComplete (longest : Nat) (lengths : List Nat) : Bool :=
  codeRoom longest lengths == Nat.pow 2 longest

/-- What comes of reading a symbol. -/
inductive SymbolRead where
  | symbol (value : Nat) (next : Nat)
  /-- The input ends within a word. -/
  | truncated
  /-- No word has these bits. -/
  | unknown

/-- Reads on bit by bit: `code` are the bits so far, `first` is the first word of this length, and
`index` the place of its symbol. -/
def PrefixCode.descend (symbols : Array Nat) (bit? : Nat → Option Nat) :
    List Nat → Nat → Nat → Nat → Nat → SymbolRead
  | [], _, _, _, _ => .unknown
  | count :: counts, pos, code, first, index =>
    match bit? pos with
    | none => .truncated
    | some b =>
      let code := 2 * code + b
      let first := 2 * first
      if code < first + count then .symbol (symbols.getD (index + (code - first)) 0) (pos + 1)
      else descend symbols bit? counts (pos + 1) code (first + count) (index + count)

/-- The symbol at a position, given the bits. -/
def PrefixCode.decode (c : PrefixCode) (bit? : Nat → Option Nat) (pos : Nat) : SymbolRead :=
  descend c.symbols bit? c.counts pos 0 0 0

end Compression
end DataRecipe
