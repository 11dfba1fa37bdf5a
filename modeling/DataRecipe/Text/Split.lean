/-!
# Splitting and replacing literal texts

Occurrences of a separator are found from left to right and do not overlap.
-/

namespace DataRecipe
namespace Text

/-- The pieces between the occurrences of `sep`, read while skipping `skip` characters of an
occurrence already seen and holding the current piece in reverse. -/
def splitFrom {α : Type} [BEq α] (sep : List α) : Nat → List α → List α → List (List α)
  | _, piece, [] => [piece.reverse]
  | skip + 1, piece, _ :: rest => splitFrom sep skip piece rest
  | 0, piece, c :: rest =>
    if sep.isPrefixOf (c :: rest) then
      piece.reverse :: splitFrom sep (sep.length - 1) [] rest
    else splitFrom sep 0 (c :: piece) rest

/-- The pieces between the occurrences of the non-empty list `sep`. -/
def splitOn {α : Type} [BEq α] (sep text : List α) : List (List α) := splitFrom sep 0 [] text

/-- The pieces with `sep` between each two. -/
def join {α : Type} (sep : List α) (pieces : List (List α)) : List α := sep.intercalate pieces

/-- Every occurrence of the non-empty list `old` becomes `new`. -/
def replaceAll {α : Type} [BEq α] (old new text : List α) : List α := join new (splitOn old text)

/-- The pieces between the characters that satisfy `p`. -/
def splitWhere {α : Type} (p : α → Bool) : List α → List (List α)
  | [] => [[]]
  | c :: rest =>
    if p c then [] :: splitWhere p rest
    else
      match splitWhere p rest with
      | [] => [[c]]
      | piece :: pieces => (c :: piece) :: pieces

/-- Pieces of `n` elements each (of one element when `n` is zero), the last one possibly
shorter. -/
def chunks {α : Type} (n : Nat) : List α → List (List α)
  | [] => []
  | x :: xs => (x :: xs.take (n - 1)) :: chunks n (xs.drop (n - 1))
termination_by xs => xs.length

/-- A text with the pieces of `pieces` joined by `sep`. -/
def joined (sep : String) (pieces : List String) : String := sep.intercalate pieces

/-- The part of `s` before the first `sep` and the part after it. -/
def cutAt? (sep : Char) (s : List Char) : Option (List Char × List Char) :=
  match s.dropWhile (· != sep) with
  | [] => none
  | _ :: rest => some (s.takeWhile (· != sep), rest)

/-- Whether `part` occurs in `whole`. -/
def occursIn {α : Type} [BEq α] (part : List α) : List α → Bool
  | [] => part.isEmpty
  | c :: rest => part.isPrefixOf (c :: rest) || occursIn part rest

/-- A text padded on the right to `width` characters. -/
def padRight (width : Nat) (s : String) : String :=
  s ++ String.ofList (List.replicate (width - s.length) ' ')

/-- A text padded on the left to `width` characters. -/
def padLeft (width : Nat) (s : String) : String :=
  String.ofList (List.replicate (width - s.length) ' ') ++ s

end Text
end DataRecipe
