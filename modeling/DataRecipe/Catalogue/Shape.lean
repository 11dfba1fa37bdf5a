import DataRecipe.Operation.Basic
/-!
# Shapes of operations

Ways to make operations out of functions on texts, bytes, and documents.

Main definitions:

- Definitions `onText`, `onBytes`, `onJson`: the action of a function on the contents.
- Definition `Highlighter.inPlace`: selections stay where they are.
- Definition `Highlighter.spanwise`: every span of a selection maps on its own.
-/

namespace DataRecipe

open Text

/-- An action on the text of the input. -/
def onText (f : String → List Argument → Except OperationError Value) : Action :=
  .ordinary fun v args =>
    match v.takeText with
    | .ok s => f s args
    | .error e => .error (.dish e)

/-- An action on the bytes of the input. -/
def onBytes (f : Bytes → List Argument → Except OperationError Value) : Action :=
  .ordinary fun v args =>
    match v.takeBytes with
    | .ok data => f data args
    | .error e => .error (.dish e)

/-- An action on the document of the input. -/
def onJson (f : Json → List Argument → Except OperationError Value) : Action :=
  .ordinary fun v args =>
    match v.takeJson with
    | .ok j => f j args
    | .error e => .error (.dish e)

namespace Highlighter

/-- Selections stay where they are. -/
def inPlace : Highlighter := ⟨fun _ spans => some spans, fun _ spans => some spans⟩

/-- Every span of a selection maps on its own. -/
def spanwise (forward backward : Span → Span) : Highlighter :=
  ⟨fun _ spans => some (spans.map forward), fun _ spans => some (spans.map backward)⟩

end Highlighter
end DataRecipe
