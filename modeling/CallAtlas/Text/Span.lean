import CallAtlas.Text.Place
import CallAtlas.Text.Utf8

/-! # Spans

    A stretch of a text: bytes counted from zero, the last one excluded, and the lines of its
    first and last character, counted from one.
-/

namespace CallAtlas.Text

structure Span where
  startByte : Nat
  endByte : Nat
  startLine : Nat
  endLine : Nat
  deriving DecidableEq, Inhabited

namespace Span

/-- From one place to another. -/
def between (first last : Place) : Span :=
  ⟨first.byte, last.byte, first.row + 1, last.row + 1⟩

/-- The text that a span covers; none if the span is reversed, leaves the text or cuts
    through a character. -/
def slice (s : Span) (text : String) : Option String :=
  if s.endByte < s.startByte then none
  else
    match dropBytes text.toList s.startByte with
    | none => none
    | some rest => (takeBytes rest (s.endByte - s.startByte)).map String.ofList

end Span

end CallAtlas.Text
