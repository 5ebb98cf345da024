import CallAtlas.Syntax.Tree

/-! # Trees written by hand

    A node of a short text is given by its bytes. Rows and columns follow from the bytes at
    which the lines of the text start.
-/

namespace CallAtlas.Syntax

open CallAtlas.Text

/-- The bytes at which the lines of a text start. -/
structure LineStarts where
  bytes : List Nat

namespace LineStarts

variable (lines : LineStarts)

/-- A byte lies on the last line that starts at it or before. -/
def placeOf (byte : Nat) : Place :=
  let row := lines.bytes.countP (· ≤ byte) - 1
  ⟨byte, row, byte - lines.bytes.getD row 0⟩

/-- A sound node; comments are extra. -/
def node (kind : Kind) (start stop : Nat) (field : Option Field) (children : List Node) : Node :=
  ⟨kind, lines.placeOf start, lines.placeOf stop, field, kind == .terminal .comment, .sound,
    children⟩

/-- A name of one letter. -/
def name (start : Nat) (field : Option Field) : Node :=
  lines.node (.terminal .identifier) start (start + 1) field []

/-- A call that starts with its function, the arguments in brackets. -/
def call (function : Node) (stop : Nat) (arguments : List Node) : Node :=
  lines.node (.phrase .call) function.start.byte stop none
    [function, lines.node (.phrase .argumentList) function.stop.byte stop (some .arguments)
      arguments]

/-- A member of an object, both of them names of one letter. -/
def member (start : Nat) : Node :=
  lines.node (.phrase .memberAccess) start (start + 3) (some .function)
    [lines.name start (some .object), lines.name (start + 2) (some .member)]

/-- A function whose name stands behind `def`, with the statements of its body. -/
def definition (start stop : Nat) (field : Option Field) (body : List Node) : Node :=
  lines.node (.phrase .functionDefinition) start stop field
    [lines.name (start + 4) (some .name),
      lines.node (.phrase .block) (start + 9) stop (some .body) body]

end LineStarts

end CallAtlas.Syntax
