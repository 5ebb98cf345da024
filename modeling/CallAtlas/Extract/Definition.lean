import CallAtlas.Extract.Error

/-! # Function definitions

    The functions that a source defines, in document order, those inside other definitions
    right after the one they are in.
-/

namespace CallAtlas.Extract

open CallAtlas.Syntax
open CallAtlas.Text

/-- A function definition in a syntax tree. -/
structure Definition where
  name : String
  /-- Header and body. -/
  node : Node
  /-- From the first word to the last token of the body; decorators and trailing comments
      lie outside. -/
  span : Span
  isAsync : Bool
  /-- Decorators in source order. -/
  decorators : List Node
  deriving Inhabited

namespace Definition

/-- The line of the first word. -/
def line (d : Definition) : Nat := d.span.startLine

end Definition

/-- Whether a definition starts with the word `async`. -/
def startsAsync (n : Node) : Bool :=
  match n.children with
  | first :: _ => first.kind.text == "async"
  | [] => false

/-- The decorators of a node, given its parent. -/
def decoratorsIn (parent : Option Node) : List Node :=
  match parent with
  | some p =>
    if p.isPhrase .decoratedDefinition then p.children.filter (·.isPhrase .decorator) else []
  | none => []

/-- The definition at a visit, if there is one that is wanted. -/
def definitionAt (source : String) (includeAsync : Bool) (v : Visit) :
    Except Failure (Option Definition) :=
  let n := v.node
  if !n.isPhrase .functionDefinition then .ok none
  else if startsAsync n && !includeAsync then .ok none
  else
    match n.childByField .name with
    | none => .error (.error (.malformedTree (.unnamed n.line)))
    | some name =>
      match textOf source name with
      | .error e => .error e
      | .ok name => .ok (some
          { name, node := n, span := Span.between n.start n.lastToken.stop
            isAsync := startsAsync n, decorators := decoratorsIn v.parent })

/-- Adds the definition at a visit, if there is one, to those found before. -/
def collectDefinition (source : String) (includeAsync : Bool) (found : Array Definition)
    (v : Visit) : Except Failure (Array Definition) :=
  (definitionAt source includeAsync v).map fun d => found ++ d.toArray

/-- All definitions of a tree. Without `includeAsync`, async definitions are left out, but
    not those inside them. -/
def definitions (source : String) (includeAsync : Bool) (tree : Node) :
    Except Failure (List Definition) :=
  (walk (collectDefinition source includeAsync) #[] [.ofRoot tree]).map (·.toList)

end CallAtlas.Extract
