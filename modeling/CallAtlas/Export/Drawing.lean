import CallAtlas.Export.Dot
import CallAtlas.Export.Mermaid
import CallAtlas.Export.Selection

/-! # Drawings

    A call graph exported as text, with warnings if it is too large to be read well.
-/

namespace CallAtlas.Export

open CallAtlas.Graph

inductive Format where
  | dot
  | mermaid
  deriving DecidableEq, Inhabited

namespace Format

def words : List (String × Format) := [("dot", .dot), ("mermaid", .mermaid)]

/-- The word for a format. -/
def word : Format → String
  | dot => "dot"
  | mermaid => "mermaid"

end Format

inductive Warning where
  | manyCalls (count : Nat)
  | manyNodes (count : Nat)
  deriving DecidableEq, Inhabited

def Warning.message : Warning → String
  | manyCalls n =>
    "Large graph: " ++ toString n
      ++ " edges may render poorly in Mermaid. Consider --focus or --format dot."
  | manyNodes n =>
    "Large call graph: " ++ toString n
      ++ " nodes. Consider --focus with a small --depth for better readability."

structure Drawing where
  content : String
  nodeCount : Nat
  callCount : Nat
  warnings : List Warning
  deriving DecidableEq, Inhabited

def warningsFor (format : Format) (s : Selection) : List Warning :=
  (if format == .mermaid && 500 < s.calls.length then [.manyCalls s.calls.length] else [])
    ++ if 200 < s.nodes.length then [.manyNodes s.nodes.length] else []

/-- Draws the part of a call graph that a scope selects. -/
def draw (g : CallGraph) (format : Format) (scope : Scope) : Drawing :=
  let s := select g scope
  { content := match format with
      | .dot => Dot.render g s.nodes s.calls
      | .mermaid => Mermaid.render g s.nodes s.calls
    nodeCount := s.nodes.length
    callCount := s.calls.length
    warnings := warningsFor format s }

end CallAtlas.Export
