import CallAtlas.Graph.CallGraph
import CallAtlas.Text.Replace

/-! # Mermaid

    A call graph as a Mermaid flowchart. Functions are rounded boxes; names that are not
    functions are stadiums, reached by dotted arrows.
-/

namespace CallAtlas.Export

open CallAtlas.Graph CallAtlas.Text

namespace Mermaid

/-- The characters that no label holds, each with the entity that stands for it. -/
def entities : List (Char × String) :=
  [('"', "&quot;"), ('<', "&lt;"), ('>', "&gt;"), ('\x7b', "&#123;"), ('\x7d', "&#125;")]

/-- The name as the inside of a quoted label. -/
def escape (name : String) : String := replaceChain entities name

def nodeLine (g : CallGraph) (i : Nat) : String :=
  let label := escape (g.nameAt i)
  "    n" ++ toString i
    ++ (if g.isFunctionAt i then "(\"" ++ label ++ "\")" else "([\"" ++ label ++ "\"])") ++ "\n"

def callLine (g : CallGraph) (call : Nat × Nat) : String :=
  "    n" ++ toString call.1 ++ (if g.isFunctionAt call.2 then " --> n" else " -.-> n")
    ++ toString call.2 ++ "\n"

/-- The flowchart of some nodes and calls. -/
def render (g : CallGraph) (nodes : List Nat) (calls : List (Nat × Nat)) : String :=
  "flowchart TB\n" ++ String.join (nodes.map (nodeLine g)) ++ String.join (calls.map (callLine g))

end Mermaid

end CallAtlas.Export
