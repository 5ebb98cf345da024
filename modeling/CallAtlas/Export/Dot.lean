import CallAtlas.Export.Identifier
import CallAtlas.Graph.CallGraph
import CallAtlas.Text.Replace

/-! # DOT

    A call graph as a DOT digraph. The identifier of a node ends in its number, so that two
    names never share one; labels hold the names, with quotes and backslashes escaped.
-/

namespace CallAtlas.Export

open CallAtlas.Graph CallAtlas.Text

namespace Dot

/-- Backslashes come first, so that those put before quotes stay single. -/
def escapes : List (Char × String) := [('\\', "\\\\"), ('"', "\\\"")]

/-- The name as the inside of a quoted label. -/
def escape (name : String) : String := replaceChain escapes name

def nodeId (g : CallGraph) (i : Nat) : String := identifierOf (g.nameAt i) ++ "_" ++ toString i

def nodeStyle (isFunction : Bool) : String :=
  if isFunction then "shape=box fillcolor=\"#AED6F1\""
  else "shape=box style=\"filled,dashed\" fillcolor=\"#EAECEE\""

/-- A call is styled by its callee. -/
def callStyle (isFunction : Bool) : String :=
  if isFunction then "color=blue" else "color=gray style=dashed"

def nodeLine (g : CallGraph) (i : Nat) : String :=
  "    " ++ nodeId g i ++ " [label=\"" ++ escape (g.nameAt i) ++ "\" "
    ++ nodeStyle (g.isFunctionAt i) ++ "];\n"

def callLine (g : CallGraph) (call : Nat × Nat) : String :=
  "    " ++ nodeId g call.1 ++ " -> " ++ nodeId g call.2 ++ " ["
    ++ callStyle (g.isFunctionAt call.2) ++ "];\n"

def header : String :=
  "digraph call_graph \x7b\n    rankdir=TB;\n    node [style=filled fontname=monospace];\n"

/-- The digraph of some nodes and calls. -/
def render (g : CallGraph) (nodes : List Nat) (calls : List (Nat × Nat)) : String :=
  header ++ String.join (nodes.map (nodeLine g)) ++ String.join (calls.map (callLine g)) ++ "\x7d\n"

end Dot

end CallAtlas.Export
