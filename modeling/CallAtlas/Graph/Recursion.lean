import CallAtlas.Graph.Component

/-! # Recursion

    Which names can call themselves, directly or through others, and which of them belong
    together. Two names belong together if each can reach the other by calls.
-/

namespace CallAtlas.Graph

namespace CallGraph

/-- Whether the nodes of a component can reach themselves: a single one must call itself. -/
def isRecursive (g : CallGraph) : List Nat → Bool
  | [i] => g.calls.contains (i, i)
  | component => 1 < component.length

/-- The groups of nodes that reach each other, by their first node, each in order. -/
def recursiveGroups (g : CallGraph) : List (List Nat) :=
  ((g.components.filter g.isRecursive).map g.sortNodes).mergeSort
    fun c d => g.sortKey (c.headD 0) ≤ g.sortKey (d.headD 0)

/-- The same groups by the names of their nodes. -/
def recursiveNames (g : CallGraph) : List (List String) :=
  g.recursiveGroups.map fun group => group.map g.nameAt

end CallGraph

end CallAtlas.Graph
