import CallAtlas.Graph.Component
import Std.Data.HashMap

/-! # Ranks

    The rank of a node is the greatest number of steps from one component to another on a
    walk of calls that ends at it. Names that call each other share a rank, and a callee
    outside its caller's component has a greater one. One pass over the components is enough,
    from callers to callees: when a component is ranked, all that call into it have been.

    The ranks of all nodes are kept in a list. They can also be kept by component, in a table
    that has a node only if it is in some component; both give the same ranks.
-/

namespace CallAtlas.Graph

namespace CallGraph

/-! ## Section 1: Node by node -/

/-- One more than the greatest rank from which a component is entered, zero if it is never
    entered. -/
def entryRank (g : CallGraph) (ranks : Array Nat) (component : List Nat) : Nat :=
  g.calls.foldl (fun rank (a, b) =>
    if component.contains b && !component.contains a then max rank (ranks.getD a 0 + 1)
    else rank) 0

/-- Gives the nodes of a component their rank. -/
def rankComponent (g : CallGraph) (component : List Nat) (ranks : Array Nat) : Array Nat :=
  let rank := g.entryRank ranks component
  component.foldl (fun ranks i => ranks.setIfInBounds i rank) ranks

/-- The rank of every node. -/
def ranks (g : CallGraph) : List Nat :=
  (g.components.foldr g.rankComponent (Array.replicate g.nodes.length 0)).toList

/-! ## Section 2: Component by component -/

/-- The number of the component of each node that is in one. -/
def componentTable (components : List (List Nat)) : Std.HashMap Nat Nat :=
  components.zipIdx.foldl (fun table (component, k) =>
    component.foldl (fun table i => table.insert i k) table) ∅

/-- The rank of the component with a given number, from the ranks of the components that call
    it. There is none if a caller is in no component. -/
def componentRank? (g : CallGraph) (table : Std.HashMap Nat Nat) (ranks : Array Nat)
    (component : List Nat) (k : Nat) : Option Nat :=
  component.foldlM (fun rank i =>
    (Search.successors (reversed g.calls) i).foldlM (fun rank caller => do
      let other ← table[caller]?
      if other = k then return rank
      return max rank ((← ranks[other]?) + 1)) rank) 0

/-- The ranks of the components, found from the last to the first. -/
def componentRanks? (g : CallGraph) (components : List (List Nat)) : Option (Array Nat) :=
  let table := componentTable components
  components.zipIdx.foldrM (fun (component, k) ranks => do
    return ranks.setIfInBounds k (← g.componentRank? table ranks component k))
    (Array.replicate components.length 0)

/-- The rank of each node that is in a component. -/
def rankTable? (g : CallGraph) : Option (Std.HashMap Nat Nat) := do
  let components := g.components
  let ranks ← g.componentRanks? components
  return (componentTable components).filterMap fun _ k => ranks[k]?

end CallGraph

end CallAtlas.Graph
