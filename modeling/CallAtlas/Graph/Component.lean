import CallAtlas.Graph.CallGraph
import CallAtlas.Graph.NodeSet

/-! # Components

    Two nodes belong to one component if each can reach the other by calls. The components
    are found by two depth-first searches. The first goes from callees to callers and notes
    the order in which it leaves the nodes; the second goes from callers to callees, starts
    from the nodes left last, and what it newly meets from one start is a component. No call
    leads from a component to a later one.
-/

namespace CallAtlas.Graph

/-! ## Section 1: Depth-first search -/

/-- The nodes that a search has met, and those that it has left again, the latest first. -/
structure Search where
  met : NodeSet
  left : List Nat
  deriving Inhabited

namespace Search

def start (n : Nat) : Search := ⟨.empty n, []⟩

def enter (s : Search) (i : Nat) : Search := { s with met := s.met.insert i }

def leave (s : Search) (i : Nat) : Search := { s with left := i :: s.left }

@[simp] theorem enter_met (s : Search) (i : Nat) : (s.enter i).met = s.met.insert i := rfl

@[simp] theorem enter_left (s : Search) (i : Nat) : (s.enter i).left = s.left := rfl

@[simp] theorem leave_met (s : Search) (i : Nat) : (s.leave i).met = s.met := rfl

@[simp] theorem leave_left (s : Search) (i : Nat) : (s.leave i).left = i :: s.left := rfl

/-- How many nodes have not been met. -/
def unmet (s : Search) : Nat := s.met.room

/-- The ends of the arcs that start at a node. -/
def successors (arcs : List (Nat × Nat)) (i : Nat) : List Nat :=
  (arcs.filter (·.1 == i)).map (·.2)

theorem unmet_enter {s : Search} {i : Nat} (h : s.met.lacks i = true) :
    (s.enter i).unmet < s.unmet := by
  have : (s.enter i).unmet + 1 = s.unmet := NodeSet.room_insert h
  omega

/-- Visits nodes in turn. A node that has not been met is entered, then what its arcs lead to
    is visited, then it is left. -/
def visit (arcs : List (Nat × Nat)) (s : Search) :
    List Nat → { t : Search // t.unmet ≤ s.unmet }
  | [] => ⟨s, Nat.le_refl _⟩
  | i :: rest =>
    if h : s.met.lacks i = true then
      let inner := visit arcs (s.enter i) (successors arcs i)
      let outer := visit arcs (inner.1.leave i) rest
      ⟨outer.1, Nat.le_trans outer.2 (Nat.le_trans inner.2 (Nat.le_of_lt (unmet_enter h)))⟩
    else visit arcs s rest
termination_by todo => (s.unmet, todo.length)
decreasing_by
  · exact Prod.Lex.left _ _ (unmet_enter h)
  · exact Prod.Lex.left _ _ (Nat.lt_of_le_of_lt inner.2 (unmet_enter h))
  · exact Prod.Lex.right _ (by simp)

/-- The search after visits of some nodes. -/
def visitAll (arcs : List (Nat × Nat)) (s : Search) (nodes : List Nat) : Search :=
  (s.visit arcs nodes).1

end Search

/-! ## Section 2: Components -/

/-- The arcs the other way round. -/
def reversed (arcs : List (Nat × Nat)) : List (Nat × Nat) := arcs.map Prod.swap

theorem mem_reversed {arcs : List (Nat × Nat)} {i j : Nat} :
    (i, j) ∈ reversed arcs ↔ (j, i) ∈ arcs := by
  constructor
  · intro h
    obtain ⟨⟨a, b⟩, hmem, heq⟩ := List.mem_map.mp h
    obtain ⟨rfl, rfl⟩ := Prod.mk.inj heq
    exact hmem
  · intro h
    exact List.mem_map.mpr ⟨(j, i), h, rfl⟩

namespace CallGraph

/-- All nodes, those first that a search from callees to callers leaves last. -/
def leavingOrder (g : CallGraph) : List Nat :=
  ((Search.start g.nodes.length).visitAll (reversed g.calls) (List.range g.nodes.length)).left

/-- What a search newly meets from each of some nodes in turn, where it meets anything. -/
def gather (arcs : List (Nat × Nat)) (met : NodeSet) : List Nat → List (List Nat)
  | [] => []
  | i :: rest =>
    if met.lacks i then
      let found := Search.visitAll arcs ⟨met, []⟩ [i]
      found.left :: gather arcs found.met rest
    else gather arcs met rest

/-- The components, each before those that can reach it. -/
def components (g : CallGraph) : List (List Nat) :=
  gather g.calls (.empty g.nodes.length) g.leavingOrder

end CallGraph

end CallAtlas.Graph
