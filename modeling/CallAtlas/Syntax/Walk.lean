import CallAtlas.Syntax.Tree

/-! # Walks through a tree

    A walk keeps a stack of the visits that are still to be made. It takes the one on top,
    acts on it and puts the visits of its parts in its place, the first part on top. An action
    may end the walk; otherwise it ends because every step takes a node off the nodes at and
    below the stack.
-/

namespace CallAtlas.Syntax

/-! ## Section 1: Parts -/

/-- The visits of consecutive parts of a node, given the part before them. -/
def Node.visitsOfParts (parent : Node) (previous : Option Node) : List Node → List Visit
  | [] => []
  | n :: ns => ⟨n, some parent, previous⟩ :: visitsOfParts parent (some n) ns

namespace Visit

/-- The visit of a node that stands alone. -/
def ofRoot (root : Node) : Visit := ⟨root, none, none⟩

/-- The visits of the parts of a node. -/
def parts (v : Visit) : List Visit := v.node.visitsOfParts none v.node.children

theorem map_node_visitsOfParts (parent : Node) (previous : Option Node) (ns : List Node) :
    (parent.visitsOfParts previous ns).map (·.node) = ns := by
  induction ns generalizing previous with
  | nil => rfl
  | cons n ns ih => rw [Node.visitsOfParts, List.map_cons, ih]

theorem map_node_parts (v : Visit) : v.parts.map (·.node) = v.node.children :=
  map_node_visitsOfParts v.node none v.node.children

end Visit

/-! ## Section 2: Walks -/

/-- The number of nodes at and below a stack. -/
def pending (stack : List Visit) : Nat := (stack.flatMap (·.node.preorder)).length

theorem pending_parts_append (v : Visit) (stack : List Visit) :
    pending (v.parts ++ stack) < pending (v :: stack) := by
  have hparts : v.parts.flatMap (·.node.preorder) = v.node.children.flatMap Node.preorder := by
    rw [← v.map_node_parts, List.flatMap_map]
  simp only [pending, List.flatMap_append, List.flatMap_cons, List.length_append, hparts]
  rw [v.node.preorder_eq, List.length_cons]
  omega

/-- Acts on all nodes at and below a stack, unless an action ends the walk before. -/
def walk {σ ε : Type} (act : σ → Visit → Except ε σ) (s : σ) : List Visit → Except ε σ
  | [] => .ok s
  | v :: stack =>
    match act s v with
    | .error e => .error e
    | .ok s => walk act s (v.parts ++ stack)
  termination_by stack => pending stack
  decreasing_by exact pending_parts_append v stack

end CallAtlas.Syntax
