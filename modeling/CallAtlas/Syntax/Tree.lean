import CallAtlas.Syntax.Kind
import CallAtlas.Text.Place

/-! # Syntax trees

    A node has a kind, an extent in the text, the role it plays in its parent and its parts in
    the order of the text. Comments and line continuations are extra nodes: they may stand
    anywhere and belong to no construct. A tree of a damaged text may also hold nodes for
    text that fits nowhere and nodes for tokens that are missing.

    The nodes of a tree have an order, each before its parts: `Node.preorder` lists them in
    it, and `Node.visits` lists each with its parent and the sibling before it.
-/

namespace CallAtlas.Syntax

open CallAtlas.Text

/-! ## Section 1: Nodes -/

/-- Whether a node stands for sound text, for text that fits nowhere, or for a token that
    the text lacks. -/
inductive Health where
  | sound | error | missing
  deriving DecidableEq, Inhabited

/-- A node of a syntax tree. -/
structure Node where
  kind : Kind
  start : Place
  stop : Place
  field : Option Field
  extra : Bool
  health : Health
  children : List Node
  deriving Inhabited

namespace Node

def isNamed (n : Node) : Bool := n.kind.isNamed

def isPhrase (n : Node) (p : Phrase) : Bool := n.kind == .phrase p

/-- The 1-based line on which the node starts. -/
def line (n : Node) : Nat := n.start.row + 1

/-- The first part that plays a role. -/
def childByField (n : Node) (f : Field) : Option Node :=
  n.children.find? fun c => c.field == some f

/-! ## Section 2: Document order -/

mutual

/-- The node and all nodes below it, each before its parts. -/
def preorder : Node → List Node
  | ⟨kind, start, stop, field, extra, health, children⟩ =>
    ⟨kind, start, stop, field, extra, health, children⟩ :: preorderAll children

def preorderAll : List Node → List Node
  | [] => []
  | n :: ns => preorder n ++ preorderAll ns

end

theorem preorderAll_eq (ns : List Node) : preorderAll ns = ns.flatMap preorder := by
  induction ns with
  | nil => rfl
  | cons n ns ih => rw [preorderAll, ih, List.flatMap_cons]

theorem preorder_eq (n : Node) : n.preorder = n :: n.children.flatMap preorder := by
  obtain ⟨kind, start, stop, field, extra, health, children⟩ := n
  rw [preorder, preorderAll_eq]

theorem mem_preorder_self (n : Node) : n ∈ n.preorder := by
  rw [n.preorder_eq]
  exact List.mem_cons_self

theorem mem_preorder_of_mem_children {n c m : Node} (hc : c ∈ n.children)
    (hm : m ∈ c.preorder) : m ∈ n.preorder := by
  rw [n.preorder_eq]
  exact List.mem_cons_of_mem n (List.mem_flatMap.mpr ⟨c, hc, hm⟩)

end Node

/-- A node with its parent and the sibling before it. -/
structure Visit where
  node : Node
  parent : Option Node
  previous : Option Node

namespace Node

mutual

/-- The visits of a node and of all nodes below it, in document order. -/
def visitsFrom (parent previous : Option Node) : Node → List Visit
  | ⟨kind, start, stop, field, extra, health, children⟩ =>
    let n : Node := ⟨kind, start, stop, field, extra, health, children⟩
    ⟨n, parent, previous⟩ :: visitsOfChildren n none children

def visitsOfChildren (parent : Node) (previous : Option Node) : List Node → List Visit
  | [] => []
  | n :: ns => visitsFrom (some parent) previous n ++ visitsOfChildren parent (some n) ns

end

/-- The visits of a whole tree, in document order. -/
def visits (root : Node) : List Visit := root.visitsFrom none none

/-! ## Section 3: The last token -/

mutual

/-- The last token of a node that is not extra: the end of the descent through last parts
    that are not extra. -/
def lastToken : Node → Node
  | ⟨kind, start, stop, field, extra, health, children⟩ =>
    (lastTokenOf children).getD ⟨kind, start, stop, field, extra, health, children⟩

/-- The last token of the last node of a list that is not extra. -/
def lastTokenOf : List Node → Option Node
  | [] => none
  | n :: ns =>
    match lastTokenOf ns with
    | some token => some token
    | none => if n.extra then none else some (lastToken n)

end

end Node

end CallAtlas.Syntax
