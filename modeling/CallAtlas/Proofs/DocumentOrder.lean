import CallAtlas.Syntax.Walk
import Mathlib.Data.List.Basic
import Mathlib.Data.Prod.Lex

/-! # Document order

    A walk with a stack makes the visits of a tree in the order in which `Node.visits` lists
    them, so whatever a walk computes is a fold over that list. Where the parts of every node
    lie within it, one behind the other, this is the order in which the nodes start in the
    text.
-/

namespace CallAtlas.Syntax

open CallAtlas.Text

/-! ## Section 1: What lies below a visit -/

namespace Visit

/-- A visit and those of all nodes below it, in document order. -/
def below (v : Visit) : List Visit := v.node.visitsFrom v.parent v.previous

theorem visitsOfChildren_eq (parent : Node) (previous : Option Node) (ns : List Node) :
    parent.visitsOfChildren previous ns = (parent.visitsOfParts previous ns).flatMap below := by
  induction ns generalizing previous with
  | nil => rfl
  | cons n ns ih =>
    rw [Node.visitsOfChildren, Node.visitsOfParts, List.flatMap_cons, ih]
    rfl

theorem below_eq (v : Visit) : v.below = v :: v.parts.flatMap below := by
  obtain ⟨⟨kind, start, stop, field, extra, health, children⟩, parent, previous⟩ := v
  rw [parts, ← visitsOfChildren_eq]
  rfl

theorem visits_eq_below (root : Node) : root.visits = (ofRoot root).below := rfl

/-- To show that something holds of every stack, follow a walk: it holds of the empty stack,
    and of a stack if it holds of that which the next step leaves. -/
theorem stack_induction {motive : List Visit → Prop} (nil : motive [])
    (cons : ∀ v stack, motive (v.parts ++ stack) → motive (v :: stack)) :
    ∀ stack, motive stack
  | [] => nil
  | v :: stack => cons v stack (stack_induction nil cons (v.parts ++ stack))
  termination_by stack => pending stack
  decreasing_by exact pending_parts_append v stack

theorem flatMap_below_cons (v : Visit) (stack : List Visit) :
    (v :: stack).flatMap below = v :: (v.parts ++ stack).flatMap below := by
  rw [List.flatMap_cons, below_eq, List.flatMap_append, List.cons_append]

/-- The nodes of the visits below a stack are the nodes below it. -/
theorem map_node_flatMap_below (stack : List Visit) :
    (stack.flatMap below).map (·.node) = stack.flatMap (·.node.preorder) := by
  induction stack using stack_induction with
  | nil => rfl
  | cons v stack ih =>
    rw [flatMap_below_cons, List.map_cons, ih, List.flatMap_append, List.flatMap_cons,
      v.node.preorder_eq, ← v.map_node_parts, List.flatMap_map, List.cons_append]

theorem map_node_below (v : Visit) : v.below.map (·.node) = v.node.preorder := by
  simpa using map_node_flatMap_below [v]

theorem map_node_visits (root : Node) : root.visits.map (·.node) = root.preorder :=
  map_node_below (ofRoot root)

theorem node_mem_preorder {root : Node} {v : Visit} (h : v ∈ root.visits) :
    v.node ∈ root.preorder :=
  map_node_visits root ▸ List.mem_map_of_mem h

/-- All that lies below a visit follows it without a gap. -/
theorem exists_rest_of_split {stack before after : List Visit} {v : Visit}
    (h : stack.flatMap below = before ++ v :: after) :
    ∃ rest, after = v.parts.flatMap below ++ rest := by
  induction stack using stack_induction generalizing before with
  | nil => simp at h
  | cons u stack ih =>
    rw [flatMap_below_cons] at h
    cases before with
    | nil =>
      -- `v` is the top of the stack, and its parts take its place.
      obtain ⟨rfl, rfl⟩ := List.cons.inj h
      exact ⟨stack.flatMap below, List.flatMap_append⟩
    | cons b before => exact ih (List.cons.inj h).2

/-- The visits of all parts are those of the first parts and those of the others. -/
theorem exists_visitsOfChildren_append (parent : Node) (previous : Option Node)
    (ms ns : List Node) :
    ∃ between, parent.visitsOfChildren previous (ms ++ ns) =
      parent.visitsOfChildren previous ms ++ parent.visitsOfChildren between ns := by
  induction ms generalizing previous with
  | nil => exact ⟨previous, rfl⟩
  | cons m ms ih =>
    obtain ⟨between, h⟩ := ih (some m)
    refine ⟨between, ?_⟩
    rw [List.cons_append, Node.visitsOfChildren, h, Node.visitsOfChildren, List.append_assoc]

/-- Between a visit and that of one of its parts stand the visits of the parts before. -/
theorem exists_split_at_part {root part : Node} {before after : List Visit} {v : Visit}
    {earlier later : List Node} (hsplit : root.visits = before ++ v :: after)
    (hparts : v.node.children = earlier ++ part :: later) :
    ∃ w rest, w.node = part ∧ after = v.node.visitsOfChildren none earlier ++ w :: rest := by
  -- After `v` come its parts, of which those before `part` are the first.
  rw [visits_eq_below, ← List.flatMap_singleton below] at hsplit
  obtain ⟨rest, hrest⟩ := exists_rest_of_split hsplit
  rw [parts, ← visitsOfChildren_eq, hparts] at hrest
  obtain ⟨between, hbetween⟩ :=
    exists_visitsOfChildren_append v.node none earlier (part :: later)
  have hpart : part.visitsFrom (some v.node) between = below ⟨part, some v.node, between⟩ := rfl
  rw [hbetween, Node.visitsOfChildren, hpart, below_eq, List.append_assoc, List.cons_append,
    List.cons_append] at hrest
  exact ⟨_, _, rfl, hrest⟩

/-! ## Section 2: Parents and siblings -/

theorem mem_visitsOfParts {parent : Node} {previous : Option Node} {ns : List Node} {w : Visit}
    (h : w ∈ parent.visitsOfParts previous ns) : w.parent = some parent ∧ w.node ∈ ns := by
  induction ns generalizing previous with
  | nil => exact absurd h List.not_mem_nil
  | cons n ns ih =>
    rcases List.mem_cons.mp h with rfl | h
    · exact ⟨rfl, List.mem_cons_self⟩
    · exact ⟨(ih h).1, List.mem_cons_of_mem n (ih h).2⟩

/-- A visit below a stack is one of the stack, or it has a parent below the stack. -/
theorem mem_or_parent_of_mem_flatMap {stack : List Visit} {w : Visit}
    (h : w ∈ stack.flatMap below) :
    w ∈ stack ∨ ∃ p ∈ stack.flatMap below, w.parent = some p.node ∧ w.node ∈ p.node.children := by
  induction stack using stack_induction with
  | nil => simp at h
  | cons v stack ih =>
    rw [flatMap_below_cons] at h ⊢
    rcases List.mem_cons.mp h with rfl | h
    · exact .inl List.mem_cons_self
    rcases ih h with hw | ⟨p, hp, hparent⟩
    · -- The next stack holds the parts of `v`, whose parent is `v`, and the rest of this one.
      rcases List.mem_append.mp hw with hw | hw
      · exact .inr ⟨v, List.mem_cons_self, mem_visitsOfParts hw⟩
      · exact .inl (List.mem_cons_of_mem v hw)
    · exact .inr ⟨p, List.mem_cons_of_mem v hp, hparent⟩

/-- A visit of a tree is that of its root, or the node is a part of the parent it comes with. -/
theorem root_or_parent_of_mem_visits {root : Node} {w : Visit} (h : w ∈ root.visits) :
    w = ofRoot root ∨ ∃ p ∈ root.preorder, w.parent = some p ∧ w.node ∈ p.children := by
  have hstack : w ∈ [ofRoot root].flatMap below := by simpa [visits_eq_below] using h
  rcases mem_or_parent_of_mem_flatMap hstack with hw | ⟨p, hp, hparent⟩
  · exact .inl (List.mem_singleton.mp hw)
  · refine .inr ⟨p.node, ?_, hparent⟩
    rw [← map_node_visits, visits_eq_below]
    exact List.mem_map_of_mem (by simpa using hp)

end Visit

/-! ## Section 3: Walks -/

section Walks

variable {σ ε : Type}

/-- A walk acts on what lies below its stack in document order. -/
theorem walk_eq_foldlM (act : σ → Visit → Except ε σ) (s : σ) (stack : List Visit) :
    walk act s stack = (stack.flatMap Visit.below).foldlM act s := by
  fun_induction walk act s stack with
  | case1 s => rfl
  | case2 s v stack e he =>
    -- The action ends the walk, and the fold at the same visit.
    rw [Visit.flatMap_below_cons, List.foldlM_cons, he]
    rfl
  | case3 s v stack t ht ih =>
    rw [Visit.flatMap_below_cons, List.foldlM_cons, ht, ih]
    rfl

theorem walk_root (act : σ → Visit → Except ε σ) (s : σ) (root : Node) :
    walk act s [.ofRoot root] = root.visits.foldlM act s := by
  rw [walk_eq_foldlM, Visit.visits_eq_below, List.flatMap_singleton]

/-- Where the action depends on the node alone, the walk is a fold over the nodes. -/
theorem walk_root_of_node (act : σ → Node → Except ε σ) (s : σ) (root : Node) :
    walk (fun s v => act s v.node) s [.ofRoot root] = root.preorder.foldlM act s := by
  rw [walk_root, ← Visit.map_node_visits, List.foldlM_map]

end Walks

end CallAtlas.Syntax

/-! ## Section 4: Trees in order -/

namespace CallAtlas.Text.Place

/-- Line and column, counted from one, the line first. -/
def position (p : Place) : ℕ ×ₗ ℕ := toLex (p.row + 1, p.column + 1)

/-- A place comes before another in both counts, by bytes and by lines. -/
instance : Preorder Place := Preorder.lift fun p => (p.byte, p.position)

theorem le_iff {p q : Place} : p ≤ q ↔ p.byte ≤ q.byte ∧ p.position ≤ q.position := Iff.rfl

instance : DecidableLE Place := fun _ _ => decidable_of_iff _ le_iff.symm

end CallAtlas.Text.Place

namespace CallAtlas.Syntax

open CallAtlas.Text

namespace Node

/-- Line and column of the start of a node. -/
def position (n : Node) : ℕ ×ₗ ℕ := n.start.position

/-- The parts of a node lie within it, one behind the other. -/
structure Orderly (n : Node) : Prop where
  start_le_stop : n.start ≤ n.stop
  within : ∀ c ∈ n.children, n.start ≤ c.start ∧ c.stop ≤ n.stop
  apart : n.children.Pairwise fun a b => a.stop ≤ b.start

instance (n : Node) : Decidable n.Orderly :=
  decidable_of_iff (n.start ≤ n.stop ∧ (∀ c ∈ n.children, n.start ≤ c.start ∧ c.stop ≤ n.stop) ∧
    n.children.Pairwise fun a b => a.stop ≤ b.start)
    ⟨fun h => ⟨h.1, h.2.1, h.2.2⟩, fun h => ⟨h.1, h.2, h.3⟩⟩

/-- All nodes of a tree are orderly. -/
def InOrder (root : Node) : Prop := ∀ n ∈ root.preorder, n.Orderly

instance (root : Node) : Decidable root.InOrder := List.decidableBAll _ _

theorem InOrder.orderly {n : Node} (h : n.InOrder) : n.Orderly := h n n.mem_preorder_self

theorem InOrder.child {n c : Node} (h : n.InOrder) (hc : c ∈ n.children) : c.InOrder :=
  fun m hm => h m (mem_preorder_of_mem_children hc hm)

end Node

namespace Visit

theorem inOrder_parts_append {v : Visit} {stack : List Visit}
    (h : ∀ u ∈ v :: stack, u.node.InOrder) : ∀ u ∈ v.parts ++ stack, u.node.InOrder := by
  intro u hu
  rcases List.mem_append.mp hu with hu | hu
  · exact (h v List.mem_cons_self).child (mem_visitsOfParts hu).2
  · exact h u (List.mem_cons_of_mem v hu)

/-- What lies below a stack starts no earlier than the nodes of the stack do. -/
theorem le_start_of_mem_flatMap_below {p : Place} {stack : List Visit}
    (hin : ∀ u ∈ stack, u.node.InOrder) (hp : ∀ u ∈ stack, p ≤ u.node.start) :
    ∀ w ∈ stack.flatMap below, p ≤ w.node.start := by
  induction stack using stack_induction with
  | nil => simp
  | cons v stack ih =>
    have hv := (hin v List.mem_cons_self).orderly
    intro w hw
    rw [flatMap_below_cons] at hw
    rcases List.mem_cons.mp hw with rfl | hw
    · exact hp w List.mem_cons_self
    refine ih (inOrder_parts_append hin) ?_ w hw
    intro u hu
    rcases List.mem_append.mp hu with hu | hu
    · have hvu := (hv.within u.node (mem_visitsOfParts hu).2).1
      exact (hp v List.mem_cons_self).trans hvu
    · exact hp u (List.mem_cons_of_mem v hu)

/-- Below a stack whose nodes lie one behind the other, nodes start in document order. -/
theorem pairwise_start_flatMap_below {stack : List Visit} (hin : ∀ u ∈ stack, u.node.InOrder)
    (hstack : stack.Pairwise fun a b => a.node.stop ≤ b.node.start) :
    (stack.flatMap below).Pairwise fun a b => a.node.start ≤ b.node.start := by
  induction stack using stack_induction with
  | nil => exact .nil
  | cons v stack ih =>
    have hv := (hin v List.mem_cons_self).orderly
    rw [List.pairwise_cons] at hstack
    rw [flatMap_below_cons, List.pairwise_cons]
    refine ⟨?_, ih (inOrder_parts_append hin) ?_⟩
    · -- The parts of `v` start within it, and the rest of the stack behind it.
      refine le_start_of_mem_flatMap_below (inOrder_parts_append hin) ?_
      intro u hu
      rcases List.mem_append.mp hu with hu | hu
      · exact (hv.within u.node (mem_visitsOfParts hu).2).1
      · exact hv.start_le_stop.trans (hstack.1 u hu)
    · rw [List.pairwise_append]
      refine ⟨?_, hstack.2, ?_⟩
      · have hapart := hv.apart
        rw [← v.map_node_parts, List.pairwise_map] at hapart
        exact hapart
      · intro a ha b hb
        exact (hv.within a.node (mem_visitsOfParts ha).2).2.trans (hstack.1 b hb)

theorem pairwise_start_visits {root : Node} (h : root.InOrder) :
    root.visits.Pairwise fun a b => a.node.start ≤ b.node.start := by
  have hin : ∀ u ∈ [ofRoot root], u.node.InOrder := by
    intro u hu
    rw [List.mem_singleton.mp hu]
    exact h
  have hstack := pairwise_start_flatMap_below hin (List.pairwise_singleton _ _)
  rwa [List.flatMap_singleton] at hstack

theorem orderly_of_mem_visits {root : Node} (h : root.InOrder) {v : Visit} (hv : v ∈ root.visits) :
    v.node.Orderly := by
  refine h v.node ?_
  rw [← map_node_visits]
  exact List.mem_map_of_mem hv

/-- A visit starts no later than those that follow it. -/
theorem position_le_of_split {root : Node} (h : root.InOrder) {before after : List Visit}
    {v w : Visit} (hsplit : root.visits = before ++ v :: after) (hw : w ∈ v :: after) :
    v.node.position ≤ w.node.position := by
  have hsorted := pairwise_start_visits h
  rw [hsplit, List.pairwise_append, List.pairwise_cons] at hsorted
  rcases List.mem_cons.mp hw with rfl | hw
  · exact le_rfl
  · exact (Place.le_iff.mp (hsorted.2.1.1 w hw)).2

end Visit

end CallAtlas.Syntax
