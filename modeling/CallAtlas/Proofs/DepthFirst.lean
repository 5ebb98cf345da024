import CallAtlas.Graph.Component
import Mathlib.Logic.Relation
import Mathlib.Tactic.Tauto

/-! # Depth-first search

    What a search meets and leaves (`Visited`), and in which order it leaves (`Leaving`). A
    node is left right after all that was met while the search was inside it. Whatever had
    been left before the search entered the node has no arc to the node or to what was met
    inside it.
-/

namespace CallAtlas.Graph

open Relation

/-- Arcs lead from one node to another, along any number of them. -/
def Leads (arcs : List (Nat × Nat)) : Nat → Nat → Prop := ReflTransGen fun i j => (i, j) ∈ arcs

namespace Search

variable {arcs : List (Nat × Nat)} {s t : Search}

theorem mem_successors {i j : Nat} : j ∈ successors arcs i ↔ (i, j) ∈ arcs := by
  simp [successors]

/-! ## Section 1: The equations of the search -/

@[simp] theorem visitAll_nil : s.visitAll arcs [] = s := by
  rw [visitAll, visit]

theorem visitAll_of_met {i : Nat} {rest : List Nat} (h : ¬ s.met.lacks i = true) :
    s.visitAll arcs (i :: rest) = s.visitAll arcs rest := by
  rw [visitAll, visit, dif_neg h, visitAll]

theorem visitAll_of_lacks {i : Nat} {rest : List Nat} (h : s.met.lacks i = true) :
    s.visitAll arcs (i :: rest) =
      (((s.enter i).visitAll arcs (successors arcs i)).leave i).visitAll arcs rest := by
  rw [visitAll, visit, dif_pos h, visitAll, visitAll]

/-- To show that something holds of all visits, follow their course: nothing to visit, a
    node that has been met, a node that has not. -/
theorem visitAll_induction (arcs : List (Nat × Nat)) {P : Search → List Nat → Search → Prop}
    (nil : ∀ s, P s [] s)
    (met : ∀ s i rest t, ¬ s.met.lacks i = true → P s rest t → P s (i :: rest) t)
    (lacks : ∀ s i rest inner t, s.met.lacks i = true →
      P (s.enter i) (successors arcs i) inner → P (inner.leave i) rest t → P s (i :: rest) t)
    (s : Search) (nodes : List Nat) : P s nodes (s.visitAll arcs nodes) := by
  induction s, nodes using visit.induct arcs with
  | case1 s => simpa using nil s
  | case2 s i rest h inner ih₁ ih₂ =>
    rw [visitAll_of_lacks h]
    exact lacks s i rest _ _ h ih₁ ih₂
  | case3 s i rest h ih =>
    rw [visitAll_of_met h]
    exact met s i rest _ h ih

/-! ## Section 2: What visits do -/

/-- Visits of `nodes` lead from `s` to `t` and newly meet and leave the nodes of `new`. -/
structure Visited (arcs : List (Nat × Nat)) (s : Search) (nodes new : List Nat) (t : Search) :
    Prop where
  left_eq : t.left = new ++ s.left
  bound_eq : t.met.bound = s.met.bound
  met_iff : ∀ i, t.met.contains i = true ↔ s.met.contains i = true ∨ i ∈ new
  lacks : ∀ i ∈ new, s.met.lacks i = true
  nodup : new.Nodup
  reached : ∀ i ∈ new, ∃ j ∈ nodes, Leads arcs j i
  visited : ∀ i ∈ nodes, i < s.met.bound → t.met.contains i = true
  closed : ∀ i ∈ new, ∀ j, (i, j) ∈ arcs → j < s.met.bound → t.met.contains j = true

theorem Visited.nil (s : Search) : Visited arcs s [] [] s := by
  constructor <;> simp

/-- A node that has been met adds nothing. -/
theorem Visited.cons_of_met {i : Nat} {rest new : List Nat} (hi : ¬ s.met.lacks i = true)
    (h : Visited arcs s rest new t) : Visited arcs s (i :: rest) new t := by
  refine { h with reached := ?_, visited := ?_ }
  · intro j hj
    obtain ⟨k, hk, hlead⟩ := h.reached j hj
    exact ⟨k, List.mem_cons_of_mem _ hk, hlead⟩
  · intro j hj hbound
    rcases List.mem_cons.mp hj with rfl | hj
    · exact (h.met_iff j).mpr (Or.inl (NodeSet.contains_of_not_lacks hbound hi))
    · exact h.visited j hj hbound

/-- A node that has not been met comes with what is met inside it, and then the rest. -/
theorem Visited.cons_of_lacks {i : Nat} {rest inside behind : List Nat} {inner : Search}
    (hi : s.met.lacks i = true)
    (h₁ : Visited arcs (s.enter i) (successors arcs i) inside inner)
    (h₂ : Visited arcs (inner.leave i) rest behind t) :
    Visited arcs s (i :: rest) (behind ++ i :: inside) t := by
  obtain ⟨hi_bound, -⟩ := NodeSet.lacks_iff.mp hi
  have hbound₁ : inner.met.bound = s.met.bound := by
    rw [h₁.bound_eq, enter_met, NodeSet.bound_insert]
  have hmet₁ : ∀ j, inner.met.contains j = true ↔
      s.met.contains j = true ∨ j ∈ i :: inside := by
    intro j
    rw [h₁.met_iff, enter_met, NodeSet.contains_insert, List.mem_cons]
    tauto
  have hmet₂ : ∀ j, t.met.contains j = true ↔ inner.met.contains j = true ∨ j ∈ behind :=
    h₂.met_iff
  constructor
  · rw [h₂.left_eq, leave_left, h₁.left_eq, enter_left, List.append_assoc, List.cons_append]
  · rw [h₂.bound_eq, leave_met, hbound₁]
  · intro j
    rw [hmet₂, hmet₁, List.mem_append]
    tauto
  · intro j hj
    rcases List.mem_append.mp hj with hj | hj
    · exact NodeSet.lacks_mono hbound₁ (fun k hk => (hmet₁ k).mpr (Or.inl hk)) (h₂.lacks j hj)
    · rcases List.mem_cons.mp hj with rfl | hj
      · exact hi
      · exact NodeSet.lacks_mono (by simp)
          (fun k hk => NodeSet.contains_insert.mpr (Or.inl hk)) (h₁.lacks j hj)
  · -- What is met inside lacks when `i` has been entered, what is met behind when it is left.
    have hinside : i ∉ inside := fun hmem =>
      NodeSet.not_contains_of_lacks (h₁.lacks i hmem)
        (NodeSet.contains_insert.mpr (Or.inr ⟨rfl, hi_bound⟩))
    refine List.nodup_append.mpr ⟨h₂.nodup, List.nodup_cons.mpr ⟨hinside, h₁.nodup⟩, ?_⟩
    rintro j hj _ hj' rfl
    exact NodeSet.not_contains_of_lacks (h₂.lacks j hj) ((hmet₁ j).mpr (Or.inr hj'))
  · intro j hj
    rcases List.mem_append.mp hj with hj | hj
    · obtain ⟨k, hk, hlead⟩ := h₂.reached j hj
      exact ⟨k, List.mem_cons_of_mem _ hk, hlead⟩
    · refine ⟨i, List.mem_cons_self, ?_⟩
      rcases List.mem_cons.mp hj with rfl | hj
      · exact .refl
      · obtain ⟨k, hk, hlead⟩ := h₁.reached j hj
        exact .head (mem_successors.mp hk) hlead
  · intro j hj hlt
    rcases List.mem_cons.mp hj with rfl | hj
    · exact (hmet₂ j).mpr (Or.inl ((hmet₁ j).mpr (Or.inr List.mem_cons_self)))
    · exact h₂.visited j hj (by rwa [leave_met, hbound₁])
  · intro j hj k hk hlt
    rcases List.mem_append.mp hj with hj | hj
    · exact h₂.closed j hj k hk (by rwa [leave_met, hbound₁])
    · refine (hmet₂ k).mpr (Or.inl ?_)
      rcases List.mem_cons.mp hj with rfl | hj
      · exact h₁.visited k (mem_successors.mpr hk) (by rwa [enter_met, NodeSet.bound_insert])
      · exact h₁.closed j hj k hk (by rwa [enter_met, NodeSet.bound_insert])

theorem exists_visited (arcs : List (Nat × Nat)) (s : Search) (nodes : List Nat) :
    ∃ new, Visited arcs s nodes new (s.visitAll arcs nodes) := by
  refine visitAll_induction (P := fun s nodes t => ∃ new, Visited arcs s nodes new t) arcs
    ?_ ?_ ?_ s nodes
  · intro s
    exact ⟨[], .nil s⟩
  · rintro s i rest t hi ⟨new, h⟩
    exact ⟨new, h.cons_of_met hi⟩
  · rintro s i rest inner t hi ⟨inside, h₁⟩ ⟨behind, h₂⟩
    exact ⟨behind ++ i :: inside, h₁.cons_of_lacks hi h₂⟩

/-! ## Section 3: The order in which nodes are left -/

/-- A list of nodes in an order in which a search can leave them, the latest first. In front
    of the nodes that had been left when the search entered it, a node comes right after
    those that were met inside it. -/
inductive Leaving (arcs : List (Nat × Nat)) : List Nat → Prop
  | nil : Leaving arcs []
  | cons {i : Nat} {inside older : List Nat} :
      Leaving arcs (inside ++ older) →
      (∀ j ∈ inside, Leads arcs i j) →
      (∀ j ∈ older, ∀ k, (j, k) ∈ arcs → k ≠ i ∧ k ∉ inside) →
      Leaving arcs (i :: (inside ++ older))

/-- All that arcs lead to from nodes that have been left has been met. -/
def Closed (arcs : List (Nat × Nat)) (s : Search) : Prop :=
  ∀ i ∈ s.left, ∀ j, (i, j) ∈ arcs → s.met.contains j = true

theorem Visited.closed_left {nodes new : List Nat} (h : Visited arcs s nodes new t)
    (harcs : ∀ c ∈ arcs, c.2 < s.met.bound) (hs : Closed arcs s) : Closed arcs t := by
  intro i hi j hj
  rw [h.left_eq] at hi
  rcases List.mem_append.mp hi with hi | hi
  · exact h.closed i hi j hj (harcs _ hj)
  · exact (h.met_iff j).mpr (Or.inl (hs i hi j hj))

/-- A search that has left nodes in order goes on to leave them in order. -/
theorem leaving_visitAll {nodes : List Nat} (harcs : ∀ c ∈ arcs, c.2 < s.met.bound)
    (hclosed : Closed arcs s) (h : Leaving arcs s.left) :
    Leaving arcs (s.visitAll arcs nodes).left := by
  -- The induction is on the course of the search and not by `visitAll_induction`, since the
  -- nodes left so far have to be carried along with the search.
  induction s, nodes using visit.induct arcs with
  | case1 s => simpa using h
  | case2 s i rest hi inner ih₁ ih₂ =>
    rw [visitAll_of_lacks hi]
    obtain ⟨inside, hv⟩ := exists_visited arcs (s.enter i) (successors arcs i)
    have harcs₁ : ∀ c ∈ arcs, c.2 < (s.enter i).met.bound := by simpa using harcs
    have hclosed₁ : Closed arcs (s.enter i) :=
      fun j hj k hk => NodeSet.contains_insert.mpr (Or.inl (hclosed j hj k hk))
    apply ih₂
    · intro c hc
      rw [leave_met, show inner.1.met.bound = _ from hv.bound_eq]
      exact harcs₁ c hc
    · -- The arcs of `i` itself lead to nodes that have been visited meanwhile.
      intro j hj k hk
      rcases List.mem_cons.mp hj with rfl | hj
      · exact hv.visited k (mem_successors.mpr hk) (harcs₁ _ hk)
      · exact hv.closed_left harcs₁ hclosed₁ j hj k hk
    · have hinside : Leaving arcs (inside ++ s.left) := by
        have := ih₁ harcs₁ hclosed₁ h
        rwa [hv.left_eq] at this
      rw [leave_left, show inner.1.left = _ from hv.left_eq]
      refine .cons hinside ?_ ?_
      · intro j hj
        obtain ⟨k, hk, hlead⟩ := hv.reached j hj
        exact .head (mem_successors.mp hk) hlead
      · -- What older nodes lead to had been met before `i` was.
        intro j hj k hk
        constructor
        · rintro rfl
          exact NodeSet.not_contains_of_lacks hi (hclosed j hj k hk)
        · intro hin
          exact NodeSet.not_contains_of_lacks (hv.lacks k hin) (hclosed₁ j hj k hk)
  | case3 s i rest hi ih =>
    rw [visitAll_of_met hi]
    exact ih harcs hclosed h

end Search

end CallAtlas.Graph
