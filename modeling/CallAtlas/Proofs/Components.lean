import CallAtlas.Proofs.DepthFirst
import Mathlib.Data.List.Nodup
import Mathlib.Tactic.ByContra

/-! # Components

    The second search gathers what nodes reach by calls, starting from the nodes that the
    first one left last. Each time this is a component, and nothing gathered later is called
    from it. Both follow from one invariant: what has been gathered is closed under calls.
-/

namespace CallAtlas.Graph

open Relation
open Search

variable {arcs : List (Nat × Nat)}

/-! ## Section 1: Nodes that reach each other -/

/-- Arcs lead from each of two nodes to the other. -/
def Mutual (arcs : List (Nat × Nat)) (i j : Nat) : Prop := Leads arcs i j ∧ Leads arcs j i

theorem Mutual.refl (arcs : List (Nat × Nat)) (i : Nat) : Mutual arcs i i := ⟨.refl, .refl⟩

theorem Mutual.symm {i j : Nat} (h : Mutual arcs i j) : Mutual arcs j i := ⟨h.2, h.1⟩

theorem Mutual.trans {i j k : Nat} (h₁ : Mutual arcs i j) (h₂ : Mutual arcs j k) :
    Mutual arcs i k := ⟨h₁.1.trans h₂.1, h₂.2.trans h₁.2⟩

/-- A set of nodes that no arc leaves. -/
def NodeSet.IsClosed (arcs : List (Nat × Nat)) (s : NodeSet) : Prop :=
  ∀ i j, (i, j) ∈ arcs → s.contains i = true → s.contains j = true

theorem NodeSet.IsClosed.leads {s : NodeSet} (h : s.IsClosed arcs) {i j : Nat}
    (hi : s.contains i = true) (hlead : Leads arcs i j) : s.contains j = true := by
  induction hlead with
  | refl => exact hi
  | tail _ harc ih => exact h _ _ harc ih

theorem leads_of_reversed {i j : Nat} (h : Leads (reversed arcs) i j) : Leads arcs j i := by
  induction h with
  | refl => exact .refl
  | tail _ harc ih => exact .head (mem_reversed.mp harc) ih

/-! ## Section 2: What one start gathers -/

/-- What the second search can rely on before it turns to the nodes of `order`. -/
structure Gathering (arcs : List (Nat × Nat)) (met : NodeSet) (order : List Nat) : Prop where
  arcs_lt : ∀ c ∈ arcs, c.1 < met.bound ∧ c.2 < met.bound
  closed : met.IsClosed arcs
  cover : ∀ i, met.lacks i = true → i ∈ order
  leaving : Leaving (reversed arcs) order

variable {met : NodeSet} {i : Nat} {rest : List Nat}

/-- From the node left last, arcs lead to nodes outside the closed set only if these were
    met inside it: what was left before it was entered has no arc back. -/
theorem Gathering.leads_back (h : Gathering arcs met (i :: rest)) {j : Nat}
    (hlead : Leads arcs i j) (hj : met.lacks j = true) : Leads arcs j i := by
  obtain ⟨inside, older, rfl, hinside, holder⟩ : ∃ inside older, rest = inside ++ older ∧
      (∀ k ∈ inside, Leads (reversed arcs) i k) ∧
      ∀ k ∈ older, ∀ l, (k, l) ∈ reversed arcs → l ≠ i ∧ l ∉ inside := by
    cases h.leaving with
    | cons _ hinside holder => exact ⟨_, _, rfl, hinside, holder⟩
  -- Along the way from `i`, no node falls behind what was met inside `i`: it would be older,
  -- and older nodes have no reversed arc into `i` or what was met inside it.
  have hmem : j ∈ i :: inside := by
    induction hlead with
    | refl => exact List.mem_cons_self
    | @tail k j _ harc ih =>
      have hk : met.lacks k = true := by
        by_contra hnot
        have hmet := NodeSet.contains_of_not_lacks (h.arcs_lt _ harc).1 hnot
        exact NodeSet.not_contains_of_lacks hj (h.closed k j harc hmet)
      rcases List.mem_cons.mp (h.cover j hj) with rfl | hmem
      · exact List.mem_cons_self
      · rcases List.mem_append.mp hmem with hmem | hmem
        · exact List.mem_cons_of_mem _ hmem
        · obtain ⟨hne, hnot⟩ := holder j hmem k (mem_reversed.mpr harc)
          rcases List.mem_cons.mp (ih hk) with rfl | hin <;> contradiction
  rcases List.mem_cons.mp hmem with rfl | hmem
  · exact .refl
  · exact leads_of_reversed (hinside j hmem)

/-- A visit from a node outside the closed set leads to a closed set again. -/
theorem Gathering.closed_visited (h : Gathering arcs met (i :: rest)) {found : List Nat}
    {t : Search} (hv : Visited arcs ⟨met, []⟩ [i] found t) : t.met.IsClosed arcs := by
  intro j k harc hj
  rcases (hv.met_iff j).mp hj with hj | hj
  · exact (hv.met_iff k).mpr (Or.inl (h.closed j k harc hj))
  · exact hv.closed j hj k harc (h.arcs_lt _ harc).2

/-- What is gathered from a node is its component. -/
theorem Gathering.mem_found_iff (h : Gathering arcs met (i :: rest)) (hi : met.lacks i = true)
    {found : List Nat} {t : Search} (hv : Visited arcs ⟨met, []⟩ [i] found t) {j : Nat} :
    j ∈ found ↔ Mutual arcs i j := by
  constructor
  · intro hj
    obtain ⟨k, hk, hlead⟩ := hv.reached j hj
    rw [List.mem_singleton.mp hk] at hlead
    exact ⟨hlead, h.leads_back hlead (hv.lacks j hj)⟩
  · intro hmutual
    have hi_met : t.met.contains i = true :=
      hv.visited i List.mem_cons_self (NodeSet.lacks_iff.mp hi).1
    rcases (hv.met_iff j).mp ((h.closed_visited hv).leads hi_met hmutual.1) with hj | hj
    · -- A node gathered before does not lead back to `i`.
      exact absurd (h.closed.leads hj hmutual.2) (NodeSet.not_contains_of_lacks hi)
    · exact hj

/-- The step: what one start gathers leaves the rest of the order as it should be. -/
theorem Gathering.next (h : Gathering arcs met (i :: rest)) (hi : met.lacks i = true)
    {found : List Nat} {t : Search} (hv : Visited arcs ⟨met, []⟩ [i] found t) :
    Gathering arcs t.met rest where
  arcs_lt := by
    rw [hv.bound_eq]
    exact h.arcs_lt
  closed := h.closed_visited hv
  cover := by
    intro j hj
    have hlacks : met.lacks j = true :=
      NodeSet.lacks_mono hv.bound_eq (fun k hk => (hv.met_iff k).mpr (Or.inl hk)) hj
    rcases List.mem_cons.mp (h.cover j hlacks) with rfl | hmem
    · exact absurd (hv.visited j List.mem_cons_self (NodeSet.lacks_iff.mp hi).1)
        (NodeSet.not_contains_of_lacks hj)
    · exact hmem
  leaving := by
    cases h.leaving with
    | cons hrest _ _ => exact hrest

theorem Gathering.skip (h : Gathering arcs met (i :: rest)) (hi : ¬ met.lacks i = true) :
    Gathering arcs met rest where
  arcs_lt := h.arcs_lt
  closed := h.closed
  cover := by
    intro j hj
    rcases List.mem_cons.mp (h.cover j hj) with rfl | hmem
    · exact absurd hj hi
    · exact hmem
  leaving := by
    cases h.leaving with
    | cons hrest _ _ => exact hrest

/-! ## Section 3: All components -/

/-- The components of the nodes outside a closed set, each before those that lead to it. -/
structure Decomposition (arcs : List (Nat × Nat)) (met : NodeSet) (components : List (List Nat)) :
    Prop where
  mem_iff : ∀ i, i ∈ components.flatten ↔ met.lacks i = true
  nodup : components.flatten.Nodup
  nonempty : ∀ c ∈ components, c ≠ []
  mutual_iff : ∀ c ∈ components, ∀ i ∈ c, ∀ j, j ∈ c ↔ Mutual arcs i j
  backward : components.Pairwise fun c d => ∀ i ∈ c, ∀ j ∈ d, (i, j) ∉ arcs

/-- The component of a start comes before all that is gathered later. -/
theorem Decomposition.cons (h : Gathering arcs met (i :: rest)) (hi : met.lacks i = true)
    {found : List Nat} {t : Search} (hv : Visited arcs ⟨met, []⟩ [i] found t)
    {components : List (List Nat)} (hd : Decomposition arcs t.met components) :
    Decomposition arcs met (found :: components) := by
  have hfound : ∀ j ∈ found, t.met.contains j = true :=
    fun j hj => (hv.met_iff j).mpr (Or.inr hj)
  constructor
  · intro j
    rw [List.flatten_cons, List.mem_append, hd.mem_iff]
    constructor
    · rintro (hj | hj)
      · exact hv.lacks j hj
      · exact NodeSet.lacks_mono hv.bound_eq (fun k hk => (hv.met_iff k).mpr (Or.inl hk)) hj
    · intro hj
      by_cases hin : j ∈ found
      · exact Or.inl hin
      · refine Or.inr (NodeSet.lacks_iff.mpr ⟨?_, ?_⟩)
        · rw [hv.bound_eq]
          exact (NodeSet.lacks_iff.mp hj).1
        · by_contra hmet
          rcases (hv.met_iff j).mp (by simpa using hmet) with hmet | hmet
          · exact NodeSet.not_contains_of_lacks hj hmet
          · exact hin hmet
  · refine List.nodup_append.mpr ⟨hv.nodup, hd.nodup, ?_⟩
    rintro j hj _ hj' rfl
    exact NodeSet.not_contains_of_lacks ((hd.mem_iff j).mp hj') (hfound j hj)
  · intro c hc
    rcases List.mem_cons.mp hc with rfl | hc
    · exact List.ne_nil_of_mem ((h.mem_found_iff hi hv).mpr (.refl arcs i))
    · exact hd.nonempty c hc
  · intro c hc j hj k
    rcases List.mem_cons.mp hc with rfl | hc
    · have hij := (h.mem_found_iff hi hv).mp hj
      rw [h.mem_found_iff hi hv]
      exact ⟨hij.symm.trans, hij.trans⟩
    · exact hd.mutual_iff c hc j hj k
  · refine List.pairwise_cons.mpr ⟨?_, hd.backward⟩
    intro d hd' j hj k hk harc
    have hlacks := (hd.mem_iff k).mp (List.mem_flatten.mpr ⟨d, hd', hk⟩)
    exact NodeSet.not_contains_of_lacks hlacks (h.closed_visited hv j k harc (hfound j hj))

/-- The run: what is gathered along a leaving order is a decomposition. -/
theorem decomposition_gather (order : List Nat) (h : Gathering arcs met order) :
    Decomposition arcs met (CallGraph.gather arcs met order) := by
  induction order generalizing met with
  | nil =>
    refine ⟨?_, by simp [CallGraph.gather], by simp [CallGraph.gather],
      by simp [CallGraph.gather], by simp [CallGraph.gather]⟩
    intro i
    simpa [CallGraph.gather] using mt (h.cover i) (by simp)
  | cons i rest ih =>
    rw [CallGraph.gather]
    by_cases hi : met.lacks i = true
    · rw [if_pos hi]
      obtain ⟨found, hv⟩ := exists_visited arcs ⟨met, []⟩ [i]
      have hleft : (visitAll arcs ⟨met, []⟩ [i]).left = found := by simpa using hv.left_eq
      show Decomposition arcs met ((visitAll arcs ⟨met, []⟩ [i]).left :: _)
      rw [hleft]
      exact .cons h hi hv (ih (h.next hi hv))
    · rw [if_neg hi]
      exact ih (h.skip hi)

namespace CallGraph

variable (g : CallGraph)

theorem gathering_leavingOrder :
    Gathering g.calls (.empty g.nodes.length) g.leavingOrder := by
  obtain ⟨new, hv⟩ := exists_visited (reversed g.calls) (.start g.nodes.length)
    (List.range g.nodes.length)
  have hleft : g.leavingOrder = new := by simpa [leavingOrder, start] using hv.left_eq
  constructor
  · simpa using g.calls_lt
  · intro i j _ hi
    simp at hi
  · intro i hi
    have hlt : i < g.nodes.length := by simpa using (NodeSet.lacks_iff.mp hi).1
    have hmet := hv.visited i (List.mem_range.mpr hlt) (by simpa [start] using hlt)
    rw [hleft]
    simpa [start] using (hv.met_iff i).mp hmet
  · refine leaving_visitAll ?_ ?_ .nil
    · intro ⟨a, b⟩ hc
      simpa [start] using (g.calls_lt _ (mem_reversed.mp hc)).1
    · intro i hi
      simp [start] at hi

/-- The components of a call graph decompose its nodes. -/
theorem decomposition_components :
    Decomposition g.calls (.empty g.nodes.length) g.components :=
  decomposition_gather _ g.gathering_leavingOrder

variable {g}

theorem lt_of_mem_component {c : List Nat} (hc : c ∈ g.components) {i : Nat} (hi : i ∈ c) :
    i < g.nodes.length := by
  have hmem : i ∈ g.components.flatten := List.mem_flatten.mpr ⟨c, hc, hi⟩
  simpa using (NodeSet.lacks_iff.mp ((g.decomposition_components.mem_iff i).mp hmem)).1

theorem exists_component {i : Nat} (hi : i < g.nodes.length) : ∃ c ∈ g.components, i ∈ c := by
  rw [← List.mem_flatten, g.decomposition_components.mem_iff]
  exact NodeSet.lacks_iff.mpr ⟨by simpa using hi, by simp⟩

theorem mem_component_iff {c : List Nat} (hc : c ∈ g.components) {i j : Nat} (hi : i ∈ c) :
    j ∈ c ↔ Mutual g.calls i j :=
  g.decomposition_components.mutual_iff c hc i hi j

theorem nodup_of_mem_components {c : List Nat} (hc : c ∈ g.components) : c.Nodup :=
  (List.nodup_flatten.mp g.decomposition_components.nodup).1 c hc

theorem pairwise_disjoint_components : g.components.Pairwise List.Disjoint :=
  (List.nodup_flatten.mp g.decomposition_components.nodup).2

end CallGraph

end CallAtlas.Graph
