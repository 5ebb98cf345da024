import CallAtlas.Proofs.Building
import CallAtlas.Proofs.RecursiveGroups

/-! # Callers and callees

    Who calls a name, and whom it calls, is answered from the list of all calls: the far ends
    are sorted by the places of their names, and a node that equals the one before it is
    dropped. Repeated calls give repeated ends, so each end is listed once only because no two
    nodes have the same place. The two questions look at the same calls from either end.
-/

namespace CallAtlas.Graph

open CallAtlas.Extract

namespace CallGraph

open Store

/-! ## Section 1: Lists without repeats -/

theorem mem_dropRepeats {i : Nat} {xs : List Nat} : i ∈ dropRepeats xs ↔ i ∈ xs := by
  fun_induction dropRepeats xs with
  | case1 => simp
  | case2 j => simp
  | case3 j rest ih =>
    rw [ih]
    simp
  | case4 j k rest hne ih => rw [List.mem_cons, List.mem_cons, ih]

/-- Of a list sorted by a key that tells its elements apart, no element is left twice. -/
theorem pairwise_dropRepeats {key : Nat → Nat} {xs : List Nat}
    (hinj : ∀ i ∈ xs, ∀ j ∈ xs, key i = key j → i = j)
    (hsorted : xs.Pairwise fun i j => key i ≤ key j) :
    (dropRepeats xs).Pairwise fun i j => key i < key j := by
  fun_induction dropRepeats xs with
  | case1 => exact .nil
  | case2 i => exact List.pairwise_singleton _ i
  | case3 i rest ih =>
    have hrest : ∀ j ∈ i :: rest, j ∈ i :: i :: rest := fun j => List.mem_cons_of_mem i
    apply ih
    · intro j hj k hk
      exact hinj j (hrest j hj) k (hrest k hk)
    · exact hsorted.of_cons
  | case4 i j rest hne ih =>
    obtain ⟨hhead, htail⟩ := List.pairwise_cons.mp hsorted
    have hrest : ∀ k ∈ j :: rest, k ∈ i :: j :: rest := fun k => List.mem_cons_of_mem i
    have hij : key i < key j := by
      have hle := hhead j List.mem_cons_self
      have hkey : key i ≠ key j := by
        intro heq
        exact hne (hinj i List.mem_cons_self j (hrest j List.mem_cons_self) heq)
      omega
    refine List.pairwise_cons.mpr ⟨?_, ih (fun k hk l hl => ?_) htail⟩
    · -- Whatever is left comes after `j`, the first element that differs from `i`.
      intro k hk
      rcases List.mem_cons.mp (mem_dropRepeats.mp hk) with rfl | hk
      · exact hij
      · have hle := (List.pairwise_cons.mp htail).1 k hk
        omega
    · exact hinj k (hrest k hk) l (hrest l hl)

/-! ## Section 2: Nodes in the order of their names -/

variable {g : CallGraph}

theorem indexOf?_nameAt {i : Nat} (h : i < g.nodes.length) : g.indexOf? (g.nameAt i) = some i := by
  have hi : i < g.names.length := by simpa [names] using h
  rw [indexOf?_eq_some_iff, nameAt_eq_getElem hi]
  exact List.getElem?_eq_getElem hi

theorem nameAt_of_indexOf? {name : String} {i : Nat} (h : g.indexOf? name = some i) :
    g.nameAt i = name := by
  obtain ⟨hlt, hname⟩ := List.getElem?_eq_some_iff.mp (indexOf?_eq_some_iff.mp h)
  rw [nameAt_eq_getElem hlt, hname]

theorem mem_sortedNames_iff {nodes : List Nat} {name : String} :
    name ∈ g.sortedNames nodes ↔ ∃ i ∈ nodes, g.nameAt i = name := by
  simp [sortedNames, mem_dropRepeats, mem_sortNodes]

theorem pairwise_sortedNames {nodes : List Nat} (h : ∀ i ∈ nodes, i < g.nodes.length) :
    (g.sortedNames nodes).Pairwise fun a b => g.names.idxOf a < g.names.idxOf b := by
  have hlt : ∀ i ∈ g.sortNodes nodes, i < g.nodes.length := by
    intro i hi
    exact h i (mem_sortNodes.mp hi)
  have hinj : ∀ i ∈ g.sortNodes nodes, ∀ j ∈ g.sortNodes nodes,
      g.sortKey i = g.sortKey j → i = j := by
    intro i hi j hj heq
    rwa [sortKey_eq (hlt i hi), sortKey_eq (hlt j hj)] at heq
  have hle : (g.sortNodes nodes).Pairwise fun i j => g.sortKey i ≤ g.sortKey j :=
    pairwise_mergeSort_key g.sortKey nodes
  refine List.pairwise_map.mpr ((pairwise_dropRepeats hinj hle).imp_of_mem ?_)
  intro i j hi hj hij
  have hi := hlt i (mem_dropRepeats.mp hi)
  have hj := hlt j (mem_dropRepeats.mp hj)
  rw [idxOf_nameAt hi, idxOf_nameAt hj]
  rwa [sortKey_eq hi, sortKey_eq hj] at hij

/-! ## Section 3: Both ends of a call -/

theorem mem_across_iff {near far : Nat × Nat → Nat}
    (hnear : ∀ c ∈ g.calls, near c < g.nodes.length) {a b : String} :
    b ∈ g.across near far a ↔ ∃ c ∈ g.calls, g.nameAt (near c) = a ∧ g.nameAt (far c) = b := by
  unfold across
  cases ha : g.indexOf? a with
  | none =>
    -- A name without a node is at no end of a call.
    simp only [List.not_mem_nil, false_iff]
    rintro ⟨c, hc, rfl, -⟩
    rw [indexOf?_nameAt (hnear c hc)] at ha
    cases ha
  | some i =>
    have hnode : ∀ c ∈ g.calls, near c = i ↔ g.nameAt (near c) = a := by
      intro c hc
      constructor
      · rintro rfl
        exact nameAt_of_indexOf? ha
      · intro hname
        rw [← hname, indexOf?_nameAt (hnear c hc)] at ha
        exact Option.some.inj ha
    simp only [mem_sortedNames_iff, List.mem_map, List.mem_filter, beq_iff_eq]
    constructor
    · rintro ⟨_, ⟨c, ⟨hc, hi⟩, rfl⟩, hb⟩
      exact ⟨c, hc, (hnode c hc).mp hi, hb⟩
    · rintro ⟨c, hc, hname, hb⟩
      exact ⟨far c, ⟨c, ⟨hc, (hnode c hc).mpr hname⟩, rfl⟩, hb⟩

/-- What a list of names that answers a question about a name promises: it keeps the order of
    the names of the graph, nothing is repeated, and it is empty if the name is not known. -/
structure Answers (g : CallGraph) (name : String) (answers : List String) : Prop where
  ordered : answers.Pairwise fun a b => g.names.idxOf a < g.names.idxOf b
  nodup : answers.Nodup
  unknown : name ∉ g.names → answers = []

theorem answers_across {near far : Nat × Nat → Nat}
    (hfar : ∀ c ∈ g.calls, far c < g.nodes.length) (a : String) :
    g.Answers a (g.across near far a) := by
  have hordered : (g.across near far a).Pairwise fun x y => g.names.idxOf x < g.names.idxOf y := by
    unfold across
    cases g.indexOf? a with
    | none => exact .nil
    | some i =>
      apply pairwise_sortedNames
      intro j hj
      obtain ⟨c, hc, rfl⟩ := List.mem_map.mp hj
      exact hfar c (List.mem_filter.mp hc).1
  refine ⟨hordered, hordered.imp ?_, ?_⟩
  · rintro x y hlt rfl
    exact Nat.lt_irrefl _ hlt
  · intro ha
    rw [across, indexOf?_eq_none_iff.mpr ha]

theorem mem_callees_iff {a b : String} : b ∈ g.callees a ↔ g.Calls a b :=
  mem_across_iff fun c hc => (g.calls_lt c hc).1

theorem mem_callers_iff {a b : String} : a ∈ g.callers b ↔ g.Calls a b := by
  have hcallers : a ∈ g.callers b ↔ ∃ c ∈ g.calls, g.nameAt c.2 = b ∧ g.nameAt c.1 = a :=
    mem_across_iff fun c hc => (g.calls_lt c hc).2
  rw [hcallers]
  exact exists_congr fun c => and_congr_right fun _ => and_comm

/-! ## Section 4: The calls of a graph by name -/

theorem nameAt_idxOf {name : String} (h : name ∈ g.names) :
    g.nameAt (g.names.idxOf name) = name := nameAt_of_indexOf? (indexOf?_eq_idxOf h)

/-- After some steps, one name calls another if a step has added that call. -/
theorem calls_run_iff {steps : List Step} {a b : String} :
    (empty.run steps).Calls a b ↔ .call a b ∈ steps := by
  have hcall : (a, b) ∈ steps.filterMap Step.call? ↔ .call a b ∈ steps := by
    rw [List.mem_filterMap]
    constructor
    · rintro ⟨s, hs, heq⟩
      cases s with
      | function name code => cases heq
      | call caller callee =>
        cases heq
        exact hs
    · intro hs
      exact ⟨_, hs, rfl⟩
  rw [← hcall]
  unfold Calls
  rw [calls_run]
  constructor
  · rintro ⟨_, harc, rfl, rfl⟩
    obtain ⟨c, hc, rfl⟩ := List.mem_map.mp harc
    obtain ⟨hcaller, hcallee⟩ := mem_names_of_call hc
    rwa [nameAt_idxOf hcaller, nameAt_idxOf hcallee]
  · intro hc
    obtain ⟨hcaller, hcallee⟩ := mem_names_of_call hc
    exact ⟨_, List.mem_map_of_mem hc, nameAt_idxOf hcaller, nameAt_idxOf hcallee⟩

theorem calls_ofDataset_iff {d : Dataset} {a b : String} :
    (ofDataset d).Calls a b ↔ ⟨a, b⟩ ∈ d.calls := by
  rw [ofDataset, calls_run_iff, stepsOf, List.mem_append]
  constructor
  · rintro (hstep | hstep)
    · obtain ⟨name, -, heq⟩ := List.mem_map.mp hstep
      cases heq
    · obtain ⟨e, he, heq⟩ := List.mem_map.mp hstep
      cases heq
      exact he
  · intro he
    exact .inr (List.mem_map.mpr ⟨_, he, rfl⟩)

/-- **Callers and callees.** However a graph has been built, a name is a callee of another if
    and only if a step has added that call, and if and only if the other is a caller of it.
    Both lists keep the order of the names, so nothing is repeated, and both are empty for a
    name that the graph does not know. In the graph of a dataset the callees of a name are
    those that the dataset lists, and to have an edge is to have a callee. -/
theorem callers_callees_dual :
    (∀ (steps : List Step) (a b : String),
      (b ∈ (empty.run steps).callees a ↔ .call a b ∈ steps) ∧
      (b ∈ (empty.run steps).callees a ↔ a ∈ (empty.run steps).callers b)) ∧
    (∀ (steps : List Step) (a : String),
      (empty.run steps).Answers a ((empty.run steps).callees a) ∧
      (empty.run steps).Answers a ((empty.run steps).callers a)) ∧
    ∀ (d : Dataset) (a b : String),
      (b ∈ (ofDataset d).callees a ↔ b ∈ d.calleesOf a) ∧
      (d.hasEdge a b = true ↔ b ∈ (ofDataset d).callees a) := by
  refine ⟨?_, ?_, ?_⟩
  · intro steps a b
    rw [mem_callers_iff, mem_callees_iff, calls_run_iff]
    exact ⟨Iff.rfl, Iff.rfl⟩
  · intro steps a
    constructor
    · exact answers_across (fun c hc => ((empty.run steps).calls_lt c hc).2) a
    · exact answers_across (fun c hc => ((empty.run steps).calls_lt c hc).1) a
  · intro d a b
    have hlisted : b ∈ d.calleesOf a ↔ ⟨a, b⟩ ∈ d.calls := by
      simp only [Dataset.calleesOf, List.mem_map, List.mem_filter, beq_iff_eq]
      constructor
      · rintro ⟨e, ⟨he, rfl⟩, rfl⟩
        exact he
      · intro he
        exact ⟨_, ⟨he, rfl⟩, rfl⟩
    have hedge : d.hasEdge a b = true ↔ ⟨a, b⟩ ∈ d.calls := by simp [Dataset.hasEdge]
    rw [mem_callees_iff, calls_ofDataset_iff, hlisted, hedge]
    exact ⟨Iff.rfl, Iff.rfl⟩

end CallGraph

end CallAtlas.Graph
