import CallAtlas.Graph.Recursion
import CallAtlas.Proofs.Building
import CallAtlas.Proofs.Components

/-! # Recursive groups

    A name is in a recursive group if and only if calls lead from it back to itself, and two
    names are in one group if and only if each reaches the other. The groups come in the
    order of their first names, and the names of a group in the order of the graph.
-/

namespace CallAtlas.Graph

open Relation

namespace CallGraph

open Store

variable (g : CallGraph)

/-! ## Section 1: Paths of calls between names -/

/-- The graph has a call from one name to another. -/
def Calls (a b : String) : Prop := ∃ c ∈ g.calls, g.nameAt c.1 = a ∧ g.nameAt c.2 = b

variable {g}

/-- The number of a node is the place of its name. -/
theorem idxOf_nameAt {i : Nat} (h : i < g.nodes.length) : g.names.idxOf (g.nameAt i) = i := by
  have hi : i < g.names.length := by simpa [names] using h
  rw [nameAt_eq_getElem hi]
  exact List.Nodup.idxOf_getElem g.names_nodup i hi

theorem nameAt_inj {i j : Nat} (hi : i < g.nodes.length) (hj : j < g.nodes.length)
    (h : g.nameAt i = g.nameAt j) : i = j := by
  rw [← idxOf_nameAt hi, ← idxOf_nameAt hj, h]

/-- One or more calls lead from one node to another. -/
def Path (g : CallGraph) : Nat → Nat → Prop := TransGen fun i j => (i, j) ∈ g.calls

theorem Path.lt {i j : Nat} (h : g.Path i j) : i < g.nodes.length ∧ j < g.nodes.length := by
  induction h with
  | single hc => exact g.calls_lt _ hc
  | tail _ hc ih => exact ⟨ih.1, (g.calls_lt _ hc).2⟩

/-- A path between names is a path between nodes of these names. -/
theorem transGen_calls_iff {a b : String} :
    TransGen g.Calls a b ↔ ∃ i j, g.nameAt i = a ∧ g.nameAt j = b ∧ g.Path i j := by
  constructor
  · intro h
    induction h with
    | single h =>
      obtain ⟨⟨i, j⟩, hc, ha, hb⟩ := h
      exact ⟨i, j, ha, hb, .single hc⟩
    | tail _ h ih =>
      obtain ⟨i, j, ha, hj, hpath⟩ := ih
      obtain ⟨⟨k, l⟩, hc, hk, hl⟩ := h
      -- Both calls name the node in the middle, and no two nodes share a name.
      obtain rfl : j = k := nameAt_inj hpath.lt.2 (g.calls_lt _ hc).1 (hj.trans hk.symm)
      exact ⟨i, l, ha, hl, hpath.tail hc⟩
  · rintro ⟨i, j, rfl, rfl, h⟩
    exact TransGen.lift g.nameAt (fun _ _ hc => ⟨_, hc, rfl, rfl⟩) _ _ h

theorem path_of_leads {i j : Nat} (hne : i ≠ j) (h : Leads g.calls i j) : g.Path i j := by
  rcases (reflTransGen_iff_eq_or_transGen.mp h) with heq | hpath
  · exact absurd heq.symm hne
  · exact hpath

/-! ## Section 2: The groups as sets of nodes -/

theorem mem_sortNodes {nodes : List Nat} {i : Nat} : i ∈ g.sortNodes nodes ↔ i ∈ nodes :=
  List.mem_mergeSort

theorem mem_recursiveGroups {group : List Nat} :
    group ∈ g.recursiveGroups ↔
      ∃ c ∈ g.components, g.isRecursive c = true ∧ g.sortNodes c = group := by
  simp [recursiveGroups, and_assoc]

/-- The nodes of a recursive component, and of no other, reach themselves. -/
theorem isRecursive_iff {c : List Nat} (hc : c ∈ g.components) {i : Nat} (hi : i ∈ c) :
    g.isRecursive c = true ↔ g.Path i i := by
  have hmutual := fun j => mem_component_iff (j := j) hc hi
  rcases c with _ | ⟨a, _ | ⟨b, rest⟩⟩
  · contradiction
  · obtain rfl := List.mem_singleton.mp hi
    simp only [isRecursive, List.contains_iff_mem]
    constructor
    · exact fun hc => .single hc
    · intro hpath
      obtain ⟨j, hij, hji⟩ := TransGen.head'_iff.mp hpath
      -- The first call on the way stays in the component, which is `i` alone.
      have hj : j ∈ [i] := (hmutual j).mpr ⟨.single hij, hji⟩
      rwa [List.mem_singleton.mp hj] at hij
  · have hne : a ≠ b := by
      have := nodup_of_mem_components hc
      simp only [List.nodup_cons, List.mem_cons, not_or] at this
      exact this.1.1
    -- Another node of the component: `i` reaches it and comes back.
    obtain ⟨j, hj, hij⟩ : ∃ j ∈ a :: b :: rest, i ≠ j := by
      by_cases hia : i = a
      · exact ⟨b, by simp, hia ▸ hne⟩
      · exact ⟨a, by simp, hia⟩
    obtain ⟨hout, hback⟩ := (hmutual j).mp hj
    have hpath : g.Path i i := (path_of_leads hij hout).trans (path_of_leads hij.symm hback)
    exact iff_of_true (by simp [isRecursive]) hpath

/-- Two nodes share a recursive group if and only if each reaches the other. -/
theorem exists_group_iff {i j : Nat} :
    (∃ group ∈ g.recursiveGroups, i ∈ group ∧ j ∈ group) ↔ g.Path i j ∧ g.Path j i := by
  constructor
  · rintro ⟨group, hgroup, hi, hj⟩
    obtain ⟨c, hc, hrec, rfl⟩ := mem_recursiveGroups.mp hgroup
    rw [mem_sortNodes] at hi hj
    obtain ⟨hij, hji⟩ := (mem_component_iff hc hi).mp hj
    have hpath := (isRecursive_iff hc hi).mp hrec
    exact ⟨hpath.trans_left hij, hpath.trans_right hji⟩
  · rintro ⟨hij, hji⟩
    obtain ⟨c, hc, hi⟩ := exists_component hij.lt.1
    have hj : j ∈ c :=
      (mem_component_iff hc hi).mpr ⟨hij.to_reflTransGen, hji.to_reflTransGen⟩
    refine ⟨g.sortNodes c, mem_recursiveGroups.mpr ⟨c, hc, ?_, rfl⟩, ?_, ?_⟩
    · exact (isRecursive_iff hc hi).mpr (hij.trans hji)
    · exact mem_sortNodes.mpr hi
    · exact mem_sortNodes.mpr hj

theorem lt_of_mem_group {group : List Nat} (hgroup : group ∈ g.recursiveGroups) {i : Nat}
    (hi : i ∈ group) : i < g.nodes.length :=
  (exists_group_iff.mp ⟨group, hgroup, hi, hi⟩).1.lt.1

/-! ## Section 3: The order of the groups -/

/-- A list sorted by a number comes in the order of that number. -/
theorem pairwise_mergeSort_key {α : Type} (key : α → Nat) (l : List α) :
    (l.mergeSort fun a b => decide (key a ≤ key b)).Pairwise fun a b => key a ≤ key b := by
  have htrans : ∀ a b c : α, decide (key a ≤ key b) = true → decide (key b ≤ key c) = true →
      decide (key a ≤ key c) = true := by
    simpa using fun a b c => Nat.le_trans
  have htotal : ∀ a b : α, (decide (key a ≤ key b) || decide (key b ≤ key a)) = true := by
    simpa using fun a b => Nat.le_total (key a) (key b)
  exact (List.pairwise_mergeSort htrans htotal l).imp of_decide_eq_true

theorem ne_nil_of_mem_recursiveGroups {group : List Nat} (h : group ∈ g.recursiveGroups) :
    group ≠ [] := by
  obtain ⟨c, hc, -, rfl⟩ := mem_recursiveGroups.mp h
  obtain ⟨i, hi⟩ := List.exists_mem_of_ne_nil c (g.decomposition_components.nonempty c hc)
  exact List.ne_nil_of_mem (mem_sortNodes.mpr hi)

/-- Inside a group the nodes increase. -/
theorem pairwise_lt_of_mem_recursiveGroups {group : List Nat} (h : group ∈ g.recursiveGroups) :
    group.Pairwise (· < ·) := by
  have hlt : ∀ i ∈ group, i < g.nodes.length := fun i => lt_of_mem_group h
  obtain ⟨c, hc, -, rfl⟩ := mem_recursiveGroups.mp h
  have hle : (g.sortNodes c).Pairwise fun i j => g.sortKey i ≤ g.sortKey j :=
    pairwise_mergeSort_key g.sortKey c
  have hnodup : (g.sortNodes c).Nodup :=
    (List.mergeSort_perm c _).nodup_iff.mpr (nodup_of_mem_components hc)
  refine (hle.and hnodup).imp_of_mem ?_
  intro i j hi hj h
  rw [sortKey_eq (hlt i hi), sortKey_eq (hlt j hj)] at h
  exact Nat.lt_of_le_of_ne h.1 h.2

/-- No two groups share a node. -/
theorem pairwise_disjoint_recursiveGroups : g.recursiveGroups.Pairwise List.Disjoint := by
  refine (List.mergeSort_perm _ _).symm.pairwise ?_ List.disjoint_symm
  refine List.pairwise_map.mpr ((pairwise_disjoint_components.filter g.isRecursive).imp ?_)
  intro c d hdisjoint i hc hd
  exact hdisjoint (mem_sortNodes.mp hc) (mem_sortNodes.mp hd)

/-- The groups increase by their first nodes. -/
theorem pairwise_head_recursiveGroups :
    g.recursiveGroups.Pairwise fun c d => c.headD 0 < d.headD 0 := by
  have hle : g.recursiveGroups.Pairwise fun c d => g.sortKey (c.headD 0) ≤ g.sortKey (d.headD 0) :=
    pairwise_mergeSort_key (fun c : List Nat => g.sortKey (c.headD 0)) _
  have hhead : ∀ c ∈ g.recursiveGroups, c.headD 0 ∈ c := by
    intro c hc
    obtain ⟨i, rest, rfl⟩ := List.exists_cons_of_ne_nil (ne_nil_of_mem_recursiveGroups hc)
    exact List.mem_cons_self
  refine (hle.and pairwise_disjoint_recursiveGroups).imp_of_mem ?_
  intro c d hc hd h
  rw [sortKey_eq (lt_of_mem_group hc (hhead c hc)),
    sortKey_eq (lt_of_mem_group hd (hhead d hd))] at h
  -- Two groups with the same first node would share it.
  refine Nat.lt_of_le_of_ne h.1 fun heq => ?_
  exact h.2 (hhead c hc) (heq ▸ hhead d hd)

/-! ## Section 4: The groups as names -/

theorem exists_names_iff {P : List String → Prop} :
    (∃ group ∈ g.recursiveNames, P group) ↔
      ∃ group ∈ g.recursiveGroups, P (group.map g.nameAt) := by
  simp [recursiveNames]

/-- Two names share a group if and only if each reaches the other. -/
theorem exists_shared_iff {a b : String} :
    (∃ group ∈ g.recursiveNames, a ∈ group ∧ b ∈ group) ↔
      TransGen g.Calls a b ∧ TransGen g.Calls b a := by
  rw [exists_names_iff]
  constructor
  · rintro ⟨group, hgroup, ha, hb⟩
    obtain ⟨i, hi, rfl⟩ := List.mem_map.mp ha
    obtain ⟨j, hj, rfl⟩ := List.mem_map.mp hb
    obtain ⟨hij, hji⟩ := exists_group_iff.mp ⟨group, hgroup, hi, hj⟩
    exact ⟨transGen_calls_iff.mpr ⟨i, j, rfl, rfl, hij⟩,
      transGen_calls_iff.mpr ⟨j, i, rfl, rfl, hji⟩⟩
  · rintro ⟨hab, hba⟩
    obtain ⟨i, j, rfl, rfl, hij⟩ := transGen_calls_iff.mp hab
    obtain ⟨j', i', hj', hi', hji⟩ := transGen_calls_iff.mp hba
    obtain rfl := nameAt_inj hji.lt.1 hij.lt.2 hj'
    obtain rfl := nameAt_inj hji.lt.2 hij.lt.1 hi'
    obtain ⟨group, hgroup, hi, hj⟩ := exists_group_iff.mpr ⟨hij, hji⟩
    exact ⟨group, hgroup, List.mem_map_of_mem hi, List.mem_map_of_mem hj⟩

theorem nodup_flatten_recursiveNames : g.recursiveNames.flatten.Nodup := by
  have hnodup : g.recursiveGroups.flatten.Nodup := by
    refine List.nodup_flatten.mpr ⟨fun group hgroup => ?_, pairwise_disjoint_recursiveGroups⟩
    exact (pairwise_lt_of_mem_recursiveGroups hgroup).imp Nat.ne_of_lt
  have hlt : ∀ i ∈ g.recursiveGroups.flatten, i < g.nodes.length := by
    intro i hi
    obtain ⟨group, hgroup, hi⟩ := List.mem_flatten.mp hi
    exact lt_of_mem_group hgroup hi
  rw [recursiveNames, ← List.map_flatten]
  exact hnodup.map_on fun i hi j hj h => nameAt_inj (hlt i hi) (hlt j hj) h

/-- Inside a group the names keep the order of the graph. -/
theorem pairwise_idxOf_of_mem_recursiveNames {group : List String}
    (h : group ∈ g.recursiveNames) :
    group.Pairwise fun a b => g.names.idxOf a < g.names.idxOf b := by
  obtain ⟨nodes, hnodes, rfl⟩ := List.mem_map.mp h
  refine List.pairwise_map.mpr ((pairwise_lt_of_mem_recursiveGroups hnodes).imp_of_mem ?_)
  intro i j hi hj hlt
  rwa [idxOf_nameAt (lt_of_mem_group hnodes hi), idxOf_nameAt (lt_of_mem_group hnodes hj)]

/-- The groups keep the order that their first names have in the graph. -/
theorem pairwise_head_recursiveNames :
    g.recursiveNames.Pairwise fun s t =>
      ∀ a ∈ s.head?, ∀ b ∈ t.head?, g.names.idxOf a < g.names.idxOf b := by
  refine List.pairwise_map.mpr (pairwise_head_recursiveGroups.imp_of_mem ?_)
  intro c d hc hd hlt
  obtain ⟨i, c, rfl⟩ := List.exists_cons_of_ne_nil (ne_nil_of_mem_recursiveGroups hc)
  obtain ⟨j, d, rfl⟩ := List.exists_cons_of_ne_nil (ne_nil_of_mem_recursiveGroups hd)
  intro a ha b hb
  obtain rfl : g.nameAt i = a := by simpa using ha
  obtain rfl : g.nameAt j = b := by simpa using hb
  rw [idxOf_nameAt (lt_of_mem_group hc List.mem_cons_self),
    idxOf_nameAt (lt_of_mem_group hd List.mem_cons_self)]
  exact hlt

/-- The recursive groups are the classes of the names that calls lead back to, under mutual
    reachability, and they come in the order of the graph. -/
theorem recursiveNames_classes (g : CallGraph) :
    (∀ a, (∃ group ∈ g.recursiveNames, a ∈ group) ↔ TransGen g.Calls a a) ∧
    (∀ a b, (∃ group ∈ g.recursiveNames, a ∈ group ∧ b ∈ group) ↔
      TransGen g.Calls a a ∧ ReflTransGen g.Calls a b ∧ ReflTransGen g.Calls b a) ∧
    g.recursiveNames.flatten.Nodup ∧
    (∀ group ∈ g.recursiveNames, group ≠ [] ∧
      group.Pairwise fun a b => g.names.idxOf a < g.names.idxOf b) ∧
    g.recursiveNames.Pairwise (fun s t =>
      ∀ a ∈ s.head?, ∀ b ∈ t.head?, g.names.idxOf a < g.names.idxOf b) := by
  refine ⟨fun a => ?_, fun a b => ?_, nodup_flatten_recursiveNames, fun group hgroup => ⟨?_, ?_⟩,
    pairwise_head_recursiveNames⟩
  · simpa using exists_shared_iff (g := g) (a := a) (b := a)
  · rw [exists_shared_iff]
    constructor
    · rintro ⟨hab, hba⟩
      exact ⟨hab.trans hba, hab.to_reflTransGen, hba.to_reflTransGen⟩
    · rintro ⟨haa, hab, hba⟩
      exact ⟨haa.trans_left hab, haa.trans_right hba⟩
  · obtain ⟨nodes, hnodes, rfl⟩ := List.mem_map.mp hgroup
    simpa using ne_nil_of_mem_recursiveGroups hnodes
  · exact pairwise_idxOf_of_mem_recursiveNames hgroup

/-- `main` calls `ping`, and `ping` and `pong` call each other. -/
def pingPong : CallGraph :=
  empty.run [.call "main" "ping", .call "ping" "pong", .call "pong" "ping"]

/-- In that graph `ping` and `pong` share a group. -/
theorem recursiveNames_classes_pingPong :
    ∃ group ∈ pingPong.recursiveNames, "ping" ∈ group ∧ "pong" ∈ group := by
  have hout : pingPong.Calls "ping" "pong" :=
    ⟨(1, 2), by decide +kernel, by decide +kernel, by decide +kernel⟩
  have hback : pingPong.Calls "pong" "ping" :=
    ⟨(2, 1), by decide +kernel, by decide +kernel, by decide +kernel⟩
  refine ((recursiveNames_classes pingPong).2.1 "ping" "pong").mpr ⟨?_, .single hout, .single hback⟩
  exact .tail (.single hout) hback

end CallGraph

end CallAtlas.Graph
