import CallAtlas.Graph.Layout
import CallAtlas.Proofs.Building
import CallAtlas.Proofs.Ranks
import CallAtlas.Proofs.Rows

/-! # Ranks by component

    Kept by component, the ranks of a call graph are a table that might lack a node: a node
    has an entry only if it is in a component, and the pass over the components needs the
    entries of all callers. Every node is in a component, so the pass comes to its end, the
    table has every node, and the rank that it gives is the one in the list. Hence no node is
    left out when the rows are filled.
-/

namespace CallAtlas.Graph

namespace CallGraph

/-! ## Section 1: The table of components -/

theorem getElem?_foldl_insert (component : List Nat) (k : Nat) (table : Std.HashMap Nat Nat)
    (i : Nat) :
    (component.foldl (fun table j => table.insert j k) table)[i]? =
      if i ∈ component then some k else table[i]? := by
  induction component generalizing table with
  | nil => simp
  | cons j rest ih =>
    rw [List.foldl_cons, ih, Std.HashMap.getElem?_insert]
    by_cases hi : i ∈ rest
    · simp [hi]
    · by_cases hj : i = j
      · simp [hj]
      · simp [hi, hj, Ne.symm hj]

theorem getElem?_componentTable_concat (components : List (List Nat)) (component : List Nat)
    (i : Nat) :
    (componentTable (components ++ [component]))[i]? =
      if i ∈ component then some components.length else (componentTable components)[i]? := by
  unfold componentTable
  rw [List.zipIdx_append, List.foldl_append]
  simp [getElem?_foldl_insert]

/-- Where no two components share a node, the table has each node with the number of its
    component. -/
theorem getElem?_componentTable {components : List (List Nat)}
    (hdisjoint : components.Pairwise List.Disjoint) {i k : Nat} :
    (componentTable components)[i]? = some k ↔ ∃ c, components[k]? = some c ∧ i ∈ c := by
  -- By induction from the end, since what is entered last would hide what stood there.
  induction components using List.reverseRecOn with
  | nil => simp [componentTable]
  | append_singleton components component ih =>
    obtain ⟨hrest, -, hlast⟩ := List.pairwise_append.mp hdisjoint
    have hget : ∀ c, (components ++ [component])[k]? = some c ↔
        components[k]? = some c ∨ k = components.length ∧ component = c := by
      intro c
      rw [List.getElem?_append]
      grind
    rw [getElem?_componentTable_concat]
    by_cases hi : i ∈ component
    · rw [if_pos hi, Option.some.injEq]
      constructor
      · intro hk
        exact ⟨component, (hget _).mpr (.inr ⟨hk.symm, rfl⟩), hi⟩
      · rintro ⟨c, hc, hic⟩
        rcases (hget c).mp hc with hold | ⟨hk, -⟩
        · -- An earlier component would share the node with the last one.
          exact absurd hi (hlast c (List.mem_of_getElem? hold) component (by simp) hic)
        · exact hk.symm
    · rw [if_neg hi, ih hrest]
      refine exists_congr fun c => ?_
      rw [hget]
      constructor
      · exact fun h => ⟨.inl h.1, h.2⟩
      · rintro ⟨hold | ⟨-, rfl⟩, hic⟩
        · exact ⟨hold, hic⟩
        · exact absurd hic hi

/-! ## Section 2: One component -/

theorem foldlM_eq_some {α β : Type} {f : β → α → Option β} {step : β → α → β} {l : List α}
    (h : ∀ a ∈ l, ∀ b, f b a = some (step b a)) (b : β) :
    l.foldlM f b = some (l.foldl step b) := by
  induction l generalizing b with
  | nil => rfl
  | cons a rest ih =>
    rw [List.foldlM_cons, h a List.mem_cons_self]
    exact ih (fun a ha => h a (List.mem_cons_of_mem _ ha)) (step b a)

variable {g : CallGraph}

theorem getElem?_components {i k : Nat} :
    (componentTable g.components)[i]? = some k ↔ ∃ c, g.components[k]? = some c ∧ i ∈ c :=
  getElem?_componentTable pairwise_disjoint_components

theorem eq_iff_mem_component {i j k : Nat} {c : List Nat} (hc : g.components[k]? = some c)
    (hi : (componentTable g.components)[i]? = some j) : j = k ↔ i ∈ c := by
  constructor
  · rintro rfl
    obtain ⟨d, hd, hid⟩ := getElem?_components.mp hi
    rw [hc] at hd
    rwa [Option.some.inj hd]
  · intro hic
    have hk := getElem?_components.mpr ⟨c, hc, hic⟩
    exact Option.some.inj (hi.symm.trans hk)

/-- The callers of a component that are not in it give it the rank of its nodes. -/
theorem foldl_callers (byNode : Array Nat) (c : List Nat) :
    (c.foldl (fun rank i => (Search.successors (reversed g.calls) i).foldl (fun rank a =>
      if a ∈ c then rank else max rank (byNode.getD a 0 + 1)) rank) 0) = g.entryRank byNode c := by
  -- Both sides are the greatest number of one set, so neither order nor repeats matter.
  obtain ⟨callers, hcallers⟩ :
    ∃ callers, callers = c.flatMap (Search.successors (reversed g.calls)) := ⟨_, rfl⟩
  have hmem : ∀ a, a ∈ callers ↔ ∃ b ∈ c, (a, b) ∈ g.calls := by
    intro a
    simp [hcallers, Search.successors, mem_reversed]
  have hfold : (c.foldl (fun rank i => (Search.successors (reversed g.calls) i).foldl
      (fun rank a => if a ∈ c then rank else max rank (byNode.getD a 0 + 1)) rank) 0) =
      ((callers.filter (· ∉ c)).map fun a => byNode.getD a 0 + 1).foldl max 0 := by
    rw [List.foldl_map, List.foldl_filter, hcallers, List.foldl_flatMap]
    simp
  have hset : g.entries (byNode.getD · 0) c =
      {k | k = 0 ∨ k ∈ (callers.filter (· ∉ c)).map fun a => byNode.getD a 0 + 1} := by
    ext k
    simp only [entries, Set.mem_ofPred_eq, List.mem_map, List.mem_filter, hmem, decide_eq_true_eq]
    grind
  have hgreatest :=
    isGreatest_foldl_max ((callers.filter (· ∉ c)).map fun a => byNode.getD a 0 + 1) 0
  rw [← hset, ← hfold] at hgreatest
  exact hgreatest.unique (isGreatest_entryRank byNode c)

/-- Ranks of components and ranks of nodes say the same of every node that is in the table. -/
def Agrees (g : CallGraph) (byComponent byNode : Array Nat) : Prop :=
  ∀ i k, (componentTable g.components)[i]? = some k → byComponent[k]? = some (byNode.getD i 0)

/-- A component gets the rank that its nodes get: every caller is in some component, so its
    rank can be looked up. -/
theorem Agrees.componentRank? {byComponent byNode : Array Nat} (h : g.Agrees byComponent byNode)
    {c : List Nat} {k : Nat} (hc : g.components[k]? = some c) :
    g.componentRank? (componentTable g.components) byComponent c k =
      some (g.entryRank byNode c) := by
  have hcaller : ∀ i, ∀ a ∈ Search.successors (reversed g.calls) i, ∀ rank : Nat,
      (do let other ← (componentTable g.components)[a]?
          if other = k then return rank
          return max rank ((← byComponent[other]?) + 1)) =
        some (if a ∈ c then rank else max rank (byNode.getD a 0 + 1)) := by
    intro i a ha rank
    have hcall : (a, i) ∈ g.calls := by
      simpa [Search.successors, mem_reversed] using ha
    obtain ⟨d, hd, had⟩ := exists_component (g.calls_lt _ hcall).1
    obtain ⟨other, hother⟩ := List.mem_iff_getElem?.mp hd
    have htable := getElem?_components.mpr ⟨d, hother, had⟩
    have hown := eq_iff_mem_component hc htable
    by_cases hac : a ∈ c
    · simp [htable, hown.mpr hac, hac]
    · simp [htable, mt hown.mp hac, hac, h a other htable]
  rw [← foldl_callers]
  exact foldlM_eq_some (fun i _ rank => foldlM_eq_some (hcaller i) rank) 0

/-! ## Section 3: The pass over all components -/

/-- One more component keeps both in agreement. -/
theorem Agrees.rankComponent {byComponent byNode : Array Nat} (h : g.Agrees byComponent byNode)
    (hsize : byNode.size = g.nodes.length) {c : List Nat} {k : Nat}
    (hc : g.components[k]? = some c) :
    g.Agrees (byComponent.setIfInBounds k (g.entryRank byNode c)) (g.rankComponent c byNode) := by
  intro i j hi
  have hold := h i j hi
  have hown := eq_iff_mem_component hc hi
  rw [Array.getElem?_setIfInBounds]
  by_cases hic : i ∈ c
  · have hlt : i < byNode.size := hsize ▸ lt_of_mem_component (List.mem_of_getElem? hc) hic
    have hj : j < byComponent.size := by
      obtain ⟨hj, -⟩ := Array.getElem?_eq_some_iff.mp hold
      exact hj
    rw [getD_rankComponent_of_mem hic hlt]
    simp [hown.mpr hic ▸ hj, hown.mpr hic]
  · have hne : k ≠ j := fun heq => hic (hown.mp heq.symm)
    rw [getD_rankComponent_of_not_mem hic, if_neg hne, hold]

/-- The pass over the components that are left, when the others are still to come. -/
theorem exists_foldrM_agrees {before rest : List (List Nat)} (h : g.components = before ++ rest) :
    ∃ byComponent, (rest.zipIdx before.length).foldrM (fun (component, k) ranks => do
        return ranks.setIfInBounds k
          (← g.componentRank? (componentTable g.components) ranks component k))
        (Array.replicate g.components.length 0) = some byComponent ∧
      g.Agrees byComponent (rest.foldr g.rankComponent (Array.replicate g.nodes.length 0)) := by
  induction rest generalizing before with
  | nil =>
    refine ⟨_, rfl, ?_⟩
    intro i k hi
    obtain ⟨c, hc, -⟩ := getElem?_components.mp hi
    obtain ⟨hk, -⟩ := List.getElem?_eq_some_iff.mp hc
    have hzero : (Array.replicate g.nodes.length 0)[i]?.getD 0 = 0 := by
      rw [Array.getElem?_replicate]
      split <;> rfl
    simp [hk, hzero]
  | cons c rest ih =>
    -- The pass comes from the end: `rest` is done when `c` is ranked.
    have hsplit : g.components = (before ++ [c]) ++ rest := by simp [h]
    obtain ⟨byComponent, hrun, hagrees⟩ := ih hsplit
    have hc : g.components[before.length]? = some c := by simp [h]
    refine ⟨_, ?_, hagrees.rankComponent ?_ hc⟩
    · rw [List.zipIdx_cons, List.foldrM_cons]
      rw [List.length_append, List.length_singleton] at hrun
      rw [hrun]
      simp [hagrees.componentRank? hc]
    · rw [size_foldr_rankComponent, Array.size_replicate]

/-- The table of ranks has every node, and gives it the rank that the list gives it. -/
theorem exists_rankTable (g : CallGraph) :
    ∃ table, g.rankTable? = some table ∧ ∀ i : Nat, table[i]? = g.ranks[i]? := by
  have hall : g.components = [] ++ g.components := rfl
  obtain ⟨byComponent, hrun, hagrees⟩ := exists_foldrM_agrees hall
  have hranks : g.componentRanks? g.components = some byComponent := hrun
  refine ⟨_, by rw [rankTable?, hranks]; rfl, ?_⟩
  intro i
  rw [Std.HashMap.getElem?_filterMap']
  cases htable : (componentTable g.components)[i]? with
  | some k =>
    obtain ⟨c, hc, hic⟩ := getElem?_components.mp htable
    have hi : i < g.nodes.length := lt_of_mem_component (List.mem_of_getElem? hc) hic
    rw [Option.bind_some, hagrees i k htable, getElem?_ranks hi, rankAt, ranks]
    simp
  | none =>
    have hi : ¬ i < g.nodes.length := by
      intro hi
      obtain ⟨c, hc, hic⟩ := exists_component hi
      obtain ⟨k, hk⟩ := List.mem_iff_getElem?.mp hc
      rw [getElem?_components.mpr ⟨c, hk, hic⟩] at htable
      cases htable
    rw [Option.bind_none, List.getElem?_eq_none]
    rw [length_ranks]
    exact Nat.le_of_not_lt hi

end CallGraph

/-! ## Section 4: Rows and positions -/

/-- Where a table gives the ranks of a list, no node is left out of the rows. -/
theorem rowsFrom_range {table : Std.HashMap Nat Nat} {ranks : List Nat}
    (h : ∀ i : Nat, table[i]? = ranks[i]?) :
    rowsFrom table (List.range ranks.length) = rowsOf ranks := by
  -- Rows are filled node by node, so this is shown for every start of the list.
  have htake : ∀ n ≤ ranks.length, rowsFrom table (List.range n) = rowsOf (ranks.take n) := by
    intro n hn
    induction n with
    | zero => rfl
    | succ n ih =>
      have hle : n ≤ ranks.length := Nat.le_of_succ_le hn
      have hget : ranks[n]? = some ranks[n] := List.getElem?_eq_getElem hn
      have hlast : ranks.take (n + 1) = ranks.take n ++ [ranks[n]] := by
        rw [List.take_add_one, hget]
        rfl
      have hrank : table[n]? = some ranks[n] := (h n).trans hget
      rw [List.range_succ, rowsFrom, List.foldl_append, hlast, rowsOf_concat, ← ih hle]
      simp [hrank, rowsFrom, hle]
  simpa using htake ranks.length (Nat.le_refl _)

theorem slotIn?_eq_none {ranks : List Nat} {i : Nat} (h : ranks.length ≤ i) :
    slotIn? (rowsOf ranks) i = none := by
  have hnone : (rowsOf ranks).findIdx? (·.contains i) = none := by
    rw [List.findIdx?_eq_none_iff]
    intro row hrow
    obtain ⟨r, -, rfl⟩ := exists_of_mem_rowsOf hrow
    have hnot : i ∉ (rowsOf ranks).getD r [] := by
      rw [mem_row_iff, List.getElem?_eq_none h]
      simp
    simpa using hnot
  rw [slotIn?, hnone]
  rfl

namespace CallGraph

theorem numbers_index (g : CallGraph) :
    g.index.entries.map (·.2) = List.range g.nodes.length := by
  rw [g.indexed, List.zipIdx_map_snd, List.range_eq_range', Store.names, List.length_map]

/-- By the table, every node has the position that the layout gives it. -/
theorem exists_positions (g : CallGraph) {α : Type} [Measure α] (options : LayoutOptions α) :
    ∃ positions, g.positions? options = some positions ∧
      ∀ i, positions i = (g.layout options)[i]? := by
  obtain ⟨table, htable, hranks⟩ := g.exists_rankTable
  have hrows : rowsFrom table (g.index.entries.map (·.2)) = rowsOf g.ranks := by
    rw [numbers_index, ← g.length_ranks]
    exact rowsFrom_range hranks
  refine ⟨_, by rw [positions?, htable]; rfl, ?_⟩
  intro i
  rw [hrows, layout, List.getElem?_map]
  by_cases hi : i < g.ranks.length
  · rw [getElem?_slotsOf hi]
  · have hle : g.ranks.length ≤ i := Nat.le_of_not_lt hi
    rw [slotIn?_eq_none hle, List.getElem?_eq_none (length_slotsOf g.ranks ▸ hle)]

end CallGraph

end CallAtlas.Graph
