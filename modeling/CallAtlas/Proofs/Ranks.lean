import CallAtlas.Graph.Rank
import CallAtlas.Proofs.Components
import Mathlib.Order.Bounds.Basic
import Mathlib.Order.MinMax

/-! # Ranks as longest walks

    A rank counts how often a walk of calls can go from one component to another before it
    ends at a node. The pass over the components makes every rank agree with the ranks of
    the callers outside the component; numbers that agree in this way are the longest walks.
-/

namespace CallAtlas.Graph

namespace CallGraph

variable {g : CallGraph}

/-! ## Section 1: Walks and rankings -/

/-- A walk of calls that ends at a node and has gone from one component to another so many
    times. -/
inductive Walk (g : CallGraph) : Nat → Nat → Prop where
  | here {v : Nat} : v < g.nodes.length → Walk g v 0
  | within {v w k : Nat} : Walk g v k → (v, w) ∈ g.calls → Mutual g.calls v w → Walk g w k
  | across {v w k : Nat} :
      Walk g v k → (v, w) ∈ g.calls → ¬ Mutual g.calls v w → Walk g w (k + 1)

/-- Calls inside a component do not lengthen a walk. -/
theorem Walk.of_mutual {v w k : Nat} (h : g.Walk v k) (hmutual : Mutual g.calls v w) :
    g.Walk w k := by
  obtain ⟨hout, hback⟩ := hmutual
  induction hout with
  | refl => exact h
  | @tail x y hvx hxy ih =>
    -- Every node on the way to a node of the component is in it too.
    have hyx : Leads g.calls y x := hback.trans hvx
    exact (ih (.head hxy hback)).within hxy ⟨.single hxy, hyx⟩

/-- Numbers for the nodes that agree with each other along the calls. -/
structure IsRanking (g : CallGraph) (rank : Nat → Nat) : Prop where
  shared : ∀ {i j}, Mutual g.calls i j → rank i = rank j
  across : ∀ {i j}, (i, j) ∈ g.calls → ¬ Mutual g.calls i j → rank i + 1 ≤ rank j
  entered : ∀ {j}, 0 < rank j →
    ∃ a b, (a, b) ∈ g.calls ∧ Mutual g.calls b j ∧ ¬ Mutual g.calls a j ∧ rank a + 1 = rank j

namespace IsRanking

variable {rank : Nat → Nat}

theorem le_of_walk (h : g.IsRanking rank) {v k : Nat} (hwalk : g.Walk v k) : k ≤ rank v := by
  induction hwalk with
  | here _ => exact Nat.zero_le _
  | within _ _ hmutual ih => exact h.shared hmutual ▸ ih
  | across _ hcall hne ih => exact (Nat.succ_le_succ ih).trans (h.across hcall hne)

/-- A walk as long as the rank is found backwards, from caller to caller. -/
theorem walk (h : g.IsRanking rank) {v : Nat} (hv : v < g.nodes.length) :
    g.Walk v (rank v) := by
  -- The induction is on the rank, which goes down by one at each component.
  induction hr : rank v generalizing v with
  | zero => exact .here hv
  | succ r ih =>
    have hpos : 0 < rank v := by omega
    obtain ⟨a, b, hcall, hb, ha, hrank⟩ := h.entered hpos
    have hab : ¬ Mutual g.calls a b := fun hab => ha (hab.trans hb)
    have hwalk : g.Walk a r := ih (g.calls_lt _ hcall).1 (by omega)
    exact (hwalk.across hcall hab).of_mutual hb

/-- The numbers of a ranking are the lengths of the longest walks. -/
theorem isGreatest (h : g.IsRanking rank) {v : Nat} (hv : v < g.nodes.length) :
    IsGreatest {k | g.Walk v k} (rank v) :=
  ⟨h.walk hv, fun _ => h.le_of_walk⟩

/-- The least rank is that of the components that nothing outside calls. -/
theorem eq_zero_iff (h : g.IsRanking rank) {v : Nat} :
    rank v = 0 ↔ ∀ a b, (a, b) ∈ g.calls → Mutual g.calls b v → Mutual g.calls a v := by
  constructor
  · intro hzero a b hcall hb
    by_contra ha
    have hab : ¬ Mutual g.calls a b := fun hab => ha (hab.trans hb)
    have hlt := h.across hcall hab
    rw [h.shared hb, hzero] at hlt
    exact Nat.not_succ_le_zero _ hlt
  · intro hinside
    by_contra hne
    obtain ⟨a, b, hcall, hb, ha, -⟩ := h.entered (Nat.pos_of_ne_zero hne)
    exact ha (hinside a b hcall hb)

end IsRanking

/-! ## Section 2: The rank of one component -/

theorem isGreatest_foldl_max (l : List Nat) (m : Nat) :
    IsGreatest {k | k = m ∨ k ∈ l} (l.foldl max m) := by
  induction l generalizing m with
  | nil => simp
  | cons x rest ih =>
    obtain ⟨hmem, hle⟩ := ih (max m x)
    constructor
    · rcases hmem with hmax | hrest
      · rw [List.foldl_cons, hmax]
        rcases max_choice m x with h | h
        · exact .inl h
        · exact .inr (by rw [h]; exact List.mem_cons_self)
      · exact .inr (List.mem_cons_of_mem x hrest)
    · have hmax : max m x ≤ rest.foldl max (max m x) := hle (.inl rfl)
      rintro k (rfl | hk)
      · exact (le_max_left k x).trans hmax
      · rcases List.mem_cons.mp hk with rfl | hk
        · exact (le_max_right m k).trans hmax
        · exact hle (.inr hk)

/-- Zero, and one more than the rank of each caller outside a component. -/
def entries (g : CallGraph) (rank : Nat → Nat) (c : List Nat) : Set Nat :=
  {k | k = 0 ∨ ∃ a b, (a, b) ∈ g.calls ∧ b ∈ c ∧ a ∉ c ∧ rank a + 1 = k}

theorem entries_congr {rank rank' : Nat → Nat} {c : List Nat}
    (h : ∀ a b, (a, b) ∈ g.calls → b ∈ c → a ∉ c → rank a = rank' a) :
    g.entries rank c = g.entries rank' c := by
  ext k
  refine or_congr_right (exists_congr fun a => exists_congr fun b => ?_)
  refine and_congr_right fun hcall => and_congr_right fun hb => and_congr_right fun ha => ?_
  rw [h a b hcall hb ha]

theorem isGreatest_entryRank (ranks : Array Nat) (c : List Nat) :
    IsGreatest (g.entries (ranks.getD · 0) c) (g.entryRank ranks c) := by
  have hfold : g.entryRank ranks c =
      ((g.calls.filter fun call => c.contains call.2 && !c.contains call.1).map
        fun call => ranks.getD call.1 0 + 1).foldl max 0 := by
    rw [List.foldl_map, List.foldl_filter]
    rfl
  have hset : g.entries (ranks.getD · 0) c =
      {k | k = 0 ∨ k ∈ (g.calls.filter fun call => c.contains call.2 && !c.contains call.1).map
        fun call => ranks.getD call.1 0 + 1} := by
    ext k
    simp [entries, and_assoc]
  rw [hfold, hset]
  exact isGreatest_foldl_max _ 0

/-- Only the ranks of the callers outside a component count. -/
theorem entryRank_congr {ranks ranks' : Array Nat} {c : List Nat}
    (h : ∀ a b, (a, b) ∈ g.calls → b ∈ c → a ∉ c → ranks.getD a 0 = ranks'.getD a 0) :
    g.entryRank ranks c = g.entryRank ranks' c := by
  have hgreatest := isGreatest_entryRank (g := g) ranks c
  rw [entries_congr h] at hgreatest
  exact hgreatest.unique (isGreatest_entryRank ranks' c)

theorem size_foldl_setIfInBounds (ranks : Array Nat) (r : Nat) (c : List Nat) :
    (c.foldl (fun ranks i => ranks.setIfInBounds i r) ranks).size = ranks.size := by
  induction c generalizing ranks with
  | nil => rfl
  | cons i rest ih => rw [List.foldl_cons, ih, Array.size_setIfInBounds]

theorem getD_foldl_setIfInBounds (ranks : Array Nat) (r : Nat) (c : List Nat) (j : Nat) :
    (c.foldl (fun ranks i => ranks.setIfInBounds i r) ranks).getD j 0 =
      if j ∈ c ∧ j < ranks.size then r else ranks.getD j 0 := by
  induction c generalizing ranks with
  | nil => simp
  | cons i rest ih =>
    rw [List.foldl_cons, ih]
    simp only [Array.size_setIfInBounds, Array.getD_eq_getD_getElem?, Array.getElem?_setIfInBounds]
    grind

theorem size_rankComponent (c : List Nat) (ranks : Array Nat) :
    (g.rankComponent c ranks).size = ranks.size :=
  size_foldl_setIfInBounds ..

theorem getD_rankComponent_of_mem {c : List Nat} {ranks : Array Nat} {i : Nat} (hi : i ∈ c)
    (hlt : i < ranks.size) : (g.rankComponent c ranks).getD i 0 = g.entryRank ranks c := by
  rw [rankComponent, getD_foldl_setIfInBounds, if_pos ⟨hi, hlt⟩]

theorem getD_rankComponent_of_not_mem {c : List Nat} {ranks : Array Nat} {i : Nat} (hi : i ∉ c) :
    (g.rankComponent c ranks).getD i 0 = ranks.getD i 0 := by
  rw [rankComponent, getD_foldl_setIfInBounds, if_neg fun h => hi h.1]

/-! ## Section 3: The pass over all components -/

/-- The nodes of these components have ranks that agree with those of their callers. -/
def Settled (g : CallGraph) (components : List (List Nat)) (ranks : Array Nat) : Prop :=
  ∀ c ∈ components, ∀ i ∈ c, ranks.getD i 0 = g.entryRank ranks c

/-- One more component: nothing that was settled is called from it, so all stays settled. -/
theorem Settled.rankComponent {c : List Nat} {rest : List (List Nat)} {ranks : Array Nat}
    (h : g.Settled rest ranks) (hlt : ∀ i ∈ c, i < ranks.size)
    (hdisjoint : ∀ d ∈ rest, c.Disjoint d)
    (hbackward : ∀ d ∈ rest, ∀ i ∈ c, ∀ j ∈ d, (i, j) ∉ g.calls) :
    g.Settled (c :: rest) (g.rankComponent c ranks) := by
  intro d hd i hi
  -- Neither rank depends on the other: the new one only on callers outside its component, the
  -- old ones on callers that are not in the new component.
  rcases List.mem_cons.mp hd with rfl | hd
  · rw [getD_rankComponent_of_mem hi (hlt i hi)]
    exact entryRank_congr fun a b _ _ ha => (getD_rankComponent_of_not_mem ha).symm
  · rw [getD_rankComponent_of_not_mem fun hc => hdisjoint d hd hc hi, h d hd i hi]
    refine entryRank_congr fun a b hcall hb _ => (getD_rankComponent_of_not_mem ?_).symm
    exact fun ha => hbackward d hd a ha b hb hcall

theorem size_foldr_rankComponent (components : List (List Nat)) (ranks : Array Nat) :
    (components.foldr g.rankComponent ranks).size = ranks.size := by
  induction components with
  | nil => rfl
  | cons c rest ih => rw [List.foldr_cons, size_rankComponent, ih]

/-- The whole pass, from the last component to the first. -/
theorem settled_foldr {components : List (List Nat)} {ranks : Array Nat}
    (hlt : ∀ c ∈ components, ∀ i ∈ c, i < ranks.size)
    (hdisjoint : components.Pairwise List.Disjoint)
    (hbackward : components.Pairwise fun c d => ∀ i ∈ c, ∀ j ∈ d, (i, j) ∉ g.calls) :
    g.Settled components (components.foldr g.rankComponent ranks) := by
  induction components with
  | nil => exact fun _ h => nomatch h
  | cons c rest ih =>
    rw [List.pairwise_cons] at hdisjoint hbackward
    have hrest := ih (fun d hd => hlt d (List.mem_cons_of_mem c hd)) hdisjoint.2 hbackward.2
    refine hrest.rankComponent ?_ hdisjoint.1 hbackward.1
    intro i hi
    rw [size_foldr_rankComponent]
    exact hlt c List.mem_cons_self i hi

/-! ## Section 4: The ranks of a graph -/

/-- The rank of a node. -/
def rankAt (g : CallGraph) (i : Nat) : Nat := g.ranks.getD i 0

theorem length_ranks (g : CallGraph) : g.ranks.length = g.nodes.length := by
  simp [ranks, size_foldr_rankComponent]

theorem getElem?_ranks {v : Nat} (hv : v < g.nodes.length) :
    g.ranks[v]? = some (g.rankAt v) := by
  simp [rankAt, length_ranks, hv]

theorem rankAt_of_le {v : Nat} (hv : g.nodes.length ≤ v) : g.rankAt v = 0 := by
  simp [rankAt, length_ranks, hv]

/-- The rank of a node is that at which its component is entered. -/
theorem isGreatest_rankAt {c : List Nat} (hc : c ∈ g.components) {v : Nat} (hv : v ∈ c) :
    IsGreatest (g.entries g.rankAt c) (g.rankAt v) := by
  obtain ⟨ranks, hranks⟩ : ∃ ranks, ranks =
    g.components.foldr g.rankComponent (Array.replicate g.nodes.length 0) := ⟨_, rfl⟩
  have hrank : (ranks.getD · 0) = g.rankAt := by
    funext i
    simp [rankAt, CallGraph.ranks, hranks]
  have hsettled : g.Settled g.components ranks := by
    rw [hranks]
    refine settled_foldr ?_ pairwise_disjoint_components g.decomposition_components.backward
    exact fun c hc i hi => by simpa using lt_of_mem_component hc hi
  have hentry : g.rankAt v = g.entryRank ranks c := by
    rw [← hrank]
    exact hsettled c hc v hv
  rw [hentry, ← hrank]
  exact isGreatest_entryRank ranks c

theorem isRanking_rankAt (g : CallGraph) : g.IsRanking g.rankAt where
  shared := by
    intro i j h
    rcases h.1.cases_head with rfl | ⟨k, hcall, -⟩
    · rfl
    · obtain ⟨c, hc, hi⟩ := exists_component (g.calls_lt _ hcall).1
      have hj : j ∈ c := (mem_component_iff hc hi).mpr h
      exact (isGreatest_rankAt hc hi).unique (isGreatest_rankAt hc hj)
  across := by
    intro i j hcall hne
    obtain ⟨c, hc, hj⟩ := exists_component (g.calls_lt _ hcall).2
    have hi : i ∉ c := fun hi => hne ((mem_component_iff hc hi).mp hj)
    exact (isGreatest_rankAt hc hj).2 (.inr ⟨i, j, hcall, hj, hi, rfl⟩)
  entered := by
    intro j hpos
    obtain ⟨c, hc, hj⟩ : ∃ c ∈ g.components, j ∈ c := by
      refine exists_component (Nat.lt_of_not_le fun hle => ?_)
      rw [rankAt_of_le hle] at hpos
      exact Nat.lt_irrefl 0 hpos
    rcases (isGreatest_rankAt hc hj).1 with hzero | ⟨a, b, hcall, hb, ha, hrank⟩
    · omega
    · refine ⟨a, b, hcall, (mem_component_iff hc hb).mp hj, fun h => ha ?_, hrank⟩
      exact (mem_component_iff hc hj).mpr h.symm

/-- Every node has a rank, and it is the greatest number of times that a walk of calls goes
    from one component to another before it ends there. Hence nodes that reach each other
    share a rank, a call out of a component leads to a greater one, the least rank is that of
    the components that are not called from outside, and any other is one more than that of
    some caller. -/
theorem ranks_longest_walk (g : CallGraph) :
    g.ranks.length = g.nodes.length ∧
    (∀ v < g.nodes.length, g.ranks[v]? = some (g.rankAt v) ∧
      IsGreatest {k | g.Walk v k} (g.rankAt v)) ∧
    (∀ u v, Mutual g.calls u v → g.rankAt u = g.rankAt v) ∧
    (∀ u v, (u, v) ∈ g.calls → ¬ Mutual g.calls u v → g.rankAt u + 1 ≤ g.rankAt v) ∧
    (∀ v, g.rankAt v = 0 ↔
      ∀ a b, (a, b) ∈ g.calls → Mutual g.calls b v → Mutual g.calls a v) ∧
    (∀ v, 0 < g.rankAt v → ∃ a b, (a, b) ∈ g.calls ∧ Mutual g.calls b v ∧
      ¬ Mutual g.calls a v ∧ g.rankAt a + 1 = g.rankAt v) := by
  have h := g.isRanking_rankAt
  refine ⟨g.length_ranks, ?_, ?_, ?_, ?_, ?_⟩
  · exact fun v hv => ⟨getElem?_ranks hv, h.isGreatest hv⟩
  · exact fun u v huv => h.shared huv
  · exact fun u v hcall hne => h.across hcall hne
  · exact fun v => h.eq_zero_iff
  · exact fun v hpos => h.entered hpos

/-- `main` calls `even`, and `even` and `odd` call each other. -/
def evenOdd : CallGraph :=
  empty.run [.call "main" "even", .call "even" "odd", .call "odd" "even"]

/-- In that graph `even` and `odd` share a rank, and it is not that of `main`. -/
theorem ranks_longest_walk_evenOdd : ∃ r s, evenOdd.ranks[0]? = some r ∧
    evenOdd.ranks[1]? = some s ∧ evenOdd.ranks[2]? = some s ∧ r < s := by
  obtain ⟨-, hrank, hshared, hacross, -⟩ := ranks_longest_walk evenOdd
  have hmutual : Mutual evenOdd.calls 1 2 :=
    ⟨.single (by decide +kernel), .single (by decide +kernel)⟩
  have hcall : (0, 1) ∈ evenOdd.calls := by decide +kernel
  have hapart : ¬ Mutual evenOdd.calls 0 1 := by
    -- Nothing calls `main`.
    rintro ⟨-, hback⟩
    have huncalled : ∀ c ∈ evenOdd.calls, c.2 ≠ 0 := by decide +kernel
    rcases hback.cases_tail with h | ⟨i, -, harc⟩
    · contradiction
    · exact huncalled _ harc rfl
  have h0 := (hrank 0 (by decide +kernel)).1
  have h1 := (hrank 1 (by decide +kernel)).1
  have h2 := (hrank 2 (by decide +kernel)).1
  exact ⟨_, _, h0, h1, hshared 1 2 hmutual ▸ h2, hacross 0 1 hcall hapart⟩

end CallGraph

end CallAtlas.Graph
