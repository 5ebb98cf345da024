import CallAtlas.Proofs.Presentation
import CallAtlas.Proofs.RecursiveGroups
import CallAtlas.Proofs.Statistics

/-! # Slots of a call graph

    Ranks are the lengths of longest walks, so every rank below a rank that is taken is taken
    as well, and no row of a layout is empty. Each node has a slot of its own, and its position
    is that of its slot. A call that does not close a circle leads to a later row.
-/

namespace CallAtlas.Graph

namespace CallGraph

variable {g : CallGraph}

/-! ## Section 1: Rows of a call graph -/

/-- Below a rank that is taken, every rank is taken: the walk that it counts comes by. -/
theorem exists_rankAt_of_le {v r : Nat} (hv : v < g.nodes.length) (h : r ≤ g.rankAt v) :
    ∃ u < g.nodes.length, g.rankAt u = r := by
  -- The induction is on the rank, which goes down by one from a component to one that calls it.
  induction hrank : g.rankAt v generalizing v with
  | zero => exact ⟨v, hv, by omega⟩
  | succ k ih =>
    by_cases heq : r = k + 1
    · exact ⟨v, hv, by omega⟩
    · have hpos : 0 < g.rankAt v := by omega
      obtain ⟨a, b, hcall, -, -, ha⟩ := g.isRanking_rankAt.entered hpos
      have hlt : a < g.nodes.length := (g.calls_lt _ hcall).1
      exact ih hlt (by omega) (by omega)

theorem mem_row_rankAt_iff {i r : Nat} :
    i ∈ (rowsOf g.ranks).getD r [] ↔ i < g.nodes.length ∧ g.rankAt i = r := by
  rw [mem_row_iff]
  by_cases hi : i < g.nodes.length
  · simp [getElem?_ranks hi, hi]
  · have hnone : g.ranks[i]? = none := by
      rw [List.getElem?_eq_none_iff, length_ranks]
      exact Nat.le_of_not_lt hi
    simp [hnone, hi]

theorem rankAt_lt_length_rowsOf {i : Nat} (hi : i < g.nodes.length) :
    g.rankAt i < (rowsOf g.ranks).length :=
  lt_length_rowsOf_iff.mpr ⟨_, List.mem_of_getElem? (getElem?_ranks hi), Nat.le_refl _⟩

theorem row_ne_nil {r : Nat} (h : r < (rowsOf g.ranks).length) :
    (rowsOf g.ranks).getD r [] ≠ [] := by
  obtain ⟨rank, hrank, hle⟩ := lt_length_rowsOf_iff.mp h
  obtain ⟨v, hv, hget⟩ := List.getElem_of_mem hrank
  have hv' : v < g.nodes.length := g.length_ranks ▸ hv
  have hat : g.rankAt v = rank := by
    rw [← hget, rankAt, List.getD_eq_getElem _ _ hv]
  obtain ⟨u, hu, hur⟩ := exists_rankAt_of_le hv' (hat ▸ hle)
  exact List.ne_nil_of_mem (mem_row_rankAt_iff.mpr ⟨hu, hur⟩)

/-- Rows that hold the nodes of a graph by their ranks. -/
structure Arranged (g : CallGraph) (rows : List (List Nat)) : Prop where
  /-- A node occurs once in the row of its rank, and in no other row. -/
  once : ∀ i < g.nodes.length, ∀ r, (rows.getD r []).count i = if r = g.rankAt i then 1 else 0
  /-- There is nothing else in the rows. -/
  nodes : ∀ row ∈ rows, ∀ i ∈ row, i < g.nodes.length
  /-- Inside a row the nodes are in the order of their names. -/
  ordered : ∀ row ∈ rows,
    row.Pairwise fun i j => g.names.idxOf (g.nameAt i) < g.names.idxOf (g.nameAt j)
  /-- No row is empty. -/
  occupied : [] ∉ rows
  /-- What a row lacks of the longest one can be counted. -/
  fits : ∀ row ∈ rows, row.length ≤ widest rows

theorem arranged_rowsOf (g : CallGraph) : g.Arranged (rowsOf g.ranks) where
  once := by
    intro i hi r
    have hnodup : ((rowsOf g.ranks).getD r []).Nodup := (pairwise_row _ r).imp Nat.ne_of_lt
    simp only [hnodup.count, mem_row_rankAt_iff, hi, true_and, eq_comm]
  nodes := by
    intro row hrow i hi
    obtain ⟨r, -, rfl⟩ := exists_of_mem_rowsOf hrow
    exact (mem_row_rankAt_iff.mp hi).1
  ordered := by
    intro row hrow
    obtain ⟨r, -, rfl⟩ := exists_of_mem_rowsOf hrow
    refine (pairwise_row _ r).imp_of_mem ?_
    intro i j hi hj hlt
    rwa [idxOf_nameAt (mem_row_rankAt_iff.mp hi).1, idxOf_nameAt (mem_row_rankAt_iff.mp hj).1]
  occupied := by
    intro hrow
    obtain ⟨r, hr, hnil⟩ := exists_of_mem_rowsOf hrow
    exact row_ne_nil hr hnil
  fits := fun row hrow => length_le_widest hrow

/-! ## Section 2: Places of nodes -/

end CallGraph

/-- A slot names the place of a node in some rows, and tells the length of its row. -/
structure Slot.Holds (s : Slot) (rows : List (List Nat)) (i : Nat) : Prop where
  node : (rows.getD s.row [])[s.column]? = some i
  rowLength : s.rowLength = (rows.getD s.row []).length

namespace CallGraph

variable {g : CallGraph}

/-- Every node stands in a slot of the row of its rank. -/
theorem exists_slot {i : Nat} (hi : i < g.nodes.length) :
    ∃ s, slotIn? (rowsOf g.ranks) i = some s ∧ (slotsOf g.ranks)[i]? = some s ∧
      s.row = g.rankAt i ∧ s.Holds (rowsOf g.ranks) i ∧ s.rowLength ≤ widest (rowsOf g.ranks) := by
  have hslot := slotIn?_rowsOf (getElem?_ranks hi)
  have hmem : i ∈ (rowsOf g.ranks).getD (g.rankAt i) [] := mem_row_rankAt_iff.mpr ⟨hi, rfl⟩
  refine ⟨_, hslot, ?_, rfl, ⟨List.getElem?_idxOf hmem, rfl⟩, ?_⟩
  · rw [getElem?_slotsOf (g.length_ranks ▸ hi), hslot]
  · exact length_le_widest (getD_mem_rowsOf (rankAt_lt_length_rowsOf hi))

theorem holds_of_slotsOf {i : Nat} {s : Slot} (h : (slotsOf g.ranks)[i]? = some s) :
    i < g.nodes.length ∧ s.row = g.rankAt i ∧ s.Holds (rowsOf g.ranks) i ∧
      s.rowLength ≤ widest (rowsOf g.ranks) := by
  have hi : i < g.nodes.length := by
    obtain ⟨hlt, -⟩ := List.getElem?_eq_some_iff.mp h
    rwa [length_slotsOf, length_ranks] at hlt
  obtain ⟨t, -, hslot, hrow, hholds, hfits⟩ := exists_slot hi
  obtain rfl : s = t := Option.some.inj (h.symm.trans hslot)
  exact ⟨hi, hrow, hholds, hfits⟩

/-- Row and column of a slot determine its node. -/
theorem eq_of_slot_eq {i j : Nat} {s t : Slot} (hs : (slotsOf g.ranks)[i]? = some s)
    (ht : (slotsOf g.ranks)[j]? = some t) (hrow : s.row = t.row) (hcolumn : s.column = t.column) :
    i = j := by
  have hi := (holds_of_slotsOf hs).2.2.1.node
  have hj := (holds_of_slotsOf ht).2.2.1.node
  rw [hrow, hcolumn, hj] at hi
  exact (Option.some.inj hi).symm

theorem nodup_slots (g : CallGraph) :
    ((slotsOf g.ranks).map fun s => (s.row, s.column)).Nodup := by
  rw [List.nodup_iff_getElem?_ne_getElem?]
  intro i j hij hj heq
  rw [List.length_map] at hj
  have hs := List.getElem?_eq_getElem (hij.trans hj)
  have ht := List.getElem?_eq_getElem hj
  rw [List.getElem?_map, List.getElem?_map, hs, ht] at heq
  obtain ⟨hrow, hcolumn⟩ := Prod.mk.inj (Option.some.inj heq)
  exact hij.ne (eq_of_slot_eq hs ht hrow hcolumn)

theorem getElem?_layout {α : Type} [Measure α] (options : LayoutOptions α) {i : Nat} {s : Slot}
    (h : (slotsOf g.ranks)[i]? = some s) :
    (g.layout options)[i]? = some (s.position options (widest (rowsOf g.ranks))) := by
  rw [layout, List.getElem?_map, h]
  rfl

/-- A call leads out of a recursive group unless both of its ends share one. -/
theorem rankAt_lt_of_call {u v : Nat} (hcall : (u, v) ∈ g.calls)
    (hapart : ∀ group ∈ g.recursiveGroups, u ∈ group → v ∉ group) : g.rankAt u < g.rankAt v := by
  refine g.isRanking_rankAt.across hcall ?_
  rintro ⟨-, hback⟩
  -- With a way back, the call closes a circle.
  have hout : g.Path u v := .single hcall
  have hin : g.Path v u := by
    rcases Relation.reflTransGen_iff_eq_or_transGen.mp hback with rfl | hpath
    · exact hout
    · exact hpath
  obtain ⟨group, hgroup, hu, hv⟩ := exists_group_iff.mpr ⟨hout, hin⟩
  exact hapart group hgroup hu hv

end CallGraph

end CallAtlas.Graph

namespace CallAtlas.Present

open CallAtlas.Extract
open CallAtlas.Graph

/-! ## Section 3: Layouts and what is shown of them -/

/-- The position of a node that is shown is the one that the layout gives it. -/
theorem getElem?_layout_of_present {options : Options} {d : Dataset} {i : Nat}
    {n : PresentationNode} (h : (present options d).nodes[i]? = some n) :
    ((drawnGraph options.dangling d).layout options.layout)[i]? = some n.position := by
  have hlength := (drawnGraph options.dangling d).length_layout options.layout
  obtain ⟨hi, rfl⟩ := List.getElem?_eq_some_iff.mp h
  have hi' : i < ((drawnGraph options.dangling d).layout options.layout).length := by
    simpa [present, hlength] using hi
  simp [present, hi']

/-- **Slots.** The rows of a layout hold every node once, in the row of its rank, in the order
    of the names and without an empty row, and none is longer than the longest. So every node
    has a slot in the rows, no two have the same one, and the layout has the position of that
    slot for it; what is shown of a dataset has its positions from the layout. A callee outside
    the recursive groups of its caller stands in a later row. -/
theorem layout_slots_distinct (g : CallGraph) :
    g.Arranged (rowsOf g.ranks) ∧
    (∀ i < g.nodes.length, ∃ s, slotIn? (rowsOf g.ranks) i = some s ∧
      (slotsOf g.ranks)[i]? = some s ∧ s.row = g.rankAt i ∧ s.Holds (rowsOf g.ranks) i ∧
      s.rowLength ≤ widest (rowsOf g.ranks) ∧
      ∀ (α : Type) [Measure α] (options : LayoutOptions α),
        (g.layout options)[i]? = some (s.position options (widest (rowsOf g.ranks)))) ∧
    ((slotsOf g.ranks).map fun s => (s.row, s.column)).Nodup ∧
    (∀ (options : Options) (d : Dataset) (i : Nat) (n : PresentationNode),
      (present options d).nodes[i]? = some n →
        ((drawnGraph options.dangling d).layout options.layout)[i]? = some n.position) ∧
    ∀ u v, (u, v) ∈ g.calls → (∀ group ∈ g.recursiveGroups, u ∈ group → v ∉ group) →
      ∃ s t, (slotsOf g.ranks)[u]? = some s ∧ (slotsOf g.ranks)[v]? = some t ∧ s.row < t.row := by
  refine ⟨g.arranged_rowsOf, ?_, g.nodup_slots, ?_, ?_⟩
  · intro i hi
    obtain ⟨s, hin, hslot, hrow, hholds, hfits⟩ := CallGraph.exists_slot hi
    refine ⟨s, hin, hslot, hrow, hholds, hfits, ?_⟩
    intro α _ options
    exact CallGraph.getElem?_layout options hslot
  · intro options d i n hn
    exact getElem?_layout_of_present hn
  · intro u v hcall hapart
    obtain ⟨hu, hv⟩ := g.calls_lt _ hcall
    obtain ⟨s, -, hs, hsrow, -⟩ := CallGraph.exists_slot hu
    obtain ⟨t, -, ht, htrow, -⟩ := CallGraph.exists_slot hv
    refine ⟨s, t, hs, ht, ?_⟩
    rw [hsrow, htrow]
    exact CallGraph.rankAt_lt_of_call hcall hapart

/-- In a graph where `main` calls `even`, and `even` and `odd` call each other, `even` stands in
    a later row than `main`; and all functions of the sample are shown where they stand. -/
theorem layout_slots_distinct_evenOdd :
    (∃ s, slotIn? (rowsOf CallGraph.evenOdd.ranks) 0 = some s ∧
      s.row = CallGraph.evenOdd.rankAt 0) ∧
    (∃ n, (present .default Stats.sampleDataset).nodes[0]? = some n ∧
      ((drawnGraph .leaveOut Stats.sampleDataset).layout .default)[0]? = some n.position) ∧
    (0, 1) ∈ CallGraph.evenOdd.calls ∧
    (∀ group ∈ CallGraph.evenOdd.recursiveGroups, 0 ∈ group → 1 ∉ group) ∧
    ∃ s t, (slotsOf CallGraph.evenOdd.ranks)[0]? = some s ∧
      (slotsOf CallGraph.evenOdd.ranks)[1]? = some t ∧ s.row < t.row := by
  obtain ⟨-, hslot, -, hshown, hcalls⟩ := layout_slots_distinct CallGraph.evenOdd
  have hcall : (0, 1) ∈ CallGraph.evenOdd.calls := by decide +kernel
  have hapart : ∀ group ∈ CallGraph.evenOdd.recursiveGroups, 0 ∈ group → 1 ∉ group := by
    intro group hgroup hmain heven
    -- Nothing calls `main`.
    have huncalled : ∀ c ∈ CallGraph.evenOdd.calls, c.2 ≠ 0 := by decide +kernel
    obtain ⟨-, hback⟩ := CallGraph.exists_group_iff.mp ⟨group, hgroup, hmain, heven⟩
    obtain ⟨i, -, harc⟩ := Relation.TransGen.tail'_iff.mp hback
    exact huncalled _ harc rfl
  have hnode : ∃ n, (present .default Stats.sampleDataset).nodes[0]? = some n := by
    have hlength : 0 < (present .default Stats.sampleDataset).nodes.length := by
      have hnodes : 0 < (drawnGraph .leaveOut Stats.sampleDataset).nodes.length := by
        decide +kernel
      simpa [present, Options.default] using hnodes
    exact ⟨_, List.getElem?_eq_getElem hlength⟩
  obtain ⟨s, hs, -, hrow, -⟩ := hslot 0 (by decide +kernel)
  obtain ⟨n, hn⟩ := hnode
  exact ⟨⟨s, hs, hrow⟩, ⟨n, hn, hshown .default Stats.sampleDataset 0 n hn⟩, hcall, hapart,
    hcalls 0 1 hcall hapart⟩

end CallAtlas.Present
