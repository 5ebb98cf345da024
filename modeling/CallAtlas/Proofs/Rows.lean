import CallAtlas.Graph.Layout
import Mathlib.Data.List.GetD
import Mathlib.Data.List.Induction
import Mathlib.Order.MinMax

/-! # Rows and slots

    The rows of a layout are filled node by node, and a row is added when a node of its rank
    comes up. At any time a row holds the nodes of its rank that have come up, in order, and
    there are just enough rows for the greatest of the ranks. So a node is in one row only,
    and its slot can be read off the rows.
-/

namespace CallAtlas.Graph

/-! ## Section 1: Placing one node -/

theorem getD_append_replicate (rows : List (List Nat)) (k r : Nat) :
    (rows ++ List.replicate k []).getD r [] = rows.getD r [] := by
  simp only [List.getD_eq_getElem?_getD]
  by_cases h : r < rows.length
  · rw [List.getElem?_append_left h]
  · have hle : rows.length ≤ r := Nat.le_of_not_lt h
    rw [List.getElem?_append_right hle, List.getElem?_eq_none hle, List.getElem?_replicate]
    split <;> rfl

/-- A node goes to the end of the row of its rank, and the other rows stay as they are. -/
theorem getD_place (rows : List (List Nat)) (rank node r : Nat) :
    (place rows rank node).getD r [] =
      if r = rank then rows.getD r [] ++ [node] else rows.getD r [] := by
  unfold place
  obtain ⟨grown, hgrown⟩ :
    ∃ grown, grown = rows ++ List.replicate (rank + 1 - rows.length) [] := ⟨_, rfl⟩
  have hsame : grown.getD r [] = rows.getD r [] := by
    rw [hgrown, getD_append_replicate]
  have hlt : rank < grown.length := by
    rw [hgrown, List.length_append, List.length_replicate]
    omega
  rw [← hgrown, ← hsame]
  by_cases h : r = rank
  · subst h
    simp [List.getD_eq_getElem?_getD, hlt]
  · simp [List.getD_eq_getElem?_getD, h, Ne.symm h]

theorem length_place (rows : List (List Nat)) (rank node : Nat) :
    (place rows rank node).length = max rows.length (rank + 1) := by
  unfold place
  rw [List.length_modify, List.length_append, List.length_replicate]
  omega

/-! ## Section 2: Placing all nodes -/

theorem rowsOf_concat (ranks : List Nat) (rank : Nat) :
    rowsOf (ranks ++ [rank]) = place (rowsOf ranks) rank ranks.length := by
  unfold rowsOf
  rw [List.zipIdx_append, List.foldl_append]
  simp

/-- A row holds the nodes of its rank. -/
theorem mem_row_iff {ranks : List Nat} {r i : Nat} :
    i ∈ (rowsOf ranks).getD r [] ↔ ranks[i]? = some r := by
  induction ranks using List.reverseRecOn with
  | nil => simp [rowsOf]
  | append_singleton ranks rank ih =>
    rw [rowsOf_concat, getD_place]
    -- The node that comes up is the one behind all the others.
    rcases Nat.lt_trichotomy i ranks.length with hi | rfl | hi
    · have hne : i ≠ ranks.length := Nat.ne_of_lt hi
      have hold : (ranks ++ [rank])[i]? = ranks[i]? := List.getElem?_append_left hi
      rw [hold, ← ih]
      split
      · simp [hne]
      · rfl
    · have hnone : ranks.length ∉ (rowsOf ranks).getD r [] := by
        rw [ih]
        simp
      have hnew : (ranks ++ [rank])[ranks.length]? = some rank := List.getElem?_concat_length
      rw [hnew]
      by_cases hr : r = rank
      · simp [hr]
      · rw [if_neg hr]
        simp only [hnone, Option.some.injEq, false_iff]
        exact fun h => hr h.symm
    · have hne : i ≠ ranks.length := Nat.ne_of_gt hi
      have hnone : (ranks ++ [rank])[i]? = none := by
        rw [List.getElem?_eq_none_iff, List.length_append, List.length_singleton]
        omega
      have hold : i ∉ (rowsOf ranks).getD r [] := by
        rw [ih, List.getElem?_eq_none (Nat.le_of_lt hi)]
        simp
      rw [hnone]
      split
      · simpa [hne] using hold
      · simpa using hold

/-- The nodes of a row increase, since they have come up in this order. -/
theorem pairwise_row (ranks : List Nat) (r : Nat) :
    ((rowsOf ranks).getD r []).Pairwise (· < ·) := by
  induction ranks using List.reverseRecOn with
  | nil => exact .nil
  | append_singleton ranks rank ih =>
    rw [rowsOf_concat, getD_place]
    split
    · refine List.pairwise_append.mpr ⟨ih, List.pairwise_singleton _ _, ?_⟩
      intro i hi j hj
      have hlt : i < ranks.length := (List.getElem?_eq_some_iff.mp (mem_row_iff.mp hi)).1
      rw [List.mem_singleton.mp hj]
      exact hlt
    · exact ih

/-- There are rows up to the greatest rank. -/
theorem lt_length_rowsOf_iff {ranks : List Nat} {r : Nat} :
    r < (rowsOf ranks).length ↔ ∃ rank ∈ ranks, r ≤ rank := by
  induction ranks using List.reverseRecOn with
  | nil => simp [rowsOf]
  | append_singleton ranks rank ih =>
    rw [rowsOf_concat, length_place, lt_max_iff, ih]
    constructor
    · rintro (⟨k, hk, hle⟩ | hlt)
      · exact ⟨k, List.mem_append_left _ hk, hle⟩
      · exact ⟨rank, List.mem_concat_self, Nat.le_of_lt_succ hlt⟩
    · rintro ⟨k, hk, hle⟩
      rcases List.mem_append.mp hk with hk | hk
      · exact .inl ⟨k, hk, hle⟩
      · rw [List.mem_singleton.mp hk] at hle
        exact .inr (Nat.lt_succ_of_le hle)

theorem getD_mem_rowsOf {ranks : List Nat} {r : Nat} (h : r < (rowsOf ranks).length) :
    (rowsOf ranks).getD r [] ∈ rowsOf ranks := by
  rw [List.getD_eq_getElem _ _ h]
  exact List.getElem_mem h

theorem exists_of_mem_rowsOf {ranks row : List Nat} (h : row ∈ rowsOf ranks) :
    ∃ r < (rowsOf ranks).length, (rowsOf ranks).getD r [] = row := by
  obtain ⟨r, hr, hrow⟩ := List.getElem_of_mem h
  exact ⟨r, hr, by rw [List.getD_eq_getElem _ _ hr, hrow]⟩

/-! ## Section 3: The longest row -/

theorem le_foldl_max_length (rows : List (List Nat)) (n : Nat) :
    n ≤ rows.foldl (fun n row => max n row.length) n ∧
      ∀ row ∈ rows, row.length ≤ rows.foldl (fun n row => max n row.length) n := by
  induction rows generalizing n with
  | nil => simp
  | cons first rest ih =>
    obtain ⟨hstart, hrest⟩ := ih (max n first.length)
    rw [List.foldl_cons]
    refine ⟨by omega, ?_⟩
    intro row hrow
    rcases List.mem_cons.mp hrow with rfl | hrow
    · omega
    · exact hrest row hrow

theorem length_le_widest {rows : List (List Nat)} {row : List Nat} (h : row ∈ rows) :
    row.length ≤ widest rows := (le_foldl_max_length rows 0).2 row h

/-! ## Section 4: Slots -/

/-- A node with a rank stands in the row of that rank, and in no row before. -/
theorem slotIn?_rowsOf {ranks : List Nat} {i r : Nat} (h : ranks[i]? = some r) :
    slotIn? (rowsOf ranks) i = some
      ⟨r, ((rowsOf ranks).getD r []).idxOf i, ((rowsOf ranks).getD r []).length⟩ := by
  have hr : r < (rowsOf ranks).length :=
    lt_length_rowsOf_iff.mpr ⟨r, List.mem_of_getElem? h, Nat.le_refl r⟩
  have hfind : (rowsOf ranks).findIdx? (·.contains i) = some r := by
    rw [List.findIdx?_eq_some_iff_getElem]
    refine ⟨hr, ?_, ?_⟩
    · rw [List.contains_iff_mem, ← List.getD_eq_getElem _ [] hr]
      exact mem_row_iff.mpr h
    · intro k hk hcontains
      have hlt : k < (rowsOf ranks).length := Nat.lt_trans hk hr
      rw [List.contains_iff_mem, ← List.getD_eq_getElem _ [] hlt, mem_row_iff, h] at hcontains
      exact Nat.ne_of_gt hk (Option.some.inj hcontains)
  rw [slotIn?, hfind]
  rfl

theorem length_slotsOf (ranks : List Nat) : (slotsOf ranks).length = ranks.length := by
  simp [slotsOf]

/-- Every node has its slot from the rows, and never the first slot for want of one. -/
theorem getElem?_slotsOf {ranks : List Nat} {i : Nat} (h : i < ranks.length) :
    (slotsOf ranks)[i]? = slotIn? (rowsOf ranks) i := by
  have hslot := slotIn?_rowsOf (List.getElem?_eq_getElem h)
  simp [slotsOf, h, hslot]

theorem map_row_slotsOf (ranks : List Nat) : (slotsOf ranks).map (·.row) = ranks := by
  refine List.ext_getElem? fun i => ?_
  by_cases h : i < ranks.length
  · rw [List.getElem?_map, getElem?_slotsOf h, slotIn?_rowsOf (List.getElem?_eq_getElem h),
      List.getElem?_eq_getElem h]
    rfl
  · have hle : ranks.length ≤ i := Nat.le_of_not_lt h
    rw [List.getElem?_eq_none hle, List.getElem?_eq_none]
    rwa [List.length_map, length_slotsOf]

end CallAtlas.Graph
