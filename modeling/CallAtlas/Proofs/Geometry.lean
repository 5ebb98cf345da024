import CallAtlas.Proofs.Slots
import Mathlib.Data.Rat.Cast.Order
import Mathlib.Data.Set.Prod
import Mathlib.Order.CompletePartialOrder
import Mathlib.Order.Interval.Set.Basic
import Mathlib.Tactic.Linarith
import Mathlib.Tactic.Positivity
import Mathlib.Tactic.Ring

/-! # Geometry of layouts

    Positions over the rational numbers are exact. Different slots are then at least a node
    apart in one direction, and a row that is shorter than the longest one is moved in from
    the left by half of what it lacks, so that all rows have the same middle.
-/

namespace CallAtlas.Graph

/-! ## Section 1: Boxes -/

instance : Measure ℚ where
  ofNat n := n

namespace LayoutOptions

/-- The box of a node with a given centre. -/
def box (options : LayoutOptions ℚ) (p : Position ℚ) : Set (ℚ × ℚ) :=
  Set.Icc (p.x - options.nodeWidth / 2) (p.x + options.nodeWidth / 2) ×ˢ
    Set.Icc (p.y - options.nodeHeight / 2) (p.y + options.nodeHeight / 2)

/-- The points inside that box, without its border. -/
def interior (options : LayoutOptions ℚ) (p : Position ℚ) : Set (ℚ × ℚ) :=
  Set.Ioo (p.x - options.nodeWidth / 2) (p.x + options.nodeWidth / 2) ×ˢ
    Set.Ioo (p.y - options.nodeHeight / 2) (p.y + options.nodeHeight / 2)

/-- Sizes and gaps are not negative. -/
structure Sensible (options : LayoutOptions ℚ) : Prop where
  nodeWidth : 0 ≤ options.nodeWidth
  nodeHeight : 0 ≤ options.nodeHeight
  nodeGap : 0 ≤ options.nodeGap
  rankGap : 0 ≤ options.rankGap

/-- Boxes whose centres are a width apart, or a height, do not overlap. -/
theorem disjoint_interior {options : LayoutOptions ℚ} {p q : Position ℚ}
    (h : options.nodeWidth ≤ |p.x - q.x| ∨ options.nodeHeight ≤ |p.y - q.y|) :
    Disjoint (options.interior p) (options.interior q) := by
  rw [Set.disjoint_left]
  rintro ⟨x, y⟩ hp hq
  obtain ⟨⟨hpl, hpr⟩, hpt, hpb⟩ := hp
  obtain ⟨⟨hql, hqr⟩, hqt, hqb⟩ := hq
  dsimp only at hpl hpr hpt hpb hql hqr hqt hqb
  rcases h with h | h
  · rcases le_abs.mp h with h | h <;> linarith
  · rcases le_abs.mp h with h | h <;> linarith

end LayoutOptions

/-! ## Section 2: Positions of slots -/

namespace Slot

variable (options : LayoutOptions ℚ) (longest : Nat) (s : Slot)

theorem position_x :
    (s.position options longest).x =
      ((longest - s.rowLength : Nat) : ℚ) * (options.nodeWidth + options.nodeGap) / 2 +
        s.column * (options.nodeWidth + options.nodeGap) + options.nodeWidth / 2 := rfl

theorem position_y :
    (s.position options longest).y =
      s.row * (options.nodeHeight + options.rankGap) + options.nodeHeight / 2 := rfl

end Slot

/-- Different numbers of steps that are no shorter than a size lie that size apart. -/
theorem le_abs_steps {size step : ℚ} (hsize : 0 ≤ size) (hstep : size ≤ step) {m n : Nat}
    (h : m ≠ n) : size ≤ |m * step - n * step| := by
  have hone : (1 : ℚ) ≤ |(m : ℚ) - n| := by
    rcases Nat.lt_or_gt_of_ne h with hlt | hlt
    · have : (m : ℚ) + 1 ≤ n := by exact_mod_cast hlt
      rw [abs_sub_comm]
      exact le_abs.mpr (.inl (by linarith))
    · have : (n : ℚ) + 1 ≤ m := by exact_mod_cast hlt
      exact le_abs.mpr (.inl (by linarith))
  calc size ≤ step := hstep
    _ ≤ |(m : ℚ) - n| * step := le_mul_of_one_le_left (hsize.trans hstep) hone
    _ = |m * step - n * step| := by
      rw [← sub_mul, abs_mul, abs_of_nonneg (hsize.trans hstep)]

namespace CallGraph

variable {g : CallGraph} {options : LayoutOptions ℚ}

/-- Nodes in one row differ by their columns, and other nodes by their rows. -/
theorem apart_of_ne (h : options.Sensible) {i j : Nat} (hne : i ≠ j) {s t : Slot}
    (hs : (slotsOf g.ranks)[i]? = some s) (ht : (slotsOf g.ranks)[j]? = some t) (longest : Nat) :
    options.nodeWidth ≤ |(s.position options longest).x - (t.position options longest).x| ∨
      options.nodeHeight ≤ |(s.position options longest).y - (t.position options longest).y| := by
  by_cases hrow : s.row = t.row
  · have hcolumn : s.column ≠ t.column := fun heq => hne (eq_of_slot_eq hs ht hrow heq)
    have hlength : s.rowLength = t.rowLength := by
      rw [(holds_of_slotsOf hs).2.2.1.rowLength, (holds_of_slotsOf ht).2.2.1.rowLength, hrow]
    have hstep : options.nodeWidth ≤ options.nodeWidth + options.nodeGap := by
      linarith [h.nodeGap]
    left
    rw [s.position_x, t.position_x, hlength, add_sub_add_right_eq_sub, add_sub_add_left_eq_sub]
    exact le_abs_steps h.nodeWidth hstep hcolumn
  · have hstep : options.nodeHeight ≤ options.nodeHeight + options.rankGap := by
      linarith [h.rankGap]
    right
    rw [s.position_y, t.position_y, add_sub_add_right_eq_sub]
    exact le_abs_steps h.nodeHeight hstep hrow

/-- A slot is not left of the first column, nor above the first row. -/
theorem box_position_subset (h : options.Sensible) (s : Slot) (longest : Nat) :
    options.box (s.position options longest) ⊆ {point | 0 ≤ point.1 ∧ 0 ≤ point.2} := by
  rintro ⟨x, y⟩ ⟨⟨hx, -⟩, hy, -⟩
  dsimp only at hx hy
  rw [s.position_x] at hx
  rw [s.position_y] at hy
  have hwidth := h.nodeWidth
  have hheight := h.nodeHeight
  have hgap := h.nodeGap
  have hrank := h.rankGap
  have hoffset : 0 ≤ ((longest - s.rowLength : Nat) : ℚ) *
      (options.nodeWidth + options.nodeGap) / 2 := by positivity
  have hcolumn : 0 ≤ s.column * (options.nodeWidth + options.nodeGap) := by positivity
  have hrow : 0 ≤ s.row * (options.nodeHeight + options.rankGap) := by positivity
  exact ⟨by linarith, by linarith⟩

/-- The centre of a row: half of what it lacks on either side makes up for its length. -/
theorem mean_of_ends {first last : Slot} {longest length : Nat} (hlength : length + 1 ≤ longest)
    (hfirst : first.column = 0 ∧ first.rowLength = length + 1)
    (hlast : last.column = length ∧ last.rowLength = length + 1) :
    ((first.position options longest).x + (last.position options longest).x) / 2 =
      (longest * (options.nodeWidth + options.nodeGap) - options.nodeGap) / 2 := by
  rw [first.position_x, last.position_x, hfirst.1, hfirst.2, hlast.1, hlast.2,
    Nat.cast_sub hlength]
  push_cast
  ring

/-! ## Section 3: The ends of a row -/

/-- The slot of a node has the place of the node in its row. -/
theorem exists_slot_of_row {row : List Nat} (hrow : row ∈ rowsOf g.ranks) {k i : Nat}
    (h : row[k]? = some i) :
    ∃ s, (slotsOf g.ranks)[i]? = some s ∧ s.column = k ∧ s.rowLength = row.length := by
  obtain ⟨r, -, rfl⟩ := exists_of_mem_rowsOf hrow
  obtain ⟨hk, hi⟩ := List.getElem?_eq_some_iff.mp h
  have hmem := List.mem_of_getElem? h
  have hnodup : ((rowsOf g.ranks).getD r []).Nodup := (pairwise_row g.ranks r).imp Nat.ne_of_lt
  have hcolumn : ((rowsOf g.ranks).getD r []).idxOf i = k := by
    rw [← hi, hnodup.idxOf_getElem k hk]
  obtain ⟨s, hin, hs, -⟩ := exists_slot (mem_row_rankAt_iff.mp hmem).1
  rw [slotIn?_rowsOf (mem_row_iff.mp hmem)] at hin
  obtain rfl := Option.some.inj hin
  exact ⟨_, hs, hcolumn, rfl⟩

/-- The first and the last node of a row, and their slots. -/
theorem exists_ends {row : List Nat} (hrow : row ∈ rowsOf g.ranks) :
    ∃ (i j length : Nat) (s t : Slot), row.head? = some i ∧ row.getLast? = some j ∧
      (slotsOf g.ranks)[i]? = some s ∧ (slotsOf g.ranks)[j]? = some t ∧
      length + 1 ≤ widest (rowsOf g.ranks) ∧ (s.column = 0 ∧ s.rowLength = length + 1) ∧
      (t.column = length ∧ t.rowLength = length + 1) := by
  have hne : row ≠ [] := fun hnil => g.arranged_rowsOf.occupied (hnil ▸ hrow)
  obtain ⟨length, hlength⟩ : ∃ length, row.length = length + 1 :=
    Nat.exists_eq_add_one.mpr (List.length_pos_of_ne_nil hne)
  have hfirst : row[0]? = some row[0] := List.getElem?_eq_getElem (by omega)
  have hlast : row[length]? = some row[length] := List.getElem?_eq_getElem (by omega)
  obtain ⟨s, hs, hcolumn, hrowLength⟩ := exists_slot_of_row hrow hfirst
  obtain ⟨t, ht, hcolumn', hrowLength'⟩ := exists_slot_of_row hrow hlast
  have hfits := g.arranged_rowsOf.fits row hrow
  refine ⟨row[0], row[length], length, s, t, ?_, ?_, hs, ht, ?_, ⟨hcolumn, ?_⟩, hcolumn', ?_⟩
  · rw [List.head?_eq_getElem?, hfirst]
  · have hindex : row.length - 1 = length := by omega
    rw [List.getLast?_eq_getElem?, hindex, hlast]
  · omega
  · omega
  · omega

/-- **Geometry.** Let no size and no gap be negative, and let positions be exact. Then the boxes
    of different nodes do not overlap, no box reaches beyond the left or the upper border, and
    the first and the last node of every row have the same middle. -/
theorem layout_geometry (g : CallGraph) {options : LayoutOptions ℚ} (h : options.Sensible) :
    (∀ i < g.nodes.length, ∀ j < g.nodes.length, i ≠ j →
      ∃ p q, (g.layout options)[i]? = some p ∧ (g.layout options)[j]? = some q ∧
        Disjoint (options.interior p) (options.interior q)) ∧
    (∀ p ∈ g.layout options, options.box p ⊆ {point | 0 ≤ point.1 ∧ 0 ≤ point.2}) ∧
    ∀ row ∈ rowsOf g.ranks, ∃ i j p q, row.head? = some i ∧ row.getLast? = some j ∧
      (g.layout options)[i]? = some p ∧ (g.layout options)[j]? = some q ∧
      (p.x + q.x) / 2 = (widest (rowsOf g.ranks) * (options.nodeWidth + options.nodeGap) -
        options.nodeGap) / 2 := by
  refine ⟨?_, ?_, ?_⟩
  · intro i hi j hj hne
    obtain ⟨s, -, hs, -⟩ := exists_slot hi
    obtain ⟨t, -, ht, -⟩ := exists_slot hj
    refine ⟨_, _, getElem?_layout options hs, getElem?_layout options ht, ?_⟩
    exact LayoutOptions.disjoint_interior (apart_of_ne h hne hs ht _)
  · intro p hp
    obtain ⟨s, -, rfl⟩ := List.mem_map.mp hp
    exact box_position_subset h s _
  · intro row hrow
    obtain ⟨i, j, length, s, t, hi, hj, hs, ht, hfits, hfirst, hlast⟩ := exists_ends hrow
    exact ⟨i, j, _, _, hi, hj, getElem?_layout options hs, getElem?_layout options ht,
      mean_of_ends hfits hfirst hlast⟩

/-- With the usual sizes the boxes of `even` and `odd` do not overlap, that of `main` is within
    the borders, and its row has its middle where all rows have it. -/
theorem layout_geometry_evenOdd :
    ∃ options : LayoutOptions ℚ, options = ⟨172, 36, 50, 50⟩ ∧ options.Sensible ∧
      (∃ p q, (evenOdd.layout options)[1]? = some p ∧ (evenOdd.layout options)[2]? = some q ∧
        Disjoint (options.interior p) (options.interior q)) ∧
      (∃ p, (evenOdd.layout options)[0]? = some p ∧
        options.box p ⊆ {point | 0 ≤ point.1 ∧ 0 ≤ point.2}) ∧
      ∃ row ∈ rowsOf evenOdd.ranks, 0 ∈ row ∧ ∃ i j p q, row.head? = some i ∧
        row.getLast? = some j ∧ (evenOdd.layout options)[i]? = some p ∧
        (evenOdd.layout options)[j]? = some q ∧
        (p.x + q.x) / 2 = (widest (rowsOf evenOdd.ranks) * (172 + 50) - 50) / 2 := by
  have hsensible : (⟨172, 36, 50, 50⟩ : LayoutOptions ℚ).Sensible := by
    constructor <;> norm_num
  obtain ⟨hdisjoint, hborders, hmiddle⟩ := layout_geometry evenOdd hsensible
  have hmain : 0 < evenOdd.nodes.length := by decide +kernel
  obtain ⟨s, -, hs, -⟩ := exists_slot hmain
  have hplaced := getElem?_layout (⟨172, 36, 50, 50⟩ : LayoutOptions ℚ) hs
  have hrow := getD_mem_rowsOf (rankAt_lt_length_rowsOf hmain)
  refine ⟨_, rfl, hsensible, ?_, ?_, ?_⟩
  · exact hdisjoint 1 (by decide +kernel) 2 (by decide +kernel) (by decide)
  · exact ⟨_, hplaced, hborders _ (List.mem_of_getElem? hplaced)⟩
  · exact ⟨_, hrow, mem_row_rankAt_iff.mpr ⟨hmain, rfl⟩, hmiddle _ hrow⟩

end CallGraph

end CallAtlas.Graph
