/-! # Sets of nodes

    A set of node numbers below a fixed bound, as one mark per node.
-/

namespace CallAtlas.Graph

structure NodeSet where
  marks : Array Bool
  deriving DecidableEq, Inhabited

namespace NodeSet

/-- The empty set of numbers below `n`. -/
def empty (n : Nat) : NodeSet := ⟨Array.replicate n false⟩

/-- The numbers below `n` that a condition holds of. -/
def ofPredicate (n : Nat) (p : Nat → Bool) : NodeSet := ⟨((List.range n).map p).toArray⟩

def bound (s : NodeSet) : Nat := s.marks.size

def contains (s : NodeSet) (i : Nat) : Bool := s.marks.getD i false

/-- Whether a number below the bound is not in the set. -/
def lacks (s : NodeSet) (i : Nat) : Bool := !s.marks.getD i true

/-- Adds a number; one that is not below the bound is left out. -/
def insert (s : NodeSet) (i : Nat) : NodeSet := ⟨s.marks.setIfInBounds i true⟩

/-- How many numbers below the bound are not in the set. -/
def room (s : NodeSet) : Nat := s.marks.count false

@[simp] theorem bound_empty (n : Nat) : (empty n).bound = n := Array.size_replicate

@[simp] theorem bound_insert (s : NodeSet) (i : Nat) : (s.insert i).bound = s.bound :=
  Array.size_setIfInBounds

@[simp] theorem contains_empty (n i : Nat) : (empty n).contains i = false := by
  by_cases hi : i < n <;> simp [contains, empty, hi]

theorem contains_ofPredicate {n : Nat} {p : Nat → Bool} {i : Nat} :
    (ofPredicate n p).contains i = true ↔ i < n ∧ p i = true := by
  by_cases hi : i < n <;> simp [contains, ofPredicate, hi]

theorem lacks_iff {s : NodeSet} {i : Nat} :
    s.lacks i = true ↔ i < s.bound ∧ s.contains i = false := by
  by_cases hi : i < s.marks.size <;> simp [lacks, contains, bound, hi]

theorem not_contains_of_lacks {s : NodeSet} {i : Nat} (h : s.lacks i = true) :
    ¬ s.contains i = true := by
  rw [(lacks_iff.mp h).2]
  exact Bool.false_ne_true

theorem contains_of_not_lacks {s : NodeSet} {i : Nat} (hi : i < s.bound)
    (h : ¬ s.lacks i = true) : s.contains i = true := by
  cases hc : s.contains i
  · exact absurd (lacks_iff.mpr ⟨hi, hc⟩) h
  · rfl

/-- A greater set lacks less. -/
theorem lacks_mono {s t : NodeSet} (hbound : t.bound = s.bound)
    (h : ∀ i, s.contains i = true → t.contains i = true) {i : Nat} (hi : t.lacks i = true) :
    s.lacks i = true := by
  obtain ⟨hlt, hnot⟩ := lacks_iff.mp hi
  refine lacks_iff.mpr ⟨hbound ▸ hlt, ?_⟩
  cases hc : s.contains i
  · rfl
  · rw [h i hc] at hnot
    contradiction

theorem contains_insert {s : NodeSet} {i j : Nat} :
    (s.insert i).contains j = true ↔ s.contains j = true ∨ j = i ∧ i < s.bound := by
  by_cases hj : j < s.marks.size
  · by_cases hij : i = j
    · subst hij
      simp [contains, insert, bound, hj]
    · have : j ≠ i := fun h => hij h.symm
      simp [contains, insert, hj, hij, this]
  · have : ¬ (j = i ∧ i < s.marks.size) := fun h => hj (h.1 ▸ h.2)
    simp [contains, insert, bound, hj, this]

theorem lacks_insert {s : NodeSet} {i j : Nat} (hi : i < s.bound) :
    (s.insert i).lacks j = true ↔ s.lacks j = true ∧ j ≠ i := by
  have hcontains := contains_insert (s := s) (i := i) (j := j)
  rw [lacks_iff, lacks_iff, bound_insert, ← Bool.not_eq_true, ← Bool.not_eq_true, hcontains]
  grind

theorem room_insert {s : NodeSet} {i : Nat} (h : s.lacks i = true) :
    (s.insert i).room + 1 = s.room := by
  obtain ⟨hi, hfalse⟩ : ∃ hi : i < s.marks.size, s.marks[i] = false := by
    obtain ⟨hbound, hcontains⟩ := lacks_iff.mp h
    have hi : i < s.marks.size := hbound
    exact ⟨hi, by simpa [contains, hi] using hcontains⟩
  have hpos : 0 < s.marks.count false :=
    Array.count_pos_iff.mpr (hfalse ▸ Array.getElem_mem hi)
  have hcount : (s.marks.set i true hi).count false = s.marks.count false - 1 := by
    simp [Array.count_set, hfalse]
  simp only [room, insert, Array.setIfInBounds, hi, ↓reduceDIte, hcount]
  omega

theorem bound_foldl_insert (s : NodeSet) (nodes : List Nat) :
    (nodes.foldl insert s).bound = s.bound := by
  induction nodes generalizing s with
  | nil => rfl
  | cons i rest ih => rw [List.foldl_cons, ih, bound_insert]

theorem contains_foldl_insert {s : NodeSet} {nodes : List Nat}
    (hlt : ∀ i ∈ nodes, i < s.bound) {j : Nat} :
    (nodes.foldl insert s).contains j = true ↔ s.contains j = true ∨ j ∈ nodes := by
  induction nodes generalizing s with
  | nil => simp
  | cons i rest ih =>
    have hrest : ∀ k ∈ rest, k < (s.insert i).bound := by
      simpa using fun k hk => hlt k (List.mem_cons_of_mem i hk)
    have hi : i < s.bound := hlt i List.mem_cons_self
    rw [List.foldl_cons, ih hrest, contains_insert, List.mem_cons, or_assoc]
    simp only [hi, and_true]

theorem room_foldl_insert {s : NodeSet} {nodes : List Nat} (hnodup : nodes.Nodup)
    (hlacks : ∀ i ∈ nodes, s.lacks i = true) :
    (nodes.foldl insert s).room + nodes.length = s.room := by
  induction nodes generalizing s with
  | nil => rfl
  | cons i rest ih =>
    obtain ⟨hi, hnodup⟩ := List.nodup_cons.mp hnodup
    have hi_lacks := hlacks i List.mem_cons_self
    have hroom := room_insert hi_lacks
    have hrest : ∀ j ∈ rest, (s.insert i).lacks j = true := by
      intro j hj
      refine (lacks_insert (lacks_iff.mp hi_lacks).1).mpr ⟨?_, ?_⟩
      · exact hlacks j (List.mem_cons_of_mem i hj)
      · rintro rfl
        exact hi hj
    have hfold := ih hnodup hrest
    rw [List.foldl_cons, List.length_cons]
    omega

end NodeSet

end CallAtlas.Graph
