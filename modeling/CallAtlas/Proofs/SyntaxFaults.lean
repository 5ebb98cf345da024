import CallAtlas.Extract.Extraction
import CallAtlas.Proofs.Alignment

/-! # Faults of syntax trees

    The search for a fault misses none: it finds nothing exactly if no node is damaged, no
    statement of Python 2 stands without a chevron and every block is aligned.

    What it reports is the first fault in document order, with one exception. A block is
    judged before its parts are, so a statement that is not aligned is reported although an
    offence lies before it in the same block.
-/

namespace CallAtlas.Syntax

open CallAtlas.Text

/-! ## Section 1: Offences -/

namespace Visit

/-- A visit offends at a position: a damaged node and a statement of Python 2 at their own
    start, a block at the start of the statement that is not aligned. -/
inductive Offends (v : Visit) : ℕ ×ₗ ℕ → Prop where
  | damaged (h : v.node.health ≠ .sound) : Offends v v.node.position
  | pythonTwoOnly (h : v.node.isPythonTwoOnly) : Offends v v.node.position
  | misaligned {f : Fault} (hblock : v.node.isPhrase .block)
      (h : v.node.misaligned v.previous = some f) : Offends v f.position

end Visit

namespace Node

theorem faultAt_eq_none_iff {v : Visit} :
    faultAt v = none ↔ v.node.health = .sound ∧ v.node.isPythonTwoOnly = false ∧
      (v.node.isPhrase .block → v.node.Aligned v.previous) := by
  unfold faultAt
  cases v.node.health with
  | missing => simp
  | error => simp
  | sound =>
    cases v.node.isPythonTwoOnly with
    | true => simp
    | false =>
      cases v.node.isPhrase .block with
      | true => simpa using misaligned_eq_none_iff
      | false => simp

/-- A fault is that of the node itself, or the node is a block that is sound but for its
    alignment. -/
theorem faultAt_eq_some {v : Visit} {f : Fault} (h : faultAt v = some f) :
    f.position = v.node.position ∨
      v.node.health = .sound ∧ v.node.isPythonTwoOnly = false ∧ v.node.isPhrase .block ∧
        v.node.misaligned v.previous = some f := by
  unfold faultAt at h
  split at h
  · exact .inl (Option.some.inj h ▸ Fault.position_atNode v.node _)
  · exact .inl (Option.some.inj h ▸ Fault.position_atNode v.node _)
  · split at h
    · exact .inl (Option.some.inj h ▸ Fault.position_atNode v.node _)
    · split at h
      · exact .inr ⟨‹_›, by simpa using ‹¬ v.node.isPythonTwoOnly = true›, ‹_›, h⟩
      · cases h

theorem not_offends_of_faultAt_eq_none {v : Visit} {p : ℕ ×ₗ ℕ} (h : faultAt v = none) :
    ¬ v.Offends p := by
  obtain ⟨hsound, hkeyword, haligned⟩ := faultAt_eq_none_iff.mp h
  intro hoffends
  cases hoffends with
  | damaged hdamaged => exact hdamaged hsound
  | pythonTwoOnly htwo => simp [hkeyword] at htwo
  | misaligned hblock hmisaligned =>
    rw [misaligned_eq_none_iff.mpr (haligned hblock)] at hmisaligned
    cases hmisaligned

/-- No node is damaged, every statement of Python 2 has a chevron, and every block is
    aligned. -/
structure Faultless (root : Node) : Prop where
  undamaged : ∀ n ∈ root.preorder, n.health = .sound
  chevroned : ∀ n ∈ root.preorder, n.isPhrase .printStatement ∨ n.isPhrase .execStatement →
    ∃ c ∈ n.children, c.isPhrase .chevron
  aligned : ∀ v ∈ root.visits, v.node.isPhrase .block → v.node.Aligned v.previous

theorem isPythonTwoOnly_eq_false_iff {n : Node} :
    n.isPythonTwoOnly = false ↔
      (n.isPhrase .printStatement ∨ n.isPhrase .execStatement →
        ∃ c ∈ n.children, c.isPhrase .chevron) := by
  rw [isPythonTwoOnly, hasChild, ← List.any_eq_true, Bool.and_eq_false_iff,
    Bool.not_eq_false', ← Bool.or_eq_true]
  cases n.isPhrase .printStatement || n.isPhrase .execStatement <;> simp

theorem faultless_iff {root : Node} :
    root.Faultless ↔ ∀ v ∈ root.visits, faultAt v = none := by
  have hnodes : ∀ p : Node → Prop, (∀ n ∈ root.preorder, p n) ↔ ∀ v ∈ root.visits, p v.node := by
    intro p
    rw [← Visit.map_node_visits, List.forall_mem_map]
  simp only [faultAt_eq_none_iff, isPythonTwoOnly_eq_false_iff]
  constructor
  · rintro ⟨hundamaged, hchevroned, haligned⟩ v hv
    exact ⟨(hnodes _).mp hundamaged v hv, (hnodes _).mp hchevroned v hv, haligned v hv⟩
  · intro h
    exact ⟨(hnodes _).mpr fun v hv => (h v hv).1, (hnodes _).mpr fun v hv => (h v hv).2.1,
      fun v hv => (h v hv).2.2⟩

/-! ## Section 2: The search -/

/-- A run over visits ends at the first that has a fault, or it has seen them all. -/
theorem foldlM_examine (seen visits : List Visit) :
    visits.foldlM examine seen =
      match visits.findSome? faultAt with
      | some f => .error f
      | none => .ok (visits.reverse ++ seen) := by
  induction visits generalizing seen with
  | nil => rfl
  | cons v visits ih =>
    rw [List.foldlM_cons, List.findSome?_cons, examine]
    cases faultAt v with
    | some f => rfl
    | none =>
      rw [List.reverse_cons, List.append_assoc]
      exact ih (v :: seen)

theorem search_eq (root : Node) :
    root.search =
      match root.visits.findSome? faultAt with
      | some f => .error f
      | none => .ok root.visits.reverse := by
  rw [search, walk_root, foldlM_examine]
  simp only [List.append_nil]

theorem search_eq_ok_iff {root : Node} :
    root.search = .ok root.visits.reverse ↔ root.Faultless := by
  rw [faultless_iff, ← List.findSome?_eq_none_iff, search_eq]
  cases root.visits.findSome? faultAt <;> simp

/-- A search that fails has found the fault of the first visit that has one. -/
theorem exists_of_search_eq_error {root : Node} {f : Fault} (h : root.search = .error f) :
    ∃ before v after, root.visits = before ++ v :: after ∧ faultAt v = some f ∧
      ∀ w ∈ before, faultAt w = none := by
  rw [search_eq] at h
  cases hfault : root.visits.findSome? faultAt with
  | none => simp [hfault] at h
  | some g =>
    simp only [hfault, Except.error.injEq] at h
    exact List.findSome?_eq_some_iff.mp (h ▸ hfault)

theorem firstFault_eq_none {root : Node} {flagged : Bool} :
    root.firstFault flagged = none ↔ root.Faultless ∧ flagged = false := by
  rw [← search_eq_ok_iff, firstFault, search_eq]
  cases root.visits.findSome? faultAt <;> cases flagged <;> simp

/-- A fault has been found by the search, or the tree has none and is only flagged. -/
theorem search_or_faultless_of_firstFault {root : Node} {flagged : Bool} {f : Fault}
    (h : root.firstFault flagged = some f) : root.search = .error f ∨ root.Faultless := by
  rw [← search_eq_ok_iff]
  rw [firstFault, search_eq] at h
  rw [search_eq]
  cases hfault : root.visits.findSome? faultAt with
  | none => exact .inr rfl
  | some g =>
    simp only [hfault, Option.some.injEq] at h
    exact .inl (h ▸ rfl)

/-- A tree that is let through has no fault and is not flagged. -/
theorem faultless_of_eq_ok {tree root : Node} {flagged : Bool}
    (h : Extract.faultless tree flagged = .ok root) : root.Faultless ∧ flagged = false := by
  unfold Extract.faultless at h
  cases hfault : tree.firstFault flagged with
  | some fault => simp [hfault] at h
  | none =>
    simp only [hfault, Except.ok.injEq] at h
    exact h ▸ firstFault_eq_none.mp hfault

/-- Given that the parser flags the trees with a damaged node, a tree passes exactly if it is
    faultless. By then the search has seen every visit of it, and the front end lets through no
    other tree. -/
theorem firstFault_eq_none_iff_faultless {root : Node} {flagged : Bool}
    (hflagged : flagged = true ↔ ∃ n ∈ root.preorder, n.health ≠ .sound) :
    (root.firstFault flagged = none ↔ root.Faultless) ∧
    (root.firstFault flagged = none → root.search = .ok root.visits.reverse) ∧
    (∀ recover source, Extract.pythonFrontend recover source = .ok root → root.Faultless) := by
  refine ⟨?_, ?_, ?_⟩
  · rw [firstFault_eq_none]
    constructor
    · exact And.left
    · intro h
      refine ⟨h, Bool.eq_false_iff.mpr fun hflag => ?_⟩
      obtain ⟨n, hn, hdamaged⟩ := hflagged.mp hflag
      exact hdamaged (h.undamaged n hn)
  · intro h
    exact search_eq_ok_iff.mpr (firstFault_eq_none.mp h).1
  · intro recover source h
    unfold Extract.pythonFrontend at h
    cases hparse : parse source with
    | some tree =>
      simp only [hparse] at h
      exact (faultless_of_eq_ok h).1
    | none =>
      -- A tree from the recovery is flagged, and so has a fault.
      simp only [hparse] at h
      cases (faultless_of_eq_ok h).2

/-- A sound node. -/
def soundNode (kind : Kind) (start stop : Place) (field : Option Field) (children : List Node) :
    Node :=
  ⟨kind, start, stop, field, false, .sound, children⟩

def wordNode (spelling : String) (start stop : Place) : Node :=
  soundNode (.terminal (.word spelling)) start stop none []

def nameNode (start stop : Place) (field : Option Field) : Node :=
  soundNode (.terminal .identifier) start stop field []

/-- The tree of `def f():` with a block that starts at the third column of the second line. -/
def functionTree (stop : Place) (statements : List Node) : Node :=
  soundNode (.phrase .sourceFile) ⟨0, 0, 0⟩ stop none
    [soundNode (.phrase .functionDefinition) ⟨0, 0, 0⟩ stop none
      [wordNode "def" ⟨0, 0, 0⟩ ⟨3, 0, 3⟩,
        nameNode ⟨4, 0, 4⟩ ⟨5, 0, 5⟩ (some .name),
        soundNode (.phrase .parameters) ⟨5, 0, 5⟩ ⟨7, 0, 7⟩ (some .parameters)
          [wordNode "(" ⟨5, 0, 5⟩ ⟨6, 0, 6⟩, wordNode ")" ⟨6, 0, 6⟩ ⟨7, 0, 7⟩],
        wordNode ":" ⟨7, 0, 7⟩ ⟨8, 0, 8⟩,
        soundNode (.phrase .block) ⟨11, 1, 2⟩ stop (some .body) statements]]

/-- The tree of that function with the lines `print >>a` and `b`. -/
def chevronTree : Node :=
  functionTree ⟨24, 2, 3⟩
    [soundNode (.phrase .printStatement) ⟨11, 1, 2⟩ ⟨20, 1, 11⟩ none
      [wordNode "print" ⟨11, 1, 2⟩ ⟨16, 1, 7⟩,
        soundNode (.phrase .chevron) ⟨17, 1, 8⟩ ⟨20, 1, 11⟩ none
          [wordNode ">>" ⟨17, 1, 8⟩ ⟨19, 1, 10⟩, nameNode ⟨19, 1, 10⟩ ⟨20, 1, 11⟩ none]],
      soundNode (.phrase .expressionStatement) ⟨23, 2, 2⟩ ⟨24, 2, 3⟩ none
        [nameNode ⟨23, 2, 2⟩ ⟨24, 2, 3⟩ none]]

/-- Nothing is found in that tree, so it is faultless, and all of it has been seen. -/
theorem firstFault_eq_none_iff_faultless_chevron :
    chevronTree.firstFault false = none ∧ chevronTree.Faultless ∧
      chevronTree.search = .ok chevronTree.visits.reverse := by
  have hflagged : false = true ↔ ∃ n ∈ chevronTree.preorder, n.health ≠ .sound := by
    decide +kernel
  have hnone : chevronTree.firstFault false = none := by decide +kernel
  obtain ⟨hiff, hseen, -⟩ := firstFault_eq_none_iff_faultless hflagged
  exact ⟨hnone, hiff.mp hnone, hseen hnone⟩

/-! ## Section 3: What is reported first -/

theorem position_le_of_offends {v : Visit} {p : ℕ ×ₗ ℕ} (hv : v.node.Orderly)
    (h : v.Offends p) : v.node.position ≤ p := by
  cases h with
  | damaged => exact le_rfl
  | pythonTwoOnly => exact le_rfl
  | misaligned _ hmisaligned =>
    obtain ⟨n, hn, hposition⟩ := exists_statement_of_misaligned hmisaligned
    rw [hposition]
    exact (Place.le_iff.mp (hv.within n hn).1).2

/-- A visit that has no offence at its own start has at most one, where it is not aligned. -/
theorem eq_position_of_offends {v : Visit} {p : ℕ ×ₗ ℕ} {f : Fault}
    (hsound : v.node.health = .sound) (hkeyword : v.node.isPythonTwoOnly = false)
    (hmisaligned : v.node.misaligned v.previous = some f) (h : v.Offends p) : p = f.position := by
  cases h with
  | damaged hdamaged => exact absurd hsound hdamaged
  | pythonTwoOnly htwo => simp [hkeyword] at htwo
  | misaligned _ hg => rw [Option.some.inj (hg.symm.trans hmisaligned)]

end Node

/-- The fault of a block hides an offence: the block is not aligned, and a part of it before
    the statement that is reported holds an offence, which starts earlier. -/
def Visit.Hides (v : Visit) (f : Fault) (p : ℕ ×ₗ ℕ) : Prop :=
  v.node.isPhrase .block ∧ v.node.misaligned v.previous = some f ∧ p < f.position ∧
    ∃ before statement after, v.node.children = before ++ statement :: after ∧
      statement.position = f.position ∧
      ∃ w ∈ v.node.visitsOfChildren none before, w.Offends p

namespace Node

/-- An offence before the fault that a search has found is hidden by a block. -/
theorem hides_of_lt {root : Node} (hroot : root.InOrder) {f : Fault}
    {before after : List Visit} {v : Visit} (hsplit : root.visits = before ++ v :: after)
    (hfault : faultAt v = some f) (hbefore : ∀ w ∈ before, faultAt w = none)
    {w : Visit} {p : ℕ ×ₗ ℕ} (hw : w ∈ root.visits) (hoffends : w.Offends p)
    (hlt : p < f.position) : v.Hides f p := by
  have hwp := position_le_of_offends (Visit.orderly_of_mem_visits hroot hw) hoffends
  have hmem : w ∈ v :: after := by
    rw [hsplit] at hw
    rcases List.mem_append.mp hw with hw | hw
    · exact absurd hoffends (not_offends_of_faultAt_eq_none (hbefore w hw))
    · exact hw
  rcases faultAt_eq_some hfault with hown | ⟨hsound, hkeyword, hblock, hmisaligned⟩
  · -- Nothing that follows `v` starts before `v` does.
    have hvw := Visit.position_le_of_split hroot hsplit hmem
    exact absurd (hown ▸ hvw.trans hwp) (not_le_of_gt hlt)
  obtain ⟨statement, hstatement, hposition⟩ := exists_statement_of_misaligned hmisaligned
  obtain ⟨earlier, later, hchildren⟩ := List.append_of_mem hstatement
  refine ⟨hblock, hmisaligned, hlt, earlier, statement, later, hchildren, hposition.symm, w, ?_,
    hoffends⟩
  -- Of what follows `v`, only the parts before the statement may start before it.
  obtain ⟨u, rest, hu, hafter⟩ := Visit.exists_split_at_part hsplit hchildren
  rcases List.mem_cons.mp hmem with rfl | hmem
  · exact absurd (eq_position_of_offends hsound hkeyword hmisaligned hoffends) (ne_of_lt hlt)
  rw [hafter] at hmem
  rcases List.mem_append.mp hmem with hmem | hmem
  · exact hmem
  · have hsplitu : root.visits =
        (before ++ v :: v.node.visitsOfChildren none earlier) ++ u :: rest := by
      rw [hsplit, hafter, List.append_assoc, List.cons_append]
    have huw := Visit.position_le_of_split hroot hsplitu hmem
    rw [hu, ← hposition] at huw
    exact absurd (huw.trans hwp) (not_le_of_gt hlt)

/-- In a tree in order, no offence starts before the fault that is reported, unless the fault
    hides it: a block is reported too early, and nothing else is. -/
theorem firstFault_le_offences_iff {root : Node} {flagged : Bool} {f : Fault}
    (hroot : root.InOrder) (hf : root.firstFault flagged = some f) :
    (∀ v ∈ root.visits, ∀ p, v.Offends p → f.position ≤ p) ↔
      ¬ ∃ v ∈ root.visits, ∃ p, v.Hides f p := by
  constructor
  · -- A hidden offence is one of the tree, and it starts before the fault.
    rintro hfirst ⟨v, hv, p, -, -, hlt, earlier, statement, later, hchildren, -, w, hw, hoffends⟩
    obtain ⟨before, after, hsplit⟩ := List.append_of_mem hv
    obtain ⟨u, rest, -, hafter⟩ := Visit.exists_split_at_part hsplit hchildren
    have hmem : w ∈ root.visits := by
      rw [hsplit, hafter]
      simp [hw]
    exact not_le_of_gt hlt (hfirst w hmem p hoffends)
  · intro hhides w hw p hoffends
    rcases search_or_faultless_of_firstFault hf with herror | hfaultless
    · obtain ⟨before, v, after, hsplit, hfault, hbefore⟩ := exists_of_search_eq_error herror
      by_contra hlt
      have hv : v ∈ root.visits := by
        rw [hsplit]
        simp
      exact hhides ⟨v, hv, p,
        hides_of_lt hroot hsplit hfault hbefore hw hoffends (lt_of_not_ge hlt)⟩
    · exact absurd hoffends (not_offends_of_faultAt_eq_none (faultless_iff.mp hfaultless w hw))

/-- The tree of a function with the lines `print a` and `b`, the second one two columns
    further to the right. -/
def printTree : Node :=
  functionTree ⟨24, 2, 5⟩
    [soundNode (.phrase .printStatement) ⟨11, 1, 2⟩ ⟨18, 1, 9⟩ none
      [wordNode "print" ⟨11, 1, 2⟩ ⟨16, 1, 7⟩, nameNode ⟨17, 1, 8⟩ ⟨18, 1, 9⟩ (some .argument)],
      soundNode (.phrase .expressionStatement) ⟨23, 2, 4⟩ ⟨24, 2, 5⟩ none
        [nameNode ⟨23, 2, 4⟩ ⟨24, 2, 5⟩ none]]

theorem firstFault_printTree :
    printTree.firstFault false = some ⟨.unexpectedIndent, 3, 5⟩ := by decide +kernel

theorem exists_pythonTwoOnly_printTree : ∃ v ∈ printTree.visits,
    v.node.isPythonTwoOnly = true ∧ v.node.position = toLex (2, 3) := by decide +kernel

/-- The fault that is reported hides the statement of Python 2 on the line before. -/
theorem firstFault_le_offences_iff_print :
    printTree.InOrder ∧ printTree.firstFault false = some ⟨.unexpectedIndent, 3, 5⟩ ∧
      ∃ v ∈ printTree.visits, ∃ p, v.Hides ⟨.unexpectedIndent, 3, 5⟩ p := by
  have horder : printTree.InOrder := by decide +kernel
  obtain ⟨v, hv, htwo, hposition⟩ := exists_pythonTwoOnly_printTree
  refine ⟨horder, firstFault_printTree, ?_⟩
  by_contra hhides
  have hle := (firstFault_le_offences_iff horder firstFault_printTree).mpr hhides v hv _
    (.pythonTwoOnly htwo)
  rw [hposition] at hle
  exact absurd hle (by decide)

/-- The fault that is reported need not come before all offences. -/
theorem firstFault_not_le_offences : ¬ ∀ f, printTree.firstFault false = some f →
    ∀ v ∈ printTree.visits, ∀ p, v.Offends p → f.position ≤ p := by
  intro hfirst
  obtain ⟨v, hv, htwo, hposition⟩ := exists_pythonTwoOnly_printTree
  have hle := hfirst _ firstFault_printTree v hv _ (.pythonTwoOnly htwo)
  rw [hposition] at hle
  exact absurd hle (by decide)

end Node

end CallAtlas.Syntax
