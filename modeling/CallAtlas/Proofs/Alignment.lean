import CallAtlas.Proofs.DocumentOrder
import CallAtlas.Syntax.Fault

/-! # Alignment of statements

    Of consecutive statements, those that start a line are the ones that must be aligned.
    `Node.misaligned` is shown to look at these alone: it compares all of them with the first
    one and reports the first that stands at another column.
-/

namespace CallAtlas.Syntax

namespace Fault

/-- Line and column of a fault. -/
def position (f : Fault) : ℕ ×ₗ ℕ := toLex (f.line, f.column)

theorem position_atNode (n : Node) (p : Problem) : (atNode n p).position = n.position := rfl

end Fault

namespace Node

/-! ## Section 1: Statements that start a line -/

/-- Whether a node lies below the row on which the node before it ends, if there is one. -/
def startsLine (previous : Option Node) (n : Node) : Bool :=
  previous.all fun m => m.stop.row < n.start.row

/-- Those of consecutive statements that start a line, given the node before the first. -/
def lineStarts (previous : Option Node) (ns : List Node) : List Node :=
  (((previous :: ns.map some).zip ns).filter fun (before, n) => startsLine before n).map (·.2)

theorem lineStarts_cons (previous : Option Node) (n : Node) (ns : List Node) :
    lineStarts previous (n :: ns) =
      if startsLine previous n then n :: lineStarts (some n) ns else lineStarts (some n) ns := by
  simp only [lineStarts, List.map_cons, List.zip_cons_cons, List.filter_cons]
  split <;> rfl

theorem mem_of_mem_lineStarts {previous : Option Node} {ns : List Node} {n : Node}
    (h : n ∈ lineStarts previous ns) : n ∈ ns := by
  obtain ⟨pair, hpair, rfl⟩ := List.mem_map.mp h
  exact (List.of_mem_zip (List.mem_filter.mp hpair).1).2

/-! ## Section 2: What the check reports -/

/-- The fault of a statement that should stand at a given column. -/
def columnFault (column : Nat) (n : Node) : Option Fault :=
  if column < n.start.column then some (.atNode n .unexpectedIndent)
  else if n.start.column < column then some (.atNode n .unmatchedUnindent)
  else none

theorem columnFault_eq_none_iff {column : Nat} {n : Node} :
    columnFault column n = none ↔ n.start.column = column := by
  unfold columnFault
  split
  · simp only [reduceCtorEq, false_iff]
    omega
  · split
    · simp only [reduceCtorEq, false_iff]
      omega
    · simp only [true_iff]
      omega

theorem position_of_columnFault {column : Nat} {n : Node} {f : Fault}
    (h : columnFault column n = some f) : f.position = n.position := by
  unfold columnFault at h
  split at h
  · rw [← Option.some.inj h, Fault.position_atNode]
  · split at h
    · rw [← Option.some.inj h, Fault.position_atNode]
    · cases h

/-- The test of the check, which goes by the row on which the node before ends. -/
theorem onRow_eq_not_startsLine (previous : Option Node) (n : Node) :
    ((previous.map (·.stop.row)).map fun row => decide (n.start.row ≤ row)).getD false =
      !startsLine previous n := by
  cases previous with
  | none => rfl
  | some m => simp [startsLine, ← decide_not]

/-- Once a column is set, the first statement at another one is reported. -/
theorem misalignedIn_some (previous : Option Node) (column : Nat) (ns : List Node) :
    misalignedIn (previous.map (·.stop.row)) (some column) ns =
      (lineStarts previous ns).findSome? (columnFault column) := by
  induction ns generalizing previous with
  | nil => rfl
  | cons n ns ih =>
    have hrest := ih (some n)
    rw [Option.map_some] at hrest
    rw [misalignedIn, onRow_eq_not_startsLine, lineStarts_cons]
    cases startsLine previous n with
    | false => exact hrest
    | true =>
      simp only [Bool.not_true, Bool.false_eq_true, if_false, if_true, List.findSome?_cons,
        columnFault, hrest]
      split
      · rfl
      · split <;> rfl

/-- The first statement that starts a line sets the column. -/
theorem misalignedIn_none (previous : Option Node) (ns : List Node) :
    misalignedIn (previous.map (·.stop.row)) none ns =
      match lineStarts previous ns with
      | [] => none
      | first :: rest => rest.findSome? (columnFault first.start.column) := by
  induction ns generalizing previous with
  | nil => rfl
  | cons n ns ih =>
    rw [misalignedIn, onRow_eq_not_startsLine, lineStarts_cons]
    cases startsLine previous n with
    | false => exact ih (some n)
    | true => exact misalignedIn_some (some n) n.start.column ns

/-- A block is aligned if all its statements that start a line stand at one column. -/
def Aligned (block : Node) (previous : Option Node) : Prop :=
  ∃ column, ∀ n ∈ lineStarts previous block.statements, n.start.column = column

theorem misaligned_eq_none_iff {block : Node} {previous : Option Node} :
    block.misaligned previous = none ↔ block.Aligned previous := by
  rw [misaligned, misalignedIn_none, Aligned]
  cases lineStarts previous block.statements with
  | nil => simp
  | cons first rest =>
    simp only [List.findSome?_eq_none_iff, columnFault_eq_none_iff]
    constructor
    · intro h
      refine ⟨first.start.column, fun n hn => ?_⟩
      rcases List.mem_cons.mp hn with rfl | hn
      · rfl
      · exact h n hn
    · rintro ⟨column, h⟩ n hn
      rw [h n (List.mem_cons_of_mem first hn), h first List.mem_cons_self]

/-- What is reported is a statement of the block. -/
theorem exists_statement_of_misaligned {block : Node} {previous : Option Node} {f : Fault}
    (h : block.misaligned previous = some f) :
    ∃ n ∈ block.children, f.position = n.position := by
  rw [misaligned, misalignedIn_none] at h
  cases hstarts : lineStarts previous block.statements with
  | nil => simp [hstarts] at h
  | cons first rest =>
    simp only [hstarts] at h
    obtain ⟨n, hn, hf⟩ := List.exists_of_findSome?_eq_some h
    have hmem : n ∈ lineStarts previous block.statements := by
      rw [hstarts]
      exact List.mem_cons_of_mem first hn
    exact ⟨n, (List.mem_filter.mp (mem_of_mem_lineStarts hmem)).1, position_of_columnFault hf⟩

/-! ## Section 3: Strays -/

/-- The node before what follows some statements: the last of them, or the one before them. -/
def lastOr (previous : Option Node) (ns : List Node) : Option Node := ns.getLast?.or previous

theorem lastOr_cons (previous : Option Node) (n : Node) (ns : List Node) :
    lastOr previous (n :: ns) = lastOr (some n) ns := by
  unfold lastOr
  rw [List.getLast?_cons]
  cases ns.getLast? <;> rfl

theorem lineStarts_append (previous : Option Node) (ms ns : List Node) :
    lineStarts previous (ms ++ ns) =
      lineStarts previous ms ++ lineStarts (lastOr previous ms) ns := by
  induction ms generalizing previous with
  | nil => rfl
  | cons m ms ih =>
    rw [List.cons_append, lineStarts_cons, lineStarts_cons, lastOr_cons, ih]
    split <;> rfl

/-- Where the list of line starts is cut, the list of statements can be cut. -/
theorem exists_split_of_lineStarts {previous : Option Node} {ns starts more : List Node} {n : Node}
    (h : lineStarts previous ns = starts ++ n :: more) :
    ∃ earlier later, ns = earlier ++ n :: later ∧ lineStarts previous earlier = starts ∧
      startsLine (lastOr previous earlier) n := by
  induction ns generalizing previous starts with
  | nil => simp [lineStarts] at h
  | cons m ns ih =>
    rw [lineStarts_cons] at h
    split at h
    · next hm =>
      cases starts with
      | nil =>
        obtain ⟨rfl, -⟩ := List.cons.inj h
        exact ⟨[], ns, rfl, rfl, hm⟩
      | cons first starts =>
        obtain ⟨rfl, hrest⟩ := List.cons.inj h
        obtain ⟨earlier, later, rfl, hstarts, hn⟩ := ih hrest
        refine ⟨m :: earlier, later, rfl, ?_, by rwa [lastOr_cons]⟩
        rw [lineStarts_cons, if_pos hm, hstarts]
    · next hm =>
      obtain ⟨earlier, later, rfl, hstarts, hn⟩ := ih h
      refine ⟨m :: earlier, later, rfl, ?_, by rwa [lastOr_cons]⟩
      rw [lineStarts_cons, if_neg hm, hstarts]

/-- Statements set a column: it is that of the first one that starts a line, and all others
    that start a line stand at it as well. -/
structure SetsColumn (previous : Option Node) (ns : List Node) (column : Nat) : Prop where
  reference : (lineStarts previous ns).head?.map (·.start.column) = some column
  aligned : ∀ m ∈ lineStarts previous ns, m.start.column = column

/-- A statement behind some others is a stray: it starts a line at another column than the one
    they set. -/
structure Stray (previous : Option Node) (earlier : List Node) (n : Node) (column : Nat) :
    Prop where
  indent : SetsColumn previous earlier column
  leads : startsLine (lastOr previous earlier) n
  differs : n.start.column ≠ column

/-- The fault of a statement that should stand at a given column and does not. -/
def strayFault (column : Nat) (n : Node) : Fault :=
  .atNode n (if column < n.start.column then .unexpectedIndent else .unmatchedUnindent)

theorem columnFault_eq_some_iff {column : Nat} {n : Node} {f : Fault} :
    columnFault column n = some f ↔ n.start.column ≠ column ∧ f = strayFault column n := by
  unfold columnFault strayFault
  by_cases hright : column < n.start.column
  · have hdiffers : n.start.column ≠ column := by omega
    rw [if_pos hright, if_pos hright, Option.some.injEq, eq_comm]
    exact (and_iff_right hdiffers).symm
  · rw [if_neg hright, if_neg hright]
    by_cases hleft : n.start.column < column
    · have hdiffers : n.start.column ≠ column := by omega
      rw [if_pos hleft, Option.some.injEq, eq_comm]
      exact (and_iff_right hdiffers).symm
    · have hsame : n.start.column = column := by omega
      rw [if_neg hleft]
      simp [hsame]

theorem misaligned_eq_some_iff {block : Node} {previous : Option Node} {f : Fault} :
    block.misaligned previous = some f ↔
      ∃ earlier n later column, block.statements = earlier ++ n :: later ∧
        Stray previous earlier n column ∧ f = strayFault column n := by
  rw [misaligned, misalignedIn_none]
  constructor
  · intro h
    cases hstarts : lineStarts previous block.statements with
    | nil => simp [hstarts] at h
    | cons first rest =>
      simp only [hstarts] at h
      obtain ⟨aligned, n, more, rfl, hfault, haligned⟩ := List.findSome?_eq_some_iff.mp h
      -- The first line start sets the column; the fault is that of the first one off it.
      rw [← List.cons_append] at hstarts
      obtain ⟨earlier, later, hsplit, hearlier, hleads⟩ := exists_split_of_lineStarts hstarts
      obtain ⟨hdiffers, rfl⟩ := columnFault_eq_some_iff.mp hfault
      refine ⟨earlier, n, later, first.start.column, hsplit, ⟨⟨?_, ?_⟩, hleads, hdiffers⟩, rfl⟩
      · rw [hearlier]
        rfl
      · rw [hearlier]
        exact List.forall_mem_cons.mpr
          ⟨rfl, fun m hm => columnFault_eq_none_iff.mp (haligned m hm)⟩
  · rintro ⟨earlier, n, later, column, hsplit, hstray, rfl⟩
    obtain ⟨⟨hreference, haligned⟩, hleads, hdiffers⟩ := hstray
    have hstarts : lineStarts previous block.statements =
        lineStarts previous earlier ++ n :: lineStarts (some n) later := by
      rw [hsplit, lineStarts_append, lineStarts_cons, if_pos hleads]
    cases hearlier : lineStarts previous earlier with
    | nil => simp [hearlier] at hreference
    | cons first rest =>
      rw [hearlier] at hreference haligned
      obtain rfl : first.start.column = column := Option.some.inj hreference
      rw [hstarts, hearlier, List.cons_append]
      refine List.findSome?_eq_some_iff.mpr ⟨rest, n, _, rfl, ?_, fun m hm => ?_⟩
      · exact columnFault_eq_some_iff.mpr ⟨hdiffers, rfl⟩
      · exact columnFault_eq_none_iff.mpr (haligned m (List.mem_cons_of_mem first hm))

/-- **What the check of a block means.** It finds nothing exactly if all statements that start a
    line stand at one column. Otherwise it reports the one stray, at its line and column, by
    the side of the column on which it stands. Only the statements that start a line matter. -/
theorem misaligned_meaning (block : Node) (previous : Option Node) :
    (block.misaligned previous = none ↔
      ∀ m ∈ lineStarts previous block.statements, ∀ n ∈ lineStarts previous block.statements,
        m.start.column = n.start.column) ∧
    (∀ f, block.misaligned previous = some f ↔
      ∃ earlier n later column, block.statements = earlier ++ n :: later ∧
        Stray previous earlier n column ∧
        f.line = n.start.row + 1 ∧ f.column = n.start.column + 1 ∧
        f.problem = if column < n.start.column then .unexpectedIndent else .unmatchedUnindent) ∧
    (Problem.message .unexpectedIndent = "unexpected indent" ∧
      Problem.message .unmatchedUnindent =
        "unindent does not match any outer indentation level") ∧
    ∀ (other : Node) (before : Option Node),
      lineStarts before other.statements = lineStarts previous block.statements →
        other.misaligned before = block.misaligned previous := by
  refine ⟨?_, fun f => ?_, ⟨rfl, rfl⟩, fun other before h => ?_⟩
  · rw [misaligned_eq_none_iff, Aligned]
    constructor
    · rintro ⟨column, hcolumn⟩ m hm n hn
      rw [hcolumn m hm, hcolumn n hn]
    · intro h
      cases hstarts : lineStarts previous block.statements with
      | nil => exact ⟨0, by simp⟩
      | cons first rest =>
        have hfirst : first ∈ lineStarts previous block.statements := by simp [hstarts]
        exact ⟨first.start.column, fun n hn => h n (hstarts ▸ hn) first hfirst⟩
  · obtain ⟨problem, line, column⟩ := f
    rw [misaligned_eq_some_iff]
    simp only [strayFault, Fault.atNode, Fault.mk.injEq]
    constructor
    · rintro ⟨earlier, n, later, column, hsplit, hstray, hproblem, hline, hcolumn⟩
      exact ⟨earlier, n, later, column, hsplit, hstray, hline, hcolumn, hproblem⟩
    · rintro ⟨earlier, n, later, column, hsplit, hstray, hline, hcolumn, hproblem⟩
      exact ⟨earlier, n, later, column, hsplit, hstray, hproblem, hline, hcolumn⟩
  · rw [misaligned, misaligned, misalignedIn_none, misalignedIn_none, h]

end Node

end CallAtlas.Syntax
