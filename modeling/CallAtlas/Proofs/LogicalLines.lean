import CallAtlas.Proofs.Addresses
import CallAtlas.Proofs.ParsedPlaces
import CallAtlas.Proofs.SyntaxFaults

/-! # Statements on one logical line

    Statements with a semicolon between them share a logical line, also where a backslash at
    the end of a line continues it on the next. The check of a block goes by rows. On one row
    the second of two such statements starts no line, and its column is never looked at. Behind
    a continued line it does start one, and it is reported wherever it stands at another column
    than the statements that start the lines above.
-/

namespace CallAtlas.Syntax

open CallAtlas.Text
open String (utf8Len)

/-! ## Section 1: Logical lines -/

/-- Text between two tokens of one logical line, by the number of lines that it continues:
    blanks, and backslashes each of which takes a line end with it. -/
inductive WithinLine : List Char → Nat → Prop where
  | nil : WithinLine [] 0
  | blank {c : Char} {cs : List Char} {k : Nat} (hblank : TokenClass.isBlank c = true)
      (hc : c ≠ '\n') (h : WithinLine cs k) : WithinLine (c :: cs) k
  | continued {cs : List Char} {k : Nat} (h : WithinLine cs k) :
      WithinLine ('\\' :: '\n' :: cs) (k + 1)
  | continuedAtReturn {cs : List Char} {k : Nat} (h : WithinLine cs k) :
      WithinLine ('\\' :: '\r' :: '\n' :: cs) (k + 1)

/-- Only a continued line passes to another row. -/
theorem WithinLine.count_eq {cs : List Char} {k : Nat} (h : WithinLine cs k) :
    cs.count '\n' = k := by
  induction h with
  | nil => rfl
  | blank _ hc _ ih => rw [List.count_cons_of_ne hc, ih]
  | continued _ ih => rw [List.count_cons_of_ne (by decide), List.count_cons_self, ih]
  | continuedAtReturn _ ih =>
    rw [List.count_cons_of_ne (by decide), List.count_cons_of_ne (by decide),
      List.count_cons_self, ih]

namespace Node

/-- A node follows another on the same logical line of a text: between them stands a
    semicolon, and the line is continued `k` times. -/
def SharesLine (text : String) (m n : Node) (k : Nat) : Prop :=
  ∃ before left right after i j, text.toList = before ++ (left ++ ';' :: right) ++ after ∧
    utf8Len before = m.stop.byte ∧ utf8Len (before ++ (left ++ ';' :: right)) = n.start.byte ∧
    WithinLine left i ∧ WithinLine right j ∧ i + j = k

/-- On one logical line, rows are passed by its continuations alone. -/
theorem SharesLine.row_eq {text : String} {m n : Node} {k : Nat} (h : SharesLine text m n k)
    (hm : m.stop.LiesIn text) (hn : n.start.LiesIn text) : n.start.row = m.stop.row + k := by
  obtain ⟨before, left, right, after, i, j, htext, hmByte, hnByte, hleft, hright, rfl⟩ := h
  have hnPlace := hn.eq_placeBehind ⟨after, htext.symm⟩ hnByte
  rw [List.append_assoc] at htext
  have hmPlace := hm.eq_placeBehind ⟨_, htext.symm⟩ hmByte
  rw [hnPlace, hmPlace, row_placeBehind, row_placeBehind, List.count_append, List.count_append,
    List.count_cons_of_ne (by decide), hleft.count_eq, hright.count_eq]

/-! ## Section 2: Which of them are reported -/

/-- Behind two nodes that end on one row the same statements start a line. -/
theorem lineStarts_congr {m n : Node} (h : m.stop.row = n.stop.row) (ns : List Node) :
    lineStarts (some m) ns = lineStarts (some n) ns := by
  cases ns with
  | nil => rfl
  | cons next ns =>
    have hstarts : startsLine (some m) next = startsLine (some n) next := by
      simp [startsLine, h]
    rw [lineStarts_cons, lineStarts_cons, hstarts]

theorem lastOr_concat (previous : Option Node) (earlier : List Node) (m : Node) :
    lastOr previous (earlier ++ [m]) = some m := by
  simp [lastOr]

/-- Statements that start no line do not matter. -/
theorem lineStarts_of_not_startsLine {previous : Option Node} {earlier later : List Node}
    {m n : Node} (h : startsLine (some m) n = false) :
    lineStarts previous (earlier ++ m :: n :: later) =
      lineStarts previous (earlier ++ [m]) ++ lineStarts (some n) later := by
  rw [List.append_cons, lineStarts_append, lastOr_concat, lineStarts_cons, h]
  rfl

/-- The check of a block reports the statement that stands behind these: it is a stray, and the
    answer is its fault. -/
def Reports (block : Node) (previous : Option Node) (earlier : List Node) (n : Node) : Prop :=
  ∃ column, Stray previous earlier n column ∧
    block.misaligned previous = some (strayFault column n)

theorem reports_iff {block : Node} {previous : Option Node} {earlier later : List Node} {n : Node}
    (h : block.statements = earlier ++ n :: later) :
    block.Reports previous earlier n ↔ ∃ column, Stray previous earlier n column := by
  constructor
  · rintro ⟨column, hstray, -⟩
    exact ⟨column, hstray⟩
  · rintro ⟨column, hstray⟩
    exact ⟨column, hstray,
      misaligned_eq_some_iff.mpr ⟨earlier, n, later, column, h, hstray, rfl⟩⟩

/-- **Logical lines.** Take two statements of a block that follow one another on a logical line.
    The second is reported exactly if the line is continued between them and the statement
    stands at another column than the statements before it set. If the line is not continued,
    the check of the block gives the same answer whatever column the second starts at. The
    trees that are parsed from a text are among those that lie in it. -/
theorem reports_on_logical_line {text : String} {root : Node} (hroot : root.PlacedIn text)
    {v : Visit} (hv : v ∈ root.visits) {earlier later : List Node} {m n : Node}
    (hstatements : v.node.statements = earlier ++ m :: n :: later) {k : Nat}
    (hline : SharesLine text m n k) :
    (v.node.Reports v.previous (earlier ++ [m]) n ↔
      0 < k ∧ ∃ column, SetsColumn v.previous (earlier ++ [m]) column ∧
        n.start.column ≠ column) ∧
    (k = 0 → ∀ other n' : Node, other.statements = earlier ++ m :: n' :: later →
      n'.start.row = n.start.row → n'.stop.row = n.stop.row →
        other.misaligned v.previous = v.node.misaligned v.previous) ∧
    ∀ tree, parse text = some tree → tree.PlacedIn text := by
  have hplaced : ∀ s ∈ v.node.statements, s.start.LiesIn text ∧ s.stop.LiesIn text := by
    intro s hs
    have hchild : s ∈ v.node.children := (List.mem_filter.mp hs).1
    exact hroot s (mem_preorder_trans (Visit.node_mem_preorder hv)
      (mem_preorder_of_mem_children hchild s.mem_preorder_self))
  have hrow : n.start.row = m.stop.row + k := by
    refine hline.row_eq (hplaced m ?_).2 (hplaced n ?_).1
    · simp [hstatements]
    · simp [hstatements]
  have hleads : startsLine (some m) n = true ↔ 0 < k := by
    simp only [startsLine, Option.all_some, decide_eq_true_eq]
    omega
  refine ⟨?_, fun hk other n' hother hstart hstop => ?_, fun tree => placedIn_of_parse⟩
  · rw [List.append_cons] at hstatements
    rw [reports_iff hstatements]
    constructor
    · rintro ⟨column, hindent, hstarts, hdiffers⟩
      rw [lastOr_concat] at hstarts
      exact ⟨hleads.mp hstarts, column, hindent, hdiffers⟩
    · rintro ⟨hk, column, hindent, hdiffers⟩
      refine ⟨column, hindent, ?_, hdiffers⟩
      rw [lastOr_concat]
      exact hleads.mpr hk
  · -- Neither statement starts a line, so that the line starts are the same.
    have hn : startsLine (some m) n = false := by
      rw [Bool.eq_false_iff, ne_eq, hleads]
      omega
    have hn' : startsLine (some m) n' = false := by
      rw [← hn, startsLine, startsLine, hstart]
    rw [misaligned, misaligned, misalignedIn_none, misalignedIn_none, hstatements, hother,
      lineStarts_of_not_startsLine hn, lineStarts_of_not_startsLine hn', lineStarts_congr hstop]

/-- A function with the statements `a` and `b` on one logical line, which is continued behind
    the semicolon. -/
def continuedText : String := "def f():\n  a; \\\n    b\n"

/-- A statement that is a name. -/
def nameStatement (start stop : Place) : Node :=
  soundNode (.phrase .expressionStatement) start stop none [nameNode start stop none]

def firstName : Node := nameStatement ⟨11, 1, 2⟩ ⟨12, 1, 3⟩

def secondName : Node := nameStatement ⟨20, 2, 4⟩ ⟨21, 2, 5⟩

def continuedTree : Node :=
  functionTree ⟨21, 2, 5⟩
    [firstName, wordNode ";" ⟨12, 1, 3⟩ ⟨13, 1, 4⟩,
      ⟨.terminal .lineContinuation, ⟨14, 1, 5⟩, ⟨16, 2, 0⟩, none, true, .sound, []⟩, secondName]

theorem placedIn_continuedTree : continuedTree.PlacedIn continuedText := by decide +kernel

theorem sharesLine_names : SharesLine continuedText firstName secondName 1 := by
  have hspace : ∀ {cs : List Char} {k : Nat}, WithinLine cs k → WithinLine (' ' :: cs) k :=
    .blank (by decide) (by decide)
  exact ⟨"def f():\n  a".toList, [], [' ', '\\', '\n', ' ', ' ', ' ', ' '], "b\n".toList, 0, 1,
    by decide, by decide, by decide, .nil,
    hspace (.continued (hspace (hspace (hspace (hspace .nil))))), rfl⟩

/-- The body of the function stands behind the colon. -/
theorem exists_body_continuedTree : ∃ v ∈ continuedTree.visits, v.node.isPhrase .block ∧
    v.node.statements = [firstName, secondName] ∧
    v.previous = some (wordNode ":" ⟨7, 0, 7⟩ ⟨8, 0, 8⟩) :=
  ⟨_, List.mem_of_getElem? (i := 8) rfl, rfl, rfl, rfl⟩

theorem setsColumn_firstName :
    SetsColumn (some (wordNode ":" ⟨7, 0, 7⟩ ⟨8, 0, 8⟩)) [firstName] 2 :=
  ⟨rfl, by decide⟩

/-- The line is continued and the second name stands to the right of the first, so it is
    reported. -/
theorem reports_on_logical_line_continued : ∃ v ∈ continuedTree.visits,
    continuedTree.PlacedIn continuedText ∧ v.node.statements = [firstName, secondName] ∧
    SharesLine continuedText firstName secondName 1 ∧
    v.node.Reports v.previous [firstName] secondName := by
  obtain ⟨v, hv, -, hstatements, hprevious⟩ := exists_body_continuedTree
  have hsplit : v.node.statements = [] ++ firstName :: secondName :: [] := hstatements
  have hreports := (reports_on_logical_line placedIn_continuedTree hv hsplit sharesLine_names).1
  refine ⟨v, hv, placedIn_continuedTree, hstatements, sharesLine_names, ?_⟩
  exact hreports.mpr ⟨Nat.one_pos, 2, hprevious ▸ setsColumn_firstName, by decide⟩

/-- A statement that follows another on a logical line may be reported, as an unexpected
    indent. -/
theorem logical_line_may_stray :
    (∃ v ∈ continuedTree.visits, v.node.isPhrase .block ∧
      v.node.misaligned v.previous = some ⟨.unexpectedIndent, 3, 5⟩) ∧
    ¬ ∀ v ∈ continuedTree.visits, v.node.isPhrase .block →
      ∀ earlier m n later k, v.node.statements = earlier ++ m :: n :: later →
        SharesLine continuedText m n k → ¬ v.node.Reports v.previous (earlier ++ [m]) n := by
  obtain ⟨v, hv, hblock, hstatements, hprevious⟩ := exists_body_continuedTree
  have hsplit : v.node.statements = [firstName] ++ secondName :: [] := hstatements
  have hstray : Stray v.previous [firstName] secondName 2 := by
    rw [hprevious]
    exact ⟨setsColumn_firstName, by decide, by decide⟩
  constructor
  · exact ⟨v, hv, hblock,
      misaligned_eq_some_iff.mpr ⟨[firstName], secondName, [], 2, hsplit, hstray, rfl⟩⟩
  · intro hnever
    exact hnever v hv hblock [] firstName secondName [] 1 hstatements sharesLine_names
      ((reports_iff hsplit).mpr ⟨2, hstray⟩)

end Node

end CallAtlas.Syntax
