import CallAtlas.Decimal.Reading
import CallAtlas.Export.Dot
import CallAtlas.Proofs.Replacements
import Mathlib.Data.List.TakeWhile
import Mathlib.Data.String.Basic

/-! # Reading digraphs

    A reader for the digraphs that call graphs are written as. From the text alone it gets
    back the numbers, names and kinds of the nodes and the pairs of numbers of the calls,
    whatever characters the names hold. Each kind of line is read by a step that leaves the
    text behind the line as it is, and the lines by as many steps.
-/

namespace CallAtlas.Export.Dot

open CallAtlas.Decimal CallAtlas.Graph CallAtlas.Text

/-! ## Section 1: The reader -/

/-- A quoted text up to its closing quote, and what stands behind. A character behind a
    backslash stands for itself. -/
def readLabel : List Char → Option (List Char × List Char)
  | [] => none
  | '"' :: rest => some ([], rest)
  | '\\' :: c :: rest => (readLabel rest).map fun p => (c :: p.1, p.2)
  | c :: rest => (readLabel rest).map fun p => (c :: p.1, p.2)

/-- The number at the end of an identifier, behind its last underscore. -/
def idNumber (cs : List Char) : Nat := digitsValue (cs.reverse.takeWhile (· != '_')).reverse

/-- The number of an identifier that a space ends, and what stands behind the space. -/
def readId (cs : List Char) : Nat × List Char :=
  (idNumber (cs.takeWhile (· != ' ')), (cs.dropWhile (· != ' ')).tail)

/-- A style and the end of the line, and what stands behind. -/
def readStyle (style : Bool → String) (cs : List Char) : Option (Bool × List Char) :=
  match (style true ++ "];\n").toList.isPrefixOf? cs with
  | some rest => some (true, rest)
  | none => ((style false ++ "];\n").toList.isPrefixOf? cs).map (false, ·)

inductive Statement where
  | node (i : Nat) (name : String) (isFunction : Bool)
  | call (i j : Nat)
  deriving DecidableEq

/-- What stands behind the identifier of a node that is introduced. -/
def readNode (i : Nat) (cs : List Char) : Option (Statement × List Char) := do
  let cs ← "[label=\"".toList.isPrefixOf? cs
  let (name, cs) ← readLabel cs
  let cs ← " ".toList.isPrefixOf? cs
  let (isFunction, cs) ← readStyle nodeStyle cs
  return (.node i (String.ofList name) isFunction, cs)

/-- What stands behind the arrow from a caller. -/
def readCall (i : Nat) (cs : List Char) : Option (Statement × List Char) := do
  let (j, cs) := readId cs
  let cs ← "[".toList.isPrefixOf? cs
  let (_, cs) ← readStyle callStyle cs
  return (.call i j, cs)

def readStatement (cs : List Char) : Option (Statement × List Char) := do
  let cs ← "    ".toList.isPrefixOf? cs
  let (i, cs) := readId cs
  match "-> ".toList.isPrefixOf? cs with
  | some cs => readCall i cs
  | none => readNode i cs

/-- The statements up to the closing brace, of which there are fewer than `fuel`. -/
def readStatements : (fuel : Nat) → List Char → Option (List Statement)
  | 0, _ => none
  | fuel + 1, cs =>
    if cs = "\x7d\n".toList then some []
    else do
      let (statement, cs) ← readStatement cs
      let statements ← readStatements fuel cs
      return statement :: statements

namespace Statement

def node? : Statement → Option (Nat × String × Bool)
  | .node i name isFunction => some (i, name, isFunction)
  | .call _ _ => none

def call? : Statement → Option (Nat × Nat)
  | .node _ _ _ => none
  | .call i j => some (i, j)

end Statement

/-- The nodes and the calls of a digraph. -/
def decode (text : String) : Option (List (Nat × String × Bool) × List (Nat × Nat)) := do
  let cs ← header.toList.isPrefixOf? text.toList
  let statements ← readStatements text.length cs
  return (statements.filterMap Statement.node?, statements.filterMap Statement.call?)

/-! ## Section 2: Labels -/

/-- The backslash that stands before a quote is not doubled. -/
theorem independent_escapes : Independent escapes := by
  decide

example : ¬ Independent escapes.reverse := by
  decide

/-- One step of the reader takes in what one character is written as. -/
theorem readLabel_replacementOf (c : Char) (cs : List Char) :
    readLabel (replacementOf escapes c ++ cs) = (readLabel cs).map fun p => (c :: p.1, p.2) := by
  by_cases hslash : c = '\\'
  · subst hslash
    rfl
  by_cases hquote : c = '"'
  · subst hquote
    rfl
  have hself : replacementOf escapes c = [c] := by
    refine replacementOf_of_forall_ne ?_
    simp [escapes, Ne.symm hslash, Ne.symm hquote]
  rw [hself, List.singleton_append, readLabel]
  · exact fun h => hquote h
  · exact fun _ _ h _ => hslash h

/-- A label is read up to its own closing quote. -/
theorem readLabel_escape (name : String) (rest : List Char) :
    readLabel ((escape name).toList ++ '"' :: rest) = some (name.toList, rest) := by
  rw [escape, toList_replaceChain independent_escapes]
  induction name.toList with
  | nil => rfl
  | cons c cs ih =>
    rw [List.flatMap_cons, List.append_assoc, readLabel_replacementOf, ih]
    rfl

/-! ## Section 3: Identifiers -/

theorem toList_nodeId (g : CallGraph) (i : Nat) :
    (nodeId g i).toList = (identifierOf (g.nameAt i)).toList ++ '_' :: (toString i).toList := by
  simp [nodeId]

theorem space_not_mem_nodeId (g : CallGraph) (i : Nat) : ' ' ∉ (nodeId g i).toList := by
  have hspace : isIdentifierChar ' ' = false := by decide
  rw [toList_nodeId, List.mem_append, List.mem_cons, not_or, not_or]
  refine ⟨?_, by decide, ?_⟩
  · intro h
    simp [isIdentifierChar_of_mem_identifierOf h] at hspace
  · intro h
    rw [Nat.toString_eq_ofList_toDigits, String.toList_ofList] at h
    have hdigit := Nat.isDigit_of_mem_toDigits (by decide) (by decide) h
    simp at hdigit

/-- The name may hold underscores, the number does not: the last underscore divides them. -/
theorem idNumber_nodeId (g : CallGraph) (i : Nat) : idNumber (nodeId g i).toList = i := by
  have hdigits : ∀ c ∈ (toString i).toList.reverse, (c != '_') = true := by
    intro c hc
    rw [List.mem_reverse, Nat.toString_eq_ofList_toDigits, String.toList_ofList] at hc
    rw [bne_iff_ne]
    rintro rfl
    exact Nat.underscore_not_in_toDigits hc
  have hreverse : (nodeId g i).toList.reverse =
      (toString i).toList.reverse ++ '_' :: (identifierOf (g.nameAt i)).toList.reverse := by
    rw [toList_nodeId]
    simp
  rw [idNumber, hreverse, List.takeWhile_append_of_pos hdigits,
    List.takeWhile_cons_of_neg (by simp), List.append_nil, List.reverse_reverse,
    digitsValue_toString]

theorem readId_nodeId (g : CallGraph) (i : Nat) (rest : List Char) :
    readId ((nodeId g i).toList ++ ' ' :: rest) = (i, rest) := by
  have hspace : ∀ c ∈ (nodeId g i).toList, (c != ' ') = true := by
    intro c hc
    rw [bne_iff_ne]
    rintro rfl
    exact space_not_mem_nodeId g i hc
  rw [readId, List.takeWhile_append_of_pos hspace, List.dropWhile_append_of_pos hspace,
    List.takeWhile_cons_of_neg (by simp), List.dropWhile_cons_of_neg (by simp), List.append_nil,
    idNumber_nodeId, List.tail_cons]

/-! ## Section 4: Lines -/

theorem isPrefixOf?_append (cs rest : List Char) : cs.isPrefixOf? (cs ++ rest) = some rest :=
  List.isPrefixOf?_eq_some_iff_append_eq.mpr rfl

theorem readStyle_nodeStyle (isFunction : Bool) (rest : List Char) :
    readStyle nodeStyle ((nodeStyle isFunction ++ "];\n").toList ++ rest) =
      some (isFunction, rest) := by
  cases isFunction <;> rfl

theorem readStyle_callStyle (isFunction : Bool) (rest : List Char) :
    readStyle callStyle ((callStyle isFunction ++ "];\n").toList ++ rest) =
      some (isFunction, rest) := by
  cases isFunction <;> rfl

theorem readNode_label (i : Nat) (name : String) (isFunction : Bool) (rest : List Char) :
    readNode i ("[label=\"".toList ++ ((escape name).toList ++ '"' :: (" ".toList ++
      ((nodeStyle isFunction ++ "];\n").toList ++ rest)))) =
      some (.node i name isFunction, rest) := by
  simp only [readNode, isPrefixOf?_append, readLabel_escape, readStyle_nodeStyle,
    Option.bind_eq_bind, Option.bind_some, String.ofList_toList, Option.pure_def]

theorem readCall_nodeId (g : CallGraph) (i j : Nat) (isFunction : Bool) (rest : List Char) :
    readCall i ((nodeId g j).toList ++ ' ' :: ("[".toList ++
      ((callStyle isFunction ++ "];\n").toList ++ rest))) = some (.call i j, rest) := by
  simp only [readCall, readId_nodeId, isPrefixOf?_append, readStyle_callStyle,
    Option.bind_eq_bind, Option.bind_some, Option.pure_def]

theorem readStatement_nodeLine (g : CallGraph) (i : Nat) (rest : List Char) :
    readStatement ((nodeLine g i).toList ++ rest) =
      some (.node i (g.nameAt i) (g.isFunctionAt i), rest) := by
  have hline : (nodeLine g i).toList ++ rest = "    ".toList ++ ((nodeId g i).toList ++ ' ' ::
      ("[label=\"".toList ++ ((escape (g.nameAt i)).toList ++ '"' :: (" ".toList ++
        ((nodeStyle (g.isFunctionAt i) ++ "];\n").toList ++ rest))))) := by
    simp [nodeLine]
  -- What tells a node from a call is that no arrow follows its identifier.
  have harrow : ∀ cs, "-> ".toList.isPrefixOf? ("[label=\"".toList ++ cs) = none := fun _ => rfl
  simp only [hline, readStatement, isPrefixOf?_append, readId_nodeId, harrow, readNode_label,
    Option.bind_eq_bind, Option.bind_some]

theorem readStatement_callLine (g : CallGraph) (call : Nat × Nat) (rest : List Char) :
    readStatement ((callLine g call).toList ++ rest) = some (.call call.1 call.2, rest) := by
  have hline : (callLine g call).toList ++ rest = "    ".toList ++ ((nodeId g call.1).toList ++
      ' ' :: ("-> ".toList ++ ((nodeId g call.2).toList ++ ' ' :: ("[".toList ++
        ((callStyle (g.isFunctionAt call.2) ++ "];\n").toList ++ rest))))) := by
    simp [callLine]
  simp only [hline, readStatement, isPrefixOf?_append, readId_nodeId, readCall_nodeId,
    Option.bind_eq_bind, Option.bind_some]

/-! ## Section 5: Digraphs -/

/-- Some text is read as these statements if there is fuel for each of its characters. -/
def Reads (cs : List Char) (statements : List Statement) : Prop :=
  ∀ fuel, cs.length ≤ fuel → readStatements fuel cs = some statements

theorem readStatement_closing : readStatement "\x7d\n".toList = none := rfl

theorem reads_closing : Reads "\x7d\n".toList [] := by
  intro fuel hfuel
  obtain ⟨fuel, rfl⟩ := Nat.exists_eq_add_one_of_ne_zero (Nat.ne_zero_of_lt hfuel)
  rw [readStatements, if_pos rfl]

theorem Reads.cons {cs rest : List Char} {statement : Statement} {statements : List Statement}
    (h : readStatement cs = some (statement, rest)) (hlt : rest.length < cs.length)
    (hrest : Reads rest statements) : Reads cs (statement :: statements) := by
  intro fuel hfuel
  obtain ⟨fuel, rfl⟩ := Nat.exists_eq_add_one_of_ne_zero (Nat.ne_zero_of_lt (hlt.trans_le hfuel))
  have hclosing : cs ≠ "\x7d\n".toList := by
    rintro rfl
    rw [readStatement_closing] at h
    cases h
  rw [readStatements, if_neg hclosing, h]
  simp only [Option.bind_eq_bind, Option.bind_some, hrest fuel (by omega), Option.pure_def]

/-- Lines that are read one by one are read all together. -/
theorem Reads.lines {α : Type} {line : α → String} {statement : α → Statement}
    (hline : ∀ x rest, readStatement ((line x).toList ++ rest) = some (statement x, rest))
    (hpos : ∀ x, 0 < (line x).toList.length) {rest : List Char} {statements : List Statement}
    (hrest : Reads rest statements) (xs : List α) :
    Reads ((String.join (xs.map line)).toList ++ rest) (xs.map statement ++ statements) := by
  induction xs with
  | nil => exact hrest
  | cons x xs ih =>
    rw [List.map_cons, String.join_cons, String.toList_append, List.append_assoc]
    refine Reads.cons (hline x _) ?_ ih
    have := hpos x
    simp only [List.length_append]
    omega

/-- The statements of a digraph. -/
def statementsOf (g : CallGraph) (nodes : List Nat) (calls : List (Nat × Nat)) : List Statement :=
  nodes.map (fun i => .node i (g.nameAt i) (g.isFunctionAt i)) ++ calls.map fun c => .call c.1 c.2

/-- What stands behind the header is read as the nodes, then the calls. -/
theorem reads_render (g : CallGraph) (nodes : List Nat) (calls : List (Nat × Nat)) :
    ∃ body, (render g nodes calls).toList = header.toList ++ body ∧
      Reads body (statementsOf g nodes calls) := by
  have hcalls := Reads.lines (readStatement_callLine g) (by simp [callLine]) reads_closing calls
  have hnodes := Reads.lines (readStatement_nodeLine g) (by simp [nodeLine]) hcalls nodes
  rw [List.append_nil] at hnodes
  exact ⟨_, by simp [render], hnodes⟩

theorem filterMap_node?_statementsOf (g : CallGraph) (nodes : List Nat)
    (calls : List (Nat × Nat)) : (statementsOf g nodes calls).filterMap Statement.node? =
      nodes.map fun i => (i, g.nameAt i, g.isFunctionAt i) := by
  simp [statementsOf, Statement.node?, List.filterMap_map, Function.comp_def]

theorem filterMap_call?_statementsOf (g : CallGraph) (nodes : List Nat)
    (calls : List (Nat × Nat)) :
    (statementsOf g nodes calls).filterMap Statement.call? = calls := by
  simp [statementsOf, Statement.call?, List.filterMap_map, Function.comp_def]

/-- The text of a digraph determines the nodes and the calls in it: the reader gets them back
    for every call graph and all lists of nodes and calls. Nodes have different identifiers,
    also if their names are masked alike, and a label ends where its name does. -/
theorem decode_render_digraph (g : CallGraph) (nodes : List Nat) (calls : List (Nat × Nat)) :
    decode (render g nodes calls) =
        some (nodes.map fun i => (i, g.nameAt i, g.isFunctionAt i), calls) ∧
      Function.Injective (nodeId g) ∧
      ∀ (name : String) (rest : List Char),
        readLabel ((escape name).toList ++ '"' :: rest) = some (name.toList, rest) := by
  refine ⟨?_, ?_, readLabel_escape⟩
  · obtain ⟨body, htext, hbody⟩ := reads_render g nodes calls
    have hfuel : body.length ≤ (render g nodes calls).length := by
      rw [← String.length_toList, htext, List.length_append]
      omega
    simp only [decode, htext, isPrefixOf?_append, hbody _ hfuel, filterMap_node?_statementsOf,
      filterMap_call?_statementsOf, Option.bind_eq_bind, Option.bind_some, Option.pure_def]
  · intro i j h
    rw [← idNumber_nodeId g i, h, idNumber_nodeId]

end CallAtlas.Export.Dot
