import CallAtlas.Proofs.Nesting

/-! # The end of a definition

    The span of a definition ends where a descent through last parts ends, extra parts passed
    over. The descent goes by order alone and looks at no end on its way. In a nested tree it
    comes to the token that ends last all the same, since an earlier part ends before a later
    one starts. So all tokens of the definition lie in the span, and what starts behind the span
    is extra.
-/

namespace CallAtlas.Syntax

namespace Node

/-! ## Section 1: What a node owns -/

/-- A node owns itself, and what the parts of it that are not extra own. -/
inductive Owns : Node → Node → Prop where
  | self (n : Node) : Owns n n
  | part {n c t : Node} (hc : c ∈ n.ownParts) (h : Owns c t) : Owns n t

/-- A node all of whose parts, if any, are extra. -/
def IsToken (n : Node) : Prop := n.ownParts = []

/-- What lies at an address is owned, unless the way to it goes through an extra node. -/
theorem owns_or_extra {n m : Node} {a : List Nat} (h : n.nodeAt? a = some m) :
    Owns n m ∨ ∃ b x, b ≠ [] ∧ b <+: a ∧ n.nodeAt? b = some x ∧ x.extra = true := by
  induction a generalizing n with
  | nil =>
    cases h
    exact .inl (.self _)
  | cons i a ih =>
    obtain ⟨c, hc, hm⟩ := nodeAt?_cons_eq_some_iff.mp h
    cases hextra : c.extra with
    | true =>
      refine .inr ⟨[i], c, List.cons_ne_nil i [], ⟨a, rfl⟩, ?_, hextra⟩
      exact nodeAt?_cons_eq_some_iff.mpr ⟨c, hc, rfl⟩
    | false =>
      rcases ih hm with howns | ⟨b, x, -, hb, hx, hextra⟩
      · exact .inl (.part (mem_ownParts.mpr ⟨List.mem_of_getElem? hc, hextra⟩) howns)
      · refine .inr ⟨i :: b, x, List.cons_ne_nil i b, ?_, ?_, hextra⟩
        · exact List.cons_prefix_cons.mpr ⟨rfl, hb⟩
        · exact nodeAt?_cons_eq_some_iff.mpr ⟨c, hc, hx⟩

/-! ## Section 2: The last token -/

/-- The descent stays with what the node owns and ends at a token. -/
theorem owns_lastToken (n : Node) : Owns n n.lastToken ∧ n.lastToken.IsToken := by
  induction n using parts_induction with
  | node n ih =>
    rcases n.lastToken_cases with ⟨hnone, htoken⟩ | ⟨earlier, last, hparts, htoken⟩
    · rw [htoken]
      exact ⟨.self n, hnone⟩
    · have hlast : last ∈ n.ownParts := hparts ▸ List.mem_concat_self
      obtain ⟨howns, hend⟩ := ih last (mem_ownParts.mp hlast).1
      rw [htoken]
      exact ⟨.part hlast howns, hend⟩

theorem lastToken_of_isToken {n : Node} (h : n.IsToken) : n.lastToken = n := by
  rcases n.lastToken_cases with ⟨-, htoken⟩ | ⟨earlier, last, hparts, -⟩
  · exact htoken
  · rw [IsToken, hparts] at h
    simp at h

theorem Nested.start_le_of_owns {n t : Node} (h : n.Nested) (ht : Owns n t) :
    n.start.byte ≤ t.start.byte := by
  induction ht with
  | self n => exact le_rfl
  | part hc _ ih =>
    have hchild := (mem_ownParts.mp hc).1
    exact (h.enfolds.within _ hchild).1.trans (ih (h.child hchild))

/-- No token that a node owns ends behind the last one. -/
theorem Nested.stop_le_lastToken {n t : Node} (h : n.Nested) (ht : Owns n t) (htoken : t.IsToken) :
    t.stop.byte ≤ n.lastToken.stop.byte := by
  induction ht with
  | self n => rw [lastToken_of_isToken htoken]
  | @part n c t hc _ ih =>
    -- `c` need not be the last part: its last token ends no later than that of the whole.
    calc t.stop.byte
        ≤ c.lastToken.stop.byte := ih (h.child (mem_ownParts.mp hc).1) htoken
      _ ≤ n.lastToken.stop.byte := h.lastToken_stop_le_of_part hc

/-- A leaf that has some width and starts behind the last token is extra or lies in an extra
    node. -/
theorem Nested.extra_of_lastToken_le {n leaf : Node} {a : List Nat} (h : n.Nested)
    (hleaf : n.nodeAt? a = some leaf) (hchildren : leaf.children = [])
    (hwidth : leaf.start.byte < leaf.stop.byte)
    (hbehind : n.lastToken.stop.byte ≤ leaf.start.byte) :
    ∃ b x, b ≠ [] ∧ b <+: a ∧ n.nodeAt? b = some x ∧ x.extra = true := by
  rcases owns_or_extra hleaf with howns | hextra
  · have htoken : leaf.IsToken := by simp [IsToken, ownParts, hchildren]
    have hstop := h.stop_le_lastToken howns htoken
    omega
  · exact hextra

end Node

end CallAtlas.Syntax

namespace CallAtlas.Extract

open CallAtlas.Syntax

/-! ## Section 3: Spans of definitions -/

/-- **The end of a definition.** In a nested tree, the descent from any node comes to a token
    that the node owns, and of all these tokens none ends later. So the span of a definition
    ends with one of its tokens and holds all of them, and a leaf of some width that starts
    behind the span is extra or lies in an extra node. -/
theorem definition_ends_with_last_token {tree : Node} (hnested : tree.Nested) :
    (∀ n ∈ tree.preorder, n.Owns n.lastToken ∧ n.lastToken.IsToken ∧
      ∀ t, n.Owns t → t.IsToken → t.stop.byte ≤ n.lastToken.stop.byte) ∧
    ∀ {source : String} {includeAsync : Bool} {ds : List Definition},
      definitions source includeAsync tree = .ok ds → ∀ d ∈ ds,
        d.span.endByte = d.node.lastToken.stop.byte ∧
        (∀ t, d.node.Owns t → t.IsToken →
          d.span.startByte ≤ t.start.byte ∧ t.stop.byte ≤ d.span.endByte) ∧
        ∀ a leaf, d.node.nodeAt? a = some leaf → leaf.children = [] →
          leaf.start.byte < leaf.stop.byte → d.span.endByte ≤ leaf.start.byte →
          ∃ b x, b ≠ [] ∧ b <+: a ∧ d.node.nodeAt? b = some x ∧ x.extra = true := by
  have hbelow : ∀ n ∈ tree.preorder, n.Nested := by
    intro n hn m hm
    exact hnested m (Node.mem_preorder_trans hn hm)
  constructor
  · intro n hn
    obtain ⟨howns, htoken⟩ := n.owns_lastToken
    exact ⟨howns, htoken, fun t => (hbelow n hn).stop_le_lastToken⟩
  · intro source includeAsync ds hds d hd
    obtain ⟨v, hv, hat⟩ := exists_visit_of_mem_definitions hds hd
    have hnode : d.node.Nested := by
      rw [(definitionAt_eq_some hat).1]
      exact hbelow v.node (Visit.node_mem_preorder hv)
    rw [(definitionAt_eq_ok hat).2 d rfl]
    refine ⟨rfl, fun t ht htoken => ⟨hnode.start_le_of_owns ht, hnode.stop_le_lastToken ht htoken⟩,
      fun a leaf hleaf hchildren hwidth hbehind => ?_⟩
    exact hnode.extra_of_lastToken_le hleaf hchildren hwidth hbehind

/-- The comment that trails the body of `f` lies in the node of `f` and behind its span. -/
theorem definition_ends_with_last_token_trailing : trailingTree.Nested ∧
    ∃ ds f comment, definitions trailingSource true trailingTree = .ok ds ∧ f ∈ ds ∧
      f.span.endByte = 20 ∧ f.node.nodeAt? [1, 0, 1, 1] = some comment ∧
      comment.start.byte = 22 ∧ comment.stop.byte = 25 ∧
      ∃ b x, b ≠ [] ∧ b <+: [1, 0, 1, 1] ∧ f.node.nodeAt? b = some x ∧ x.extra = true := by
  have hnested : trailingTree.Nested := by decide +kernel
  have hrun : ((definitions trailingSource true trailingTree).toOption.bind fun ds =>
      ds.head?.map fun f => (f.span.endByte, (f.node.nodeAt? [1, 0, 1, 1]).map fun n =>
        (n.start.byte, n.stop.byte, n.children.isEmpty))) =
      some (20, some (22, 25, true)) := by
    decide +kernel
  refine ⟨hnested, ?_⟩
  cases hds : definitions trailingSource true trailingTree with
  | error e => simp [hds, Except.toOption] at hrun
  | ok ds =>
    simp only [hds, Except.toOption, Option.bind_some, Option.map_eq_some_iff,
      Prod.mk.injEq] at hrun
    obtain ⟨f, hf, hend, comment, hcomment, hstart, hstop, hchildren⟩ := hrun
    have hmem : f ∈ ds := List.mem_of_head? hf
    have hbehind := ((definition_ends_with_last_token hnested).2 hds f hmem).2.2
      [1, 0, 1, 1] comment hcomment (List.isEmpty_iff.mp hchildren) (by omega) (by omega)
    exact ⟨ds, f, comment, rfl, hmem, hend, hcomment, hstart, hstop, hbehind⟩

end CallAtlas.Extract
