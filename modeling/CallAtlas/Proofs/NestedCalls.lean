import CallAtlas.Proofs.Nesting
import CallAtlas.Proofs.PolicyComparison
import Mathlib.Data.List.Sort

/-! # Calls of nested definitions

    A definition has the calls of its decorators, which lie beside its node, and of all that
    lies below the node. Whatever belongs to a definition in this way lies at or below its
    parent. So all that belongs to a definition inside another one lies below that other one
    and belongs to it as well, in the same order; and of two definitions to which one call
    belongs, one is a part of the other.
-/

namespace CallAtlas.Extract

open CallAtlas.Syntax

/-! ## Section 1: What belongs to a definition -/

/-- The addresses of the decorators of the node at an address. -/
def decoratorAddresses (tree : Node) (a : List Nat) : List (List Nat) :=
  match tree.parentAt? a with
  | some p =>
    if p.isPhrase .decoratedDefinition then
      (p.children.zipIdx.filter (·.1.isPhrase .decorator)).map fun c => a.dropLast ++ [c.2]
    else []
  | none => []

/-- Where the definition at an address is searched for calls: its decorators, then itself. -/
def roots (tree : Node) (a : List Nat) : List (List Nat) := decoratorAddresses tree a ++ [a]

/-- The addresses of all nodes that belong to the definition at an address, in the order in
    which they are searched for calls. -/
def ownAddresses (tree : Node) (a : List Nat) : List (List Nat) :=
  (roots tree a).flatMap tree.addressesBelow

variable {tree : Node} {a b c r s : List Nat}

theorem mem_decoratorAddresses (h : r ∈ decoratorAddresses tree a) :
    ∃ p i k parent decorator, a = p ++ [i] ∧ r = p ++ [k] ∧ tree.nodeAt? p = some parent ∧
      parent.isPhrase .decoratedDefinition ∧ parent.children[k]? = some decorator ∧
      decorator.isPhrase .decorator := by
  rcases List.eq_nil_or_concat' a with rfl | ⟨p, i, rfl⟩
  · cases h
  rw [decoratorAddresses, Node.parentAt?_concat, List.dropLast_concat] at h
  split at h
  · next parent hparent =>
    split at h
    · next hkind =>
      obtain ⟨⟨decorator, k⟩, hmem, rfl⟩ := List.mem_map.mp h
      obtain ⟨hplace, hdecorator⟩ := List.mem_filter.mp hmem
      exact ⟨p, i, k, parent, decorator, rfl, rfl, hparent, hkind,
        List.mk_mem_zipIdx_iff_getElem?.mp hplace, hdecorator⟩
    · cases h
  · cases h

/-- Definition and decorators have the same parent. -/
theorem dropLast_of_mem_roots (h : r ∈ roots tree a) : r.dropLast = a.dropLast := by
  rcases List.mem_append.mp h with h | h
  · obtain ⟨p, i, k, -, -, rfl, rfl, -⟩ := mem_decoratorAddresses h
    rw [List.dropLast_concat, List.dropLast_concat]
  · rw [List.mem_singleton.mp h]

theorem length_of_mem_roots (h : r ∈ roots tree a) : r.length = a.length := by
  rcases List.mem_append.mp h with h | h
  · obtain ⟨p, i, k, -, -, rfl, rfl, -⟩ := mem_decoratorAddresses h
    rw [List.length_append, List.length_append]
    rfl
  · rw [List.mem_singleton.mp h]

theorem mem_ownAddresses_iff :
    c ∈ ownAddresses tree a ↔ (∃ r ∈ roots tree a, r <+: c) ∧ (tree.nodeAt? c).isSome := by
  simp only [ownAddresses, List.mem_flatMap, Node.mem_addressesBelow_iff]
  constructor
  · rintro ⟨r, hr, hrc, hc⟩
    exact ⟨⟨r, hr, hrc⟩, hc⟩
  · rintro ⟨⟨r, hr, hrc⟩, hc⟩
    exact ⟨r, hr, hrc, hc⟩

/-- A proper beginning of an address begins that of the parent. -/
theorem prefix_dropLast (h : r <+: a) (hne : r ≠ a) : r <+: a.dropLast := by
  rcases List.eq_nil_or_concat' a with rfl | ⟨p, i, rfl⟩
  · exact h
  · rw [List.dropLast_concat]
    exact (List.prefix_concat_iff.mp h).resolve_left hne

/-- Whatever belongs to a definition lies below every node that the definition lies below. -/
theorem prefix_of_mem_ownAddresses (h : r <+: a) (hne : r ≠ a) (hc : c ∈ ownAddresses tree a) :
    r <+: c := by
  obtain ⟨⟨s, hs, hsc⟩, -⟩ := mem_ownAddresses_iff.mp hc
  have hparent : r <+: s.dropLast := dropLast_of_mem_roots hs ▸ prefix_dropLast h hne
  exact (hparent.trans s.dropLast_prefix).trans hsc

/-! ## Section 2: Decorated definitions -/

/-- In a decorated definition neither a decorator nor another function definition stands
    behind a function definition. So it has the decorators first, and then the one definition
    that they belong to; comments may stand anywhere. -/
def DecoratesOne (p : Node) : Prop :=
  p.children.Pairwise fun m n => m.isPhrase .functionDefinition →
    n.isPhrase .decorator = false ∧ n.isPhrase .functionDefinition = false

instance (p : Node) : Decidable (DecoratesOne p) :=
  inferInstanceAs (Decidable (List.Pairwise _ _))

/-- Every decorated definition of a tree has its decorators first and then one definition. -/
def DecoratesOnce (tree : Node) : Prop :=
  ∀ p ∈ tree.preorder, p.isPhrase .decoratedDefinition → DecoratesOne p

instance (tree : Node) : Decidable (DecoratesOnce tree) := List.decidableBAll _ _

/-- A function definition stands at an address. -/
def DefinesAt (tree : Node) (a : List Nat) : Prop :=
  ∃ n, tree.nodeAt? a = some n ∧ n.isPhrase .functionDefinition

theorem mem_preorder_of_nodeAt?_self {n : Node} (h : tree.nodeAt? a = some n) :
    n ∈ tree.preorder :=
  Node.mem_preorder_of_nodeAt? h n.mem_preorder_self

/-- No decorator is a definition. -/
theorem not_definesAt_of_mem_decoratorAddresses (hr : r ∈ decoratorAddresses tree a) :
    ¬ DefinesAt tree r := by
  obtain ⟨p, i, k, parent, decorator, -, rfl, hparent, -, hk, hdecorator⟩ :=
    mem_decoratorAddresses hr
  rintro ⟨n, hn, hdefinition⟩
  rw [Node.nodeAt?_concat hparent, hk] at hn
  obtain rfl := Option.some.inj hn
  rw [Node.isPhrase, eq_of_beq hdefinition] at hdecorator
  exact absurd hdecorator (by decide)

/-- Behind the definition that is decorated stands no decorator and no other definition. -/
theorem le_of_decoratesOne {p m n : Node} {i k : Nat} (hone : DecoratesOne p)
    (hi : p.children[i]? = some m) (hm : m.isPhrase .functionDefinition)
    (hk : p.children[k]? = some n)
    (hn : n.isPhrase .decorator ∨ n.isPhrase .functionDefinition) : k ≤ i := by
  by_contra hlt
  obtain ⟨hilt, rfl⟩ := List.getElem?_eq_some_iff.mp hi
  obtain ⟨hklt, rfl⟩ := List.getElem?_eq_some_iff.mp hk
  have hbehind := List.pairwise_iff_getElem.mp hone i k hilt hklt (by omega) hm
  rw [hbehind.1, hbehind.2] at hn
  simp at hn

/-! ## Section 3: Document order -/

/-- Two children of one node, the first before the second. -/
def EarlierSibling (r s : List Nat) : Prop := ∃ p i j, r = p ++ [i] ∧ s = p ++ [j] ∧ i < j

/-- What lies below a node comes before what lies below a later sibling. -/
theorem EarlierSibling.lt (h : EarlierSibling r s) (hb : r <+: b) (hc : s <+: c) : b < c := by
  obtain ⟨p, i, j, rfl, rfl, hij⟩ := h
  obtain ⟨b, rfl⟩ := hb
  obtain ⟨c, rfl⟩ := hc
  rw [List.append_assoc, List.append_assoc]
  exact List.append_left_lt (List.cons_lt_cons_iff.mpr (.inl hij))

/-- Decorators come before their definition. -/
theorem earlierSibling_of_mem_decoratorAddresses (hshape : DecoratesOnce tree)
    (ha : DefinesAt tree a) (hr : r ∈ decoratorAddresses tree a) : EarlierSibling r a := by
  have hne : r ≠ a := by
    rintro rfl
    exact not_definesAt_of_mem_decoratorAddresses hr ha
  obtain ⟨p, i, k, parent, decorator, rfl, rfl, hparent, hkind, hk, hdecorator⟩ :=
    mem_decoratorAddresses hr
  obtain ⟨n, hn, hdefinition⟩ := ha
  rw [Node.nodeAt?_concat hparent] at hn
  refine ⟨p, k, i, rfl, rfl, Nat.lt_of_le_of_ne ?_ ?_⟩
  · exact le_of_decoratesOne (hshape parent (mem_preorder_of_nodeAt?_self hparent) hkind) hn
      hdefinition hk (.inl hdecorator)
  · rintro rfl
    exact hne rfl

/-- Decorators are listed in document order. -/
theorem pairwise_decoratorAddresses (tree : Node) (a : List Nat) :
    (decoratorAddresses tree a).Pairwise EarlierSibling := by
  unfold decoratorAddresses
  split
  · next parent _ =>
    split
    · have hnumbers : (parent.children.zipIdx.map (·.2)).Pairwise (· < ·) := by
        rw [List.zipIdx_map_snd]
        exact List.pairwise_lt_range'
      rw [List.pairwise_map] at hnumbers ⊢
      exact (hnumbers.filter _).imp fun h => ⟨_, _, _, rfl, rfl, h⟩
    · exact .nil
  · exact .nil

/-- What belongs to a definition is searched in document order. -/
theorem pairwise_lt_ownAddresses (hshape : DecoratesOnce tree) (ha : DefinesAt tree a) :
    (ownAddresses tree a).Pairwise (· < ·) := by
  have hroots : (roots tree a).Pairwise EarlierSibling := by
    refine List.pairwise_append.mpr
      ⟨pairwise_decoratorAddresses tree a, List.pairwise_singleton _ _, ?_⟩
    intro r hr s hs
    rw [List.mem_singleton.mp hs]
    exact earlierSibling_of_mem_decoratorAddresses hshape ha hr
  refine List.pairwise_flatMap.mpr ⟨fun r _ => tree.pairwise_lt_addressesBelow r, hroots.imp ?_⟩
  intro r s hrs b hb c hc
  exact hrs.lt (Node.mem_addressesBelow_iff.mp hb).1 (Node.mem_addressesBelow_iff.mp hc).1

/-- Of two lists of addresses in document order, the one whose members are in the other is a
    sublist of it. -/
theorem sublist_of_pairwise_lt {xs ys : List (List Nat)} (hxs : xs.Pairwise (· < ·))
    (hys : ys.Pairwise (· < ·)) (h : xs ⊆ ys) : xs.Sublist ys := by
  have hnodup : xs.Nodup := hxs.imp fun hlt => ne_of_lt hlt
  exact List.sublist_of_subperm_of_pairwise (List.subperm_of_subset hnodup h) hxs hys

/-! ## Section 4: Definitions that share a node -/

theorem mem_ownAddresses_of_below (hb : DefinesAt tree b) (h : a <+: b) :
    b ∈ ownAddresses tree a := by
  obtain ⟨n, hn, -⟩ := hb
  refine mem_ownAddresses_iff.mpr ⟨⟨a, ?_, h⟩, hn ▸ rfl⟩
  exact List.mem_append_right _ List.mem_cons_self

/-- Of the roots of a definition only its own node is a definition. -/
theorem eq_of_definesAt_of_mem_roots (hr : r ∈ roots tree a) (h : DefinesAt tree r) : r = a := by
  rcases List.mem_append.mp hr with hr | hr
  · exact absurd h (not_definesAt_of_mem_decoratorAddresses hr)
  · exact List.mem_singleton.mp hr

/-- All that belongs to a part of a definition belongs to that one too, in the same order. -/
theorem ownAddresses_sublist (hshape : DecoratesOnce tree) (ha : DefinesAt tree a)
    (hb : DefinesAt tree b) (h : b ∈ ownAddresses tree a) :
    (ownAddresses tree b).Sublist (ownAddresses tree a) := by
  refine sublist_of_pairwise_lt (pairwise_lt_ownAddresses hshape hb)
    (pairwise_lt_ownAddresses hshape ha) ?_
  obtain ⟨⟨r, hr, hrb⟩, -⟩ := mem_ownAddresses_iff.mp h
  intro c hc
  by_cases hne : r = b
  · subst hne
    rwa [← eq_of_definesAt_of_mem_roots hr hb]
  · exact mem_ownAddresses_iff.mpr
      ⟨⟨r, hr, prefix_of_mem_ownAddresses hrb hne hc⟩, (mem_ownAddresses_iff.mp hc).2⟩

/-- Two definitions are parts of each other only if they are the same. -/
theorem eq_of_mem_ownAddresses (ha : DefinesAt tree a)
    (hab : a ∈ ownAddresses tree b) (hba : b ∈ ownAddresses tree a) : a = b := by
  obtain ⟨⟨r, hr, hra⟩, -⟩ := mem_ownAddresses_iff.mp hab
  obtain ⟨⟨s, hs, hsb⟩, -⟩ := mem_ownAddresses_iff.mp hba
  -- Roots are as deep as their definition, so neither definition lies below the other.
  have hrDepth := length_of_mem_roots hr
  have hsDepth := length_of_mem_roots hs
  have heq : r = a := hra.eq_of_length_le (by have := hsb.length_le; omega)
  exact eq_of_definesAt_of_mem_roots (heq ▸ hr) ha

/-- Two definitions do not share a decorator, nor is one of them a decorator of the other. -/
theorem eq_of_mem_roots (hshape : DecoratesOnce tree) (ha : DefinesAt tree a)
    (hb : DefinesAt tree b) (hra : r ∈ roots tree a) (hrb : r ∈ roots tree b) : a = b := by
  rcases List.mem_append.mp hra with hraDecorator | hraSelf
  · rcases List.mem_append.mp hrb with hrbDecorator | hrbSelf
    · -- Both definitions are parts of one decorated definition, which has only one.
      obtain ⟨p, i, k, parent, decorator, rfl, rfl, hparent, hkind, -, -⟩ :=
        mem_decoratorAddresses hraDecorator
      obtain ⟨q, j, l, -, -, rfl, heq, -⟩ := mem_decoratorAddresses hrbDecorator
      obtain ⟨rfl, -⟩ := List.append_inj' heq rfl
      obtain ⟨m, hm, hmDefinition⟩ := ha
      obtain ⟨n, hn, hnDefinition⟩ := hb
      rw [Node.nodeAt?_concat hparent] at hm hn
      have hone := hshape parent (mem_preorder_of_nodeAt?_self hparent) hkind
      have hji : j ≤ i := le_of_decoratesOne hone hm hmDefinition hn (.inr hnDefinition)
      have hij : i ≤ j := le_of_decoratesOne hone hn hnDefinition hm (.inr hmDefinition)
      rw [Nat.le_antisymm hij hji]
    · obtain rfl := List.mem_singleton.mp hrbSelf
      exact (eq_of_definesAt_of_mem_roots hra hb).symm
  · obtain rfl := List.mem_singleton.mp hraSelf
    exact eq_of_definesAt_of_mem_roots hrb ha

/-- If one root of a definition lies at or below a root of another, the one definition belongs
    to the other. -/
theorem mem_ownAddresses_of_roots (hshape : DecoratesOnce tree) (ha : DefinesAt tree a)
    (hb : DefinesAt tree b) (hr : r ∈ roots tree a) (hs : s ∈ roots tree b) (h : r <+: s) :
    b ∈ ownAddresses tree a := by
  by_cases hrs : r = s
  · subst hrs
    rw [eq_of_mem_roots hshape ha hb hr hs]
    exact mem_ownAddresses_of_below hb List.prefix_rfl
  · obtain ⟨n, hn, -⟩ := hb
    have hparent : r <+: b.dropLast := dropLast_of_mem_roots hs ▸ prefix_dropLast h hrs
    exact mem_ownAddresses_iff.mpr ⟨⟨r, hr, hparent.trans b.dropLast_prefix⟩, hn ▸ rfl⟩

/-- Of two definitions to which one node belongs, one belongs to the other. -/
theorem mem_ownAddresses_or (hshape : DecoratesOnce tree) (ha : DefinesAt tree a)
    (hb : DefinesAt tree b) (hca : c ∈ ownAddresses tree a) (hcb : c ∈ ownAddresses tree b) :
    a ∈ ownAddresses tree b ∨ b ∈ ownAddresses tree a := by
  obtain ⟨⟨r, hr, hrc⟩, -⟩ := mem_ownAddresses_iff.mp hca
  obtain ⟨⟨s, hs, hsc⟩, -⟩ := mem_ownAddresses_iff.mp hcb
  rcases List.prefix_or_prefix_of_prefix hrc hsc with h | h
  · exact .inr (mem_ownAddresses_of_roots hshape ha hb hr hs h)
  · exact .inl (mem_ownAddresses_of_roots hshape hb ha hs hr h)

/-- No decorator of a tree holds a function definition. -/
def BareDecorators (tree : Node) : Prop :=
  ∀ n ∈ tree.preorder, n.isPhrase .decorator →
    ∀ m ∈ n.preorder, m.isPhrase .functionDefinition = false

instance (tree : Node) : Decidable (BareDecorators tree) := List.decidableBAll _ _

/-- Where decorators hold no definitions, a definition that belongs to another lies in it. -/
theorem prefix_of_mem_ownAddresses_of_bare (hbare : BareDecorators tree) (hb : DefinesAt tree b)
    (h : b ∈ ownAddresses tree a) : a <+: b := by
  obtain ⟨⟨r, hr, hrb⟩, -⟩ := mem_ownAddresses_iff.mp h
  rcases List.mem_append.mp hr with hr | hr
  · obtain ⟨n, hn, hdefinition⟩ := hb
    obtain ⟨p, i, k, parent, decorator, -, rfl, hparent, -, hk, hdecorator⟩ :=
      mem_decoratorAddresses hr
    obtain ⟨more, rfl⟩ := hrb
    have hinside : decorator ∈ tree.preorder :=
      mem_preorder_of_nodeAt?_self ((Node.nodeAt?_concat hparent k).trans hk)
    rw [Node.nodeAt?_append, Node.nodeAt?_concat hparent, hk, Option.bind_some] at hn
    rw [hbare decorator hinside hdecorator n (mem_preorder_of_nodeAt?_self hn)] at hdefinition
    cases hdefinition
  · rwa [List.mem_singleton.mp hr] at hrb

/-! ## Section 5: Nodes and calls -/

theorem map_nodeAt?_decoratorAddresses (tree : Node) (a : List Nat) :
    (decoratorAddresses tree a).map tree.nodeAt? =
      (decoratorsIn (tree.parentAt? a)).map some := by
  rcases List.eq_nil_or_concat' a with rfl | ⟨p, i, rfl⟩
  · rfl
  rw [decoratorAddresses, Node.parentAt?_concat, List.dropLast_concat]
  cases hparent : tree.nodeAt? p with
  | none => rfl
  | some parent =>
    rw [decoratorsIn]
    dsimp only
    split
    · have hdecorators : parent.children.filter (·.isPhrase .decorator) =
          (parent.children.zipIdx.filter (·.1.isPhrase .decorator)).map (·.1) := by
        conv_lhs => rw [← List.zipIdx_map_fst 0 parent.children, List.filter_map]
        rfl
      rw [hdecorators, List.map_map, List.map_map]
      refine List.map_congr_left fun c hc => ?_
      rw [Function.comp_apply, Node.nodeAt?_concat hparent]
      exact List.mk_mem_zipIdx_iff_getElem?.mp (List.mem_filter.mp hc).1
    · rfl

/-- Addresses that lead to given nodes lead, with all below, to the nodes with all below. -/
theorem map_nodeAt?_flatMap_addressesBelow {rs : List (List Nat)} {ns : List Node}
    (h : rs.map tree.nodeAt? = ns.map some) :
    (rs.flatMap tree.addressesBelow).map tree.nodeAt? =
      (ns.flatMap Node.preorder).map some := by
  induction ns generalizing rs with
  | nil =>
    obtain rfl := List.map_eq_nil_iff.mp h
    rfl
  | cons n ns ih =>
    obtain ⟨r, rs, rfl, hr, hrs⟩ := List.map_eq_cons_iff.mp h
    rw [List.flatMap_cons, List.flatMap_cons, List.map_append, List.map_append,
      Node.map_nodeAt?_addressesBelow hr, ih hrs]

/-- The definitions of a tree, each with its address. -/
def placed (includeAsync : Bool) (tree : Node) (ds : List Definition) :
    List (List Nat × Definition) :=
  (definitionAddresses includeAsync tree).zip ds

variable {source : String} {includeAsync : Bool} {ds : List Definition}
  {x y : List Nat × Definition}

theorem definesAt_of_mem_placed (hds : definitions source includeAsync tree = .ok ds)
    (hx : x ∈ placed includeAsync tree ds) : DefinesAt tree x.1 :=
  have hstands := standsAt_of_mem_zip hds hx
  ⟨x.2.node, hstands.nodeAt, hstands.isDefinition⟩

/-- A definition has the decorators that stand beside its address. -/
theorem decorators_of_mem_placed (hds : definitions source includeAsync tree = .ok ds)
    (hx : x ∈ placed includeAsync tree ds) :
    x.2.decorators = decoratorsIn (tree.parentAt? x.1) := by
  have hvisits := congrArg (List.map fun y => decoratorsIn y.2)
    (map_definitionAddresses includeAsync tree)
  rw [List.map_map, List.map_map] at hvisits
  have hdefinitions := map_definitions (fun v d hd => (definitionAt_eq_some hd).2.2) hds
  exact (eq_of_mem_zip (hvisits.trans hdefinitions.symm) hx).symm

/-- The nodes that a definition is searched in are those at the addresses that belong to it. -/
theorem map_nodeAt?_ownAddresses (hds : definitions source includeAsync tree = .ok ds)
    (hx : x ∈ placed includeAsync tree ds) :
    (ownAddresses tree x.1).map tree.nodeAt? = x.2.nodes.map some := by
  have hroots : (roots tree x.1).map tree.nodeAt? = (x.2.decorators ++ [x.2.node]).map some := by
    rw [roots, List.map_append, List.map_append, map_nodeAt?_decoratorAddresses,
      decorators_of_mem_placed hds hx, List.map_singleton, List.map_singleton,
      (standsAt_of_mem_zip hds hx).nodeAt]
  rw [ownAddresses, map_nodeAt?_flatMap_addressesBelow hroots, List.flatMap_append,
    List.flatMap_singleton]
  rfl

theorem nodes_sublist (hshape : DecoratesOnce tree)
    (hds : definitions source includeAsync tree = .ok ds) (hx : x ∈ placed includeAsync tree ds)
    (hy : y ∈ placed includeAsync tree ds) (h : y.1 ∈ ownAddresses tree x.1) :
    y.2.nodes.Sublist x.2.nodes := by
  have hown := (ownAddresses_sublist hshape (definesAt_of_mem_placed hds hx)
    (definesAt_of_mem_placed hds hy) h).map tree.nodeAt?
  rw [map_nodeAt?_ownAddresses hds hy, map_nodeAt?_ownAddresses hds hx] at hown
  simpa only [List.filterMap_map, Function.id_comp, List.filterMap_some] using hown.filterMap id

/-- A definition has all calls of a definition whose nodes are among its own. -/
theorem calls_of_nodes_sublist {d e : Definition} {outer inner : DefinitionCalls}
    (h : e.nodes.Sublist d.nodes) (hd : d.calls source = .ok outer)
    (he : e.calls source = .ok inner) :
    inner.callees ⊆ outer.callees ∧ inner.memberCalls.Sublist outer.memberCalls := by
  rw [Definition.calls_eq_foldlM] at hd he
  obtain ⟨hdCallees, hdMembers, -⟩ := DefinitionCalls.foldlM_addNode_eq_ok hd
  obtain ⟨heCallees, heMembers, -⟩ := DefinitionCalls.foldlM_addNode_eq_ok he
  constructor
  · intro g hg
    rw [heCallees, DefinitionCalls.empty, foldl_insertNew_nil, List.mem_eraseDups] at hg
    rw [hdCallees, DefinitionCalls.empty, foldl_insertNew_nil, List.mem_eraseDups]
    exact (h.filterMap _).subset hg
  · rw [heMembers, hdMembers]
    exact h.filterMap _

/-- Under `union` an extraction has the calls of each definition. -/
theorem mem_calls_of_union {frontend : Frontend} {options : Options} {d : Dataset}
    (hds : definitions source options.includeAsync tree = .ok ds)
    (hparsed : frontend source = .ok tree) (hunion : options.duplicates = .union)
    (h : (tryExtract frontend options source).2 = .ok d) {e : Definition} (he : e ∈ ds)
    {calls : DefinitionCalls} (hcalls : e.calls source = .ok calls) {g : String}
    (hg : g ∈ calls.callees) : (⟨e.name, g⟩ : CallEdge) ∈ d.calls := by
  obtain ⟨other, reports, hcollected, hreports, rfl⟩ := tryExtract_eq_ok_iff.mp h
  obtain rfl := Except.ok.inj (hparsed.symm.trans hcollected.parsed)
  obtain rfl := Except.ok.inj (hds.symm.trans hcollected.collected)
  rw [calls_ofReports_of_faithful hreports, hunion, counted, List.mem_flatMap]
  refine ⟨e.contribution source, List.mem_map_of_mem he, Contribution.mem_edges_iff.mpr ⟨rfl, ?_⟩⟩
  simpa [Definition.contribution, Definition.callees, hcalls] using hg

/-- **Calls of nested definitions.** Let decorated definitions have their decorators first and
    then one definition. A definition has, as its parts, the definitions in its decorators or
    below its node; if decorators hold no definitions, these are the ones below its node. No
    part has a callee that the definition lacks, and the member calls of a part are some of
    those of the definition, in their order; so under `union` each edge of a part also goes out
    from the definition. The definitions to which one node belongs are linearly ordered: of two
    one is a part of the other, parts of parts are parts, and two definitions are parts of each
    other only if they are the same. -/
theorem nested_definitions_share_calls (hshape : DecoratesOnce tree)
    (hds : definitions source includeAsync tree = .ok ds) :
    (definitionAddresses includeAsync tree).map tree.nodeAt? = ds.map (fun d => some d.node) ∧
    (∀ x ∈ placed includeAsync tree ds,
      (ownAddresses tree x.1).map tree.nodeAt? = x.2.nodes.map some) ∧
    ∀ x ∈ placed includeAsync tree ds, ∀ y ∈ placed includeAsync tree ds,
      (x.1 <+: y.1 → y.1 ∈ ownAddresses tree x.1) ∧
      (BareDecorators tree → y.1 ∈ ownAddresses tree x.1 → x.1 <+: y.1) ∧
      (y.1 ∈ ownAddresses tree x.1 →
        (ownAddresses tree y.1).Sublist (ownAddresses tree x.1) ∧
        ∀ outer inner, x.2.calls source = .ok outer → y.2.calls source = .ok inner →
          inner.callees ⊆ outer.callees ∧ inner.memberCalls.Sublist outer.memberCalls ∧
          ∀ frontend options d, frontend source = .ok tree →
            options.includeAsync = includeAsync → options.duplicates = .union →
            (tryExtract frontend options source).2 = .ok d →
            ∀ g ∈ inner.callees, ⟨y.2.name, g⟩ ∈ d.calls ∧ ⟨x.2.name, g⟩ ∈ d.calls) ∧
      (∀ c, c ∈ ownAddresses tree x.1 → c ∈ ownAddresses tree y.1 →
        x.1 ∈ ownAddresses tree y.1 ∨ y.1 ∈ ownAddresses tree x.1) ∧
      (x.1 ∈ ownAddresses tree y.1 → y.1 ∈ ownAddresses tree x.1 → x.1 = y.1) := by
  refine ⟨map_nodeAt?_definitionAddresses hds, fun x hx => map_nodeAt?_ownAddresses hds hx, ?_⟩
  intro x hx y hy
  have hxDefines := definesAt_of_mem_placed hds hx
  have hyDefines := definesAt_of_mem_placed hds hy
  refine ⟨mem_ownAddresses_of_below hyDefines,
    fun hbare => prefix_of_mem_ownAddresses_of_bare hbare hyDefines, fun hpart => ?_,
    fun c => mem_ownAddresses_or hshape hxDefines hyDefines,
    eq_of_mem_ownAddresses hxDefines⟩
  refine ⟨ownAddresses_sublist hshape hxDefines hyDefines hpart, ?_⟩
  intro outer inner houter hinner
  obtain ⟨hcallees, hmembers⟩ :=
    calls_of_nodes_sublist (nodes_sublist hshape hds hx hy hpart) houter hinner
  refine ⟨hcallees, hmembers, ?_⟩
  rintro frontend options d hparsed rfl hunion hd g hg
  exact ⟨mem_calls_of_union hds hparsed hunion hd (List.of_mem_zip hy).2 hinner hg,
    mem_calls_of_union hds hparsed hunion hd (List.of_mem_zip hx).2 houter (hcallees hg)⟩

/-- A function within another, with a decorator and with a call among the arguments of one. -/
def innerSource : String := "def f():\n @r()\n def g(): a.h(k())\n"

def innerLines : LineStarts := ⟨[0, 9, 15, 34]⟩

def innerTree : Node :=
  innerLines.node (.phrase .sourceFile) 0 34 none
    [innerLines.node (.phrase .functionDefinition) 0 33 none
      [innerLines.name 4 (some .name),
        innerLines.node (.phrase .block) 10 33 (some .body)
          [innerLines.node (.phrase .decoratedDefinition) 10 33 none
            [innerLines.node (.phrase .decorator) 10 14 none
                [innerLines.call (innerLines.name 11 (some .function)) 14 []],
              innerLines.definition 16 33 (some .definition)
                [innerLines.call (innerLines.member 25) 33
                  [innerLines.call (innerLines.name 29 (some .function)) 32 []]]]]]]

theorem eq_ok_of_toOption {ε α : Type} {e : Except ε α} {a : α} (h : e.toOption = some a) :
    e = .ok a := by
  cases e with
  | error _ => cases h
  | ok _ => exact congrArg Except.ok (Option.some.inj h)

/-- The function `g` calls `r` by its decorator, `k`, and the member `h` of `a`. All these are
    calls of `f` too, and under `union` both functions have an edge to `r`. -/
theorem nested_definitions_share_calls_inner : DecoratesOnce innerTree ∧ BareDecorators innerTree ∧
    ∃ f g outer inner d, definitions innerSource true innerTree = .ok [f, g] ∧
      f.calls innerSource = .ok outer ∧ g.calls innerSource = .ok inner ∧
      "r" ∈ inner.callees ∧ inner.callees ⊆ outer.callees ∧
      inner.memberCalls.Sublist outer.memberCalls ∧
      (tryExtract (fun _ => .ok innerTree) ⟨.union, true, none⟩ innerSource).2 = .ok d ∧
      ⟨"g", "r"⟩ ∈ d.calls ∧ ⟨"f", "r"⟩ ∈ d.calls := by
  have hshape : DecoratesOnce innerTree := by decide +kernel
  have hbare : BareDecorators innerTree := by decide +kernel
  have haddresses : definitionAddresses true innerTree = [[0], [0, 1, 0, 1]] := by decide +kernel
  have hrun : ((definitions innerSource true innerTree).toOption.map fun ds =>
      ds.map fun d => (d.name, (d.calls innerSource).toOption.map (·.callees))) =
        some [("f", some ["r", "k"]), ("g", some ["r", "k"])] := by
    decide +kernel
  have hextract : ((tryExtract (fun _ => .ok innerTree) ⟨.union, true, none⟩
      innerSource).2.toOption).isSome := by
    decide +kernel
  refine ⟨hshape, hbare, ?_⟩
  obtain ⟨d, hd⟩ := Option.isSome_iff_exists.mp hextract
  obtain ⟨ds, hds, hrun⟩ := Option.map_eq_some_iff.mp hrun
  obtain ⟨f, g, rfl⟩ : ∃ f g, ds = [f, g] :=
    List.length_eq_two.mp (by simpa using congrArg List.length hrun)
  simp only [List.map_cons, List.map_nil, List.cons.injEq, Prod.mk.injEq, and_true] at hrun
  obtain ⟨⟨hfName, hfCalls⟩, hgName, hgCalls⟩ := hrun
  obtain ⟨outer, houter, -⟩ := Option.map_eq_some_iff.mp hfCalls
  obtain ⟨inner, hinner, hcallees⟩ := Option.map_eq_some_iff.mp hgCalls
  have hr : "r" ∈ inner.callees := by simp [hcallees]
  obtain ⟨-, -, hpairs⟩ := nested_definitions_share_calls hshape (eq_ok_of_toOption hds)
  rw [placed, haddresses] at hpairs
  obtain ⟨hpart, -, hshared, -⟩ := hpairs ([0], f) (by simp) ([0, 1, 0, 1], g) (by simp)
  obtain ⟨-, hcalls⟩ := hshared (hpart ⟨[1, 0, 1], rfl⟩)
  obtain ⟨hsubset, hmembers, hunion⟩ :=
    hcalls outer inner (eq_ok_of_toOption houter) (eq_ok_of_toOption hinner)
  obtain ⟨hgEdge, hfEdge⟩ := hunion _ _ d rfl rfl rfl (eq_ok_of_toOption hd) "r" hr
  rw [hgName] at hgEdge
  rw [hfName] at hfEdge
  exact ⟨f, g, outer, inner, d, eq_ok_of_toOption hds, eq_ok_of_toOption houter,
    eq_ok_of_toOption hinner, hr, hsubset, hmembers, eq_ok_of_toOption hd, hgEdge, hfEdge⟩

end CallAtlas.Extract
