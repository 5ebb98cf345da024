import CallAtlas.Proofs.Addresses
import CallAtlas.Proofs.CallAttribution
import CallAtlas.Proofs.Slices

/-! # Nested definitions

    The span of a definition ends with its last token. Comments that trail its body lie
    outside, although they may lie within its node. All the same the spans are nested as the
    nodes are: a definition inside another has its span inside that of the other, and of two
    definitions neither of which is inside the other, the first ends before the second
    starts.
-/

namespace CallAtlas.Syntax

namespace Node

/-! ## Section 1: Trees with nested bytes -/

/-- The bytes of the parts of a node lie within its own, one part behind the other. -/
structure Enfolds (n : Node) : Prop where
  start_le_stop : n.start.byte ≤ n.stop.byte
  within : ∀ c ∈ n.children, n.start.byte ≤ c.start.byte ∧ c.stop.byte ≤ n.stop.byte
  apart : n.children.Pairwise fun a b => a.stop.byte ≤ b.start.byte

instance (n : Node) : Decidable n.Enfolds :=
  decidable_of_iff (n.start.byte ≤ n.stop.byte ∧
    (∀ c ∈ n.children, n.start.byte ≤ c.start.byte ∧ c.stop.byte ≤ n.stop.byte) ∧
    n.children.Pairwise fun a b => a.stop.byte ≤ b.start.byte)
    ⟨fun h => ⟨h.1, h.2.1, h.2.2⟩, fun h => ⟨h.1, h.2, h.3⟩⟩

/-- Every node of a tree enfolds its parts. -/
def Nested (root : Node) : Prop := ∀ n ∈ root.preorder, n.Enfolds

instance (root : Node) : Decidable root.Nested := List.decidableBAll _ _

/-- No extra node of a tree is or holds a function definition. -/
def BareExtras (root : Node) : Prop :=
  ∀ n ∈ root.preorder, n.extra → ∀ m ∈ n.preorder, m.isPhrase .functionDefinition = false

instance (root : Node) : Decidable root.BareExtras := List.decidableBAll _ _

theorem Nested.enfolds {n : Node} (h : n.Nested) : n.Enfolds := h n n.mem_preorder_self

theorem Nested.child {n c : Node} (h : n.Nested) (hc : c ∈ n.children) : c.Nested :=
  fun m hm => h m (mem_preorder_of_mem_children hc hm)

theorem Nested.below {n m : Node} {a : List Nat} (h : n.Nested) (hm : n.nodeAt? a = some m) :
    m.Nested :=
  fun k hk => h k (mem_preorder_of_nodeAt? hm hk)

theorem BareExtras.child {n c : Node} (h : n.BareExtras) (hc : c ∈ n.children) : c.BareExtras :=
  fun m hm => h m (mem_preorder_of_mem_children hc hm)

theorem BareExtras.below {n m : Node} {a : List Nat} (h : n.BareExtras)
    (hm : n.nodeAt? a = some m) : m.BareExtras :=
  fun k hk => h k (mem_preorder_of_nodeAt? hm hk)

/-- What is found at an address lies within the node from which the address leads. -/
theorem Nested.bounds {n m : Node} {a : List Nat} (h : n.Nested) (hm : n.nodeAt? a = some m) :
    n.start.byte ≤ m.start.byte ∧ m.stop.byte ≤ n.stop.byte := by
  induction a generalizing n with
  | nil =>
    cases hm
    exact ⟨le_rfl, le_rfl⟩
  | cons i a ih =>
    obtain ⟨c, hc, hm⟩ := nodeAt?_cons_eq_some_iff.mp hm
    have hchild := List.mem_of_getElem? hc
    have hin := h.enfolds.within c hchild
    have hbelow := ih (h.child hchild) hm
    omega

/-- A node that comes before another and does not hold it ends before the other starts. -/
theorem Nested.stop_le_start {n x y : Node} {a b : List Nat} (h : n.Nested)
    (hx : n.nodeAt? a = some x) (hy : n.nodeAt? b = some y) (hlt : a < b) (hapart : ¬ a <+: b) :
    x.stop.byte ≤ y.start.byte := by
  induction a generalizing n b with
  | nil => exact absurd List.nil_prefix hapart
  | cons i a ih =>
    cases b with
    | nil => exact absurd hlt (List.not_lt_nil _)
    | cons j b =>
      obtain ⟨c, hc, hx⟩ := nodeAt?_cons_eq_some_iff.mp hx
      obtain ⟨d, hd, hy⟩ := nodeAt?_cons_eq_some_iff.mp hy
      have hcChild := List.mem_of_getElem? hc
      rcases List.cons_lt_cons_iff.mp hlt with hij | ⟨rfl, hab⟩
      · -- The ways part here, and `x` lies in the earlier part.
        have hcd : c.stop.byte ≤ d.start.byte := by
          obtain ⟨hi, rfl⟩ := List.getElem?_eq_some_iff.mp hc
          obtain ⟨hj, rfl⟩ := List.getElem?_eq_some_iff.mp hd
          exact List.pairwise_iff_getElem.mp h.enfolds.apart i j hi hj hij
        have hxc := (h.child hcChild).bounds hx
        have hyd := (h.child (List.mem_of_getElem? hd)).bounds hy
        omega
      · obtain rfl : c = d := Option.some.inj (hc.symm.trans hd)
        refine ih (h.child hcChild) hx hy hab ?_
        rintro ⟨more, rfl⟩
        exact hapart ⟨more, rfl⟩

/-! ## Section 2: The last token -/

/-- The parts that are not extra. -/
def ownParts (n : Node) : List Node := n.children.filter fun c => !c.extra

theorem mem_ownParts {n c : Node} : c ∈ n.ownParts ↔ c ∈ n.children ∧ c.extra = false := by
  simp [ownParts]

theorem lastTokenOf_eq (ns : List Node) :
    lastTokenOf ns = (ns.filter fun c => !c.extra).getLast?.map lastToken := by
  induction ns with
  | nil => rfl
  | cons n ns ih =>
    rw [lastTokenOf, ih]
    cases hextra : n.extra with
    | true =>
      rw [List.filter_cons_of_neg (by simp [hextra])]
      cases (ns.filter fun c => !c.extra).getLast? <;> rfl
    | false =>
      rw [List.filter_cons_of_pos (by simp [hextra]), List.getLast?_cons]
      cases (ns.filter fun c => !c.extra).getLast? <;> rfl

/-- The last token of a node is the node itself, if all its parts are extra, or else the last
    token of the last part that is not. -/
theorem lastToken_cases (n : Node) :
    n.ownParts = [] ∧ n.lastToken = n ∨
      ∃ earlier last, n.ownParts = earlier ++ [last] ∧ n.lastToken = last.lastToken := by
  have htoken : n.lastToken = (n.ownParts.getLast?.map lastToken).getD n := by
    obtain ⟨kind, start, stop, field, extra, health, children⟩ := n
    rw [lastToken, lastTokenOf_eq]
    rfl
  rcases List.eq_nil_or_concat' n.ownParts with hnone | ⟨earlier, last, hparts⟩
  · exact .inl ⟨hnone, by rw [htoken, hnone]; rfl⟩
  · refine .inr ⟨earlier, last, hparts, ?_⟩
    rw [htoken, hparts, List.getLast?_concat]
    rfl

/-- The last token ends within its node. -/
theorem Nested.lastToken_bounds {n : Node} (h : n.Nested) :
    n.start.byte ≤ n.lastToken.stop.byte ∧ n.lastToken.stop.byte ≤ n.stop.byte := by
  induction n using parts_induction with
  | node n ih =>
    rcases n.lastToken_cases with ⟨-, htoken⟩ | ⟨earlier, last, hparts, htoken⟩
    · rw [htoken]
      exact ⟨h.enfolds.start_le_stop, le_rfl⟩
    · have hlast : last ∈ n.children := (mem_ownParts.mp (hparts ▸ List.mem_concat_self)).1
      have hin := h.enfolds.within last hlast
      have hbounds := ih last hlast (h.child hlast)
      rw [htoken]
      omega

/-- The last token of a part that is not extra ends no later than that of the whole node. -/
theorem Nested.lastToken_stop_le_of_part {n c : Node} (h : n.Nested) (hc : c ∈ n.ownParts) :
    c.lastToken.stop.byte ≤ n.lastToken.stop.byte := by
  rcases n.lastToken_cases with ⟨hnone, -⟩ | ⟨earlier, last, hparts, htoken⟩
  · rw [hnone] at hc
    exact absurd hc List.not_mem_nil
  rw [htoken]
  have happart : (earlier ++ [last]).Pairwise fun a b => a.stop.byte ≤ b.start.byte :=
    hparts ▸ h.enfolds.apart.filter _
  rw [hparts] at hc
  rcases List.mem_append.mp hc with hearlier | hlast
  · -- An earlier part ends before the last one starts, and so does its last token.
    have hchild : ∀ d ∈ earlier ++ [last], d.Nested := by
      intro d hd
      exact h.child (mem_ownParts.mp (hparts ▸ hd)).1
    have hcd := (List.pairwise_append.mp happart).2.2 c hearlier last List.mem_cons_self
    have hcToken := (hchild c hc).lastToken_bounds
    have hlastToken := (hchild last List.mem_concat_self).lastToken_bounds
    omega
  · rw [List.mem_singleton.mp hlast]

/-- The last token of a definition ends no later than that of any node above it. -/
theorem Nested.lastToken_stop_le {n m : Node} {a : List Nat} (h : n.Nested) (hbare : n.BareExtras)
    (hm : n.nodeAt? a = some m) (hdef : m.isPhrase .functionDefinition) :
    m.lastToken.stop.byte ≤ n.lastToken.stop.byte := by
  induction a generalizing n with
  | nil =>
    cases hm
    exact le_rfl
  | cons i a ih =>
    obtain ⟨c, hc, hm⟩ := nodeAt?_cons_eq_some_iff.mp hm
    have hchild := List.mem_of_getElem? hc
    -- The way to a definition leads through no extra part.
    have hown : c.extra = false := by
      rw [Bool.eq_false_iff]
      intro hextra
      have hplain := hbare c (mem_preorder_of_mem_children hchild c.mem_preorder_self) hextra m
        (mem_preorder_of_nodeAt? hm m.mem_preorder_self)
      rw [hplain] at hdef
      contradiction
    calc m.lastToken.stop.byte
        ≤ c.lastToken.stop.byte := ih (h.child hchild) (hbare.child hchild) hm
      _ ≤ n.lastToken.stop.byte := h.lastToken_stop_le_of_part (mem_ownParts.mpr ⟨hchild, hown⟩)

end Node

end CallAtlas.Syntax

/-! ## Section 3: Definitions and their addresses -/

namespace CallAtlas.Extract

open CallAtlas.Syntax
open CallAtlas.Text

/-- Whether a node is a function definition that is wanted. -/
def isWanted (includeAsync : Bool) (n : Node) : Bool :=
  n.isPhrase .functionDefinition && (includeAsync || !startsAsync n)

/-- The addresses of the definitions that are wanted, in document order. -/
def definitionAddresses (includeAsync : Bool) (tree : Node) : List (List Nat) :=
  tree.addresses.filter fun a => (tree.nodeAt? a).any (isWanted includeAsync)

/-- A visit has a definition exactly if its node is wanted, and the span of the definition
    ends with the last token of that node. -/
theorem definitionAt_eq_ok {source : String} {includeAsync : Bool} {v : Visit}
    {found : Option Definition} (h : definitionAt source includeAsync v = .ok found) :
    found.toList.map (·.node) = [v.node].filter (isWanted includeAsync) ∧
      ∀ d ∈ found, d.span = Span.between d.node.start d.node.lastToken.stop := by
  unfold definitionAt at h
  dsimp only at h
  split at h
  · next hkind =>
    cases h
    have hother : isWanted includeAsync v.node = false := by simp_all [isWanted]
    simp [hother]
  · next hkind =>
    split at h
    · next hasync =>
      cases h
      have hother : isWanted includeAsync v.node = false := by simp_all [isWanted]
      simp [hother]
    · next hasync =>
      have hwanted : isWanted includeAsync v.node = true := by
        cases includeAsync <;> simp_all [isWanted]
      split at h
      · cases h
      · split at h
        · cases h
        · cases h
          simp [hwanted]

/-- A run over visits adds the definitions that are wanted. Whatever each of them takes from
    its visit, they take from these visits in order. -/
theorem map_foldlM_collectDefinition {β : Type} {source : String} {includeAsync : Bool}
    {f : Definition → β} {g : Visit → β}
    (hfg : ∀ v d, definitionAt source includeAsync v = .ok (some d) → f d = g v)
    {visits : List Visit} {found all : Array Definition}
    (h : visits.foldlM (collectDefinition source includeAsync) found = .ok all) :
    all.toList.map f =
      found.toList.map f ++ (visits.filter fun v => isWanted includeAsync v.node).map g := by
  induction visits generalizing found with
  | nil =>
    cases h
    simp
  | cons v visits ih =>
    rw [List.foldlM_cons, collectDefinition] at h
    cases hv : definitionAt source includeAsync v with
    | error e =>
      rw [hv] at h
      cases h
    | ok here =>
      rw [hv] at h
      have hnodes := (definitionAt_eq_ok hv).1
      rw [ih h]
      cases here with
      | none =>
        have hother : isWanted includeAsync v.node = false := by simpa using hnodes
        simp [hother]
      | some d =>
        have hwanted : isWanted includeAsync v.node = true := by
          by_contra hother
          simp [hother] at hnodes
        simp [hwanted, hfg v d hv]

theorem map_definitions {β : Type} {source : String} {includeAsync : Bool} {tree : Node}
    {f : Definition → β} {g : Visit → β}
    (hfg : ∀ v d, definitionAt source includeAsync v = .ok (some d) → f d = g v)
    {ds : List Definition} (h : definitions source includeAsync tree = .ok ds) :
    ds.map f = (tree.visits.filter fun v => isWanted includeAsync v.node).map g := by
  rw [definitions, walk_root] at h
  cases hall : tree.visits.foldlM (collectDefinition source includeAsync) #[] with
  | error e =>
    rw [hall] at h
    cases h
  | ok all =>
    rw [hall] at h
    cases h
    exact map_foldlM_collectDefinition hfg hall

/-- The addresses of the definitions lead to the visits at which they are found. -/
theorem map_definitionAddresses (includeAsync : Bool) (tree : Node) :
    (definitionAddresses includeAsync tree).map (fun a => (tree.nodeAt? a, tree.parentAt? a)) =
      (tree.visits.filter fun v => isWanted includeAsync v.node).map
        fun v => (some v.node, v.parent) := by
  have hfilter := congrArg (List.filter fun x => x.1.any (isWanted includeAsync)) tree.map_visits
  rw [List.filter_map, List.filter_map] at hfilter
  exact hfilter.symm

/-- The definitions of a tree stand at their addresses. -/
theorem map_nodeAt?_definitionAddresses {source : String} {includeAsync : Bool} {tree : Node}
    {ds : List Definition} (h : definitions source includeAsync tree = .ok ds) :
    (definitionAddresses includeAsync tree).map tree.nodeAt? = ds.map fun d => some d.node := by
  have hvisits := congrArg (List.map (·.1)) (map_definitionAddresses includeAsync tree)
  rw [List.map_map, List.map_map] at hvisits
  have hnodes := map_definitions (g := fun v => some v.node)
    (fun v d hd => congrArg some (definitionAt_eq_some hd).1) h
  exact hvisits.trans hnodes.symm

/-- A definition stands at an address of a tree. -/
structure StandsAt (tree : Node) (a : List Nat) (d : Definition) : Prop where
  nodeAt : tree.nodeAt? a = some d.node
  isDefinition : d.node.isPhrase .functionDefinition
  span_eq : d.span = Span.between d.node.start d.node.lastToken.stop

/-- Two lists that agree under two functions agree in each of the pairs they form. -/
theorem eq_of_mem_zip {α β γ : Type} {xs : List α} {ys : List β} {f : α → γ} {g : β → γ}
    (h : xs.map f = ys.map g) {x : α × β} (hx : x ∈ xs.zip ys) : f x.1 = g x.2 := by
  obtain ⟨i, hi, rfl⟩ := List.mem_iff_getElem.mp hx
  rw [List.length_zip] at hi
  have hplace := congrArg (·[i]?) h
  simpa [show i < xs.length by omega, show i < ys.length by omega] using hplace

theorem standsAt_of_mem_zip {source : String} {includeAsync : Bool} {tree : Node}
    {ds : List Definition} (h : definitions source includeAsync tree = .ok ds)
    {x : List Nat × Definition} (hx : x ∈ (definitionAddresses includeAsync tree).zip ds) :
    StandsAt tree x.1 x.2 := by
  obtain ⟨v, -, hv⟩ := exists_visit_of_mem_definitions h (List.of_mem_zip hx).2
  exact ⟨eq_of_mem_zip (map_nodeAt?_definitionAddresses h) hx, (definitionAt_eq_some hv).2.1,
    (definitionAt_eq_ok hv).2 x.2 rfl⟩

/-! ## Section 4: Nested spans -/

/-- A definition inside another has its span inside that of the other. -/
theorem StandsAt.span_within {tree : Node} {a b : List Nat} {d e : Definition}
    (hd : StandsAt tree a d) (he : StandsAt tree b e) (hnested : tree.Nested)
    (hbare : tree.BareExtras) (h : a <+: b) : e.span.Within d.span := by
  obtain ⟨more, rfl⟩ := h
  have hbelow : d.node.nodeAt? more = some e.node := by
    have he := he.nodeAt
    rwa [Node.nodeAt?_append, hd.nodeAt, Option.bind_some] at he
  have hinner := hnested.below hd.nodeAt
  rw [hd.span_eq, he.span_eq]
  exact ⟨(hinner.bounds hbelow).1,
    hinner.lastToken_stop_le (hbare.below hd.nodeAt) hbelow he.isDefinition⟩

/-- A definition that comes before another and does not hold it has its span before that of
    the other. -/
theorem StandsAt.endByte_le {tree : Node} {a b : List Nat} {d e : Definition}
    (hd : StandsAt tree a d) (he : StandsAt tree b e) (hnested : tree.Nested) (hlt : a < b)
    (h : ¬ a <+: b) : d.span.endByte ≤ e.span.startByte := by
  rw [hd.span_eq, he.span_eq]
  calc d.node.lastToken.stop.byte
      ≤ d.node.stop.byte := (hnested.below hd.nodeAt).lastToken_bounds.2
    _ ≤ e.node.start.byte := hnested.stop_le_start hd.nodeAt he.nodeAt hlt h

/-- The spans of the definitions of a tree are nested as the definitions are. Of any two, the
    first one in document order does not lie in the second. If it holds the second, its span
    does so as well, and the snippet of the second is a part of its own; if not, its span
    ends before that of the second starts. -/
theorem definition_spans_laminar {source : String} {includeAsync : Bool} {tree : Node}
    {ds : List Definition} (hnested : tree.Nested) (hbare : tree.BareExtras)
    (hds : definitions source includeAsync tree = .ok ds) :
    (definitionAddresses includeAsync tree).map tree.nodeAt? = ds.map (fun d => some d.node) ∧
    ((definitionAddresses includeAsync tree).zip ds).Pairwise fun x y =>
      ¬ y.1 <+: x.1 ∧
      (x.1 <+: y.1 → y.2.span.Within x.2.span ∧
        ∀ whole part, x.2.span.slice source = some whole → y.2.span.slice source = some part →
          ∃ before after, whole = before ++ part ++ after ∧
            before.utf8ByteSize = y.2.span.startByte - x.2.span.startByte) ∧
      (¬ x.1 <+: y.1 → x.2.span.endByte ≤ y.2.span.startByte) := by
  have hplaces := map_nodeAt?_definitionAddresses hds
  have hordered : ((definitionAddresses includeAsync tree).zip ds).Pairwise
      fun x y => x.1 < y.1 := by
    have hlength := congrArg List.length hplaces
    rw [List.length_map, List.length_map] at hlength
    rw [← List.pairwise_map, List.map_fst_zip hlength.le]
    exact tree.pairwise_lt_addresses.filter _
  refine ⟨hplaces, hordered.imp_of_mem fun {x y} hx hy hlt => ?_⟩
  have hxStands := standsAt_of_mem_zip hds hx
  have hyStands := standsAt_of_mem_zip hds hy
  refine ⟨fun h => absurd hlt (List.not_lt.mpr h.le), fun h => ?_,
    hxStands.endByte_le hyStands hnested hlt⟩
  have hwithin := hxStands.span_within hyStands hnested hbare h
  exact ⟨hwithin, fun whole part hwhole hpart => hwithin.slice hpart hwhole⟩

/-- A function `g` in a function `f`, with a comment behind it that belongs to the body of
    `g`, and a function `h`. -/
def trailingSource : String := "def f():\n def g(): a\n # c\ndef h(): b\n"

def trailingLines : LineStarts := ⟨[0, 9, 21, 26, 37]⟩

def trailingTree : Node :=
  trailingLines.node (.phrase .sourceFile) 0 37 none
    [trailingLines.node (.phrase .functionDefinition) 0 25 none
      [trailingLines.name 4 (some .name),
        trailingLines.node (.phrase .block) 10 25 (some .body)
          [trailingLines.definition 10 25 none
            [trailingLines.name 19 none,
              trailingLines.node (.terminal .comment) 22 25 none []]]],
      trailingLines.definition 26 36 none [trailingLines.name 35 none]]

/-- The comment is cut off from both `f` and `g`, whose nodes hold it. -/
theorem definition_spans_laminar_trailing :
    trailingTree.Nested ∧ trailingTree.BareExtras ∧
    ∃ f g h, definitions trailingSource true trailingTree = .ok [f, g, h] ∧
      f.node.stop.byte = 25 ∧ f.span.endByte = 20 ∧ g.span.endByte = 20 ∧
      g.span.Within f.span ∧ f.span.endByte ≤ h.span.startByte ∧
      g.span.endByte ≤ h.span.startByte := by
  have hnested : trailingTree.Nested := by decide +kernel
  have hbare : trailingTree.BareExtras := by decide +kernel
  have hrun : ((definitions trailingSource true trailingTree).toOption.map fun ds =>
      ds.map fun d => (d.node.stop.byte, d.span.endByte)) =
        some [(25, 20), (25, 20), (36, 36)] := by
    decide +kernel
  have haddresses : definitionAddresses true trailingTree = [[0], [0, 1, 0], [1]] := by
    decide +kernel
  refine ⟨hnested, hbare, ?_⟩
  cases hds : definitions trailingSource true trailingTree with
  | error e => simp [hds, Except.toOption] at hrun
  | ok ds =>
    obtain ⟨-, hpairs⟩ := definition_spans_laminar hnested hbare hds
    rw [haddresses] at hpairs
    simp only [hds, Except.toOption, Option.map_some, Option.some.injEq] at hrun
    obtain ⟨f, g, h, rfl⟩ : ∃ f g h, ds = [f, g, h] :=
      List.length_eq_three.mp (by simpa using congrArg List.length hrun)
    simp only [List.map_cons, List.map_nil, List.cons.injEq, Prod.mk.injEq, and_true] at hrun
    simp only [List.zip_cons_cons, List.zip_nil_left, List.pairwise_cons, List.mem_cons,
      List.not_mem_nil, or_false, forall_eq_or_imp, forall_eq] at hpairs
    obtain ⟨⟨hfg, hfh⟩, hgh, -⟩ := hpairs
    exact ⟨f, g, h, rfl, hrun.1.1, hrun.1.2, hrun.2.1.2, (hfg.2.1 (by decide)).1,
      hfh.2.2 (by decide), hgh.2.2 (by decide)⟩

end CallAtlas.Extract
