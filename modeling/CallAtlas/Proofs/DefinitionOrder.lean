import CallAtlas.Proofs.NestedCalls

/-! # Definitions in document order

    The addresses of the definitions inside another one go on where its own address ends. In
    document order nothing stands between an address and one that goes on there but more of
    the same kind, so these definitions follow the one they are in without a gap. Whether
    async definitions are wanted is decided visit by visit, and the walk goes down into a
    definition in any case; so one run of the walk without them is the other with some steps
    left out.
-/

namespace CallAtlas.Syntax.Node

/-! ## Section 1: Addresses between two others -/

/-- Between an address and one below it stand only addresses below it. -/
theorem prefix_of_between {a b c : List Nat} (hab : a < b) (hbc : b < c) (hac : a <+: c) :
    a <+: b := by
  induction a generalizing b c with
  | nil => exact List.nil_prefix
  | cons i a ih =>
    obtain ⟨more, rfl⟩ := hac
    cases b with
    | nil => exact absurd hab (List.not_lt_nil _)
    | cons j b =>
      -- A step that differs would be too small on one side or too large on the other.
      rcases List.cons_lt_cons_iff.mp hab with hij | ⟨rfl, htail⟩
      · rcases List.cons_lt_cons_iff.mp hbc with hji | ⟨rfl, -⟩
        · omega
        · omega
      · rcases List.cons_lt_cons_iff.mp hbc with hlt | ⟨-, hbc⟩
        · omega
        · exact List.cons_prefix_cons.mpr ⟨rfl, ih htail hbc (List.prefix_append a more)⟩

/-- The addresses that go on where one ends are those at and below it. -/
theorem filter_prefix_addresses (n : Node) (a : List Nat) :
    n.addresses.filter (fun b => a <+: b) = n.addressesBelow a := by
  refine (n.pairwise_lt_addresses.filter _).eq_of_mem_iff (n.pairwise_lt_addressesBelow a) ?_
  intro b
  rw [List.mem_filter, mem_addresses_iff, mem_addressesBelow_iff, decide_eq_true_iff, and_comm]

end CallAtlas.Syntax.Node

namespace CallAtlas.Extract

open CallAtlas.Syntax

variable {source : String} {includeAsync : Bool} {tree : Node} {ds : List Definition}
  {x : List Nat × Definition}

/-! ## Section 2: The list and its addresses -/

theorem isWanted_true : isWanted true = fun n => n.isPhrase .functionDefinition := by
  funext n
  simp [isWanted]

/-- The nodes of the definitions are those of the tree that are wanted, in document order. -/
theorem map_node_definitions (hds : definitions source includeAsync tree = .ok ds) :
    ds.map (·.node) = tree.preorder.filter (isWanted includeAsync) := by
  rw [map_definitions (g := fun v => v.node) (fun v d hd => (definitionAt_eq_some hd).1) hds,
    ← Visit.map_node_visits, List.filter_map]
  rfl

theorem map_fst_placed (hds : definitions source includeAsync tree = .ok ds) :
    (placed includeAsync tree ds).map (·.1) = definitionAddresses includeAsync tree := by
  have hlength := congrArg List.length (map_nodeAt?_definitionAddresses hds)
  rw [List.length_map, List.length_map] at hlength
  exact List.map_fst_zip hlength.le

theorem map_snd_placed (hds : definitions source includeAsync tree = .ok ds) :
    (placed includeAsync tree ds).map (·.2) = ds := by
  have hlength := congrArg List.length (map_nodeAt?_definitionAddresses hds)
  rw [List.length_map, List.length_map] at hlength
  exact List.map_snd_zip hlength.ge

/-- Definitions are listed in the order of their addresses. -/
theorem pairwise_lt_placed (hds : definitions source includeAsync tree = .ok ds) :
    (placed includeAsync tree ds).Pairwise fun x y => x.1 < y.1 := by
  rw [← List.pairwise_map, map_fst_placed hds]
  exact tree.pairwise_lt_addresses.filter _

/-- With async definitions every function definition of the tree is in the list. -/
theorem exists_placed_iff (hds : definitions source true tree = .ok ds) {a : List Nat} {n : Node} :
    (∃ x ∈ placed true tree ds, x.1 = a ∧ x.2.node = n) ↔
      tree.nodeAt? a = some n ∧ n.isPhrase .functionDefinition := by
  constructor
  · rintro ⟨x, hx, rfl, rfl⟩
    have hstands := standsAt_of_mem_zip hds hx
    exact ⟨hstands.nodeAt, hstands.isDefinition⟩
  · rintro ⟨ha, hn⟩
    have haddress : a ∈ definitionAddresses true tree := by
      rw [definitionAddresses, List.mem_filter, Node.mem_addresses_iff, ha, isWanted_true]
      exact ⟨rfl, hn⟩
    rw [← map_fst_placed hds] at haddress
    obtain ⟨x, hx, rfl⟩ := List.mem_map.mp haddress
    have hnode := (standsAt_of_mem_zip hds hx).nodeAt
    exact ⟨x, hx, rfl, Option.some.inj (hnode.symm.trans ha)⟩

/-- Where nodes enfold their parts, a definition starts no earlier than those before it. -/
theorem StandsAt.startByte_le {a b : List Nat} {d e : Definition} (hd : StandsAt tree a d)
    (he : StandsAt tree b e) (hnested : tree.Nested) (hlt : a < b) :
    d.span.startByte ≤ e.span.startByte := by
  rw [hd.span_eq, he.span_eq]
  by_cases hab : a <+: b
  · obtain ⟨more, rfl⟩ := hab
    have hbelow : d.node.nodeAt? more = some e.node := by
      have he := he.nodeAt
      rwa [Node.nodeAt?_append, hd.nodeAt, Option.bind_some] at he
    exact ((hnested.below hd.nodeAt).bounds hbelow).1
  · calc d.node.start.byte
        ≤ d.node.stop.byte := (hnested.below hd.nodeAt).enfolds.start_le_stop
      _ ≤ e.node.start.byte := hnested.stop_le_start hd.nodeAt he.nodeAt hlt hab

theorem pairwise_startByte_definitions (hnested : tree.Nested)
    (hds : definitions source includeAsync tree = .ok ds) :
    ds.Pairwise fun d e => d.span.startByte ≤ e.span.startByte := by
  rw [← map_snd_placed hds, List.pairwise_map]
  refine (pairwise_lt_placed hds).imp_of_mem fun {x y} hx hy hlt => ?_
  exact (standsAt_of_mem_zip hds hx).startByte_le (standsAt_of_mem_zip hds hy) hnested hlt

/-! ## Section 3: The run of the definitions inside one -/

/-- Of entries behind an address, in document order, those below the address come first. -/
theorem eq_run_append_rest {a : List Nat} {after : List (List Nat × Definition)}
    (hafter : ∀ y ∈ after, a < y.1) (hsorted : after.Pairwise fun x y => x.1 < y.1) :
    after = after.filter (fun y => a <+: y.1) ++ after.filter (fun y => ¬ a <+: y.1) := by
  induction after with
  | nil => rfl
  | cons y after ih =>
    rw [List.pairwise_cons] at hsorted
    rw [List.forall_mem_cons] at hafter
    by_cases hy : a <+: y.1
    · rw [List.filter_cons_of_pos (by simpa using hy), List.filter_cons_of_neg (by simpa using hy),
        List.cons_append, ← ih hafter.2 hsorted.2]
    · -- The run has ended: nothing behind `y` lies below `a`.
      have hover : ∀ z ∈ after, ¬ a <+: z.1 := by
        intro z hz haz
        exact hy (Node.prefix_of_between hafter.1 (hsorted.1 z hz) haz)
      have hnone : (y :: after).filter (fun z => a <+: z.1) = [] := by
        simpa using ⟨hy, fun b d h => hover (b, d) h⟩
      have hall : (y :: after).filter (fun z => ¬ a <+: z.1) = y :: after := by
        simpa using ⟨hy, fun b d h => hover (b, d) h⟩
      rw [hnone, hall, List.nil_append]

/-- The definitions at and below the address of one are those at and below its node. -/
theorem map_node_filter_placed (hds : definitions source includeAsync tree = .ok ds)
    (hx : x ∈ placed includeAsync tree ds) :
    ((placed includeAsync tree ds).filter fun y => x.1 <+: y.1).map (·.2.node) =
      x.2.node.preorder.filter (isWanted includeAsync) := by
  have hwanted : (definitionAddresses includeAsync tree).filter (fun b => x.1 <+: b) =
      (tree.addressesBelow x.1).filter fun b => (tree.nodeAt? b).any (isWanted includeAsync) := by
    rw [definitionAddresses, ← Node.filter_prefix_addresses, List.filter_filter, List.filter_filter]
    exact List.filter_congr fun b _ => Bool.and_comm _ _
  refine (Option.some_injective Node).list_map ?_
  calc (((placed includeAsync tree ds).filter fun y => x.1 <+: y.1).map (·.2.node)).map some
      = ((placed includeAsync tree ds).filter fun y => x.1 <+: y.1).map
          fun y => tree.nodeAt? y.1 := by
        rw [List.map_map]
        refine List.map_congr_left fun y hy => ?_
        exact (standsAt_of_mem_zip hds (List.mem_filter.mp hy).1).nodeAt.symm
    _ = ((definitionAddresses includeAsync tree).filter fun b => x.1 <+: b).map tree.nodeAt? := by
        rw [← map_fst_placed hds, List.filter_map, List.map_map]
        rfl
    _ = ((tree.addressesBelow x.1).map tree.nodeAt?).filter (·.any (isWanted includeAsync)) := by
        rw [hwanted, List.filter_map]
        rfl
    _ = (x.2.node.preorder.filter (isWanted includeAsync)).map some := by
        rw [Node.map_nodeAt?_addressesBelow (standsAt_of_mem_zip hds hx).nodeAt, List.filter_map]
        rfl

/-- What lies in a definition follows it without a gap. -/
theorem exists_run_of_split (hds : definitions source includeAsync tree = .ok ds)
    {before after : List (List Nat × Definition)}
    (h : placed includeAsync tree ds = before ++ x :: after) :
    ∃ inner rest, after = inner ++ rest ∧ (∀ y ∈ inner, x.1 <+: y.1) ∧
      (∀ y ∈ before ++ rest, ¬ x.1 <+: y.1) ∧
      (x :: inner).map (·.2.node) = x.2.node.preorder.filter (isWanted includeAsync) := by
  have hsorted := pairwise_lt_placed hds
  have hx : x ∈ placed includeAsync tree ds := h ▸ List.mem_append_right _ List.mem_cons_self
  have hnodes := map_node_filter_placed hds hx
  rw [h] at hsorted hnodes
  obtain ⟨-, htail, hbefore⟩ := List.pairwise_append.mp hsorted
  rw [List.pairwise_cons] at htail
  have hnot : ∀ y ∈ before, ¬ x.1 <+: y.1 := by
    intro y hy hxy
    exact absurd (hbefore y hy x List.mem_cons_self) (List.not_lt.mpr hxy.le)
  have hnone : before.filter (fun y => x.1 <+: y.1) = [] :=
    List.filter_eq_nil_iff.mpr fun y hy => by simpa using hnot y hy
  refine ⟨after.filter fun y => x.1 <+: y.1, after.filter fun y => ¬ x.1 <+: y.1,
    eq_run_append_rest htail.1 htail.2, ?_, ?_, ?_⟩
  · intro y hy
    simpa using (List.mem_filter.mp hy).2
  · intro y hy
    rcases List.mem_append.mp hy with hy | hy
    · exact hnot y hy
    · simpa using (List.mem_filter.mp hy).2
  · rw [List.filter_append, hnone, List.nil_append, List.filter_cons_of_pos (by simp)] at hnodes
    exact hnodes

/-! ## Section 4: Async definitions -/

/-- A definition is async if its node starts so. -/
theorem isAsync_of_definitionAt {v : Visit} {d : Definition}
    (h : definitionAt source includeAsync v = .ok (some d)) : d.isAsync = startsAsync v.node := by
  unfold definitionAt at h
  dsimp only at h
  split at h
  · cases h
  · split at h
    · cases h
    · split at h
      · cases h
      · split at h
        · cases h
        · cases h
          rfl

/-- Without async definitions a visit has the definition that it has with them, unless that
    one is async. -/
theorem definitionAt_false {v : Visit} {found : Option Definition}
    (h : definitionAt source true v = .ok found) :
    definitionAt source false v = .ok (found.filter fun d => !d.isAsync) := by
  cases hv : startsAsync v.node with
  | true =>
    have hnone : definitionAt source false v = .ok none := by simp [definitionAt, hv]
    cases found with
    | none => exact hnone
    | some d =>
      have hasync : d.isAsync = true := (isAsync_of_definitionAt h).trans hv
      rw [hnone, Option.filter_some, hasync]
      rfl
  | false =>
    have hsame : definitionAt source false v = definitionAt source true v := by
      simp [definitionAt, hv]
    rw [hsame, h]
    cases found with
    | none => rfl
    | some d =>
      have hasync : d.isAsync = false := (isAsync_of_definitionAt h).trans hv
      rw [Option.filter_some, hasync]
      rfl

/-- One step adds nothing but what it adds with async definitions, less an async one. -/
theorem collectDefinition_false {v : Visit} {found next : Array Definition}
    (h : collectDefinition source true found v = .ok next) :
    collectDefinition source false (found.filter fun d => !d.isAsync) v =
      .ok (next.filter fun d => !d.isAsync) := by
  rw [collectDefinition] at h ⊢
  cases hv : definitionAt source true v with
  | error e =>
    rw [hv] at h
    cases h
  | ok here =>
    rw [hv] at h
    cases h
    rw [definitionAt_false hv]
    cases here with
    | none => simp [Except.map]
    | some d => cases hd : d.isAsync <;> simp [Except.map, Option.filter_some, hd]

theorem foldlM_collectDefinition_false {visits : List Visit} {found all : Array Definition}
    (h : visits.foldlM (collectDefinition source true) found = .ok all) :
    visits.foldlM (collectDefinition source false) (found.filter fun d => !d.isAsync) =
      .ok (all.filter fun d => !d.isAsync) := by
  induction visits generalizing found with
  | nil =>
    cases h
    rfl
  | cons v visits ih =>
    rw [List.foldlM_cons] at h ⊢
    cases hv : collectDefinition source true found v with
    | error e =>
      rw [hv] at h
      cases h
    | ok next =>
      rw [hv] at h
      rw [collectDefinition_false hv]
      exact ih h

/-- If all definitions can be listed, so can those that are not async, and they are the same
    as in the list of all. -/
theorem definitions_false (h : definitions source true tree = .ok ds) :
    definitions source false tree = .ok (ds.filter fun d => !d.isAsync) := by
  rw [definitions, walk_root] at h ⊢
  cases hall : tree.visits.foldlM (collectDefinition source true) #[] with
  | error e =>
    rw [hall] at h
    cases h
  | ok all =>
    rw [hall] at h
    cases h
    have hrun := foldlM_collectDefinition_false hall
    rw [Array.filter_empty] at hrun
    rw [hrun]
    simp [Except.map]

theorem isAsync_of_mem_definitions {d : Definition}
    (hds : definitions source includeAsync tree = .ok ds) (hd : d ∈ ds) :
    d.isAsync = startsAsync d.node := by
  obtain ⟨v, -, hv⟩ := exists_visit_of_mem_definitions hds hd
  rw [isAsync_of_definitionAt hv, (definitionAt_eq_some hv).1]

/-- The definitions that are not async stand where they stand among all of them. -/
theorem placed_false (hds : definitions source true tree = .ok ds) :
    placed false tree (ds.filter fun d => !d.isAsync) =
      (placed true tree ds).filter fun x => !x.2.isAsync := by
  refine (List.zip_of_prod ?_ ?_).symm
  · have hsync : ∀ x ∈ placed true tree ds,
        (!x.2.isAsync) = (tree.nodeAt? x.1).any fun n => !startsAsync n := by
      intro x hx
      rw [isAsync_of_mem_definitions hds (List.of_mem_zip hx).2,
        (standsAt_of_mem_zip hds hx).nodeAt]
      rfl
    have hfst : ((placed true tree ds).filter fun x => !x.2.isAsync).map (·.1) =
        (definitionAddresses true tree).filter fun a =>
          (tree.nodeAt? a).any fun n => !startsAsync n := by
      rw [List.filter_congr hsync, ← map_fst_placed hds, List.filter_map]
      rfl
    rw [hfst, definitionAddresses, definitionAddresses, List.filter_filter]
    refine List.filter_congr fun a _ => ?_
    cases tree.nodeAt? a with
    | none => rfl
    | some n => simp [isWanted, Bool.and_comm]
  · conv_rhs => rw [← map_snd_placed hds, List.filter_map]
    rfl

/-! ## Section 5: All together -/

/-- **Definitions in document order.** If all definitions of a tree can be listed, the list has
    every function definition of the tree once, in document order. The definitions inside one
    of them follow it without a gap, and no others lie inside it; the list of the nodes of a
    definition and of those that follow so is that of all function definitions at and below
    its node. Where nodes enfold their parts, no definition starts before an earlier one. The
    definitions that are not async can then be listed as well: they are the same as in the
    whole list, in the same order and at the same addresses, also inside an async one. -/
theorem definitions_in_document_order (hds : definitions source true tree = .ok ds) :
    ds.map (·.node) = tree.preorder.filter (·.isPhrase .functionDefinition) ∧
    (placed true tree ds).map (·.2) = ds ∧
    (∀ a n, (∃ x ∈ placed true tree ds, x.1 = a ∧ x.2.node = n) ↔
      tree.nodeAt? a = some n ∧ n.isPhrase .functionDefinition) ∧
    (placed true tree ds).Pairwise (fun x y => x.1 < y.1) ∧
    (∀ before x after, placed true tree ds = before ++ x :: after →
      ∃ inner rest, after = inner ++ rest ∧ (∀ y ∈ inner, x.1 <+: y.1) ∧
        (∀ y ∈ before ++ rest, ¬ x.1 <+: y.1) ∧
        (x :: inner).map (·.2.node) =
          x.2.node.preorder.filter (·.isPhrase .functionDefinition)) ∧
    (tree.Nested → ds.Pairwise fun d e => d.span.startByte ≤ e.span.startByte) ∧
    definitions source false tree = .ok (ds.filter fun d => !d.isAsync) ∧
    ∀ x ∈ placed true tree ds, ∀ y ∈ placed true tree ds, x.2.isAsync → x.1 <+: y.1 →
      y.2.isAsync = false → y ∈ placed false tree (ds.filter fun d => !d.isAsync) := by
  refine ⟨isWanted_true ▸ map_node_definitions hds, map_snd_placed hds,
    fun a n => exists_placed_iff hds, pairwise_lt_placed hds, ?_,
    fun hnested => pairwise_startByte_definitions hnested hds, definitions_false hds, ?_⟩
  · intro before x after hsplit
    exact isWanted_true ▸ exists_run_of_split hds hsplit
  · intro x _ y hy _ _ hsync
    rw [placed_false hds, List.mem_filter, hsync]
    exact ⟨hy, rfl⟩

/-- An async function `f` with a function `g` in it, and a function `h`. -/
def asyncSource : String := "async def f():\n def g(): a\ndef h(): b\n"

def asyncLines : LineStarts := ⟨[0, 15, 27, 38]⟩

def asyncTree : Node :=
  asyncLines.node (.phrase .sourceFile) 0 38 none
    [asyncLines.node (.phrase .functionDefinition) 0 26 none
      [asyncLines.node (.terminal (.word "async")) 0 5 none [],
        asyncLines.name 10 (some .name),
        asyncLines.node (.phrase .block) 16 26 (some .body)
          [asyncLines.definition 16 26 none [asyncLines.name 25 none]]],
      asyncLines.definition 27 37 none [asyncLines.name 36 none]]

/-- The function `g` follows `f`, which it is in, and stays when `f` is left out. -/
theorem definitions_in_document_order_async :
    asyncTree.Nested ∧ ∃ f g h, definitions asyncSource true asyncTree = .ok [f, g, h] ∧
      f.isAsync = true ∧ [f, g].map (·.node) =
        f.node.preorder.filter (·.isPhrase .functionDefinition) ∧
      f.span.startByte ≤ g.span.startByte ∧ g.span.startByte ≤ h.span.startByte ∧
      definitions asyncSource false asyncTree = .ok [g, h] := by
  have hnested : asyncTree.Nested := by decide +kernel
  have haddresses : definitionAddresses true asyncTree = [[0], [0, 2, 0], [1]] := by
    decide +kernel
  have hrun : ((definitions asyncSource true asyncTree).toOption.map fun ds =>
      ds.map (·.isAsync)) = some [true, false, false] := by
    decide +kernel
  obtain ⟨ds, hds, hasync⟩ := Option.map_eq_some_iff.mp hrun
  obtain ⟨f, g, h, rfl⟩ : ∃ f g h, ds = [f, g, h] :=
    List.length_eq_three.mp (by simpa using congrArg List.length hasync)
  simp only [List.map_cons, List.map_nil, List.cons.injEq, and_true] at hasync
  obtain ⟨hf, hg, hh⟩ := hasync
  have hds := eq_ok_of_toOption hds
  obtain ⟨-, -, -, -, hsplit, hstarts, hfalse, -⟩ := definitions_in_document_order hds
  have hplaced : placed true asyncTree [f, g, h] = [([0], f), ([0, 2, 0], g), ([1], h)] := by
    rw [placed, haddresses]
    rfl
  obtain ⟨inner, rest, hafter, hinner, hrest, hnodes⟩ := hsplit [] _ _ hplaced
  have hpairs := hstarts hnested
  simp only [List.pairwise_cons, List.mem_cons, List.not_mem_nil, or_false, forall_eq_or_imp,
    forall_eq] at hpairs
  refine ⟨hnested, f, g, h, hds, hf, ?_, hpairs.1.1, hpairs.2.1, ?_⟩
  · -- The run behind `f` has `g`, which lies in it, and not `h`, which does not.
    rcases inner with _ | ⟨y, _ | ⟨z, inner⟩⟩
    · obtain rfl : [([0, 2, 0], g), ([1], h)] = rest := hafter
      exact absurd ⟨[2, 0], rfl⟩ (hrest ([0, 2, 0], g) (by simp))
    · obtain ⟨rfl, -⟩ := List.cons.inj hafter
      exact hnodes
    · simp only [List.cons_append, List.cons.injEq] at hafter
      obtain ⟨-, rfl, -⟩ := hafter
      have hpre : [0] <+: [1] := hinner ([1], h) (by simp)
      exact absurd hpre (by decide)
  · simpa [hf, hg, hh] using hfalse

end CallAtlas.Extract
