import CallAtlas.Syntax.Tree
import Mathlib.Data.List.Basic
import Mathlib.Data.List.Lex

/-! # Addresses in a tree

    Equal nodes may stand at several places of a tree, so a place is named by its address: the
    numbers of the parts to go down to from the root. A node lies below another if its address
    goes on where that of the other ends. Document order is the lexicographic order of
    addresses.
-/

namespace CallAtlas.Syntax

namespace Node

/-! ## Section 1: Going down -/

/-- To show that something holds of every node, show that it passes from the parts of a node
    to the node. -/
theorem parts_induction {motive : Node → Prop}
    (node : ∀ n : Node, (∀ c ∈ n.children, motive c) → motive n) : ∀ n, motive n
  | ⟨kind, start, stop, field, extra, health, children⟩ =>
    node ⟨kind, start, stop, field, extra, health, children⟩ fun c _ => parts_induction node c

/-- The node at an address, if the address does not leave the tree. -/
def nodeAt? (n : Node) : List Nat → Option Node
  | [] => some n
  | i :: rest => n.children[i]?.bind fun c => c.nodeAt? rest

theorem nodeAt?_cons_eq_some_iff {n m : Node} {i : Nat} {rest : List Nat} :
    n.nodeAt? (i :: rest) = some m ↔ ∃ c, n.children[i]? = some c ∧ c.nodeAt? rest = some m :=
  Option.bind_eq_some_iff

/-- An address that goes on behind another leads on from the node there. -/
theorem nodeAt?_append (n : Node) (a b : List Nat) :
    n.nodeAt? (a ++ b) = (n.nodeAt? a).bind fun m => m.nodeAt? b := by
  induction a generalizing n with
  | nil => rfl
  | cons i a ih =>
    rw [List.cons_append, nodeAt?, nodeAt?]
    cases n.children[i]? with
    | none => rfl
    | some c => exact ih c

theorem nodeAt?_concat {n m : Node} {a : List Nat} (h : n.nodeAt? a = some m) (i : Nat) :
    n.nodeAt? (a ++ [i]) = m.children[i]? := by
  rw [nodeAt?_append, h, Option.bind_some, nodeAt?]
  exact Option.bind_fun_some _

/-- What lies at or below an address of a tree is in the tree. -/
theorem mem_preorder_of_nodeAt? {n m k : Node} {a : List Nat} (h : n.nodeAt? a = some m)
    (hk : k ∈ m.preorder) : k ∈ n.preorder := by
  induction a generalizing n with
  | nil =>
    cases h
    exact hk
  | cons i a ih =>
    obtain ⟨c, hc, hm⟩ := nodeAt?_cons_eq_some_iff.mp h
    exact mem_preorder_of_mem_children (List.mem_of_getElem? hc) (ih hm)

/-! ## Section 2: All addresses -/

mutual

/-- The addresses of the nodes of a tree, in document order. -/
def addresses : Node → List (List Nat)
  | ⟨_, _, _, _, _, _, children⟩ => [] :: addressesFrom 0 children

/-- The addresses of the nodes at and below consecutive parts, the first of which has the
    given number. -/
def addressesFrom (i : Nat) : List Node → List (List Nat)
  | [] => []
  | n :: ns => (addresses n).map (i :: ·) ++ addressesFrom (i + 1) ns

end

theorem addressesFrom_eq (i : Nat) (ns : List Node) :
    addressesFrom i ns = (ns.zipIdx i).flatMap fun (n, j) => n.addresses.map (j :: ·) := by
  induction ns generalizing i with
  | nil => rfl
  | cons n ns ih => rw [addressesFrom, ih, List.zipIdx_cons, List.flatMap_cons]

theorem addresses_eq (n : Node) :
    n.addresses = [] :: n.children.zipIdx.flatMap fun (c, j) => c.addresses.map (j :: ·) := by
  obtain ⟨kind, start, stop, field, extra, health, children⟩ := n
  rw [addresses, addressesFrom_eq]

/-- The nodes at the addresses of a tree are the nodes of the tree, in document order. -/
theorem map_nodeAt?_addresses (n : Node) : n.addresses.map n.nodeAt? = n.preorder.map some := by
  induction n using parts_induction with
  | node n ih =>
    have hpart : ∀ p ∈ n.children.zipIdx,
        (p.1.addresses.map (p.2 :: ·)).map n.nodeAt? = p.1.preorder.map some := by
      rintro ⟨c, j⟩ hp
      have hc : n.children[j]? = some c := List.mk_mem_zipIdx_iff_getElem?.mp hp
      rw [List.map_map, ← ih c (List.mem_of_getElem? hc)]
      refine List.map_congr_left fun a _ => ?_
      simp [nodeAt?, hc]
    rw [addresses_eq, preorder_eq, List.map_cons, List.map_cons, List.map_flatMap,
      List.flatMap_congr hpart, List.map_flatMap]
    conv_rhs => rw [← List.zipIdx_map_fst 0 n.children, List.flatMap_map]
    rfl

/-- Every node of a tree stands at an address. -/
theorem exists_nodeAt?_of_mem_preorder {n m : Node} (h : m ∈ n.preorder) :
    ∃ a, n.nodeAt? a = some m := by
  have hsome : some m ∈ n.preorder.map some := List.mem_map_of_mem h
  rw [← map_nodeAt?_addresses] at hsome
  obtain ⟨a, -, ha⟩ := List.mem_map.mp hsome
  exact ⟨a, ha⟩

theorem mem_preorder_trans {n m k : Node} (hm : m ∈ n.preorder) (hk : k ∈ m.preorder) :
    k ∈ n.preorder := by
  obtain ⟨a, ha⟩ := exists_nodeAt?_of_mem_preorder hm
  exact mem_preorder_of_nodeAt? ha hk

/-- The addresses of a tree are those that do not leave it. -/
theorem mem_addresses_iff {n : Node} {a : List Nat} : a ∈ n.addresses ↔ (n.nodeAt? a).isSome := by
  induction n using parts_induction generalizing a with
  | node n ih =>
    rw [addresses_eq]
    cases a with
    | nil => simp [nodeAt?]
    | cons i rest =>
      simp only [List.mem_cons, reduceCtorEq, false_or, List.mem_flatMap, List.mem_map,
        List.cons.injEq, nodeAt?]
      constructor
      · rintro ⟨⟨c, j⟩, hc, b, hb, rfl, rfl⟩
        have hc := List.mk_mem_zipIdx_iff_getElem?.mp hc
        rw [hc, Option.bind_some]
        exact (ih c (List.mem_of_getElem? hc)).mp hb
      · intro h
        obtain ⟨m, hm⟩ := Option.isSome_iff_exists.mp h
        obtain ⟨c, hc, hm⟩ := Option.bind_eq_some_iff.mp hm
        refine ⟨(c, i), List.mk_mem_zipIdx_iff_getElem?.mpr hc, rest, ?_, rfl, rfl⟩
        rw [ih c (List.mem_of_getElem? hc), hm]
        rfl

/-- Addresses are listed in lexicographic order, each once. -/
theorem pairwise_lt_addresses (n : Node) : n.addresses.Pairwise (· < ·) := by
  induction n using parts_induction with
  | node n ih =>
    rw [addresses_eq, List.pairwise_cons, List.pairwise_flatMap]
    refine ⟨?_, ?_, ?_⟩
    · intro b hb
      obtain ⟨⟨c, j⟩, _, hb⟩ := List.mem_flatMap.mp hb
      obtain ⟨a, _, rfl⟩ := List.mem_map.mp hb
      exact List.nil_lt_cons j a
    · rintro ⟨c, j⟩ hp
      have hc := List.mem_of_getElem? (List.mk_mem_zipIdx_iff_getElem?.mp hp)
      rw [List.pairwise_map]
      exact (ih c hc).imp fun h => List.cons_lt_cons_iff.mpr (.inr ⟨rfl, h⟩)
    · -- Two parts have different numbers, the earlier one the smaller.
      have hnumbers : (n.children.zipIdx.map (·.2)).Pairwise (· < ·) := by
        rw [List.zipIdx_map_snd]
        exact List.pairwise_lt_range'
      rw [List.pairwise_map] at hnumbers
      refine hnumbers.imp fun {p q} hpq a ha b hb => ?_
      obtain ⟨a, _, rfl⟩ := List.mem_map.mp ha
      obtain ⟨b, _, rfl⟩ := List.mem_map.mp hb
      exact List.cons_lt_cons_iff.mpr (.inl hpq)

/-! ## Section 3: Addresses below an address -/

/-- The addresses at and below an address, in document order. -/
def addressesBelow (n : Node) (a : List Nat) : List (List Nat) :=
  ((n.nodeAt? a).map fun m => m.addresses.map (a ++ ·)).getD []

theorem mem_addressesBelow_iff {n : Node} {a c : List Nat} :
    c ∈ n.addressesBelow a ↔ a <+: c ∧ (n.nodeAt? c).isSome := by
  unfold addressesBelow
  constructor
  · intro h
    cases ha : n.nodeAt? a with
    | none => simp [ha] at h
    | some m =>
      rw [ha] at h
      obtain ⟨b, hb, rfl⟩ := List.mem_map.mp h
      rw [nodeAt?_append, ha]
      exact ⟨List.prefix_append a b, mem_addresses_iff.mp hb⟩
  · rintro ⟨⟨b, rfl⟩, h⟩
    rw [nodeAt?_append] at h
    obtain ⟨k, hk⟩ := Option.isSome_iff_exists.mp h
    obtain ⟨m, ha, hm⟩ := Option.bind_eq_some_iff.mp hk
    rw [ha]
    exact List.mem_map_of_mem (mem_addresses_iff.mpr (hm ▸ rfl))

theorem map_nodeAt?_addressesBelow {n m : Node} {a : List Nat} (h : n.nodeAt? a = some m) :
    (n.addressesBelow a).map n.nodeAt? = m.preorder.map some := by
  rw [addressesBelow, h, ← map_nodeAt?_addresses]
  simp only [Option.map_some, Option.getD_some, List.map_map]
  refine List.map_congr_left fun b _ => ?_
  rw [Function.comp_apply, nodeAt?_append, h, Option.bind_some]

theorem pairwise_lt_addressesBelow (n : Node) (a : List Nat) :
    (n.addressesBelow a).Pairwise (· < ·) := by
  unfold addressesBelow
  cases n.nodeAt? a with
  | none => exact .nil
  | some m => exact List.pairwise_map.mpr (m.pairwise_lt_addresses.imp List.append_left_lt)

/-! ## Section 4: Parents -/

/-- The parent of the node at an address. -/
def parentAt? (n : Node) (a : List Nat) : Option Node :=
  if a = [] then none else n.nodeAt? a.dropLast

theorem parentAt?_concat (n : Node) (a : List Nat) (i : Nat) :
    n.parentAt? (a ++ [i]) = n.nodeAt? a := by
  simp [parentAt?]

/-- The parent of a node below a part is that which it has in the part, or else the whole. -/
theorem parentAt?_cons {n c : Node} {i : Nat} (hc : n.children[i]? = some c) {a : List Nat}
    (ha : a ∈ c.addresses) : n.parentAt? (i :: a) = (c.parentAt? a).or (some n) := by
  rcases List.eq_nil_or_concat' a with rfl | ⟨b, j, rfl⟩
  · rfl
  · rw [mem_addresses_iff, nodeAt?_append] at ha
    obtain ⟨m, hm⟩ := Option.isSome_iff_exists.mp ha
    obtain ⟨k, hk, -⟩ := Option.bind_eq_some_iff.mp hm
    rw [← List.cons_append, parentAt?_concat, parentAt?_concat, nodeAt?, hc, Option.bind_some, hk,
      Option.some_or]

theorem visitsFrom_eq (n : Node) (parent previous : Option Node) :
    n.visitsFrom parent previous = ⟨n, parent, previous⟩ :: n.visitsOfChildren none n.children := by
  obtain ⟨kind, start, stop, field, extra, health, children⟩ := n
  rfl

/-- Consecutive parts, the first of which has the number `i`, are visited in the order of
    their addresses if this holds for what lies below each of them. -/
theorem map_visitsOfChildren {n : Node} (parent : Option Node) {ns : List Node} {i : Nat}
    (hplaces : ∀ x ∈ ns.zipIdx i, n.children[x.2]? = some x.1)
    (hbelow : ∀ c ∈ n.children, ∀ previous,
      (c.visitsFrom (some n) previous).map (fun v => (some v.node, v.parent)) =
        c.addresses.map fun a => (c.nodeAt? a, (c.parentAt? a).or (some n)))
    (previous : Option Node) :
    (n.visitsOfChildren previous ns).map (fun v => (some v.node, v.parent)) =
      (addressesFrom i ns).map fun a => (n.nodeAt? a, (n.parentAt? a).or parent) := by
  induction ns generalizing i previous with
  | nil => rfl
  | cons c ns ih =>
    rw [List.zipIdx_cons, List.forall_mem_cons] at hplaces
    have hc : n.children[i]? = some c := hplaces.1
    rw [visitsOfChildren, addressesFrom, List.map_append, List.map_append, ih hplaces.2,
      hbelow c (List.mem_of_getElem? hc), List.map_map]
    congr 1
    refine List.map_congr_left fun a ha => ?_
    simp [nodeAt?, hc, parentAt?_cons hc ha]

theorem map_visitsFrom (n : Node) (parent previous : Option Node) :
    (n.visitsFrom parent previous).map (fun v => (some v.node, v.parent)) =
      n.addresses.map fun a => (n.nodeAt? a, (n.parentAt? a).or parent) := by
  induction n using parts_induction generalizing parent previous with
  | node n ih =>
    have hplaces : ∀ x ∈ n.children.zipIdx, n.children[x.2]? = some x.1 :=
      fun x hx => List.mk_mem_zipIdx_iff_getElem?.mp hx
    have hparts := map_visitsOfChildren parent hplaces (fun c hc => ih c hc (some n)) none
    rw [visitsFrom_eq, List.map_cons, hparts, addresses_eq, addressesFrom_eq]
    rfl

/-- Visits are made in the order of the addresses, and each comes with the parent of the node
    at its address. -/
theorem map_visits (n : Node) :
    n.visits.map (fun v => (some v.node, v.parent)) =
      n.addresses.map fun a => (n.nodeAt? a, n.parentAt? a) := by
  rw [visits, map_visitsFrom]
  simp only [Option.or_none]

end Node

end CallAtlas.Syntax
