import CallAtlas.Proofs.Presentation
import CallAtlas.Proofs.Validation
import Mathlib.Data.List.Lex

/-! # The first fault of a graph

    What a JSON value must look like to be a graph, and each way in which it may fail to, are
    said here without a check. Every fault has a rank, and ranks are compared like words: first
    the two arrays, then the nodes by their index, then the edges by theirs, and within an edge
    the strings at both ends before the nodes they name. A check accepts exactly the values
    without a fault, and of the faults of any other value it reports the one of least rank.
-/

namespace CallAtlas.Present

open CallAtlas.Extract

/-! ## Section 1: Graphs and their faults -/

/-- Some node of the value has this identifier. -/
def IsNodeId (value : Json) (name : String) : Prop :=
  ∃ v ∈ value.itemsAt "nodes", HasText v "id" name

/-- A value is a graph: it has nodes with identifiers, and edges whose ends are nodes. -/
structure IsGraph (value : Json) : Prop where
  object : value.isObject
  nodes : ∃ items, value.field? "nodes" = some (.array items) ∧
    ∀ v ∈ items, v.isObject ∧ ∃ id, HasText v "id" id
  edges : ∃ items, value.field? "edges" = some (.array items) ∧
    ∀ v ∈ items, v.isObject ∧ ∀ e : Endpoint, ∃ name, HasText v e.word name ∧ IsNodeId value name

/-- How an edge is named where it is joined to a node that is not there: by its identifier, if
    that is a string and not empty, or else by its index. -/
inductive EdgeNamed (index : Nat) (edge : Json) : String → Prop where
  | byId {id : String} (hid : HasText edge "id" id) (h : id ≠ "") :
      EdgeNamed index edge ("`" ++ id ++ "`")
  | byIndex (h : ∀ id, HasText edge "id" id → id = "") :
      EdgeNamed index edge ("#" ++ toString index)

/-- The order in which the ends of an edge are looked at. -/
def Endpoint.rank : Endpoint → Nat
  | source => 0
  | target => 1

/-- What is wrong with an edge, by rank, given which names are those of nodes. -/
inductive EdgeFault (isId : String → Prop) (index : Nat) (edge : Json) : Nat → String → Prop where
  | noText {e : Endpoint} (h : ∀ name, ¬ HasText edge e.word name) :
      EdgeFault isId index edge e.rank
        ("edge #" ++ toString index ++ " has no string `" ++ e.word ++ "`")
  | noNode {e : Endpoint} {label name : String} (hname : HasText edge e.word name)
      (hlabel : EdgeNamed index edge label) (h : ¬ isId name) :
      EdgeFault isId index edge (2 + e.rank)
        ("edge " ++ label ++ " " ++ e.word ++ " `" ++ name ++ "` is not a node id")

/-- What is wrong with a value, by rank. -/
inductive HasFault (value : Json) : List Nat → String → Prop where
  | noNodes (h : ∀ items, value.field? "nodes" ≠ some (.array items)) :
      HasFault value [0] "`nodes` is missing or not an array"
  | noEdges (h : ∀ items, value.field? "edges" ≠ some (.array items)) :
      HasFault value [1] "`edges` is missing or not an array"
  | node {i : Nat} {v : Json} (hv : (value.itemsAt "nodes")[i]? = some v)
      (h : ∀ id, ¬ HasText v "id" id) :
      HasFault value [2, i] ("node #" ++ toString i ++ " has no string `id`")
  | edge {i k : Nat} {v : Json} {reason : String} (hv : (value.itemsAt "edges")[i]? = some v)
      (h : EdgeFault (IsNodeId value) i v k reason) : HasFault value [3, i, k] reason

/-! ## Section 2: Fields -/

theorem string?_eq_some_iff {value : Json} {key text : String} :
    (value.field? key).bind Json.string? = some text ↔ HasText value key text := by
  constructor
  · exact fun h => hasText_of_required (Json.required_eq_some_iff.mpr h)
  · intro h
    rw [HasText] at h
    rw [h]
    rfl

theorem string?_eq_none_iff {value : Json} {key : String} :
    (value.field? key).bind Json.string? = none ↔ ∀ text, ¬ HasText value key text := by
  simp only [← string?_eq_some_iff, Option.eq_none_iff_forall_ne_some, ne_eq]

theorem array?_eq_some_iff {value : Json} {key : String} {items : List Json} :
    (value.field? key).bind Json.array? = some items ↔
      value.field? key = some (.array items) := by
  constructor
  · intro h
    obtain ⟨part, hpart, hitems⟩ := Option.bind_eq_some_iff.mp h
    cases part with
    | array other =>
      obtain rfl : other = items := Option.some.inj hitems
      exact hpart
    | _ => cases hitems
  · intro h
    rw [h]
    rfl

theorem HasText.eq {value : Json} {key a b : String} (ha : HasText value key a)
    (hb : HasText value key b) : a = b := by
  have h := Option.some.inj (ha.symm.trans hb)
  exact Json.string.inj h

theorem isObject_of_field? {value part : Json} {key : String} (h : value.field? key = some part) :
    value.isObject := by
  cases value with
  | object fields => rfl
  | _ => cases h

/-! ## Section 3: Nodes -/

/-- Identifiers that are read are those of the nodes, each of which has one. -/
theorem mem_ids_of_readIds {index : Nat} {items : List Json} {ids : List String}
    (h : readIds index items = .ok ids) :
    (∀ v ∈ items, ∃ id, HasText v "id" id) ∧
      ∀ name, name ∈ ids ↔ ∃ v ∈ items, HasText v "id" name := by
  induction items generalizing index ids with
  | nil =>
    cases h
    simp
  | cons v items ih =>
    unfold readIds at h
    split at h
    · cases h
    · next id hid =>
      have hid := string?_eq_some_iff.mp hid
      cases hrest : readIds (index + 1) items with
      | error fault => simp [hrest, Except.map] at h
      | ok rest =>
        simp only [hrest, Except.map, Except.ok.injEq] at h
        obtain ⟨hall, hmem⟩ := ih hrest
        refine ⟨List.forall_mem_cons.mpr ⟨⟨id, hid⟩, hall⟩, fun name => ?_⟩
        have hname : name = id ↔ HasText v "id" name :=
          ⟨fun heq => heq ▸ hid, fun hname => hname.eq hid⟩
        rw [← h, List.mem_cons, List.exists_mem_cons_iff, hmem, hname]

/-- The reading fails at the first node without an identifier. -/
theorem exists_split_of_readIds {index : Nat} {items : List Json} {fault : GraphFault}
    (h : readIds index items = .error fault) :
    ∃ before v after, items = before ++ v :: after ∧ (∀ w ∈ before, ∃ id, HasText w "id" id) ∧
      (∀ id, ¬ HasText v "id" id) ∧ fault = .nodeWithoutId (index + before.length) := by
  induction items generalizing index fault with
  | nil => cases h
  | cons v items ih =>
    unfold readIds at h
    split at h
    · next hnone =>
      cases h
      exact ⟨[], v, items, rfl, by simp, string?_eq_none_iff.mp hnone, rfl⟩
    · next id hid =>
      cases hrest : readIds (index + 1) items with
      | ok rest => simp [hrest, Except.map] at h
      | error other =>
        simp only [hrest, Except.map, Except.error.injEq] at h
        obtain ⟨before, w, after, rfl, hbefore, hw, hother⟩ := ih hrest
        refine ⟨v :: before, w, after, rfl, ?_, hw, ?_⟩
        · exact List.forall_mem_cons.mpr ⟨⟨id, string?_eq_some_iff.mp hid⟩, hbefore⟩
        · rw [← h, hother, List.length_cons]
          congr 1
          omega

/-! ## Section 4: Edges -/

/-- Both ends of an edge are strings among the identifiers. -/
def Joins (isId : String → Prop) (v : Json) : Prop :=
  ∀ e : Endpoint, ∃ name, HasText v e.word name ∧ isId name

theorem Joins.not_edgeFault {isId : String → Prop} {v : Json} (h : Joins isId v) {index k : Nat}
    {reason : String} : ¬ EdgeFault isId index v k reason := by
  intro hfault
  cases hfault with
  | @noText e hnone =>
    obtain ⟨name, hname, -⟩ := h e
    exact hnone name hname
  | @noNode e label name hname hlabel hunknown =>
    obtain ⟨other, hother, hknown⟩ := h e
    exact hunknown (hother.eq hname ▸ hknown)

/-- The label of an edge gives its name. -/
theorem edgeNamed_text (index : Nat) (v : Json) :
    EdgeNamed index v
      (EdgeLabel.text ⟨index, ((v.field? "id").bind Json.string?).getD ""⟩) := by
  unfold EdgeLabel.text
  cases hid : (v.field? "id").bind Json.string? with
  | none =>
    have hnone := string?_eq_none_iff.mp hid
    exact .byIndex fun id h => absurd h (hnone id)
  | some id =>
    have hid := string?_eq_some_iff.mp hid
    dsimp only [Option.getD_some]
    split
    · next hempty => exact .byIndex fun other h => (h.eq hid).trans (String.isEmpty_iff.mp hempty)
    · next hnonempty => exact .byId hid fun h => hnonempty (String.isEmpty_iff.mpr h)

/-- What the check of edges does with one of them. -/
def edgeVerdict (ids : List String) (index : Nat) (v : Json) : Except GraphFault Unit :=
  match readEdge index v with
  | .error fault => .error fault
  | .ok edge => checkEdge ids index edge

/-- A fault is the first of an edge: no other of the edge has a smaller rank. -/
def FirstOfEdge (isId : String → Prop) (index : Nat) (v : Json) (k : Nat) (reason : String) :
    Prop :=
  EdgeFault isId index v k reason ∧ ∀ k' reason', EdgeFault isId index v k' reason' → k ≤ k'

/-- An edge with strings at both ends can only name nodes that are not there. -/
theorem two_le_of_edgeFault {isId : String → Prop} {index k : Nat} {v : Json} {reason : String}
    (htexts : ∀ e : Endpoint, ∃ name, HasText v e.word name)
    (h : EdgeFault isId index v k reason) : 2 ≤ k := by
  cases h with
  | @noText e hnone =>
    obtain ⟨name, hname⟩ := htexts e
    exact absurd hname (hnone name)
  | noNode => omega

/-- With strings at both ends, the nodes that they name decide, that of the source first. -/
theorem edgeVerdict_of_texts (ids : List String) (index : Nat) {v : Json} {source target : String}
    (hsource : HasText v "source" source) (htarget : HasText v "target" target) :
    edgeVerdict ids index v = .ok () ∧ Joins (· ∈ ids) v ∨
      ∃ k fault, edgeVerdict ids index v = .error fault ∧
        FirstOfEdge (· ∈ ids) index v k fault.message := by
  have htexts : ∀ e : Endpoint, ∃ name, HasText v e.word name := by
    intro e
    cases e with
    | source => exact ⟨source, hsource⟩
    | target => exact ⟨target, htarget⟩
  have hlabel := edgeNamed_text index v
  have hverdict : edgeVerdict ids index v =
      checkEdge ids index ⟨((v.field? "id").bind Json.string?).getD "", source, target⟩ := by
    simp only [edgeVerdict, readEdge, string?_eq_some_iff.mpr hsource,
      string?_eq_some_iff.mpr htarget]
  rw [hverdict]
  -- From here on the identifier matters only through the label.
  generalize ((v.field? "id").bind Json.string?).getD "" = id at hlabel ⊢
  by_cases hsourceId : source ∈ ids
  · by_cases htargetId : target ∈ ids
    · refine .inl ⟨checkEdge_eq_ok_iff.mpr ⟨hsourceId, htargetId⟩, fun e => ?_⟩
      cases e with
      | source => exact ⟨source, hsource, hsourceId⟩
      | target => exact ⟨target, htarget, htargetId⟩
    · refine .inr ⟨3, .unknownNode .target ⟨index, id⟩ target, ?_,
        .noNode (e := .target) htarget hlabel htargetId, fun k' reason' h => ?_⟩
      · simp [checkEdge, hsourceId, htargetId]
      · have htwo := two_le_of_edgeFault htexts h
        cases h with
        | @noText e => cases e <;> simp [Endpoint.rank] at htwo
        | @noNode e _ name hname _ hunknown =>
          cases e with
          | source => exact absurd (hsource.eq hname ▸ hsourceId) hunknown
          | target => exact le_rfl
  · refine .inr ⟨2, .unknownNode .source ⟨index, id⟩ source, ?_,
      .noNode (e := .source) hsource hlabel hsourceId, fun k' reason' h => ?_⟩
    · simp [checkEdge, hsourceId]
    · exact two_le_of_edgeFault htexts h

/-- An edge passes if it joins two nodes; otherwise its first fault is found. -/
theorem edgeVerdict_cases (ids : List String) (index : Nat) (v : Json) :
    edgeVerdict ids index v = .ok () ∧ Joins (· ∈ ids) v ∨
      ∃ k fault, edgeVerdict ids index v = .error fault ∧
        FirstOfEdge (· ∈ ids) index v k fault.message := by
  cases hsource : (v.field? "source").bind Json.string? with
  | none =>
    have hnone := string?_eq_none_iff.mp hsource
    refine .inr ⟨0, .edgeWithout .source index, ?_, .noText (e := .source) hnone, ?_⟩
    · simp only [edgeVerdict, readEdge, hsource]
    · exact fun k' _ _ => Nat.zero_le k'
  | some source =>
    have hsourceText := string?_eq_some_iff.mp hsource
    cases htarget : (v.field? "target").bind Json.string? with
    | none =>
      have hnone := string?_eq_none_iff.mp htarget
      refine .inr ⟨1, .edgeWithout .target index, ?_, .noText (e := .target) hnone, ?_⟩
      · simp only [edgeVerdict, readEdge, hsource, htarget]
      · intro k' reason' h
        cases h with
        | @noText e hother =>
          cases e with
          | source => exact absurd hsourceText (hother source)
          | target => exact le_rfl
        | noNode => omega
    | some target =>
      exact edgeVerdict_of_texts ids index hsourceText (string?_eq_some_iff.mp htarget)

theorem checkEdges_cons (ids : List String) (index : Nat) (v : Json) (rest : List Json) :
    checkEdges readEdge ids index (v :: rest) =
      match edgeVerdict ids index v with
      | .error fault => .error fault
      | .ok () => checkEdges readEdge ids (index + 1) rest := by
  rw [checkEdges, edgeVerdict]
  cases readEdge index v <;> rfl

/-- The check of edges comes to an end, or it stops at the first edge with a fault. -/
theorem checkEdges_cases (ids : List String) (index : Nat) (items : List Json) :
    checkEdges readEdge ids index items = .ok () ∧ (∀ v ∈ items, Joins (· ∈ ids) v) ∨
      ∃ before v after k fault, items = before ++ v :: after ∧
        (∀ w ∈ before, Joins (· ∈ ids) w) ∧ checkEdges readEdge ids index items = .error fault ∧
        FirstOfEdge (· ∈ ids) (index + before.length) v k fault.message := by
  induction items generalizing index with
  | nil => exact .inl ⟨rfl, by simp⟩
  | cons v rest ih =>
    rw [checkEdges_cons]
    rcases edgeVerdict_cases ids index v with ⟨hok, hjoins⟩ | ⟨k, fault, herror, hfirst⟩
    · rw [hok]
      rcases ih (index + 1) with ⟨hrest, hall⟩ |
        ⟨before, w, after, k, fault, rfl, hbefore, h, hfirst⟩
      · exact .inl ⟨hrest, List.forall_mem_cons.mpr ⟨hjoins, hall⟩⟩
      · refine .inr ⟨v :: before, w, after, k, fault, rfl,
          List.forall_mem_cons.mpr ⟨hjoins, hbefore⟩, h, ?_⟩
        rwa [List.length_cons, Nat.add_comm before.length, ← Nat.add_assoc]
    · rw [herror]
      exact .inr ⟨[], v, rest, k, fault, rfl, by simp, rfl, hfirst⟩

/-! ## Section 5: Values -/

theorem IsGraph.not_hasFault {value : Json} (h : IsGraph value) {rank : List Nat}
    {reason : String} : ¬ HasFault value rank reason := by
  obtain ⟨nodes, hnodes, hids⟩ := h.nodes
  obtain ⟨edges, hedges, hends⟩ := h.edges
  intro hfault
  cases hfault with
  | noNodes hnone => exact hnone nodes hnodes
  | noEdges hnone => exact hnone edges hedges
  | node hv hnone =>
    rw [Json.itemsAt_eq hnodes] at hv
    obtain ⟨-, id, hid⟩ := hids _ (List.mem_of_getElem? hv)
    exact hnone id hid
  | edge hv hfault =>
    rw [Json.itemsAt_eq hedges] at hv
    have hjoins := (hends _ (List.mem_of_getElem? hv)).2
    exact Joins.not_edgeFault hjoins hfault

/-- A fault is the first of a value: no other has a smaller rank. -/
def FirstFault (value : Json) (rank : List Nat) (reason : String) : Prop :=
  HasFault value rank reason ∧ ∀ rank' reason', HasFault value rank' reason' → rank ≤ rank'

theorem rank_le_of_lt {a b : Nat} (h : a < b) (more more' : List Nat) : a :: more ≤ b :: more' :=
  le_of_lt (List.Lex.rel h)

section Arrays

variable {value : Json} {nodes edges : List Json}

/-- What stands before the index of a part that is cut out. -/
theorem mem_of_getElem?_of_lt {α : Type} {before after : List α} {x y : α} {i : Nat}
    (h : (before ++ x :: after)[i]? = some y) (hi : i < before.length) : y ∈ before := by
  rw [List.getElem?_append_left hi] at h
  exact List.mem_of_getElem? h

/-- The first node without an identifier, where both arrays are there. -/
theorem firstFault_of_nodes (hnodes : value.field? "nodes" = some (.array nodes))
    (hedges : value.field? "edges" = some (.array edges)) {before after : List Json} {v : Json}
    (hsplit : nodes = before ++ v :: after) (hbefore : ∀ w ∈ before, ∃ id, HasText w "id" id)
    (hv : ∀ id, ¬ HasText v "id" id) :
    FirstFault value [2, before.length]
      ("node #" ++ toString before.length ++ " has no string `id`") := by
  have hitems : value.itemsAt "nodes" = before ++ v :: after := by
    rw [Json.itemsAt_eq hnodes, hsplit]
  refine ⟨.node (v := v) (by simp [hitems]) hv, fun rank' reason' h => ?_⟩
  cases h with
  | noNodes hnone => exact absurd hnodes (hnone nodes)
  | noEdges hnone => exact absurd hedges (hnone edges)
  | @node i w hw hnone =>
    have hi : before.length ≤ i := by
      by_contra hlt
      rw [hitems] at hw
      obtain ⟨id, hid⟩ := hbefore w (mem_of_getElem?_of_lt hw (Nat.lt_of_not_le hlt))
      exact hnone id hid
    refine List.cons_le_cons 2 ?_
    rcases Nat.eq_or_lt_of_le hi with rfl | hlt
    · exact le_rfl
    · exact rank_le_of_lt hlt [] []
  | edge => exact rank_le_of_lt (by decide) _ _

/-- The first fault of the first edge that has one, where all nodes have identifiers. -/
theorem firstFault_of_edges (hnodes : value.field? "nodes" = some (.array nodes))
    (hedges : value.field? "edges" = some (.array edges))
    (hids : ∀ v ∈ nodes, ∃ id, HasText v "id" id) {before after : List Json} {v : Json}
    (hsplit : edges = before ++ v :: after) (hbefore : ∀ w ∈ before, Joins (IsNodeId value) w)
    {k : Nat} {reason : String} (hfirst : FirstOfEdge (IsNodeId value) before.length v k reason) :
    FirstFault value [3, before.length, k] reason := by
  have hitems : value.itemsAt "edges" = before ++ v :: after := by
    rw [Json.itemsAt_eq hedges, hsplit]
  refine ⟨.edge (v := v) (by simp [hitems]) hfirst.1, fun rank' reason' h => ?_⟩
  cases h with
  | noNodes hnone => exact absurd hnodes (hnone nodes)
  | noEdges hnone => exact absurd hedges (hnone edges)
  | @node i w hw hnone =>
    rw [Json.itemsAt_eq hnodes] at hw
    obtain ⟨id, hid⟩ := hids w (List.mem_of_getElem? hw)
    exact absurd hid (hnone id)
  | @edge i k' w _ hw hfault =>
    rw [hitems] at hw
    have hi : before.length ≤ i := by
      by_contra hlt
      have hjoins := hbefore w (mem_of_getElem?_of_lt hw (Nat.lt_of_not_le hlt))
      exact hjoins.not_edgeFault hfault
    -- Ranks are compared by the index of the edge first, and within one edge by the fault.
    refine List.cons_le_cons 3 ?_
    rcases Nat.eq_or_lt_of_le hi with rfl | hlt
    · obtain rfl : v = w := by simpa using hw
      refine List.cons_le_cons _ ?_
      rcases Nat.eq_or_lt_of_le (hfirst.2 k' reason' hfault) with rfl | hlt
      · exact le_rfl
      · exact rank_le_of_lt hlt [] []
    · exact rank_le_of_lt hlt _ _

/-- With both arrays there, the nodes decide and then the edges. -/
theorem checkJson_of_arrays (hnodes : value.field? "nodes" = some (.array nodes))
    (hedges : value.field? "edges" = some (.array edges)) :
    checkJson value = .ok () ∧ IsGraph value ∨
      ∃ rank fault, checkJson value = .error fault ∧ FirstFault value rank fault.message := by
  unfold checkJson
  rw [array?_eq_some_iff.mpr hnodes, array?_eq_some_iff.mpr hedges]
  dsimp only
  cases hread : readIds 0 nodes with
  | error fault =>
    obtain ⟨before, v, after, hsplit, hbefore, hv, rfl⟩ := exists_split_of_readIds hread
    refine .inr ⟨[2, before.length], .nodeWithoutId (0 + before.length), rfl, ?_⟩
    rw [Nat.zero_add]
    exact firstFault_of_nodes hnodes hedges hsplit hbefore hv
  | ok ids =>
    obtain ⟨hnodeIds, hmem⟩ := mem_ids_of_readIds hread
    -- The names that have been read are those of the nodes, so the edges are judged by these.
    have hisId : (· ∈ ids) = IsNodeId value := by
      funext name
      rw [IsNodeId, Json.itemsAt_eq hnodes, ← hmem]
    have hcases := checkEdges_cases ids 0 edges
    rw [hisId] at hcases
    rcases hcases with ⟨hok, hjoins⟩ | ⟨before, v, after, k, fault, hsplit, hbefore, herror, hfirst⟩
    · refine .inl ⟨hok, isObject_of_field? hnodes, ⟨nodes, hnodes, fun v hv => ?_⟩,
        ⟨edges, hedges, fun v hv => ?_⟩⟩
      · obtain ⟨id, hid⟩ := hnodeIds v hv
        exact ⟨isObject_of_field? hid, id, hid⟩
      · obtain ⟨name, hname, -⟩ := hjoins v hv .source
        exact ⟨isObject_of_field? hname, hjoins v hv⟩
    · rw [Nat.zero_add] at hfirst
      exact .inr ⟨[3, before.length, k], fault, herror,
        firstFault_of_edges hnodes hedges hnodeIds hsplit hbefore hfirst⟩

end Arrays

/-- A value passes if it is a graph; otherwise its first fault is found. -/
theorem checkJson_cases (value : Json) :
    checkJson value = .ok () ∧ IsGraph value ∨
      ∃ rank fault, checkJson value = .error fault ∧ FirstFault value rank fault.message := by
  cases hnodes : (value.field? "nodes").bind Json.array? with
  | none =>
    have hnone : ∀ items, value.field? "nodes" ≠ some (.array items) := by
      intro items h
      rw [array?_eq_some_iff.mpr h] at hnodes
      cases hnodes
    refine .inr ⟨[0], .noNodes, ?_, .noNodes hnone, fun rank' reason' h => ?_⟩
    · simp only [checkJson, hnodes]
    · cases h with
      | noNodes => exact le_rfl
      | noEdges | node | edge => exact rank_le_of_lt (by decide) _ _
  | some nodes =>
    cases hedges : (value.field? "edges").bind Json.array? with
    | none =>
      have hnone : ∀ items, value.field? "edges" ≠ some (.array items) := by
        intro items h
        rw [array?_eq_some_iff.mpr h] at hedges
        cases hedges
      refine .inr ⟨[1], .noEdges, ?_, .noEdges hnone, fun rank' reason' h => ?_⟩
      · simp only [checkJson, hnodes, hedges]
      · cases h with
        | noNodes hother => exact absurd (array?_eq_some_iff.mp hnodes) (hother nodes)
        | noEdges => exact le_rfl
        | node | edge => exact rank_le_of_lt (by decide) _ _
    | some edges =>
      exact checkJson_of_arrays (array?_eq_some_iff.mp hnodes) (array?_eq_some_iff.mp hedges)

/-! ## Section 6: One reason for each rank -/

theorem EdgeNamed.eq {index : Nat} {edge : Json} {a b : String} (ha : EdgeNamed index edge a)
    (hb : EdgeNamed index edge b) : a = b := by
  cases ha with
  | byId hid hne =>
    cases hb with
    | byId hother _ => rw [hid.eq hother]
    | byIndex hempty => exact absurd (hempty _ hid) hne
  | byIndex hempty =>
    cases hb with
    | byId hid hne => exact absurd (hempty _ hid) hne
    | byIndex _ => rfl

theorem Endpoint.rank_lt (e : Endpoint) : e.rank < 2 := by
  cases e <;> decide

theorem Endpoint.eq_of_rank_eq {e e' : Endpoint} (h : e.rank = e'.rank) : e = e' := by
  cases e with
  | source =>
    cases e' with
    | source => rfl
    | target => cases h
  | target =>
    cases e' with
    | source => cases h
    | target => rfl

theorem EdgeFault.reason_eq {isId : String → Prop} {index k k' : Nat} {edge : Json} {a b : String}
    (ha : EdgeFault isId index edge k a) (hb : EdgeFault isId index edge k' b) (hk : k = k') :
    a = b := by
  cases ha with
  | @noText e =>
    have he := e.rank_lt
    cases hb with
    | noText => rw [Endpoint.eq_of_rank_eq hk]
    | noNode => omega
  | @noNode e _ name hname hlabel =>
    cases hb with
    | @noText e' =>
      have he' := e'.rank_lt
      omega
    | @noNode e' _ name' hname' hlabel' =>
      obtain rfl : e = e' := Endpoint.eq_of_rank_eq (by omega)
      rw [hname.eq hname', hlabel.eq hlabel']

theorem HasFault.reason_eq {value : Json} {rank : List Nat} {a b : String}
    (ha : HasFault value rank a) (hb : HasFault value rank b) : a = b := by
  cases ha with
  | noNodes =>
    cases hb
    rfl
  | noEdges =>
    cases hb
    rfl
  | node =>
    cases hb
    rfl
  | edge hv hfault =>
    cases hb with
    | edge hw hother =>
      obtain rfl := Option.some.inj (hv.symm.trans hw)
      exact hfault.reason_eq hother rfl

theorem FirstFault.reason_eq {value : Json} {rank rank' : List Nat} {a b : String}
    (ha : FirstFault value rank a) (hb : FirstFault value rank' b) : a = b := by
  obtain rfl : rank = rank' := le_antisymm (ha.2 rank' b hb.1) (hb.2 rank a ha.1)
  exact ha.1.reason_eq hb.1

/-- **Validation explains the first fault.** A value passes without an event exactly if it is a
    graph. Otherwise it fails with one event, and a reason is the one given exactly if it is
    that of the first fault. -/
theorem validateJson_first_fault (value : Json) :
    (validateJson value = ([], true) ↔ IsGraph value) ∧
    (¬ IsGraph value → ∃ reason, validateJson value = ([.validationFailed reason], false)) ∧
    ∀ reason, validateJson value = ([.validationFailed reason], false) ↔
      ∃ rank, FirstFault value rank reason := by
  rcases checkJson_cases value with ⟨hok, hgraph⟩ | ⟨rank, fault, herror, hfirst⟩
  · have hverdict : validateJson value = ([], true) := by rw [validateJson, hok, verdict]
    refine ⟨iff_of_true hverdict hgraph, fun hnot => absurd hgraph hnot, fun reason => ?_⟩
    rw [hverdict]
    refine iff_of_false (by simp) ?_
    rintro ⟨rank, hfirst⟩
    exact hgraph.not_hasFault hfirst.1
  · have hverdict : validateJson value = ([.validationFailed fault.message], false) := by
      rw [validateJson, herror, verdict]
    have hnot : ¬ IsGraph value := fun hgraph => hgraph.not_hasFault hfirst.1
    refine ⟨iff_of_false (by simp [hverdict]) hnot, fun _ => ⟨fault.message, hverdict⟩,
      fun reason => ?_⟩
    rw [hverdict]
    constructor
    · intro h
      obtain rfl : fault.message = reason := by simpa using h
      exact ⟨rank, hfirst⟩
    · rintro ⟨rank', hother⟩
      rw [hfirst.reason_eq hother]

/-- An edge with a name and without ends. -/
def looseEdge : Json :=
  .object [("id", .string "e1")]

def looseGraph : Json :=
  .object [("nodes", .array []), ("edges", .array [looseEdge])]

/-- **A missing end goes by the index.** The reason for which a graph fails need not give the name
    of the edge at fault, even where the edge has one. -/
theorem loose_edge_goes_by_index :
    EdgeNamed 0 looseEdge "`e1`" ∧
    validateJson looseGraph = ([.validationFailed "edge #0 has no string `source`"], false) ∧
    ¬ ∀ label, EdgeNamed 0 looseEdge label →
      validateJson looseGraph =
        ([.validationFailed ("edge " ++ label ++ " has no string `source`")], false) := by
  have hid : HasText looseEdge "id" "e1" := rfl
  have hnamed : EdgeNamed 0 looseEdge "`e1`" := .byId hid (by decide)
  have hverdict : validateJson looseGraph =
      ([.validationFailed "edge #0 has no string `source`"], false) := by
    decide +kernel
  refine ⟨hnamed, hverdict, fun h => ?_⟩
  have hlabelled := h "`e1`" hnamed
  rw [hverdict] at hlabelled
  revert hlabelled
  decide +kernel

end CallAtlas.Present
