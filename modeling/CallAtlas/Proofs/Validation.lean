import CallAtlas.Present.Validation
import Mathlib.Data.List.Forall2

/-! # Two ways to validate

    A presentation graph is checked as it is, or in a JSON value. The check of a value reads
    identifiers and ends of edges one by one while it goes, and may end early at a part that
    is not there. Where a value shows a graph, in the sense of `Shows`, all of these are
    there, so both checks see the same identifiers and the same edges and end alike.
-/

namespace CallAtlas.Json

/-! ## Section 1: Records and lists -/

def isObject : Json → Bool
  | object _ => true
  | _ => false

/-- In an object the parts of a record are the fields of these names. -/
theorem parts?_of_isObject {value : Json} (h : value.isObject) (names : List String) :
    value.parts? names = some (names.map fun name => value.field? name) := by
  cases value with
  | object fields => rfl
  | _ => cases h

/-- The items of the array that a field holds. -/
def itemsAt (value : Json) (key : String) : List Json := ((value.field? key).bind array?).getD []

theorem itemsAt_eq {value : Json} {key : String} {items : List Json}
    (h : value.field? key = some (.array items)) : value.itemsAt key = items := by
  rw [itemsAt, h]
  rfl

theorem required_eq_some_iff {α : Type} {read : Json → Option α} {part : Option Json} {x : α} :
    required read part = some x ↔ part.bind read = some x := by
  cases part <;> rfl

/-- A list is read if its items are read one by one. -/
theorem forall₂_of_mapM {α : Type} {read : Json → Option α} {items : List Json} {xs : List α}
    (h : items.mapM read = some xs) : List.Forall₂ (fun v x => read v = some x) items xs := by
  induction items generalizing xs with
  | nil =>
    obtain rfl : [] = xs := by simpa using h
    exact .nil
  | cons v items ih =>
    rw [List.mapM_cons] at h
    obtain ⟨x, hx, h⟩ := Option.bind_eq_some_iff.mp h
    obtain ⟨rest, hrest, h⟩ := Option.bind_eq_some_iff.mp h
    obtain rfl : x :: rest = xs := Option.some.inj h
    exact .cons hx (ih hrest)

theorem exists_items_of_required_list? {α : Type} {read : Json → Option α} {part : Option Json}
    {xs : List α} (h : required (list? read) part = some xs) :
    ∃ items, part = some (.array items) ∧
      List.Forall₂ (fun v x => read v = some x) items xs := by
  obtain ⟨value, rfl, hvalue⟩ := Option.bind_eq_some_iff.mp (required_eq_some_iff.mp h)
  cases value with
  | array items => exact ⟨items, rfl, forall₂_of_mapM hvalue⟩
  | _ => cases hvalue

end CallAtlas.Json

namespace CallAtlas.Present

open CallAtlas.Extract

/-! ## Section 2: Values that show a graph -/

/-- A field of a value is a string. -/
def HasText (value : Json) (key text : String) : Prop := value.field? key = some (.string text)

/-- What a check reads of a node. -/
def ShowsNode (value : Json) (n : PresentationNode) : Prop := HasText value "id" n.id

/-- What a check reads of an edge. -/
structure ShowsEdge (value : Json) (e : PresentationEdge) : Prop where
  id : HasText value "id" e.id
  source : HasText value "source" e.source
  target : HasText value "target" e.target

/-- A value shows all of a graph that a check reads, in order. -/
structure Shows (value : Json) (g : PresentationGraph) : Prop where
  nodes : ∃ items, value.field? "nodes" = some (.array items) ∧
    List.Forall₂ ShowsNode items g.nodes
  edges : ∃ items, value.field? "edges" = some (.array items) ∧
    List.Forall₂ ShowsEdge items g.edges

theorem readIds_of_shows {items : List Json} {nodes : List PresentationNode}
    (h : List.Forall₂ ShowsNode items nodes) (index : Nat) :
    readIds index items = .ok (nodes.map (·.id)) := by
  induction h generalizing index with
  | nil => rfl
  | @cons v n items nodes hnode hrest ih =>
    have hid : (v.field? "id").bind Json.string? = some n.id := by
      rw [show v.field? "id" = _ from hnode]
      rfl
    simp only [readIds, hid, ih (index + 1)]
    rfl

theorem readEdge_of_shows {value : Json} {e : PresentationEdge} (h : ShowsEdge value e)
    (index : Nat) : readEdge index value = .ok e := by
  obtain ⟨hid, hsource, htarget⟩ := h
  simp only [HasText] at hid hsource htarget
  simp only [readEdge, hid, hsource, htarget, Option.bind_some, Json.string?, Option.getD_some]

/-- Edges that are read while they are checked give the fault that they give as they are. -/
theorem checkEdges_of_shows {items : List Json} {edges : List PresentationEdge}
    (h : List.Forall₂ ShowsEdge items edges) (ids : List String) (index : Nat) :
    checkEdges readEdge ids index items = checkEdges (fun _ e => .ok e) ids index edges := by
  induction h generalizing index with
  | nil => rfl
  | @cons v e items edges hedge hrest ih =>
    simp only [checkEdges, readEdge_of_shows hedge]
    cases checkEdge ids index e with
    | error fault => rfl
    | ok passed => exact ih (index + 1)

theorem checkJson_of_shows {value : Json} {g : PresentationGraph} (h : Shows value g) :
    checkJson value = g.check := by
  obtain ⟨nodes, hnodes, hids⟩ := h.nodes
  obtain ⟨edges, hedges, hends⟩ := h.edges
  simp only [checkJson, hnodes, hedges, Option.bind_some, Json.array?, readIds_of_shows hids,
    checkEdges_of_shows hends]
  rfl

/-! ## Section 3: Which values show a graph -/

/-- The JSON form of a graph shows it. -/
theorem shows_toJson (g : PresentationGraph) : Shows g.toJson g where
  nodes := by
    refine ⟨_, rfl, List.forall₂_map_left_iff.mpr (List.forall₂_same.mpr ?_)⟩
    intro n _
    rfl
  edges := by
    refine ⟨_, rfl, List.forall₂_map_left_iff.mpr (List.forall₂_same.mpr ?_)⟩
    intro e _
    exact ⟨rfl, rfl, rfl⟩

/-- The graph, its nodes and its edges are written as objects. Fields that no record has may
    stand in them. -/
structure WrittenAsObjects (value : Json) : Prop where
  graph : value.isObject
  nodes : ∀ v ∈ value.itemsAt "nodes", v.isObject
  edges : ∀ v ∈ value.itemsAt "edges", v.isObject

theorem hasText_of_required {value : Json} {key text : String}
    (h : Json.required Json.string? (value.field? key) = some text) : HasText value key text := by
  obtain ⟨part, hpart, htext⟩ := Option.bind_eq_some_iff.mp (Json.required_eq_some_iff.mp h)
  cases part with
  | string s =>
    obtain rfl : s = text := Option.some.inj htext
    exact hpart
  | _ => cases htext

theorem showsNode_of_ofJson? {value : Json} {n : PresentationNode} (hobject : value.isObject)
    (h : PresentationNode.ofJson? value = some n) : ShowsNode value n := by
  rw [PresentationNode.ofJson?, Json.parts?_of_isObject hobject] at h
  simp only [List.map_cons, List.map_nil] at h
  split at h
  · next id data position hparts =>
    split at h
    · obtain ⟨text, htext, h⟩ := Option.bind_eq_some_iff.mp h
      simp only [Option.bind_eq_bind, Option.bind_eq_some_iff] at h
      obtain ⟨_, -, _, -, _, -, _, -, h⟩ := h
      obtain rfl := Option.some.inj h
      obtain ⟨rfl, -⟩ : value.field? "id" = id ∧ _ := by simpa using hparts
      exact hasText_of_required htext
    · cases h
  · cases h

theorem showsEdge_of_ofJson? {value : Json} {e : PresentationEdge} (hobject : value.isObject)
    (h : PresentationEdge.ofJson? value = some e) : ShowsEdge value e := by
  rw [PresentationEdge.ofJson?, Json.parts?_of_isObject hobject] at h
  obtain ⟨id, hid, h⟩ := Option.bind_eq_some_iff.mp h
  obtain ⟨source, hsource, h⟩ := Option.bind_eq_some_iff.mp h
  obtain ⟨target, htarget, h⟩ := Option.bind_eq_some_iff.mp h
  obtain rfl := Option.some.inj h
  exact ⟨hasText_of_required hid, hasText_of_required hsource, hasText_of_required htarget⟩

/-- A value that is read as a graph shows it, if records are written as objects. -/
theorem shows_of_ofJson? {value : Json} {g : PresentationGraph} (hobjects : WrittenAsObjects value)
    (h : PresentationGraph.ofJson? value = some g) : Shows value g := by
  rw [PresentationGraph.ofJson?, Json.parts?_of_isObject hobjects.graph] at h
  obtain ⟨nodes, hnodes, h⟩ := Option.bind_eq_some_iff.mp h
  obtain ⟨edges, hedges, h⟩ := Option.bind_eq_some_iff.mp h
  obtain rfl := Option.some.inj h
  obtain ⟨nodeItems, hnodeItems, hnodes⟩ := Json.exists_items_of_required_list? hnodes
  obtain ⟨edgeItems, hedgeItems, hedges⟩ := Json.exists_items_of_required_list? hedges
  refine ⟨⟨nodeItems, hnodeItems, ?_⟩, ⟨edgeItems, hedgeItems, ?_⟩⟩
  · have hboth := (List.forall₂_and_left _ _).mpr
      ⟨Json.itemsAt_eq hnodeItems ▸ hobjects.nodes, hnodes⟩
    exact hboth.imp fun v n h => showsNode_of_ofJson? h.1 h.2
  · have hboth := (List.forall₂_and_left _ _).mpr
      ⟨Json.itemsAt_eq hedgeItems ▸ hobjects.edges, hedges⟩
    exact hboth.imp fun v e h => showsEdge_of_ofJson? h.1 h.2

/-! ## Section 4: Verdicts -/

/-- **Agreement.** The verdict on a graph is the verdict on its JSON form, with the same
    events. It is also the verdict on any JSON value that is read as the graph and writes the
    records as objects. -/
theorem validateJson_agrees :
    (∀ g : PresentationGraph, validateJson g.toJson = g.validate) ∧
    ∀ (value : Json) (g : PresentationGraph), PresentationGraph.ofJson? value = some g →
      WrittenAsObjects value → validateJson value = g.validate := by
  have hverdict : ∀ (value : Json) (g : PresentationGraph), Shows value g →
      validateJson value = g.validate := by
    intro value g h
    rw [validateJson, checkJson_of_shows h]
    rfl
  refine ⟨fun g => hverdict g.toJson g (shows_toJson g), ?_⟩
  intro value g hread hobjects
  exact hverdict value g (shows_of_ofJson? hobjects hread)

/-- A graph that is written as an array is read, but a check of it finds no nodes. -/
example : PresentationGraph.ofJson? (.array [.array [], .array []]) = some ⟨[], []⟩ ∧
    validateJson (.array [.array [], .array []]) =
      ([.validationFailed "`nodes` is missing or not an array"], false) := by
  exact ⟨rfl, by decide +kernel⟩

/-- A node `a`, with a colour that no record has. -/
def markedNode : Json :=
  .object [("colour", .string "red"), ("id", .string "a"),
    ("data", .object [("label", .string "a"), ("code", .string "")]),
    ("position", .object [("x", .number (.natural 0)), ("y", .number (.natural 0))])]

/-- The node twice, an edge from it to itself, and one without a name from it to `z`. -/
def markedGraph : Json :=
  .object [("edges", .array [
      .object [("id", .string "e1"), ("source", .string "a"), ("target", .string "a")],
      .object [("id", .string ""), ("source", .string "a"), ("target", .string "z")]]),
    ("nodes", .array [markedNode, markedNode])]

/-- Both checks refuse the second edge, by its index. -/
theorem validateJson_agrees_marked : ∃ g, PresentationGraph.ofJson? markedGraph = some g ∧
    WrittenAsObjects markedGraph ∧ validateJson markedGraph = g.validate ∧
    g.validate = ([.validationFailed "edge #1 target `z` is not a node id"], false) := by
  obtain ⟨g, hread⟩ : ∃ g, PresentationGraph.ofJson? markedGraph = some g := ⟨_, rfl⟩
  have hobjects : WrittenAsObjects markedGraph := ⟨rfl, by decide, by decide⟩
  have hagrees := validateJson_agrees.2 markedGraph g hread hobjects
  refine ⟨g, hread, hobjects, hagrees, ?_⟩
  rw [← hagrees]
  decide +kernel

end CallAtlas.Present
