import CallAtlas.Extract.Event
import CallAtlas.Present.Presentation

/-! # Validation

    A presentation graph is sound if every edge leads from a node to a node. Both a graph and
    any JSON value can be checked; the first fault is reported.
-/

namespace CallAtlas.Present

open CallAtlas.Extract

/-! ## Section 1: Faults -/

/-- One of the two ends of an edge. -/
inductive Endpoint where
  | source
  | target
  deriving DecidableEq, Inhabited

def Endpoint.word : Endpoint → String
  | source => "source"
  | target => "target"

/-- How a fault refers to an edge: by its identifier, or by its index if that is empty. -/
structure EdgeLabel where
  index : Nat
  id : String
  deriving DecidableEq, Inhabited

def EdgeLabel.text (l : EdgeLabel) : String :=
  if l.id.isEmpty then "#" ++ toString l.index else "`" ++ l.id ++ "`"

/-- Why a graph is not sound. -/
inductive GraphFault where
  | noNodes
  | noEdges
  | nodeWithoutId (index : Nat)
  | edgeWithout (e : Endpoint) (index : Nat)
  | unknownNode (e : Endpoint) (label : EdgeLabel) (name : String)
  deriving DecidableEq, Inhabited

def GraphFault.message : GraphFault → String
  | noNodes => "`nodes` is missing or not an array"
  | noEdges => "`edges` is missing or not an array"
  | nodeWithoutId i => "node #" ++ toString i ++ " has no string `id`"
  | edgeWithout e i => "edge #" ++ toString i ++ " has no string `" ++ e.word ++ "`"
  | unknownNode e label name =>
    "edge " ++ label.text ++ " " ++ e.word ++ " `" ++ name ++ "` is not a node id"

/-! ## Section 2: References -/

/-- Checks that both ends of an edge are among the identifiers. -/
def checkEdge (ids : List String) (index : Nat) (e : PresentationEdge) : Except GraphFault Unit :=
  let label : EdgeLabel := ⟨index, e.id⟩
  if !ids.contains e.source then .error (.unknownNode .source label e.source)
  else if !ids.contains e.target then .error (.unknownNode .target label e.target)
  else .ok ()

/-- Checks edges in turn, each once it has been read, from a given index on. -/
def checkEdges {ε : Type} (read : Nat → ε → Except GraphFault PresentationEdge)
    (ids : List String) : Nat → List ε → Except GraphFault Unit
  | _, [] => .ok ()
  | index, e :: rest =>
    match read index e with
    | .error fault => .error fault
    | .ok edge =>
      match checkEdge ids index edge with
      | .error fault => .error fault
      | .ok () => checkEdges read ids (index + 1) rest

namespace PresentationGraph

/-- Checks a graph. -/
def check (g : PresentationGraph) : Except GraphFault Unit :=
  checkEdges (fun _ e => .ok e) (g.nodes.map (·.id)) 0 g.edges

end PresentationGraph

/-! ## Section 3: JSON values -/

/-- The identifiers of nodes, from a given index on. -/
def readIds : Nat → List Json → Except GraphFault (List String)
  | _, [] => .ok []
  | index, n :: rest =>
    match (n.field? "id").bind Json.string? with
    | none => .error (.nodeWithoutId index)
    | some id => (readIds (index + 1) rest).map (id :: ·)

/-- The ends and the identifier of an edge; an identifier that is no string counts as empty. -/
def readEdge (index : Nat) (value : Json) : Except GraphFault PresentationEdge :=
  match (value.field? "source").bind Json.string? with
  | none => .error (.edgeWithout .source index)
  | some source =>
    match (value.field? "target").bind Json.string? with
    | none => .error (.edgeWithout .target index)
    | some target => .ok ⟨((value.field? "id").bind Json.string?).getD "", source, target⟩

/-- Checks any JSON value. -/
def checkJson (value : Json) : Except GraphFault Unit :=
  match (value.field? "nodes").bind Json.array? with
  | none => .error .noNodes
  | some nodes =>
    match (value.field? "edges").bind Json.array? with
    | none => .error .noEdges
    | some edges =>
      match readIds 0 nodes with
      | .error fault => .error fault
      | .ok ids => checkEdges readEdge ids 0 edges

/-! ## Section 4: Verdicts -/

/-- The events and the verdict that a check leads to. -/
def verdict : Except GraphFault Unit → List Event × Bool
  | .ok () => ([], true)
  | .error fault => ([.validationFailed fault.message], false)

def PresentationGraph.validate (g : PresentationGraph) : List Event × Bool := verdict g.check

def validateJson (value : Json) : List Event × Bool := verdict (checkJson value)

end CallAtlas.Present
