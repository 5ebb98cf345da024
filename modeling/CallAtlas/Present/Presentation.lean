import CallAtlas.Graph.Layout

/-! # Presentation graphs

    A dataset made ready for drawing: nodes with a position and their code, and edges with an
    identifier. Calls to names that are not functions are left out, or lead to placeholders.
-/

namespace CallAtlas.Present

open CallAtlas.Extract
open CallAtlas.Graph

/-! ## Section 1: Options -/

/-- What becomes of a call to a name that is not a function. -/
inductive DanglingPolicy where
  /-- It is left out. -/
  | leaveOut
  /-- It is kept, and the name becomes a node without code. -/
  | placeholder
  deriving DecidableEq, Inhabited

namespace DanglingPolicy

def words : List (String × DanglingPolicy) := [("drop", .leaveOut), ("placeholder", .placeholder)]

/-- The word for a policy. -/
def word : DanglingPolicy → String
  | leaveOut => "drop"
  | placeholder => "placeholder"

end DanglingPolicy

structure Options where
  dangling : DanglingPolicy
  layout : LayoutOptions Float
  deriving Inhabited

namespace Options

def default : Options := ⟨.leaveOut, .default⟩

def ofJson? (value : Json) : Option Options :=
  match value.parts? ["dangling", "layout"] with
  | some [dangling, layout] => do
    return ⟨← Json.orDefault default.dangling (Json.choice? DanglingPolicy.words) dangling,
      ← Json.orDefault default.layout LayoutOptions.ofJson? layout⟩
  | _ => none

end Options

/-! ## Section 2: Presentation graphs and their JSON form -/

structure PresentationNode where
  id : String
  label : String
  code : String
  position : Position Float
  deriving Inhabited

structure PresentationEdge where
  id : String
  source : String
  target : String
  deriving DecidableEq, Inhabited

structure PresentationGraph where
  nodes : List PresentationNode
  edges : List PresentationEdge
  deriving Inhabited

namespace PresentationNode

def toJson (n : PresentationNode) : Json :=
  .object [("id", .string n.id),
    ("data", .object [("label", .string n.label), ("code", .string n.code)]),
    ("position", .object [("x", .number (.float n.position.x)),
      ("y", .number (.float n.position.y))])]

def ofJson? (value : Json) : Option PresentationNode :=
  match value.parts? ["id", "data", "position"] with
  | some [id, some data, some position] =>
    match data.parts? ["label", "code"], position.parts? ["x", "y"] with
    | some [label, code], some [x, y] => do
      return ⟨← Json.required Json.string? id, ← Json.required Json.string? label,
        ← Json.required Json.string? code,
        ⟨← Json.required Json.float? x, ← Json.required Json.float? y⟩⟩
    | _, _ => none
  | _ => none

end PresentationNode

namespace PresentationEdge

def toJson (e : PresentationEdge) : Json :=
  .object [("id", .string e.id), ("source", .string e.source), ("target", .string e.target)]

def ofJson? (value : Json) : Option PresentationEdge :=
  match value.parts? ["id", "source", "target"] with
  | some [id, source, target] => do
    return ⟨← Json.required Json.string? id, ← Json.required Json.string? source,
      ← Json.required Json.string? target⟩
  | _ => none

end PresentationEdge

namespace PresentationGraph

def toJson (g : PresentationGraph) : Json :=
  .object [("nodes", .array (g.nodes.map (·.toJson))), ("edges", .array (g.edges.map (·.toJson)))]

def ofJson? (value : Json) : Option PresentationGraph :=
  match value.parts? ["nodes", "edges"] with
  | some [nodes, edges] => do
    return ⟨← Json.required (Json.list? PresentationNode.ofJson?) nodes,
      ← Json.required (Json.list? PresentationEdge.ofJson?) edges⟩
  | _ => none

end PresentationGraph

/-! ## Section 3: Presenting a dataset -/

/-- Whether a call of a dataset is shown. -/
def keeps (policy : DanglingPolicy) (d : Dataset) (e : CallEdge) : Bool :=
  d.contains e.callee || policy == .placeholder

/-- The call graph that is drawn: all functions and the calls that are shown. -/
def drawnGraph (policy : DanglingPolicy) (d : Dataset) : CallGraph :=
  let functions := d.functions.foldl
    (fun g name => (g.addFunction name ((d.codeOf? name).getD "")).1) CallGraph.empty
  d.calls.foldl (fun g e => if keeps policy d e then g.addCall e.caller e.callee else g) functions

/-- The nodes and calls of the graph that is drawn; a node without a position is shown at the
    origin. -/
def present (options : Options) (d : Dataset) : PresentationGraph :=
  let g := drawnGraph options.dangling d
  let positions := g.layout options.layout
  { nodes := g.nodes.mapIdx fun i n =>
      ⟨n.name, n.name, n.code.getD "", positions.getD i ⟨0, 0⟩⟩
    edges := (d.calls.filter (keeps options.dangling d)).mapIdx fun i e =>
      ⟨"e" ++ toString (i + 1), e.caller, e.callee⟩ }

end CallAtlas.Present
