import CallAtlas.Graph.Rank
import CallAtlas.Json.Record

/-! # Layout

    Positions for the nodes of a call graph: one row for each rank, from top to bottom, the
    nodes of a row from left to right in order, and every row centred on the widest. The
    formulas are the same over any numbers; drawings use doubles.
-/

namespace CallAtlas.Graph

/-! ## Section 1: Numbers and options -/

/-- Numbers to measure a drawing in. -/
class Measure (α : Type) extends Add α, Mul α, Div α where
  ofNat : Nat → α

instance : Measure Float where
  ofNat := Nat.toFloat

structure LayoutOptions (α : Type) where
  nodeWidth : α
  nodeHeight : α
  /-- Between neighbours in a row. -/
  nodeGap : α
  /-- Between rows. -/
  rankGap : α
  deriving Inhabited

namespace LayoutOptions

def default : LayoutOptions Float := ⟨172, 36, 50, 50⟩

def ofJson? (value : Json) : Option (LayoutOptions Float) :=
  match value.parts? ["node_width", "node_height", "node_sep", "rank_sep"] with
  | some [nodeWidth, nodeHeight, nodeGap, rankGap] => do
    return ⟨← Json.orDefault default.nodeWidth Json.float? nodeWidth,
      ← Json.orDefault default.nodeHeight Json.float? nodeHeight,
      ← Json.orDefault default.nodeGap Json.float? nodeGap,
      ← Json.orDefault default.rankGap Json.float? rankGap⟩
  | _ => none

end LayoutOptions

/-- The centre of a node. -/
structure Position (α : Type) where
  x : α
  y : α
  deriving Inhabited

/-! ## Section 2: Rows and slots -/

/-- Puts a node at the end of the row of its rank. Rows that are missing up to it are added. -/
def place (rows : List (List Nat)) (rank node : Nat) : List (List Nat) :=
  (rows ++ List.replicate (rank + 1 - rows.length) []).modify rank (· ++ [node])

/-- The nodes of each rank: they are placed one after the other. -/
def rowsOf (ranks : List Nat) : List (List Nat) :=
  ranks.zipIdx.foldl (fun rows (rank, node) => place rows rank node) []

/-- The same from a table of ranks: of some nodes, those are placed that have a rank, and the
    others are left out. -/
def rowsFrom (ranks : Std.HashMap Nat Nat) (nodes : List Nat) : List (List Nat) :=
  nodes.foldl (fun rows node =>
    match ranks[node]? with
    | some rank => place rows rank node
    | none => rows) []

/-- The length of the longest row. -/
def widest (rows : List (List Nat)) : Nat := rows.foldl (fun n row => max n row.length) 0

/-- Where a node stands: its row, its place in the row, and the length of the row. -/
structure Slot where
  row : Nat
  column : Nat
  rowLength : Nat
  deriving DecidableEq, Inhabited

/-- Where a node stands in some rows; none if it is in none of them. -/
def slotIn? (rows : List (List Nat)) (node : Nat) : Option Slot :=
  (rows.findIdx? (·.contains node)).map fun row =>
    let nodes := rows.getD row []
    ⟨row, nodes.idxOf node, nodes.length⟩

/-- The slot of every node; the first slot for one that is in no row. -/
def slotsOf (ranks : List Nat) : List Slot :=
  let rows := rowsOf ranks
  (List.range ranks.length).map fun node => (slotIn? rows node).getD default

/-! ## Section 3: Positions -/

variable {α : Type} [Measure α]

/-- The position of a slot, given the length of the longest row. -/
def Slot.position (options : LayoutOptions α) (widest : Nat) (s : Slot) : Position α :=
  let stepX := options.nodeWidth + options.nodeGap
  let stepY := options.nodeHeight + options.rankGap
  let two := Measure.ofNat 2
  let offset := Measure.ofNat (widest - s.rowLength) * stepX / two
  { x := offset + Measure.ofNat s.column * stepX + options.nodeWidth / two
    y := Measure.ofNat s.row * stepY + options.nodeHeight / two }

/-- The position of every node. -/
def CallGraph.layout (g : CallGraph) (options : LayoutOptions α) : List (Position α) :=
  let ranks := g.ranks
  (slotsOf ranks).map (Slot.position options (widest (rowsOf ranks)))

/-- The positions by the table of ranks, for the nodes of the index that have one. -/
def CallGraph.positions? (g : CallGraph) (options : LayoutOptions α) :
    Option (Nat → Option (Position α)) := do
  let rows := rowsFrom (← g.rankTable?) (g.index.entries.map (·.2))
  return fun node => (slotIn? rows node).map (Slot.position options (widest rows))

end CallAtlas.Graph
