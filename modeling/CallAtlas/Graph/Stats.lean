import CallAtlas.Graph.Recursion

/-! # Statistics

    Counts of functions and calls, where the calls start and end, and the recursion of a
    dataset.
-/

namespace CallAtlas.Graph

open CallAtlas.Extract

structure Stats where
  functions : Nat
  calls : Nat
  /-- Names that are called or call and are not functions. -/
  unresolved : Nat
  /-- Calls to such names. -/
  dangling : Nat
  /-- Functions that no other name calls. -/
  roots : List String
  /-- Functions that call nothing. -/
  leaves : List String
  recursiveGroups : List (List String)
  deriving DecidableEq, Inhabited

namespace CallGraph

/-- Whether a name is called by some other name. -/
def isCalledByOther (g : CallGraph) (name : String) : Bool :=
  match g.indexOf? name with
  | none => false
  | some i => g.calls.any fun (a, b) => b == i && a != i

/-- Whether a name calls any name. -/
def callsAny (g : CallGraph) (name : String) : Bool :=
  match g.indexOf? name with
  | none => false
  | some i => g.calls.any fun (a, _) => a == i

end CallGraph

namespace Stats

def ofDataset (d : Dataset) : Stats :=
  let g := CallGraph.ofDataset d
  { functions := d.functions.length
    calls := d.calls.length
    unresolved := g.unresolvedCount
    dangling := d.dangling.length
    roots := d.functions.filter fun name => !g.isCalledByOther name
    leaves := d.functions.filter fun name => !g.callsAny name
    recursiveGroups := g.recursiveNames }

def toJson (s : Stats) : Json :=
  .object [("functions", .number (.natural s.functions)),
    ("call_edges", .number (.natural s.calls)),
    ("unresolved_callees", .number (.natural s.unresolved)),
    ("dangling_edges", .number (.natural s.dangling)),
    ("roots", .array (s.roots.map .string)),
    ("leaves", .array (s.leaves.map .string)),
    ("recursive_groups", .array (s.recursiveGroups.map fun group => .array (group.map .string)))]

end Stats

end CallAtlas.Graph
