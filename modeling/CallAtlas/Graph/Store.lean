import CallAtlas.Extract.Dataset

/-! # Stores of names and calls

    The data of a call graph: numbered nodes, the calls between them, and beside the nodes an
    index by which names are looked up. The index keeps names in the order in which they were
    entered, each with the number of a node. Nodes and index are two structures; whatever adds
    a node enters its name as well.
-/

namespace CallAtlas.Graph

open CallAtlas.Extract

/-- A name in a call graph, with its code if it is a function. -/
structure Node where
  name : String
  code : Option String
  deriving DecidableEq, Inhabited

namespace Node

def isFunction (n : Node) : Bool := n.code.isSome

end Node

/-! ## Section 1: The index -/

/-- Names with numbers, in the order in which they were entered. -/
structure NameIndex where
  entries : List (String × Nat)
  deriving DecidableEq, Inhabited

namespace NameIndex

def empty : NameIndex := ⟨[]⟩

def names (x : NameIndex) : List String := x.entries.map Prod.fst

/-- The number that is entered for a name. -/
def get? (x : NameIndex) (name : String) : Option Nat := x.entries.lookup name

/-- The place of a name in the order of entry. -/
def placeOf? (x : NameIndex) (name : String) : Option Nat := x.names.idxOf? name

/-- Enters a number for a name. A name that is there keeps its place. -/
def insert (x : NameIndex) (name : String) (i : Nat) : NameIndex :=
  if name ∈ x.names then ⟨x.entries.map fun e => if e.1 = name then (name, i) else e⟩
  else ⟨x.entries ++ [(name, i)]⟩

end NameIndex

/-! ## Section 2: Building -/

/-- Nodes and calls, with an index of the names of the nodes. -/
structure Store where
  nodes : List Node
  /-- Caller and callee of each call. -/
  calls : List (Nat × Nat)
  index : NameIndex
  deriving DecidableEq, Inhabited

/-- One step of building a graph. -/
inductive Step where
  | function (name code : String)
  | call (caller callee : String)
  deriving DecidableEq, Inhabited

namespace Store

def empty : Store := ⟨[], [], .empty⟩

/-- The number of a name. -/
def indexOf? (s : Store) (name : String) : Option Nat := s.index.get? name

/-- Adds a node with the next number and enters its name. -/
def addNode (s : Store) (n : Node) : Store × Nat :=
  ({ s with nodes := s.nodes ++ [n], index := s.index.insert n.name s.nodes.length },
    s.nodes.length)

/-- Mentions a node: a name that is known keeps its number and its kind. Returns the number. -/
def mention (s : Store) (n : Node) : Store × Nat :=
  match s.indexOf? n.name with
  | some i => (s, i)
  | none => s.addNode n

/-- Adds a function, unless the name is known. Returns the number of the name. -/
def addFunction (s : Store) (name code : String) : Store × Nat := s.mention ⟨name, some code⟩

/-- Adds a call. Names that are not known become unresolved, the caller before the callee. -/
def addCall (s : Store) (caller callee : String) : Store :=
  let source := s.mention ⟨caller, none⟩
  let target := source.1.mention ⟨callee, none⟩
  { target.1 with calls := target.1.calls ++ [(source.2, target.2)] }

def apply (s : Store) : Step → Store
  | .function name code => (s.addFunction name code).1
  | .call caller callee => s.addCall caller callee

/-- The store after a sequence of steps. -/
def run (s : Store) (steps : List Step) : Store := steps.foldl apply s

/-! ## Section 3: Queries -/

/-- The names of the nodes. -/
def names (s : Store) : List String := s.nodes.map (·.name)

def get? (s : Store) (i : Nat) : Option Node := s.nodes[i]?

def nameAt (s : Store) (i : Nat) : String := ((s.get? i).map (·.name)).getD ""

/-- The place of the name of a node in the index. -/
def orderOf? (s : Store) (i : Nat) : Option Nat :=
  (s.get? i).bind fun n => s.index.placeOf? n.name

def isFunctionAt (s : Store) (i : Nat) : Bool := ((s.get? i).map (·.isFunction)).getD false

def functionCount (s : Store) : Nat := s.nodes.countP (·.isFunction)

def unresolvedCount (s : Store) : Nat := s.nodes.length - s.functionCount

def callCount (s : Store) : Nat := s.calls.length

end Store

end CallAtlas.Graph
