import CallAtlas.Graph.Store

/-! # Call graphs

    A directed graph whose nodes are names, numbered in the order of their first mention. A
    name is a function if its first mention was a definition; a name that is first met as a
    caller or a callee stays unresolved. Calls are kept one by one, in order, as pairs of
    node numbers. A call graph is a store in which no two nodes share a name, the index gives
    each name the number of its node, and a call joins nodes that are there; every step of
    building keeps this up.
-/

namespace CallAtlas.Graph

open CallAtlas.Extract

/-! ## Section 1: Sound stores -/

/-- Looking up a name in a list with the places added gives its first place. -/
theorem lookup_zipIdx (names : List String) (name : String) (k : Nat) :
    (names.zipIdx k).lookup name = (names.idxOf? name).map (· + k) := by
  induction names generalizing k with
  | nil => rfl
  | cons other names ih =>
    rw [List.zipIdx_cons, List.lookup_cons, List.idxOf?_cons, ih]
    by_cases h : other = name
    · simp [h]
    · have hbeq : (name == other) = false := beq_false_of_ne (Ne.symm h)
      simp [h, hbeq, Function.comp_def, Nat.add_comm, Nat.add_left_comm]

namespace Store

/-- Nodes and index agree: no two nodes share a name, and the index has the names of the nodes
    in order, each with its place. Calls join nodes that are there. -/
structure Sound (s : Store) : Prop where
  names_nodup : s.names.Nodup
  indexed : s.index.entries = s.names.zipIdx
  calls_lt : ∀ c ∈ s.calls, c.1 < s.nodes.length ∧ c.2 < s.nodes.length

namespace Sound

variable {s : Store}

theorem names_index (h : s.Sound) : s.index.names = s.names := by
  rw [NameIndex.names, h.indexed, List.zipIdx_map_fst]

/-- A name is looked up with its place among the names of the nodes. -/
theorem indexOf?_eq (h : s.Sound) (name : String) : s.indexOf? name = s.names.idxOf? name := by
  rw [indexOf?, NameIndex.get?, h.indexed, lookup_zipIdx]
  simp

theorem placeOf?_eq (h : s.Sound) (name : String) :
    s.index.placeOf? name = s.names.idxOf? name := by
  rw [NameIndex.placeOf?, h.names_index]

theorem empty : Store.empty.Sound := ⟨List.nodup_nil, rfl, by simp [Store.empty]⟩

theorem addNode (h : s.Sound) {n : Node} (hfresh : n.name ∉ s.names) : (s.addNode n).1.Sound where
  names_nodup := by
    have hnames : (s.addNode n).1.names = s.names ++ [n.name] := by simp [Store.addNode, names]
    rw [hnames]
    exact nodup_concat h.names_nodup hfresh
  indexed := by
    have hnew : n.name ∉ s.index.names := by rwa [h.names_index]
    simp [Store.addNode, NameIndex.insert, hnew, h.indexed, names, List.zipIdx_append]
  calls_lt := by
    intro c hc
    obtain ⟨hcaller, hcallee⟩ := h.calls_lt c hc
    simp only [Store.addNode, List.length_append, List.length_singleton]
    exact ⟨Nat.lt_succ_of_lt hcaller, Nat.lt_succ_of_lt hcallee⟩

theorem mention (h : s.Sound) (n : Node) : (s.mention n).1.Sound := by
  unfold Store.mention
  split
  · exact h
  · next hnone =>
    rw [h.indexOf?_eq, List.idxOf?_eq_none_iff] at hnone
    exact h.addNode hnone

/-- What a mention returns is the number of a node. -/
theorem mention_lt (h : s.Sound) (n : Node) : (s.mention n).2 < (s.mention n).1.nodes.length := by
  unfold Store.mention
  split
  · next i hsome =>
    rw [h.indexOf?_eq] at hsome
    obtain ⟨hi, -⟩ := List.idxOf?_eq_some_iff.mp hsome
    simpa [names] using hi
  · simp [Store.addNode]

theorem length_le_mention (s : Store) (n : Node) :
    s.nodes.length ≤ (s.mention n).1.nodes.length := by
  unfold Store.mention
  split
  · exact Nat.le_refl _
  · simp [Store.addNode]

theorem addCall (h : s.Sound) (caller callee : String) : (s.addCall caller callee).Sound where
  names_nodup := ((h.mention ⟨caller, none⟩).mention ⟨callee, none⟩).names_nodup
  indexed := ((h.mention ⟨caller, none⟩).mention ⟨callee, none⟩).indexed
  calls_lt := by
    intro c hc
    have hcaller := h.mention ⟨caller, none⟩
    rcases List.mem_append.mp hc with hc | hc
    · exact (hcaller.mention ⟨callee, none⟩).calls_lt c hc
    · -- The caller was mentioned first; the callee only adds to the nodes.
      rw [List.mem_singleton.mp hc]
      exact ⟨Nat.lt_of_lt_of_le (h.mention_lt _) (length_le_mention _ _), hcaller.mention_lt _⟩

theorem apply (h : s.Sound) (step : Step) : (s.apply step).Sound := by
  cases step with
  | function name code => exact h.mention ⟨name, some code⟩
  | call caller callee => exact h.addCall caller callee

end Sound

end Store

/-- A store whose nodes, index and calls fit together. -/
structure CallGraph extends Store, Store.Sound toStore
  deriving DecidableEq

namespace CallGraph

open Store

/-! ## Section 2: Building -/

def empty : CallGraph := ⟨.empty, .empty⟩

instance : Inhabited CallGraph := ⟨empty⟩

/-- Mentions a node: a name that is known keeps its number and its kind. Returns the number. -/
def mention (g : CallGraph) (n : Node) : CallGraph × Nat :=
  (⟨(g.toStore.mention n).1, g.toSound.mention n⟩, (g.toStore.mention n).2)

/-- Adds a function, unless the name is known. Returns the number of the name. -/
def addFunction (g : CallGraph) (name code : String) : CallGraph × Nat :=
  g.mention ⟨name, some code⟩

/-- Adds a call. Names that are not known become unresolved, the caller before the callee. -/
def addCall (g : CallGraph) (caller callee : String) : CallGraph :=
  ⟨g.toStore.addCall caller callee, g.toSound.addCall caller callee⟩

def apply (g : CallGraph) : Step → CallGraph
  | .function name code => (g.addFunction name code).1
  | .call caller callee => g.addCall caller callee

/-- The graph after a sequence of steps. -/
def run (g : CallGraph) (steps : List Step) : CallGraph := steps.foldl apply g

/-- The steps that make the graph of a dataset: its functions, then its calls. -/
def stepsOf (d : Dataset) : List Step :=
  (d.functions.map fun name => .function name ((d.codeOf? name).getD ""))
    ++ d.calls.map fun e => .call e.caller e.callee

def ofDataset (d : Dataset) : CallGraph := empty.run (stepsOf d)

/-! ## Section 3: Queries -/

/-- A list without the elements that equal the one right before them. -/
def dropRepeats : List Nat → List Nat
  | [] => []
  | [i] => [i]
  | i :: j :: rest => if i = j then dropRepeats (j :: rest) else i :: dropRepeats (j :: rest)

theorem nameAt_eq_getElem {g : CallGraph} {i : Nat} (h : i < g.names.length) :
    g.nameAt i = g.names[i] := by
  have hi : i < g.nodes.length := by simpa [names] using h
  simp [nameAt, get?, names, hi]

theorem map_nameAt_range (g : CallGraph) :
    (List.range g.nodes.length).map g.nameAt = g.names := by
  refine List.ext_getElem (by simp [names]) fun i _ hi => ?_
  simp [nameAt_eq_getElem hi]

/-- The nodes that a condition holds of, in order. -/
def select (g : CallGraph) (p : Nat → Bool) : List Nat := (List.range g.nodes.length).filter p

/-- The place by which a node is sorted; one whose name has no place comes last. -/
def sortKey (g : CallGraph) (i : Nat) : Nat := (g.orderOf? i).getD g.nodes.length

def sortNodes (g : CallGraph) (nodes : List Nat) : List Nat :=
  nodes.mergeSort fun i j => g.sortKey i ≤ g.sortKey j

/-- The names of some nodes, in order and each once: the nodes are sorted, and then a node
    that equals the one before it is dropped. -/
def sortedNames (g : CallGraph) (nodes : List Nat) : List String :=
  (dropRepeats (g.sortNodes nodes)).map g.nameAt

/-- The names at the far ends of the calls that have a name at their near end, in order. -/
def across (g : CallGraph) (near far : Nat × Nat → Nat) (name : String) : List String :=
  match g.indexOf? name with
  | none => []
  | some i => g.sortedNames ((g.calls.filter (near · == i)).map far)

/-- The names that call a name, in order. -/
def callers (g : CallGraph) : String → List String := g.across Prod.snd Prod.fst

/-- The names that a name calls, in order. -/
def callees (g : CallGraph) : String → List String := g.across Prod.fst Prod.snd

end CallGraph

end CallAtlas.Graph
