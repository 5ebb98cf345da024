import CallAtlas.Graph.CallGraph
import CallAtlas.Graph.NodeSet

/-! # What an export shows

    Either all nodes or the functions alone are candidates. With a focus, only the functions
    that it names are shown, and the candidates that few enough calls join to one of them,
    whichever way the calls go and through candidates only. These are found by a search that
    goes breadth first from the named functions.
-/

namespace CallAtlas.Export

open CallAtlas.Graph

/-! ## Section 1: Scopes -/

structure Scope where
  /-- The names in focus, if there is one. -/
  focus : Option (String → Bool)
  /-- How many calls away from the focus. -/
  depth : Nat
  includeUnresolved : Bool

def isCandidate (g : CallGraph) (scope : Scope) (i : Nat) : Bool :=
  scope.includeUnresolved || g.isFunctionAt i

/-- The functions that a focus names. -/
def seedsOf (g : CallGraph) (focus : String → Bool) : List Nat :=
  g.select fun i => g.isFunctionAt i && focus (g.nameAt i)

/-- The nodes that a call joins to a node, whichever way it goes. -/
def neighbours (g : CallGraph) (i : Nat) : List Nat :=
  (g.calls.filter (·.1 == i)).map (·.2) ++ (g.calls.filter (·.2 == i)).map (·.1)

/-! ## Section 2: The search -/

/-- The nodes found so far, and those of them from which the search has not gone on yet, each
    with the number of calls that led to it. -/
structure Frontier where
  found : NodeSet
  queue : List (Nat × Nat)
  deriving Inhabited

namespace Frontier

/-- A search from some of `n` nodes. -/
def start (n : Nat) (seeds : List Nat) : Frontier :=
  ⟨seeds.foldl NodeSet.insert (.empty n), seeds.map (·, 0)⟩

/-- Finds a node, unless it is no candidate or has been found before. -/
def discover (g : CallGraph) (scope : Scope) (hops : Nat) (s : Frontier) (i : Nat) : Frontier :=
  if isCandidate g scope i && s.found.lacks i then ⟨s.found.insert i, s.queue ++ [(i, hops)]⟩
  else s

/-- Goes on from the first node in the queue, unless it is as far away as may be. -/
def step (g : CallGraph) (scope : Scope) (s : Frontier) : Frontier :=
  match s.queue with
  | [] => s
  | (i, hops) :: rest =>
    if scope.depth ≤ hops then { s with queue := rest }
    else (neighbours g i).foldl (discover g scope (hops + 1)) { s with queue := rest }

/-- How many steps are left at most: a node that has not been found may enter the queue. -/
def pending (s : Frontier) : Nat := s.found.room + s.queue.length

theorem pending_discover (g : CallGraph) (scope : Scope) (hops : Nat) (s : Frontier) (i : Nat) :
    (s.discover g scope hops i).pending = s.pending := by
  unfold discover
  split
  · rename_i h
    have := NodeSet.room_insert (Bool.and_eq_true_iff.mp h).2
    simp only [pending, List.length_append, List.length_singleton]
    omega
  · rfl

theorem pending_foldl_discover (g : CallGraph) (scope : Scope) (hops : Nat) (s : Frontier)
    (nodes : List Nat) : (nodes.foldl (discover g scope hops) s).pending = s.pending := by
  induction nodes generalizing s with
  | nil => rfl
  | cons i rest ih => rw [List.foldl_cons, ih, pending_discover]

theorem pending_step (g : CallGraph) (scope : Scope) (s : Frontier) (h : s.queue ≠ []) :
    (s.step g scope).pending + 1 = s.pending := by
  unfold step
  split
  · contradiction
  · rename_i i hops rest hq
    have hlen : s.queue.length = rest.length + 1 := by simp [hq]
    split
    · simp only [pending, hlen]
      omega
    · rw [pending_foldl_discover]
      simp only [pending, hlen]
      omega

/-- Takes steps until the queue is empty. -/
def run (g : CallGraph) (scope : Scope) (s : Frontier) : NodeSet :=
  if _h : s.queue = [] then s.found else run g scope (s.step g scope)
termination_by s.pending
decreasing_by
  have := pending_step g scope s ‹_›
  omega

end Frontier

/-! ## Section 3: What is shown -/

/-- What a search from some nodes finds. -/
def explore (g : CallGraph) (scope : Scope) (seeds : List Nat) : NodeSet :=
  (Frontier.start g.nodes.length seeds).run g scope

/-- The nodes that are shown. -/
def visible (g : CallGraph) (scope : Scope) : NodeSet :=
  match scope.focus with
  | none => NodeSet.ofPredicate g.nodes.length (isCandidate g scope)
  | some focus => explore g scope (seedsOf g focus)

/-- The nodes and the calls that are shown, both in order. -/
structure Selection where
  nodes : List Nat
  calls : List (Nat × Nat)
  deriving DecidableEq, Inhabited

def select (g : CallGraph) (scope : Scope) : Selection :=
  let shown := visible g scope
  { nodes := g.select shown.contains
    calls := g.calls.filter fun (a, b) => shown.contains a && shown.contains b }

end CallAtlas.Export
