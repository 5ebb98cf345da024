import CallAtlas.Grammar.Derivation

/-! # Graph-structured stacks

    A stack holds the states and derivations of a reading in progress. Readings that come to
    states that go on alike at the same place continue as one stack whose top has several
    links, one for each way in which the text above the link's lower end was read. `pop`
    follows all of them down, and `join` adds the links of one stack to another.
-/

namespace CallAtlas.Grammar

open CallAtlas.Text

mutual

/-- A stack, by its top: an identity, a state, the place it has come to and the weight of
    the best reading below. -/
inductive Stack where
  | node (id : Nat) (state : State) (stop : Place) (weight : Int) (links : Links)

inductive Links where
  | nil
  | cons (tree : Derivation) (below : Stack) (rest : Links)

end

instance : Inhabited Stack := ⟨.node 0 [] .zero 0 .nil⟩

/-! ## Section 1: The top of a stack -/

namespace Stack

def id : Stack → Nat
  | node id .. => id

def state : Stack → State
  | node _ state .. => state

def stop : Stack → Place
  | node _ _ stop .. => stop

def weight : Stack → Int
  | node _ _ _ weight _ => weight

def links : Stack → Links
  | node _ _ _ _ links => links

def push (below : Stack) (id : Nat) (state : State) (tree : Derivation) : Stack :=
  node id state tree.stop (below.weight + tree.weight) (.cons tree below .nil)

/-! ## Section 2: Taking parts off -/

/-- A way down a stack: the parts taken so far, how many are still to be taken, and the stack
    that remains. -/
structure Descent where
  parts : List Derivation
  left : Nat
  stack : Stack

/-- The ways on over the links of a stack. An extra leaf is taken along and not counted. -/
def Descent.across (parts : List Derivation) (left : Nat) : Links → List Descent
  | .nil => []
  | .cons tree below rest =>
    ⟨tree :: parts, if tree.isExtra then left else left - 1, below⟩ :: across parts left rest

def Descent.ways (d : Descent) : List Descent :=
  if d.left = 0 then [] else across d.parts d.left d.stack.links

/-- One step on every way. The first link is followed in the place of the way that comes to
    it, and the ways over the other links come behind all of those. -/
def Descent.round (ds : List Descent) : List Descent :=
  ds.filterMap (·.ways.head?) ++ ds.flatMap (·.ways.tail)

/-- How much is below all the ways. -/
noncomputable def Descent.size : List Descent → Nat
  | [] => 0
  | d :: ds => sizeOf d.stack + size ds

private theorem Descent.size_append (ds es : List Descent) :
    size (ds ++ es) = size ds + size es := by
  induction ds with
  | nil => simp [size]
  | cons d ds ih => simp only [List.cons_append, size, ih]; omega

private theorem Descent.size_across (parts : List Derivation) (left : Nat) :
    ∀ links : Links, size (across parts left links) < sizeOf links
  | .nil => by simp [across, size]
  | .cons tree below rest => by
    have ih := size_across parts left rest
    simp only [across, size, Links.cons.sizeOf_spec] at ih ⊢
    omega

private theorem Descent.size_ways (d : Descent) : size d.ways < sizeOf d.stack := by
  obtain ⟨parts, left, ⟨id, state, stop, weight, links⟩⟩ := d
  have h := size_across parts left links
  unfold ways
  split
  · simp only [size, Stack.node.sizeOf_spec]
    omega
  · simp only [Stack.links, Stack.node.sizeOf_spec]
    omega

/-- Every step goes down, so all ways together end. -/
private theorem Descent.size_round (ds : List Descent) :
    size (round ds) + ds.length ≤ size ds := by
  induction ds with
  | nil => simp [round, size]
  | cons d ds ih =>
    have h := size_ways d
    simp only [round, size, size_append, List.flatMap_cons, List.filterMap_cons,
      List.length_cons] at ih h ⊢
    cases hw : d.ways with
    | nil =>
      simp only [List.head?_nil, List.tail_nil, size]
      omega
    | cons w ws =>
      simp only [hw, size, List.head?_cons, List.tail_cons] at h ⊢
      omega

/-- Follows all ways, in step, to where nothing is left to take. -/
def Descent.run : List Descent → List (List Derivation × Stack)
  | [] => []
  | d :: ds =>
    (d :: ds).filterMap (fun d => if d.left = 0 then some (d.parts, d.stack) else none)
      ++ run (round (d :: ds))
termination_by ds => size ds
decreasing_by
  have := size_round (d :: ds)
  simp only [List.length_cons] at this
  omega

/-- Every way to take `n` parts off the stack, extra leaves between them not counted, each
    with the stack that remains. -/
def pop (s : Stack) (n : Nat) : List (List Derivation × Stack) := Descent.run [⟨[], n, s⟩]

/-- All that was pushed, along the first link of each stack. -/
def trees : Stack → List Derivation → List Derivation
  | .node _ _ _ _ .nil, above => above
  | .node _ _ _ _ (.cons tree below _), above => below.trees (tree :: above)

/-! ## Section 3: Joining stacks -/

/-- Two derivations that cover the same text with the same symbol and as many parts. -/
def interchangeable (a b : Derivation) : Bool :=
  a.symbol == b.symbol && a.start == b.start && a.stop == b.stop && a.isExtra == b.isExtra
    && a.parts.length == b.parts.length

/-- Whether readings that have come to these stacks can go on as one. -/
def joins (alike : State → State → Bool) (a b : Stack) : Bool :=
  a.stop.byte == b.stop.byte && alike a.state b.state

/-- At most so many links lead down from a stack. -/
def linkCapacity : Nat := 8

/-- Adds a link to `tree` on `below` where there is room for `room` more. Of two
    interchangeable trees on the same stack the heavier stays, the earlier if they are even;
    stacks that go on alike are joined by `joinBelow`. -/
def joinLink (alike : State → State → Bool) (joinBelow : Stack → Stack) (tree : Derivation)
    (below : Stack) : Nat → Links → Links
  | 0, links => links
  | _ + 1, .nil => .cons tree below .nil
  | room + 1, .cons tree' below' rest =>
    if interchangeable tree' tree && below'.id == below.id then
      .cons (if tree'.weight < tree.weight then tree else tree') below' rest
    else if interchangeable tree' tree && joins alike below' below then
      .cons tree' (joinBelow below') rest
    else .cons tree' below' (joinLink alike joinBelow tree below room rest)

mutual

/-- Adds the links of the second stack to the first. -/
def join (alike : State → State → Bool) : Stack → Stack → Stack
  | .node id state stop weight links, .node _ state' _ _ links' =>
    joinLinks alike (.node id (state.union state') stop weight links) links'

def joinLinks (alike : State → State → Bool) : Stack → Links → Stack
  | a, .nil => a
  | .node id state stop weight links, .cons tree below rest =>
    joinLinks alike (.node id state stop (max weight (below.weight + tree.weight))
      (joinLink alike (fun s => join alike s below) tree below linkCapacity links)) rest

end

end Stack

end CallAtlas.Grammar
