import CallAtlas.Grammar.Stack

/-! # Reading a text by a grammar

    A text is read token by token. Each reading in progress asks for the next token by the
    tokens that its state expects, so that the same characters can be one token in one place
    and another elsewhere. Where the grammar leaves several moves open the reading splits;
    readings that come together again are joined, and one that has no move left is dropped.
    `read` gives the derivation of the whole text, or none if no reading reaches its end.

    The tokens themselves come from a `Tokenizer`, which may keep a state of its own.
-/

namespace CallAtlas.Grammar

open CallAtlas.Text

/-! ## Section 1: Tokens and readings -/

/-- A token found in the text, the cursor behind it and the tokenizer's state after it. -/
structure Lexeme (σ : Type) where
  token : Nat
  start : Place
  stop : Place
  cursor : Cursor
  memory : σ

/-- Finds the next token, given the tokens that are expected. -/
structure Tokenizer (σ : Type) where
  initial : σ
  next : TokenSet → σ → Cursor → Option (Lexeme σ)
  /-- Tokens that may stand anywhere. -/
  isExtra : Nat → Bool
  /-- Tokens on whose being expected it depends how the text is cut into other tokens. -/
  steering : TokenSet

/-- One reading in progress. A reading that has no move left is no longer `alive`. -/
structure Reading (σ : Type) where
  stack : Stack
  cursor : Cursor
  memory : σ
  alive : Bool

/-- All readings in progress, the most promising first, and the best finished one. -/
structure Readings (σ : Type) where
  readings : Array (Reading σ)
  nextId : Nat
  finished : Option Derivation

namespace Readings

variable {σ : Type} [DecidableEq σ]

def get? (p : Readings σ) (i : Nat) : Option (Reading σ) := p.readings[i]?

def set (p : Readings σ) (i : Nat) (r : Reading σ) : Readings σ :=
  { p with readings := p.readings.setIfInBounds i r }

/-- Whether two readings have come to the same point and can go on as one. -/
def joinable (alike : State → State → Bool) (a b : Reading σ) : Bool :=
  a.alive && b.alive && a.memory == b.memory && a.stack.joins alike b.stack

/-- The first reading, other than the one at `except`, that `r` can be joined with. -/
def findJoinable (alike : State → State → Bool) (p : Readings σ) (except : Nat)
    (r : Reading σ) : Option Nat :=
  (List.range p.readings.size).find? fun j =>
    j != except && ((p.get? j).map (joinable alike · r)).getD false

/-- Adds a reading, joining it with one that has come to the same point. -/
def add (alike : State → State → Bool) (p : Readings σ) (except : Nat) (r : Reading σ) :
    Readings σ :=
  match p.findJoinable alike except r with
  | none => { p with readings := p.readings.push r }
  | some j =>
    { p with readings := p.readings.modify j fun s =>
        { s with stack := s.stack.join alike r.stack } }

/-- At most so many readings are kept between two tokens. -/
def capacity : Nat := 6

/-- Within a token so many more may arise. -/
def overflow : Nat := 4

/-- Whether there is room for one more reading while a token is taken. -/
def hasRoom (p : Readings σ) : Bool :=
  p.readings.size ≤ capacity + overflow + (p.readings.toList.filter (!·.alive)).length

/-! ## Section 2: Completing productions -/

/-- Splits off the extra leaves at the end of a list of parts. -/
def splitTrailing (parts : List Derivation) : List Derivation × List Derivation :=
  let extras := (parts.reverse.takeWhile (·.isExtra)).reverse
  (parts.take (parts.length - extras.length), extras)

/-- The alternatives for the parts of a production, grouped by the stack that they leave. -/
def groupByBase (slices : List (List Derivation × Stack)) :
    List (Stack × List (List Derivation)) :=
  slices.foldl (fun groups (parts, base) =>
    if groups.any (·.1.id == base.id) then
      groups.map fun (b, alternatives) =>
        if b.id == base.id then (b, alternatives ++ [parts]) else (b, alternatives)
    else groups ++ [(base, [parts])]) []

/-- Completes a production on `base` from the best of several lists of parts, and returns it
    with the extra leaves that stay behind it. -/
def completeBest (r : State.Reduction) (base : Stack) (alternatives : List (List Derivation)) :
    Derivation × List Derivation :=
  let build (parts : List Derivation) : Derivation × List Derivation :=
    let (inner, extras) := splitTrailing parts
    (.complete r.lhs r.production r.weight base.stop inner, extras)
  match alternatives with
  | [] => build []
  | first :: others =>
    others.foldl (fun best parts =>
      let candidate := build parts
      if Derivation.prefers best.1 candidate.1 then best else candidate) (build first)

/-- Completes a production in the reading at `i`: for each stack that its parts leave, a new
    reading, as long as there is room. -/
def reduce (t : Table) (alike : State → State → Bool) (p : Readings σ) (i : Nat)
    (r : State.Reduction) : Readings σ :=
  match p.get? i with
  | none => p
  | some reading =>
    (groupByBase (reading.stack.pop r.length)).foldl (fun p (base, alternatives) =>
      if p.hasRoom then
        let (tree, extras) := completeBest r base alternatives
        let state := base.state.goto t r.lhs
        let stack := extras.foldl (fun (s : Stack × Nat) extra =>
          (s.1.push s.2 state extra, s.2 + 1)) (base.push p.nextId state tree, p.nextId + 1)
        { p with nextId := stack.2 }.add alike i { reading with stack := stack.1 }
      else p) p

/-! ## Section 3: Taking a token -/

/-- Pushes a token; an extra token leaves the state as it is. -/
def shift (t : Table) (p : Readings σ) (i : Nat) (l : Lexeme σ) (extra : Bool) : Readings σ :=
  match p.get? i with
  | none => p
  | some reading =>
    let state := if extra then reading.stack.state else reading.stack.state.goto t l.token
    let stack := reading.stack.push p.nextId state (.leaf l.token l.start l.stop extra)
    { p with nextId := p.nextId + 1 }.set i
      { reading with stack, cursor := l.cursor, memory := l.memory }

/-- Puts the reading at `j` in the place of the one at `i`. -/
def moveTo (p : Readings σ) (j i : Nat) : Readings σ :=
  match p.get? j with
  | none => p
  | some r => { p with readings := (p.readings.setIfInBounds i r).eraseIdxIfInBounds j }

def drop (p : Readings σ) (i : Nat) : Readings σ :=
  { p with readings := p.readings.modify i fun r => { r with alive := false } }

/-- Ends the reading at `i` with a derivation of the whole text. -/
def accept (p : Readings σ) (i : Nat) : Readings σ :=
  match p.get? i with
  | none => p
  | some reading =>
    let trees := reading.stack.trees []
    let parts := trees.flatMap fun d => if d.isExtra then [d] else d.parts
    let whole := match trees.find? (!·.isExtra) with
      | some (.node symbol production weight ..) =>
        Derivation.node symbol production weight .zero reading.cursor.place parts
      | _ => .node 0 0 0 .zero reading.cursor.place parts
    { p with finished := some ((p.finished.map (Derivation.better · whole)).getD whole) }.drop i

/-- Makes the moves that a token calls for in the reading at `i`, until it is taken. Of
    several productions to complete, the last is followed up at once with the same token; the
    readings of the others wait and will look for the token afresh. -/
def take (t : Table) (tok : Tokenizer σ) (i : Nat) (l : Lexeme σ) : Nat → Readings σ → Readings σ
  | 0, p => p.drop i
  | fuel + 1, p =>
    match p.get? i with
    | none => p
    | some reading =>
      if tok.isExtra l.token then p.shift t i l true
      else
        let moves := reading.stack.state.moves t l.token
        if moves.accepts then p.accept i
        else
          let (p, last) := moves.reductions.foldl (fun (p, last) r =>
            let count := p.readings.size
            let p := p.reduce t (State.alike t tok.steering) i r
            (p, if count < p.readings.size then some count else last))
            (p, (none : Option Nat))
          if moves.shifts then p.shift t i l false
          else match last with
            | none => p.drop i
            | some j => take t tok i l fuel (p.moveTo j i)

/-- Advances the reading at `i` by one token. -/
def advance (t : Table) (tok : Tokenizer σ) (fuel : Nat) (p : Readings σ) (i : Nat) : Readings σ :=
  match p.get? i with
  | none => p
  | some reading =>
    match tok.next (reading.stack.state.expected t) reading.memory reading.cursor with
    | none => p.drop i
    | some l => p.take t tok i l fuel

/-! ## Section 4: Keeping readings in step -/

/-- Advances the reading at `i` until it has come as far as `reached`, the first one until it
    is further. Returns how far it has come. -/
def catchUp (t : Table) (tok : Tokenizer σ) (limit : Nat) (i : Nat) :
    Nat → Nat → Readings σ → Readings σ × Nat
  | 0, reached, p => (p, reached)
  | fuel + 1, reached, p =>
    match p.get? i with
    | none => (p, reached)
    | some r =>
      if !r.alive then (p, reached)
      else
        let p := p.advance t tok limit i
        let byte := ((p.get? i).map (·.stack.stop.byte)).getD reached
        if reached < byte || (0 < i && byte == reached) then (p, byte)
        else catchUp t tok limit i fuel reached p

/-- Advances all readings, also those that arise on the way. -/
def advanceAll (t : Table) (tok : Tokenizer σ) (limit : Nat) :
    Nat → Nat → Nat → Readings σ → Readings σ × Nat
  | 0, _, reached, p => (p, reached)
  | fuel + 1, i, reached, p =>
    if i < p.readings.size then
      let (p, reached) := p.catchUp t tok limit i limit reached
      advanceAll t tok limit fuel (i + 1) reached p
    else (p, reached)

/-- Inserts a reading among those ahead of it: joined with one that has come to the same
    point, otherwise in front of lighter ones. `weight` is the weight it came with. -/
def settle (alike : State → State → Bool) (weight : Int) :
    Reading σ → List (Reading σ) → List (Reading σ) × Option (Reading σ)
  | r, [] => ([], some r)
  | r, other :: rest =>
    if joinable alike other r then
      ({ other with stack := other.stack.join alike r.stack } :: rest, none)
    else if other.stack.weight < weight then
      let (rest, left) := settle alike weight other rest
      (r :: rest, left)
    else
      let (rest, left) := settle alike weight r rest
      (other :: rest, left)

/-- Drops dead readings, joins those that have come together, and puts heavier ones first. -/
def condense (alike : State → State → Bool) (p : Readings σ) : Readings σ :=
  let settled := p.readings.toList.foldl (fun done r =>
    if !r.alive then done
    else match settle alike r.stack.weight r done with
      | (done, none) => done
      | (done, some r) => done ++ [r]) []
  { p with readings := (settled.take capacity).toArray }

def run (t : Table) (tok : Tokenizer σ) (limit : Nat) :
    Nat → Nat → Readings σ → Option Derivation
  | 0, _, p => p.finished
  | fuel + 1, reached, p =>
    if p.readings.isEmpty then p.finished
    else
      let (p, reached) := p.advanceAll t tok limit limit 0 reached
      run t tok limit fuel reached (p.condense (State.alike t tok.steering))

end Readings

/-- Reads a whole text. The bound on the number of moves leaves room for every move that a
    text of this length can need. -/
def read {σ : Type} [DecidableEq σ] (t : Table) (tok : Tokenizer σ) (text : String) :
    Option Derivation :=
  let cursor := Cursor.ofString text
  let limit := 64 * (text.utf8ByteSize + 64)
  let first : Reading σ := ⟨.node 0 (State.initial t) .zero 0 .nil, cursor, tok.initial, true⟩
  Readings.run t tok limit limit 0 ⟨#[first], 1, none⟩

end CallAtlas.Grammar
