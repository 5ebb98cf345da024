import CallAtlas.Grammar.Rule

/-! # Grammar tables

    A grammar in the form in which a parser consults it. Symbols are numbered, tokens first,
    then constructs in grammar order, then repetitions. For each symbol the tables give the
    tokens it can start with and the productions it can start; for two constructs they give
    the tokens that can follow the one where it stands at the left edge of the other.

    A set of tokens is the number whose binary digits mark its members.
-/

namespace CallAtlas.Grammar

open CallAtlas.Syntax

/-- A set of tokens: token `i` is a member iff binary digit `i` is one. -/
abbrev TokenSet := Nat

namespace TokenSet

def singleton (i : Nat) : TokenSet := 1 <<< i

def contains (s : TokenSet) (i : Nat) : Bool := s.testBit i

def union (a b : TokenSet) : TokenSet := a ||| b

end TokenSet

/-! ## Section 1: Productions over numbered symbols -/

structure NumberedStep where
  symbol : Nat
  label : Label
  precedence : Option Int
  assoc : Option Assoc
  deriving DecidableEq, Inhabited

structure Production where
  lhs : Nat
  steps : Array NumberedStep
  weight : Int
  deriving DecidableEq, Inhabited

/-- A grammar: the start construct and a rule for every construct. -/
structure RuleSet where
  start : Phrase
  rule : Phrase → Rule

/-- The productions of a grammar before its symbols are numbered. -/
structure RawProductions where
  phrases : List (Phrase × List Body)
  repetitions : List (List Body)

def RuleSet.rawProductions (g : RuleSet) : RawProductions :=
  let (phrases, e) := Phrase.all.foldl (fun (done, e) p =>
    let (bodies, e) := (g.rule p).expand Context.empty true e
    ((p, bodies) :: done, e)) (([] : List (Phrase × List Body)), (⟨#[], #[]⟩ : Expansion))
  let resolve (bodies : List Body) := (bodies.flatMap (·.resolve e.splices)).eraseDups
  ⟨phrases.reverse.map fun (p, bodies) => (p, resolve bodies), e.repetitions.toList.map resolve⟩

/-- The tokens of the productions, in order of their first occurrence, and the end of text. -/
def RawProductions.terminals (r : RawProductions) : Array Terminal :=
  let bodies := r.phrases.flatMap (·.2) ++ r.repetitions.flatten
  let add (acc : Array Terminal) (s : Step) : Array Terminal :=
    match s.symbol with
    | .terminal t => if acc.contains t then acc else acc.push t
    | _ => acc
  bodies.foldl (fun acc b => b.steps.foldl add acc)
    #[.endOfText, .comment, .lineContinuation]

/-! ## Section 2: Items

    An item is a production with a mark in front of one of its steps. Two items of one
    construct that agree in what lies ahead, and in the labels of what lies behind, act alike
    and share a number. -/

structure ItemInfo where
  production : Nat
  /-- Number of steps behind the mark. -/
  dot : Nat
  lhs : Nat
  weight : Int
  /-- The symbol behind the mark and the item with the mark moved over it. -/
  next : Option (Nat × Nat)
  /-- The symbol after the next one. -/
  afterNext : Option Nat
  precedence : Int
  assoc : Option Assoc
  deriving Inhabited

/-- Key by which items are told apart and ordered: the number of steps read, the construct,
    and then all that decides how the item acts. -/
def itemKey (labels : List Label) (p : Production) (dot : Nat) : List Int :=
  let optional (o : Option Int) : List Int := match o with
    | none => [0, 0]
    | some i => [1, i]
  let assoc (a : Option Assoc) : Int := match a with
    | none => 0
    | some .left => 1
    | some .right => 2
  let label (l : Label) : Int := (labels.idxOf l : Nat)
  let last := if dot = 0 then none else p.steps[dot - 1]?
  let behind := (p.steps.toList.take dot).map fun s => label s.label
  let ahead := (p.steps.toList.drop dot).flatMap fun s =>
    [(s.symbol : Int), label s.label] ++ optional s.precedence ++ [assoc s.assoc]
  [(dot : Int), (p.lhs : Int), p.weight, (p.steps.size : Int)]
    ++ optional (last.bind (·.precedence)) ++ [assoc (last.bind (·.assoc))] ++ behind ++ ahead

/-! ## Section 3: The tables -/

structure Table where
  terminals : Array Terminal
  productions : Array Production
  /-- By symbol: the tokens it can start with. -/
  first : Array TokenSet
  items : Array ItemInfo
  /-- By symbol: the productions that it starts, as the construct they belong to and the item
      with the mark behind the symbol. -/
  starts : Array (List (Nat × Nat))
  /-- By two nonterminals: whether the second can stand at the left edge of the first, with
      the tokens that can then follow it and whether what follows the first can follow it. -/
  corner : Array (Array (Option (TokenSet × Bool)))
  /-- The items from which parsing starts: the whole text ahead, and an empty text read. -/
  initial : List (Nat × TokenSet)
  /-- The item of a whole text read. -/
  accepting : Nat
  deriving Inhabited

namespace Table

def isTerminal (t : Table) (symbol : Nat) : Bool := symbol < t.terminals.size

/-- The tokens that can start a symbol, by closing the productions' left edges. -/
def firstSets (terminals symbols : Nat) (productions : Array Production) : Array TokenSet :=
  let start := (Array.range symbols).map fun s =>
    if s < terminals then TokenSet.singleton s else 0
  let pass (first : Array TokenSet) : Array TokenSet :=
    productions.foldl (fun first p =>
      match p.steps[0]? with
      | none => first
      | some s => first.modify p.lhs (·.union (first.getD s.symbol 0))) first
  Nat.repeat pass symbols start

/-- Left edges: construct, the nonterminal that starts one of its productions, and the tokens
    that can follow it there, or none where it ends the production. -/
def edges (terminals : Nat) (first : Array TokenSet) (productions : Array Production) :
    List (Nat × Nat × Option TokenSet) :=
  (productions.toList.filterMap fun p =>
    match p.steps[0]? with
    | some s =>
      if s.symbol < terminals then none
      else some (p.lhs - terminals, s.symbol - terminals,
        (p.steps[1]?).map fun after => first.getD after.symbol 0)
    | none => none).eraseDups

/-- One round of following left edges below a nonterminal. -/
def cornerPass (edges : List (Nat × Nat × Option TokenSet))
    (row : Array (Option (TokenSet × Bool))) : Array (Option (TokenSet × Bool)) :=
  edges.foldl (fun row (z, w, after) =>
    match row.getD z none with
    | none => row
    | some (look, passes) =>
      let (look, passes) := match after with
        | some tokens => (tokens, false)
        | none => (look, passes)
      row.modify w fun
        | none => some (look, passes)
        | some (look', passes') => some (look'.union look, passes' || passes)) row

/-- Follows left edges until nothing changes, for at most `fuel` rounds. -/
def cornerRow (edges : List (Nat × Nat × Option TokenSet)) :
    Nat → Array (Option (TokenSet × Bool)) → Array (Option (TokenSet × Bool))
  | 0, row => row
  | fuel + 1, row =>
    let next := cornerPass edges row
    if next == row then row else cornerRow edges fuel next

/-- The items of all productions in the order of their keys, with the number of the item at
    each place of each production. -/
def numberItems (productions : Array Production) : Array (Nat × Nat) × Array (Array Nat) :=
  let labels := (productions.toList.flatMap fun p => p.steps.toList.map (·.label)).eraseDups
  let places := (List.range productions.size).flatMap fun i =>
    match productions[i]? with
    | none => []
    | some p => (List.range (p.steps.size + 1)).map fun dot => (itemKey labels p dot, i, dot)
  let sorted := places.mergeSort fun a b =>
    compareLex (compareOn (·.1)) (fun _ _ => .eq) a b |>.isLE
  let blank := productions.map fun p => Array.replicate (p.steps.size + 1) 0
  let (items, numbers, _) := sorted.foldl (fun (items, numbers, last) (key, i, dot) =>
    let items := if last == some key then items else items.push (i, dot)
    (items, numbers.modify i (·.setIfInBounds dot (items.size - 1)), some key))
    ((#[] : Array (Nat × Nat)), blank, (none : Option (List Int)))
  (items, numbers)

/-- The tables of a grammar. -/
def ofRules (g : RuleSet) : Table :=
  let raw := g.rawProductions
  let terminals := raw.terminals
  let base := terminals.size
  let phraseCount := raw.phrases.length
  let goal := base + phraseCount + raw.repetitions.length
  let symbols := goal + 1
  let number (s : Symbol) : Nat := match s with
    | .terminal t => terminals.idxOf t
    | .phrase p => base + Phrase.all.idxOf p
    | .repetition i => base + phraseCount + i
    | .splice _ => goal
  let plain (s : Nat) : NumberedStep := ⟨s, ⟨none, none⟩, none, none⟩
  let numbered (lhs : Nat) (b : Body) : Production :=
    ⟨lhs, (b.steps.map fun s => ⟨number s.symbol, s.label, s.precedence, s.assoc⟩).toArray,
      b.weight⟩
  let ofPhrases := raw.phrases.flatMap fun (p, bodies) => bodies.map (numbered (number (.phrase p)))
  let ofRepetitions := (raw.repetitions.zipIdx).flatMap fun (bodies, i) =>
    let lhs := base + phraseCount + i
    (⟨lhs, #[plain lhs, plain lhs], 0⟩ : Production) :: bodies.map (numbered lhs)
  let startSymbol := number (.phrase g.start)
  let productions :=
    (ofPhrases ++ ofRepetitions ++ [(⟨goal, #[plain startSymbol], 0⟩ : Production)]).toArray
  let first := firstSets base symbols productions
  let nonterminals := symbols - base
  let edges := edges base first productions
  let corner := (Array.range nonterminals).map fun y =>
    cornerRow edges (nonterminals + 1)
      ((Array.replicate nonterminals none).setIfInBounds y (some (0, true)))
  let (places, numbers) := numberItems productions
  let item (i dot : Nat) : Nat := (numbers.getD i #[]).getD dot 0
  let items := places.map fun (i, dot) =>
    let p := productions.getD i default
    let last := if dot = 0 then none else p.steps[dot - 1]?
    { production := i, dot, lhs := p.lhs, weight := p.weight
      next := (p.steps[dot]?).map fun s => (s.symbol, item i (dot + 1))
      afterNext := (p.steps[dot + 1]?).map (·.symbol)
      precedence := (last.bind (·.precedence)).getD 0
      assoc := last.bind (·.assoc) : ItemInfo }
  let starts := (productions.toList.zipIdx).foldl (fun acc (p, i) =>
    match p.steps[0]? with
    | none => acc
    | some s => acc.modify s.symbol fun l => (p.lhs - base, item i 1) :: l)
    (Array.replicate symbols ([] : List (Nat × Nat)))
  let endSet := TokenSet.singleton (terminals.idxOf .endOfText)
  let goalIndex := productions.size - 1
  let empties := (productions.toList.zipIdx).filterMap fun (p, i) =>
    if p.lhs == startSymbol && p.steps.isEmpty then some (item i 0, endSet) else none
  { terminals, productions, first, items, corner
    starts := starts.map fun l => l.mergeSort fun a b => a.2 ≤ b.2
    initial := (item goalIndex 0, endSet) :: empties
    accepting := item goalIndex 1 }

end Table

end CallAtlas.Grammar
