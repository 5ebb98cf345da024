import CallAtlas.Grammar.Table

/-! # Parser states

    A state is the set of items that the text read so far leaves open, each with the tokens
    that may follow its construct. States are computed from the tables when they are reached:
    `State.goto` moves every item over a symbol, `State.expected` says which tokens can come
    next, and `State.moves` which moves a token calls for. Where precedence decides between
    two moves only the stronger is kept; where it does not, all of them are. `State.alike`
    says when two readings need not be kept apart.
-/

namespace CallAtlas.Grammar

/-- An item, by its number, with the tokens that may follow its construct. -/
structure Item where
  index : Nat
  look : TokenSet
  deriving DecidableEq, Inhabited

/-- Open items in the order of their numbers, each once. -/
abbrev State := List Item

namespace State

/-! ## Section 1: Moving over a symbol -/

/-- Adds an item, joining the followers of an item that is already there. -/
def insert (item : Item) : State → State
  | [] => [item]
  | other :: rest =>
    if item.index < other.index then item :: other :: rest
    else if item.index = other.index then ⟨other.index, other.look.union item.look⟩ :: rest
    else other :: insert item rest

def initial (t : Table) : State :=
  t.initial.foldl (fun s (index, look) => insert ⟨index, look⟩ s) []

/-- The nonterminals that are ahead, each with the tokens that may follow it. -/
def ahead (t : Table) (s : State) : List (Nat × TokenSet) :=
  s.filterMap fun item =>
    let info := t.items.getD item.index default
    match info.next with
    | none => none
    | some (symbol, _) =>
      if t.isTerminal symbol then none
      else some (symbol - t.terminals.size, match info.afterNext with
        | none => item.look
        | some after => t.first.getD after 0)

/-- The followers of the nonterminal `z` where it stands at the left edge of one that is
    ahead; none if it does not. -/
def followers (t : Table) (z : Nat) : List (Nat × TokenSet) → Option TokenSet
  | [] => none
  | (y, look) :: rest =>
    match (t.corner.getD y #[]).getD z none, followers t z rest with
    | none, found => found
    | some (tokens, passes), found =>
      let here := if passes then tokens.union look else tokens
      some (match found with
        | none => here
        | some there => here.union there)

/-- The state after a symbol. Items that start with it come first, since the fewest steps
    are behind them. -/
def goto (t : Table) (s : State) (symbol : Nat) : State :=
  let ahead := s.ahead t
  let fresh := (t.starts.getD symbol []).filterMap fun (z, index) =>
    (followers t z ahead).map fun look => (⟨index, look⟩ : Item)
  s.foldl (fun acc item =>
    match (t.items.getD item.index default).next with
    | some (next, index) => if next = symbol then insert ⟨index, item.look⟩ acc else acc
    | none => acc) fresh

/-! ## Section 2: Tokens that can come next -/

/-- The tokens on which the state has a move: those that can start what is ahead of an item,
    and the followers of items that are complete. -/
def expected (t : Table) (s : State) : TokenSet :=
  s.foldl (fun acc item =>
    acc.union (match (t.items.getD item.index default).next with
      | none => item.look
      | some (symbol, _) => t.first.getD symbol 0)) 0

/-! ## Section 3: Moves -/

/-- A production to be completed: its construct, how many parts it takes, its number and its
    weight. -/
structure Reduction where
  lhs : Nat
  length : Nat
  production : Nat
  weight : Int
  deriving DecidableEq, Inhabited

/-- What a token calls for: productions to complete, whether the whole text is complete, and
    whether the token is to be taken. -/
structure Moves where
  reductions : List Reduction
  accepts : Bool
  shifts : Bool
  deriving Inhabited

/-- Complete items of the strongest precedence seen, with that precedence and how they
    associate. -/
structure Completed where
  items : List ItemInfo
  precedence : Int
  left : Bool
  none : Bool
  right : Bool
  deriving Inhabited

def Completed.single (info : ItemInfo) : Completed :=
  ⟨[info], info.precedence, info.assoc == some .left, info.assoc == Option.none,
    info.assoc == some .right⟩

/-- Keeps the items of the strongest precedence. -/
def Completed.add (c : Completed) (info : ItemInfo) : Completed :=
  if c.items.isEmpty || c.precedence < info.precedence then .single info
  else if info.precedence < c.precedence then c
  else
    { c with
      items := c.items ++ [info]
      left := c.left || info.assoc == some .left
      none := c.none || info.assoc == Option.none
      right := c.right || info.assoc == some .right }

/-- The complete items that `token` may follow. -/
def completed (t : Table) (s : State) (token : Nat) : Completed :=
  s.foldl (fun acc item =>
    let info := t.items.getD item.index default
    if info.next.isNone && item.look.contains token then acc.add info else acc)
    ⟨[], 0, false, false, false⟩

/-- The items, with at least one step behind them, ahead of which `token` can stand. -/
def continuing (t : Table) (s : State) (token : Nat) : List ItemInfo :=
  s.filterMap fun item =>
    let info := t.items.getD item.index default
    match info.next with
    | some (symbol, _) =>
      if 0 < info.dot && (t.first.getD symbol 0).contains token then some info else none
    | none => none

/-- Whether the only open question is how the parts of one repetition group. -/
def isRepetition (t : Table) (items : List ItemInfo) : Bool :=
  match items with
  | [] => false
  | info :: rest =>
    let repetitions := t.terminals.size + CallAtlas.Syntax.Phrase.all.length
    let goal := t.terminals.size + t.corner.size - 1
    repetitions ≤ info.lhs && info.lhs < goal && rest.all (·.lhs == info.lhs)

/-- The moves on a token. Between taking the token and completing a production the higher
    precedence decides, then the association of the productions; a repetition is completed. -/
def moves (t : Table) (s : State) (token : Nat) : Moves :=
  let done := s.completed t token
  let open_ := s.continuing t token
  let canShift := s.any fun item =>
    match (t.items.getD item.index default).next with
    | some (symbol, _) => (t.first.getD symbol 0).contains token
    | none => false
  let all (shifts : Bool) : Moves :=
    ⟨done.items.filterMap fun i =>
        if i.lhs + 1 == t.terminals.size + t.corner.size then none
        else some ⟨i.lhs, i.dot, i.production, i.weight⟩,
      done.items.any fun i => i.lhs + 1 == t.terminals.size + t.corner.size, shifts⟩
  let shiftOnly : Moves := ⟨[], false, true⟩
  if !canShift then all false
  else if done.items.isEmpty then shiftOnly
  else if isRepetition t (open_ ++ done.items) then all false
  else
    let more := open_.any (done.precedence < ·.precedence)
    let less := open_.any (·.precedence < done.precedence)
    if more && !less then shiftOnly
    else if less && !more then all false
    else if more && less then all true
    else match done.left, done.none, done.right with
      | true, false, false => all false
      | false, false, true => shiftOnly
      | _, _, _ => all true

/-! ## Section 4: States that go on alike -/

/-- Whether readings in two states may go on as one. Both have the same items open, a token
    that both expect calls for the same moves, and no token of `steering` may follow an item
    in one of them only. -/
def alike (t : Table) (steering : TokenSet) (a b : State) : Bool :=
  a.map (·.index) == b.map (·.index) &&
    let both := a.expected t &&& b.expected t
    (a.zip b).all fun (x, y) =>
      let apart := x.look ^^^ y.look
      let telling := match (t.items.getD x.index default).next with
        | none => steering.union both
        | some _ => steering
      apart &&& telling == 0

/-- One state for two that are alike: what may follow an item in either may follow it. -/
def union (a b : State) : State :=
  (a.zip b).map fun (x, y) => ⟨x.index, x.look.union y.look⟩

end State

end CallAtlas.Grammar
