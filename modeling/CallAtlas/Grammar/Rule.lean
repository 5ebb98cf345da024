import CallAtlas.Syntax.Kind

/-! # Grammar rules and the productions they stand for

    A rule describes the texts of one construct with choices, sequences and repetitions, and
    annotates them with precedences and with labels for the tree. `Rule.expand` lists the
    productions of a rule: every choice is multiplied out, every repetition becomes a symbol
    of its own, and each step of a production carries the annotations that surround it.
-/

namespace CallAtlas.Grammar

open CallAtlas.Syntax

/-! ## Section 1: Rules -/

/-- Which way operators of equal precedence group. -/
inductive Assoc where
  | left | right
  deriving DecidableEq, Inhabited

/-- How a construct shows one of its parts: under another kind, in a role. -/
structure Label where
  shownAs : Option Kind
  field : Option Field
  deriving DecidableEq, Inhabited

inductive Rule where
  | blank
  | terminal (t : Terminal)
  | phrase (p : Phrase)
  | choice (rules : List Rule)
  | seq (rules : List Rule)
  /-- One or more occurrences. -/
  | many1 (rule : Rule)
  /-- The rule's productions are put in place of the rule. -/
  | spliced (rule : Rule)
  | precedence (level : Int) (assoc : Option Assoc) (rule : Rule)
  /-- A weight that counts only between two complete readings of a text. -/
  | weight (level : Int) (rule : Rule)
  | field (f : Field) (rule : Rule)
  | shownAs (k : Kind) (rule : Rule)
  deriving Inhabited

namespace Rule

def optional (r : Rule) : Rule := .choice [r, .blank]

def many (r : Rule) : Rule := .choice [.many1 r, .blank]

/-- One or more occurrences of `r` with `separator` between them. -/
def sep1 (r separator : Rule) : Rule := .seq [r, many (.seq [separator, r])]

end Rule

/-! ## Section 2: Productions -/

/-- The symbols of productions. Repetitions and spliced rules are numbered as they arise. -/
inductive Symbol where
  | terminal (t : Terminal)
  | phrase (p : Phrase)
  | repetition (index : Nat)
  | splice (index : Nat)
  deriving DecidableEq, Inhabited

structure Step where
  symbol : Symbol
  label : Label
  /-- Precedence of a production that has been read up to and with this step. -/
  precedence : Option Int
  assoc : Option Assoc
  deriving DecidableEq, Inhabited

/-- Right-hand side of a production. -/
structure Body where
  steps : List Step
  weight : Int
  deriving DecidableEq, Inhabited

namespace Body

def empty : Body := ⟨[], 0⟩

/-- Of two weights inside one production the one of larger size counts. -/
def append (a b : Body) : Body :=
  ⟨a.steps ++ b.steps, if a.weight.natAbs < b.weight.natAbs then b.weight else a.weight⟩

def mapLast (f : Step → Step) (b : Body) : Body :=
  match b.steps.getLast? with
  | none => b
  | some last => { b with steps := b.steps.dropLast ++ [f last] }

end Body

/-- The annotations around a rule. -/
structure Context where
  precedence : Option Int
  assoc : Option Assoc
  label : Label
  deriving Inhabited

namespace Context

def empty : Context := ⟨none, none, ⟨none, none⟩⟩

def step (c : Context) (s : Symbol) : Step := ⟨s, c.label, c.precedence, c.assoc⟩

end Context

/-- The repetitions and spliced rules met so far, each with its alternatives. -/
structure Expansion where
  repetitions : Array (List Body)
  splices : Array (List Body)
  deriving Inhabited

/-- A repetition that was met before keeps its number. -/
def Expansion.repetition (e : Expansion) (bodies : List Body) : Nat × Expansion :=
  match e.repetitions.findIdx? (· == bodies) with
  | some i => (i, e)
  | none => (e.repetitions.size, { e with repetitions := e.repetitions.push bodies })

def Expansion.splice (e : Expansion) (bodies : List Body) : Nat × Expansion :=
  (e.splices.size, { e with splices := e.splices.push bodies })

mutual

/-- The alternatives of a rule within the annotations `c`. `atEnd` holds where nothing follows
    the rule in its production; elsewhere the last step of an annotated group takes the
    precedence from outside the group, since what comes next lies outside. -/
def Rule.expand (c : Context) (atEnd : Bool) : Rule → Expansion → List Body × Expansion
  | .blank, e => ([Body.empty], e)
  | .terminal t, e => ([⟨[c.step (.terminal t)], 0⟩], e)
  | .phrase p, e => ([⟨[c.step (.phrase p)], 0⟩], e)
  | .choice rules, e => Rule.expandChoice c atEnd rules e
  | .seq rules, e => Rule.expandSeq c atEnd rules e
  | .many1 rule, e =>
    let (bodies, e) := rule.expand Context.empty true e
    let (i, e) := e.repetition bodies
    ([⟨[c.step (.repetition i)], 0⟩], e)
  | .spliced rule, e =>
    let (bodies, e) := rule.expand Context.empty true e
    let (i, e) := e.splice bodies
    ([⟨[c.step (.splice i)], 0⟩], e)
  | .precedence level assoc rule, e =>
    let inner := { c with precedence := some level, assoc := assoc.orElse fun _ => c.assoc }
    let (bodies, e) := rule.expand inner atEnd e
    let leave (s : Step) : Step :=
      { s with precedence := c.precedence, assoc := if assoc.isSome then c.assoc else s.assoc }
    (if atEnd then bodies else bodies.map (·.mapLast leave), e)
  | .weight level rule, e =>
    let (bodies, e) := rule.expand c atEnd e
    (bodies.map fun b => Body.append ⟨[], level⟩ b, e)
  | .field f rule, e => rule.expand { c with label := { c.label with field := some f } } atEnd e
  | .shownAs k rule, e => rule.expand { c with label := { c.label with shownAs := some k } } atEnd e

def Rule.expandChoice (c : Context) (atEnd : Bool) :
    List Rule → Expansion → List Body × Expansion
  | [], e => ([], e)
  | rule :: rules, e =>
    let (first, e) := rule.expand c atEnd e
    let (others, e) := Rule.expandChoice c atEnd rules e
    (first ++ others, e)

def Rule.expandSeq (c : Context) (atEnd : Bool) :
    List Rule → Expansion → List Body × Expansion
  | [], e => ([Body.empty], e)
  | rule :: rules, e =>
    let (first, e) := rule.expand c (atEnd && rules.isEmpty) e
    let (others, e) := Rule.expandSeq c atEnd rules e
    (first.flatMap fun a => others.map fun b => a.append b, e)

end

/-! ## Section 3: Spliced rules -/

/-- One alternative of a spliced rule at a place with the annotations of `place`. The labels
    of the place go to every step, its precedence to a last step that has none. -/
def Body.atPlace (place : Step) (b : Body) : Body :=
  let labelled := b.steps.map fun s =>
    { s with label :=
      ⟨place.label.shownAs.orElse fun _ => s.label.shownAs,
        place.label.field.orElse fun _ => s.label.field⟩ }
  Body.mapLast
    (fun s => { s with
      precedence := s.precedence.orElse fun _ => place.precedence
      assoc := s.assoc.orElse fun _ => place.assoc })
    { b with steps := labelled }

/-- Puts the alternatives of spliced rules in their places, one production for each
    combination. -/
def Body.resolve (splices : Array (List Body)) (b : Body) : List Body :=
  b.steps.foldl (fun acc s =>
    match s.symbol with
    | .splice i =>
      acc.flatMap fun a => (splices.getD i []).map fun inner => a.append (inner.atPlace s)
    | _ => acc.map fun a => { a with steps := a.steps ++ [s] }) [⟨[], b.weight⟩]

end CallAtlas.Grammar
