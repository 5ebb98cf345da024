import CallAtlas.Grammar.State
import CallAtlas.Text.Place

/-! # Derivations

    A derivation is a reading of a text by the productions of a grammar, with the place of
    each part. Comments and line continuations stand among the parts as extra leaves. When a
    text has two readings the one of larger weight is better; of equal weight, the one whose
    first difference, from the top and from the left, has the earlier symbol or the fewer
    parts.
-/

namespace CallAtlas.Grammar

open CallAtlas.Text

inductive Derivation where
  | leaf (token : Nat) (start stop : Place) (extra : Bool)
  /-- A completed production. `weight` is the sum over all productions below and this one. -/
  | node (symbol production : Nat) (weight : Int) (start stop : Place)
      (parts : List Derivation)
  deriving Inhabited

namespace Derivation

def symbol : Derivation → Nat
  | leaf token .. => token
  | node symbol .. => symbol

def start : Derivation → Place
  | leaf _ start .. => start
  | node _ _ _ start .. => start

def stop : Derivation → Place
  | leaf _ _ stop _ => stop
  | node _ _ _ _ stop _ => stop

def weight : Derivation → Int
  | leaf .. => 0
  | node _ _ weight .. => weight

def isExtra : Derivation → Bool
  | leaf _ _ _ extra => extra
  | node .. => false

def parts : Derivation → List Derivation
  | leaf .. => []
  | node _ _ _ _ _ parts => parts

mutual

/-- Order of derivations by symbol, number of parts, and then the parts. -/
def compare : Derivation → Derivation → Ordering
  | a, b =>
    (Ord.compare a.symbol b.symbol).then <|
      (Ord.compare a.parts.length b.parts.length).then <|
        match a with
        | leaf .. => .eq
        | node _ _ _ _ _ parts => compareParts parts b.parts

def compareParts : List Derivation → List Derivation → Ordering
  | a :: as, b :: bs => (compare a b).then (compareParts as bs)
  | _, _ => .eq

end

/-- Whether the first of two readings of one text is at least as good as the second. -/
def prefers (a b : Derivation) : Bool :=
  if a.weight < b.weight then false
  else if b.weight < a.weight then true
  else compare a b != .gt

/-- The better of two readings of one text. -/
def better (a b : Derivation) : Derivation := if prefers a b then a else b

/-- Completes a production at `base`, where the parts begin. -/
def complete (symbol production : Nat) (weight : Int) (base : Place)
    (parts : List Derivation) : Derivation :=
  let start := (parts.head?.map start).getD base
  let stop := (parts.getLast?.map stop).getD base
  node symbol production (parts.foldl (fun sum d => sum + d.weight) weight) start stop parts

end Derivation

end CallAtlas.Grammar
