import CallAtlas.Regex.Pattern
import CallAtlas.Regex.Reader

/-! # Searching

    Whether a pattern matches somewhere in a text. The search follows the set of places that
    can be reached: a pattern takes every place in a set to all places where a match from
    there can end.
-/

namespace CallAtlas.Regex

open CallAtlas.Text

/-! ## Section 1: Places -/

/-- Places between the characters of a text, in ascending order. -/
abbrev Places := List Nat

def Places.union (text : Array Char) (a b : Places) : Places :=
  (List.range (text.size + 1)).filter fun i => a.contains i || b.contains i

def charBefore? (text : Array Char) (i : Nat) : Option Char :=
  if i = 0 then none else text[i - 1]?

def isWordChar (unicode : Bool) (c : Option Char) : Bool :=
  match c with
  | none => false
  | some c => (ShortClass.set .word unicode).contains c

/-- Whether a condition on a word boundary holds, given whether a word character stands before
    and behind the place. -/
def boundaryHolds (kind : Anchor) (before behind : Bool) : Bool :=
  match kind with
  | .wordBoundary => before != behind
  | .insideWordOrOutside => before == behind
  | .wordStart => !before && behind
  | .wordEnd => before && !behind
  | .wordStartHalf => !before
  | .wordEndHalf => !behind
  | _ => false

/-- Whether a condition holds at a place. -/
def Look.holds (text : Array Char) (i : Nat) : Look → Bool
  | .textStart => i = 0
  | .textEnd => i = text.size
  | .lineStart crlf =>
    i = 0 || charBefore? text i == some '\n'
      || (crlf && charBefore? text i == some '\r' && text[i]? != some '\n')
  | .lineEnd crlf =>
    i = text.size || (text[i]? == some '\n' && !(crlf && charBefore? text i == some '\r'))
      || (crlf && text[i]? == some '\r')
  | .word kind unicode =>
    boundaryHolds kind (isWordChar unicode (charBefore? text i)) (isWordChar unicode text[i]?)

/-! ## Section 2: Reaching places -/

/-- Applies a step so many times, or until it changes nothing. -/
def iterate (step : Places → Places) : Nat → Places → Places
  | 0, s => s
  | n + 1, s =>
    let t := step s
    if t == s then s else iterate step n t

mutual

/-- The places where a match from one of the given places can end. Repeating more often than
    there are characters reaches nothing new. -/
def Pattern.reach (text : Array Char) : Pattern → Places → Places
  | .empty, s => s
  | .one cs, s => s.filterMap fun i =>
      match text[i]? with
      | some c => if cs.contains c then some (i + 1) else none
      | none => none
  | .look l, s => s.filter fun i => l.holds text i
  | .sequence ps, s => Pattern.reachAll text ps s
  | .choice ps, s => Pattern.reachAny text ps s
  | .repeated least most p, s =>
    let bound := text.size + 1
    let start := Nat.repeat (p.reach text) (min least bound) s
    let more := match most with
      | none => bound
      | some most => min (most - least) bound
    iterate (fun s => Places.union text s (p.reach text s)) more start

def Pattern.reachAll (text : Array Char) : List Pattern → Places → Places
  | [], s => s
  | p :: ps, s => Pattern.reachAll text ps (p.reach text s)

def Pattern.reachAny (text : Array Char) : List Pattern → Places → Places
  | [], _ => []
  | p :: ps, s => Places.union text (p.reach text s) (Pattern.reachAny text ps s)

end

/-- Whether a pattern matches somewhere in a text. -/
def Pattern.matches (p : Pattern) (text : String) : Bool :=
  let cs := text.toList.toArray
  !(p.reach cs (List.range (cs.size + 1))).isEmpty

/-- Whether a pattern matches a whole text. -/
def Pattern.matchesWhole (p : Pattern) (text : List Char) : Bool :=
  (p.reach text.toArray [0]).contains text.length

/-- The pattern of a regular expression; none if it is not a valid one. -/
def Pattern.ofString? (text : String) : Option Pattern :=
  match Expr.ofString? text with
  | none => none
  | some e =>
    match e.pattern .initial with
    | none => none
    | some (p, _) => if p.size ≤ maxSize then some p else none

end CallAtlas.Regex
