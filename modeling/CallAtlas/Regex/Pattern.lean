import CallAtlas.Regex.Property

/-! # Patterns

    A regular expression with its flags worked out. Without the flag `unicode` classes are
    over single bytes, and one that goes beyond ASCII is refused, since it could cut through a
    character. A pattern whose automaton would be too large is refused as well.
-/

namespace CallAtlas.Regex

open CallAtlas.Text

/-! ## Section 1: Patterns -/

/-- A condition on the characters before and behind a place. -/
inductive Look where
  | textStart
  | textEnd
  | lineStart (crlf : Bool)
  | lineEnd (crlf : Bool)
  | word (kind : Anchor) (unicode : Bool)
  deriving DecidableEq, Inhabited

inductive Pattern where
  | empty
  | one (s : CharSet)
  | look (l : Look)
  | sequence (ps : List Pattern)
  | choice (ps : List Pattern)
  | repeated (least : Nat) (most : Option Nat) (p : Pattern)
  deriving Inhabited

structure Flags where
  ignoreCase : Bool
  multiLine : Bool
  dotAll : Bool
  unicode : Bool
  crlf : Bool
  deriving DecidableEq, Inhabited

def Flags.initial : Flags := ⟨false, false, false, true, false⟩

def Flags.change (f : Flags) : Flag × Bool → Flags
  | (.ignoreCase, on) => { f with ignoreCase := on }
  | (.multiLine, on) => { f with multiLine := on }
  | (.dotAll, on) => { f with dotAll := on }
  | (.unicode, on) => { f with unicode := on }
  | (.crlf, on) => { f with crlf := on }
  | (.swapGreed, _) => f
  | (.verbose, _) => f

def Flags.changeAll (f : Flags) (changes : FlagChanges) : Flags := changes.foldl Flags.change f

/-! ## Section 2: Classes -/

def closeUnderCase (f : Flags) (s : CharSet) : CharSet :=
  if !f.ignoreCase then s
  else if f.unicode then s.closeUnderCase else s.closeUnderAsciiCase

/-- The members of a class or, if it is negated, all other characters. -/
def negateIf (f : Flags) (negated : Bool) (s : CharSet) : Option CharSet :=
  let s := if negated then s.complement else s
  if !f.unicode && !s.isAscii then none else some s

def shortSet (f : Flags) (cls : ShortClass) (negated : Bool) : Option CharSet :=
  negateIf f negated (cls.set f.unicode)

def propertySet (f : Flags) (query : PropertyQuery) (negated : Bool) : Option CharSet :=
  if !f.unicode then none
  else (Property.set? query).bind fun s => negateIf f negated (closeUnderCase f s)

mutual

def ClassItem.set (f : Flags) : ClassItem → Option CharSet
  | .literal c => if !f.unicode && 0x80 ≤ c.toNat then none else some (.singleton c)
  | .range low high =>
    if !f.unicode && 0x80 ≤ high.toNat then none else some ⟨[(low.toNat, high.toNat)]⟩
  | .posix members negated => negateIf f negated (closeUnderCase f ⟨members⟩)
  | .short cls negated => shortSet f cls negated
  | .property query negated => propertySet f query negated
  | .bracket negated members =>
    (members.set f).bind fun s => negateIf f negated (closeUnderCase f s)

def ClassItem.sets (f : Flags) : List ClassItem → Option (List CharSet)
  | [] => some []
  | i :: is =>
    match i.set f, ClassItem.sets f is with
    | some s, some ss => some (s :: ss)
    | _, _ => none

def ClassMembers.set (f : Flags) : ClassMembers → Option CharSet
  | .items is => (ClassItem.sets f is).map CharSet.unionAll
  | .combine op left right =>
    match left.set f, right.set f with
    | some left, some right =>
      let left := closeUnderCase f left
      let right := closeUnderCase f right
      some (match op with
        | .intersection => left.intersection right
        | .difference => left.difference right
        | .symmetricDifference => left.symmetricDifference right)
    | _, _ => none

end

/-! ## Section 3: Expressions -/

def literalPattern (f : Flags) (c : Char) (byte : Bool) : Option Pattern :=
  if byte && !f.unicode && 0x80 ≤ c.toNat then none
  else if !f.ignoreCase then some (.one (.singleton c))
  else if f.unicode then
    some (.one (.ofRanges ((c.toNat, c.toNat) :: (CaseFold.variants c.toNat).map fun v => (v, v))))
  else some (.one (CharSet.singleton c).closeUnderAsciiCase)

/-- Any character, or any that does not end a line. -/
def dotPattern (f : Flags) : Option Pattern :=
  if !f.unicode then none
  else if f.dotAll then some (.one ⟨[(0, CharSet.lastCode)]⟩)
  else if f.crlf then some (.one (CharSet.ofRanges [(0xa, 0xa), (0xd, 0xd)]).complement)
  else some (.one (CharSet.singleton '\n').complement)

def lookOf (f : Flags) : Anchor → Look
  | .textStart => .textStart
  | .textEnd => .textEnd
  | .lineStart => if f.multiLine then .lineStart f.crlf else .textStart
  | .lineEnd => if f.multiLine then .lineEnd f.crlf else .textEnd
  | kind => .word kind f.unicode

mutual

/-- The pattern of an expression and the flags behind it. A change of flags lasts until the
    end of the group. -/
def Expr.pattern (f : Flags) : Expr → Option (Pattern × Flags)
  | .empty => some (.empty, f)
  | .flags changes => some (.empty, f.changeAll changes)
  | .literal c byte => (literalPattern f c byte).map (·, f)
  | .dot => (dotPattern f).map (·, f)
  | .anchor a => some (.look (lookOf f a), f)
  | .short cls negated => (shortSet f cls negated).map fun s => (.one s, f)
  | .property query negated => (propertySet f query negated).map fun s => (.one s, f)
  | .bracket negated members =>
    ((members.set f).bind fun s => negateIf f negated (closeUnderCase f s)).map fun s => (.one s, f)
  | .repeated least most e => (e.pattern f).map fun (p, f) => (.repeated least most p, f)
  | .group changes e => (e.pattern (f.changeAll changes)).map fun (p, _) => (p, f)
  | .alternatives es => (Expr.patterns f es).map fun (ps, f) => (.choice ps, f)
  | .sequence es => (Expr.patterns f es).map fun (ps, f) => (.sequence ps, f)

def Expr.patterns (f : Flags) : List Expr → Option (List Pattern × Flags)
  | [] => some ([], f)
  | e :: es =>
    match e.pattern f with
    | none => none
    | some (p, f) => (Expr.patterns f es).map fun (ps, f) => (p :: ps, f)

end

/-! ## Section 4: Size -/

/-- About how many bytes the automaton of a class takes. -/
def CharSet.automatonSize (s : CharSet) : Nat :=
  s.ranges.foldl (fun n (_, high) => n + if high < 0x80 then 8 else 60) 32

mutual

/-- About how many bytes the automaton of a pattern takes. -/
def Pattern.size : Pattern → Nat
  | .empty => 32
  | .one s => CharSet.automatonSize s
  | .look _ => 32
  | .sequence ps => Pattern.sizes ps
  | .choice ps => Pattern.sizes ps + 64
  | .repeated least most p =>
    match most with
    | none => (max least 1) * p.size + 40
    | some most => most * p.size + (most - least) * 40 + 32

def Pattern.sizes : List Pattern → Nat
  | [] => 0
  | p :: ps => p.size + Pattern.sizes ps

end

/-- No automaton may take more bytes than this. -/
def maxSize : Nat := 10485760

end CallAtlas.Regex
