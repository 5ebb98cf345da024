import CallAtlas.Text.CharSet

/-! # The syntax of regular expressions

    A regular expression as it is written, before flags take effect.
-/

namespace CallAtlas.Regex

inductive Flag where
  | ignoreCase
  | multiLine
  | dotAll
  | swapGreed
  | unicode
  | crlf
  | verbose
  deriving DecidableEq, Inhabited

/-- Flags to turn on or off. -/
abbrev FlagChanges := List (Flag × Bool)

/-- A place in the text, without width. -/
inductive Anchor where
  | lineStart
  | lineEnd
  | textStart
  | textEnd
  | wordBoundary
  | insideWordOrOutside
  | wordStart
  | wordEnd
  | wordStartHalf
  | wordEndHalf
  deriving DecidableEq, Inhabited

/-- The classes with a one-letter escape. -/
inductive ShortClass where
  | digit
  | space
  | word
  deriving DecidableEq, Inhabited

/-- The Unicode property that a class asks for. -/
inductive PropertyQuery where
  | named (name : String)
  | valued (name value : String)
  deriving DecidableEq, Inhabited

inductive ClassOp where
  | intersection
  | difference
  | symmetricDifference
  deriving DecidableEq, Inhabited

mutual

inductive ClassItem where
  | literal (c : Char)
  | range (low high : Char)
  | posix (members : List (Nat × Nat)) (negated : Bool)
  | short (cls : ShortClass) (negated : Bool)
  | property (query : PropertyQuery) (negated : Bool)
  | bracket (negated : Bool) (members : ClassMembers)

inductive ClassMembers where
  | items (items : List ClassItem)
  | combine (op : ClassOp) (left right : ClassMembers)

end

instance : Inhabited ClassMembers := ⟨.items []⟩
instance : Inhabited ClassItem := ⟨.literal 'a'⟩

inductive Expr where
  | empty
  | flags (changes : FlagChanges)
  /-- A character; `byte` if it is written as `\x` with two digits. -/
  | literal (c : Char) (byte : Bool)
  | dot
  | anchor (a : Anchor)
  | short (cls : ShortClass) (negated : Bool)
  | property (query : PropertyQuery) (negated : Bool)
  | bracket (negated : Bool) (members : ClassMembers)
  | repeated (least : Nat) (most : Option Nat) (e : Expr)
  | group (changes : FlagChanges) (e : Expr)
  | alternatives (es : List Expr)
  | sequence (es : List Expr)
  deriving Inhabited

/-! ## Nesting -/

mutual

def ClassItem.depth : ClassItem → Nat
  | .bracket _ members => members.depth + 1
  | _ => 0

def ClassItem.depths : List ClassItem → Nat
  | [] => 0
  | i :: is => max i.depth (ClassItem.depths is)

/-- How deep a class nests. Several items side by side count as one level. -/
def ClassMembers.depth : ClassMembers → Nat
  | .items [] => 0
  | .items [i] => i.depth
  | .items (i :: j :: is) => max i.depth (ClassItem.depths (j :: is)) + 1
  | .combine _ left right => max left.depth right.depth + 1

end

mutual

/-- How deep an expression nests. -/
def Expr.depth : Expr → Nat
  | .bracket _ members => members.depth + 1
  | .repeated _ _ e => e.depth + 1
  | .group _ e => e.depth + 1
  | .alternatives es => Expr.depths es + 1
  | .sequence es => Expr.depths es + 1
  | _ => 0

def Expr.depths : List Expr → Nat
  | [] => 0
  | e :: es => max e.depth (Expr.depths es)

end

end CallAtlas.Regex
