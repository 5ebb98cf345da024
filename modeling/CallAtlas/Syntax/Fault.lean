import CallAtlas.Syntax.Walk

/-! # Syntax faults

    A text is at fault where the grammar does not accept it, and also in three places where
    the grammar is too wide: damaged nodes, statements that only Python 2 has, and blocks
    whose statements are not aligned. `Node.firstFault` finds the first fault on a walk
    through the tree, where a block is judged before its statements are.
-/

namespace CallAtlas.Syntax

open CallAtlas.Text

/-! ## Section 1: Faults -/

/-- What is wrong at a place. -/
inductive Problem where
  | missing (kind : Kind)
  | invalid
  /-- A statement that exists only in Python 2, by its keyword. -/
  | pythonTwoOnly (keyword : String)
  | unexpectedIndent
  | unmatchedUnindent
  /-- A problem that some other front end has put in words. -/
  | described (text : String)
  deriving DecidableEq, Inhabited

def Problem.message : Problem → String
  | missing kind => "expected `" ++ kind.text ++ "`"
  | invalid => "invalid syntax"
  | pythonTwoOnly keyword => "invalid syntax: `" ++ keyword ++ "` is a statement only in Python 2"
  | unexpectedIndent => "unexpected indent"
  | unmatchedUnindent => "unindent does not match any outer indentation level"
  | described text => text

/-- A problem and where it is, line and column counted from one, columns in bytes. -/
structure Fault where
  problem : Problem
  line : Nat
  column : Nat
  deriving DecidableEq, Inhabited

namespace Fault

def message (f : Fault) : String :=
  f.problem.message ++ " at line " ++ toString f.line ++ ", column " ++ toString f.column

/-- A problem at the start of a node. -/
def atNode (n : Node) (p : Problem) : Fault := ⟨p, n.start.row + 1, n.start.column + 1⟩

end Fault

/-! ## Section 2: Statements of Python 2 -/

namespace Node

def hasChild (n : Node) (p : Phrase) : Bool := n.children.any (·.isPhrase p)

/-- A statement that only Python 2 has. With a chevron, as in `print >>f, x`, it is let
    pass, since that is also an expression. -/
def isPythonTwoOnly (n : Node) : Bool :=
  (n.isPhrase .printStatement || n.isPhrase .execStatement) && !n.hasChild .chevron

/-- The word a node starts with. -/
def keyword (n : Node) : String := (n.children.head?.map (·.kind.text)).getD "statement"

/-! ## Section 3: Alignment -/

/-- The first of these nodes that starts a line at another column than `indent`, or than the
    first node that starts a line if `indent` is not set. A node starts a line if it lies
    below the row on which the node before it ends. -/
def misalignedIn (endRow : Option Nat) (indent : Option Nat) : List Node → Option Fault
  | [] => none
  | n :: ns =>
    if (endRow.map fun row => decide (n.start.row ≤ row)).getD false then
      misalignedIn (some n.stop.row) indent ns
    else
      match indent with
      | none => misalignedIn (some n.stop.row) (some n.start.column) ns
      | some column =>
        if column < n.start.column then some (.atNode n .unexpectedIndent)
        else if n.start.column < column then some (.atNode n .unmatchedUnindent)
        else misalignedIn (some n.stop.row) indent ns

/-- The statements of a block. -/
def statements (block : Node) : List Node := block.children.filter fun c => c.isNamed && !c.extra

/-- The first statement of a block that is not aligned with the others, given the node
    before the block. -/
def misaligned (block : Node) (previous : Option Node) : Option Fault :=
  misalignedIn (previous.map (·.stop.row)) none block.statements

/-! ## Section 4: The first fault -/

/-- The fault of a node itself, its parts left aside. -/
def faultAt (v : Visit) : Option Fault :=
  match v.node.health with
  | .missing => some (.atNode v.node (.missing v.node.kind))
  | .error => some (.atNode v.node .invalid)
  | .sound =>
    if v.node.isPythonTwoOnly then some (.atNode v.node (.pythonTwoOnly v.node.keyword))
    else if v.node.isPhrase .block then v.node.misaligned v.previous
    else none

/-- Ends a search at a node with a fault; any other node joins those that have been seen. -/
def examine (seen : List Visit) (v : Visit) : Except Fault (List Visit) :=
  match faultAt v with
  | some fault => .error fault
  | none => .ok (v :: seen)

/-- Searches a tree for a fault. A search that finds none returns all it has seen, the last
    visit first. -/
def search (root : Node) : Except Fault (List Visit) := walk examine [] [.ofRoot root]

/-- The first fault of a tree. A tree that the parser has flagged as damaged is at fault also
    if no node shows it. -/
def firstFault (root : Node) (flagged : Bool) : Option Fault :=
  match root.search with
  | .error fault => some fault
  | .ok _ => if flagged then some (.atNode root .invalid) else none

end Node

end CallAtlas.Syntax
