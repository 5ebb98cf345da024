import CallAtlas.Extract.Dataset
import CallAtlas.Extract.Definition

/-! # Calls

    What each call invokes, and the calls that belong to a definition: those in its
    decorators and those anywhere in its header and body.
-/

namespace CallAtlas.Extract

open CallAtlas.Syntax

/-- What a call invokes. Only a bare name can be resolved. -/
inductive CallTarget where
  | name (name : String)
  | member (object name : String)
  | other
  deriving DecidableEq, Inhabited

/-- The text of an optional node, empty if there is none. -/
def textOfOptional (source : String) : Option Node → Except Failure String
  | none => .ok ""
  | some n => textOf source n

/-- The target of a call. -/
def targetOf (source : String) (call : Node) : Except Failure CallTarget :=
  match call.childByField .function with
  | none => .ok .other
  | some f =>
    if f.kind == .terminal .identifier then (textOf source f).map .name
    else if f.isPhrase .memberAccess then
      match textOfOptional source (f.childByField .object) with
      | .error e => .error e
      | .ok object => (textOfOptional source (f.childByField .member)).map (.member object)
    else .ok .other

/-- The targets of the calls among the given nodes, each with its call. -/
def targetsIn (source : String) : List Node → Except Failure (List (Node × CallTarget))
  | [] => .ok []
  | n :: ns =>
    if n.isPhrase .call then
      match targetOf source n with
      | .error e => .error e
      | .ok target => (targetsIn source ns).map ((n, target) :: ·)
    else targetsIn source ns

/-- The calls of a tree in document order, a call before those inside it. -/
def callsOfTree (source : String) (tree : Node) : Except Failure (List (Node × CallTarget)) :=
  targetsIn source tree.preorder

/-- Adds an element at the end of a list that does not have it. -/
def insertNew (xs : List String) (x : String) : List String :=
  if xs.contains x then xs else xs ++ [x]

theorem nodup_insertNew {xs : List String} (h : xs.Nodup) (x : String) :
    (insertNew xs x).Nodup := by
  unfold insertNew
  split
  · exact h
  · next habsent =>
    exact nodup_concat h (by simpa using habsent)

theorem nodup_foldl_insertNew {α : Type} (name : α → String) (ys : List α) {xs : List String}
    (h : xs.Nodup) : (ys.foldl (fun xs y => insertNew xs (name y)) xs).Nodup := by
  induction ys generalizing xs with
  | nil => exact h
  | cons y ys ih => exact ih (nodup_insertNew h _)

/-- The calls of one definition: the bare names, each at its first call, and the object and
    name of every member call. -/
structure DefinitionCalls where
  callees : List String
  memberCalls : List (String × String)
  deriving DecidableEq, Inhabited

namespace DefinitionCalls

def empty : DefinitionCalls := ⟨[], []⟩

def add (c : DefinitionCalls) : CallTarget → DefinitionCalls
  | .name name => { c with callees := insertNew c.callees name }
  | .member object name => { c with memberCalls := c.memberCalls ++ [(object, name)] }
  | .other => c

/-- Adds the target of a node that is a call. -/
def addNode (source : String) (c : DefinitionCalls) (n : Node) :
    Except Failure DefinitionCalls :=
  if n.isPhrase .call then (targetOf source n).map c.add else .ok c

/-- Adds the calls at and below a node. -/
def addBelow (source : String) (c : DefinitionCalls) (root : Node) :
    Except Failure DefinitionCalls :=
  walk (fun c v => addNode source c v.node) c [.ofRoot root]

end DefinitionCalls

/-- The calls of a definition: those of its decorators and then those of its own node. -/
def Definition.calls (source : String) (d : Definition) : Except Failure DefinitionCalls :=
  match d.decorators.foldlM (DefinitionCalls.addBelow source) .empty with
  | .error e => .error e
  | .ok c => c.addBelow source d.node

end CallAtlas.Extract
