import CallAtlas.Syntax.Fault
import CallAtlas.Text.Span

/-! # Extraction errors

    Why an extraction ends without a dataset, the kind of each cause and its wording.
-/

namespace CallAtlas.Extract

open CallAtlas.Syntax
open CallAtlas.Text

/-- How a syntax tree fails to match the text it is read with. -/
inductive TreeFault where
  /-- A definition without a name, by its line. -/
  | unnamed (line : Nat)
  /-- A node whose bytes are not valid UTF-8, by its kind and line. -/
  | unreadable (kind : Kind) (line : Nat) (fault : Utf8.Fault)
  /-- A definition whose span cannot be cut from the text. -/
  | outside (startByte endByte : Nat) (name : String)
  /-- A fault that some other front end has put in words. -/
  | described (text : String)
  deriving DecidableEq, Inhabited

def TreeFault.message : TreeFault → String
  | unnamed line => "function definition at line " ++ toString line ++ " has no name"
  | unreadable kind line fault =>
    "node `" ++ kind.text ++ "` at line " ++ toString line
      ++ " is not valid UTF-8: " ++ fault.message
  | outside startByte endByte name =>
    "span " ++ toString startByte ++ ".." ++ toString endByte ++ " of `" ++ name
      ++ "` lies outside the source"
  | described text => text

inductive ExtractError where
  | syntaxFault (fault : Fault)
  | tooLarge (size limit : Nat)
  /-- The front end has given up. -/
  | frontend (reason : String)
  | malformedTree (fault : TreeFault)
  deriving DecidableEq, Inhabited

namespace ExtractError

/-- The word by which an error is classified. -/
def kind : ExtractError → String
  | syntaxFault _ => "syntax"
  | tooLarge .. => "too_large"
  | frontend _ => "frontend"
  | malformedTree _ => "malformed_tree"

def message : ExtractError → String
  | syntaxFault fault => "syntax error: " ++ fault.message
  | tooLarge size limit =>
    "source is " ++ toString size ++ " bytes, limit is " ++ toString limit
  | frontend reason => "front-end failure: " ++ reason
  | malformedTree fault => "malformed syntax tree: " ++ fault.message

end ExtractError

/-- How an extraction ends without a dataset: with an error, or abruptly, when a node of the
    tree lies outside the text. -/
inductive Failure where
  | error (e : ExtractError)
  | abort
  deriving DecidableEq, Inhabited

def Failure.message : Failure → String
  | error e => e.message
  | abort => "a node of the syntax tree lies outside the source"

/-- The text of a node. -/
def textOf (source : String) (n : Node) : Except Failure String :=
  if n.stop.byte < n.start.byte || source.utf8ByteSize < n.stop.byte then .error .abort
  else
    match (Span.between n.start n.stop).slice source with
    | some text => .ok text
    | none =>
      let bytes := ((Utf8.encode source).drop n.start.byte).take (n.stop.byte - n.start.byte)
      match Utf8.decode bytes with
      | .ok text => .ok text
      | .error fault => .error (.error (.malformedTree (.unreadable n.kind n.line fault)))

end CallAtlas.Extract
