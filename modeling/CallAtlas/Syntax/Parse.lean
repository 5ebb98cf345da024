import CallAtlas.Syntax.Token
import CallAtlas.Syntax.Tree

/-! # Parsing Python

    `parse` reads a text by the grammar and shows its derivation as a syntax tree. Hidden
    constructs and repetitions give way to their parts; a part that a construct shows under
    another kind gets that kind.
-/

namespace CallAtlas.Syntax

open CallAtlas.Text
open CallAtlas.Grammar

/-! ## Section 1: From derivations to trees -/

/-- The construct with a given symbol, if the symbol is one. -/
def phraseOf (phrases : Array Phrase) (t : Table) (symbol : Nat) : Option Phrase :=
  phrases[symbol - t.terminals.size]?

/-- Gives a role to nodes that have none. -/
def withField (f : Option Field) (nodes : List Node) : List Node :=
  match f with
  | none => nodes
  | some f => nodes.map fun n => { n with field := n.field.orElse fun _ => some f }

mutual

/-- The nodes that show a derivation under a label. -/
def showDerivation (phrases : Array Phrase) (t : Table) (label : Label) : Derivation → List Node
  | .leaf token start stop extra =>
    let terminal := t.terminals.getD token default
    match label.shownAs with
    | some kind => [⟨kind, start, stop, label.field, extra, .sound, []⟩]
    | none =>
      if terminal.isHidden then []
      else [⟨.terminal terminal, start, stop, label.field, extra, .sound, []⟩]
  | .node symbol production _ start stop parts =>
    let children := showParts phrases t
      (((t.productions.getD production default).steps.toList).map (·.label)) parts
    match label.shownAs with
    | some kind => [⟨kind, start, stop, label.field, false, .sound, children⟩]
    | none =>
      match phraseOf phrases t symbol with
      | some p =>
        if p.isHidden then withField label.field children
        else [⟨.phrase p, start, stop, label.field, false, .sound, children⟩]
      | none => withField label.field children

/-- The nodes that show the parts of a production under the labels of its steps; extra
    leaves have no step of their own. -/
def showParts (phrases : Array Phrase) (t : Table) : List Label → List Derivation → List Node
  | _, [] => []
  | labels, d :: ds =>
    if d.isExtra then
      showDerivation phrases t ⟨none, none⟩ d ++ showParts phrases t labels ds
    else
      match labels with
      | [] => showDerivation phrases t ⟨none, none⟩ d ++ showParts phrases t [] ds
      | label :: labels => showDerivation phrases t label d ++ showParts phrases t labels ds

end

/-! ## Section 2: The parser -/

/-- The tables of the Python grammar. -/
def pythonTable : Table := Table.ofRules pythonGrammar

def pythonVocabulary : Vocabulary := Vocabulary.ofTable pythonTable

/-- The tree of a text, or none if the grammar does not accept the text. -/
def parse (text : String) : Option Node :=
  match read pythonTable pythonVocabulary.tokenizer text with
  | none => none
  | some d => (showDerivation Phrase.all.toArray pythonTable ⟨none, none⟩ d).head?

end CallAtlas.Syntax
