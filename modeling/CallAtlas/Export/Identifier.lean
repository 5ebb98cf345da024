import CallAtlas.Text.Alphanumeric

/-! # Identifiers for drawings

    A name made safe for use as an identifier: letters, digits and underscores, not starting
    with a digit, never empty.
-/

namespace CallAtlas.Export

open CallAtlas.Text

def isIdentifierChar (c : Char) : Bool := isAlphanumeric c || c == '_'

/-- Puts underscores for all other characters. -/
def maskChars (cs : List Char) : List Char :=
  cs.map fun c => if isIdentifierChar c then c else '_'

/-- The identifier for a name. An ASCII digit at the start is put behind an `n`. -/
def identifierOf (name : String) : String :=
  match maskChars name.toList with
  | [] => "node"
  | c :: rest => String.ofList (if c.isDigit then 'n' :: c :: rest else c :: rest)

theorem isIdentifierChar_of_mem_identifierOf {name : String} {c : Char}
    (h : c ∈ (identifierOf name).toList) : isIdentifierChar c = true := by
  have hmask : ∀ d ∈ maskChars name.toList, isIdentifierChar d = true := by
    intro d hd
    obtain ⟨d', _, rfl⟩ := List.mem_map.mp hd
    split
    · assumption
    · decide
  unfold identifierOf at h
  split at h
  · have hnode : "node".toList.all isIdentifierChar = true := by decide
    exact List.all_eq_true.mp hnode c h
  · next first rest hcs =>
    rw [hcs] at hmask
    rw [String.toList_ofList] at h
    split at h
    · rcases List.mem_cons.mp h with rfl | h
      · decide
      · exact hmask c h
    · exact hmask c h

end CallAtlas.Export
