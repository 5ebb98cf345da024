import CallAtlas.Export.Identifier
import Mathlib.Data.String.Basic

/-! # Identifiers are legal

    Masking, the `n` before a digit and the word for the empty name are done one after the
    other, and none of them undoes what another is for: what comes out can stand as it is. A
    name that can stand as it is stays the same, so there is nothing left to do a second time.
-/

namespace CallAtlas.Export

open CallAtlas.Text

/-- A name that can stand as it is. -/
structure IsIdentifier (name : String) : Prop where
  ne_empty : name ≠ ""
  chars : ∀ c ∈ name.toList, isAlphanumeric c = true ∨ c = '_'
  /-- No ASCII digit stands at the start; digits of other scripts may. -/
  start : ∀ c ∈ name.toList.head?, ¬ ('0' ≤ c ∧ c ≤ '9')

/-! ## Section 1: Characters -/

theorem isIdentifierChar_iff {c : Char} :
    isIdentifierChar c = true ↔ isAlphanumeric c = true ∨ c = '_' := by
  simp [isIdentifierChar]

theorem isDigit_eq_true_iff {c : Char} : c.isDigit = true ↔ '0' ≤ c ∧ c ≤ '9' := by
  simp [Char.isDigit, Char.le_def]

theorem maskChars_eq_self {cs : List Char} (h : ∀ c ∈ cs, isIdentifierChar c = true) :
    maskChars cs = cs := by
  have hmask : ∀ c ∈ cs, (if isIdentifierChar c then c else '_') = c := by
    intro c hc
    rw [if_pos (h c hc)]
  rw [maskChars, List.map_congr_left hmask, List.map_id']

/-! ## Section 2: Names -/

theorem identifierOf_ne_empty (name : String) : identifierOf name ≠ "" := by
  unfold identifierOf
  split
  · decide
  · rw [ne_eq, ← String.toList_inj, String.toList_ofList]
    split <;> simp

/-- The start is judged behind the mask: a masked character is no digit, and neither is the `n`
    that is put before one. -/
theorem isDigit_head_identifierOf {name : String} {c : Char}
    (h : c ∈ (identifierOf name).toList.head?) : c.isDigit = false := by
  unfold identifierOf at h
  split at h
  · cases h
    decide
  · rw [String.toList_ofList] at h
    split at h
    · cases h
      decide
    · next hdigit =>
      cases h
      simpa using hdigit

theorem isIdentifier_identifierOf (name : String) : IsIdentifier (identifierOf name) where
  ne_empty := identifierOf_ne_empty name
  chars c hc := isIdentifierChar_iff.mp (isIdentifierChar_of_mem_identifierOf hc)
  start c hc := by
    rw [← isDigit_eq_true_iff, isDigit_head_identifierOf hc]
    exact Bool.false_ne_true

theorem IsIdentifier.identifierOf_eq {name : String} (h : IsIdentifier name) :
    identifierOf name = name := by
  have hmask : maskChars name.toList = name.toList :=
    maskChars_eq_self fun c hc => isIdentifierChar_iff.mpr (h.chars c hc)
  unfold identifierOf
  rw [hmask]
  split
  · next hnil => exact absurd (String.toList_eq_nil_iff.mp hnil) h.ne_empty
  · next c rest hcs =>
    have hdigit : ¬ c.isDigit = true := by
      rw [isDigit_eq_true_iff]
      exact h.start c (by rw [hcs]; rfl)
    rw [if_neg hdigit, ← hcs, String.ofList_toList]

/-- **Identifiers are legal.** What is made of a name is never empty, has letters, digits and
    underscores only, and starts with no ASCII digit. A name is left as it is if and only if it
    has these three properties already, so a second pass changes nothing. -/
theorem identifierOf_legal (name : String) :
    IsIdentifier (identifierOf name) ∧
    (identifierOf name = name ↔ IsIdentifier name) ∧
    identifierOf (identifierOf name) = identifierOf name := by
  have hlegal := isIdentifier_identifierOf name
  refine ⟨hlegal, ⟨?_, IsIdentifier.identifierOf_eq⟩, hlegal.identifierOf_eq⟩
  intro hsame
  rwa [hsame] at hlegal

-- The second name starts with a digit of another script.
example : identifierOf "1.b" = "n1_b" ∧ identifierOf "\u0663b" = "\u0663b" := by decide

end CallAtlas.Export
