import CallAtlas.Text.Replace
import Mathlib.Data.List.Basic
import Mathlib.Data.String.Basic

/-! # Replacements one after another

    Where no replacement finds a character that an earlier one has put in, their order does
    not show: each character of the text is replaced on its own.
-/

namespace CallAtlas.Text

/-- What the first rule for a character puts in its place. -/
def replacementOf : List (Char × String) → Char → List Char
  | [], c => [c]
  | rule :: rules, c => if c = rule.1 then rule.2.toList else replacementOf rules c

/-- No rule replaces a character that an earlier rule puts in. -/
def Independent (rules : List (Char × String)) : Prop :=
  rules.Pairwise fun earlier later => later.1 ∉ earlier.2.toList

instance (rules : List (Char × String)) : Decidable (Independent rules) :=
  inferInstanceAs (Decidable (List.Pairwise _ _))

theorem toList_replaceChar (old : Char) (new s : String) :
    (replaceChar old new s).toList =
      s.toList.flatMap fun c => if c = old then new.toList else [c] := String.toList_ofList

theorem replaceChain_cons (rule : Char × String) (rules : List (Char × String)) (s : String) :
    replaceChain (rule :: rules) s = replaceChain rules (replaceChar rule.1 rule.2 s) := rfl

theorem replacementOf_of_forall_ne {rules : List (Char × String)} {c : Char}
    (h : ∀ rule ∈ rules, rule.1 ≠ c) : replacementOf rules c = [c] := by
  induction rules with
  | nil => rfl
  | cons rule rules ih =>
    obtain ⟨hrule, hrules⟩ := List.forall_mem_cons.mp h
    rw [replacementOf, if_neg hrule.symm, ih hrules]

/-- A text without a character of the rules stays as it is. -/
theorem flatMap_replacementOf_eq_self {rules : List (Char × String)} {cs : List Char}
    (h : ∀ rule ∈ rules, rule.1 ∉ cs) : cs.flatMap (replacementOf rules) = cs := by
  have hself : ∀ c ∈ cs, replacementOf rules c = [c] := by
    intro c hc
    refine replacementOf_of_forall_ne fun rule hrule heq => ?_
    exact h rule hrule (heq ▸ hc)
  rw [List.flatMap_congr hself, List.flatMap_singleton']

/-- Independent rules, applied one after another, replace each character on its own. -/
theorem toList_replaceChain {rules : List (Char × String)} (h : Independent rules) (s : String) :
    (replaceChain rules s).toList = s.toList.flatMap (replacementOf rules) := by
  -- For every text at once: the rules behind the first work on what it leaves.
  induction rules generalizing s with
  | nil => exact (List.flatMap_singleton' s.toList).symm
  | cons rule rules ih =>
    obtain ⟨hrule, hrules⟩ := List.pairwise_cons.mp h
    rw [replaceChain_cons, ih hrules, toList_replaceChar, List.flatMap_assoc]
    refine List.flatMap_congr fun c _ => ?_
    rw [replacementOf]
    by_cases hc : c = rule.1
    · -- What the first rule puts in, the others leave.
      rw [if_pos hc, if_pos hc]
      exact flatMap_replacementOf_eq_self hrule
    · rw [if_neg hc, if_neg hc, List.flatMap_singleton]

end CallAtlas.Text
