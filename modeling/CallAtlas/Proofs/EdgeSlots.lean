import CallAtlas.Extract.Duplicates
import Mathlib.Data.List.Basic
import Mathlib.Data.List.Induction

/-! # Slots of names that are defined several times

    The slots of `EdgeSlots` end with the edges of the definitions that count: all of them,
    or those that no later definition of the same name follows. The map of latest slots is
    only a way to find the one slot of a name that is not clear yet.
-/

namespace CallAtlas.Extract

/-! ## Section 1: What the slots hold -/

namespace Contribution

@[simp] theorem edges_clear (s : Contribution) : s.clear.edges = [] := rfl

/-- Clears a slot of a given name and leaves any other. -/
def clearNamed (name : String) (s : Contribution) : Contribution :=
  if s.name = name then s.clear else s

@[simp] theorem clearNamed_name (name : String) (s : Contribution) :
    (s.clearNamed name).name = s.name := by
  unfold clearNamed
  split <;> rfl

theorem clearNamed_of_name_eq {name : String} {s : Contribution} (h : s.name = name) :
    s.clearNamed name = s.clear := if_pos h

theorem clearNamed_of_name_ne {name : String} {s : Contribution} (h : s.name ≠ name) :
    s.clearNamed name = s := if_neg h

/-- Where the slots of a name are clear, clearing them changes nothing. -/
theorem map_clearNamed_eq_self {name : String} {slots : List Contribution}
    (h : ∀ s ∈ slots, s.name = name → s.clear = s) : slots.map (clearNamed name) = slots := by
  have hself : ∀ s ∈ slots, s.clearNamed name = id s := by
    intro s hs
    unfold clearNamed
    split
    · exact h s hs ‹_›
    · rfl
  rw [List.map_congr_left hself, List.map_id]

/-- A clear slot stays clear. -/
theorem clear_clearNamed {name : String} {s : Contribution} (h : s.clear = s) :
    (s.clearNamed name).clear = s.clearNamed name := by
  unfold clearNamed
  split
  · rfl
  · exact h

end Contribution

open Contribution

/-- The slots after definitions have come in: those that a later one of the same name
    follows are clear. -/
def standing : List Contribution → List Contribution
  | [] => []
  | s :: rest => (if ∃ t ∈ rest, t.name = s.name then s.clear else s) :: standing rest

/-- One more definition clears the slots of its name and takes a slot of its own. -/
theorem standing_concat (slots : List Contribution) (s : Contribution) :
    standing (slots ++ [s]) = (standing slots).map (clearNamed s.name) ++ [s] := by
  induction slots with
  | nil => simp [standing]
  | cons t rest ih =>
    simp only [List.cons_append, standing, ih, List.map_cons, List.cons.injEq, and_true]
    by_cases hrest : ∃ u ∈ rest, u.name = t.name
    · -- `t` is clear already, and clearing it again changes nothing.
      have hmore : ∃ u ∈ rest ++ [s], u.name = t.name := by
        obtain ⟨u, hu, hname⟩ := hrest
        exact ⟨u, List.mem_append_left _ hu, hname⟩
      rw [if_pos hmore, if_pos hrest]
      unfold clearNamed
      split <;> rfl
    · rw [if_neg hrest]
      by_cases hname : t.name = s.name
      · rw [if_pos ⟨s, by simp, hname.symm⟩, clearNamed_of_name_eq hname]
      · have hnone : ¬ ∃ u ∈ rest ++ [s], u.name = t.name := by
          rintro ⟨u, hu, hu_name⟩
          rcases List.mem_append.mp hu with hu | hu
          · exact hrest ⟨u, hu, hu_name⟩
          · rw [List.mem_singleton.mp hu] at hu_name
            exact hname hu_name.symm
        rw [if_neg hnone, clearNamed_of_name_ne hname]

/-- The standing slots have the edges of the definitions that count. -/
theorem edges_standing (slots : List Contribution) :
    (standing slots).flatMap edges = (counted .lastWins slots).flatMap edges := by
  induction slots with
  | nil => rfl
  | cons s rest ih =>
    -- A clear slot has no edges, and a definition that does not count is left out.
    simp only [standing, counted, List.any_eq_true, beq_iff_eq, List.flatMap_cons]
    by_cases h : ∃ t ∈ rest, t.name = s.name
    · rw [if_pos h, if_pos h, edges_clear, List.nil_append, ih]
    · rw [if_neg h, if_neg h, List.flatMap_cons, ih]

theorem counted_sublist (policy : DuplicatePolicy) (slots : List Contribution) :
    (counted policy slots).Sublist slots := by
  cases policy with
  | union => rw [counted]
  | lastWins =>
    induction slots with
    | nil => exact List.Sublist.refl []
    | cons s rest ih =>
      rw [counted]
      split
      · exact ih.cons s
      · exact ih.cons_cons s

/-! ## Section 2: The map of latest slots -/

/-- Slot `i` is the last one of a name, and the slots of that name before it are clear. -/
def IsLatest (slots : List Contribution) (name : String) (i : Nat) : Prop :=
  ∃ before s after, slots = before ++ s :: after ∧ before.length = i ∧ s.name = name ∧
    (∀ t ∈ before, t.name = name → t.clear = t) ∧ ∀ t ∈ after, t.name ≠ name

/-- To clear the latest slot of a name is to clear all its slots. -/
theorem IsLatest.modify_clear {slots : List Contribution} {name : String} {i : Nat}
    (h : IsLatest slots name i) : slots.modify i clear = slots.map (clearNamed name) := by
  obtain ⟨before, s, after, rfl, rfl, hname, hbefore, hafter⟩ := h
  have hmodify : (before ++ s :: after).modify before.length clear =
      before ++ s.clear :: after := by
    rw [List.modify_eq_take_cons_drop (by simp)]
    simp
  have hb : before.map (clearNamed name) = before := map_clearNamed_eq_self hbefore
  have ha : after.map (clearNamed name) = after :=
    map_clearNamed_eq_self fun t ht htname => absurd htname (hafter t ht)
  rw [hmodify, List.map_append, List.map_cons, hb, ha, clearNamed_of_name_eq hname]

/-- A definition of another name leaves the latest slot where it is. -/
theorem IsLatest.concat {slots : List Contribution} {name : String} {i : Nat}
    (h : IsLatest slots name i) {s : Contribution} (hs : s.name ≠ name) :
    IsLatest (slots.map (clearNamed s.name) ++ [s]) name i := by
  obtain ⟨before, t, after, rfl, rfl, hname, hbefore, hafter⟩ := h
  refine ⟨before.map (clearNamed s.name), t.clearNamed s.name,
    after.map (clearNamed s.name) ++ [s], by simp, by simp, by simpa using hname, ?_, ?_⟩
  · intro u hu huname
    obtain ⟨v, hv, rfl⟩ := List.mem_map.mp hu
    exact clear_clearNamed (hbefore v hv (by simpa using huname))
  · intro u hu
    rcases List.mem_append.mp hu with hu | hu
    · obtain ⟨v, hv, rfl⟩ := List.mem_map.mp hu
      simpa using hafter v hv
    · rw [List.mem_singleton.mp hu]
      exact hs

/-- A new definition has the latest slot of its name. -/
theorem isLatest_concat_self (slots : List Contribution) (s : Contribution) :
    IsLatest (slots.map (clearNamed s.name) ++ [s]) s.name slots.length := by
  refine ⟨slots.map (clearNamed s.name), s, [], rfl, by simp, rfl, ?_, by simp⟩
  intro t ht htname
  obtain ⟨u, _, rfl⟩ := List.mem_map.mp ht
  rw [clearNamed_of_name_eq (by simpa using htname)]
  rfl

namespace EdgeSlots

/-- What holds after the definitions of a list have come in under `lastWins`. -/
structure Tracks (e : EdgeSlots) (seen : List Contribution) : Prop where
  slots : e.slots.toList = standing seen
  known : ∀ name i, e.latest[name]? = some i → IsLatest e.slots.toList name i
  fresh : ∀ name, e.latest[name]? = none → ∀ s ∈ e.slots.toList, s.name ≠ name

theorem tracks_empty : Tracks empty [] := by
  constructor
  · rfl
  · intro name i h
    simp [empty] at h
  · simp [empty]

/-- Under `lastWins` a new definition clears all slots of its name. -/
theorem Tracks.toList_add {e : EdgeSlots} {seen : List Contribution} (h : e.Tracks seen)
    (s : Contribution) :
    (e.add .lastWins s).slots.toList = e.slots.toList.map (clearNamed s.name) ++ [s] := by
  unfold add
  cases hl : e.latest[s.name]? with
  | none =>
    have hother : e.slots.toList.map (clearNamed s.name) = e.slots.toList :=
      map_clearNamed_eq_self fun t ht htname => absurd htname (h.fresh s.name hl t ht)
    simp [hother]
  | some i => simp [(h.known s.name i hl).modify_clear]

/-- The step: what holds before a definition comes in holds after it. -/
theorem Tracks.add {e : EdgeSlots} {seen : List Contribution} (h : e.Tracks seen)
    (s : Contribution) : Tracks (e.add .lastWins s) (seen ++ [s]) := by
  have hslots := h.toList_add s
  have hlatest : ∀ name, (e.add .lastWins s).latest[name]? =
      if s.name = name then some e.slots.toList.length else e.latest[name]? := by
    intro name
    simp [EdgeSlots.add, Std.HashMap.getElem?_insert]
  refine ⟨by rw [hslots, h.slots, standing_concat], ?_, ?_⟩
  · -- A name keeps its latest slot unless the new definition is of this name.
    intro name i hi
    rw [hlatest] at hi
    rw [hslots]
    by_cases hname : s.name = name
    · rw [if_pos hname] at hi
      obtain rfl := Option.some.inj hi
      exact hname ▸ isLatest_concat_self _ s
    · rw [if_neg hname] at hi
      exact (h.known name i hi).concat hname
  · intro name hnone t ht
    rw [hlatest] at hnone
    rw [hslots] at ht
    by_cases hname : s.name = name
    · rw [if_pos hname] at hnone
      contradiction
    · rw [if_neg hname] at hnone
      rcases List.mem_append.mp ht with ht | ht
      · obtain ⟨u, hu, rfl⟩ := List.mem_map.mp ht
        simpa using h.fresh name hnone u hu
      · rw [List.mem_singleton.mp ht]
        exact hname

/-- The run: it holds after any definitions have come in. -/
theorem tracks_ofList (slots : List Contribution) : Tracks (ofList .lastWins slots) slots := by
  induction slots using List.reverseRecOn with
  | nil => exact tracks_empty
  | append_singleton seen s ih =>
    have hstep : ofList .lastWins (seen ++ [s]) = (ofList .lastWins seen).add .lastWins s := by
      simp [ofList]
    rw [hstep]
    exact ih.add s

theorem toList_ofList_union (slots : List Contribution) :
    (ofList .union slots).slots.toList = slots := by
  induction slots using List.reverseRecOn with
  | nil => rfl
  | append_singleton seen s ih =>
    have hstep : ofList .union (seen ++ [s]) = (ofList .union seen).add .union s := by
      simp [ofList]
    simp [hstep, add, ih]

/-- The slots end with the edges of the definitions that count. -/
theorem edges_ofList (policy : DuplicatePolicy) (slots : List Contribution) :
    (ofList policy slots).edges = (counted policy slots).flatMap Contribution.edges := by
  cases policy with
  | lastWins => rw [edges, (tracks_ofList slots).slots, edges_standing]
  | union => rw [edges, toList_ofList_union, counted]

end EdgeSlots

end CallAtlas.Extract
