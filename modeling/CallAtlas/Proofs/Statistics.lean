import CallAtlas.Graph.Stats
import CallAtlas.Proofs.Building
import Mathlib.Data.Finset.Card

/-! # Statistics and the dataset they are of

    The statistics are taken from the call graph: unresolved names by a difference of two
    counts, roots and leaves by a look at the neighbours of a node. If every caller is a
    function, each of them says something about the lists of the dataset alone, since the
    graph has a node for each name and a call for each call of the dataset.
-/

namespace CallAtlas.Graph

open CallAtlas.Extract

namespace CallGraph

/-! ## Section 1: Neighbours -/

theorem mem_names_of_mem_calls {d : Dataset} {e : CallEdge} (h : e ∈ d.calls) :
    e.caller ∈ (ofDataset d).names ∧ e.callee ∈ (ofDataset d).names :=
  ⟨mem_names_ofDataset.mpr (.inr ⟨e, h, .inl rfl⟩),
    mem_names_ofDataset.mpr (.inr ⟨e, h, .inr rfl⟩)⟩

theorem isCalledByOther_ofDataset {d : Dataset} {name : String}
    (h : name ∈ (ofDataset d).names) :
    (ofDataset d).isCalledByOther name = true ↔
      ∃ e ∈ d.calls, e.callee = name ∧ e.caller ≠ name := by
  simp only [isCalledByOther, indexOf?_eq_idxOf h]
  rw [calls_ofDataset, List.any_map, List.any_eq_true]
  refine exists_congr fun e => and_congr_right fun he => ?_
  obtain ⟨hcaller, hcallee⟩ := mem_names_of_mem_calls he
  simp [List.idxOf_inj hcaller, List.idxOf_inj hcallee]

theorem callsAny_ofDataset {d : Dataset} {name : String} (h : name ∈ (ofDataset d).names) :
    (ofDataset d).callsAny name = true ↔ ∃ e ∈ d.calls, e.caller = name := by
  simp only [callsAny, indexOf?_eq_idxOf h]
  rw [calls_ofDataset, List.any_map, List.any_eq_true]
  refine exists_congr fun e => and_congr_right fun he => ?_
  simp [List.idxOf_inj (mem_names_of_mem_calls he).1]

/-! ## Section 2: Unresolved names -/

/-- The names that are not functions are counted. -/
theorem unresolvedCount_ofDataset (d : Dataset) :
    (ofDataset d).unresolvedCount =
      ((ofDataset d).names.filter fun name => name ∉ d.functions).length := by
  have hfunctions : (ofDataset d).functionCount =
      (ofDataset d).names.countP fun name => name ∈ d.functions := by
    rw [ofDataset, functionCount_run]
    simp only [any_firstStep_stepsOf]
  have hsum := (ofDataset d).functionCount_add_unresolvedCount
  have hparts := (ofDataset d).names.length_eq_countP_add_countP fun name => name ∈ d.functions
  rw [← List.countP_eq_length_filter]
  simp only [decide_eq_true_eq] at hparts
  omega

/-- The callees of the dangling calls are the callees that are no functions. -/
theorem toFinset_callees_dangling (d : Dataset) :
    (d.dangling.map (·.callee)).toFinset =
      {name ∈ (d.calls.map (·.callee)).toFinset | name ∉ d.functions} := by
  ext name
  simp only [List.mem_toFinset, List.mem_map, Dataset.mem_dangling, Finset.mem_filter]
  constructor
  · rintro ⟨e, ⟨he, hnot⟩, rfl⟩
    exact ⟨⟨e, he, rfl⟩, hnot⟩
  · rintro ⟨⟨e, he, rfl⟩, hnot⟩
    exact ⟨e, ⟨he, hnot⟩, rfl⟩

/-- If callers are functions, any other name of the graph is the callee of a dangling call. -/
theorem unresolvedCount_eq_card {d : Dataset} (h : ∀ e ∈ d.calls, e.caller ∈ d.functions) :
    (ofDataset d).unresolvedCount = (d.dangling.map (·.callee)).toFinset.card := by
  have hnodup : ((ofDataset d).names.filter fun name => name ∉ d.functions).Nodup :=
    (ofDataset d).nodup_names.filter _
  rw [unresolvedCount_ofDataset, ← List.toFinset_card_of_nodup hnodup]
  congr 1
  ext name
  simp only [List.mem_toFinset, List.mem_filter, List.mem_map, Dataset.mem_dangling,
    decide_eq_true_eq]
  constructor
  · rintro ⟨hname, hnot⟩
    rcases mem_names_ofDataset.mp hname with hfunction | ⟨e, he, rfl | rfl⟩
    · exact absurd hfunction hnot
    · exact absurd (h e he) hnot
    · exact ⟨e, ⟨he, hnot⟩, rfl⟩
  · rintro ⟨e, ⟨he, hnot⟩, rfl⟩
    exact ⟨(mem_names_of_mem_calls he).2, hnot⟩

end CallGraph

/-! ## Section 3: Statistics -/

namespace Stats

open CallGraph

/-- **Statistics.** If every caller is a function, the unresolved names are the different
    callees that are no functions, and the dangling calls those to them; so there are at most
    as many names as calls, and none only if there is no such call. Roots are the functions
    that no other function calls, leaves those that call nothing. -/
theorem ofDataset_meaning {d : Dataset} (h : ∀ e ∈ d.calls, e.caller ∈ d.functions) :
    (ofDataset d).unresolved =
      {name ∈ (d.calls.map (·.callee)).toFinset | name ∉ d.functions}.card ∧
    (ofDataset d).dangling = d.calls.countP (fun e => e.callee ∉ d.functions) ∧
    (ofDataset d).unresolved ≤ (ofDataset d).dangling ∧
    ((ofDataset d).unresolved = 0 ↔ (ofDataset d).dangling = 0) ∧
    (ofDataset d).roots =
      d.functions.filter (fun f => ∀ e ∈ d.calls, e.callee = f → e.caller = f) ∧
    (ofDataset d).leaves = d.functions.filter (fun f => ∀ e ∈ d.calls, e.caller ≠ f) := by
  have hunresolved : (ofDataset d).unresolved = (d.dangling.map (·.callee)).toFinset.card :=
    unresolvedCount_eq_card h
  have hdangling : (ofDataset d).dangling = (d.dangling.map (·.callee)).length :=
    (List.length_map _).symm
  have hnames : ∀ f ∈ d.functions, f ∈ (CallGraph.ofDataset d).names :=
    fun f hf => mem_names_ofDataset.mpr (.inl hf)
  refine ⟨?_, ?_, ?_, ?_, ?_, ?_⟩
  · rw [hunresolved, toFinset_callees_dangling]
  · rw [List.countP_eq_length_filter]
    simp [ofDataset, Dataset.dangling, Dataset.contains]
  · rw [hunresolved, hdangling]
    exact List.toFinset_card_le _
  · rw [hunresolved, hdangling]
    simp
  · refine List.filter_congr fun f hf => ?_
    rw [Bool.eq_iff_iff, Bool.not_eq_true', ← Bool.not_eq_true,
      isCalledByOther_ofDataset (hnames f hf)]
    simp
  · refine List.filter_congr fun f hf => ?_
    rw [Bool.eq_iff_iff, Bool.not_eq_true', ← Bool.not_eq_true, callsAny_ofDataset (hnames f hf)]
    simp

/-- `main` calls `helper` once and `print` twice, `helper` calls `log`, `fact` calls itself,
    and `idle` calls nothing. -/
def sampleDataset : Dataset where
  functions := ["main", "helper", "fact", "idle"]
  calls := [⟨"main", "helper"⟩, ⟨"main", "print"⟩, ⟨"helper", "log"⟩, ⟨"fact", "fact"⟩,
    ⟨"main", "print"⟩]
  code := []
  functions_nodup := by decide
  code_nodup := List.nodup_nil

theorem ofDataset_meaning_sample :
    (∀ e ∈ sampleDataset.calls, e.caller ∈ sampleDataset.functions) ∧
    (ofDataset sampleDataset).unresolved = 2 ∧ (ofDataset sampleDataset).dangling = 3 ∧
    (ofDataset sampleDataset).roots = ["main", "fact", "idle"] ∧
    (ofDataset sampleDataset).leaves = ["idle"] := by
  have hcallers : ∀ e ∈ sampleDataset.calls, e.caller ∈ sampleDataset.functions := by decide
  obtain ⟨hunresolved, hdangling, -, -, hroots, hleaves⟩ := ofDataset_meaning hcallers
  refine ⟨hcallers, ?_, ?_, ?_, ?_⟩
  · rw [hunresolved]
    decide +kernel
  · rw [hdangling]
    decide +kernel
  · rw [hroots]
    decide +kernel
  · rw [hleaves]
    decide +kernel

end Stats

end CallAtlas.Graph
