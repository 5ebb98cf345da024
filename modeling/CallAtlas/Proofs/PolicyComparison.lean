import CallAtlas.Proofs.ExtractedDataset
import Mathlib.Data.List.Flatten
import Mathlib.Data.List.Nodup

/-! # The two policies for repeated names compared

    On one source both policies start from the same definitions. `union` keeps the edges of
    all of them and so counts a pair once for each definition that has it. `lastWins` keeps
    some of them, in their order; what it keeps has no pair twice and is grouped by caller.
    The two agree only where a definition that is replaced has nothing to lose.
-/

namespace CallAtlas.Extract

open CallAtlas.Syntax

/-! ## Section 1: Edges of different names -/

/-- Between two edges of a caller there are only edges of that caller. -/
def GroupedByCaller (edges : List CallEdge) : Prop :=
  ∀ x z y, [x, z, y].Sublist edges → x.caller = y.caller → z.caller = x.caller

namespace Contribution

theorem caller_eq_name {s : Contribution} {x : CallEdge} (h : x ∈ s.edges) :
    x.caller = s.name := by
  obtain ⟨callee, -, rfl⟩ := List.mem_map.mp h
  rfl

theorem nodup_edges {s : Contribution} (h : s.callees.Nodup) : s.edges.Nodup :=
  List.Nodup.map (fun _ _ heq => (CallEdge.mk.inj heq).2) h

theorem mem_edges_iff {s : Contribution} {f g : String} :
    (⟨f, g⟩ : CallEdge) ∈ s.edges ↔ s.name = f ∧ g ∈ s.callees := by
  simp [edges, and_comm]

theorem edges_eq_nil_iff {s : Contribution} : s.edges = [] ↔ s.callees = [] := by
  simp [edges]

end Contribution

open Contribution

/-- Slots of different names share no edge. -/
theorem nodup_flatMap_edges {slots : List Contribution}
    (hnames : slots.Pairwise fun s t => s.name ≠ t.name)
    (hcallees : ∀ s ∈ slots, s.callees.Nodup) : (slots.flatMap edges).Nodup := by
  refine List.nodup_flatMap.mpr ⟨fun s hs => nodup_edges (hcallees s hs), hnames.imp ?_⟩
  intro s t hne x hs ht
  exact hne ((caller_eq_name hs).symm.trans (caller_eq_name ht))

theorem groupedByCaller_flatMap_edges {slots : List Contribution}
    (hnames : slots.Pairwise fun s t => s.name ≠ t.name) :
    GroupedByCaller (slots.flatMap edges) := by
  induction slots with
  | nil =>
    intro x z y hsub
    cases hsub
  | cons s rest ih =>
    rw [List.pairwise_cons] at hnames
    intro x z y hsub heq
    have hrest : ∀ e ∈ rest.flatMap edges, e.caller ≠ s.name := by
      intro e he
      obtain ⟨t, ht, het⟩ := List.mem_flatMap.mp he
      rw [caller_eq_name het]
      exact (hnames.1 t ht).symm
    rw [List.flatMap_cons, List.sublist_append_iff] at hsub
    obtain ⟨front, back, hsplit, hfront, hback⟩ := hsub
    rcases front with _ | ⟨x', _ | ⟨z', front⟩⟩
    · -- All three edges are of later slots.
      obtain rfl : [x, z, y] = back := hsplit
      exact ih hnames.2 x z y hback heq
    · -- The first edge is of this slot and the last one is not, so their callers differ.
      obtain ⟨rfl, rfl⟩ : x = x' ∧ [z, y] = back := by simpa using hsplit
      have hx : x.caller = s.name := caller_eq_name (hfront.mem List.mem_cons_self)
      exact absurd (heq.symm.trans hx) (hrest y (hback.mem (by simp)))
    · obtain ⟨rfl, rfl, -⟩ : x = x' ∧ z = z' ∧ [y] = front ++ back := by simpa using hsplit
      have hx : x.caller = s.name := caller_eq_name (hfront.mem List.mem_cons_self)
      have hz : z.caller = s.name := caller_eq_name (hfront.mem (by simp))
      exact hz.trans hx.symm

/-- A pair is counted once for each slot that has it. -/
theorem count_flatMap_edges {slots : List Contribution}
    (hcallees : ∀ s ∈ slots, s.callees.Nodup) (f g : String) :
    (slots.flatMap edges).count ⟨f, g⟩ = slots.countP fun s => s.name = f ∧ g ∈ s.callees := by
  induction slots with
  | nil => rfl
  | cons s rest ih =>
    have hcount : s.edges.count ⟨f, g⟩ = if s.name = f ∧ g ∈ s.callees then 1 else 0 := by
      rw [(nodup_edges (hcallees s List.mem_cons_self)).count]
      simp only [mem_edges_iff]
    rw [List.flatMap_cons, List.count_append, ih fun t ht => hcallees t (List.mem_cons_of_mem s ht),
      hcount, List.countP_cons, Nat.add_comm]
    simp only [decide_eq_true_eq]

/-! ## Section 2: Slots that count -/

theorem pairwise_name_counted (slots : List Contribution) :
    (counted .lastWins slots).Pairwise fun s t => s.name ≠ t.name := by
  induction slots with
  | nil => exact List.Pairwise.nil
  | cons s rest ih =>
    rw [counted]
    split
    · exact ih
    · next hlast =>
      refine List.pairwise_cons.mpr ⟨fun t ht hname => hlast ?_, ih⟩
      rw [List.any_eq_true]
      exact ⟨t, (counted_sublist .lastWins rest).mem ht, beq_iff_eq.mpr hname.symm⟩

/-- Nothing is lost if and only if no slot that a later one replaces has callees. -/
theorem flatMap_counted_eq_iff (slots : List Contribution) :
    (counted .lastWins slots).flatMap edges = slots.flatMap edges ↔
      slots.Pairwise fun s t => t.name = s.name → s.callees = [] := by
  induction slots with
  | nil => exact iff_of_true rfl List.Pairwise.nil
  | cons s rest ih =>
    rw [counted, List.pairwise_cons, ← ih, List.flatMap_cons]
    split
    · next hreplaced =>
      obtain ⟨t, ht, hname⟩ := List.any_eq_true.mp hreplaced
      have hle := ((counted_sublist .lastWins rest).flatMap edges).length_le
      constructor
      · intro heq
        -- What is kept of the others is not longer than they are, so `s` has no edges.
        have hlength := congrArg List.length heq
        rw [List.length_append] at hlength
        have hnil : s.edges = [] := List.length_eq_zero_iff.mp (by omega)
        rw [hnil, List.nil_append] at heq
        exact ⟨fun _ _ _ => edges_eq_nil_iff.mp hnil, heq⟩
      · rintro ⟨hempty, heq⟩
        have hnil : s.edges = [] := edges_eq_nil_iff.mpr (hempty t ht (eq_of_beq hname))
        rw [hnil, List.nil_append, heq]
    · next hlast =>
      have hother : ∀ t ∈ rest, t.name = s.name → s.callees = [] := by
        intro t ht hname
        refine absurd ?_ hlast
        rw [List.any_eq_true]
        exact ⟨t, ht, beq_iff_eq.mpr hname⟩
      rw [List.flatMap_cons, List.append_cancel_left_eq]
      exact (and_iff_right hother).symm

/-! ## Section 3: Extraction -/

namespace Definition

/-- The callees of a definition, none if they cannot be read. -/
def callees (source : String) (d : Definition) : List String :=
  match d.calls source with
  | .ok calls => calls.callees
  | .error _ => []

def contribution (source : String) (d : Definition) : Contribution := ⟨d.name, d.callees source⟩

theorem nodup_callees (source : String) (d : Definition) : (d.callees source).Nodup := by
  unfold callees
  split
  · next calls hcalls =>
    rw [calls_eq_foldlM] at hcalls
    rw [(DefinitionCalls.foldlM_addNode_eq_ok hcalls).1]
    exact nodup_foldl_insertNew id _ .nil
  · exact List.nodup_nil

end Definition

theorem contribution_of_faithful {source : String} {r : Report} (h : r.Faithful source) :
    r.contribution = r.definition.contribution source := by
  simp [Report.contribution, Definition.contribution, Definition.callees, h.calls]

/-- The calls of a dataset in terms of the definitions that it comes from. -/
theorem calls_ofReports_of_faithful {source : String} {reports : List Report}
    (h : ∀ r ∈ reports, r.Faithful source) (policy : DuplicatePolicy) :
    (Dataset.ofReports policy reports).calls = (counted policy
      ((reports.map (·.definition)).map (·.contribution source))).flatMap edges := by
  rw [Dataset.calls_ofReports, List.map_map]
  congr 2
  exact List.map_congr_left fun r hr => contribution_of_faithful (h r hr)

/-- **Policies compared.** If an extraction succeeds, it does so under both policies, with the
    same definitions. The calls under `lastWins` are some of those under `union`, in their
    order; they have no pair twice and are grouped by caller. Under `union` a pair is there
    once for each definition of its caller that has its callee. Both lists are the same if
    and only if every definition that a later one of the same name follows has no callees. -/
theorem tryExtract_policies {frontend : Frontend} {options : Options} {source : String}
    {d : Dataset} (h : (tryExtract frontend options source).2 = .ok d) :
    ∃ tree ds last all, frontend source = .ok tree ∧
      definitions source options.includeAsync tree = .ok ds ∧
      (∀ e ∈ ds, ∃ calls, e.calls source = .ok calls ∧ e.callees source = calls.callees) ∧
      (tryExtract frontend { options with duplicates := .lastWins } source).2 = .ok last ∧
      (tryExtract frontend { options with duplicates := .union } source).2 = .ok all ∧
      last.calls.Sublist all.calls ∧
      last.calls.Nodup ∧
      GroupedByCaller last.calls ∧
      (∀ f g, all.calls.count ⟨f, g⟩ = ds.countP fun e => e.name = f ∧ g ∈ e.callees source) ∧
      (last.calls = all.calls ↔
        ds.Pairwise fun e later => later.name = e.name → e.callees source = []) := by
  obtain ⟨tree, reports, hcollected, hreports, rfl⟩ := tryExtract_eq_ok_iff.mp h
  have hlast := calls_ofReports_of_faithful hreports .lastWins
  have hall := calls_ofReports_of_faithful hreports .union
  rw [counted] at hall
  have hnodup : ∀ s ∈ (reports.map (·.definition)).map (·.contribution source),
      s.callees.Nodup := by
    intro s hs
    obtain ⟨e, -, rfl⟩ := List.mem_map.mp hs
    exact e.nodup_callees source
  refine ⟨tree, _, _, _, hcollected.parsed, hcollected.collected, ?_,
    tryExtract_of_policy hcollected hreports .lastWins,
    tryExtract_of_policy hcollected hreports .union, ?_, ?_, ?_, ?_, ?_⟩
  · intro e he
    obtain ⟨r, hr, rfl⟩ := List.mem_map.mp he
    have hcalls := (hreports r hr).calls
    exact ⟨r.calls, hcalls, by rw [Definition.callees, hcalls]⟩
  · rw [hlast, hall]
    exact (counted_sublist .lastWins _).flatMap edges
  · rw [hlast]
    refine nodup_flatMap_edges (pairwise_name_counted _) fun s hs => hnodup s ?_
    exact (counted_sublist .lastWins _).mem hs
  · rw [hlast]
    exact groupedByCaller_flatMap_edges (pairwise_name_counted _)
  · intro f g
    rw [hall, count_flatMap_edges hnodup, List.countP_map]
    rfl
  · rw [hlast, hall, flatMap_counted_eq_iff, List.pairwise_map]
    rfl

/-- Of the two definitions of `f` the first one calls `a`, so the policies differ. -/
theorem tryExtract_policies_redefined :
    ∃ last all,
      (tryExtract (fun _ => .ok sampleTree) { Options.default with duplicates := .lastWins }
        sampleSource).2 = .ok last ∧
      (tryExtract (fun _ => .ok sampleTree) { Options.default with duplicates := .union }
        sampleSource).2 = .ok all ∧
      last.calls.Sublist all.calls ∧ last.calls ≠ all.calls ∧ all.calls.count ⟨"f", "a"⟩ = 1 := by
  obtain ⟨d, hd⟩ := exists_tryExtract_sample
  obtain ⟨tree, ds, last, all, htree, hds, -, hlast, hall, hsub, -, -, hcount, heq⟩ :=
    tryExtract_policies hd
  have hrun : ((definitions sampleSource true sampleTree).toOption.map fun ds =>
      (decide (ds.Pairwise fun e later => later.name = e.name → e.callees sampleSource = []),
        ds.countP fun e => e.name = "f" ∧ "a" ∈ e.callees sampleSource)) = some (false, 1) := by
    decide +kernel
  rw [Except.ok.inj htree, show definitions sampleSource true tree = .ok ds from hds] at hrun
  obtain ⟨hdiffer, hone⟩ := Prod.mk.inj (Option.some.inj hrun)
  refine ⟨last, all, hlast, hall, hsub, ?_, (hcount "f" "a").trans hone⟩
  exact mt heq.mp (of_decide_eq_false hdiffer)

end CallAtlas.Extract
