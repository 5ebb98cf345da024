import CallAtlas.Proofs.EventTrace
import Mathlib.Data.List.Induction

/-! # Edges of names that are defined several times

    The calls of an extraction are the edges of the definitions that count under the policy:
    all of them, or those that no later definition of the same name follows. So under
    `lastWins` the edges of a name stand where its last definition does.
-/

namespace CallAtlas.Extract

open CallAtlas.Syntax

/-! ## Section 1: Last definitions -/

/-- The edges of a definition: its name with each of its callees, in their order. -/
def Definition.edges (source : String) (d : Definition) : List CallEdge :=
  match d.calls source with
  | .ok calls => calls.callees.map fun callee => ⟨d.name, callee⟩
  | .error _ => []

/-- The definitions that no later one of the same name follows, in visit order. -/
def lastDefinitions (ds : List Definition) : List Definition :=
  (ds.zipIdx.filter fun (d, i) => (ds.drop (i + 1)).all (·.name != d.name)).map (·.1)

theorem lastDefinitions_cons (d : Definition) (ds : List Definition) :
    lastDefinitions (d :: ds) =
      if ∀ e ∈ ds, e.name ≠ d.name then d :: lastDefinitions ds else lastDefinitions ds := by
  have htail : ((ds.zipIdx 1).filter fun (p, i) =>
      ((d :: ds).drop (i + 1)).all (·.name != p.name)).map (·.1) = lastDefinitions ds := by
    rw [List.zipIdx_succ, List.filter_map, List.map_map]
    rfl
  unfold lastDefinitions at htail ⊢
  rw [List.zipIdx_cons, List.filter_cons]
  simp only [Nat.zero_add, List.drop_succ_cons, List.drop_zero, List.all_eq_true,
    bne_iff_ne] at htail ⊢
  split
  · rw [List.map_cons, htail]
  · exact htail

/-- What the last definitions have behind a definition is what they have of what follows it,
    and what they have before it is of other names. -/
theorem lastDefinitions_append (before rest : List Definition) :
    ∃ earlier, lastDefinitions (before ++ rest) = earlier ++ lastDefinitions rest ∧
      ∀ d ∈ earlier, ∀ e ∈ rest, e.name ≠ d.name := by
  induction before with
  | nil => exact ⟨[], rfl, by simp⟩
  | cons d before ih =>
    obtain ⟨earlier, heq, hother⟩ := ih
    rw [List.cons_append, lastDefinitions_cons]
    split
    · rename_i hlast
      refine ⟨d :: earlier, by rw [heq, List.cons_append], ?_⟩
      intro p hp e he
      rcases List.mem_cons.mp hp with rfl | hp
      · exact hlast e (List.mem_append_right _ he)
      · exact hother p hp e he
    · exact ⟨earlier, heq, hother⟩

theorem caller_of_mem_edges {source : String} {d : Definition} {x : CallEdge}
    (h : x ∈ d.edges source) : x.caller = d.name := by
  unfold Definition.edges at h
  split at h
  · obtain ⟨callee, -, rfl⟩ := List.mem_map.mp h
    rfl
  · simp at h

/-- The edges of a last definition stand together, behind edges of other names only and right
    before those of the definitions that follow it. -/
theorem flatMap_lastDefinitions_of_last (source : String) {before after : List Definition}
    {d : Definition} (h : ∀ e ∈ after, e.name ≠ d.name) :
    ∃ earlier, (lastDefinitions (before ++ d :: after)).flatMap (·.edges source) =
        earlier ++ d.edges source ++ (lastDefinitions after).flatMap (·.edges source) ∧
      ∀ x ∈ earlier, x.caller ≠ d.name := by
  obtain ⟨earlier, heq, hother⟩ := lastDefinitions_append before (d :: after)
  refine ⟨earlier.flatMap (·.edges source), ?_, ?_⟩
  · rw [heq, lastDefinitions_cons, if_pos h, List.flatMap_append, List.flatMap_cons,
      List.append_assoc]
  · intro x hx
    obtain ⟨p, hp, hxp⟩ := List.mem_flatMap.mp hx
    rw [caller_of_mem_edges hxp]
    exact (hother p hp d List.mem_cons_self).symm

/-! ## Section 2: Extraction -/

theorem edges_contribution {source : String} {r : Report}
    (h : r.definition.calls source = .ok r.calls) :
    r.contribution.edges = r.definition.edges source := by
  simp [Definition.edges, h, Report.contribution, Contribution.edges]

/-- The reports that count are those of the last definitions. -/
theorem flatMap_counted {source : String} (reports : List Report)
    (h : ∀ r ∈ reports, r.definition.calls source = .ok r.calls) :
    (counted .lastWins (reports.map (·.contribution))).flatMap Contribution.edges =
      (lastDefinitions (reports.map (·.definition))).flatMap (·.edges source) := by
  induction reports with
  | nil => rfl
  | cons r rest ih =>
    have hrest := ih fun t ht => h t (List.mem_cons_of_mem _ ht)
    have hr := edges_contribution (h r List.mem_cons_self)
    have hlast : (rest.map (·.contribution)).any (·.name == r.contribution.name) = false ↔
        ∀ e ∈ rest.map (·.definition), e.name ≠ r.definition.name := by
      simp [Report.contribution]
    rw [List.map_cons, List.map_cons, counted, lastDefinitions_cons]
    by_cases hcase : (rest.map (·.contribution)).any (·.name == r.contribution.name) = false
    · rw [if_pos (hlast.mp hcase), if_neg (by simp [hcase]), List.flatMap_cons,
        List.flatMap_cons, hrest, hr]
    · rw [if_neg (mt hlast.mpr hcase), if_pos (by simpa using hcase), hrest]

/-- **Policy law.** When an extraction succeeds, its calls are the edges of the definitions
    of the tree one after another: of all of them under `union`, and under `lastWins` of
    those that no later one of the same name follows. So under `lastWins` the edges of a
    name are those of its last definition, and they stand where that definition does. -/
theorem tryExtract_calls {frontend : Frontend} {options : Options} {source : String}
    {d : Dataset} (h : (tryExtract frontend options source).2 = .ok d) :
    ∃ tree ds, frontend source = .ok tree ∧
      definitions source options.includeAsync tree = .ok ds ∧
      (∀ e ∈ ds, ∃ calls, e.calls source = .ok calls) ∧
      (options.duplicates = .union → d.calls = ds.flatMap (·.edges source)) ∧
      (options.duplicates = .lastWins →
        d.calls = (lastDefinitions ds).flatMap (·.edges source) ∧
        ∀ before e after, ds = before ++ e :: after → (∀ p ∈ after, p.name ≠ e.name) →
          ∃ earlier, d.calls =
              earlier ++ e.edges source ++ (lastDefinitions after).flatMap (·.edges source) ∧
            ∀ x ∈ earlier, x.caller ≠ e.name) := by
  obtain ⟨tree, reports, hcollected, hreports, rfl⟩ := tryExtract_eq_ok_iff.mp h
  have hcalls : ∀ r ∈ reports, r.definition.calls source = .ok r.calls :=
    fun r hr => (hreports r hr).calls
  refine ⟨tree, _, hcollected.parsed, hcollected.collected, ?_, ?_, ?_⟩
  · intro e he
    obtain ⟨r, hr, rfl⟩ := List.mem_map.mp he
    exact ⟨r.calls, hcalls r hr⟩
  · intro hpolicy
    rw [Dataset.calls_ofReports, hpolicy, counted, List.flatMap_map, List.flatMap_map]
    exact List.flatMap_congr fun r hr => edges_contribution (hcalls r hr)
  · intro hpolicy
    have hlast : (Dataset.ofReports options.duplicates reports).calls =
        (lastDefinitions (reports.map (·.definition))).flatMap (·.edges source) := by
      rw [Dataset.calls_ofReports, hpolicy, flatMap_counted reports hcalls]
    refine ⟨hlast, ?_⟩
    intro before e after hsplit hafter
    rw [hlast, hsplit]
    exact flatMap_lastDefinitions_of_last source hafter

/-- Of the two definitions of `f` the second one counts, and its edge stands behind that
    of `g`. -/
theorem tryExtract_calls_redefined :
    ∃ d, (tryExtract (fun _ => .ok sampleTree) .default sampleSource).2 = .ok d ∧
      d.calls = [⟨"g", "b"⟩, ⟨"f", "c"⟩] := by
  obtain ⟨d, hd⟩ := exists_tryExtract_sample
  obtain ⟨tree, ds, htree, hds, -, -, hlast⟩ := tryExtract_calls hd
  have hedges : ((definitions sampleSource true sampleTree).toOption.map fun ds =>
      (lastDefinitions ds).flatMap (·.edges sampleSource)) =
        some [⟨"g", "b"⟩, ⟨"f", "c"⟩] := by
    decide +kernel
  rw [Except.ok.inj htree, show definitions sampleSource true tree = .ok ds from hds] at hedges
  refine ⟨d, hd, ?_⟩
  rw [(hlast rfl).1]
  exact Option.some.inj hedges

end CallAtlas.Extract
