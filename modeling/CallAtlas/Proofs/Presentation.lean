import CallAtlas.Present.Validation
import CallAtlas.Proofs.Building
import CallAtlas.Proofs.Ranks
import CallAtlas.Proofs.Rows

/-! # Presentation graphs are sound

    The nodes of a presentation come from the call graph that is drawn, its edges from the
    calls of the dataset. Both ends of a call that is kept are mentioned while the graph is
    built, and no name is lost later, so every edge leads from a node to a node.
-/

namespace CallAtlas.Graph

open CallAtlas.Extract

namespace CallGraph

open Store

/-! ## Section 1: How a graph grows -/

/-- A graph grows into another one by names that are not functions. -/
def GrowsTo (g h : CallGraph) : Prop := ∃ new, h.nodes = g.nodes ++ new ∧ ∀ n ∈ new, n.code = none

theorem GrowsTo.refl (g : CallGraph) : g.GrowsTo g :=
  ⟨[], (List.append_nil _).symm, fun _ h => absurd h List.not_mem_nil⟩

theorem GrowsTo.trans {g h k : CallGraph} (hgh : g.GrowsTo h) (hhk : h.GrowsTo k) :
    g.GrowsTo k := by
  obtain ⟨new, hnew, hcode⟩ := hgh
  obtain ⟨new', hnew', hcode'⟩ := hhk
  refine ⟨new ++ new', by rw [hnew', hnew, List.append_assoc], ?_⟩
  intro n hn
  rcases List.mem_append.mp hn with hn | hn
  · exact hcode n hn
  · exact hcode' n hn

theorem GrowsTo.mem_names {g h : CallGraph} (hgh : g.GrowsTo h) {name : String}
    (hname : name ∈ g.names) : name ∈ h.names := by
  obtain ⟨new, hnew, -⟩ := hgh
  rw [names, hnew, List.map_append]
  exact List.mem_append_left _ hname

theorem growsTo_mention (g : CallGraph) (name : String) :
    g.GrowsTo (g.mention ⟨name, none⟩).1 := by
  by_cases h : name ∈ g.names
  · exact ⟨[], by rw [nodes_mention_of_mem h, List.append_nil], by simp⟩
  · exact ⟨[⟨name, none⟩], nodes_mention_of_not_mem h, by simp⟩

/-- A call adds at most its two ends, and both are there afterwards. -/
theorem growsTo_addCall (g : CallGraph) (caller callee : String) :
    g.GrowsTo (g.addCall caller callee) ∧
      caller ∈ (g.addCall caller callee).names ∧ callee ∈ (g.addCall caller callee).names := by
  have hsource := g.growsTo_mention caller
  have htarget := (g.mention ⟨caller, none⟩).1.growsTo_mention callee
  exact ⟨hsource.trans htarget, htarget.mem_names (g.mem_names_mention ⟨caller, none⟩),
    (g.mention ⟨caller, none⟩).1.mem_names_mention ⟨callee, none⟩⟩

/-- A run over calls adds at most their ends, and all of these are there afterwards. -/
theorem growsTo_foldl_addCall (g : CallGraph) (calls : List CallEdge) :
    g.GrowsTo (calls.foldl (fun g e => g.addCall e.caller e.callee) g) ∧
      ∀ e ∈ calls, e.caller ∈ (calls.foldl (fun g e => g.addCall e.caller e.callee) g).names ∧
        e.callee ∈ (calls.foldl (fun g e => g.addCall e.caller e.callee) g).names := by
  induction calls generalizing g with
  | nil => exact ⟨.refl g, by simp⟩
  | cons e calls ih =>
    obtain ⟨hstep, hcaller, hcallee⟩ := g.growsTo_addCall e.caller e.callee
    obtain ⟨hrun, hends⟩ := ih (g.addCall e.caller e.callee)
    refine ⟨hstep.trans hrun, ?_⟩
    intro e' he'
    rcases List.mem_cons.mp he' with rfl | he'
    · exact ⟨hrun.mem_names hcaller, hrun.mem_names hcallee⟩
    · exact hends e' he'

/-- New functions, each listed once, are added in order. -/
theorem nodes_foldl_addFunction (code : String → String) (functions : List String)
    (g : CallGraph) (hnodup : functions.Nodup) (hnew : ∀ name ∈ functions, name ∉ g.names) :
    (functions.foldl (fun g name => (g.addFunction name (code name)).1) g).nodes =
      g.nodes ++ functions.map fun name => ⟨name, some (code name)⟩ := by
  induction functions generalizing g with
  | nil => simp
  | cons name functions ih =>
    rw [List.nodup_cons] at hnodup
    have hnodes : (g.addFunction name (code name)).1.nodes =
        g.nodes ++ [⟨name, some (code name)⟩] :=
      nodes_mention_of_not_mem (hnew name List.mem_cons_self)
    rw [List.foldl_cons, ih _ hnodup.2, hnodes, List.append_assoc, List.map_cons,
      List.singleton_append]
    -- The other functions are still new, since `name` is none of them.
    intro other hother
    rw [names, hnodes, List.map_append, List.mem_append, List.map_singleton,
      List.mem_singleton]
    rintro (hold | rfl)
    · exact hnew other (List.mem_cons_of_mem name hother) hold
    · exact hnodup.1 hother

theorem length_layout (g : CallGraph) {α : Type} [Measure α] (options : LayoutOptions α) :
    (g.layout options).length = g.nodes.length := by
  rw [layout, List.length_map, length_slotsOf, length_ranks]

end CallGraph

end CallAtlas.Graph

namespace CallAtlas.Present

open CallAtlas.Extract
open CallAtlas.Graph

/-! ## Section 2: The graph that is drawn -/

/-- The calls of a dataset that a policy keeps: all of them, or those to a function. -/
def keptCalls (d : Dataset) : DanglingPolicy → List CallEdge
  | .placeholder => d.calls
  | .leaveOut => d.calls.filter fun e => e.callee ∈ d.functions

theorem filter_keeps (policy : DanglingPolicy) (d : Dataset) :
    d.calls.filter (keeps policy d) = keptCalls d policy := by
  cases policy with
  | placeholder => exact List.filter_eq_self.mpr fun e _ => by simp [keeps]
  | leaveOut => exact List.filter_congr fun e _ => by simp [keeps, Dataset.contains]

/-- The functions come first, with their code; other names follow without. All ends of the
    calls that are kept are there. -/
theorem nodes_drawnGraph (policy : DanglingPolicy) (d : Dataset) :
    (∃ others, (drawnGraph policy d).nodes =
      (d.functions.map fun name => ⟨name, some ((d.codeOf? name).getD "")⟩) ++ others ∧
        ∀ n ∈ others, n.code = none) ∧
    ∀ e ∈ keptCalls d policy,
      e.caller ∈ (drawnGraph policy d).names ∧ e.callee ∈ (drawnGraph policy d).names := by
  have hfunctions := CallGraph.nodes_foldl_addFunction (fun name => (d.codeOf? name).getD "")
    d.functions .empty d.functions_nodup (fun _ _ h => absurd h List.not_mem_nil)
  have hrun := CallGraph.growsTo_foldl_addCall (d.functions.foldl
    (fun g name => (g.addFunction name ((d.codeOf? name).getD "")).1) .empty) (keptCalls d policy)
  rw [← filter_keeps, List.foldl_filter] at hrun
  obtain ⟨⟨others, hothers, hcode⟩, hends⟩ := hrun
  rw [hfunctions] at hothers
  rw [← filter_keeps]
  exact ⟨⟨others, hothers, hcode⟩, hends⟩

/-! ## Section 3: Validation -/

theorem checkEdge_eq_ok_iff {ids : List String} {index : Nat} {e : PresentationEdge} :
    checkEdge ids index e = .ok () ↔ e.source ∈ ids ∧ e.target ∈ ids := by
  unfold checkEdge
  by_cases hsource : e.source ∈ ids <;> by_cases htarget : e.target ∈ ids <;>
    simp [hsource, htarget]

/-- Edges pass if each leads from a node to a node. -/
theorem checkEdges_eq_ok {ids : List String} {edges : List PresentationEdge}
    (h : ∀ e ∈ edges, e.source ∈ ids ∧ e.target ∈ ids) (index : Nat) :
    checkEdges (fun _ e => .ok e) ids index edges = .ok () := by
  induction edges generalizing index with
  | nil => rfl
  | cons e edges ih =>
    rw [checkEdges]
    simp only [checkEdge_eq_ok_iff.mpr (h e List.mem_cons_self)]
    exact ih (fun e' he' => h e' (List.mem_cons_of_mem e he')) (index + 1)

theorem validate_of_edges {g : PresentationGraph}
    (h : ∀ e ∈ g.edges, e.source ∈ g.nodes.map (·.id) ∧ e.target ∈ g.nodes.map (·.id)) :
    g.validate = ([], true) := by
  rw [PresentationGraph.validate, PresentationGraph.check, checkEdges_eq_ok h]
  rfl

/-! ## Section 4: Presentations -/

/-- Every node of the graph that is drawn has a position, so none is shown at the origin for
    want of one. -/
theorem nodes_present (options : Options) (d : Dataset) :
    (present options d).nodes =
      ((drawnGraph options.dangling d).nodes.zip
        ((drawnGraph options.dangling d).layout options.layout)).map fun (n, position) =>
          ⟨n.name, n.name, n.code.getD "", position⟩ := by
  have hlength := (drawnGraph options.dangling d).length_layout options.layout
  refine List.ext_getElem (by simp [present, hlength]) fun i hi _ => ?_
  have hi' : i < ((drawnGraph options.dangling d).layout options.layout).length := by
    simpa [present, hlength] using hi
  simp [present, hi']

theorem map_nodes_present {α : Type} (options : Options) (d : Dataset)
    (f : String → String → α) :
    (present options d).nodes.map (fun n => f n.id n.code) =
      (drawnGraph options.dangling d).nodes.map fun n => f n.name (n.code.getD "") := by
  -- There are as many positions as nodes, so pairing them up leaves no node out.
  have hlength := (drawnGraph options.dangling d).length_layout options.layout
  have hzip := List.map_fst_zip hlength.ge
  rw [nodes_present, List.map_map]
  conv_rhs => rw [← hzip, List.map_map]
  rfl

theorem edges_present (options : Options) (d : Dataset) :
    (present options d).edges = (keptCalls d options.dangling).mapIdx fun i e =>
      ⟨"e" ++ toString (i + 1), e.caller, e.callee⟩ := by
  rw [← filter_keeps]
  rfl

/-- A presentation passes validation. Its nodes have different identifiers: first the
    functions of the dataset, in order and with their code, then names without code. Its edges
    are the calls that the policy keeps, in order and as often, numbered from one. -/
theorem present_sound (options : Options) (d : Dataset) :
    (present options d).validate = ([], true) ∧
    ((present options d).nodes.map (·.id)).Nodup ∧
    (∃ others : List String, (present options d).nodes.map (fun n => (n.id, n.code)) =
      (d.functions.map fun name => (name, (d.codeOf? name).getD "")) ++
        others.map fun name => (name, "")) ∧
    (present options d).edges.map (fun e => (e.source, e.target)) =
      (keptCalls d options.dangling).map (fun e => (e.caller, e.callee)) ∧
    (present options d).edges.map (·.id) =
      (List.range (present options d).edges.length).map fun i => "e" ++ toString (i + 1) := by
  obtain ⟨⟨others, hnodes, hcode⟩, hends⟩ := nodes_drawnGraph options.dangling d
  have hids : (present options d).nodes.map (·.id) = (drawnGraph options.dangling d).names :=
    map_nodes_present options d fun id _ => id
  refine ⟨?_, ?_, ⟨others.map (·.name), ?_⟩, ?_, ?_⟩
  · apply validate_of_edges
    rw [hids, edges_present]
    intro e he
    obtain ⟨i, hi, rfl⟩ := List.mem_mapIdx.mp he
    exact hends _ (List.getElem_mem hi)
  · rw [hids]
    exact (drawnGraph options.dangling d).names_nodup
  · rw [map_nodes_present options d Prod.mk, hnodes, List.map_append, List.map_map, List.map_map]
    congr 1
    refine List.map_congr_left fun n hn => ?_
    simp [hcode n hn]
  · rw [edges_present]
    exact List.ext_getElem (by simp) (by simp)
  · rw [edges_present]
    exact List.ext_getElem (by simp) (by simp)

end CallAtlas.Present
