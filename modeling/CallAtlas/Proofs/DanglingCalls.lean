import CallAtlas.Proofs.Presentation
import CallAtlas.Proofs.RecursiveGroups
import CallAtlas.Proofs.Statistics
import Mathlib.Data.List.Sort

/-! # Calls to names that are not functions

    If every caller is a function, a name that is not a function calls nothing. A way of calls
    that reaches such a name ends there, so no way between functions uses one. Ranks and
    recursive groups depend on the ways of calls only, and not on the order in which the graph
    is searched; so for the functions they are the same with these names and without. The
    graph that a presentation draws is in both cases that of a dataset, with the dangling
    calls or without them.
-/

namespace CallAtlas.Graph

open CallAtlas.Extract
open Relation

namespace CallGraph

open Store

/-! ## Section 1: Nodes that call nothing -/

/-- A graph has, beside the nodes and calls of another one, only nodes that call nothing and
    calls to them. -/
structure AddsSinks (core g : CallGraph) : Prop where
  nodes : core.nodes <+: g.nodes
  calls : core.calls = g.calls.filter fun c => c.2 < core.nodes.length
  caller_lt : ∀ c ∈ g.calls, c.1 < core.nodes.length

namespace AddsSinks

variable {core g : CallGraph} {i j v : Nat}

theorem mem_calls_iff (h : core.AddsSinks g) :
    (i, j) ∈ core.calls ↔ (i, j) ∈ g.calls ∧ j < core.nodes.length := by
  rw [h.calls, List.mem_filter, decide_eq_true_iff]

/-- A way to a node of the core never leaves the core. -/
theorem leads_iff (h : core.AddsSinks g) (hj : j < core.nodes.length) :
    Leads core.calls i j ↔ Leads g.calls i j := by
  constructor
  · exact ReflTransGen.mono (fun a b hcall => (h.mem_calls_iff.mp hcall).1) i j
  · intro hleads
    induction hleads with
    | refl => exact .refl
    | tail _ hcall ih => exact (ih (h.caller_lt _ hcall)).tail (h.mem_calls_iff.mpr ⟨hcall, hj⟩)

theorem mutual_iff (h : core.AddsSinks g) (hi : i < core.nodes.length)
    (hj : j < core.nodes.length) : Mutual core.calls i j ↔ Mutual g.calls i j :=
  and_congr (h.leads_iff hj) (h.leads_iff hi)

theorem path_iff (h : core.AddsSinks g) (hj : j < core.nodes.length) :
    core.Path i j ↔ g.Path i j := by
  constructor
  · exact TransGen.mono (fun a b hcall => (h.mem_calls_iff.mp hcall).1) i j
  · intro hpath
    induction hpath with
    | single hcall => exact .single (h.mem_calls_iff.mpr ⟨hcall, hj⟩)
    | tail _ hcall ih => exact (ih (h.caller_lt _ hcall)).tail (h.mem_calls_iff.mpr ⟨hcall, hj⟩)

/-- What calls something is in the core. -/
theorem lt_of_path (h : core.AddsSinks g) (hpath : g.Path i j) : i < core.nodes.length := by
  obtain ⟨k, hcall, -⟩ := TransGen.head'_iff.mp hpath
  exact h.caller_lt _ hcall

/-- The nodes that reach each other are the same. -/
theorem path_and_path_iff (h : core.AddsSinks g) :
    core.Path i j ∧ core.Path j i ↔ g.Path i j ∧ g.Path j i := by
  constructor
  · rintro ⟨hij, hji⟩
    exact ⟨(h.path_iff hij.lt.2).mp hij, (h.path_iff hji.lt.2).mp hji⟩
  · rintro ⟨hij, hji⟩
    exact ⟨(h.path_iff (h.lt_of_path hji)).mpr hij, (h.path_iff (h.lt_of_path hij)).mpr hji⟩

/-! ## Section 2: Ranks -/

/-- The walks that end at a node of the core are the same, and as long. -/
theorem walk_iff (h : core.AddsSinks g) {k : Nat} (hv : v < core.nodes.length) :
    core.Walk v k ↔ g.Walk v k := by
  constructor
  · intro hwalk
    clear hv
    induction hwalk with
    | here hv => exact .here (hv.trans_le h.nodes.length_le)
    | within _ hcall hmutual ih =>
      obtain ⟨hfrom, hto⟩ := core.calls_lt _ hcall
      exact ih.within (h.mem_calls_iff.mp hcall).1 ((h.mutual_iff hfrom hto).mp hmutual)
    | across _ hcall hapart ih =>
      obtain ⟨hfrom, hto⟩ := core.calls_lt _ hcall
      exact ih.across (h.mem_calls_iff.mp hcall).1 (mt (h.mutual_iff hfrom hto).mpr hapart)
  · intro hwalk
    induction hwalk with
    | here _ => exact .here hv
    | within _ hcall hmutual ih =>
      have hfrom := h.caller_lt _ hcall
      have hcore := h.mem_calls_iff.mpr ⟨hcall, hv⟩
      exact (ih hfrom).within hcore ((h.mutual_iff hfrom hv).mpr hmutual)
    | across _ hcall hapart ih =>
      have hfrom := h.caller_lt _ hcall
      have hcore := h.mem_calls_iff.mpr ⟨hcall, hv⟩
      exact (ih hfrom).across hcore (mt (h.mutual_iff hfrom hv).mp hapart)

theorem rankAt_eq (h : core.AddsSinks g) (hv : v < core.nodes.length) :
    core.rankAt v = g.rankAt v := by
  have hcore := core.isRanking_rankAt.isGreatest hv
  have hwhole := g.isRanking_rankAt.isGreatest (hv.trans_le h.nodes.length_le)
  have hwalks : {k | core.Walk v k} = {k | g.Walk v k} := Set.ext fun k => h.walk_iff hv
  rw [hwalks] at hcore
  exact hcore.unique hwhole

theorem ranks_prefix_ranks (h : core.AddsSinks g) : core.ranks <+: g.ranks := by
  rw [List.prefix_iff_getElem?]
  intro v hv
  rw [length_ranks] at hv
  rw [getElem?_ranks (hv.trans_le h.nodes.length_le), ← h.rankAt_eq hv, ← getElem?_ranks hv]
  exact List.getElem?_eq_getElem _

end AddsSinks

/-! ## Section 3: Recursive groups -/

/-- A group that has a node has the nodes that this one reaches and that reach it. -/
theorem mem_group_iff {g : CallGraph} {group : List Nat} (hgroup : group ∈ g.recursiveGroups)
    {i j : Nat} (hi : i ∈ group) : j ∈ group ↔ g.Path i j ∧ g.Path j i := by
  constructor
  · exact fun hj => exists_group_iff.mp ⟨group, hgroup, hi, hj⟩
  · rintro ⟨hij, hji⟩
    obtain ⟨c, hc, -, rfl⟩ := mem_recursiveGroups.mp hgroup
    rw [mem_sortNodes] at hi ⊢
    exact (mem_component_iff hc hi).mpr ⟨hij.to_reflTransGen, hji.to_reflTransGen⟩

/-- The groups of a graph are among those of another one in which the same nodes reach each
    other. -/
theorem recursiveGroups_subset {g g' : CallGraph}
    (h : ∀ i j, g.Path i j ∧ g.Path j i ↔ g'.Path i j ∧ g'.Path j i) :
    g.recursiveGroups ⊆ g'.recursiveGroups := by
  intro group hgroup
  obtain ⟨i, hi⟩ := List.exists_mem_of_ne_nil group (ne_nil_of_mem_recursiveGroups hgroup)
  have hcycle := (h i i).mp ((mem_group_iff hgroup hi).mp hi)
  obtain ⟨group', hgroup', hi', -⟩ := exists_group_iff.mpr hcycle
  have hmembers : ∀ j, j ∈ group ↔ j ∈ group' := by
    intro j
    rw [mem_group_iff hgroup hi, mem_group_iff hgroup' hi', h]
  rwa [(pairwise_lt_of_mem_recursiveGroups hgroup).eq_of_mem_iff
    (pairwise_lt_of_mem_recursiveGroups hgroup') hmembers]

theorem recursiveGroups_congr {g g' : CallGraph}
    (h : ∀ i j, g.Path i j ∧ g.Path j i ↔ g'.Path i j ∧ g'.Path j i) :
    g.recursiveGroups = g'.recursiveGroups := by
  -- Both lists increase by the first nodes, so they are equal if their members are.
  have hirrefl : Std.Irrefl fun c d : List Nat => c.headD 0 < d.headD 0 :=
    ⟨fun _ => Nat.lt_irrefl _⟩
  have hantisymm : Std.Antisymm fun c d : List Nat => c.headD 0 < d.headD 0 :=
    ⟨fun _ _ hlt hgt => absurd hlt (Nat.lt_asymm hgt)⟩
  exact List.Subset.antisymm_of_pairwise pairwise_head_recursiveGroups
    pairwise_head_recursiveGroups (recursiveGroups_subset h)
    (recursiveGroups_subset fun i j => (h i j).symm)

theorem mem_names_of_mem_recursiveNames {g : CallGraph} {group : List String}
    (hgroup : group ∈ g.recursiveNames) {name : String} (hname : name ∈ group) :
    name ∈ g.names := by
  obtain ⟨nodes, hnodes, rfl⟩ := List.mem_map.mp hgroup
  obtain ⟨i, hi, rfl⟩ := List.mem_map.mp hname
  rw [← map_nameAt_range]
  exact List.mem_map_of_mem (List.mem_range.mpr (lt_of_mem_group hnodes hi))

namespace AddsSinks

variable {core g : CallGraph}

theorem recursiveGroups_eq (h : core.AddsSinks g) : core.recursiveGroups = g.recursiveGroups :=
  recursiveGroups_congr fun _ _ => h.path_and_path_iff

theorem nameAt_eq (h : core.AddsSinks g) {i : Nat} (hi : i < core.nodes.length) :
    core.nameAt i = g.nameAt i := by
  obtain ⟨sinks, hsinks⟩ := h.nodes
  rw [nameAt, nameAt, get?, get?, ← hsinks, List.getElem?_append_left hi]

theorem recursiveNames_eq (h : core.AddsSinks g) : core.recursiveNames = g.recursiveNames := by
  rw [recursiveNames, recursiveNames, ← h.recursiveGroups_eq]
  refine List.map_congr_left fun group hgroup => List.map_congr_left fun i hi => ?_
  exact h.nameAt_eq (lt_of_mem_group hgroup hi)

end AddsSinks

end CallGraph

end CallAtlas.Graph

namespace CallAtlas.Extract

/-- A dataset without its dangling calls. -/
def Dataset.withoutDangling (d : Dataset) : Dataset :=
  { d with calls := d.calls.filter fun e => e.callee ∈ d.functions }

end CallAtlas.Extract

namespace CallAtlas.Present

open CallAtlas.Extract
open CallAtlas.Graph
open CallAtlas.Graph.CallGraph
open CallAtlas.Graph.Store (names)

/-! ## Section 4: Datasets -/

/-- A drawing shows the call graph of the dataset that has only the calls that are kept. -/
theorem drawnGraph_eq_ofDataset (policy : DanglingPolicy) (d : Dataset) :
    drawnGraph policy d = ofDataset { d with calls := keptCalls d policy } := by
  rw [← filter_keeps, ofDataset, stepsOf, run_append, run, run, List.foldl_map, List.foldl_map,
    List.foldl_filter]
  rfl

theorem drawnGraph_leaveOut (d : Dataset) : drawnGraph .leaveOut d = ofDataset d.withoutDangling :=
  drawnGraph_eq_ofDataset .leaveOut d

theorem drawnGraph_placeholder (d : Dataset) : drawnGraph .placeholder d = ofDataset d :=
  drawnGraph_eq_ofDataset .placeholder d

variable {d : Dataset}

/-- The nodes of the functions of a dataset. -/
def functionNodes (d : Dataset) : List Node :=
  d.functions.map fun name => ⟨name, some ((d.codeOf? name).getD "")⟩

theorem map_name_functionNodes (d : Dataset) : (functionNodes d).map (·.name) = d.functions := by
  rw [functionNodes, List.map_map]
  exact List.map_id _

theorem functionNodes_prefix_nodes (d : Dataset) : functionNodes d <+: (ofDataset d).nodes := by
  obtain ⟨⟨others, hnodes, -⟩, -⟩ := nodes_drawnGraph .placeholder d
  rw [← drawnGraph_placeholder, hnodes]
  exact List.prefix_append _ _

theorem functions_prefix_names (d : Dataset) : d.functions <+: (ofDataset d).names :=
  map_name_functionNodes d ▸ (functionNodes_prefix_nodes d).map (·.name)

/-- A name that is left without dangling calls is a function. -/
theorem mem_functions_of_mem_names (hcallers : ∀ e ∈ d.calls, e.caller ∈ d.functions)
    {name : String} (h : name ∈ (ofDataset d.withoutDangling).names) : name ∈ d.functions := by
  rcases mem_names_ofDataset.mp h with hfunction | ⟨e, he, hend⟩
  · exact hfunction
  · obtain ⟨hcall, hcallee⟩ := List.mem_filter.mp he
    rcases hend with rfl | rfl
    · exact hcallers e hcall
    · exact of_decide_eq_true hcallee

/-- Without dangling calls there are no nodes but the functions. -/
theorem nodes_withoutDangling (hcallers : ∀ e ∈ d.calls, e.caller ∈ d.functions) :
    (ofDataset d.withoutDangling).nodes = functionNodes d := by
  obtain ⟨others, hothers⟩ := functionNodes_prefix_nodes d.withoutDangling
  have hnodup := (ofDataset d.withoutDangling).names_nodup
  rw [names, ← hothers, List.map_append, map_name_functionNodes] at hnodup
  have hnone : others = [] := by
    refine List.eq_nil_iff_forall_not_mem.mpr fun n hn => ?_
    have hname : n.name ∈ (ofDataset d.withoutDangling).names := by
      rw [names, ← hothers]
      exact List.mem_map_of_mem (List.mem_append_right _ hn)
    -- Such a node would be a second one with the name of a function.
    exact List.disjoint_of_nodup_append hnodup (mem_functions_of_mem_names hcallers hname)
      (List.mem_map_of_mem hn)
  rw [← hothers, hnone, List.append_nil]
  rfl

theorem length_withoutDangling (hcallers : ∀ e ∈ d.calls, e.caller ∈ d.functions) :
    (ofDataset d.withoutDangling).nodes.length = d.functions.length := by
  rw [nodes_withoutDangling hcallers, functionNodes, List.length_map]

/-- A function has the number of its place, and no other name has such a small number. -/
theorem idxOf_names_ofDataset {f : String} (hf : f ∈ d.functions) :
    (ofDataset d).names.idxOf f = d.functions.idxOf f := by
  obtain ⟨others, hothers⟩ := functions_prefix_names d
  rw [← hothers, List.idxOf_append_of_mem hf]

theorem idxOf_names_ofDataset_lt_iff {f : String} :
    (ofDataset d).names.idxOf f < d.functions.length ↔ f ∈ d.functions := by
  obtain ⟨others, hothers⟩ := functions_prefix_names d
  rw [← hothers]
  by_cases hf : f ∈ d.functions
  · simp [List.idxOf_append_of_mem hf, hf, List.idxOf_lt_length_iff]
  · simp [List.idxOf_append_of_notMem hf, hf]

theorem indexOf?_ofDataset {f : String} (hf : f ∈ d.functions) :
    (ofDataset d).indexOf? f = some (d.functions.idxOf f) := by
  rw [indexOf?_eq_idxOf ((functions_prefix_names d).subset hf), idxOf_names_ofDataset hf]

theorem addsSinks_ofDataset (hcallers : ∀ e ∈ d.calls, e.caller ∈ d.functions) :
    (ofDataset d.withoutDangling).AddsSinks (ofDataset d) := by
  refine ⟨nodes_withoutDangling hcallers ▸ functionNodes_prefix_nodes d, ?_, ?_⟩
  · -- The calls that stay are those to the first nodes, and their ends keep their numbers.
    have hkept : (ofDataset d).calls.filter (fun c => c.2 < d.functions.length) =
        d.withoutDangling.calls.map fun e =>
          ((ofDataset d).names.idxOf e.caller, (ofDataset d).names.idxOf e.callee) := by
      rw [calls_ofDataset, List.filter_map]
      refine congrArg _ (List.filter_congr fun e _ => ?_)
      exact decide_eq_decide.mpr idxOf_names_ofDataset_lt_iff
    rw [length_withoutDangling hcallers, hkept, calls_ofDataset]
    refine List.map_congr_left fun e he => ?_
    obtain ⟨hcall, hcallee⟩ := List.mem_filter.mp he
    have hcallee := of_decide_eq_true hcallee
    rw [idxOf_names_ofDataset (hcallers e hcall), idxOf_names_ofDataset hcallee]
    exact Prod.ext (idxOf_names_ofDataset (hcallers e hcall)) (idxOf_names_ofDataset hcallee)
  · intro c hc
    rw [calls_ofDataset] at hc
    obtain ⟨e, he, rfl⟩ := List.mem_map.mp hc
    rw [length_withoutDangling hcallers]
    exact idxOf_names_ofDataset_lt_iff.mpr (hcallers e he)

/-! ## Section 5: Rows -/

/-- How far down the centre of a row is. -/
def rowCentre {α : Type} [Measure α] (options : LayoutOptions α) (row : Nat) : α :=
  Measure.ofNat row * (options.nodeHeight + options.rankGap) +
    options.nodeHeight / Measure.ofNat 2

theorem map_y_layout {α : Type} [Measure α] (g : CallGraph) (options : LayoutOptions α) :
    (g.layout options).map (·.y) = g.ranks.map (rowCentre options) := by
  conv_rhs => rw [← map_row_slotsOf g.ranks]
  rw [layout, List.map_map, List.map_map]
  rfl

/-- Each node of a presentation stands in the row that its rank gives. -/
theorem map_rows_present (options : Options) (d : Dataset) :
    ((present options d).nodes.map fun n => (n.id, n.position.y)) =
      (drawnGraph options.dangling d).names.zip
        ((drawnGraph options.dangling d).ranks.map (rowCentre options.layout)) := by
  rw [← map_y_layout, nodes_present, List.map_map, names, List.zip_map]
  rfl

theorem ids_present_leaveOut (hcallers : ∀ e ∈ d.calls, e.caller ∈ d.functions)
    (layout : LayoutOptions Float) :
    (present ⟨.leaveOut, layout⟩ d).nodes.map (·.id) = d.functions := by
  rw [map_nodes_present ⟨.leaveOut, layout⟩ d fun id _ => id, drawnGraph_leaveOut,
    nodes_withoutDangling hcallers, map_name_functionNodes]

/-- The rows of all nodes of the core are the same. -/
theorem rows_prefix_rows {core g : CallGraph} (h : core.AddsSinks g) {α : Type} (y : Nat → α) :
    core.names.zip (core.ranks.map y) <+: g.names.zip (g.ranks.map y) := by
  obtain ⟨sinks, hsinks⟩ := h.nodes
  obtain ⟨more, hmore⟩ := h.ranks_prefix_ranks
  rw [names, names, ← hsinks, ← hmore, List.map_append, List.map_append, List.zip_append]
  · exact List.prefix_append _ _
  · rw [List.length_map, List.length_map, length_ranks]

/-- **Dangling calls and the functions.** Let every caller be a function. Without the dangling
    calls each function has the same number and the same rank in the call graph, and the
    recursive groups are the same; all their names are functions. So a presentation that
    leaves dangling calls out has the functions for its nodes, in order, and a presentation
    with placeholders has the same functions first, each in the same row. -/
theorem dangling_calls_keep_shape (hcallers : ∀ e ∈ d.calls, e.caller ∈ d.functions) :
    (∀ f ∈ d.functions, ∃ i r,
      (ofDataset d).indexOf? f = some i ∧ (ofDataset d.withoutDangling).indexOf? f = some i ∧
      (ofDataset d).ranks[i]? = some r ∧ (ofDataset d.withoutDangling).ranks[i]? = some r) ∧
    (ofDataset d).recursiveGroups = (ofDataset d.withoutDangling).recursiveGroups ∧
    (ofDataset d).recursiveNames = (ofDataset d.withoutDangling).recursiveNames ∧
    (∀ group ∈ (ofDataset d).recursiveNames, ∀ name ∈ group, name ∈ d.functions) ∧
    (slotsOf (drawnGraph .leaveOut d).ranks).map (·.row) <+:
      (slotsOf (drawnGraph .placeholder d).ranks).map (·.row) ∧
    ∀ layout,
      (present ⟨.leaveOut, layout⟩ d).nodes.map (·.id) = d.functions ∧
      (present ⟨.leaveOut, layout⟩ d).nodes.map (fun n => (n.id, n.position.y)) <+:
        (present ⟨.placeholder, layout⟩ d).nodes.map (fun n => (n.id, n.position.y)) := by
  have hsinks := addsSinks_ofDataset hcallers
  refine ⟨?_, hsinks.recursiveGroups_eq.symm, hsinks.recursiveNames_eq.symm, ?_, ?_, ?_⟩
  · intro f hf
    have hlt : d.functions.idxOf f < (ofDataset d.withoutDangling).nodes.length := by
      rw [length_withoutDangling hcallers]
      exact List.idxOf_lt_length_iff.mpr hf
    refine ⟨d.functions.idxOf f, (ofDataset d).rankAt (d.functions.idxOf f),
      indexOf?_ofDataset hf, indexOf?_ofDataset (d := d.withoutDangling) hf,
      getElem?_ranks (hlt.trans_le hsinks.nodes.length_le), ?_⟩
    rw [getElem?_ranks hlt, hsinks.rankAt_eq hlt]
  · intro group hgroup name hname
    rw [← hsinks.recursiveNames_eq] at hgroup
    exact mem_functions_of_mem_names hcallers (mem_names_of_mem_recursiveNames hgroup hname)
  · rw [map_row_slotsOf, map_row_slotsOf, drawnGraph_leaveOut, drawnGraph_placeholder]
    exact hsinks.ranks_prefix_ranks
  · intro layout
    refine ⟨ids_present_leaveOut hcallers layout, ?_⟩
    rw [map_rows_present, map_rows_present, drawnGraph_leaveOut, drawnGraph_placeholder]
    exact rows_prefix_rows hsinks _

/-- In the sample `main` and `helper`, which `main` calls, call names that are not functions,
    and `fact` calls itself. -/
theorem dangling_calls_keep_shape_sample :
    (∀ e ∈ Stats.sampleDataset.calls, e.caller ∈ Stats.sampleDataset.functions) ∧
    Stats.sampleDataset.withoutDangling.calls = [⟨"main", "helper"⟩, ⟨"fact", "fact"⟩] ∧
    (∃ r, (ofDataset Stats.sampleDataset).ranks[1]? = some r ∧
      (ofDataset Stats.sampleDataset.withoutDangling).ranks[1]? = some r) ∧
    (∃ group ∈ (ofDataset Stats.sampleDataset).recursiveNames, "fact" ∈ group ∧
      group ∈ (ofDataset Stats.sampleDataset.withoutDangling).recursiveNames) ∧
    (present .default Stats.sampleDataset).nodes.map (fun n => (n.id, n.position.y)) <+:
      (present ⟨.placeholder, .default⟩ Stats.sampleDataset).nodes.map
        (fun n => (n.id, n.position.y)) := by
  have hcallers : ∀ e ∈ Stats.sampleDataset.calls, e.caller ∈ Stats.sampleDataset.functions := by
    decide
  have hfact : (ofDataset Stats.sampleDataset).Calls "fact" "fact" :=
    ⟨(2, 2), by decide +kernel⟩
  obtain ⟨group, hgroup, hmem, -⟩ := exists_shared_iff.mpr ⟨.single hfact, .single hfact⟩
  have hhelper : (ofDataset Stats.sampleDataset).indexOf? "helper" = some 1 := by
    decide +kernel
  obtain ⟨hranks, -, hsame, -, -, hrows⟩ := dangling_calls_keep_shape hcallers
  obtain ⟨i, r, hi, -, hwith, hwithout⟩ := hranks "helper" (by decide)
  obtain rfl : 1 = i := Option.some.inj (hhelper.symm.trans hi)
  exact ⟨hcallers, by decide +kernel, ⟨r, hwith, hwithout⟩,
    ⟨group, hgroup, hmem, hsame ▸ hgroup⟩, (hrows .default).2⟩

/-! ## Section 6: The graph of a presentation -/

/-- A presentation shows a call graph under a layout: all its names in order, with their code
    and their positions, and an edge for each of its calls. -/
structure PresentationGraph.Depicts (p : PresentationGraph) (g : CallGraph)
    (layout : LayoutOptions Float) : Prop where
  ids : p.nodes.map (·.id) = g.names
  labels : p.nodes.map (·.label) = g.names
  codes : p.nodes.map (·.code) = g.nodes.map fun n => n.code.getD ""
  positions : p.nodes.map (·.position) = g.layout layout
  edges : (p.edges.map fun e => (g.names.idxOf e.source, g.names.idxOf e.target)) = g.calls

/-- The edges of a presentation lead between the numbers that the calls of the graph join. -/
theorem map_idxOf_edges_present (options : Options) (d : Dataset) :
    ((present options d).edges.map fun e =>
      ((drawnGraph options.dangling d).names.idxOf e.source,
        (drawnGraph options.dangling d).names.idxOf e.target)) =
      (drawnGraph options.dangling d).calls := by
  rw [drawnGraph_eq_ofDataset, calls_ofDataset, edges_present]
  exact List.ext_getElem (by simp) (by simp)

theorem depicts_drawnGraph (options : Options) (d : Dataset) :
    (present options d).Depicts (drawnGraph options.dangling d) options.layout where
  ids := map_nodes_present options d fun id _ => id
  labels := by
    have hids := map_nodes_present options d fun id _ => id
    rw [nodes_present, List.map_map] at hids ⊢
    exact hids
  codes := map_nodes_present options d fun _ code => code
  positions := by
    have hlength := (drawnGraph options.dangling d).length_layout options.layout
    rw [nodes_present, List.map_map]
    exact List.map_snd_zip hlength.le
  edges := map_idxOf_edges_present options d

/-- **The graph of a presentation.** With placeholders a presentation shows the call graph of
    the dataset, and without dangling calls that of the dataset without them: the graph that
    is drawn has the same nodes in the same order, with the same code, and the same calls. If
    every caller is a function, leaving the dangling calls out keeps a first part of the nodes
    as they are with placeholders. -/
theorem present_depicts_ofDataset (d : Dataset) :
    drawnGraph .placeholder d = ofDataset d ∧
    drawnGraph .leaveOut d = ofDataset d.withoutDangling ∧
    (∀ layout, (present ⟨.placeholder, layout⟩ d).Depicts (ofDataset d) layout) ∧
    (∀ layout, (present ⟨.leaveOut, layout⟩ d).Depicts (ofDataset d.withoutDangling) layout) ∧
    ((∀ e ∈ d.calls, e.caller ∈ d.functions) → ∀ layout layout',
      (present ⟨.leaveOut, layout⟩ d).nodes.map (·.id) <+:
        (present ⟨.placeholder, layout'⟩ d).nodes.map (·.id)) := by
  have hplaceholder : ∀ layout,
      (present ⟨.placeholder, layout⟩ d).Depicts (ofDataset d) layout := fun layout =>
    drawnGraph_placeholder d ▸ depicts_drawnGraph ⟨.placeholder, layout⟩ d
  have hleaveOut : ∀ layout,
      (present ⟨.leaveOut, layout⟩ d).Depicts (ofDataset d.withoutDangling) layout := fun layout =>
    drawnGraph_leaveOut d ▸ depicts_drawnGraph ⟨.leaveOut, layout⟩ d
  refine ⟨drawnGraph_placeholder d, drawnGraph_leaveOut d, hplaceholder, hleaveOut, ?_⟩
  intro hcallers layout layout'
  rw [(hleaveOut layout).ids, (hplaceholder layout').ids]
  exact (addsSinks_ofDataset hcallers).nodes.map (·.name)

/-- In the sample two names are not functions, and only they are missing without placeholders. -/
theorem present_depicts_ofDataset_sample :
    (∀ e ∈ Stats.sampleDataset.calls, e.caller ∈ Stats.sampleDataset.functions) ∧
    (present ⟨.placeholder, .default⟩ Stats.sampleDataset).nodes.map (·.id) =
      ["main", "helper", "fact", "idle", "print", "log"] ∧
    (present .default Stats.sampleDataset).nodes.map (·.id) = ["main", "helper", "fact", "idle"] ∧
    (present .default Stats.sampleDataset).nodes.map (·.id) <+:
      (present ⟨.placeholder, .default⟩ Stats.sampleDataset).nodes.map (·.id) := by
  obtain ⟨-, -, hplaceholder, hleaveOut, hids⟩ := present_depicts_ofDataset Stats.sampleDataset
  refine ⟨by decide, (hplaceholder .default).ids.trans (by decide +kernel),
    (hleaveOut .default).ids.trans (by decide +kernel), hids (by decide) .default .default⟩

/-- A caller `x` that is not a function stays when a call to `g` before it is left out, and so
    moves up. -/
example : ∃ d : Dataset,
    ¬ (drawnGraph .leaveOut d).names <+: (drawnGraph .placeholder d).names :=
  ⟨⟨["f"], [⟨"f", "g"⟩, ⟨"x", "f"⟩], [], List.nodup_singleton "f", List.nodup_nil⟩,
    by decide +kernel⟩

end CallAtlas.Present
