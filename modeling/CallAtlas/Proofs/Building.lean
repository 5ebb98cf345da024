import CallAtlas.Graph.CallGraph
import Mathlib.Data.List.Basic
import Mathlib.Data.List.Induction

/-! # Graphs built step by step

    Every step mentions names: a definition mentions one and gives its code, a call mentions
    two and gives none. A graph knows a name by its first mention. That mention settles the
    number, the kind and the code of the name, and no later step changes them; a call is kept
    as the numbers of its two ends. To build a graph is to build its store, so the same is
    said of the nodes and the index of a store, which are kept apart.
-/

namespace CallAtlas.Graph

/-! ## Section 1: Steps -/

namespace Step

/-- The names that a step mentions, the caller before the callee. -/
def names : Step → List String
  | .function name _ => [name]
  | .call caller callee => [caller, callee]

/-- The code that a step gives to the names that it mentions. -/
def code? : Step → Option String
  | .function _ code => some code
  | .call _ _ => none

/-- Caller and callee of a step that adds a call. -/
def call? : Step → Option (String × String)
  | .function _ _ => none
  | .call caller callee => some (caller, callee)

def mentions (s : Step) : List Node := s.names.map fun name => ⟨name, s.code?⟩

/-- A step mentions each of its names with its code, and no other name. -/
theorem find?_mentions (s : Step) (name : String) :
    s.mentions.find? (·.name == name) = if name ∈ s.names then some ⟨name, s.code?⟩ else none := by
  cases s with
  | function other code =>
    by_cases h : other = name
    · simp [mentions, names, h]
    · simp [mentions, names, h, Ne.symm h]
  | call caller callee =>
    by_cases hcaller : caller = name
    · simp [mentions, names, hcaller]
    · by_cases hcallee : callee = name
      · simp [mentions, names, hcaller, hcallee]
      · simp [mentions, names, hcaller, hcallee, Ne.symm hcaller, Ne.symm hcallee]

theorem code?_eq_some_iff {s : Step} {name code : String} (h : name ∈ s.names) :
    s.code? = some code ↔ s = .function name code := by
  cases s with
  | function other text =>
    obtain rfl : name = other := by simpa [names] using h
    simp [code?]
  | call caller callee => simp [code?]

theorem code?_eq_none_iff {s : Step} :
    s.code? = none ↔ ∃ caller callee, s = .call caller callee := by
  cases s <;> simp [code?]

end Step

theorem map_name_mentions (steps : List Step) :
    (steps.flatMap Step.mentions).map (·.name) = steps.flatMap Step.names := by
  rw [List.map_flatMap]
  refine List.flatMap_congr fun s _ => ?_
  rw [Step.mentions, List.map_map]
  exact List.map_id _

/-- The first step that mentions a name. -/
def firstStep (steps : List Step) (name : String) : Option Step :=
  steps.find? fun s => name ∈ s.names

theorem firstStep_append (steps more : List Step) (name : String) :
    firstStep (steps ++ more) name = (firstStep steps name).or (firstStep more name) :=
  List.find?_append

theorem firstStep_eq_none_iff {steps : List Step} {name : String} :
    firstStep steps name = none ↔ ∀ s ∈ steps, name ∉ s.names := by
  simp [firstStep]

theorem mem_of_firstStep {steps : List Step} {name : String} {s : Step}
    (h : firstStep steps name = some s) : s ∈ steps ∧ name ∈ s.names :=
  ⟨List.mem_of_find?_eq_some h, by simpa using List.find?_some h⟩

/-- The first mention of a name is by the first step that mentions it. -/
theorem find?_mentions (steps : List Step) (name : String) :
    (steps.flatMap Step.mentions).find? (·.name == name) =
      (firstStep steps name).map fun s => ⟨name, s.code?⟩ := by
  induction steps with
  | nil => rfl
  | cons s steps ih =>
    rw [List.flatMap_cons, List.find?_append, ih, Step.find?_mentions]
    by_cases hs : name ∈ s.names
    · simp [firstStep, hs]
    · simp [firstStep, hs]

namespace CallGraph

open Store

/-! ## Section 2: Numbers of names -/

theorem nodup_names (g : CallGraph) : g.names.Nodup := g.names_nodup

theorem indexOf?_eq_none_iff {g : CallGraph} {name : String} :
    g.indexOf? name = none ↔ name ∉ g.names := by
  rw [g.toSound.indexOf?_eq, List.idxOf?_eq_none_iff]

/-- The number of a name is its place among the names. -/
theorem indexOf?_eq_idxOf {g : CallGraph} {name : String} (h : name ∈ g.names) :
    g.indexOf? name = some (g.names.idxOf name) := by
  obtain ⟨i, hi⟩ := Option.isSome_iff_exists.mp (List.isSome_idxOf?.mpr h)
  rw [g.toSound.indexOf?_eq, List.idxOf_eq_getD_idxOf?, hi, Option.getD_some]

theorem indexOf?_eq_some_iff {g : CallGraph} {name : String} {i : Nat} :
    g.indexOf? name = some i ↔ g.names[i]? = some name := by
  constructor
  · intro h
    have hmem : name ∈ g.names := by
      by_contra hnot
      rw [indexOf?_eq_none_iff.mpr hnot] at h
      cases h
    rw [indexOf?_eq_idxOf hmem] at h
    rw [← Option.some.inj h]
    exact List.getElem?_idxOf hmem
  · intro h
    obtain ⟨hlt, rfl⟩ := List.getElem?_eq_some_iff.mp h
    rw [indexOf?_eq_idxOf (List.getElem_mem hlt), g.nodup_names.idxOf_getElem i hlt]

theorem orderOf?_eq_some {g : CallGraph} {i : Nat} (h : i < g.names.length) :
    g.orderOf? i = some i := by
  have hi : i < g.nodes.length := by simpa [names] using h
  have hplace : g.index.placeOf? g.nodes[i].name = some i := by
    rw [g.toSound.placeOf?_eq, ← g.toSound.indexOf?_eq, indexOf?_eq_some_iff]
    simp [names, hi]
  simpa [orderOf?, get?, hi] using hplace

/-- A node is sorted by its number, so no two of them have one key. -/
theorem sortKey_eq {g : CallGraph} {i : Nat} (h : i < g.nodes.length) : g.sortKey i = i := by
  have hi : i < g.names.length := by simpa [names] using h
  rw [sortKey, orderOf?_eq_some hi, Option.getD_some]

/-! ## Section 3: One mention -/

theorem nodes_mention_of_mem {g : CallGraph} {n : Node} (h : n.name ∈ g.names) :
    (g.mention n).1.nodes = g.nodes := by
  simp only [CallGraph.mention, Store.mention]
  split
  · rfl
  · next hnone => exact absurd h (indexOf?_eq_none_iff.mp hnone)

theorem nodes_mention_of_not_mem {g : CallGraph} {n : Node} (h : n.name ∉ g.names) :
    (g.mention n).1.nodes = g.nodes ++ [n] := by
  simp only [CallGraph.mention, Store.mention]
  split
  · next i hsome =>
    rw [indexOf?_eq_none_iff.mpr h] at hsome
    cases hsome
  · rfl

theorem nodes_prefix_mention (g : CallGraph) (n : Node) : g.nodes <+: (g.mention n).1.nodes := by
  by_cases h : n.name ∈ g.names
  · exact ⟨[], by rw [nodes_mention_of_mem h, List.append_nil]⟩
  · rw [nodes_mention_of_not_mem h]
    exact List.prefix_append _ _

theorem calls_mention (g : CallGraph) (n : Node) : (g.mention n).1.calls = g.calls := by
  simp only [CallGraph.mention, Store.mention]
  split <;> rfl

theorem mem_names_mention (g : CallGraph) (n : Node) : n.name ∈ (g.mention n).1.names := by
  by_cases h : n.name ∈ g.names
  · rwa [names, nodes_mention_of_mem h]
  · rw [names, nodes_mention_of_not_mem h]
    simp

/-- What a mention returns is the number that the name has afterwards. -/
theorem indexOf?_mention (g : CallGraph) (n : Node) :
    (g.mention n).1.indexOf? n.name = some (g.mention n).2 := by
  have hnumber : g.indexOf? n.name = some (g.mention n).2 ∨
      g.indexOf? n.name = none ∧ (g.mention n).2 = g.nodes.length := by
    simp only [CallGraph.mention, Store.mention]
    cases g.indexOf? n.name with
    | some i => exact .inl rfl
    | none => exact .inr ⟨rfl, rfl⟩
  rw [indexOf?_eq_some_iff]
  rcases hnumber with hsome | ⟨hnone, hlast⟩
  · have hget := indexOf?_eq_some_iff.mp hsome
    rwa [names, nodes_mention_of_mem (List.mem_of_getElem? hget)]
  · rw [hlast, names, nodes_mention_of_not_mem (indexOf?_eq_none_iff.mp hnone)]
    simp

theorem snd_mention (g : CallGraph) (n : Node) :
    (g.mention n).2 = (g.mention n).1.names.idxOf n.name := by
  have h := g.indexOf?_mention n
  rw [indexOf?_eq_idxOf (g.mem_names_mention n)] at h
  exact (Option.some.inj h).symm

/-! ## Section 4: What a graph keeps of its mentions -/

/-- A graph holds the names of a list of mentions, in the order of their first mentions, and
    each node is the first mention of its name. -/
structure Records (g : CallGraph) (mentions : List Node) : Prop where
  names : g.names = (mentions.map (·.name)).eraseDups
  first : ∀ n ∈ g.nodes, mentions.find? (·.name == n.name) = some n

theorem records_empty : empty.Records [] := by
  constructor
  · rfl
  · intro n hn
    cases hn

theorem Records.mem_names {g : CallGraph} {mentions : List Node} (h : g.Records mentions)
    {name : String} : name ∈ g.names ↔ ∃ n ∈ mentions, n.name = name := by
  rw [h.names, List.mem_eraseDups, List.mem_map]

/-- One more mention: it is kept if its name is new, and is without effect otherwise. -/
theorem Records.mention {g : CallGraph} {mentions : List Node} (h : g.Records mentions)
    (n : Node) : (g.mention n).1.Records (mentions ++ [n]) := by
  have hold : ∀ m ∈ g.nodes, (mentions ++ [n]).find? (·.name == m.name) = some m := by
    intro m hm
    rw [List.find?_append, h.first m hm, Option.some_or]
  have hknown : n.name ∈ mentions.map (·.name) ↔ n.name ∈ g.names := by
    rw [h.names, List.mem_eraseDups]
  by_cases hn : n.name ∈ g.names
  · have hnodes := nodes_mention_of_mem hn
    constructor
    · rw [Store.names, hnodes, List.map_append, List.map_singleton,
        Extract.eraseDups_concat, if_pos (hknown.mpr hn), ← h.names]
      rfl
    · rwa [hnodes]
  · have hnodes := nodes_mention_of_not_mem hn
    constructor
    · rw [Store.names, hnodes, List.map_append, List.map_append, List.map_singleton,
        Extract.eraseDups_concat, if_neg (mt hknown.mp hn), ← h.names]
      rfl
    · intro m hm
      rw [hnodes] at hm
      rcases List.mem_append.mp hm with hm | hm
      · exact hold m hm
      · -- No earlier mention has the name of the new one.
        obtain rfl := List.mem_singleton.mp hm
        have hnone : mentions.find? (·.name == m.name) = none := by
          rw [List.find?_eq_none]
          intro k hk heq
          exact hn (h.mem_names.mpr ⟨k, hk, eq_of_beq heq⟩)
        rw [List.find?_append, hnone, Option.none_or]
        simp

/-- One step adds its mentions. -/
theorem Records.apply {g : CallGraph} {mentions : List Node} (h : g.Records mentions) (s : Step) :
    (g.apply s).Records (mentions ++ s.mentions) := by
  cases s with
  | function name code => exact h.mention ⟨name, some code⟩
  | call caller callee =>
    have hends := (h.mention ⟨caller, none⟩).mention ⟨callee, none⟩
    rw [List.append_assoc] at hends
    -- The call itself touches no node.
    exact ⟨hends.names, hends.first⟩

theorem nodes_prefix_apply (g : CallGraph) (s : Step) : g.nodes <+: (g.apply s).nodes := by
  cases s with
  | function name code => exact g.nodes_prefix_mention _
  | call caller callee => exact (g.nodes_prefix_mention _).trans (nodes_prefix_mention _ _)

/-- A step that adds a call adds the numbers that its ends have afterwards. -/
theorem calls_apply (g : CallGraph) (s : Step) :
    (g.apply s).calls = g.calls ++
      s.call?.toList.map fun c => ((g.apply s).names.idxOf c.1, (g.apply s).names.idxOf c.2) := by
  cases s with
  | function name code => simp [apply, addFunction, calls_mention, Step.call?]
  | call caller callee =>
    have hgrow := nodes_prefix_mention (g.mention ⟨caller, none⟩).1 ⟨callee, none⟩
    have hcaller : (g.mention ⟨caller, none⟩).2 = (g.addCall caller callee).names.idxOf caller := by
      rw [snd_mention]
      exact (hgrow.map (·.name)).idxOf_eq_of_mem (g.mem_names_mention ⟨caller, none⟩)
    have hcallee : ((g.mention ⟨caller, none⟩).1.mention ⟨callee, none⟩).2 =
        (g.addCall caller callee).names.idxOf callee := by
      rw [snd_mention]
      rfl
    have hcalls : (g.addCall caller callee).calls = g.calls ++ [((g.mention ⟨caller, none⟩).2,
        ((g.mention ⟨caller, none⟩).1.mention ⟨callee, none⟩).2)] := by
      have hends : ((g.mention ⟨caller, none⟩).1.mention ⟨callee, none⟩).1.calls = g.calls := by
        rw [calls_mention, calls_mention]
      rw [← hends]
      rfl
    rw [apply, hcalls, hcaller, hcallee]
    rfl

/-! ## Section 5: Runs -/

theorem run_append (g : CallGraph) (steps more : List Step) :
    g.run (steps ++ more) = (g.run steps).run more := List.foldl_append

theorem run_concat (g : CallGraph) (steps : List Step) (s : Step) :
    g.run (steps ++ [s]) = (g.run steps).apply s := g.run_append steps [s]

theorem records_run (steps : List Step) :
    (empty.run steps).Records (steps.flatMap Step.mentions) := by
  induction steps using List.reverseRecOn with
  | nil => exact records_empty
  | append_singleton steps s ih =>
    rw [run_concat, List.flatMap_append, List.flatMap_singleton]
    exact ih.apply s

theorem names_run (steps : List Step) :
    (empty.run steps).names = (steps.flatMap Step.names).eraseDups := by
  rw [(records_run steps).names, map_name_mentions]

theorem mem_names_run {steps : List Step} {name : String} :
    name ∈ (empty.run steps).names ↔ ∃ s ∈ steps, name ∈ s.names := by
  rw [names_run, List.mem_eraseDups, List.mem_flatMap]

/-- The node of a name is what the first step that mentions the name makes of it. -/
theorem get?_run {steps : List Step} {i : Nat} {name : String}
    (h : (empty.run steps).indexOf? name = some i) :
    (empty.run steps).get? i = (firstStep steps name).map fun s => ⟨name, s.code?⟩ := by
  obtain ⟨n, hn, rfl⟩ : ∃ n, (empty.run steps).nodes[i]? = some n ∧ n.name = name := by
    simpa [names] using indexOf?_eq_some_iff.mp h
  rw [get?, hn, ← find?_mentions]
  exact ((records_run steps).first n (List.mem_of_getElem? hn)).symm

/-- The functions are the names that a step with code mentions first. -/
theorem functionCount_run (steps : List Step) :
    (empty.run steps).functionCount =
      (empty.run steps).names.countP fun name => (firstStep steps name).any (·.code?.isSome) := by
  rw [functionCount, names, List.countP_map]
  refine List.countP_congr fun n hn => ?_
  have hfirst := (records_run steps).first n hn
  rw [find?_mentions] at hfirst
  obtain ⟨s, hs, hnode⟩ := Option.map_eq_some_iff.mp hfirst
  have hcode : s.code? = n.code := congrArg Node.code hnode
  simp [Node.isFunction, hs, hcode]

theorem mem_names_of_call {steps : List Step} {c : String × String}
    (h : c ∈ steps.filterMap Step.call?) :
    c.1 ∈ (empty.run steps).names ∧ c.2 ∈ (empty.run steps).names := by
  obtain ⟨s, hs, hcall⟩ := List.mem_filterMap.mp h
  cases s with
  | function name code => cases hcall
  | call caller callee =>
    obtain rfl := Option.some.inj hcall
    exact ⟨mem_names_run.mpr ⟨_, hs, by simp [Step.names]⟩,
      mem_names_run.mpr ⟨_, hs, by simp [Step.names]⟩⟩

/-- The calls of a run are those of its steps, each between the numbers of its ends. -/
theorem calls_run (steps : List Step) :
    (empty.run steps).calls = (steps.filterMap Step.call?).map fun c =>
      ((empty.run steps).names.idxOf c.1, (empty.run steps).names.idxOf c.2) := by
  induction steps using List.reverseRecOn with
  | nil => rfl
  | append_singleton steps s ih =>
    have hnames : (empty.run steps).names <+: ((empty.run steps).apply s).names :=
      (nodes_prefix_apply (empty.run steps) s).map Node.name
    have hnew : [s].filterMap Step.call? = s.call?.toList := by
      cases s <;> rfl
    rw [run_concat, calls_apply, ih, List.filterMap_append, List.map_append, hnew]
    congr 1
    -- The names of the earlier calls are known, so their numbers stay.
    refine List.map_congr_left fun c hc => ?_
    obtain ⟨hcaller, hcallee⟩ := mem_names_of_call hc
    rw [hnames.idxOf_eq_of_mem hcaller, hnames.idxOf_eq_of_mem hcallee]

/-- Whatever a graph holds stays where it is. -/
theorem prefix_run (g : CallGraph) (steps : List Step) :
    g.nodes <+: (g.run steps).nodes ∧ g.index.entries <+: (g.run steps).index.entries ∧
      g.calls <+: (g.run steps).calls := by
  have hgrow : g.nodes <+: (g.run steps).nodes ∧ g.calls <+: (g.run steps).calls := by
    induction steps using List.reverseRecOn with
    | nil => exact ⟨List.prefix_rfl, List.prefix_rfl⟩
    | append_singleton steps s ih =>
      rw [run_concat]
      refine ⟨ih.1.trans (nodes_prefix_apply _ s), ih.2.trans ?_⟩
      rw [calls_apply]
      exact List.prefix_append _ _
  obtain ⟨more, hmore⟩ := hgrow.1.map Node.name
  refine ⟨hgrow.1, ⟨more.zipIdx g.names.length, ?_⟩, hgrow.2⟩
  rw [g.indexed, (g.run steps).indexed, names, names, ← hmore, List.zipIdx_append]
  simp

theorem functionCount_add_unresolvedCount (g : CallGraph) :
    g.functionCount + g.unresolvedCount = g.names.length := by
  have hle : g.functionCount ≤ g.nodes.length := List.countP_le_length
  rw [unresolvedCount, names, List.length_map]
  omega

/-! ## Section 6: The graph of a dataset -/

open CallAtlas.Extract

theorem filterMap_call?_stepsOf (d : Dataset) :
    (stepsOf d).filterMap Step.call? = d.calls.map fun e => (e.caller, e.callee) := by
  have hfunctions : (d.functions.map fun name =>
      Step.function name ((d.codeOf? name).getD "")).filterMap Step.call? = [] := by
    rw [List.filterMap_map]
    exact List.filterMap_eq_nil_iff.mpr fun name _ => rfl
  rw [stepsOf, List.filterMap_append, hfunctions, List.nil_append, List.filterMap_map]
  exact congrFun List.filterMap_eq_map d.calls

theorem calls_ofDataset (d : Dataset) :
    (ofDataset d).calls = d.calls.map fun e =>
      ((ofDataset d).names.idxOf e.caller, (ofDataset d).names.idxOf e.callee) := by
  rw [ofDataset, calls_run, filterMap_call?_stepsOf, List.map_map]
  rfl

/-- The names are the functions and the ends of the calls. -/
theorem mem_names_ofDataset {d : Dataset} {name : String} :
    name ∈ (ofDataset d).names ↔
      name ∈ d.functions ∨ ∃ e ∈ d.calls, name = e.caller ∨ name = e.callee := by
  rw [ofDataset, mem_names_run]
  simp [stepsOf, or_and_right, exists_or, Step.names]

/-- Of the names of a dataset, its functions are those that a definition mentions first. -/
theorem any_firstStep_stepsOf (d : Dataset) (name : String) :
    (firstStep (stepsOf d) name).any (·.code?.isSome) = decide (name ∈ d.functions) := by
  rw [stepsOf, firstStep_append]
  cases hdefinition : firstStep (d.functions.map fun name =>
      Step.function name ((d.codeOf? name).getD "")) name with
  | some s =>
    obtain ⟨hs, hname⟩ := mem_of_firstStep hdefinition
    obtain ⟨f, hf, rfl⟩ := List.mem_map.mp hs
    obtain rfl : name = f := by simpa [Step.names] using hname
    simp [hf, Step.code?]
  | none =>
    have hnot : name ∉ d.functions := fun h =>
      firstStep_eq_none_iff.mp hdefinition _ (List.mem_map_of_mem h) (by simp [Step.names])
    rw [Option.none_or]
    -- What mentions the name first, if anything does, is a call.
    cases hcall : firstStep (d.calls.map fun e => Step.call e.caller e.callee) name with
    | none => simp [hnot]
    | some s =>
      obtain ⟨e, -, rfl⟩ := List.mem_map.mp (mem_of_firstStep hcall).1
      simp [hnot, Step.code?]

end CallGraph

/-! ## Section 7: Stores -/

/-- To build a graph is to build its store. -/
theorem CallGraph.toStore_run (g : CallGraph) (steps : List Step) :
    (g.run steps).toStore = g.toStore.run steps := by
  induction steps generalizing g with
  | nil => rfl
  | cons s steps ih =>
    have hstep : (g.apply s).toStore = g.toStore.apply s := by
      cases s <;> rfl
    show ((g.apply s).run steps).toStore = (g.toStore.apply s).run steps
    rw [ih, hstep]

namespace Store

/-- What a store holds that steps have made of the empty one. -/
structure History (s : Store) (steps : List Step) : Prop where
  /-- The index holds the names that the steps mention, in the order of their first mention,
      each with the number of its place. -/
  entries : s.index.entries = (steps.flatMap Step.names).eraseDups.zipIdx
  /-- The nodes bear the names of the index, in the same order. -/
  names : s.names = s.index.names
  /-- A name is found with the number of its place, and no other name is found. -/
  numbered : ∀ i name, s.indexOf? name = some i ↔ s.index.names[i]? = some name
  /-- The node with that number bears the name and knows its place. -/
  placed : ∀ i name, s.indexOf? name = some i → s.nameAt i = name ∧ s.orderOf? i = some i
  /-- It is a function, with its code, if and only if a definition mentions the name first. -/
  function : ∀ i name code, s.indexOf? name = some i →
    (s.get? i = some ⟨name, some code⟩ ↔ firstStep steps name = some (.function name code))
  /-- It is unresolved if and only if a call mentions the name first. -/
  unresolved : ∀ i name, s.indexOf? name = some i →
    (s.get? i = some ⟨name, none⟩ ↔
      ∃ caller callee, firstStep steps name = some (.call caller callee))
  /-- More steps leave all nodes, entries and calls as they are. -/
  lasting : ∀ more, s.nodes <+: (s.run more).nodes ∧
    s.index.entries <+: (s.run more).index.entries ∧ s.calls <+: (s.run more).calls
  /-- There is one call for each step that adds one, between the numbers that its two names
      are found with. -/
  calls : s.calls.map (fun c => (some c.1, some c.2)) =
    (steps.filterMap Step.call?).map fun c => (s.indexOf? c.1, s.indexOf? c.2)
  /-- Names that a definition mentions first are counted as functions, the others as unresolved. -/
  functionCount : s.functionCount =
    s.index.names.countP fun name => (firstStep steps name).any (·.code?.isSome)
  nameCount : s.functionCount + s.unresolvedCount = s.index.names.length
  callCount : s.callCount = steps.countP (·.call?.isSome)
  /-- To add a function returns the number that its name is found with then: its place in the
      order of first mention. -/
  returned : ∀ name code,
    (s.addFunction name code).1.indexOf? name = some (s.addFunction name code).2 ∧
      (s.addFunction name code).2 = (steps.flatMap Step.names ++ [name]).eraseDups.idxOf name

/-- **Building.** After any steps the index and the nodes of a store hold what the first
    mentions of the names say: their order, their numbers, which of them are functions, and
    all calls between them. -/
theorem run_history (steps : List Step) : (Store.empty.run steps).History steps := by
  have hstore : Store.empty.run steps = (CallGraph.empty.run steps).toStore :=
    (CallGraph.empty.toStore_run steps).symm
  have hindex := (CallGraph.empty.run steps).toSound.names_index
  rw [hstore]
  constructor
  case entries => rw [(CallGraph.empty.run steps).indexed, CallGraph.names_run]
  case names => exact hindex.symm
  case numbered =>
    intro i name
    rw [hindex]
    exact CallGraph.indexOf?_eq_some_iff
  case placed =>
    intro i name h
    obtain ⟨hlt, rfl⟩ := List.getElem?_eq_some_iff.mp (CallGraph.indexOf?_eq_some_iff.mp h)
    exact ⟨CallGraph.nameAt_eq_getElem hlt, CallGraph.orderOf?_eq_some hlt⟩
  case function =>
    intro i name code h
    rw [CallGraph.get?_run h]
    cases hs : firstStep steps name with
    | none => simp
    | some s => simpa using Step.code?_eq_some_iff (mem_of_firstStep hs).2
  case unresolved =>
    intro i name h
    rw [CallGraph.get?_run h]
    cases hs : firstStep steps name with
    | none => simp
    | some s => simpa using Step.code?_eq_none_iff
  case lasting =>
    intro more
    rw [← CallGraph.toStore_run]
    exact CallGraph.prefix_run _ more
  case calls =>
    rw [CallGraph.calls_run, List.map_map]
    refine List.map_congr_left fun c hc => ?_
    obtain ⟨hcaller, hcallee⟩ := CallGraph.mem_names_of_call hc
    rw [CallGraph.indexOf?_eq_idxOf hcaller, CallGraph.indexOf?_eq_idxOf hcallee]
    rfl
  case functionCount =>
    rw [hindex]
    exact CallGraph.functionCount_run steps
  case nameCount =>
    rw [hindex]
    exact CallGraph.functionCount_add_unresolvedCount _
  case callCount =>
    rw [callCount, CallGraph.calls_run, List.length_map, List.length_filterMap_eq_countP]
  case returned =>
    intro name code
    -- To add a function is one more step of the run.
    have hnames : ((CallGraph.empty.run steps).addFunction name code).1.names =
        (steps.flatMap Step.names ++ [name]).eraseDups := by
      have hrun := CallGraph.names_run (steps ++ [.function name code])
      rw [CallGraph.run_concat, List.flatMap_append, List.flatMap_singleton] at hrun
      exact hrun
    refine ⟨CallGraph.indexOf?_mention _ ⟨name, some code⟩, ?_⟩
    rw [← hnames]
    exact CallGraph.snd_mention _ ⟨name, some code⟩

/-- A name that calls itself before it is defined is one node, and stays unresolved. -/
example : Store.empty.run [.call "f" "f", .function "f" "def f(): f()"] =
    ⟨[⟨"f", none⟩], [(0, 0)], ⟨[("f", 0)]⟩⟩ := by
  decide +kernel

end Store

end CallAtlas.Graph
