import CallAtlas.Extract.Call
import CallAtlas.Proofs.DocumentOrder
import CallAtlas.Proofs.Sketches
import Mathlib.Data.List.Induction

/-! # Calls of a definition

    A definition has the calls of its decorators and then those of its own node, at any depth.
    The bare names that are called are listed once each, where they are called first; member
    calls are all listed.
-/

namespace CallAtlas.Extract

open CallAtlas.Syntax

/-! ## Section 1: What a node calls -/

/-- The name that a node calls, if it is a call whose function is an identifier. -/
def calledName (source : String) (n : Node) : Option String :=
  if n.isPhrase .call then
    match n.childByField .function with
    | some f => if f.kind == .terminal .identifier then (textOf source f).toOption else none
    | none => none
  else none

/-- The object and the member that a node calls, if it is a call whose function is a member
    access. -/
def calledMember (source : String) (n : Node) : Option (String × String) :=
  if n.isPhrase .call then
    match n.childByField .function with
    | some f =>
      if f.isPhrase .memberAccess then
        match textOfOptional source (f.childByField .object),
          textOfOptional source (f.childByField .member) with
        | .ok object, .ok member => some (object, member)
        | _, _ => none
      else none
    | none => none
  else none

namespace CallTarget

/-- The bare name that a target stands for. -/
def name? : CallTarget → Option String
  | .name x => some x
  | _ => none

/-- The object and the member that a target stands for. -/
def member? : CallTarget → Option (String × String)
  | .member object x => some (object, x)
  | _ => none

end CallTarget

theorem called_of_targetOf {source : String} {n : Node} {target : CallTarget}
    (hcall : n.isPhrase .call) (h : targetOf source n = .ok target) :
    calledName source n = target.name? ∧ calledMember source n = target.member? := by
  unfold targetOf at h
  unfold calledName calledMember
  rw [if_pos hcall, if_pos hcall]
  cases hf : n.childByField .function with
  | none =>
    rw [hf] at h
    cases h
    exact ⟨rfl, rfl⟩
  | some f =>
    simp only [hf] at h
    split at h
    · next hname =>
      -- An identifier is no member access.
      have hmember : f.isPhrase .memberAccess = false := by
        rw [Node.isPhrase, eq_of_beq hname]
        rfl
      cases htext : textOf source f with
      | error e => simp [htext, Except.map] at h
      | ok text =>
        simp only [htext, Except.map, Except.ok.injEq] at h
        subst h
        simp [hname, hmember, htext, CallTarget.name?, CallTarget.member?, Except.toOption]
    · next hname =>
      split at h
      · next hmember =>
        cases hobject : textOfOptional source (f.childByField .object) with
        | error e => simp [hobject] at h
        | ok object =>
          cases htext : textOfOptional source (f.childByField .member) with
          | error e => simp [hobject, htext, Except.map] at h
          | ok member =>
            simp only [hobject, htext, Except.map, Except.ok.injEq] at h
            subst h
            simp [hname, hmember, hobject, htext, CallTarget.name?, CallTarget.member?]
      · next hmember =>
        cases h
        simp [hname, hmember, CallTarget.name?, CallTarget.member?]

theorem called_of_not_call (source : String) {n : Node} (h : n.isPhrase .call = false) :
    calledName source n = none ∧ calledMember source n = none := by
  simp [calledName, calledMember, h]

/-! ## Section 2: What a definition calls -/

namespace DefinitionCalls

theorem callees_add (c : DefinitionCalls) (target : CallTarget) :
    (c.add target).callees = target.name?.toList.foldl insertNew c.callees := by
  cases target <;> rfl

theorem memberCalls_add (c : DefinitionCalls) (target : CallTarget) :
    (c.add target).memberCalls = c.memberCalls ++ target.member?.toList := by
  cases target <;> simp [add, CallTarget.member?]

/-- One node adds what it calls, and what it calls can be read. -/
theorem addNode_eq_ok {source : String} {c c' : DefinitionCalls} {n : Node}
    (h : addNode source c n = .ok c') :
    c'.callees = (calledName source n).toList.foldl insertNew c.callees ∧
    c'.memberCalls = c.memberCalls ++ (calledMember source n).toList ∧
    (n.isPhrase .call → ∃ target, targetOf source n = .ok target) := by
  unfold addNode at h
  split at h
  · next hcall =>
    cases htarget : targetOf source n with
    | error e => simp [htarget, Except.map] at h
    | ok target =>
      simp only [htarget, Except.map, Except.ok.injEq] at h
      obtain ⟨hname, hmember⟩ := called_of_targetOf hcall htarget
      rw [← h, hname, hmember]
      exact ⟨callees_add c target, memberCalls_add c target, fun _ => ⟨target, rfl⟩⟩
  · next hcall =>
    obtain ⟨hname, hmember⟩ := called_of_not_call source (eq_false_of_ne_true hcall)
    rw [hname, hmember, ← Except.ok.inj h]
    exact ⟨rfl, (List.append_nil _).symm, fun h => absurd h hcall⟩

/-- A run over nodes adds what they call, in order. -/
theorem foldlM_addNode_eq_ok {source : String} {c c' : DefinitionCalls} {nodes : List Node}
    (h : nodes.foldlM (addNode source) c = .ok c') :
    c'.callees = (nodes.filterMap (calledName source)).foldl insertNew c.callees ∧
    c'.memberCalls = c.memberCalls ++ nodes.filterMap (calledMember source) ∧
    ∀ n ∈ nodes, n.isPhrase .call → ∃ target, targetOf source n = .ok target := by
  induction nodes generalizing c with
  | nil =>
    cases h
    simp
  | cons n nodes ih =>
    rw [List.foldlM_cons] at h
    cases hn : addNode source c n with
    | error e =>
      rw [hn] at h
      cases h
    | ok next =>
      rw [hn] at h
      obtain ⟨hcallees, hmembers, hread⟩ := addNode_eq_ok hn
      obtain ⟨hcallees', hmembers', hread'⟩ := ih h
      refine ⟨?_, ?_, ?_⟩
      · rw [hcallees', hcallees]
        cases hname : calledName source n with
        | none =>
          rw [List.filterMap_cons_none hname]
          rfl
        | some x =>
          rw [List.filterMap_cons_some hname]
          rfl
      · rw [hmembers', hmembers, List.append_assoc]
        cases hmember : calledMember source n with
        | none =>
          rw [List.filterMap_cons_none hmember]
          rfl
        | some x =>
          rw [List.filterMap_cons_some hmember]
          rfl
      · intro m hm
        rcases List.mem_cons.mp hm with rfl | hm
        · exact hread
        · exact hread' m hm

/-- The run over nodes and the list of the calls among them look at the same targets, and end
    with the same failure if one of these cannot be read. -/
theorem foldlM_addNode_eq_targetsIn (source : String) (c : DefinitionCalls) (nodes : List Node) :
    nodes.foldlM (addNode source) c =
      (targetsIn source nodes).map fun calls => (calls.map (·.2)).foldl add c := by
  induction nodes generalizing c with
  | nil => rfl
  | cons n nodes ih =>
    rw [List.foldlM_cons, targetsIn, addNode]
    by_cases hcall : n.isPhrase .call = true
    · rw [if_pos hcall, if_pos hcall]
      cases targetOf source n with
      | error e => rfl
      | ok target =>
        show nodes.foldlM (addNode source) (c.add target) = _
        rw [ih]
        cases targetsIn source nodes <;> rfl
    · rw [if_neg hcall, if_neg hcall]
      exact ih c

/-- The calls at and below a node are those that are listed for the tree under it. -/
theorem addBelow_eq_callsOfTree (source : String) (c : DefinitionCalls) (root : Node) :
    c.addBelow source root =
      (callsOfTree source root).map fun calls => (calls.map (·.2)).foldl add c := by
  rw [addBelow, walk_root_of_node, callsOfTree, foldlM_addNode_eq_targetsIn]

end DefinitionCalls

/-- The nodes of a definition in document order: its decorators with all below them, and
    then its own node with all below it. -/
def Definition.nodes (d : Definition) : List Node :=
  d.decorators.flatMap (·.preorder) ++ d.node.preorder

theorem foldlM_addBelow (source : String) (c : DefinitionCalls) (roots : List Node) :
    roots.foldlM (DefinitionCalls.addBelow source) c =
      (roots.flatMap (·.preorder)).foldlM (DefinitionCalls.addNode source) c := by
  induction roots generalizing c with
  | nil => rfl
  | cons root roots ih =>
    rw [List.foldlM_cons, List.flatMap_cons, List.foldlM_append, DefinitionCalls.addBelow,
      walk_root_of_node]
    simp only [ih]

theorem Definition.calls_eq_foldlM (source : String) (d : Definition) :
    d.calls source = d.nodes.foldlM (DefinitionCalls.addNode source) .empty := by
  -- The definition's own node is walked like one more decorator, after the others.
  have hcalls : d.calls source =
      (d.decorators ++ [d.node]).foldlM (DefinitionCalls.addBelow source) .empty := by
    rw [Definition.calls, List.foldlM_append]
    cases d.decorators.foldlM (DefinitionCalls.addBelow source) .empty with
    | error e => rfl
    | ok c =>
      show c.addBelow source d.node = [d.node].foldlM (DefinitionCalls.addBelow source) c
      simp only [List.foldlM_cons, List.foldlM_nil, bind_pure]
  rw [hcalls, foldlM_addBelow, Definition.nodes, List.flatMap_append, List.flatMap_singleton]

/-- Names that are inserted one after the other stand where they come first. -/
theorem foldl_insertNew_nil (xs : List String) : xs.foldl insertNew [] = xs.eraseDups := by
  induction xs using List.reverseRecOn with
  | nil => rfl
  | append_singleton xs x ih =>
    rw [List.foldl_append, ih, eraseDups_concat]
    by_cases hx : x ∈ xs
    · simp [insertNew, hx]
    · simp [insertNew, hx]

/-! ## Section 3: Definitions in a tree -/

/-- The decorators of a node in a tree: if it is a part of a decorated definition, the parts
    of that which are decorators; otherwise none. -/
inductive Decorated (tree n : Node) : List Node → Prop where
  | root (h : n = tree) : Decorated tree n []
  | plain {parent : Node} (hparent : parent ∈ tree.preorder) (h : n ∈ parent.children)
      (hkind : parent.isPhrase .decoratedDefinition = false) : Decorated tree n []
  | decorated {parent : Node} (hparent : parent ∈ tree.preorder) (h : n ∈ parent.children)
      (hkind : parent.isPhrase .decoratedDefinition) :
      Decorated tree n (parent.children.filter (·.isPhrase .decorator))

theorem decorated_decoratorsIn {tree : Node} {v : Visit} (hv : v ∈ tree.visits) :
    Decorated tree v.node (decoratorsIn v.parent) := by
  rcases Visit.root_or_parent_of_mem_visits hv with rfl | ⟨parent, hparent, hv, hnode⟩
  · exact .root rfl
  · rw [hv, decoratorsIn]
    split
    · exact .decorated hparent hnode ‹_›
    · exact .plain hparent hnode (eq_false_of_ne_true ‹_›)

theorem definitionAt_eq_some {source : String} {includeAsync : Bool} {v : Visit}
    {d : Definition} (h : definitionAt source includeAsync v = .ok (some d)) :
    d.node = v.node ∧ d.node.isPhrase .functionDefinition ∧
      d.decorators = decoratorsIn v.parent := by
  unfold definitionAt at h
  dsimp only at h
  split at h
  · cases h
  · next hkind =>
    split at h
    · cases h
    · split at h
      · cases h
      · split at h
        · cases h
        · cases h
          exact ⟨rfl, by simpa using hkind, rfl⟩

/-- What a run over visits has found was there before, or is at one of the visits. -/
theorem mem_of_foldlM_collectDefinition {source : String} {includeAsync : Bool}
    {visits : List Visit} {found all : Array Definition} {d : Definition}
    (h : visits.foldlM (collectDefinition source includeAsync) found = .ok all) (hd : d ∈ all) :
    d ∈ found ∨ ∃ v ∈ visits, definitionAt source includeAsync v = .ok (some d) := by
  induction visits generalizing found with
  | nil =>
    cases h
    exact .inl hd
  | cons v visits ih =>
    rw [List.foldlM_cons, collectDefinition] at h
    cases hv : definitionAt source includeAsync v with
    | error e =>
      rw [hv] at h
      cases h
    | ok here =>
      rw [hv] at h
      rcases ih h with hd | ⟨w, hw, hd⟩
      · rcases Array.mem_append.mp hd with hd | hd
        · exact .inl hd
        · refine .inr ⟨v, List.mem_cons_self, ?_⟩
          rw [hv, Option.mem_toArray.mp hd]
      · exact .inr ⟨w, List.mem_cons_of_mem v hw, hd⟩

theorem exists_visit_of_mem_definitions {source : String} {includeAsync : Bool} {tree : Node}
    {ds : List Definition} {d : Definition} (h : definitions source includeAsync tree = .ok ds)
    (hd : d ∈ ds) :
    ∃ v ∈ tree.visits, definitionAt source includeAsync v = .ok (some d) := by
  rw [definitions, walk_root] at h
  cases hall : tree.visits.foldlM (collectDefinition source includeAsync) #[] with
  | error e =>
    rw [hall] at h
    cases h
  | ok all =>
    rw [hall] at h
    cases h
    rcases mem_of_foldlM_collectDefinition hall (Array.mem_toList_iff.mp hd) with hd | hd
    · exact absurd hd (Array.not_mem_empty d)
    · exact hd

/-- The calls of a definition of a tree are those of the nodes of its decorators and of its
    own, in document order: names once each, at the first call, and members at every call.
    Each of these calls could be read, so none is missing. -/
theorem calls_attribution {source : String} {includeAsync : Bool} {tree : Node}
    {ds : List Definition} {d : Definition} {c : DefinitionCalls}
    (hds : definitions source includeAsync tree = .ok ds) (hd : d ∈ ds)
    (hc : d.calls source = .ok c) :
    d.node ∈ tree.preorder ∧ d.node.isPhrase .functionDefinition ∧
    Decorated tree d.node d.decorators ∧
    c.callees = (d.nodes.filterMap (calledName source)).eraseDups ∧ c.callees.Nodup ∧
    c.memberCalls = d.nodes.filterMap (calledMember source) ∧
    ∀ n ∈ d.nodes, n.isPhrase .call → ∃ target, targetOf source n = .ok target := by
  obtain ⟨v, hv, hat⟩ := exists_visit_of_mem_definitions hds hd
  obtain ⟨hnode, hkind, hdecorators⟩ := definitionAt_eq_some hat
  rw [Definition.calls_eq_foldlM] at hc
  obtain ⟨hcallees, hmembers, hread⟩ := DefinitionCalls.foldlM_addNode_eq_ok hc
  refine ⟨?_, hkind, ?_, ?_, ?_, hmembers, hread⟩
  · rw [hnode, ← Visit.map_node_visits]
    exact List.mem_map_of_mem hv
  · rw [hnode, hdecorators]
    exact decorated_decoratorsIn hv
  · rw [hcallees]
    exact foldl_insertNew_nil _
  · rw [hcallees]
    exact nodup_foldl_insertNew id _ .nil

/-- A decorated function whose body has calls within calls. -/
def nestedSource : String := "@r()\ndef f(): g(a.h(g()))\n"

def nestedLines : LineStarts := ⟨[0, 5, 26]⟩

def nestedTree : Node :=
  nestedLines.node (.phrase .sourceFile) 0 26 none
    [nestedLines.node (.phrase .decoratedDefinition) 0 25 none
      [nestedLines.node (.phrase .decorator) 0 4 none
          [nestedLines.call (nestedLines.name 1 (some .function)) 4 []],
        nestedLines.definition 5 25 (some .definition)
          [nestedLines.call (nestedLines.name 14 (some .function)) 25
            [nestedLines.call (nestedLines.member 16) 24
              [nestedLines.call (nestedLines.name 20 (some .function)) 23 []]]]]]

/-- In that text `f` calls `r`, by its decorator, and then `g`, and the member `h` of `a`. -/
theorem calls_attribution_nested : ∃ ds d c, definitions nestedSource true nestedTree = .ok ds ∧
    d ∈ ds ∧ d.calls nestedSource = .ok c ∧ c.callees = ["r", "g"] ∧
      c.memberCalls = [("a", "h")] := by
  have hrun : ((definitions nestedSource true nestedTree).toOption.bind fun ds =>
      ds.head?.bind fun d => (d.calls nestedSource).toOption.map fun _ =>
        ((d.nodes.filterMap (calledName nestedSource)).eraseDups,
          d.nodes.filterMap (calledMember nestedSource))) =
        some (["r", "g"], [("a", "h")]) := by
    decide +kernel
  cases hds : definitions nestedSource true nestedTree with
  | error e => simp [hds, Except.toOption] at hrun
  | ok ds =>
    cases hd : ds.head? with
    | none => simp [hds, hd, Except.toOption] at hrun
    | some d =>
      cases hc : d.calls nestedSource with
      | error e => simp [hds, hd, hc, Except.toOption] at hrun
      | ok c =>
        simp only [hds, hd, hc, Except.toOption, Option.bind_some, Option.map_some,
          Option.some.injEq, Prod.mk.injEq] at hrun
        have hmem := List.mem_of_head? hd
        obtain ⟨-, -, -, hcallees, -, hmembers, -⟩ := calls_attribution hds hmem hc
        exact ⟨ds, d, c, rfl, hmem, hc, hcallees.trans hrun.1, hmembers.trans hrun.2⟩

end CallAtlas.Extract
