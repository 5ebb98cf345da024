import CallAtlas.Proofs.FittingTree

/-! # Trees of another text

    A front end may give a tree that is not of the text it is read with. What an extraction
    looks at then depends on the tree alone: first the names of all definitions, then for each
    of them its snippet and the words that its calls are made of. The first look that fails
    ends the extraction. A snippet is cut with care, and so is a node inside the text whose
    bytes are no characters; but a node that leaves the text ends the extraction abruptly.
-/

namespace CallAtlas.Extract

open CallAtlas.Syntax
open CallAtlas.Text

/-! ## Section 1: Looks and verdicts -/

/-- How work on a text ends. -/
inductive Verdict where
  | done
  /-- With an error about the tree. -/
  | malformed
  /-- Without an answer. -/
  | abrupt
  /-- With any other error. -/
  | refused
  deriving DecidableEq

def Verdict.ofResult {α : Type} : Except Failure α → Verdict
  | .ok _ => .done
  | .error .abort => .abrupt
  | .error (.error (.malformedTree _)) => .malformed
  | .error (.error _) => .refused

/-- The bytes of a node do not all belong to a text, or are counted backwards. -/
def LeavesText (source : String) (n : Node) : Prop :=
  n.stop.byte < n.start.byte ∨ source.utf8ByteSize < n.stop.byte

instance (source : String) (n : Node) : Decidable (LeavesText source n) :=
  inferInstanceAs (Decidable (_ ∨ _))

/-- One look at the text. -/
inductive Look where
  /-- At the name of a definition. -/
  | name (definition : Node)
  /-- At the snippet of a definition. -/
  | snippet (span : Span)
  /-- At a node that says what a call invokes. -/
  | word (n : Node)

namespace Look

/-- The node whose text a look asks for. -/
def node? : Look → Option Node
  | name n => n.childByField .name
  | snippet _ => none
  | word n => some n

/-- How a look at a node ends. -/
def nodeVerdict (source : String) (n : Node) : Verdict :=
  if LeavesText source n then .abrupt
  else if (textOf source n).toOption.isSome then .done else .malformed

/-- How a look ends: a definition without a name and a snippet that cannot be cut are faults of
    the tree. -/
def verdict (source : String) : Look → Verdict
  | name n => (n.childByField .name).elim .malformed (nodeVerdict source)
  | snippet span => if (span.slice source).isSome then .done else .malformed
  | word n => nodeVerdict source n

/-- How looks in turn end: the first that is not done decides. -/
def judge (source : String) (looks : List Look) : Verdict :=
  ((looks.map (verdict source)).find? (· ≠ .done)).getD .done

variable {source : String}

theorem judge_cons (look : Look) (looks : List Look) :
    judge source (look :: looks) =
      if look.verdict source = .done then judge source looks else look.verdict source := by
  by_cases h : look.verdict source = .done <;> simp [judge, h]

theorem judge_append (looks more : List Look) :
    judge source (looks ++ more) =
      if judge source looks = .done then judge source more else judge source looks := by
  induction looks with
  | nil => rfl
  | cons look looks ih =>
    rw [List.cons_append, judge_cons, judge_cons]
    by_cases h : look.verdict source = .done
    · rw [if_pos h, if_pos h, ih]
    · rw [if_neg h, if_neg h, if_neg h]

theorem judge_singleton (look : Look) : judge source [look] = look.verdict source := by
  rw [judge_cons]
  split
  · next h => exact h.symm
  · rfl

/-- An ending other than `done` is that of the first look that is not done. -/
theorem judge_eq_iff {looks : List Look} {v : Verdict} (hv : v ≠ .done) :
    judge source looks = v ↔ ∃ before look after, looks = before ++ look :: after ∧
      (∀ l ∈ before, l.verdict source = .done) ∧ look.verdict source = v := by
  constructor
  · intro h
    induction looks with
    | nil => exact absurd h.symm hv
    | cons look looks ih =>
      rw [judge_cons] at h
      split at h
      · next hdone =>
        obtain ⟨before, first, after, rfl, hbefore, hfirst⟩ := ih h
        exact ⟨look :: before, first, after, rfl,
          List.forall_mem_cons.mpr ⟨hdone, hbefore⟩, hfirst⟩
      · exact ⟨[], look, looks, rfl, by simp, h⟩
  · rintro ⟨before, look, after, rfl, hbefore, rfl⟩
    induction before with
    | nil => rw [List.nil_append, judge_cons, if_neg hv]
    | cons l before ih =>
      obtain ⟨hl, hbefore⟩ := List.forall_mem_cons.mp hbefore
      rw [List.cons_append, judge_cons, if_pos hl]
      exact ih hbefore

theorem nodeVerdict_eq_abrupt_iff (n : Node) :
    nodeVerdict source n = .abrupt ↔ LeavesText source n := by
  unfold nodeVerdict
  split
  · next h => simp [h]
  · next h =>
    simp only [h, iff_false]
    split <;> simp

/-- A look ends abruptly at a node that leaves the text, and in no other way. -/
theorem verdict_eq_abrupt_iff (look : Look) :
    look.verdict source = .abrupt ↔ ∃ n, look.node? = some n ∧ LeavesText source n := by
  cases look with
  | name n =>
    show (n.childByField .name).elim .malformed (nodeVerdict source) = .abrupt ↔
      ∃ m, n.childByField .name = some m ∧ LeavesText source m
    cases n.childByField .name with
    | none => simp
    | some m => simp [nodeVerdict_eq_abrupt_iff]
  | snippet span =>
    show (if (span.slice source).isSome then Verdict.done else .malformed) = .abrupt ↔
      ∃ m, none = some m ∧ LeavesText source m
    split <;> simp
  | word n =>
    show nodeVerdict source n = .abrupt ↔ ∃ m, some n = some m ∧ LeavesText source m
    simp [nodeVerdict_eq_abrupt_iff]

/-- The first of the looks that is not done asks for a node that leaves the text. -/
def Strays (source : String) (looks : List Look) : Prop :=
  ∃ before look after n, looks = before ++ look :: after ∧
    (∀ l ∈ before, l.verdict source = .done) ∧ look.node? = some n ∧ LeavesText source n

theorem judge_eq_abrupt_iff {looks : List Look} :
    judge source looks = .abrupt ↔ Strays source looks := by
  rw [judge_eq_iff (by simp)]
  constructor
  · rintro ⟨before, look, after, hlooks, hbefore, hlook⟩
    obtain ⟨n, hn, hleaves⟩ := (verdict_eq_abrupt_iff look).mp hlook
    exact ⟨before, look, after, n, hlooks, hbefore, hn, hleaves⟩
  · rintro ⟨before, look, after, n, hlooks, hbefore, hn, hleaves⟩
    exact ⟨before, look, after, hlooks, hbefore, (verdict_eq_abrupt_iff look).mpr ⟨n, hn, hleaves⟩⟩

/-- Looks end in no other way than these three. -/
theorem verdict_ne_refused (look : Look) : look.verdict source ≠ .refused := by
  have hnode : ∀ n, nodeVerdict source n ≠ .refused := by
    intro n
    unfold nodeVerdict
    split
    · simp
    · split <;> simp
  cases look with
  | name n =>
    show (n.childByField .name).elim .malformed (nodeVerdict source) ≠ .refused
    cases n.childByField .name with
    | none => simp
    | some name => exact hnode name
  | snippet span =>
    show (if (span.slice source).isSome then Verdict.done else .malformed) ≠ .refused
    split <;> simp
  | word n => exact hnode n

end Look

open Look Verdict

variable {source : String}

/-! ## Section 2: What the parts of an extraction look at -/

theorem ofResult_ok {α : Type} (a : α) : ofResult (.ok a : Except Failure α) = .done := rfl

theorem ofResult_error_ne {α : Type} (e : Failure) :
    ofResult (.error e : Except Failure α) ≠ .done := by
  rcases e with e | _
  · cases e <;> simp [ofResult]
  · simp [ofResult]

/-- An error ends whatever it occurs in, in the same way. -/
theorem ofResult_error {α β : Type} (e : Failure) :
    ofResult (.error e : Except Failure α) = ofResult (.error e : Except Failure β) := by
  rcases e with e | _
  · cases e <;> rfl
  · rfl

theorem ofResult_map {α β : Type} (f : α → β) (result : Except Failure α) :
    ofResult (result.map f) = ofResult result := by
  cases result with
  | error e => exact ofResult_error e
  | ok a => rfl

/-- Work in two parts ends as the looks of both do in turn. -/
theorem ofResult_bind {α β : Type} {first : Except Failure α} {rest : α → Except Failure β}
    {looks more : List Look} (hfirst : ofResult first = judge source looks)
    (hrest : ∀ a, first = .ok a → ofResult (rest a) = judge source more) :
    ofResult (first >>= rest) = judge source (looks ++ more) := by
  rw [judge_append, ← hfirst]
  cases first with
  | error e =>
    rw [if_neg (ofResult_error_ne e)]
    exact ofResult_error e
  | ok a =>
    rw [if_pos (ofResult_ok a)]
    exact hrest a rfl

/-- Inside the text a node is read, or its bytes are no characters. -/
theorem textOf_cases {n : Node} (h : ¬ LeavesText source n) :
    (∃ text, textOf source n = .ok text) ∨
      ∃ fault, textOf source n = .error (.error (.malformedTree fault)) := by
  have hguard : ¬ (n.stop.byte < n.start.byte || source.utf8ByteSize < n.stop.byte) = true := by
    simpa [LeavesText] using h
  rw [textOf, if_neg hguard]
  split
  · exact .inl ⟨_, rfl⟩
  · dsimp only
    split
    · exact .inl ⟨_, rfl⟩
    · exact .inr ⟨_, rfl⟩

theorem ofResult_textOf (n : Node) : ofResult (textOf source n) = nodeVerdict source n := by
  unfold nodeVerdict
  by_cases hleaves : LeavesText source n
  · have hguard : (n.stop.byte < n.start.byte || source.utf8ByteSize < n.stop.byte) = true := by
      simpa [LeavesText] using hleaves
    rw [if_pos hleaves, textOf, if_pos hguard]
    rfl
  · rw [if_neg hleaves]
    rcases textOf_cases hleaves with ⟨text, htext⟩ | ⟨fault, htext⟩
    · rw [htext]
      rfl
    · rw [htext]
      rfl

/-- The words that say what a call invokes. -/
def wordsOfCall (call : Node) : List Node :=
  match call.childByField .function with
  | none => []
  | some f =>
    if f.kind == .terminal .identifier then [f]
    else if f.isPhrase .memberAccess then
      (f.childByField .object).toList ++ (f.childByField .member).toList
    else []

/-- The looks at a node, if it is a call. -/
def looksAt (n : Node) : List Look := if n.isPhrase .call then (wordsOfCall n).map word else []

theorem ofResult_textOfOptional (n : Option Node) :
    ofResult (textOfOptional source n) = judge source (n.toList.map word) := by
  cases n with
  | none => rfl
  | some n => exact (ofResult_textOf n).trans (judge_singleton (word n)).symm

theorem ofResult_targetOf (call : Node) :
    ofResult (targetOf source call) = judge source ((wordsOfCall call).map word) := by
  unfold targetOf wordsOfCall
  cases call.childByField .function with
  | none => rfl
  | some f =>
    dsimp only
    split
    · rw [ofResult_map, ofResult_textOf]
      exact (judge_singleton (word f)).symm
    · split
      · rw [List.map_append, judge_append, ← ofResult_textOfOptional, ← ofResult_textOfOptional]
        cases textOfOptional source (f.childByField .object) with
        | error e =>
          rw [if_neg (ofResult_error_ne e)]
          exact ofResult_error e
        | ok object =>
          rw [if_pos (ofResult_ok object)]
          exact ofResult_map _ _
      · rfl

theorem ofResult_addNode (c : DefinitionCalls) (n : Node) :
    ofResult (DefinitionCalls.addNode source c n) = judge source (looksAt n) := by
  unfold DefinitionCalls.addNode looksAt
  split
  · rw [ofResult_map, ofResult_targetOf]
  · rfl

/-- If every step of a run ends as certain looks do, whatever it starts from, the run ends as
    all these looks do in turn. -/
theorem ofResult_foldlM {σ α : Type} {step : σ → α → Except Failure σ} {looks : α → List Look}
    (h : ∀ s x, ofResult (step s x) = judge source (looks x)) (xs : List α) (s : σ) :
    ofResult (xs.foldlM step s) = judge source (xs.flatMap looks) := by
  induction xs generalizing s with
  | nil => rfl
  | cons x xs ih =>
    rw [List.foldlM_cons, List.flatMap_cons]
    exact ofResult_bind (h s x) fun t _ => ih t

theorem ofResult_calls (d : Definition) :
    ofResult (d.calls source) = judge source (d.nodes.flatMap looksAt) := by
  rw [Definition.calls_eq_foldlM]
  exact ofResult_foldlM ofResult_addNode _ _

/-- The looks of a report on a definition: at its snippet, and at the words of its calls. -/
def Definition.looks (d : Definition) : List Look := .snippet d.span :: d.nodes.flatMap looksAt

theorem ofResult_reportOn (d : Definition) :
    ofResult (reportOn source d).2 = judge source d.looks := by
  rw [Definition.looks, judge_cons, ← ofResult_calls]
  unfold reportOn
  cases hslice : d.span.slice source with
  | none =>
    have hverdict : (Look.snippet d.span).verdict source = .malformed := by simp [verdict, hslice]
    simp [hverdict, ofResult]
  | some snippet =>
    have hverdict : (Look.snippet d.span).verdict source = .done := by simp [verdict, hslice]
    rw [if_pos hverdict]
    cases d.calls source with
    | error e => exact ofResult_error e
    | ok calls => rfl

theorem ofResult_reportAll (ds : List Definition) :
    ofResult (reportAll source ds).2 = judge source (ds.flatMap (·.looks)) := by
  induction ds with
  | nil => rfl
  | cons d ds ih =>
    have hparts : (reportAll source (d :: ds)).2 =
        (reportOn source d).2 >>= fun report => (reportAll source ds).2.map (report :: ·) := by
      rw [reportAll]
      rcases reportOn source d with ⟨events, e | report⟩ <;> rfl
    rw [hparts, List.flatMap_cons]
    refine ofResult_bind (ofResult_reportOn d) fun report _ => ?_
    rw [ofResult_map, ih]

/-! ## Section 3: What an extraction looks at -/

/-- The looks for a definition at a visit: its snippet, and the words of the calls in its
    decorators and in its own node. -/
def looksOfVisit (v : Visit) : List Look :=
  .snippet (.between v.node.start v.node.lastToken.stop) ::
    ((decoratorsIn v.parent).flatMap (·.preorder) ++ v.node.preorder).flatMap looksAt

/-- The visits of a tree at which there is a definition that is wanted. -/
def wantedVisits (includeAsync : Bool) (tree : Node) : List Visit :=
  tree.visits.filter fun v => isWanted includeAsync v.node

/-- All looks of an extraction in turn: at the names of all definitions, and then at what each
    of them needs. -/
def looksOfTree (includeAsync : Bool) (tree : Node) : List Look :=
  (wantedVisits includeAsync tree).map (fun v => .name v.node) ++
    (wantedVisits includeAsync tree).flatMap looksOfVisit

theorem ofResult_definitionAt (includeAsync : Bool) (v : Visit) :
    ofResult (definitionAt source includeAsync v) =
      judge source (if isWanted includeAsync v.node then [.name v.node] else []) := by
  unfold definitionAt
  dsimp only
  split
  · next hkind =>
    have hother : isWanted includeAsync v.node = false := by simp_all [isWanted]
    rw [hother]
    rfl
  · next hkind =>
    split
    · next hasync =>
      have hother : isWanted includeAsync v.node = false := by simp_all [isWanted]
      rw [hother]
      rfl
    · next hasync =>
      have hwanted : isWanted includeAsync v.node = true := by
        cases includeAsync <;> simp_all [isWanted]
      rw [if_pos hwanted, judge_singleton]
      cases hname : v.node.childByField .name with
      | none => simp [verdict, hname, ofResult]
      | some name =>
        have hverdict : (Look.name v.node).verdict source = nodeVerdict source name := by
          simp [verdict, hname]
        rw [hverdict, ← ofResult_textOf]
        dsimp only
        cases textOf source name with
        | error e => exact ofResult_error e
        | ok text => rfl

theorem ofResult_definitions (includeAsync : Bool) (tree : Node) :
    ofResult (definitions source includeAsync tree) =
      judge source ((wantedVisits includeAsync tree).map fun v => .name v.node) := by
  have hstep : ∀ found v, ofResult (collectDefinition source includeAsync found v) =
      judge source (if isWanted includeAsync v.node then [.name v.node] else []) := by
    intro found v
    rw [collectDefinition, ofResult_map, ofResult_definitionAt]
  -- The run comes by all visits, and has nothing to look at where no definition is wanted.
  have hlooks : (wantedVisits includeAsync tree).map (fun v => Look.name v.node) =
      tree.visits.flatMap fun v => if isWanted includeAsync v.node then [.name v.node] else [] := by
    rw [wantedVisits]
    induction tree.visits with
    | nil => rfl
    | cons v visits ih =>
      rw [List.flatMap_cons, ← ih, List.filter_cons]
      split <;> rfl
  rw [definitions, ofResult_map, walk_root, hlooks]
  exact ofResult_foldlM hstep _ _

/-- The definitions that are found need the looks of the visits that are wanted. -/
theorem flatMap_looks_definitions {includeAsync : Bool} {tree : Node} {ds : List Definition}
    (hds : definitions source includeAsync tree = .ok ds) :
    ds.flatMap (·.looks) = (wantedVisits includeAsync tree).flatMap looksOfVisit := by
  have hvisit : ∀ v d, definitionAt source includeAsync v = .ok (some d) →
      d.looks = looksOfVisit v := by
    intro v d hd
    obtain ⟨hnode, -, hdecorators⟩ := definitionAt_eq_some hd
    have hspan := (definitionAt_eq_ok hd).2 d rfl
    rw [Definition.looks, Definition.nodes, hspan, hnode, hdecorators]
    rfl
  rw [List.flatMap_def, map_definitions hvisit hds, ← List.flatMap_def]
  rfl

theorem ofResult_extractTree (options : Options) (tree : Node) :
    ofResult (extractTree options source tree).2 =
      judge source (looksOfTree options.includeAsync tree) := by
  have hparts : (extractTree options source tree).2 =
      definitions source options.includeAsync tree >>= fun ds =>
        (reportAll source ds).2.map (Dataset.ofReports options.duplicates) := by
    unfold extractTree
    cases definitions source options.includeAsync tree with
    | error e => rfl
    | ok ds =>
      dsimp only
      rcases hreports : reportAll source ds with ⟨events, e | reports⟩ <;>
        simp [bind, Except.bind, Except.map, hreports]
  rw [hparts, looksOfTree]
  refine ofResult_bind (ofResult_definitions _ tree) fun ds hds => ?_
  rw [ofResult_map, ofResult_reportAll, flatMap_looks_definitions hds]

/-- The words of a call are parts of it. -/
theorem mem_preorder_of_mem_wordsOfCall {call n : Node} (h : n ∈ wordsOfCall call) :
    n ∈ call.preorder := by
  unfold wordsOfCall at h
  cases hf : call.childByField .function with
  | none => simp [hf] at h
  | some f =>
    have hinside : f ∈ call.preorder := Node.mem_preorder_of_childByField hf
    rw [hf] at h
    dsimp only at h
    split at h
    · rwa [List.mem_singleton.mp h]
    · split at h
      · rcases List.mem_append.mp h with h | h
        · exact Node.mem_preorder_trans hinside
            (Node.mem_preorder_of_childByField (Option.mem_toList.mp h))
        · exact Node.mem_preorder_trans hinside
            (Node.mem_preorder_of_childByField (Option.mem_toList.mp h))
      · cases h

/-- An extraction asks for the text of nodes of the tree alone. -/
theorem mem_preorder_of_look {includeAsync : Bool} {tree n : Node} {look : Look}
    (hlook : look ∈ looksOfTree includeAsync tree) (hn : look.node? = some n) :
    n ∈ tree.preorder := by
  rcases List.mem_append.mp hlook with hname | hvisit
  · obtain ⟨v, hv, rfl⟩ := List.mem_map.mp hname
    have hinside := Visit.node_mem_preorder (List.mem_filter.mp hv).1
    exact Node.mem_preorder_trans hinside (Node.mem_preorder_of_childByField hn)
  · obtain ⟨v, hv, hlook⟩ := List.mem_flatMap.mp hvisit
    have hv : v ∈ tree.visits := (List.mem_filter.mp hv).1
    rcases List.mem_cons.mp hlook with rfl | hlook
    · -- A snippet is cut by its span, without a node.
      cases hn
    · obtain ⟨m, hm, hlook⟩ := List.mem_flatMap.mp hlook
      have hinside : m ∈ tree.preorder := by
        rcases List.mem_append.mp hm with hm | hm
        · obtain ⟨decorator, hdecorator, hm⟩ := List.mem_flatMap.mp hm
          exact Node.mem_preorder_trans
            ((decorated_decoratorsIn hv).mem_preorder decorator hdecorator) hm
        · exact Node.mem_preorder_trans (Visit.node_mem_preorder hv) hm
      unfold looksAt at hlook
      split at hlook
      · obtain ⟨word, hword, rfl⟩ := List.mem_map.mp hlook
        cases hn
        exact Node.mem_preorder_trans hinside (mem_preorder_of_mem_wordsOfCall hword)
      · cases hlook

/-! ## Section 4: How an extraction ends -/

theorem ofResult_eq_abrupt_iff {α : Type} (result : Except Failure α) :
    ofResult result = .abrupt ↔ result = .error .abort := by
  rcases result with (e | _) | a
  · cases e <;> simp [ofResult]
  · simp [ofResult]
  · simp [ofResult]

/-- An extraction that goes on to the end or finds a fault of the tree. -/
theorem exists_of_not_strays {α : Type} {result : Except Failure α} {looks : List Look}
    (hresult : ofResult result = judge source looks) (hlooks : ¬ Strays source looks) :
    (∃ a, result = .ok a) ∨ ∃ fault, result = .error (.error (.malformedTree fault)) := by
  have habrupt : ofResult result ≠ .abrupt := by
    rw [hresult]
    exact fun h => hlooks (judge_eq_abrupt_iff.mp h)
  have hrefused : ofResult result ≠ .refused := by
    rw [hresult]
    intro h
    obtain ⟨_, look, _, -, -, hlook⟩ := (judge_eq_iff (by simp)).mp h
    exact verdict_ne_refused look hlook
  rcases result with (e | _) | a
  · cases e with
    | malformedTree fault => exact .inr ⟨fault, rfl⟩
    -- The size and the syntax are checked before, so no look ends with them.
    | _ => exact absurd rfl hrefused
  · exact absurd rfl habrupt
  · exact .inl ⟨a, rfl⟩

/-- What an extraction that recovers makes of a result. -/
theorem snd_extract (frontend : Frontend) (options : Options) :
    (extract frontend options source).2 = match (tryExtract frontend options source).2 with
      | .ok d => .dataset d
      | .error (.error _) => .dataset .empty
      | .error .abort => .abort := by
  unfold extract
  rcases tryExtract frontend options source with ⟨events, (e | _) | d⟩ <;> rfl

theorem extract_eq_abort_iff (frontend : Frontend) (options : Options) :
    (extract frontend options source).2 = .abort ↔
      (tryExtract frontend options source).2 = .error .abort := by
  rw [snd_extract]
  rcases (tryExtract frontend options source).2 with (e | _) | d <;> simp

/-- **A foreign tree.** Given any tree for a text, an extraction ends abruptly exactly if the
    first of its looks that is not done asks for a node that leaves the text: a name, or a word
    of a call. Otherwise it ends with a dataset, or with an error about the tree, in whose place
    an extraction that recovers gives the empty dataset. So it never ends abruptly if all nodes
    keep to the text, though they may start and end inside of characters. -/
theorem extraction_aborts_iff_strays {frontend : Frontend} {options : Options} {source : String}
    {tree : Node} (hsize : oversize? options source = none)
    (hparsed : frontend source = .ok tree) :
    ((tryExtract frontend options source).2 = .error .abort ↔
      Strays source (looksOfTree options.includeAsync tree)) ∧
    ((extract frontend options source).2 = .abort ↔
      Strays source (looksOfTree options.includeAsync tree)) ∧
    (¬ Strays source (looksOfTree options.includeAsync tree) →
      (∃ d, (tryExtract frontend options source).2 = .ok d ∧
        (extract frontend options source).2 = .dataset d) ∨
      ∃ fault, (tryExtract frontend options source).2 = .error (.error (.malformedTree fault)) ∧
        (extract frontend options source).2 = .dataset .empty) ∧
    ((∀ n ∈ tree.preorder, ¬ LeavesText source n) →
      ¬ Strays source (looksOfTree options.includeAsync tree)) := by
  have hrun : tryExtract frontend options source = extractTree options source tree := by
    simp only [tryExtract, hsize, hparsed]
  have hresult : ofResult (tryExtract frontend options source).2 =
      judge source (looksOfTree options.includeAsync tree) := by
    rw [hrun]
    exact ofResult_extractTree options tree
  have habort : (tryExtract frontend options source).2 = .error .abort ↔
      Strays source (looksOfTree options.includeAsync tree) := by
    rw [← ofResult_eq_abrupt_iff, hresult]
    exact judge_eq_abrupt_iff
  refine ⟨habort, (extract_eq_abort_iff frontend options).trans habort, ?_, ?_⟩
  · intro hlooks
    rcases exists_of_not_strays hresult hlooks with ⟨d, hd⟩ | ⟨fault, hfault⟩
    · exact .inl ⟨d, hd, by rw [snd_extract, hd]⟩
    · exact .inr ⟨fault, hfault, by rw [snd_extract, hfault]⟩
  · rintro hinside ⟨before, look, after, n, hlooks, -, hn, hleaves⟩
    have hlook : look ∈ looksOfTree options.includeAsync tree := by
      rw [hlooks]
      exact List.mem_append_right _ List.mem_cons_self
    exact hinside n (mem_preorder_of_look hlook hn) hleaves

/-- The first line of the text of three definitions. -/
def firstLine : String := "def f(): a()"

/-- A text as long as that of the accented tree, with its two-byte character elsewhere. -/
def shiftedSource : String := "def e(): é.b()\n"

/-- With the tree of three lines, the first line ends the extraction abruptly. With the accented
    tree, whose call splits a character of the other text, there is an error about the tree. -/
theorem extraction_aborts_iff_strays_sample :
    (Strays firstLine (looksOfTree true sampleTree) ∧
      (extract (fun _ => .ok sampleTree) .default firstLine).2 = .abort) ∧
    (∀ n ∈ accentedTree.preorder, ¬ LeavesText shiftedSource n) ∧
      ∃ fault, (tryExtract (fun _ => .ok accentedTree) .default shiftedSource).2 =
          .error (.error (.malformedTree fault)) ∧
        (extract (fun _ => .ok accentedTree) .default shiftedSource).2 = .dataset .empty := by
  constructor
  · obtain ⟨habort, hrecover, -, -⟩ := @extraction_aborts_iff_strays
      (fun _ => .ok sampleTree) .default firstLine sampleTree (by decide +kernel) rfl
    have hrun : (tryExtract (fun _ => .ok sampleTree) .default firstLine).2 = .error .abort := by
      decide +kernel
    exact ⟨habort.mp hrun, hrecover.mpr (habort.mp hrun)⟩
  · have hinside : ∀ n ∈ accentedTree.preorder, ¬ LeavesText shiftedSource n := by decide +kernel
    refine ⟨hinside, ?_⟩
    obtain ⟨-, -, hends, hkept⟩ := @extraction_aborts_iff_strays
      (fun _ => .ok accentedTree) .default shiftedSource accentedTree (by decide +kernel) rfl
    rcases hends (hkept hinside) with ⟨d, hd, -⟩ | hfault
    · have hfails : (tryExtract (fun _ => .ok accentedTree) .default shiftedSource).2.isOk =
          false := by
        decide +kernel
      rw [hd] at hfails
      cases hfails
    · exact hfault

/-- So it does not hold that an extraction ends with a dataset or an error about the tree,
    whatever the tree. -/
theorem foreign_tree_may_abort :
    ¬ ∀ (frontend : Frontend) (options : Options) (source : String) (tree : Node),
      oversize? options source = none → frontend source = .ok tree →
      ((∃ d, (tryExtract frontend options source).2 = .ok d) ∨
        ∃ fault, (tryExtract frontend options source).2 =
          .error (.error (.malformedTree fault))) ∧
      ∃ d, (extract frontend options source).2 = .dataset d := by
  intro h
  -- The name of the second definition is behind the end of the line.
  have hrun : (tryExtract (fun _ => .ok sampleTree) .default firstLine).2 = .error .abort := by
    decide +kernel
  obtain ⟨-, d, hd⟩ := h (fun _ => .ok sampleTree) .default firstLine sampleTree
    (by decide +kernel) rfl
  rw [(extract_eq_abort_iff _ _).mpr hrun] at hd
  cases hd

end CallAtlas.Extract
