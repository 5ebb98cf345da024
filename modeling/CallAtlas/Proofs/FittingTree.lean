import CallAtlas.Proofs.EventTrace
import CallAtlas.Proofs.Nesting

/-! # Trees that fit their text

    A tree fits a text if its nodes lie in the text and start and end between characters, the
    parts of each within it and in order, and if every function definition has a name. The
    text of any node can then be read, and so can the snippet of a definition, which starts
    with one node and ends with another. An extraction that gets such a tree does not fail.
-/

namespace CallAtlas.Syntax

namespace Node

/-! ## Section 1: Fitting -/

/-- A node lies in a text, between characters, and holds its parts; a function definition has
    a name. -/
structure Fits (source : String) (n : Node) : Prop where
  enfolds : n.Enfolds
  start_valid : (⟨n.start.byte⟩ : String.Pos.Raw).IsValid source
  stop_valid : (⟨n.stop.byte⟩ : String.Pos.Raw).IsValid source
  named : n.isPhrase .functionDefinition → (n.childByField .name).isSome

instance (source : String) (n : Node) : Decidable (n.Fits source) :=
  decidable_of_iff (n.Enfolds ∧ (⟨n.start.byte⟩ : String.Pos.Raw).IsValid source ∧
    (⟨n.stop.byte⟩ : String.Pos.Raw).IsValid source ∧
    (n.isPhrase .functionDefinition → (n.childByField .name).isSome))
    ⟨fun h => ⟨h.1, h.2.1, h.2.2.1, h.2.2.2⟩, fun h => ⟨h.1, h.2, h.3, h.4⟩⟩

/-- Every node of a tree fits a text. -/
def FitsText (source : String) (tree : Node) : Prop := ∀ n ∈ tree.preorder, n.Fits source

instance (source : String) (tree : Node) : Decidable (tree.FitsText source) :=
  List.decidableBAll _ _

variable {source : String} {n m : Node}

theorem FitsText.fits (h : n.FitsText source) : n.Fits source := h n n.mem_preorder_self

theorem FitsText.below (h : n.FitsText source) (hm : m ∈ n.preorder) : m.FitsText source :=
  fun _ hk => h _ (mem_preorder_trans hm hk)

theorem FitsText.nested (h : n.FitsText source) : n.Nested := fun m hm => (h m hm).enfolds

theorem mem_preorder_of_childByField {f : Field} (h : n.childByField f = some m) :
    m ∈ n.preorder :=
  mem_preorder_of_mem_children (List.mem_of_find?_eq_some h) m.mem_preorder_self

/-- The descent to the last token does not leave the node. -/
theorem lastToken_mem_preorder (n : Node) : n.lastToken ∈ n.preorder := by
  induction n using parts_induction with
  | node n ih =>
    rcases n.lastToken_cases with ⟨-, htoken⟩ | ⟨earlier, last, hparts, htoken⟩
    · rw [htoken]
      exact n.mem_preorder_self
    · have hlast : last ∈ n.children := (mem_ownParts.mp (hparts ▸ List.mem_concat_self)).1
      rw [htoken]
      exact mem_preorder_of_mem_children hlast (ih last hlast)

end Node

end CallAtlas.Syntax

namespace CallAtlas.Extract

open CallAtlas.Syntax
open CallAtlas.Text

variable {source : String} {tree : Node}

/-! ## Section 2: Texts of nodes -/

theorem exists_textOf {n : Node} (h : n.Fits source) : ∃ text, textOf source n = .ok text := by
  have horder := h.enfolds.start_le_stop
  have hstop := h.stop_valid.le_utf8ByteSize
  obtain ⟨text, htext⟩ : ∃ text, (Span.between n.start n.stop).slice source = some text :=
    Span.exists_slice horder h.start_valid h.stop_valid
  refine ⟨text, ?_⟩
  have hinside : (n.stop.byte < n.start.byte || source.utf8ByteSize < n.stop.byte) = false := by
    simp only [Bool.or_eq_false_iff, decide_eq_false_iff_not, Nat.not_lt]
    exact ⟨horder, hstop⟩
  simp only [textOf, hinside, htext]
  rfl

theorem exists_textOfOptional {n : Node} (h : n.FitsText source) (f : Field) :
    ∃ text, textOfOptional source (n.childByField f) = .ok text := by
  cases hpart : n.childByField f with
  | none => exact ⟨"", rfl⟩
  | some part => exact exists_textOf (h.below (Node.mem_preorder_of_childByField hpart)).fits

/-- The function of a call, its object and its member can all be read. -/
theorem exists_targetOf {n : Node} (h : n.FitsText source) :
    ∃ target, targetOf source n = .ok target := by
  unfold targetOf
  cases hfunction : n.childByField .function with
  | none => exact ⟨_, rfl⟩
  | some f =>
    have hf : f.FitsText source := h.below (Node.mem_preorder_of_childByField hfunction)
    dsimp only
    split
    · obtain ⟨text, htext⟩ := exists_textOf hf.fits
      exact ⟨_, by rw [htext]; rfl⟩
    · split
      · obtain ⟨object, hobject⟩ := exists_textOfOptional hf .object
        obtain ⟨member, hmember⟩ := exists_textOfOptional hf .member
        exact ⟨_, by rw [hobject, hmember]; rfl⟩
      · exact ⟨_, rfl⟩

/-! ## Section 3: Definitions -/

/-- A run succeeds if each of its steps does, whatever it starts from. -/
theorem exists_foldlM {σ α ε : Type} {step : σ → α → Except ε σ} {xs : List α}
    (h : ∀ x ∈ xs, ∀ s, ∃ t, step s x = .ok t) (s : σ) : ∃ t, xs.foldlM step s = .ok t := by
  induction xs generalizing s with
  | nil => exact ⟨s, rfl⟩
  | cons x xs ih =>
    obtain ⟨t, ht⟩ := h x List.mem_cons_self s
    rw [List.foldlM_cons, ht]
    exact ih (fun y hy => h y (List.mem_cons_of_mem x hy)) t

theorem exists_definitionAt {v : Visit} (h : v.node.FitsText source) (includeAsync : Bool) :
    ∃ found, definitionAt source includeAsync v = .ok found := by
  unfold definitionAt
  dsimp only
  split
  · exact ⟨none, rfl⟩
  · next hkind =>
    split
    · exact ⟨none, rfl⟩
    · obtain ⟨name, hname⟩ := Option.isSome_iff_exists.mp (h.fits.named (by simpa using hkind))
      obtain ⟨text, htext⟩ :=
        exists_textOf (h.below (Node.mem_preorder_of_childByField hname)).fits
      simp only [hname, htext]
      exact ⟨_, rfl⟩

/-- The definitions of a tree that fits the text can be collected. -/
theorem exists_definitions (h : tree.FitsText source) (includeAsync : Bool) :
    ∃ ds, definitions source includeAsync tree = .ok ds := by
  have hstep : ∀ v ∈ tree.visits, ∀ found,
      ∃ more, collectDefinition source includeAsync found v = .ok more := by
    intro v hv found
    obtain ⟨here, hhere⟩ := exists_definitionAt (h.below (Visit.node_mem_preorder hv)) includeAsync
    exact ⟨_, by rw [collectDefinition, hhere]; rfl⟩
  obtain ⟨all, hall⟩ := exists_foldlM hstep #[]
  exact ⟨all.toList, by rw [definitions, walk_root, hall]; rfl⟩

theorem Decorated.mem_preorder {n : Node} {decorators : List Node}
    (h : Decorated tree n decorators) : ∀ m ∈ decorators, m ∈ tree.preorder := by
  cases h with
  | root _ => simp
  | plain _ _ _ => simp
  | @decorated parent hparent _ _ =>
    intro m hm
    have hpart : m ∈ parent.children := (List.mem_filter.mp hm).1
    exact Node.mem_preorder_trans hparent
      (Node.mem_preorder_of_mem_children hpart m.mem_preorder_self)

/-- A definition can be read: its snippet, and the calls of its decorators and of its node. -/
theorem exists_faithful (h : tree.FitsText source) {includeAsync : Bool} {ds : List Definition}
    (hds : definitions source includeAsync tree = .ok ds) {d : Definition} (hd : d ∈ ds) :
    (∃ snippet, d.span.slice source = some snippet) ∧ ∃ c, d.calls source = .ok c := by
  obtain ⟨v, hv, hat⟩ := exists_visit_of_mem_definitions hds hd
  obtain ⟨hnode, -, hdecorators⟩ := definitionAt_eq_some hat
  have hinside : d.node ∈ tree.preorder := hnode ▸ Visit.node_mem_preorder hv
  have hfits : d.node.FitsText source := h.below hinside
  constructor
  · -- The span starts with one node and ends with another, found by a descent from the first.
    have hlast : d.node.lastToken.Fits source := hfits _ d.node.lastToken_mem_preorder
    rw [(definitionAt_eq_ok hat).2 d rfl]
    exact Span.exists_slice hfits.nested.lastToken_bounds.1 hfits.fits.start_valid hlast.stop_valid
  · have hdecorated : Decorated tree d.node d.decorators := by
      rw [hnode, hdecorators]
      exact decorated_decoratorsIn hv
    have hstep : ∀ n ∈ d.nodes, ∀ c, ∃ c', DefinitionCalls.addNode source c n = .ok c' := by
      intro n hn c
      have hn' : n ∈ tree.preorder := by
        rcases List.mem_append.mp hn with hn | hn
        · obtain ⟨decorator, hdecorator, hn⟩ := List.mem_flatMap.mp hn
          exact Node.mem_preorder_trans (hdecorated.mem_preorder decorator hdecorator) hn
        · exact Node.mem_preorder_trans hinside hn
      obtain ⟨target, htarget⟩ := exists_targetOf (h.below hn')
      unfold DefinitionCalls.addNode
      split
      · exact ⟨_, by rw [htarget]; rfl⟩
      · exact ⟨c, rfl⟩
    rw [Definition.calls_eq_foldlM]
    exact exists_foldlM hstep .empty

/-! ## Section 4: Extraction -/

/-- With trees that fit the text, an extraction fails only for the size of the text or
    because the front end does. -/
theorem refused_of_fitsText {frontend : Frontend} {options : Options} {failure : Failure}
    (hfits : ∀ tree, frontend source = .ok tree → tree.FitsText source)
    (h : (tryExtract frontend options source).2 = .error failure) :
    (∃ size limit, oversize? options source = some (size, limit) ∧
      failure = .error (.tooLarge size limit)) ∨
    ∃ e, frontend source = .error e ∧ failure = .error e := by
  have hcourse := tryExtract_course frontend options source
  rw [h] at hcourse
  generalize (tryExtract frontend options source).1 = events at hcourse
  cases hcourse with
  | tooLarge hsize => exact .inl ⟨_, _, hsize, rfl⟩
  | unparsed _ hunparsed => exact .inr ⟨_, hunparsed, rfl⟩
  | uncollected _ hparsed hfailed =>
    obtain ⟨ds, hds⟩ := exists_definitions (hfits _ hparsed) options.includeAsync
    rw [hds] at hfailed
    cases hfailed
  | broken hcollected _ hfails =>
    obtain ⟨⟨snippet, hsnippet⟩, c, hc⟩ := exists_faithful (hfits _ hcollected.parsed)
      hcollected.collected (List.mem_append_right _ List.mem_cons_self)
    cases hfails with
    | outside hslice =>
      rw [hsnippet] at hslice
      cases hslice
    | unread _ hcalls =>
      rw [hc] at hcalls
      cases hcalls

theorem tooLarge_of_fitsText {frontend : Frontend} {options : Options} {failure : Failure}
    (hfits : tree.FitsText source) (hparsed : frontend source = .ok tree)
    (h : (tryExtract frontend options source).2 = .error failure) :
    ∃ size limit, oversize? options source = some (size, limit) ∧
      failure = .error (.tooLarge size limit) := by
  have hall : ∀ other, frontend source = .ok other → other.FitsText source := by
    intro other hother
    rwa [← Except.ok.inj (hparsed.symm.trans hother)]
  rcases refused_of_fitsText hall h with hsize | ⟨e, hunparsed, -⟩
  · exact hsize
  · rw [hparsed] at hunparsed
    cases hunparsed

theorem exists_tryExtract {frontend : Frontend} {options : Options} (hfits : tree.FitsText source)
    (hparsed : frontend source = .ok tree) (hsize : oversize? options source = none) :
    ∃ d, (tryExtract frontend options source).2 = .ok d := by
  cases hresult : (tryExtract frontend options source).2 with
  | ok d => exact ⟨d, rfl⟩
  | error failure =>
    obtain ⟨size, limit, hover, -⟩ := tooLarge_of_fitsText hfits hparsed hresult
    rw [hsize] at hover
    cases hover

/-- A flagged tree has a fault, whether or not a node shows it. -/
theorem exists_fault_of_flagged (tree : Node) : ∃ fault, tree.firstFault true = some fault := by
  unfold Node.firstFault
  cases tree.search with
  | error fault => exact ⟨fault, rfl⟩
  | ok _ => exact ⟨_, rfl⟩

/-- The front end for Python gives the tree that the grammar gives, if it has no fault, and
    otherwise the first fault of that tree or of the one from the recovery. -/
theorem pythonFrontend_cases (recover : Recovery) (source : String) :
    (∃ tree, parse source = some tree ∧ tree.firstFault false = none ∧
      pythonFrontend recover source = .ok tree) ∨
    ∃ fault, pythonFrontend recover source = .error (.syntaxFault fault) ∧
      (parse source = none → (recover source).firstFault true = some fault) ∧
      ∀ tree, parse source = some tree → tree.firstFault false = some fault := by
  unfold pythonFrontend faultless
  cases parse source with
  | none =>
    obtain ⟨fault, hfault⟩ := exists_fault_of_flagged (recover source)
    exact .inr ⟨fault, by simp only [hfault], fun _ => hfault, by simp⟩
  | some tree =>
    cases hfault : tree.firstFault false with
    | none => exact .inl ⟨tree, rfl, hfault, by simp only [hfault]⟩
    | some fault => exact .inr ⟨fault, by simp only [hfault], by simp, by simp [hfault]⟩

/-- **No internal fault.** If a tree fits the text, its definitions can be collected, and the
    snippet and the calls of each of them can be read. So an extraction whose front end gives
    that tree succeeds, unless the text is too large. In particular, where the tree is that
    of the Python grammar, an extraction fails for the size or the syntax of the text alone. -/
theorem tryExtract_of_fitsText {source : String} {tree : Node} (h : tree.FitsText source) :
    (∀ includeAsync, ∃ ds, definitions source includeAsync tree = .ok ds ∧
      ∀ d ∈ ds, (∃ snippet, d.span.slice source = some snippet) ∧ ∃ c, d.calls source = .ok c) ∧
    (∀ frontend options, frontend source = .ok tree →
      (oversize? options source = none → ∃ d, (tryExtract frontend options source).2 = .ok d) ∧
      ∀ failure, (tryExtract frontend options source).2 = .error failure →
        ∃ size limit, oversize? options source = some (size, limit) ∧
          failure = .error (.tooLarge size limit)) ∧
    ∀ recover options, parse source = some tree →
      (oversize? options source = none → tree.firstFault false = none →
        ∃ d, (tryExtract (pythonFrontend recover) options source).2 = .ok d) ∧
      ∀ failure, (tryExtract (pythonFrontend recover) options source).2 = .error failure →
        ∃ e, failure = .error e ∧ (e.kind = "too_large" ∨ e.kind = "syntax") := by
  refine ⟨?_, ?_, ?_⟩
  · intro includeAsync
    obtain ⟨ds, hds⟩ := exists_definitions h includeAsync
    exact ⟨ds, hds, fun d hd => exists_faithful h hds hd⟩
  · intro frontend options hparsed
    exact ⟨exists_tryExtract h hparsed, fun failure => tooLarge_of_fitsText h hparsed⟩
  · intro recover options hparse
    rcases pythonFrontend_cases recover source with
      ⟨other, hother, hfault, hparsed⟩ | ⟨fault, hunparsed, -, hfault⟩
    · obtain rfl := Option.some.inj (hparse.symm.trans hother)
      refine ⟨fun hsize _ => exists_tryExtract h hparsed hsize, fun failure hfailed => ?_⟩
      obtain ⟨size, limit, -, rfl⟩ := tooLarge_of_fitsText h hparsed hfailed
      exact ⟨_, rfl, .inl rfl⟩
    · refine ⟨fun _ hnone => ?_, fun failure hfailed => ?_⟩
      · rw [hfault tree hparse] at hnone
        cases hnone
      have hnoTree : ∀ other, pythonFrontend recover source = .ok other →
          other.FitsText source := by
        intro other hother
        rw [hunparsed] at hother
        cases hother
      rcases refused_of_fitsText hnoTree hfailed with ⟨size, limit, -, rfl⟩ | ⟨e', he', rfl⟩
      · exact ⟨_, rfl, .inl rfl⟩
      · rw [← Except.error.inj (hunparsed.symm.trans he')]
        exact ⟨_, rfl, .inr rfl⟩

/-- A function whose name takes two bytes, and a call of a member of itself. -/
def accentedSource : String := "def é(): é.b()\n"

def accentedLines : LineStarts := ⟨[0]⟩

def accentedTree : Node :=
  accentedLines.node (.phrase .sourceFile) 0 16 none
    [accentedLines.node (.phrase .functionDefinition) 0 16 none
      [accentedLines.node (.terminal .identifier) 4 6 (some .name) [],
        accentedLines.node (.phrase .block) 10 16 (some .body)
          [accentedLines.call
            (accentedLines.node (.phrase .memberAccess) 10 14 (some .function)
              [accentedLines.node (.terminal .identifier) 10 12 (some .object) [],
                accentedLines.name 13 (some .member)]) 16 []]]]

/-- All nodes of that tree stand between characters, so the extraction succeeds. -/
theorem tryExtract_of_fitsText_accented :
    accentedTree.FitsText accentedSource ∧
      ∃ d, (tryExtract (fun _ => .ok accentedTree) .default accentedSource).2 = .ok d := by
  have hfits : accentedTree.FitsText accentedSource := by decide +kernel
  obtain ⟨-, hextract, -⟩ := tryExtract_of_fitsText hfits
  exact ⟨hfits, (hextract (fun _ => .ok accentedTree) .default rfl).1 (by decide +kernel)⟩

/-- The same tree does not fit the text with another name, which takes one byte. -/
example : ¬ accentedTree.FitsText "def e(): é.b()\n" := by decide +kernel

end CallAtlas.Extract
