import CallAtlas.Extract.Extraction
import CallAtlas.Proofs.EdgeSlots
import CallAtlas.Proofs.Sketches
import Mathlib.Data.List.Basic

/-! # Events of an extraction

    What an extraction records follows from how it goes. `Course` lists the ways: it is
    refused or fails before any definition is looked at, it breaks off at a definition, or it
    is completed. A definition gives its events in one block, and a block that breaks off is
    the last thing recorded; calls are recorded when all definitions have been reported on.
-/

namespace CallAtlas.Extract

open CallAtlas.Syntax

/-! ## Section 1: One definition -/

namespace Report

/-- The events of a definition that is reported on: that it is found, its snippet, and each
    of its member calls. -/
def events (r : Report) : List Event :=
  .functionFound r.definition.name r.definition.line ::
    .snippetExtracted r.definition.name r.snippet.utf8ByteSize ::
    r.calls.memberCalls.map fun call => .memberCallSkipped r.definition.name call.1 call.2

/-- A report has the snippet and the calls that its definition has in the source. -/
structure Faithful (source : String) (r : Report) : Prop where
  snippet : r.definition.span.slice source = some r.snippet
  calls : r.definition.calls source = .ok r.calls

end Report

namespace Definition

/-- The events of a definition at which an extraction breaks off: that it is found, and its
    snippet if its span can be cut from the source. -/
def opening (source : String) (d : Definition) : List Event :=
  .functionFound d.name d.line ::
    (d.span.slice source).toList.map fun snippet =>
      .snippetExtracted d.name snippet.utf8ByteSize

/-- How the report on a definition fails. -/
inductive Fails (source : String) (d : Definition) : Failure → Prop where
  | outside (h : d.span.slice source = none) :
      Fails source d (.error (.malformedTree (.outside d.span.startByte d.span.endByte d.name)))
  | unread {snippet : String} {failure : Failure} (hsnippet : d.span.slice source = some snippet)
      (h : d.calls source = .error failure) : Fails source d failure

end Definition

theorem reportOn_cases (source : String) (d : Definition) :
    (∃ r : Report, r.definition = d ∧ r.Faithful source ∧
      reportOn source d = (r.events, .ok r)) ∨
    ∃ failure, d.Fails source failure ∧ reportOn source d = (d.opening source, .error failure) := by
  unfold reportOn
  cases hslice : d.span.slice source with
  | none => exact .inr ⟨_, .outside hslice, by simp [Definition.opening, hslice]⟩
  | some snippet =>
    cases hcalls : d.calls source with
    | error e => exact .inr ⟨e, .unread hslice hcalls, by simp [Definition.opening, hslice]⟩
    | ok calls => exact .inl ⟨⟨d, snippet, calls⟩, rfl, ⟨hslice, hcalls⟩, rfl⟩

/-- A run over definitions reports on all of them, or it reports on some and breaks off at
    the one that follows. -/
theorem reportAll_cases (source : String) (ds : List Definition) :
    (∃ reports : List Report, reports.map (·.definition) = ds ∧
      (∀ r ∈ reports, r.Faithful source) ∧
      reportAll source ds = (reports.flatMap (·.events), .ok reports)) ∨
    ∃ (reports : List Report) (d : Definition) (after : List Definition) (failure : Failure),
      ds = reports.map (·.definition) ++ d :: after ∧ (∀ r ∈ reports, r.Faithful source) ∧
      d.Fails source failure ∧
      reportAll source ds = (reports.flatMap (·.events) ++ d.opening source, .error failure) := by
  induction ds with
  | nil => exact .inl ⟨[], rfl, by simp, rfl⟩
  | cons d ds ih =>
    rw [reportAll]
    rcases reportOn_cases source d with ⟨r, rfl, hr, hreport⟩ | ⟨failure, hfails, hreport⟩
    · -- The block of `d` stands before whatever the others give.
      rw [hreport]
      rcases ih with ⟨reports, rfl, hreports, hall⟩ |
          ⟨reports, e, after, failure, rfl, hreports, hfails, hall⟩
      · refine .inl ⟨r :: reports, rfl, List.forall_mem_cons.mpr ⟨hr, hreports⟩, ?_⟩
        simp [hall, Except.map]
      · refine .inr ⟨r :: reports, e, after, failure, rfl,
          List.forall_mem_cons.mpr ⟨hr, hreports⟩, hfails, ?_⟩
        simp [hall, Except.map]
    · rw [hreport]
      exact .inr ⟨[], d, ds, failure, rfl, by simp, hfails, rfl⟩

theorem reportOn_of_faithful {source : String} {r : Report} (h : r.Faithful source) :
    reportOn source r.definition = (r.events, .ok r) := by
  simp only [reportOn, h.snippet, h.calls]
  rfl

theorem reportAll_of_faithful {source : String} {reports : List Report}
    (h : ∀ r ∈ reports, r.Faithful source) :
    reportAll source (reports.map (·.definition)) = (reports.flatMap (·.events), .ok reports) := by
  induction reports with
  | nil => rfl
  | cons r rest ih =>
    rw [List.map_cons, reportAll, reportOn_of_faithful (h r List.mem_cons_self),
      ih fun s hs => h s (List.mem_cons_of_mem r hs)]
    rfl

/-! ## Section 2: The calls of all definitions -/

theorem foldl_recordCall (s : Contribution) (found : Array Event × Array CallEdge) :
    (s.callees.foldl (recordCall s.name) found).1.toList =
        found.1.toList ++ s.edges.map (fun e => .callFound e.caller e.callee) ∧
      (s.callees.foldl (recordCall s.name) found).2.toList = found.2.toList ++ s.edges := by
  obtain ⟨name, callees⟩ := s
  induction callees generalizing found with
  | nil => simp [Contribution.edges]
  | cons callee rest ih =>
    obtain ⟨hevents, hedges⟩ := ih (recordCall name found callee)
    constructor
    · rw [List.foldl_cons, hevents]
      simp [recordCall, Contribution.edges]
    · rw [List.foldl_cons, hedges]
      simp [recordCall, Contribution.edges]

theorem foldl_slots (slots : List Contribution) (found : Array Event × Array CallEdge) :
    (slots.foldl (fun found s => s.callees.foldl (recordCall s.name) found) found).1.toList =
        found.1.toList ++
          (slots.flatMap (·.edges)).map (fun e => .callFound e.caller e.callee) ∧
      (slots.foldl (fun found s => s.callees.foldl (recordCall s.name) found) found).2.toList =
        found.2.toList ++ slots.flatMap (·.edges) := by
  induction slots generalizing found with
  | nil => simp
  | cons s rest ih =>
    obtain ⟨hevents, hedges⟩ := foldl_recordCall s found
    obtain ⟨hevents', hedges'⟩ := ih (s.callees.foldl (recordCall s.name) found)
    constructor
    · rw [List.foldl_cons, hevents', hevents, List.flatMap_cons, List.map_append,
        List.append_assoc]
    · rw [List.foldl_cons, hedges', hedges, List.flatMap_cons, List.append_assoc]

/-- What is recorded on the way over the slots are the calls whose edges are added. -/
theorem EdgeSlots.toList_collect (e : EdgeSlots) :
    e.collect.1.toList = e.edges.map (fun e => .callFound e.caller e.callee) ∧
      e.collect.2.toList = e.edges :=
  foldl_slots e.slots.toList (#[], #[])

theorem events_callsOf (policy : DuplicatePolicy) (reports : List Report) :
    (callsOf policy reports).1.toList =
      (Dataset.ofReports policy reports).calls.map fun e => .callFound e.caller e.callee := by
  obtain ⟨hevents, hedges⟩ :=
    EdgeSlots.toList_collect (EdgeSlots.ofList policy (reports.map (·.contribution)))
  rw [Dataset.ofReports, callsOf, hedges, hevents]

/-- The calls of a dataset are the edges of the definitions that count. -/
theorem Dataset.calls_ofReports (policy : DuplicatePolicy) (reports : List Report) :
    (Dataset.ofReports policy reports).calls =
      (counted policy (reports.map (·.contribution))).flatMap Contribution.edges := by
  rw [Dataset.ofReports, callsOf, (EdgeSlots.toList_collect _).2, EdgeSlots.edges_ofList]

/-! ## Section 3: The course of an extraction -/

section Course

variable (frontend : Frontend) (options : Options) (source : String)

/-- An extraction comes as far as to know the definitions of its tree. -/
structure Collected (tree : Node) (ds : List Definition) : Prop where
  size : oversize? options source = none
  parsed : frontend source = .ok tree
  collected : definitions source options.includeAsync tree = .ok ds

/-- The ways an extraction may go, with what is recorded and how it ends. -/
inductive Course : List Event → Except Failure Dataset → Prop where
  | tooLarge {size limit : Nat} (h : oversize? options source = some (size, limit)) :
      Course [] (.error (.error (.tooLarge size limit)))
  | unparsed {e : ExtractError} (hsize : oversize? options source = none)
      (h : frontend source = .error e) : Course [] (.error (.error e))
  | uncollected {tree : Node} {failure : Failure} (hsize : oversize? options source = none)
      (hparsed : frontend source = .ok tree)
      (h : definitions source options.includeAsync tree = .error failure) :
      Course [] (.error failure)
  | broken {tree : Node} {reports : List Report} {d : Definition} {after : List Definition}
      {failure : Failure}
      (h : Collected frontend options source tree (reports.map (·.definition) ++ d :: after))
      (hreports : ∀ r ∈ reports, r.Faithful source) (hfails : d.Fails source failure) :
      Course (reports.flatMap (·.events) ++ d.opening source) (.error failure)
  | complete {tree : Node} {reports : List Report} {d : Dataset}
      (h : Collected frontend options source tree (reports.map (·.definition)))
      (hreports : ∀ r ∈ reports, r.Faithful source)
      (hdataset : d = Dataset.ofReports options.duplicates reports) :
      Course (reports.flatMap (·.events) ++ (d.calls.map fun e => .callFound e.caller e.callee) ++
        [.extracted d.functions.length d.calls.length]) (.ok d)

theorem tryExtract_course :
    Course frontend options source (tryExtract frontend options source).1
      (tryExtract frontend options source).2 := by
  unfold tryExtract
  cases hsize : oversize? options source with
  | some excess => exact .tooLarge hsize
  | none =>
    cases hparsed : frontend source with
    | error e => exact .unparsed hsize hparsed
    | ok tree =>
      simp only [extractTree]
      cases hds : definitions source options.includeAsync tree with
      | error e => exact .uncollected hsize hparsed hds
      | ok ds =>
        have hcollected : Collected frontend options source tree ds := ⟨hsize, hparsed, hds⟩
        rcases reportAll_cases source ds with ⟨reports, rfl, hreports, hall⟩ |
            ⟨reports, d, after, failure, rfl, hreports, hfails, hall⟩
        · simp only [hall, events_callsOf]
          exact .complete hcollected hreports rfl
        · simp only [hall]
          exact .broken hcollected hreports hfails

end Course

/-- An extraction succeeds if and only if the definitions of its tree can all be reported on,
    and then its dataset is that of the reports. -/
theorem tryExtract_eq_ok_iff {frontend : Frontend} {options : Options} {source : String}
    {d : Dataset} :
    (tryExtract frontend options source).2 = .ok d ↔
      ∃ (tree : Node) (reports : List Report),
        Collected frontend options source tree (reports.map (·.definition)) ∧
        (∀ r ∈ reports, r.Faithful source) ∧ Dataset.ofReports options.duplicates reports = d := by
  constructor
  · intro h
    have hcourse := tryExtract_course frontend options source
    rw [h] at hcourse
    generalize (tryExtract frontend options source).1 = events at hcourse
    cases hcourse with
    | complete hcollected hreports hdataset =>
      exact ⟨_, _, hcollected, hreports, hdataset.symm⟩
  · rintro ⟨tree, reports, hcollected, hreports, rfl⟩
    simp only [tryExtract, extractTree, hcollected.size, hcollected.parsed, hcollected.collected,
      reportAll_of_faithful hreports]

/-- The reports of a success are what the definitions of the tree give. -/
theorem Collected.reportAll {frontend : Frontend} {options : Options} {source : String}
    {tree : Node} {reports : List Report}
    (h : Collected frontend options source tree (reports.map (·.definition)))
    (hreports : ∀ r ∈ reports, r.Faithful source) :
    (definitions source options.includeAsync tree).toOption.map (reportAll source) =
      some (reports.flatMap (·.events), .ok reports) := by
  rw [h.collected, ← reportAll_of_faithful hreports]
  rfl

/-! ## Section 4: Events -/

/-- Whether an event belongs to a single definition. -/
def Event.ofDefinition : Event → Bool
  | functionFound .. | snippetExtracted .. | memberCallSkipped .. => true
  | _ => false

theorem Report.ofDefinition_of_mem_events {r : Report} {e : Event} (h : e ∈ r.events) :
    e.ofDefinition := by
  rcases List.mem_cons.mp h with rfl | h
  · rfl
  rcases List.mem_cons.mp h with rfl | h
  · rfl
  obtain ⟨call, -, rfl⟩ := List.mem_map.mp h
  rfl

theorem Definition.ofDefinition_of_mem_opening {source : String} {d : Definition} {e : Event}
    (h : e ∈ d.opening source) : e.ofDefinition := by
  rcases List.mem_cons.mp h with rfl | h
  · rfl
  obtain ⟨snippet, -, rfl⟩ := List.mem_map.mp h
  rfl

/-- Whatever is recorded before a failure belongs to single definitions. -/
theorem Course.ofDefinition {frontend : Frontend} {options : Options} {source : String}
    {events : List Event} {failure : Failure}
    (h : Course frontend options source events (.error failure)) :
    ∀ e ∈ events, e.ofDefinition := by
  cases h with
  | tooLarge h => simp
  | unparsed hsize h => simp
  | uncollected hsize hparsed h => simp
  | broken h hreports hfails =>
    intro e he
    rcases List.mem_append.mp he with he | he
    · obtain ⟨r, -, he⟩ := List.mem_flatMap.mp he
      exact Report.ofDefinition_of_mem_events he
    · exact Definition.ofDefinition_of_mem_opening he

/-- A failure comes before the definitions are known, or at one of them. -/
theorem Course.error_cases {frontend : Frontend} {options : Options} {source : String}
    {events : List Event} {failure : Failure}
    (h : Course frontend options source events (.error failure)) :
    (¬ ∃ tree ds, Collected frontend options source tree ds) ∧ events = [] ∨
      ∃ (tree : Node) (reports : List Report) (d : Definition) (after : List Definition),
        Collected frontend options source tree (reports.map (·.definition) ++ d :: after) ∧
        (∀ r ∈ reports, r.Faithful source) ∧ d.Fails source failure ∧
        events = reports.flatMap (·.events) ++ d.opening source := by
  cases h with
  | tooLarge h =>
    refine .inl ⟨?_, rfl⟩
    rintro ⟨tree, ds, hcollected⟩
    simp [hcollected.size] at h
  | unparsed hsize h =>
    refine .inl ⟨?_, rfl⟩
    rintro ⟨tree, ds, hcollected⟩
    simp [hcollected.parsed] at h
  | uncollected hsize hparsed h =>
    refine .inl ⟨?_, rfl⟩
    rintro ⟨tree, ds, hcollected⟩
    obtain rfl := Except.ok.inj (hcollected.parsed.symm.trans hparsed)
    simp [hcollected.collected] at h
  | broken h hreports hfails => exact .inr ⟨_, _, _, _, h, hreports, hfails, rfl⟩

/-- Only recovery records a failure. -/
theorem Course.extractionFailed_not_mem {frontend : Frontend} {options : Options}
    {source : String} {events : List Event} {result : Except Failure Dataset}
    (h : Course frontend options source events result) (kind reason : String) :
    .extractionFailed kind reason ∉ events := by
  intro hmem
  cases result with
  | error failure => cases h.ofDefinition _ hmem
  | ok d =>
    cases h with
    | complete h hreports hdataset =>
      simp only [List.mem_append, List.mem_map, List.mem_singleton, reduceCtorEq, and_false,
        exists_const, or_false] at hmem
      obtain ⟨r, -, hmem⟩ := List.mem_flatMap.mp hmem
      cases Report.ofDefinition_of_mem_events hmem

/-- **Event trace.** An extraction that succeeds records the block of each definition in
    visit order, then the calls of the dataset, then the totals. One that fails at a
    definition records the blocks of those before it and opens that of the definition; one
    that fails before records nothing. To recover from an error adds the error to what is
    recorded, and gives the empty dataset. -/
theorem tryExtract_events {frontend : Frontend} {options : Options} {source : String}
    {events : List Event} {result : Except Failure Dataset}
    (h : tryExtract frontend options source = (events, result)) :
    (∀ d, result = .ok d → ∃ (tree : Node) (reports : List Report),
      Collected frontend options source tree (reports.map (·.definition)) ∧
      (∀ r ∈ reports, r.Faithful source) ∧
      events = reports.flatMap (·.events) ++
        (d.calls.map fun e => .callFound e.caller e.callee) ++
        [.extracted d.functions.length d.calls.length]) ∧
    (∀ failure, result = .error failure →
      ((¬ ∃ tree ds, Collected frontend options source tree ds) ∧ events = [] ∨
        ∃ (tree : Node) (reports : List Report) (d : Definition) (after : List Definition),
          Collected frontend options source tree (reports.map (·.definition) ++ d :: after) ∧
          (∀ r ∈ reports, r.Faithful source) ∧ d.Fails source failure ∧
          events = reports.flatMap (·.events) ++ d.opening source) ∧
      (∀ caller callee, .callFound caller callee ∉ events) ∧
      ∀ functions calls, .extracted functions calls ∉ events) ∧
    (∀ kind reason, .extractionFailed kind reason ∉ events) ∧
    (∀ d, result = .ok d → extract frontend options source = (events, .dataset d)) ∧
    (∀ e, result = .error (.error e) → extract frontend options source =
      (events ++ [.extractionFailed e.kind e.message], .dataset .empty)) ∧
    (result = .error .abort → extract frontend options source = (events, .abort)) := by
  have hcourse := tryExtract_course frontend options source
  rw [h] at hcourse
  refine ⟨?_, ?_, hcourse.extractionFailed_not_mem, ?_, ?_, ?_⟩
  · rintro d rfl
    cases hcourse with
    | complete hcollected hreports hdataset => exact ⟨_, _, hcollected, hreports, rfl⟩
  · rintro failure rfl
    refine ⟨hcourse.error_cases, ?_, ?_⟩
    · intro caller callee hmem
      cases hcourse.ofDefinition _ hmem
    · intro functions calls hmem
      cases hcourse.ofDefinition _ hmem
  · rintro d rfl
    rw [extract, h]
  · rintro e rfl
    rw [extract, h]
  · rintro rfl
    rw [extract, h]

/-- A text that defines `f` twice and `g` in between. -/
def sampleSource : String := "def f(): a()\ndef g(): b()\ndef f(): c()\n"

def sampleLines : LineStarts := ⟨[0, 13, 26, 39]⟩

/-- The definition that starts at a given byte. -/
def sampleDefinition (start : Nat) : Node :=
  sampleLines.definition start (start + 12) none
    [sampleLines.call (sampleLines.name (start + 9) (some .function)) (start + 12) []]

def sampleTree : Node :=
  sampleLines.node (.phrase .sourceFile) 0 39 none
    [sampleDefinition 0, sampleDefinition 13, sampleDefinition 26]

theorem exists_ok_of_isOk {ε α : Type} {e : Except ε α} (h : e.isOk = true) :
    ∃ a, e = .ok a := by
  cases e with
  | error e => cases h
  | ok a => exact ⟨a, rfl⟩

theorem exists_tryExtract_sample :
    ∃ d, (tryExtract (fun _ => .ok sampleTree) .default sampleSource).2 = .ok d :=
  exists_ok_of_isOk (by decide +kernel)

/-- The same text, which ends in the last header. -/
def brokenSource : String := "def f(): a()\ndef g(): b()\ndef f"

/-- The same text with a call of a member in `g`. -/
def memberSource : String := "def f(): a()\ndef g(): o.b()\ndef f(): c()\n"

def memberLines : LineStarts := ⟨[0, 13, 28, 41]⟩

def memberTree : Node :=
  memberLines.node (.phrase .sourceFile) 0 41 none
    [memberLines.definition 0 12 none
        [memberLines.call (memberLines.name 9 (some .function)) 12 []],
      memberLines.definition 13 27 none [memberLines.call (memberLines.member 22) 27 []],
      memberLines.definition 28 40 none
        [memberLines.call (memberLines.name 37 (some .function)) 40 []]]

/-- What the definitions of that text give: their events, their edges and their names. -/
theorem reports_member {reports : List Report}
    (h : Collected (fun _ => .ok memberTree) .default memberSource memberTree
      (reports.map (·.definition))) (hreports : ∀ r ∈ reports, r.Faithful memberSource) :
    reports.flatMap (·.events) = [.functionFound "f" 1, .snippetExtracted "f" 12,
        .functionFound "g" 2, .snippetExtracted "g" 14, .memberCallSkipped "g" "o" "b",
        .functionFound "f" 3, .snippetExtracted "f" 12] ∧
      (Dataset.ofReports Options.default.duplicates reports).calls = [⟨"f", "c"⟩] ∧
      (Dataset.ofReports Options.default.duplicates reports).functions = ["f", "g"] := by
  have hrun : ((definitions memberSource true memberTree).toOption.map
      (reportAll memberSource)).map (fun p => (p.1, p.2.toOption.map fun reports =>
        ((counted .lastWins (reports.map (·.contribution))).flatMap Contribution.edges,
          (Dataset.ofReports .lastWins reports).functions))) =
      some ([.functionFound "f" 1, .snippetExtracted "f" 12, .functionFound "g" 2,
        .snippetExtracted "g" 14, .memberCallSkipped "g" "o" "b", .functionFound "f" 3,
        .snippetExtracted "f" 12], some ([⟨"f", "c"⟩], ["f", "g"])) := by
    decide +kernel
  have hreported : (definitions memberSource true memberTree).toOption.map
      (reportAll memberSource) = some (reports.flatMap (·.events), .ok reports) :=
    h.reportAll hreports
  rw [hreported] at hrun
  obtain ⟨hevents, hvalues⟩ := Prod.mk.inj (Option.some.inj hrun)
  obtain ⟨hcalls, hfunctions⟩ := Prod.mk.inj (Option.some.inj hvalues)
  exact ⟨hevents, (Dataset.calls_ofReports _ _).trans hcalls, hfunctions⟩

/-- With a call of a member, the extraction succeeds, and of the calls of `f` only that of its
    second definition is recorded. With the tree of the whole text for one that ends early, it
    breaks off at the third definition, whose span leaves the text. -/
theorem tryExtract_events_redefined :
    (∃ events d, tryExtract (fun _ => .ok memberTree) .default memberSource = (events, .ok d) ∧
      d.calls = [⟨"f", "c"⟩] ∧
      events = [.functionFound "f" 1, .snippetExtracted "f" 12, .functionFound "g" 2,
        .snippetExtracted "g" 14, .memberCallSkipped "g" "o" "b", .functionFound "f" 3,
        .snippetExtracted "f" 12, .callFound "f" "c", .extracted 2 1] ∧
      extract (fun _ => .ok memberTree) .default memberSource = (events, .dataset d)) ∧
    ∃ events, tryExtract (fun _ => .ok sampleTree) .default brokenSource =
        (events, .error (.error (.malformedTree (.outside 26 38 "f")))) ∧
      events = [.functionFound "f" 1, .snippetExtracted "f" 12, .functionFound "g" 2,
        .snippetExtracted "g" 12, .functionFound "f" 3] ∧
      extract (fun _ => .ok sampleTree) .default brokenSource =
        (events ++ [.extractionFailed "malformed_tree"
          "malformed syntax tree: span 26..38 of `f` lies outside the source"],
          .dataset .empty) := by
  constructor
  · obtain ⟨d, hd⟩ : ∃ d, (tryExtract (fun _ => .ok memberTree) .default memberSource).2 = .ok d :=
      exists_ok_of_isOk (by decide +kernel)
    have hrun : tryExtract (fun _ => .ok memberTree) .default memberSource = (_, .ok d) :=
      Prod.ext rfl hd
    obtain ⟨hrecorded, -, -, hsuccess, -, -⟩ := tryExtract_events hrun
    obtain ⟨tree, reports, hcollected, hreports, rfl⟩ := tryExtract_eq_ok_iff.mp hd
    obtain rfl : memberTree = tree := Except.ok.inj hcollected.parsed
    obtain ⟨-, hcalls, hfunctions⟩ := reports_member hcollected hreports
    obtain ⟨tree, recorded, hcollected, hreports, hevents⟩ := hrecorded _ rfl
    obtain rfl : memberTree = tree := Except.ok.inj hcollected.parsed
    obtain ⟨hblocks, -, -⟩ := reports_member hcollected hreports
    refine ⟨_, _, hrun, hcalls, ?_, hsuccess _ rfl⟩
    rw [hevents, hblocks, hcalls, hfunctions]
    rfl
  · have hrun : tryExtract (fun _ => .ok sampleTree) .default brokenSource =
        ([.functionFound "f" 1, .snippetExtracted "f" 12, .functionFound "g" 2,
          .snippetExtracted "g" 12, .functionFound "f" 3],
          .error (.error (.malformedTree (.outside 26 38 "f")))) := by
      decide +kernel
    have hmessage : (ExtractError.malformedTree (.outside 26 38 "f")).message =
        "malformed syntax tree: span 26..38 of `f` lies outside the source" := by
      decide +kernel
    refine ⟨_, hrun, rfl, ?_⟩
    obtain ⟨-, -, -, -, hrecover, -⟩ := tryExtract_events hrun
    rw [hrecover _ rfl, hmessage]
    rfl

end CallAtlas.Extract
