import CallAtlas.Proofs.CallAttribution
import CallAtlas.Proofs.Duplicates

/-! # What an extracted dataset promises

    An extraction fills three lists at different moments. A name joins the functions when a
    definition of it is met first; its text is replaced at each further definition and keeps
    its place; its calls depend on the policy for repeated names. All the same the three fit
    together: functions and keys of the code are one list, and all callers are in it.
-/

namespace CallAtlas.Extract

open CallAtlas.Syntax

/-! ## Section 1: Code by name -/

namespace Dataset

theorem putCode_of_mem {code : List (String × String)} {name : String}
    (h : name ∈ code.map (·.1)) (text : String) :
    putCode code name text =
      code.map fun entry => (entry.1, if entry.1 = name then text else entry.2) := by
  rw [putCode, if_pos (by simpa using h)]
  refine List.map_congr_left fun entry _ => ?_
  by_cases hname : entry.1 = name
  · simp [hname]
  · simp [hname]

theorem putCode_of_not_mem {code : List (String × String)} {name : String}
    (h : name ∉ code.map (·.1)) (text : String) :
    putCode code name text = code ++ [(name, text)] := by
  rw [putCode, if_neg (by simpa using h)]

/-- To set a text inserts its name among the keys. -/
theorem keys_putCode (code : List (String × String)) (name text : String) :
    (putCode code name text).map (·.1) = insertNew (code.map (·.1)) name := by
  by_cases h : name ∈ code.map (·.1)
  · rw [putCode_of_mem h, insertNew, if_pos (List.contains_iff_mem.mpr h), List.map_map]
    rfl
  · rw [putCode_of_not_mem h, insertNew, if_neg (mt List.contains_iff_mem.mp h), List.map_append]
    rfl

theorem lookup_map_snd (code : List (String × String)) (f : String → String → String)
    (key : String) :
    (code.map fun entry => (entry.1, f entry.1 entry.2)).lookup key =
      (code.lookup key).map (f key) := by
  induction code with
  | nil => rfl
  | cons entry code ih =>
    obtain ⟨k, v⟩ := entry
    rw [List.map_cons, List.lookup_cons, List.lookup_cons, ih]
    by_cases hkey : key = k
    · simp [hkey]
    · simp [beq_false_of_ne hkey]

theorem lookup_eq_none_of_not_mem {code : List (String × String)} {key : String}
    (h : key ∉ code.map (·.1)) : code.lookup key = none := by
  rw [List.lookup_eq_none_iff]
  intro entry hentry
  rw [bne_iff_ne]
  rintro rfl
  exact h (List.mem_map_of_mem hentry)

/-- The text that was set last for a name is found for it, and other names keep theirs. -/
theorem lookup_putCode (code : List (String × String)) (name text key : String) :
    (putCode code name text).lookup key = if key = name then some text else code.lookup key := by
  by_cases h : name ∈ code.map (·.1)
  · rw [putCode_of_mem h, lookup_map_snd code fun k v => if k = name then text else v]
    by_cases hkey : key = name
    · obtain ⟨entry, hentry, hname⟩ := List.mem_map.mp h
      have hsome : (code.lookup key).isSome := by
        rw [List.lookup_isSome_iff]
        exact ⟨entry, hentry, beq_iff_eq.mpr (hkey.trans hname.symm)⟩
      obtain ⟨old, hold⟩ := Option.isSome_iff_exists.mp hsome
      rw [hold, Option.map_some, if_pos hkey, if_pos hkey]
    · simp [hkey]
  · rw [putCode_of_not_mem h, List.lookup_append]
    by_cases hkey : key = name
    · rw [if_pos hkey, hkey, lookup_eq_none_of_not_mem h, Option.none_or, List.lookup_cons_self]
    · rw [if_neg hkey, List.lookup_cons, beq_false_of_ne hkey]
      simp

/-! ## Section 2: Datasets of reports -/

theorem functions_ofReports (policy : DuplicatePolicy) (reports : List Report) :
    (ofReports policy reports).functions = (reports.map (·.definition.name)).eraseDups := by
  rw [← foldl_insertNew_nil, List.foldl_map]
  rfl

/-- Functions and texts are entered in the same order. -/
theorem keys_foldl_putCode (reports : List Report) (code : List (String × String)) :
    (reports.foldl (fun code r => putCode code r.definition.name r.snippet) code).map (·.1) =
      reports.foldl (fun names r => insertNew names r.definition.name) (code.map (·.1)) := by
  induction reports generalizing code with
  | nil => rfl
  | cons r rest ih => rw [List.foldl_cons, List.foldl_cons, ih, keys_putCode]

theorem keys_ofReports (policy : DuplicatePolicy) (reports : List Report) :
    (ofReports policy reports).code.map (·.1) = (ofReports policy reports).functions :=
  keys_foldl_putCode reports []

/-- Reports on other names leave the text of a name as it is. -/
theorem lookup_foldl_putCode_of_ne (reports : List Report) (code : List (String × String))
    {name : String} (h : ∀ r ∈ reports, r.definition.name ≠ name) :
    (reports.foldl (fun code r => putCode code r.definition.name r.snippet) code).lookup name =
      code.lookup name := by
  induction reports generalizing code with
  | nil => rfl
  | cons r rest ih =>
    rw [List.foldl_cons, ih _ fun s hs => h s (List.mem_cons_of_mem r hs), lookup_putCode,
      if_neg (h r List.mem_cons_self).symm]

/-- The text of a name is that of the last report on it. -/
theorem codeOf?_ofReports (policy : DuplicatePolicy) {before after : List Report} {r : Report}
    (h : ∀ s ∈ after, s.definition.name ≠ r.definition.name) :
    (ofReports policy (before ++ r :: after)).codeOf? r.definition.name = some r.snippet := by
  have hcode : (ofReports policy (before ++ r :: after)).code = (before ++ r :: after).foldl
      (fun code r => putCode code r.definition.name r.snippet) [] := rfl
  rw [codeOf?, hcode, List.foldl_append, List.foldl_cons, lookup_foldl_putCode_of_ne after _ h,
    lookup_putCode, if_pos rfl]

theorem caller_mem_functions_ofReports {policy : DuplicatePolicy} {reports : List Report}
    {x : CallEdge} (h : x ∈ (ofReports policy reports).calls) :
    x.caller ∈ (ofReports policy reports).functions := by
  rw [calls_ofReports] at h
  obtain ⟨s, hs, hx⟩ := List.mem_flatMap.mp h
  obtain ⟨callee, -, rfl⟩ := List.mem_map.mp hx
  obtain ⟨r, hr, rfl⟩ := List.mem_map.mp ((counted_sublist policy _).mem hs)
  rw [functions_ofReports, List.mem_eraseDups]
  exact List.mem_map_of_mem hr

end Dataset

/-! ## Section 3: Extraction -/

/-- Whether an extraction succeeds, and on which reports, does not depend on the policy. -/
theorem tryExtract_of_policy {frontend : Frontend} {options : Options} {source : String}
    {tree : Node} {reports : List Report}
    (hcollected : Collected frontend options source tree (reports.map (·.definition)))
    (hreports : ∀ r ∈ reports, r.Faithful source) (policy : DuplicatePolicy) :
    (tryExtract frontend { options with duplicates := policy } source).2 =
      .ok (Dataset.ofReports policy reports) :=
  tryExtract_eq_ok_iff.mpr ⟨tree, reports,
    ⟨hcollected.size, hcollected.parsed, hcollected.collected⟩, hreports, rfl⟩

/-- **Dataset invariant.** The functions of an extracted dataset are the names of the
    definitions, each where it comes first. They are also the keys of the code, in the same
    order, and the text of each is that of its last definition. Every caller is a function.
    The policy for repeated names changes neither functions nor code. -/
theorem tryExtract_dataset {frontend : Frontend} {options : Options} {source : String}
    {d : Dataset} (h : (tryExtract frontend options source).2 = .ok d) :
    ∃ tree ds, frontend source = .ok tree ∧
      definitions source options.includeAsync tree = .ok ds ∧
      d.functions = (ds.map (·.name)).eraseDups ∧
      d.code.map (·.1) = d.functions ∧
      (∀ before e after, ds = before ++ e :: after → (∀ p ∈ after, p.name ≠ e.name) →
        ∃ snippet, e.span.slice source = some snippet ∧ d.codeOf? e.name = some snippet) ∧
      (∀ x ∈ d.calls, x.caller ∈ d.functions) ∧
      ∀ policy, ∃ d',
        (tryExtract frontend { options with duplicates := policy } source).2 = .ok d' ∧
        d'.functions = d.functions ∧ d'.code = d.code := by
  obtain ⟨tree, reports, hcollected, hreports, rfl⟩ := tryExtract_eq_ok_iff.mp h
  refine ⟨tree, _, hcollected.parsed, hcollected.collected, ?_, Dataset.keys_ofReports _ _, ?_,
    ?_, ?_⟩
  · rw [Dataset.functions_ofReports, List.map_map]
    rfl
  · intro before e after hsplit hafter
    obtain ⟨rs, rest, rfl, rfl, hrest⟩ := List.map_eq_append_iff.mp hsplit
    obtain ⟨r, later, rfl, rfl, rfl⟩ := List.map_eq_cons_iff.mp hrest
    refine ⟨r.snippet, (hreports r (by simp)).snippet, Dataset.codeOf?_ofReports _ ?_⟩
    intro s hs
    exact hafter _ (List.mem_map_of_mem hs)
  · intro x hx
    exact Dataset.caller_mem_functions_ofReports hx
  · intro policy
    exact ⟨_, tryExtract_of_policy hcollected hreports policy, rfl, rfl⟩

/-- In that text `f` stands first, with the text of its second definition. -/
theorem tryExtract_dataset_redefined :
    ∃ d, (tryExtract (fun _ => .ok sampleTree) .default sampleSource).2 = .ok d ∧
      d.functions = ["f", "g"] ∧ d.code.map (·.1) = ["f", "g"] ∧
      d.codeOf? "f" = some "def f(): c()" := by
  obtain ⟨d, hd⟩ := exists_tryExtract_sample
  obtain ⟨tree, ds, htree, hds, hfunctions, hkeys, hcode, -, -⟩ := tryExtract_dataset hd
  have hrun : ((definitions sampleSource true sampleTree).toOption.bind fun ds =>
      ds.getLast?.map fun e => ((ds.map (·.name)).eraseDups, e.name, e.span.slice sampleSource)) =
        some (["f", "g"], "f", some "def f(): c()") := by
    decide +kernel
  rw [Except.ok.inj htree, show definitions sampleSource true tree = .ok ds from hds] at hrun
  obtain ⟨e, hlast, hvalues⟩ := Option.map_eq_some_iff.mp hrun
  obtain ⟨hnames, hname, hslice⟩ : (ds.map (·.name)).eraseDups = ["f", "g"] ∧ e.name = "f" ∧
      e.span.slice sampleSource = some "def f(): c()" := by
    simpa using hvalues
  obtain ⟨snippet, hsnippet, hfound⟩ := hcode ds.dropLast e []
    (List.dropLast_append_getLast? e hlast).symm (by simp)
  refine ⟨d, hd, hfunctions.trans hnames, hkeys.trans (hfunctions.trans hnames), ?_⟩
  rw [← hname, hfound, ← hsnippet, hslice]

end CallAtlas.Extract
