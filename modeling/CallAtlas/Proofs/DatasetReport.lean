import CallAtlas.Proofs.JsonText
import CallAtlas.Report.Render

/-! # The JSON report of a dataset

    The JSON report of a dataset holds all of it: read as JSON and then as a dataset, it gives
    the dataset back, with functions, calls and code in their order.
-/

namespace CallAtlas.Extract

/-! ## Section 1: Entries that are put in one after the other -/

/-- Elements with different keys, put in one after the other, are appended in their order. -/
theorem foldl_eq_append_of_nodup {α κ : Type} (key : α → κ) {put : List α → α → List α}
    (hput : ∀ xs a, key a ∉ xs.map key → put xs a = xs ++ [a]) (xs as : List α)
    (h : ((xs ++ as).map key).Nodup) : as.foldl put xs = xs ++ as := by
  induction as generalizing xs with
  | nil => simp
  | cons a as ih =>
    have hfresh := Json.key_not_mem_of_nodup h
    rw [List.append_cons] at h ⊢
    rw [List.foldl_cons, hput xs a hfresh, ih _ h]

theorem withoutRepeats_of_nodup {xs : List String} (h : xs.Nodup) : withoutRepeats xs = xs := by
  refine foldl_eq_append_of_nodup id ?_ [] xs (by simpa using h)
  intro ys y hy
  have hfresh : y ∉ ys := by simpa using hy
  simp [insertNew, hfresh]

theorem Dataset.foldl_putCode_of_nodup {code : List (String × String)}
    (h : (code.map (·.1)).Nodup) :
    code.foldl (fun code (name, text) => putCode code name text) [] = code := by
  refine foldl_eq_append_of_nodup (·.1) ?_ [] code h
  rintro done ⟨name, text⟩ hname
  have hfresh : ¬ done.any (·.1 == name) = true := by simpa using hname
  simp only [putCode, if_neg hfresh]

/-! ## Section 2: Datasets in JSON -/

/-- Values that are written one by one are read back one by one. -/
theorem mapM_map_eq_some {α β : Type} {write : α → β} {read : β → Option α}
    (h : ∀ x, read (write x) = some x) (xs : List α) : (xs.map write).mapM read = some xs := by
  induction xs with
  | nil => rfl
  | cons x xs ih => simp [List.mapM_cons, h, ih]

theorem CallEdge.ofJson?_fields (e : CallEdge) :
    CallEdge.ofJson? (.object [("caller", .string e.caller), ("callee", .string e.callee)]) =
      some e := by
  rfl

theorem codeOfJson?_fields (code : List (String × String)) :
    codeOfJson? (.object (code.map fun (name, text) => (name, .string text))) = some code := by
  refine mapM_map_eq_some ?_ code
  intro entry
  rfl

theorem Dataset.ofJson?_toJson (d : Dataset) : Dataset.ofJson? d.toJson = some d := by
  obtain ⟨functions, calls, code, hfunctions, hcode⟩ := d
  have hnames : Json.list? Json.string? (.array (functions.map .string)) = some functions := by
    refine mapM_map_eq_some ?_ functions
    intro name
    rfl
  have hedges : Json.list? CallEdge.ofJson? (.array (calls.map fun e =>
      .object [("caller", .string e.caller), ("callee", .string e.callee)])) = some calls :=
    mapM_map_eq_some CallEdge.ofJson?_fields calls
  have hparts : (Dataset.toJson ⟨functions, calls, code, hfunctions, hcode⟩).parts?
      ["functions", "calls", "code"] =
        some [some (.array (functions.map .string)),
          some (.array (calls.map fun e =>
            .object [("caller", .string e.caller), ("callee", .string e.callee)])),
          some (.object (code.map fun (name, text) => (name, .string text)))] := rfl
  simp only [Dataset.ofJson?, hparts, Json.required, hnames, hedges, codeOfJson?_fields]
  simp [withoutRepeats_of_nodup hfunctions, foldl_putCode_of_nodup hcode]

/-- The JSON form of a dataset is made of strings and nests three levels deep. -/
theorem Dataset.plain_toJson (d : Dataset) (depth : Nat) : d.toJson.Plain (depth + 3) := by
  have hnames : ∀ v ∈ d.functions.map Json.string, v.Plain (depth + 1) := by
    intro v hv
    obtain ⟨name, -, rfl⟩ := List.mem_map.mp hv
    exact .string name
  have hedges : ∀ v ∈ d.calls.map (fun e => Json.object
      [("caller", .string e.caller), ("callee", .string e.callee)]), v.Plain (depth + 1) := by
    intro v hv
    obtain ⟨e, -, rfl⟩ := List.mem_map.mp hv
    refine .object (by simp) ?_
    intro field hfield
    rcases List.mem_pair.mp hfield with rfl | rfl
    · exact .string e.caller
    · exact .string e.callee
  have hcode : (Json.object (d.code.map fun (name, text) => (name, .string text))).Plain
      (depth + 2) := by
    refine .object ?_ ?_
    · rw [List.map_map]
      exact d.code_nodup
    · intro field hfield
      obtain ⟨entry, -, rfl⟩ := List.mem_map.mp hfield
      exact .string entry.2
  refine .object (by simp) ?_
  intro field hfield
  simp only [List.mem_cons, List.not_mem_nil, or_false] at hfield
  rcases hfield with rfl | rfl | rfl
  · exact .array hnames
  · exact .array hedges
  · exact hcode

end CallAtlas.Extract

namespace CallAtlas.Report

open CallAtlas.Extract

/-- The JSON report of a dataset is read as the JSON form of the dataset, and this as the
    dataset itself. -/
theorem renderDataset_json_read (d : Dataset) (color : Bool) :
    Json.parse (renderDataset d .json color) = some d.toJson ∧
      (Json.parse (renderDataset d .json color)).bind Dataset.ofJson? = some d := by
  -- The reader goes 127 levels deep, and a dataset needs three of them.
  have hparse : Json.parse (renderDataset d .json color) = some d.toJson :=
    Json.parse_pretty (d.plain_toJson 124)
  exact ⟨hparse, by rw [hparse, Option.bind_some, Dataset.ofJson?_toJson]⟩

end CallAtlas.Report
