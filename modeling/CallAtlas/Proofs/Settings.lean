import CallAtlas.Config.Load
import Mathlib.Tactic.ByContra
import Mathlib.Tactic.Choose

/-! # Settings of a configuration file

    A configuration consists of nine settings, each with a key of its own in the file and a
    default. What a value means for a setting is said here without the readers. A file counts
    for nothing as soon as one setting has a value that means nothing for it; otherwise each
    setting goes by its own key alone, so that keys which are not known do not matter.
-/

namespace CallAtlas

open CallAtlas.Extract
open CallAtlas.Files
open CallAtlas.Graph
open CallAtlas.Present

/-! ## Section 1: What values stand for -/

namespace Toml

/-- A value stands for a word: the word itself, or a table with the word as its only key and
    nothing behind it. -/
inductive Names : Toml → String → Prop
  | plain (word : String) : Names (string word) word
  | tag (word : String) : Names (table [(word, table [])]) word
  | list (word : String) : Names (table [(word, array [])]) word

/-- A value stands for a number. -/
inductive Measures : Toml → Float → Prop
  | float (x : Float) : Measures (float x) x
  | integer (n : Int) : Measures (integer n) (Float.ofInt n)

theorem string?_eq_some_iff {v : Toml} {s : String} : v.string? = some s ↔ v = string s := by
  cases v <;> simp [string?]

theorem bool?_eq_some_iff {v : Toml} {b : Bool} : v.bool? = some b ↔ v = bool b := by
  cases v <;> simp [bool?]

theorem natural?_eq_some_iff {v : Toml} {n : Nat} : v.natural? = some n ↔ v = integer n := by
  cases v with
  | integer i =>
    cases i with
    | ofNat m =>
      simp only [natural?, Option.some.injEq, integer.injEq, Int.ofNat_eq_natCast, Int.ofNat_inj]
    | negSucc m => simp [natural?]
  | _ => simp [natural?]

theorem float?_eq_some_iff {v : Toml} {x : Float} : v.float? = some x ↔ v.Measures x := by
  constructor
  · intro h
    unfold float? at h
    split at h
    · cases h
      exact .integer _
    · cases h
      exact .integer _
    · cases h
      exact .float _
    · cases h
  · rintro (_ | n)
    · rfl
    · -- The reader splits on the sign, as the conversion of integers does.
      cases n <;> rfl

theorem list?_eq_some_iff {v : Toml} {xs : List String} :
    v.list? string? = some xs ↔ v = array (xs.map string) := by
  have hitems : ∀ items : List Toml, items.mapM string? = some xs ↔ items = xs.map string := by
    intro items
    induction items generalizing xs with
    | nil => cases xs <;> simp
    | cons item items ih =>
      cases xs with
      | nil => simp [List.mapM_cons, Option.bind_eq_some_iff]
      | cons x xs => simp [List.mapM_cons, Option.bind_eq_some_iff, string?_eq_some_iff, ih]
  cases v <;> simp [list?, hitems]

theorem choice?_eq_some_iff {α : Type} {choices : List (String × α)} {v : Toml} {x : α} :
    v.choice? choices = some x ↔ ∃ word, v.Names word ∧ choices.lookup word = some x := by
  constructor
  · intro h
    unfold choice? at h
    split at h
    · exact ⟨_, .plain _, h⟩
    · exact ⟨_, .tag _, h⟩
    · exact ⟨_, .list _, h⟩
    · cases h
  · rintro ⟨word, _ | _ | _, h⟩
    · exact h
    · exact h
    · exact h

theorem orDefault_eq_some_iff {α : Type} {base x : α} {read : Toml → Option α}
    {part : Option Toml} :
    orDefault base read part = some x ↔
      (part = none ∧ x = base) ∨ ∃ v, part = some v ∧ read v = some x := by
  cases part <;> simp [orDefault, eq_comm]

def isTable : Toml → Bool
  | table _ => true
  | _ => false

/-- The value that a path of keys leads to. -/
def at? : List String → Toml → Option Toml
  | [], v => some v
  | key :: path, table fields => (fields.lookup key).bind (at? path)
  | _ :: _, _ => none

end Toml

theorem lookup_duplicatePolicy_words {word : String} {x : DuplicatePolicy} :
    DuplicatePolicy.words.lookup word = some x ↔ word = x.word := by
  cases x <;> grind [DuplicatePolicy.words, DuplicatePolicy.word]

theorem lookup_danglingPolicy_words {word : String} {x : DanglingPolicy} :
    DanglingPolicy.words.lookup word = some x ↔ word = x.word := by
  cases x <;> grind [DanglingPolicy.words, DanglingPolicy.word]

/-! ## Section 2: Settings -/

namespace Config

/-- What a configuration file can set. -/
inductive Setting where
  | exclude
  | duplicates
  | includeAsync
  | maxSourceBytes
  | nodeWidth
  | nodeHeight
  | nodeGap
  | rankGap
  | dangling

namespace Setting

/-- The keys that lead to a setting in the file. -/
def path : Setting → List String
  | exclude => ["exclude"]
  | duplicates => ["extract", "duplicates"]
  | includeAsync => ["extract", "include_async"]
  | maxSourceBytes => ["extract", "max_source_bytes"]
  | nodeWidth => ["layout", "node_width"]
  | nodeHeight => ["layout", "node_height"]
  | nodeGap => ["layout", "node_sep"]
  | rankGap => ["layout", "rank_sep"]
  | dangling => ["present", "dangling"]

abbrev Value : Setting → Type
  | exclude => Option (List String)
  | duplicates => DuplicatePolicy
  | includeAsync => Bool
  | maxSourceBytes => Option Nat
  | nodeWidth | nodeHeight | nodeGap | rankGap => Float
  | dangling => DanglingPolicy

/-- A value of the file stands for a value of the setting. The patterns and the limit may be
    absent, but there is no way to write that. -/
def Means : (k : Setting) → Toml → k.Value → Prop
  | exclude, v, x =>
    ∃ patterns : List String, v = .array (patterns.map .string) ∧ some patterns = x
  | duplicates, v, x => v.Names x.word
  | includeAsync, v, x => v = .bool x
  | maxSourceBytes, v, x => ∃ n : Nat, v = .integer n ∧ some n = x
  | nodeWidth, v, x | nodeHeight, v, x | nodeGap, v, x | rankGap, v, x => v.Measures x
  | dangling, v, x => v.Names x.word

/-- How the value of a setting is read. -/
def read : (k : Setting) → Toml → Option k.Value
  | exclude => fun v => (v.list? Toml.string?).map some
  | duplicates => Toml.choice? DuplicatePolicy.words
  | includeAsync => Toml.bool?
  | maxSourceBytes => fun v => v.natural?.map some
  | nodeWidth | nodeHeight | nodeGap | rankGap => Toml.float?
  | dangling => Toml.choice? DanglingPolicy.words

theorem read_eq_some_iff {k : Setting} {v : Toml} {x : k.Value} :
    k.read v = some x ↔ k.Means v x := by
  cases k with
  | exclude => simp [read, Means, Toml.list?_eq_some_iff]
  | duplicates => simp [read, Means, Toml.choice?_eq_some_iff, lookup_duplicatePolicy_words]
  | includeAsync => exact Toml.bool?_eq_some_iff
  | maxSourceBytes => simp [read, Means, Toml.natural?_eq_some_iff]
  | nodeWidth | nodeHeight | nodeGap | rankGap => exact Toml.float?_eq_some_iff
  | dangling => simp [read, Means, Toml.choice?_eq_some_iff, lookup_danglingPolicy_words]

/-- All settings, section by section. -/
theorem forall_iff {p : Setting → Prop} :
    (∀ k, p k) ↔ p exclude ∧ (p duplicates ∧ p includeAsync ∧ p maxSourceBytes) ∧
      (p nodeWidth ∧ p nodeHeight ∧ p nodeGap ∧ p rankGap) ∧ p dangling := by
  constructor
  · intro h
    exact ⟨h _, ⟨h _, h _, h _⟩, ⟨h _, h _, h _, h _⟩, h _⟩
  · rintro ⟨_, ⟨_, _, _⟩, ⟨_, _, _, _⟩, _⟩ k
    cases k <;> assumption

/-- The value that a file gives to a setting. -/
def given? (k : Setting) (fields : List (String × Toml)) : Option Toml :=
  Toml.at? k.path (.table fields)

end Setting

/-- The value of a setting. -/
def get (c : Config) : (k : Setting) → k.Value
  | .exclude => c.exclude
  | .duplicates => c.extract.duplicates
  | .includeAsync => c.extract.includeAsync
  | .maxSourceBytes => c.extract.maxSourceBytes
  | .nodeWidth => c.layout.nodeWidth
  | .nodeHeight => c.layout.nodeHeight
  | .nodeGap => c.layout.nodeGap
  | .rankGap => c.layout.rankGap
  | .dangling => c.dangling

/-- The configuration with the given values. -/
def ofValues (value : (k : Setting) → k.Value) : Config where
  exclude := value .exclude
  extract := ⟨value .duplicates, value .includeAsync, value .maxSourceBytes⟩
  layout := ⟨value .nodeWidth, value .nodeHeight, value .nodeGap, value .rankGap⟩
  dangling := value .dangling

theorem get_ofValues (value : (k : Setting) → k.Value) (k : Setting) :
    (ofValues value).get k = value k := by
  cases k <;> rfl

/-- A setting has the value that a file gives to it, or its default if it gives none. -/
def Follows (fields : List (String × Toml)) (k : Setting) (x : k.Value) : Prop :=
  match k.given? fields with
  | some v => k.Means v x
  | none => x = default.get k

/-- A file gives a setting a value that means nothing for it. -/
def Refuses (fields : List (String × Toml)) (k : Setting) : Prop :=
  ∃ v, k.given? fields = some v ∧ ∀ x, ¬ k.Means v x

theorem follows_iff {fields : List (String × Toml)} {k : Setting} {x : k.Value} :
    Follows fields k x ↔ Toml.orDefault (default.get k) k.read (k.given? fields) = some x := by
  unfold Follows
  cases k.given? fields with
  | none => simp [Toml.orDefault, eq_comm]
  | some v => simp [Toml.orDefault, Setting.read_eq_some_iff]

theorem exists_follows_of_not_refuses {fields : List (String × Toml)} {k : Setting}
    (h : ¬ Refuses fields k) : ∃ x, Follows fields k x := by
  unfold Follows
  cases hgiven : k.given? fields with
  | none => exact ⟨_, rfl⟩
  | some v =>
    by_contra hnone
    exact h ⟨v, hgiven, not_exists.mp hnone⟩

theorem Refuses.not_follows {fields : List (String × Toml)} {k : Setting}
    (h : Refuses fields k) (x : k.Value) : ¬ Follows fields k x := by
  obtain ⟨v, hgiven, hnone⟩ := h
  unfold Follows
  rw [hgiven]
  exact hnone x

/-! ## Section 3: Tables -/

/-- Each of the three sections is a table if it is there. -/
def SectionsAreTables (fields : List (String × Toml)) : Prop :=
  ∀ name ∈ ["extract", "layout", "present"], ∀ v ∈ fields.lookup name, v.isTable = true

instance (fields : List (String × Toml)) : Decidable (SectionsAreTables fields) :=
  inferInstanceAs (Decidable (∀ name ∈ _, ∀ v ∈ fields.lookup name, v.isTable = true))

/-- The entries of a section. -/
def sectionOf (fields : List (String × Toml)) (name : String) : List (String × Toml) :=
  match fields.lookup name with
  | some (.table entries) => entries
  | _ => []

theorem at?_key (fields : List (String × Toml)) (key : String) :
    Toml.at? [key] (.table fields) = fields.lookup key := by
  simp [Toml.at?]

theorem at?_section (fields : List (String × Toml)) (name key : String) :
    Toml.at? [name, key] (.table fields) = (sectionOf fields name).lookup key := by
  unfold sectionOf
  cases hv : fields.lookup name with
  | none => simp [Toml.at?, hv]
  | some v => cases v <;> simp [Toml.at?, hv]

/-- A section that is not there counts as an empty one. -/
theorem orDefault_section {α : Type} (base : α) (read : Toml → Option α)
    (hempty : read (.table []) = some base) {fields : List (String × Toml)} {name : String}
    (h : ∀ v ∈ fields.lookup name, v.isTable = true) :
    Toml.orDefault base read (fields.lookup name) = read (.table (sectionOf fields name)) := by
  unfold sectionOf
  cases hv : fields.lookup name with
  | none => exact hempty.symm
  | some v =>
    cases v with
    | table entries => rfl
    | _ => cases h _ hv

theorem extractOfToml?_eq_some_iff {entries : List (String × Toml)} {o : Extract.Options} :
    extractOfToml? (.table entries) = some o ↔
      Toml.orDefault Extract.Options.default.duplicates (Toml.choice? DuplicatePolicy.words)
        (entries.lookup "duplicates") = some o.duplicates ∧
      Toml.orDefault Extract.Options.default.includeAsync Toml.bool?
        (entries.lookup "include_async") = some o.includeAsync ∧
      Toml.orDefault Extract.Options.default.maxSourceBytes (fun v => v.natural?.map some)
        (entries.lookup "max_source_bytes") = some o.maxSourceBytes := by
  constructor
  · intro h
    simp only [extractOfToml?, Toml.parts?, List.map_cons, List.map_nil, Option.bind_eq_bind,
      Option.pure_def, Option.bind_eq_some_iff, Option.some.injEq] at h
    obtain ⟨duplicates, hduplicates, includeAsync, hasync, limit, hlimit, rfl⟩ := h
    exact ⟨hduplicates, hasync, hlimit⟩
  · rintro ⟨hduplicates, hasync, hlimit⟩
    simp only [extractOfToml?, Toml.parts?, List.map_cons, List.map_nil, hduplicates, hasync,
      hlimit, Option.bind_eq_bind, Option.bind_some, Option.pure_def]

theorem layoutOfToml?_eq_some_iff {entries : List (String × Toml)} {o : LayoutOptions Float} :
    layoutOfToml? (.table entries) = some o ↔
      Toml.orDefault LayoutOptions.default.nodeWidth Toml.float?
        (entries.lookup "node_width") = some o.nodeWidth ∧
      Toml.orDefault LayoutOptions.default.nodeHeight Toml.float?
        (entries.lookup "node_height") = some o.nodeHeight ∧
      Toml.orDefault LayoutOptions.default.nodeGap Toml.float?
        (entries.lookup "node_sep") = some o.nodeGap ∧
      Toml.orDefault LayoutOptions.default.rankGap Toml.float?
        (entries.lookup "rank_sep") = some o.rankGap := by
  constructor
  · intro h
    simp only [layoutOfToml?, Toml.parts?, List.map_cons, List.map_nil, Option.bind_eq_bind,
      Option.pure_def, Option.bind_eq_some_iff, Option.some.injEq] at h
    obtain ⟨width, hwidth, height, hheight, gap, hgap, rankGap, hrankGap, rfl⟩ := h
    exact ⟨hwidth, hheight, hgap, hrankGap⟩
  · rintro ⟨hwidth, hheight, hgap, hrankGap⟩
    simp only [layoutOfToml?, Toml.parts?, List.map_cons, List.map_nil, hwidth, hheight, hgap,
      hrankGap, Option.bind_eq_bind, Option.bind_some, Option.pure_def]

theorem danglingOfToml?_table (entries : List (String × Toml)) :
    danglingOfToml? (.table entries) = Toml.orDefault .leaveOut
      (Toml.choice? DanglingPolicy.words) (entries.lookup "dangling") := rfl

theorem ofTable?_eq_some_iff_sections {fields : List (String × Toml)} {c : Config} :
    ofTable? fields = some c ↔
      Toml.orDefault none (fun v => (v.list? Toml.string?).map some)
        (fields.lookup "exclude") = some c.exclude ∧
      Toml.orDefault default.extract extractOfToml? (fields.lookup "extract") = some c.extract ∧
      Toml.orDefault default.layout layoutOfToml? (fields.lookup "layout") = some c.layout ∧
      Toml.orDefault default.dangling danglingOfToml? (fields.lookup "present") =
        some c.dangling := by
  constructor
  · intro h
    simp only [ofTable?, Option.bind_eq_bind, Option.pure_def, Option.bind_eq_some_iff,
      Option.some.injEq] at h
    obtain ⟨exclude, hexclude, extract, hextract, layout, hlayout, dangling, hdangling, rfl⟩ := h
    exact ⟨hexclude, hextract, hlayout, hdangling⟩
  · rintro ⟨hexclude, hextract, hlayout, hdangling⟩
    simp only [ofTable?, hexclude, hextract, hlayout, hdangling, Option.bind_eq_bind,
      Option.bind_some, Option.pure_def]

/-- Where all sections are tables, a table sets a configuration if and only if each of its
    settings follows the table. -/
theorem ofTable?_eq_some_iff {fields : List (String × Toml)} (h : SectionsAreTables fields)
    {c : Config} : ofTable? fields = some c ↔ ∀ k, Follows fields k (c.get k) := by
  rw [ofTable?_eq_some_iff_sections,
    orDefault_section default.extract extractOfToml? rfl (h "extract" (by simp)),
    orDefault_section default.layout layoutOfToml? rfl (h "layout" (by simp)),
    orDefault_section default.dangling danglingOfToml? rfl (h "present" (by simp)),
    extractOfToml?_eq_some_iff, layoutOfToml?_eq_some_iff, danglingOfToml?_table,
    Setting.forall_iff]
  -- What is left of both sides are the nine readings, section by section.
  simp only [follows_iff, Setting.given?, Setting.path, at?_key, at?_section]
  rfl

theorem ofTable?_eq_none_iff {fields : List (String × Toml)} (h : SectionsAreTables fields) :
    ofTable? fields = none ↔ ∃ k, Refuses fields k := by
  constructor
  · intro hnone
    by_contra hall
    have hfollows : ∀ k, ∃ x, Follows fields k x :=
      fun k => exists_follows_of_not_refuses (not_exists.mp hall k)
    -- Values that follow the table make up a configuration, which would have been read.
    choose value hvalue using hfollows
    have hsome : ofTable? fields = some (ofValues value) := by
      rw [ofTable?_eq_some_iff h]
      intro k
      rw [get_ofValues]
      exact hvalue k
    rw [hnone] at hsome
    cases hsome
  · rintro ⟨k, hk⟩
    rw [Option.eq_none_iff_forall_ne_some]
    intro c hc
    exact hk.not_follows _ ((ofTable?_eq_some_iff h).mp hc k)

/-- A table counts for no more than the values it gives to the settings. -/
theorem ofTable?_congr {fields others : List (String × Toml)} (h : SectionsAreTables fields)
    (h' : SectionsAreTables others) (hgiven : ∀ k : Setting, k.given? others = k.given? fields) :
    ofTable? others = ofTable? fields := by
  apply Option.ext
  intro c
  rw [ofTable?_eq_some_iff h, ofTable?_eq_some_iff h']
  simp only [follows_iff, hgiven]

/-! ## Section 4: Files -/

/-- The bytes of a file are a text in UTF-8 that is read as a table. -/
def Spells (bytes : ByteArray) (fields : List (String × Toml)) : Prop :=
  ∃ text : String, text.toUTF8 = bytes ∧ Toml.parse text = some fields

theorem fromUTF8?_eq_some_iff {bytes : ByteArray} {text : String} :
    String.fromUTF8? bytes = some text ↔ text.toUTF8 = bytes := by
  unfold String.fromUTF8?
  constructor
  · intro h
    split at h
    · cases h
      rfl
    · cases h
  · rintro rfl
    have hvalid : text.toUTF8.IsValidUTF8 := text.isValidUTF8
    rw [dif_pos hvalid]
    rfl

theorem ofBytes?_of_spells {bytes : ByteArray} {fields : List (String × Toml)}
    (h : Spells bytes fields) : ofBytes? bytes = ofTable? fields := by
  obtain ⟨text, htext, hparse⟩ := h
  rw [ofBytes?, fromUTF8?_eq_some_iff.mpr htext, Option.bind_some, ofText?, hparse,
    Option.bind_some]

theorem exists_spells_of_ofBytes? {bytes : ByteArray} {c : Config} (h : ofBytes? bytes = some c) :
    ∃ fields, Spells bytes fields ∧ ofTable? fields = some c := by
  obtain ⟨text, htext, hc⟩ := Option.bind_eq_some_iff.mp h
  obtain ⟨fields, hparse, hc⟩ := Option.bind_eq_some_iff.mp hc
  exact ⟨fields, ⟨text, fromUTF8?_eq_some_iff.mp htext, hparse⟩, hc⟩

/-- A file that is there is read as a whole, or the default stands for it. -/
theorem load_of_readBytes {fs : FileSystem} {folder : String} {bytes : ByteArray}
    (h : fs.readBytes (Path.join folder fileName) = .ok bytes) :
    (load fs folder).2 = (ofBytes? bytes).getD default := by
  have hcontains : fs.contains (Path.join folder fileName) = true := by
    unfold FileSystem.readBytes at h
    unfold FileSystem.contains
    split at h
    · next heq =>
      rw [heq]
      rfl
    · cases h
    · cases h
  have hread : fs.readText (Path.join folder fileName) = decodeText bytes := by
    rw [FileSystem.readText, h]
    rfl
  unfold load ofBytes?
  simp only [hcontains, hread, decodeText]
  cases String.fromUTF8? bytes with
  | none => rfl
  | some text =>
    dsimp only [Option.bind_some]
    cases ofText? text <;> rfl

/-- There is a limit in every section that can be read, whether it is written as a table or
    not. -/
theorem exists_limit_of_extractOfToml? {v : Toml} {o : Extract.Options}
    (h : extractOfToml? v = some o) : ∃ n, o.maxSourceBytes = some n := by
  unfold extractOfToml? at h
  split at h
  · simp only [Option.bind_eq_bind, Option.pure_def, Option.bind_eq_some_iff,
      Option.some.injEq] at h
    obtain ⟨-, -, -, -, limit, hlimit, rfl⟩ := h
    rcases Toml.orDefault_eq_some_iff.mp hlimit with ⟨-, rfl⟩ | ⟨w, -, hw⟩
    · exact ⟨_, rfl⟩
    · obtain ⟨n, -, rfl⟩ := Option.map_eq_some_iff.mp hw
      exact ⟨n, rfl⟩
  · cases h

theorem exists_limit_of_ofTable? {fields : List (String × Toml)} {c : Config}
    (h : ofTable? fields = some c) : ∃ n, c.extract.maxSourceBytes = some n := by
  obtain ⟨-, hextract, -, -⟩ := ofTable?_eq_some_iff_sections.mp h
  rcases Toml.orDefault_eq_some_iff.mp hextract with ⟨-, hbase⟩ | ⟨v, -, hv⟩
  · exact ⟨_, congrArg Extract.Options.maxSourceBytes hbase⟩
  · exact exists_limit_of_extractOfToml? hv

/-- Whatever there is to load, sources have a limit. -/
theorem exists_limit_load (fs : FileSystem) (folder : String) :
    ∃ n, (load fs folder).2.extract.maxSourceBytes = some n := by
  have hdefault : ∃ n, default.extract.maxSourceBytes = some n := ⟨_, rfl⟩
  unfold load
  dsimp only
  split
  · exact hdefault
  · split
    · exact hdefault
    · split
      · exact hdefault
      · next c hc =>
        obtain ⟨fields, -, hfields⟩ := Option.bind_eq_some_iff.mp hc
        exact exists_limit_of_ofTable? hfields

theorem tryExtract_of_limit {frontend : Frontend} {options : Extract.Options} {source : String}
    {n : Nat} (hlimit : options.maxSourceBytes = some n) (h : n < source.utf8ByteSize) :
    tryExtract frontend options source =
      ([], .error (.error (.tooLarge source.utf8ByteSize n))) := by
  have hover : oversize? options source = some (source.utf8ByteSize, n) := by
    simp only [oversize?, hlimit, if_pos h]
  rw [tryExtract, hover]

/-- **Loading a configuration.** A file that is not a text, cannot be read as a table, or gives
    some setting a value that means nothing for it counts for nothing at all. From any other
    file each setting has the value that the file gives to it, or else its default. Files that
    agree on the values of the settings are loaded alike, whatever else they hold. Sources have
    a limit in any case, and those above it are refused. -/
theorem load_settings {fs : FileSystem} {folder : String} {bytes : ByteArray}
    (hfile : fs.readBytes (Path.join folder fileName) = .ok bytes)
    (hsections : ∀ fields, Spells bytes fields → SectionsAreTables fields) :
    ((∀ fields, ¬ Spells bytes fields) → (load fs folder).2 = default) ∧
    (∀ fields, Spells bytes fields → (∃ k, Refuses fields k) → (load fs folder).2 = default) ∧
    (∀ fields, Spells bytes fields → (∀ k, ¬ Refuses fields k) →
      ∀ k, Follows fields k ((load fs folder).2.get k)) ∧
    (∀ (fs' : FileSystem) (folder' : String) (bytes' : ByteArray)
      (fields fields' : List (String × Toml)),
      fs'.readBytes (Path.join folder' fileName) = .ok bytes' →
      Spells bytes fields → Spells bytes' fields' → SectionsAreTables fields' →
      (∀ k : Setting, k.given? fields' = k.given? fields) →
      (load fs' folder').2 = (load fs folder).2) ∧
    ∃ n, (load fs folder).2.extract.maxSourceBytes = some n ∧
      ∀ (frontend : Frontend) (source : String), n < source.utf8ByteSize →
        (tryExtract frontend (load fs folder).2.extract source).2 =
          .error (.error (.tooLarge source.utf8ByteSize n)) := by
  rw [load_of_readBytes hfile]
  refine ⟨?_, ?_, ?_, ?_, ?_⟩
  · intro hnone
    cases hc : ofBytes? bytes with
    | none => rfl
    | some c =>
      obtain ⟨fields, hspells, -⟩ := exists_spells_of_ofBytes? hc
      exact absurd hspells (hnone fields)
  · intro fields hspells hrefused
    rw [ofBytes?_of_spells hspells, (ofTable?_eq_none_iff (hsections fields hspells)).mpr hrefused,
      Option.getD_none]
  · intro fields hspells haccepted
    have h := hsections fields hspells
    rw [ofBytes?_of_spells hspells]
    cases hc : ofTable? fields with
    | none =>
      obtain ⟨k, hk⟩ := (ofTable?_eq_none_iff h).mp hc
      exact absurd hk (haccepted k)
    | some c => exact (ofTable?_eq_some_iff h).mp hc
  · intro fs' folder' bytes' fields fields' hfile' hspells hspells' hsections' hgiven
    rw [load_of_readBytes hfile', ofBytes?_of_spells hspells, ofBytes?_of_spells hspells',
      ofTable?_congr (hsections fields hspells) hsections' hgiven]
  · -- The limit does not depend on how the sections are written.
    rw [← load_of_readBytes hfile]
    obtain ⟨n, hn⟩ := exists_limit_load fs folder
    refine ⟨n, hn, ?_⟩
    intro frontend source hlarge
    rw [tryExtract_of_limit hn hlarge]

def unionText : String :=
  "[extract]\nduplicates = \"union\"\nmax_source_bytes = 8\nlimit = 4\n"

def unionFiles : FileSystem := ⟨Tree.empty.put [fileName] (.file unionText.toUTF8), []⟩

theorem load_settings_union :
    unionFiles.readBytes (Path.join "." fileName) = .ok unionText.toUTF8 ∧
    (load unionFiles ".").2.get .duplicates = .union ∧
    (load unionFiles ".").2.get .includeAsync = true ∧
    (load unionFiles ".").2.get .maxSourceBytes = some 8 := by
  have hfile : unionFiles.readBytes (Path.join "." fileName) = .ok unionText.toUTF8 := by
    have hread : (unionFiles.readBytes (Path.join "." fileName)).toOption =
      some unionText.toUTF8 := by decide +kernel
    revert hread
    cases unionFiles.readBytes (Path.join "." fileName) with
    | error fault => exact fun hread => nomatch hread
    | ok bytes => exact fun hread => congrArg Except.ok (Option.some.inj hread)
  obtain ⟨fields, hparse, htables, hread, hduplicates, hasync, hlimit⟩ :
      ∃ fields ∈ Toml.parse unionText, SectionsAreTables fields ∧ ofTable? fields ≠ none ∧
        (Setting.given? .duplicates fields).bind Toml.string? = some "union" ∧
        (Setting.given? .includeAsync fields).isNone = true ∧
        (Setting.given? .maxSourceBytes fields).bind Toml.natural? = some 8 := by
    decide +kernel
  have hsections : ∀ others, Spells unionText.toUTF8 others → SectionsAreTables others := by
    rintro others ⟨text, htext, hothers⟩
    obtain rfl : text = unionText := String.toByteArray_inj.mp htext
    exact Option.some.inj (hparse.symm.trans hothers) ▸ htables
  have hfollows := (load_settings hfile hsections).2.2.1 fields ⟨_, rfl, hparse⟩
    (not_exists.mp fun hrefused => hread ((ofTable?_eq_none_iff htables).mpr hrefused))
  simp only [follows_iff] at hfollows
  refine ⟨hfile, ?_, ?_, ?_⟩
  · have h := hfollows .duplicates
    obtain ⟨v, hv, hword⟩ := Option.bind_eq_some_iff.mp hduplicates
    rw [hv, Toml.string?_eq_some_iff.mp hword] at h
    exact (Option.some.inj h).symm
  · have h := hfollows .includeAsync
    rw [Option.isNone_iff_eq_none.mp hasync] at h
    exact (Option.some.inj h).symm
  · have h := hfollows .maxSourceBytes
    obtain ⟨v, hv, hnumber⟩ := Option.bind_eq_some_iff.mp hlimit
    rw [hv, Toml.natural?_eq_some_iff.mp hnumber] at h
    exact (Option.some.inj h).symm

end Config

end CallAtlas
