import CallAtlas.Project.Walk
import Mathlib.Data.List.FinRange
import Mathlib.Data.List.Infix
import Mathlib.Data.List.Lex
import Mathlib.Data.List.Nodup
import Mathlib.Data.List.Sort
import Mathlib.Data.List.TakeWhile
import Mathlib.Data.String.Basic

/-! # The sources that a walk finds

    A walk goes down a tree entry by entry and leaves out an entry with all that is below it;
    the exclude patterns are then tested on the files that were reached. Both together come to
    a condition on each file alone:

    * **Reaching**: a file is reached iff no step to it is barred and no entry on the way to it
      is dropped.
    * **Order**: the paths that are found are strictly increasing, step by step, so that no
      file is found twice. This rests on the different names that a folder's entries have.
    * **Patterns**: excluding only filters what is found without patterns.
-/

namespace CallAtlas.Files

/-! ## Section 1: Extensions -/

/-- The extension follows the last dot, and before that dot stands a stem. -/
theorem Path.extension?_eq_some_iff {name extension : String} :
    Path.extension? name = some extension ↔
      '.' ∉ extension.toList ∧ ∃ stem : String, stem ≠ "" ∧ name = stem ++ "." ++ extension := by
  constructor
  · intro h
    have hsplit := List.takeWhile_append_dropWhile (p := (· != '.')) (l := name.toList.reverse)
    simp only [Path.extension?] at h
    split at h
    next dot last before hdrop =>
      have hdot : dot = '.' := by
        have := List.head_dropWhile_not (· != '.') (l := name.toList.reverse) (by simp [hdrop])
        simpa [hdrop] using this
      obtain rfl := Option.some.inj h
      refine ⟨?_, String.ofList (last :: before).reverse, ?_, ?_⟩
      · intro hmem
        have := List.mem_takeWhile_imp (by simpa using hmem)
        simp at this
      · simp [← String.toList_inj]
      · rw [hdrop, hdot] at hsplit
        have hname := congrArg List.reverse hsplit.symm
        rw [← String.toList_inj]
        simpa using hname
    next => simp at h
  · rintro ⟨hdot, stem, hstem, rfl⟩
    -- Backwards, the extension stands first and the dot before it ends the search.
    have hback : (stem ++ "." ++ extension).toList.reverse =
        extension.toList.reverse ++ '.' :: stem.toList.reverse := by simp
    have hall : ∀ c ∈ extension.toList.reverse, (c != '.') = true := by
      intro c hc
      have : c ≠ '.' := fun h => hdot (h ▸ List.mem_reverse.mp hc)
      simpa using this
    have hlast : stem.toList.reverse ≠ [] := by
      intro h
      exact hstem (String.toList_inj.mp (List.reverse_eq_nil_iff.mp h))
    obtain ⟨last, before, hbefore⟩ := List.exists_cons_of_ne_nil hlast
    simp only [Path.extension?, hback, List.dropWhile_append_of_pos hall,
      List.takeWhile_append_of_pos hall, hbefore]
    simp

namespace Tree

/-! ## Section 2: Entries -/

theorem entries_folder {names : List String} {distinct : names.Nodup}
    {child : Fin names.length → Tree} :
    (folder names distinct child).entries =
      (List.finRange names.length).map fun i => (names.get i, child i) := by
  rw [entries, List.ofFn_eq_map]
  nth_rewrite 1 [← List.map_get_finRange names]
  rw [List.zip_map']

theorem entries_ofEntries (es : List (String × Tree)) (h : (es.map Prod.fst).Nodup) :
    (ofEntries es h).entries = es := by
  refine List.ext_getElem (by simp [ofEntries, entries]) fun i hi hi' => ?_
  simp [ofEntries, entries]

/-- Every entry is found by its own name, since no other has it. -/
theorem child?_eq_some_iff {t u : Tree} {name : String} :
    t.child? name = some u ↔ (name, u) ∈ t.entries := by
  constructor
  · intro h
    obtain ⟨before, behind, hentries, -⟩ := List.lookup_eq_some_iff.mp h
    rw [hentries]
    exact List.mem_append_right _ List.mem_cons_self
  · intro hmem
    obtain ⟨before, behind, hentries⟩ := List.append_of_mem hmem
    refine List.lookup_eq_some_iff.mpr ⟨before, behind, hentries, fun e he => ?_⟩
    have hnames := t.nodup_entries
    rw [hentries, List.map_append, List.map_cons] at hnames
    have hne := (List.nodup_middle.mp hnames).notMem
    rw [bne_iff_ne]
    intro heq
    exact hne (List.mem_append_left _ (List.mem_map.mpr ⟨e, he, heq.symm⟩))

theorem child?_folder_eq_some_iff {names : List String} {distinct : names.Nodup}
    {child : Fin names.length → Tree} {name : String} {u : Tree} :
    (folder names distinct child).child? name = some u ↔
      ∃ i, names.get i = name ∧ child i = u := by
  rw [child?_eq_some_iff, entries_folder, List.mem_map]
  simp

theorem at?_cons_eq_some_iff {t : Tree} {name : String} {rest : List String} {v : Tree} :
    t.at? (name :: rest) = some v ↔ ∃ u, t.child? name = some u ∧ u.at? rest = some v := by
  rw [at?]
  cases t.child? name <;> simp

theorem mem_putEntry_self (name : String) (value : Tree) (es : List (String × Tree)) :
    (name, value) ∈ putEntry name value es := by
  induction es with
  | nil => exact List.mem_singleton_self _
  | cons first rest ih =>
    obtain ⟨other, t⟩ := first
    unfold putEntry
    split
    · exact List.mem_cons_self
    · exact List.mem_cons_of_mem _ ih

/-- What was put at a location stands there. -/
theorem at?_put (t value : Tree) (location : List String) :
    (t.put location value).at? location = some value := by
  induction location generalizing t with
  | nil => rfl
  | cons name rest ih =>
    refine at?_cons_eq_some_iff.mpr ⟨((t.child? name).getD empty).put rest value, ?_, ih _⟩
    rw [put, child?_eq_some_iff, entries_ofEntries]
    exact mem_putEntry_self _ _ _

end Tree

end CallAtlas.Files

namespace CallAtlas.Project

open CallAtlas.Extract
open CallAtlas.Files

variable {drops : List String → Bool → Bool}

/-! ## Section 3: Files that are reached -/

/-- The walk goes into an entry of a folder. -/
structure Enters (drops : List String → Bool → Bool) (base : List String) (name : String)
    (t : Tree) : Prop where
  kept : drops (base ++ [name]) t.isFolder = false
  admitted : name ∉ barredNames

/-- Steps lead from a folder to a file; none of them is barred, and no entry on the way is
    dropped, the file itself included. -/
structure Reaches (drops : List String → Bool → Bool) (base : List String) (t : Tree)
    (steps : List String) : Prop where
  isFile : ∃ bytes, t.at? steps = some (.file bytes)
  admitted : ∀ step ∈ steps, step ∉ barredNames
  kept : ∀ above u, above ≠ [] → above <+: steps → t.at? above = some u →
    drops (base ++ above) u.isFolder = false

/-- One step of a walk is to go into an entry. -/
theorem reaches_cons_iff {base : List String} {t : Tree} {name : String} {rest : List String} :
    Reaches drops base t (name :: rest) ↔
      ∃ u, t.child? name = some u ∧ Enters drops base name u ∧
        Reaches drops (base ++ [name]) u rest := by
  constructor
  · rintro ⟨⟨bytes, hfile⟩, hadmitted, hkept⟩
    obtain ⟨u, hu, hrest⟩ := Tree.at?_cons_eq_some_iff.mp hfile
    refine ⟨u, hu, ⟨?_, hadmitted name List.mem_cons_self⟩, ⟨bytes, hrest⟩, ?_, ?_⟩
    · have hfirst : t.at? [name] = some u := Tree.at?_cons_eq_some_iff.mpr ⟨u, hu, rfl⟩
      exact hkept [name] u (List.cons_ne_nil _ _) (by simp) hfirst
    · intro step hstep
      exact hadmitted step (List.mem_cons_of_mem _ hstep)
    · intro above v _ habove hv
      have := hkept (name :: above) v (List.cons_ne_nil _ _)
        (List.cons_prefix_cons.mpr ⟨rfl, habove⟩) (Tree.at?_cons_eq_some_iff.mpr ⟨u, hu, hv⟩)
      simpa using this
  · rintro ⟨u, hu, henters, ⟨bytes, hrest⟩, hadmitted, hkept⟩
    refine ⟨⟨bytes, Tree.at?_cons_eq_some_iff.mpr ⟨u, hu, hrest⟩⟩, ?_, ?_⟩
    · intro step hstep
      rcases List.mem_cons.mp hstep with rfl | hstep
      · exact henters.admitted
      · exact hadmitted step hstep
    · intro above v hne habove hv
      -- A start of the way is its first entry, or goes on below that entry.
      obtain ⟨first, below, rfl⟩ := List.exists_cons_of_ne_nil hne
      obtain ⟨rfl, hbelow⟩ := List.cons_prefix_cons.mp habove
      obtain ⟨u', hu', hv'⟩ := Tree.at?_cons_eq_some_iff.mp hv
      obtain rfl : u = u' := Option.some.inj (hu.symm.trans hu')
      cases below with
      | nil =>
        obtain rfl : u = v := Option.some.inj hv'
        exact henters.kept
      | cons next below =>
        have := hkept (next :: below) v (List.cons_ne_nil _ _) hbelow hv'
        simpa using this

/-- The files that are reached through an entry of a folder. -/
def reachedThrough (drops : List String → Bool → Bool) (base : List String) (name : String)
    (t : Tree) : List (List String) :=
  if drops (base ++ [name]) t.isFolder || barredNames.contains name then []
  else reached drops (base ++ [name]) t

theorem reached_folder (base : List String) {names : List String} (distinct : names.Nodup)
    (child : Fin names.length → Tree) :
    reached drops base (.folder names distinct child) =
      (List.finRange names.length).flatMap fun i =>
        reachedThrough drops base (names.get i) (child i) := by
  rw [reached]
  rfl

theorem mem_reachedThrough_iff {base path : List String} {name : String} {t : Tree} :
    path ∈ reachedThrough drops base name t ↔
      Enters drops base name t ∧ path ∈ reached drops (base ++ [name]) t := by
  unfold reachedThrough
  split
  next h =>
    simp only [Bool.or_eq_true, List.contains_iff_mem] at h
    refine ⟨fun hmem => absurd hmem List.not_mem_nil, fun ⟨henters, _⟩ => ?_⟩
    rcases h with h | h
    · exact absurd h (by simp [henters.kept])
    · exact absurd h henters.admitted
  next h =>
    simp only [Bool.or_eq_true, List.contains_iff_mem, not_or, Bool.not_eq_true] at h
    exact ⟨fun hmem => ⟨⟨h.1, h.2⟩, hmem⟩, And.right⟩

/-- The files that are reached are those that steps lead to. -/
theorem mem_reached_iff {t : Tree} {base path : List String} :
    path ∈ reached drops base t ↔ ∃ steps, path = base ++ steps ∧ Reaches drops base t steps := by
  -- By induction on the tree; each entry of a folder is the first step of the ways through it.
  induction t generalizing base path with
  | file bytes =>
    rw [reached, List.mem_singleton]
    constructor
    · rintro rfl
      refine ⟨[], (List.append_nil _).symm, ⟨bytes, rfl⟩, by simp, ?_⟩
      intro above u hne habove _
      exact absurd (List.prefix_nil.mp habove) hne
    · rintro ⟨steps, rfl, hreaches⟩
      cases steps with
      | nil => exact List.append_nil _
      | cons name rest =>
        obtain ⟨u, hu, -⟩ := reaches_cons_iff.mp hreaches
        cases hu
  | folder names distinct child ih =>
    rw [reached_folder, List.mem_flatMap]
    constructor
    · rintro ⟨i, -, hpart⟩
      obtain ⟨henters, hpath⟩ := mem_reachedThrough_iff.mp hpart
      obtain ⟨rest, rfl, hrest⟩ := (ih i).mp hpath
      have hchild : (Tree.folder names distinct child).child? (names.get i) = some (child i) :=
        Tree.child?_folder_eq_some_iff.mpr ⟨i, rfl, rfl⟩
      refine ⟨names.get i :: rest, List.append_assoc .., ?_⟩
      exact reaches_cons_iff.mpr ⟨child i, hchild, henters, hrest⟩
    · rintro ⟨steps, rfl, hreaches⟩
      cases steps with
      | nil =>
        obtain ⟨bytes, hfile⟩ := hreaches.isFile
        exact Tree.noConfusion (Option.some.inj hfile)
      | cons name rest =>
        obtain ⟨u, hu, henters, hrest⟩ := reaches_cons_iff.mp hreaches
        obtain ⟨i, rfl, rfl⟩ := Tree.child?_folder_eq_some_iff.mp hu
        refine ⟨i, List.mem_finRange i, mem_reachedThrough_iff.mpr ⟨henters, (ih i).mpr ?_⟩⟩
        exact ⟨rest, (List.append_assoc base [names.get i] rest).symm, hrest⟩

/-- No file is reached twice. -/
theorem nodup_reached (base : List String) (t : Tree) : (reached drops base t).Nodup := by
  induction t generalizing base with
  | file bytes =>
    rw [reached]
    exact List.nodup_singleton base
  | folder names distinct child ih =>
    rw [reached_folder, List.nodup_flatMap]
    constructor
    · intro i _
      unfold reachedThrough
      split
      · exact List.nodup_nil
      · exact ih i _
    · -- What is reached through two entries differs in the step behind the base.
      refine (List.nodup_finRange _).imp fun {i j} hne => ?_
      intro path hpath hpath'
      obtain ⟨-, hpath⟩ := mem_reachedThrough_iff.mp hpath
      obtain ⟨-, hpath'⟩ := mem_reachedThrough_iff.mp hpath'
      obtain ⟨rest, hrest, -⟩ := mem_reached_iff.mp hpath
      obtain ⟨rest', hrest', -⟩ := mem_reached_iff.mp hpath'
      have heq : base ++ ([names.get i] ++ rest) = base ++ ([names.get j] ++ rest') := by
        rw [← List.append_assoc, ← List.append_assoc, ← hrest, ← hrest']
      have hnames : names.get i = names.get j := (List.cons.inj (List.append_cancel_left heq)).1
      exact hne (List.nodup_iff_injective_get.mp distinct hnames)

/-! ## Section 4: The order of paths -/

/-- Paths are compared as lists of steps. -/
theorem pathLe_iff_le {a b : List String} : pathLe a b = true ↔ a ≤ b := by
  rw [← not_lt]
  induction a generalizing b with
  | nil => simp [pathLe]
  | cons x xs ih =>
    cases b with
    | nil => simp [pathLe]
    | cons y ys =>
      rw [pathLe, List.cons_lt_cons_iff]
      split
      next heq =>
        subst heq
        simp [ih]
      next hne =>
        have : x < y ↔ ¬ y < x := by rw [not_lt, le_iff_lt_or_eq, or_iff_left hne]
        simp [this, Ne.symm hne]

theorem mem_sortPaths {paths : List (List String)} {path : List String} :
    path ∈ sortPaths paths ↔ path ∈ paths := (List.mergeSort_perm paths pathLe).mem_iff

/-- Paths of which none comes twice are sorted into a strict order. -/
theorem pairwise_lt_sortPaths {paths : List (List String)} (h : paths.Nodup) :
    (sortPaths paths).Pairwise (· < ·) := by
  have hle : (sortPaths paths).Pairwise fun a b => pathLe a b = true := by
    refine List.pairwise_mergeSort ?_ ?_ paths
    · intro a b c hab hbc
      exact pathLe_iff_le.mpr (le_trans (pathLe_iff_le.mp hab) (pathLe_iff_le.mp hbc))
    · intro a b
      simpa [pathLe_iff_le] using le_total a b
  have hne : (sortPaths paths).Nodup := (List.mergeSort_perm paths pathLe).nodup_iff.mpr h
  exact hle.imp₂ (fun a b hab hne => lt_of_le_of_ne (pathLe_iff_le.mp hab) hne) hne

/-! ## Section 5: Sources and patterns -/

theorem isSource_iff {path : List String} :
    isSource path = true ↔ ∃ stem : String, stem ≠ "" ∧
      (path.getLastD "" = stem ++ ".py" ∨ path.getLastD "" = stem ++ ".pyi") := by
  have hext : isSource path = true ↔ Path.extension? (path.getLastD "") = some "py" ∨
      Path.extension? (path.getLastD "") = some "pyi" := by
    unfold isSource
    split <;> simp_all [isSourceExtension]
  have hpy : "." ++ "py" = ".py" := rfl
  have hpyi : "." ++ "pyi" = ".pyi" := rfl
  simp only [hext, Path.extension?_eq_some_iff, String.append_assoc, hpy, hpyi]
  constructor
  · rintro (⟨-, stem, hstem, hname⟩ | ⟨-, stem, hstem, hname⟩)
    · exact ⟨stem, hstem, .inl hname⟩
    · exact ⟨stem, hstem, .inr hname⟩
  · rintro ⟨stem, hstem, hname | hname⟩
    · exact .inl ⟨by decide, stem, hstem, hname⟩
    · exact .inr ⟨by decide, stem, hstem, hname⟩

/-- A file is left out by a valid pattern, which matches its whole path or one of its steps. -/
theorem any_excludes_eq_false_iff {exclude : List ExcludePattern} {path : List String} :
    exclude.any (·.excludes path) = false ↔ ∀ accepts, .valid accepts ∈ exclude →
      accepts (Path.text path) = false ∧ ∀ step ∈ path, accepts step = false := by
  rw [List.any_eq_false]
  constructor
  · intro h accepts hmem
    simpa [ExcludePattern.excludes, Path.text] using h _ hmem
  · intro h p hmem
    cases p with
    | valid accepts => simpa [ExcludePattern.excludes, Path.text] using h accepts hmem
    | invalid text => simp [ExcludePattern.excludes]

theorem mem_walk_iff {t : Tree} {exclude : List ExcludePattern} {path : List String} :
    path ∈ walk drops exclude t ↔ Reaches drops [] t path ∧ isSource path = true ∧
      exclude.any (·.excludes path) = false := by
  rw [walk, mem_sortPaths, List.mem_filter, mem_reached_iff, isEligible, Bool.and_eq_true,
    Bool.not_eq_true']
  simp

theorem pairwise_lt_walk (exclude : List ExcludePattern) (t : Tree) :
    (walk drops exclude t).Pairwise (· < ·) :=
  pairwise_lt_sortPaths ((nodup_reached [] t).filter _)

/-- Excluding filters what is found without patterns. -/
theorem walk_eq_filter (exclude : List ExcludePattern) (t : Tree) :
    walk drops exclude t =
      (walk drops [] t).filter fun path => !exclude.any (·.excludes path) := by
  -- Both sides are strictly ordered, so that it is enough that they have the same members.
  refine (pairwise_lt_walk exclude t).eq_of_mem_iff ((pairwise_lt_walk [] t).filter _) ?_
  intro path
  simp [mem_walk_iff, and_assoc]

theorem walk_congr {exclude other : List ExcludePattern}
    (h : ∀ path, exclude.any (·.excludes path) = other.any (·.excludes path)) (t : Tree) :
    walk drops exclude t = walk drops other t := by
  have heligible : isEligible exclude = isEligible other := by
    funext path
    rw [isEligible, isEligible, h]
  rw [walk, walk, heligible]

theorem walkProject_ok {fs : FileSystem} {root : String} {location : List String} {t : Tree}
    (hlocate : fs.locate root = .ok location) (hat : fs.root.at? location = some t)
    (hfolder : t.isFolder = true) (patterns : List String) :
    ∃ w, walkProject fs root patterns = .ok w ∧ w.sources =
      (walk (dropsBelow (rulesFor fs location) location) (patterns.map .ofText) t).map
        fun path => Path.join root (Path.text path) := by
  simp only [walkProject, hlocate, hat, Option.filter_some, hfolder, if_true]
  exact ⟨_, rfl, rfl⟩

/-! ## Section 6: The sources of a project -/

/-- A walk finds exactly the eligible files, each once and in the order of their steps. A file
    is eligible by a condition on it alone, whatever drops entries and whatever the patterns
    accept. Patterns filter what is found without them: invalid ones leave out nothing, their
    order does not matter, and more of them find less. A project is walked in this way at any
    path that leads to a folder. -/
theorem walk_finds_eligible_files (tree : Tree) (drops : List String → Bool → Bool)
    (exclude : List ExcludePattern) :
    (walk drops exclude tree).Pairwise (· < ·) ∧
    (∀ path, path ∈ walk drops exclude tree ↔
      (∃ bytes, tree.at? path = some (.file bytes)) ∧
      (∃ stem : String, stem ≠ "" ∧
        (path.getLastD "" = stem ++ ".py" ∨ path.getLastD "" = stem ++ ".pyi")) ∧
      (∀ step ∈ path, step ∉ ["__pycache__", ".venv", "venv", ".tox"]) ∧
      (∀ above u, above ≠ [] → above <+: path → tree.at? above = some u →
        drops above u.isFolder = false) ∧
      ∀ accepts, ExcludePattern.valid accepts ∈ exclude →
        accepts (Path.text path) = false ∧ ∀ step ∈ path, accepts step = false) ∧
    (walk drops exclude tree =
      (walk drops [] tree).filter fun path => !exclude.any (·.excludes path)) ∧
    (∀ texts : List String,
      walk drops (exclude ++ texts.map .invalid) tree = walk drops exclude tree) ∧
    (∀ other, exclude.Perm other → walk drops other tree = walk drops exclude tree) ∧
    (∀ more, exclude ⊆ more → (walk drops more tree).Sublist (walk drops exclude tree)) ∧
    ∀ (fs : FileSystem) (root : String) (location : List String) (patterns : List String),
      fs.locate root = .ok location → fs.root.at? location = some tree → tree.isFolder = true →
      ∃ w, walkProject fs root patterns = .ok w ∧ w.sources =
        (walk (dropsBelow (rulesFor fs location) location) (patterns.map .ofText) tree).map
          fun path => Path.join root (Path.text path) := by
  refine ⟨pairwise_lt_walk exclude tree, ?_, walk_eq_filter exclude tree, ?_, ?_, ?_, ?_⟩
  · intro path
    rw [mem_walk_iff, isSource_iff, any_excludes_eq_false_iff]
    constructor
    · rintro ⟨⟨hfile, hadmitted, hkept⟩, hsource, hpatterns⟩
      exact ⟨hfile, hsource, hadmitted, hkept, hpatterns⟩
    · rintro ⟨hfile, hsource, hadmitted, hkept, hpatterns⟩
      exact ⟨⟨hfile, hadmitted, hkept⟩, hsource, hpatterns⟩
  · intro texts
    refine walk_congr (fun path => ?_) tree
    have hinvalid : (texts.map ExcludePattern.invalid).any (·.excludes path) = false := by
      simp [ExcludePattern.excludes]
    rw [List.any_append, hinvalid, Bool.or_false]
  · intro other hperm
    refine walk_congr (fun path => ?_) tree
    exact Bool.eq_iff_iff.mpr (by simp only [List.any_eq_true, hperm.mem_iff])
  · intro more hsubset
    rw [walk_eq_filter more, walk_eq_filter exclude]
    refine List.monotone_filter_right _ fun path hpath => ?_
    -- A pattern that leaves out the file is among the further ones too.
    simp only [Bool.not_eq_true', List.any_eq_false] at hpath ⊢
    exact fun p hp => hpath p (hsubset hp)
  · intro fs root location patterns hlocate hat hfolder
    exact walkProject_ok hlocate hat hfolder patterns

/-- A project with a barred folder and a file that is no source. -/
def sampleTree : Tree :=
  [["a.py"], ["a", "stub.pyi"], ["a", "main.py"], ["venv", "b.py"], ["build", "c.py"],
    ["notes.txt"]].foldl (fun t location => t.put location (.file .empty)) .empty

def sampleFiles : FileSystem := ⟨Tree.empty.put ["home"] sampleTree, ["home"]⟩

/-- The folder `build` is dropped, one pattern leaves out a file and one is invalid. By their
    steps the paths stand in another order than by their texts. -/
theorem walk_finds_eligible_files_sample :
    walk (fun path _ => path == ["build"]) [.valid (· == "stub.pyi"), .invalid "["] sampleTree =
      [["a", "main.py"], ["a.py"]] ∧
    ∃ w, walkProject sampleFiles "." ["stub.*", "["] = .ok w ∧ "./a/main.py" ∈ w.sources := by
  obtain ⟨hordered, -, -, -, -, -, hproject⟩ := walk_finds_eligible_files sampleTree
    (fun path _ => path == ["build"]) [.valid (· == "stub.pyi"), .invalid "["]
  refine ⟨?_, ?_⟩
  · have hfound : (reached (fun path _ => path == ["build"]) [] sampleTree).filter
        (isEligible [.valid (· == "stub.pyi"), .invalid "["]) = [["a.py"], ["a", "main.py"]] := by
      decide +kernel
    refine hordered.eq_of_mem_iff (by decide +kernel) fun path => ?_
    rw [walk, mem_sortPaths, hfound, List.mem_pair, List.mem_pair, or_comm]
  · obtain ⟨w, hw, hsources⟩ := hproject sampleFiles "." ["home"] ["stub.*", "["]
      (by decide +kernel) (Tree.at?_put _ _ _) rfl
    refine ⟨w, hw, hsources ▸ List.mem_map.mpr ⟨["a", "main.py"], ?_, by decide +kernel⟩⟩
    rw [walk, mem_sortPaths]
    decide +kernel

end CallAtlas.Project
