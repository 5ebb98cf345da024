import CallAtlas.Json.Value

/-! # Datasets

    The functions of a source, the calls between names and the text of each function. A
    function or a key of the code is listed once; calls may repeat, and neither a caller nor a
    callee need be a function.
-/

namespace CallAtlas.Extract

/-- A list stays without repetition when an element it lacks is put at its end. -/
theorem nodup_concat {α : Type} {xs : List α} {x : α} (h : xs.Nodup) (hfresh : x ∉ xs) :
    (xs ++ [x]).Nodup := by
  refine List.nodup_append.mpr ⟨h, by simp, ?_⟩
  rintro a ha b hb rfl
  exact hfresh (List.mem_singleton.mp hb ▸ ha)

/-- One more element changes a list without repetition only if it is new. -/
theorem eraseDups_concat {α : Type} [BEq α] [LawfulBEq α] (xs : List α) (x : α) :
    (xs ++ [x]).eraseDups = if x ∈ xs then xs.eraseDups else xs.eraseDups ++ [x] := by
  rw [List.eraseDups_append]
  by_cases hx : x ∈ xs
  · simp [hx, List.removeAll]
  · simp [hx, List.removeAll, List.eraseDups_cons]

structure CallEdge where
  caller : String
  callee : String
  deriving DecidableEq, Inhabited

structure Dataset where
  functions : List String
  calls : List CallEdge
  code : List (String × String)
  functions_nodup : functions.Nodup
  code_nodup : (code.map (·.1)).Nodup
  deriving DecidableEq

namespace Dataset

def empty : Dataset := ⟨[], [], [], List.nodup_nil, List.nodup_nil⟩

instance : Inhabited Dataset := ⟨empty⟩

def isEmpty (d : Dataset) : Bool := d.functions.isEmpty && d.calls.isEmpty && d.code.isEmpty

def contains (d : Dataset) (name : String) : Bool := d.functions.contains name

/-- The callees of a name, in the order of the calls and as often. -/
def calleesOf (d : Dataset) (name : String) : List String :=
  (d.calls.filter (·.caller == name)).map (·.callee)

def hasEdge (d : Dataset) (caller callee : String) : Bool := d.calls.contains ⟨caller, callee⟩

/-- The calls whose callee is not a function. -/
def dangling (d : Dataset) : List CallEdge := d.calls.filter fun e => !d.contains e.callee

theorem mem_dangling {d : Dataset} {e : CallEdge} :
    e ∈ d.dangling ↔ e ∈ d.calls ∧ e.callee ∉ d.functions := by
  simp [dangling, contains]

/-- The text of a function, if it is known. -/
def codeOf? (d : Dataset) (name : String) : Option String := d.code.lookup name

/-- Sets the text of a name: a name that has one keeps its place. -/
def putCode (code : List (String × String)) (name text : String) : List (String × String) :=
  if code.any (·.1 == name) then
    code.map fun (k, v) => if k == name then (k, text) else (k, v)
  else code ++ [(name, text)]

theorem nodup_putCode {code : List (String × String)} (h : (code.map (·.1)).Nodup)
    (name text : String) : ((putCode code name text).map (·.1)).Nodup := by
  unfold putCode
  split
  · have hkeys : (code.map fun (k, v) => if k == name then (k, text) else (k, v)).map (·.1) =
        code.map (·.1) := by
      rw [List.map_map]
      refine List.map_congr_left fun entry _ => ?_
      simp only [Function.comp]
      split <;> rfl
    rw [hkeys]
    exact h
  · next habsent =>
    have hfresh : name ∉ code.map (·.1) := by
      simpa using habsent
    simp only [List.map_append, List.map_cons, List.map_nil]
    exact nodup_concat h hfresh

theorem nodup_foldl_putCode {α : Type} (entry : α → String × String) (xs : List α)
    (code : List (String × String)) (h : (code.map (·.1)).Nodup) :
    ((xs.foldl (fun code x => putCode code (entry x).1 (entry x).2) code).map (·.1)).Nodup := by
  induction xs generalizing code with
  | nil => exact h
  | cons x xs ih => exact ih _ (nodup_putCode h _ _)

end Dataset

end CallAtlas.Extract
