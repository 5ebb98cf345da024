import CallAtlas.Extract.Extraction
import CallAtlas.Json.Record

/-! # Reading datasets and options

    The JSON forms of a dataset and of the extraction options.
-/

namespace CallAtlas.Extract

/-- The list without its repeats; each element stays where it is first. -/
def withoutRepeats (xs : List String) : List String := xs.foldl insertNew []

namespace CallEdge

def ofJson? (value : Json) : Option CallEdge :=
  match value.parts? ["caller", "callee"] with
  | some [caller, callee] => do
    return ⟨← Json.required Json.string? caller, ← Json.required Json.string? callee⟩
  | _ => none

end CallEdge

/-- Reads the texts of names from the fields of an object. -/
def codeOfJson? : Json → Option (List (String × String))
  | .object fields => fields.mapM fun (name, value) => value.string?.map (name, ·)
  | _ => none

namespace Dataset

def ofJson? (value : Json) : Option Dataset :=
  match value.parts? ["functions", "calls", "code"] with
  | some [functions, calls, code] => do
    let functions ← Json.required (Json.list? Json.string?) functions
    let calls ← Json.required (Json.list? CallEdge.ofJson?) calls
    let code ← Json.required codeOfJson? code
    return ⟨withoutRepeats functions, calls,
      code.foldl (fun code (name, text) => putCode code name text) [],
      nodup_foldl_insertNew id functions .nil, nodup_foldl_putCode id code [] .nil⟩
  | _ => none

def toJson (d : Dataset) : Json :=
  .object [("functions", .array (d.functions.map .string)),
    ("calls", .array (d.calls.map fun e =>
      .object [("caller", .string e.caller), ("callee", .string e.callee)])),
    ("code", .object (d.code.map fun (name, text) => (name, .string text)))]

end Dataset

namespace DuplicatePolicy

def words : List (String × DuplicatePolicy) := [("last-wins", .lastWins), ("union", .union)]

/-- The word for a policy. -/
def word : DuplicatePolicy → String
  | lastWins => "last-wins"
  | union => "union"

end DuplicatePolicy

namespace Options

def ofJson? (value : Json) : Option Options :=
  match value.parts? ["duplicates", "include_async", "max_source_bytes"] with
  | some [duplicates, includeAsync, maxSourceBytes] => do
    let duplicates ← Json.orDefault default.duplicates (Json.choice? DuplicatePolicy.words)
      duplicates
    let includeAsync ← Json.orDefault default.includeAsync Json.bool? includeAsync
    let maxSourceBytes ← Json.orDefault default.maxSourceBytes (Json.nullable Json.natural?)
      maxSourceBytes
    return ⟨duplicates, includeAsync, maxSourceBytes⟩
  | _ => none

end Options

end CallAtlas.Extract
