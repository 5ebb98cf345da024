import CallAtlas.Extract.Reader
import CallAtlas.Present.Presentation
import CallAtlas.Toml.Reader

/-! # Configuration

    What a configuration file sets: patterns of paths to leave out, the options of extraction,
    and those of presentation. Keys that are not known do not matter. A file of which any part
    cannot be read counts for nothing.
-/

namespace CallAtlas

open CallAtlas.Extract
open CallAtlas.Graph
open CallAtlas.Present

structure Config where
  exclude : Option (List String)
  extract : Extract.Options
  layout : LayoutOptions Float
  dangling : DanglingPolicy
  deriving Inhabited

namespace Config

/-- The name of the file. -/
def fileName : String := "code-flow.toml"

def default : Config := ⟨none, .default, .default, .leaveOut⟩

/-! ## Section 1: Sections of the file -/

def extractOfToml? (value : Toml) : Option Extract.Options :=
  match value.parts? ["duplicates", "include_async", "max_source_bytes"] with
  | some [duplicates, includeAsync, maxSourceBytes] => do
    let base := Extract.Options.default
    return ⟨← Toml.orDefault base.duplicates (Toml.choice? DuplicatePolicy.words) duplicates,
      ← Toml.orDefault base.includeAsync Toml.bool? includeAsync,
      ← Toml.orDefault base.maxSourceBytes (fun v => v.natural?.map some) maxSourceBytes⟩
  | _ => none

def layoutOfToml? (value : Toml) : Option (LayoutOptions Float) :=
  match value.parts? ["node_width", "node_height", "node_sep", "rank_sep"] with
  | some [nodeWidth, nodeHeight, nodeGap, rankGap] => do
    let base := LayoutOptions.default
    return ⟨← Toml.orDefault base.nodeWidth Toml.float? nodeWidth,
      ← Toml.orDefault base.nodeHeight Toml.float? nodeHeight,
      ← Toml.orDefault base.nodeGap Toml.float? nodeGap,
      ← Toml.orDefault base.rankGap Toml.float? rankGap⟩
  | _ => none

def danglingOfToml? (value : Toml) : Option DanglingPolicy :=
  match value.parts? ["dangling"] with
  | some [dangling] => Toml.orDefault .leaveOut (Toml.choice? DanglingPolicy.words) dangling
  | _ => none

/-! ## Section 2: The file -/

/-- The configuration that a table sets; none if a value is not of the kind its key asks for. -/
def ofTable? (fields : List (String × Toml)) : Option Config := do
  let exclude ← Toml.orDefault none (fun v => (v.list? Toml.string?).map some)
    (fields.lookup "exclude")
  let extract ← Toml.orDefault default.extract extractOfToml? (fields.lookup "extract")
  let layout ← Toml.orDefault default.layout layoutOfToml? (fields.lookup "layout")
  let dangling ← Toml.orDefault default.dangling danglingOfToml? (fields.lookup "present")
  return ⟨exclude, extract, layout, dangling⟩

/-- The configuration of a text. -/
def ofText? (text : String) : Option Config := (Toml.parse text).bind ofTable?

/-- The options of presentation, from two sections of the file. -/
def presentOptions (c : Config) : Present.Options := ⟨c.dangling, c.layout⟩

/-- Whether two configurations are equal; one that holds a value that is not a number is not
    equal to any. -/
def equals (a b : Config) : Bool :=
  a.exclude == b.exclude && a.extract == b.extract && a.dangling == b.dangling
    && a.layout.nodeWidth == b.layout.nodeWidth && a.layout.nodeHeight == b.layout.nodeHeight
    && a.layout.nodeGap == b.layout.nodeGap && a.layout.rankGap == b.layout.rankGap

end Config

end CallAtlas
