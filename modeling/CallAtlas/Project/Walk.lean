import CallAtlas.Extract.Language
import CallAtlas.Ignore.Rules
import CallAtlas.Log.Line
import CallAtlas.Project.Exclude

/-! # Walking a project

    The source files of a project, sorted by the steps of their paths. An entry that the ignore
    files drop, or whose name is barred, is left out with all that is below it. The root itself
    is never left out, whatever its name.
-/

namespace CallAtlas.Project

open CallAtlas.Extract
open CallAtlas.Files
open CallAtlas.Ignore

/-! ## Section 1: Files that are reached -/

/-- Names that no entry of a project may have. -/
def barredNames : List String := ["__pycache__", ".venv", "venv", ".tox"]

/-- The files below a path that are reached, given which entries are dropped: by their path
    below the root, and whether they are folders. -/
def reached (drops : List String → Bool → Bool) (path : List String) : Tree → List (List String)
  | .file _ => [path]
  | .folder names _ child => (List.finRange names.length).flatMap fun i =>
    let below := path ++ [names.get i]
    if drops below (child i).isFolder || barredNames.contains (names.get i) then []
    else reached drops below (child i)

/-! ## Section 2: Sources -/

/-- Whether a file is a source, by its extension. -/
def isSource (path : List String) : Bool :=
  match Path.extension? (path.getLastD "") with
  | some extension => isSourceExtension extension
  | none => false

/-- Whether a file that is reached is a source of the project. -/
def isEligible (exclude : List ExcludePattern) (path : List String) : Bool :=
  isSource path && !exclude.any (·.excludes path)

/-- Whether one path comes before another or is the same, by the first step in which they
    differ. -/
def pathLe : List String → List String → Bool
  | [], _ => true
  | _ :: _, [] => false
  | a :: as, b :: bs => if a = b then pathLe as bs else decide (a < b)

def sortPaths (paths : List (List String)) : List (List String) := paths.mergeSort pathLe

/-- The sources of a project, by their paths below its root. -/
def walk (drops : List String → Bool → Bool) (exclude : List ExcludePattern) (root : Tree) :
    List (List String) :=
  sortPaths ((reached drops [] root).filter (isEligible exclude))

/-! ## Section 3: Projects in a file system -/

/-- The rules that bear on the entries of a folder: those of the folders above it, then its
    own and those of the folders below it. -/
def rulesFor (fs : FileSystem) (location : List String) : List FolderRules :=
  let above := (List.range location.length).filterMap fun n =>
    (fs.root.at? (location.take n)).bind (FolderRules.of? (location.take n))
  match fs.root.at? location with
  | some t => above ++ collectRules location t
  | none => above

/-- Which entries of a folder are dropped. -/
def dropsBelow (rules : List FolderRules) (location path : List String) (isFolder : Bool) : Bool :=
  drops rules (location ++ path) isFolder

/-- What a walk says on its way. -/
inductive WalkNote where
  | invalidPattern (text : String)
  | found (path : String)
  deriving DecidableEq, Inhabited

/-- Why there is nothing to walk. -/
structure NotADirectory where
  path : String
  deriving DecidableEq, Inhabited

def NotADirectory.message (e : NotADirectory) : String := e.path ++ " is not a directory"

structure Walk where
  notes : List WalkNote
  sources : List String
  deriving DecidableEq, Inhabited

def notesOn (exclude : List ExcludePattern) (root : String) (path : List String) : List WalkNote :=
  (invalidBefore exclude path).map .invalidPattern
    ++ if isEligible exclude path then [.found (Path.join root (Path.text path))] else []

/-- Walks the project at a path. -/
def walkProject (fs : FileSystem) (root : String) (patterns : List String) :
    Except NotADirectory Walk :=
  match fs.locate root with
  | .error _ => .error ⟨root⟩
  | .ok location =>
    match (fs.root.at? location).filter Tree.isFolder with
    | none => .error ⟨root⟩
    | some folder =>
      let exclude := patterns.map .ofText
      let drops := dropsBelow (rulesFor fs location) location
      .ok {
        notes := (reached drops [] folder).flatMap (notesOn exclude root)
        sources := (walk drops exclude folder).map fun path => Path.join root (Path.text path) }

end CallAtlas.Project
