import CallAtlas.Files.Tree
import CallAtlas.Ignore.Rule

/-! # The ignore files of a tree

    A folder can have three ignore files. For each of them the verdict of the innermost folder
    that has one counts; of the three verdicts, `.ignore` goes before `.gitignore`, and that
    before `.git/info/exclude`. An entry on which there is no verdict is dropped if its name
    starts with a dot.
-/

namespace CallAtlas.Ignore

open CallAtlas.Files

/-- The rules of one folder. -/
structure FolderRules where
  folder : List String
  ignore : List Rule
  gitignore : List Rule
  gitExclude : List Rule
  deriving Inhabited

/-! ## Section 1: Collecting rules -/

def rulesAt (t : Tree) (location : List String) : List Rule :=
  match t.at? location with
  | some (.file bytes) => rulesOf bytes
  | _ => []

/-- The rules of a folder, none if there are none. -/
def FolderRules.of? (folder : List String) (t : Tree) : Option FolderRules :=
  let ignore := rulesAt t [".ignore"]
  let gitignore := rulesAt t [".gitignore"]
  let gitExclude := rulesAt t [".git", "info", "exclude"]
  if ignore.isEmpty && gitignore.isEmpty && gitExclude.isEmpty then none
  else some ⟨folder, ignore, gitignore, gitExclude⟩

/-- The rules of all folders of a tree, outer folders first. -/
def collectRules (location : List String) : Tree → List FolderRules
  | .file _ => []
  | .folder names distinct child =>
    (FolderRules.of? location (.folder names distinct child)).toList
      ++ (List.finRange names.length).flatMap fun i =>
        collectRules (location ++ [names.get i]) (child i)

/-! ## Section 2: Deciding -/

/-- Whether the rules of a folder bear on an entry: it lies below the folder. -/
def FolderRules.bears (r : FolderRules) (location : List String) : Bool :=
  r.folder.length < location.length && r.folder.isPrefixOf location

/-- The verdict on an entry, given the rules of all folders, outer folders first. -/
def verdictOn (rules : List FolderRules) (location : List String) (isFolder : Bool) :
    Option Verdict :=
  let above := (rules.filter (·.bears location)).reverse
  let innermost (select : FolderRules → List Rule) : Option Verdict :=
    above.findSome? fun r => verdict? (select r) (location.drop r.folder.length) isFolder
  (innermost (·.ignore)).orElse fun _ =>
    (innermost (·.gitignore)).orElse fun _ => innermost (·.gitExclude)

def isHidden (name : String) : Bool := name.startsWith "."

/-- Whether an entry is dropped. -/
def drops (rules : List FolderRules) (location : List String) (isFolder : Bool) : Bool :=
  match verdictOn rules location isFolder with
  | some .ignored => true
  | some .kept => false
  | none => isHidden (location.getLastD "")

end CallAtlas.Ignore
