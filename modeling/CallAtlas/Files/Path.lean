/-! # Paths

    A path is a text of steps between slashes. Empty steps lead nowhere, but a path whose text
    ends in a slash has to end in a folder.
-/

namespace CallAtlas.Files

namespace Path

/-! ## Section 1: Steps -/

/-- The texts between the slashes of a path. -/
def segments (path : String) : List String := (path.toList.splitOn '/').map String.ofList

def steps (path : String) : List String := (segments path).filter (· ≠ "")

def isAbsolute (path : String) : Bool := path.startsWith "/"

/-- Whether only a folder can stand at a path. -/
def endsInSlash (path : String) : Bool := path.endsWith "/"

/-- The path of an entry of a folder. -/
def join (folder name : String) : String :=
  if folder.endsWith "/" then folder ++ name else folder ++ "/" ++ name

/-- The text of steps below a folder. -/
def text (steps : List String) : String := "/".intercalate steps

/-! ## Section 2: Parts of a path -/

/-- Drops steps that lead nowhere, from the last on. The first stays if the path starts with it. -/
def dropIdle : List String → List String
  | [] => []
  | [first] => [first]
  | step :: rest => if step = "" ∨ step = "." then dropIdle rest else step :: rest

/-- The folder that a path lies in, as it is written there; empty for a path of one step. -/
def parent (path : String) : String :=
  match dropIdle (segments path).reverse with
  | [] | [_] => ""
  | _ :: above =>
    match dropIdle above with
    | [""] => "/"
    | above => "/".intercalate above.reverse

/-- What follows the last dot of a name; none if there is no dot, or only one at the start. -/
def extension? (name : String) : Option String :=
  let backwards := name.toList.reverse
  match backwards.dropWhile (· != '.') with
  | _ :: _ :: _ => some (String.ofList (backwards.takeWhile (· != '.')).reverse)
  | _ => none

end Path

end CallAtlas.Files
