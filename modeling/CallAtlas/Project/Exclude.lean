import CallAtlas.Regex.Search

/-! # Exclude patterns

    The patterns of the configuration that leave out files. `?` is any character, `*` any text
    and `**` as a whole component any folders; `[...]` is a class and `[!...]` its complement.
    A file is left out if a pattern matches its path below the project's root or any step of
    that path.
-/

namespace CallAtlas.Project

open CallAtlas.Regex
open CallAtlas.Text

/-! ## Section 1: Items -/

inductive ExcludeItem where
  | literal (c : Char)
  | any
  | many
  | folders
  | bracket (negated : Bool) (ranges : List (Char × Char))
  deriving DecidableEq, Inhabited

/-- The ranges of a class; a hyphen between two characters makes a range. -/
def bracketRanges : List Char → List (Char × Char)
  | low :: '-' :: high :: rest => (low, high) :: bracketRanges rest
  | c :: rest => (c, c) :: bracketRanges rest
  | [] => []

/-- The text up to the next closing bracket, but at least one character, and what follows. -/
def splitBracket : List Char → Option (List Char × List Char)
  | [] => none
  | first :: rest =>
    match rest.dropWhile (· ≠ ']') with
    | ']' :: behind => some (first :: rest.takeWhile (· ≠ ']'), behind)
    | _ => none

/-! ## Section 2: Reading -/

/-- Adds `**`. Several of them in a row are one, unless they start the pattern. -/
def pushFolders (items : List ExcludeItem) : List ExcludeItem :=
  match items with
  | .folders :: _ :: _ => items
  | _ => .folders :: items

/-- Reads one item behind those already read, which stand from the last to the first. The
    character before is given, if there is one. -/
def readItem (items : List ExcludeItem) (previous : Option Char) (c : Char) (rest : List Char) :
    Option (List ExcludeItem × Char × List Char) :=
  match c, rest with
  | '?', _ => some (.any :: items, c, rest)
  | '*', '*' :: '*' :: _ => none
  | '*', '*' :: rest =>
    if previous ≠ none ∧ previous ≠ some '/' then none
    else
      match rest with
      | [] => some (pushFolders items, c, [])
      | '/' :: rest => some (pushFolders items, '/', rest)
      | _ => none
  | '*', _ => some (.many :: items, c, rest)
  | '[', '!' :: inner =>
    (splitBracket inner).map fun (members, rest) =>
      (.bracket true (bracketRanges members) :: items, ']', rest)
  | '[', inner =>
    (splitBracket inner).map fun (members, rest) =>
      (.bracket false (bracketRanges members) :: items, ']', rest)
  | _, _ => some (.literal c :: items, c, rest)

/-- Reads items up to the end. Every item takes at least one character, so that the length of
    the text bounds their number. -/
def readItems : Nat → List ExcludeItem → Option Char → List Char → Option (List ExcludeItem)
  | _, items, _, [] => some items.reverse
  | 0, _, _, _ :: _ => none
  | n + 1, items, previous, c :: rest =>
    match readItem items previous c rest with
    | some (items, last, rest) => readItems n items (some last) rest
    | none => none

/-! ## Section 3: Matching -/

def anyChar : Pattern := .one ⟨[(0, CharSet.lastCode)]⟩

def anyText : Pattern := .repeated 0 none anyChar

def ExcludeItem.pattern : ExcludeItem → Pattern
  | literal c => .one (.singleton c)
  | any => anyChar
  | many => anyText
  | folders =>
    .choice [.empty, .sequence [anyText, .one (.singleton '/')],
      .sequence [anyText, .look .textEnd]]
  | bracket negated ranges =>
    let members := CharSet.ofRanges
      ((ranges.filter fun (low, high) => low ≤ high).map fun (low, high) => (low.toNat, high.toNat))
    .one (if negated then members.complement else members)

/-- The pattern of a text; none if it is not a valid one. -/
def excludePattern? (text : String) : Option Pattern :=
  (readItems text.length [] none text.toList).map fun items => .sequence (items.map (·.pattern))

/-- A compiled pattern, or the text of one that is not valid. -/
inductive ExcludePattern where
  | valid (accepts : String → Bool)
  | invalid (text : String)

def ExcludePattern.ofText (text : String) : ExcludePattern :=
  match excludePattern? text with
  | some p => .valid fun s => p.matchesWhole s.toList
  | none => .invalid text

/-- Whether a pattern leaves out a file, given its path below the root. -/
def ExcludePattern.excludes (p : ExcludePattern) (path : List String) : Bool :=
  match p with
  | valid accepts => accepts ("/".intercalate path) || path.any accepts
  | invalid _ => false

/-- The invalid patterns that come up before one leaves out the file. -/
def invalidBefore (patterns : List ExcludePattern) (path : List String) : List String :=
  (patterns.takeWhile fun p => !p.excludes path).filterMap fun
    | .invalid text => some text
    | .valid _ => none

end CallAtlas.Project
