import CallAtlas.Ignore.Glob
import CallAtlas.Text.WhiteSpace

/-! # Ignore rules

    An ignore file has a rule to a line. A rule ignores what its glob matches or, behind `!`,
    keeps it. The last rule that applies to an entry decides.
-/

namespace CallAtlas.Ignore

open CallAtlas.Regex
open CallAtlas.Text

inductive Verdict where
  | ignored
  | kept
  deriving DecidableEq, Inhabited

structure Rule where
  verdict : Verdict
  foldersOnly : Bool
  /-- Over the bytes of a path below the folder of the ignore file. -/
  pattern : Pattern
  deriving Inhabited

/-! ## Section 1: Reading a line -/

/-- A line without the blanks at its end, unless the last of them is escaped. -/
def trimLine (line : List Char) : List Char :=
  match line.reverse with
  | ' ' :: '\\' :: _ => line
  | cs => (cs.dropWhile isWhiteSpace).reverse

/-- A line without the slash that asks for folders, and whether there is one. -/
def splitFolderMark (line : List Char) : List Char × Bool :=
  match line.reverse with
  | '/' :: '\\' :: cs => (cs.reverse, true)
  | '/' :: cs => (cs.reverse, true)
  | _ => (line, false)

def startsWithFolders (line : List Char) : Bool :=
  "**/".toList.isPrefixOf line || line == "**".toList

/-- A glob without a slash matches in any folder. One that ends in `**` matches what is in a
    folder, not the folder. -/
def wholeGlob (anchored : Bool) (line : List Char) : List Char :=
  let line := if anchored || line.contains '/' || startsWithFolders line then line
    else "**/".toList ++ line
  if "/**".toList.isSuffixOf line then line ++ "/*".toList else line

/-- The verdict of a line, whether a slash anchors its glob to the folder, and the glob. -/
def splitMarks (line : List Char) : Verdict × Bool × List Char :=
  match line with
  | '\\' :: '!' :: _ | '\\' :: '#' :: _ => (.ignored, false, line.drop 1)
  | '!' :: '/' :: rest => (.kept, true, rest)
  | '!' :: rest => (.kept, false, rest)
  | '/' :: rest => (.ignored, true, rest)
  | _ => (.ignored, false, line)

/-- The rule of a line. Blank lines, comments and invalid globs are no rules. -/
def Rule.ofLine? (line : List Char) : Option Rule :=
  if line.head? = some '#' then none
  else
    let line := trimLine line
    if line.isEmpty then none
    else
      let (verdict, anchored, line) := splitMarks line
      let (line, foldersOnly) := splitFolderMark line
      (Glob.ofText? (wholeGlob anchored line)).map fun glob => ⟨verdict, foldersOnly, glob.pattern⟩

/-! ## Section 2: Reading a file -/

/-- A line without the carriage return that belongs to its end. -/
def dropReturn (line : List UInt8) : List UInt8 :=
  if line.getLast? = some 13 then line.dropLast else line

/-- The lines of a file, each without its end. The last one may have none. -/
def splitLines (bytes : List UInt8) : List (List UInt8) :=
  let lines := bytes.splitOnP (· == 10)
  let unended := lines.getLastD []
  lines.dropLast.map dropReturn ++ if unended.isEmpty then [] else [unended]

/-- The lines up to the first that is not valid UTF-8. -/
def readableLines : List (List UInt8) → List (List Char)
  | [] => []
  | line :: rest =>
    match String.fromUTF8? ⟨line.toArray⟩ with
    | some text => text.toList :: readableLines rest
    | none => []

/-- The rules of a file. Byte order marks at its start do not count. -/
def rulesOf (bytes : ByteArray) : List Rule :=
  match readableLines (splitLines bytes.toList) with
  | [] => []
  | first :: rest => (first.dropWhile (· == '\ufeff') :: rest).filterMap Rule.ofLine?

/-! ## Section 3: Applying rules -/

/-- Whether a rule applies to an entry, given its path below the folder of the rule. -/
def Rule.applies (r : Rule) (path : List String) (isFolder : Bool) : Bool :=
  (isFolder || !r.foldersOnly) && r.pattern.matchesWhole (byteChars ("/".intercalate path))

/-- What the last rule that applies says of an entry. -/
def verdict? (rules : List Rule) (path : List String) (isFolder : Bool) : Option Verdict :=
  (rules.reverse.find? fun r => r.applies path isFolder).map (·.verdict)

end CallAtlas.Ignore
