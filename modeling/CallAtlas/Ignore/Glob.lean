import CallAtlas.Regex.Search

/-! # Globs of ignore files

    The patterns of ignore files. `?` and `*` stay within a name, `**` as a whole component
    stands for any folders, `[...]` is a class of bytes, `\x7b...\x7d` lists alternatives, and a
    backslash takes away the meaning of the next character. A bracket that is never closed
    stands for itself, and so do all brackets behind it. A glob is matched against the bytes
    of a whole path.
-/

namespace CallAtlas.Ignore

open CallAtlas.Regex
open CallAtlas.Text

/-! ## Section 1: Glob items -/

inductive GlobItem where
  | literal (c : Char)
  /-- `?`, one byte of a name. -/
  | any
  /-- `*`, any bytes of a name. -/
  | many
  /-- `**` at the start, any folders or none. -/
  | foldersBefore
  /-- `**` at the end, anything below a folder. -/
  | foldersBehind
  /-- `**` between slashes, any folders or none. -/
  | foldersBetween
  | bracket (negated : Bool) (ranges : List (Char × Char))
  | alternatives (branches : List (List GlobItem))
  deriving Inhabited

abbrev Glob := List GlobItem

/-! ## Section 2: Brackets -/

/-- Extends the range that was begun last, given the ranges from the last to the first; none if
    it would end before it starts. -/
def extendRange (c : Char) : List (Char × Char) → Option (List (Char × Char))
  | (low, _) :: rest => if c < low then none else some ((low, c) :: rest)
  | [] => none

inductive BracketEnd where
  /-- The ranges, from the last to the first, and what follows the bracket. -/
  | closed (ranges : List (Char × Char)) (rest : List Char)
  | unclosed
  /-- A range that ends before it starts. -/
  | invalid
  deriving Inhabited

/-- Reads a bracket up to its end. A closing bracket or a hyphen that comes first stands for
    itself, and so does a hyphen that comes last. -/
def readBracket : List Char → (ranges : List (Char × Char)) → (isFirst inRange : Bool) → BracketEnd
  | [], _, _, _ => .unclosed
  | c :: rest, ranges, isFirst, inRange =>
    if c = ']' && !isFirst then
      .closed (if inRange then ('-', '-') :: ranges else ranges) rest
    else if c = '-' && !isFirst && !inRange then readBracket rest ranges false true
    else if inRange then
      match extendRange c ranges with
      | some ranges => readBracket rest ranges false false
      | none => .invalid
    else readBracket rest ((c, c) :: ranges) false false

/-! ## Section 3: Reading -/

/-- The state of reading. Items and branches stand from the last to the first. -/
structure GlobReader where
  items : Glob
  /-- For each list of alternatives that is open: the branches that are complete, and the
      items before the list. -/
  enclosing : List (List Glob × Glob)
  /-- The character before. -/
  previous : Option Char
  /-- Whether brackets stand for themselves from here on. -/
  plainBrackets : Bool
  deriving Inhabited

namespace GlobReader

def initial : GlobReader := ⟨[], [], none, false⟩

def push (r : GlobReader) (item : GlobItem) (last : Char) : GlobReader :=
  { r with items := item :: r.items, previous := some last }

/-- Replaces the separator before `**`. Folders before or behind take in those that follow. -/
def replaceLast (r : GlobReader) (item : GlobItem) (last : Char) : GlobReader :=
  match r.items with
  | .foldersBefore :: _ | .foldersBehind :: _ => { r with previous := some last }
  | _ :: items => { r with items := item :: items, previous := some last }
  | [] => { r with previous := some last }

/-- Reads on behind `**`. It stands for folders if it is a whole component, and otherwise is
    the same as two `*`. -/
def readDoubleStar (r : GlobReader) (rest : List Char) : GlobReader × List Char :=
  let plain := ((r.push .many '*').push .many '*', rest)
  if r.items.isEmpty then
    match rest with
    | [] => (r.push .foldersBefore '*', [])
    | '/' :: rest => (r.push .foldersBefore '/', rest)
    | _ => plain
  else
    let inside := !r.enclosing.isEmpty
    let startsComponent := r.previous == some '/'
      || (inside && (r.previous == some ',' || r.previous == some '\x7b'))
    if !startsComponent then plain
    else
      match rest with
      | [] => (r.replaceLast .foldersBehind '*', [])
      | '/' :: rest => (r.replaceLast .foldersBetween '/', rest)
      | c :: _ =>
        if inside && (c = ',' || c = '\x7d') then (r.replaceLast .foldersBehind '*', rest)
        else plain

/-- The branches of the alternatives that end here. -/
def closeBranches (r : GlobReader) (done : List Glob) : List Glob :=
  (r.items.reverse :: done).reverse

/-- Reads one item, given its first character and what follows. -/
def step (r : GlobReader) (c : Char) (rest : List Char) : Option (GlobReader × List Char) :=
  match c, rest with
  | '?', _ => some (r.push .any c, rest)
  | '*', '*' :: rest => some (r.readDoubleStar rest)
  | '*', _ => some (r.push .many c, rest)
  | '[', _ =>
    if r.plainBrackets then some (r.push (.literal c) c, rest)
    else
      let (negated, inner) := match rest with
        | '!' :: inner | '^' :: inner => (true, inner)
        | inner => (false, inner)
      match readBracket inner [] true false with
      | .closed ranges rest => some (r.push (.bracket negated ranges) ']', rest)
      | .unclosed => some ({ r.push (.literal c) c with plainBrackets := true }, rest)
      | .invalid => none
  | '\x7b', _ =>
    some ({ r with items := [], enclosing := ([], r.items) :: r.enclosing, previous := some c },
      rest)
  | '\x7d', _ =>
    match r.enclosing with
    | (done, before) :: outer =>
      some ({ r with
        items := .alternatives (r.closeBranches done) :: before
        enclosing := outer
        previous := some c }, rest)
    | [] => none
  | ',', _ =>
    match r.enclosing with
    | (done, before) :: outer =>
      some ({ r with
        items := []
        enclosing := (r.items.reverse :: done, before) :: outer
        previous := some c }, rest)
    | [] => some (r.push (.literal c) c, rest)
  | '\\', escaped :: rest => some (r.push (.literal escaped) escaped, rest)
  | '\\', [] => none
  | _, _ => some (r.push (.literal c) c, rest)

/-- Reads items up to the end. Every step takes at least one character, so that the length of
    the text bounds their number. -/
def run : Nat → GlobReader → List Char → Option Glob
  | _, r, [] => if r.enclosing.isEmpty then some r.items.reverse else none
  | 0, _, _ :: _ => none
  | n + 1, r, c :: rest =>
    match r.step c rest with
    | some (r, rest) => run n r rest
    | none => none

end GlobReader

/-- The glob of a text; none if it is not a valid one. -/
def Glob.ofText? (text : List Char) : Option Glob := GlobReader.initial.run text.length text

/-! ## Section 4: Matching -/

/-- The bytes of a text, each as the character of that number. -/
def byteChars (text : String) : List Char := text.toUTF8.toList.map fun b => Char.ofNat b.toNat

def anyByte : Pattern := .one ⟨[(0, 0xff)]⟩

/-- Any bytes. -/
def anyBytes : Pattern := .repeated 0 none anyByte

def slash : Pattern := .one (.singleton '/')

/-- One byte of a name. -/
def nameByte : Pattern := .one (CharSet.singleton '/').complement

/-- The bytes that a range of characters contributes to a class: all bytes of its ends, and
    those between the last byte of the lower end and the first byte of the upper. -/
def rangeBytes (low high : Char) : CodeRanges :=
  if low = high then (byteChars low.toString).map fun b => (b.toNat, b.toNat)
  else
    let below := (byteChars low.toString).map Char.toNat
    let above := (byteChars high.toString).map Char.toNat
    (below.dropLast ++ above.drop 1).map (fun b => (b, b))
      ++ [(below.getLastD 0, above.headD 0)]

mutual

/-- The pattern over bytes that an item stands for. -/
def GlobItem.pattern : GlobItem → Pattern
  | literal c => .sequence ((byteChars c.toString).map fun b => .one (.singleton b))
  | any => nameByte
  | many => .repeated 0 none nameByte
  | foldersBefore => .choice [.repeated 0 (some 1) slash, .sequence [anyBytes, slash]]
  | foldersBehind => .sequence [slash, anyBytes]
  | foldersBetween => .choice [slash, .sequence [slash, anyBytes, slash]]
  | bracket negated ranges =>
    let members := CharSet.ofRanges (ranges.flatMap fun (low, high) => rangeBytes low high)
    .one (if negated then members.complement else members)
  | alternatives branches =>
    match GlobItem.branchPatterns branches with
    | [] => .empty
    | ps => .choice ps

/-- The patterns of items. Alternatives of which none counts add nothing. -/
def GlobItem.patterns : List GlobItem → List Pattern
  | [] => []
  | item :: items =>
    match item.pattern with
    | .empty => GlobItem.patterns items
    | p => p :: GlobItem.patterns items

/-- The patterns of alternatives. Empty ones do not count. -/
def GlobItem.branchPatterns : List (List GlobItem) → List Pattern
  | [] => []
  | branch :: branches =>
    let rest := GlobItem.branchPatterns branches
    match GlobItem.patterns branch with
    | [] => rest
    | ps => .sequence ps :: rest

end

/-- The pattern that a glob stands for. Folders before nothing are everything. -/
def Glob.pattern : Glob → Pattern
  | [.foldersBefore] => anyBytes
  | items => .sequence (GlobItem.patterns items)

end CallAtlas.Ignore
