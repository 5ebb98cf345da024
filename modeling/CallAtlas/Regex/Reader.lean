import CallAtlas.Regex.Syntax
import CallAtlas.Text.Alphanumeric
import CallAtlas.Text.GeneralCategory
import CallAtlas.Text.WhiteSpace

/-! # Reading regular expressions

    From the text of a regular expression to its syntax. Look-around and references to groups
    are not part of the syntax. In verbose mode white space and comments are skipped.
-/

namespace CallAtlas.Regex

open CallAtlas.Text

/-! ## Section 1: Characters -/

/-- Characters with a meaning of their own, which a backslash takes away. -/
def isMeta (c : Char) : Bool := "\\.+*?()|[]\x7b\x7d^$#&-~".toList.contains c

/-- Characters that a backslash may stand before without effect. -/
def isEscapable (c : Char) : Bool :=
  isMeta c || (c.toNat < 0x80 && !c.isAlphanum && c != '<' && c != '>')

def hexValue? (c : Char) : Option Nat :=
  if '0' ≤ c && c ≤ '9' then some (c.toNat - '0'.toNat)
  else if 'a' ≤ c && c ≤ 'f' then some (c.toNat - 'a'.toNat + 10)
  else if 'A' ≤ c && c ≤ 'F' then some (c.toNat - 'A'.toNat + 10)
  else none

/-- The character with a code point, if there is one. -/
def charOfCode? (code : Nat) : Option Char :=
  if code < 0xD800 || (0xE000 ≤ code && code ≤ 0x10FFFF) then some (Char.ofNat code) else none

/-- Drops the rest of a line. -/
def skipLine : List Char → List Char
  | [] => []
  | c :: cs => if c = '\n' then cs else skipLine cs

theorem length_skipLine_le (cs : List Char) : (skipLine cs).length ≤ cs.length := by
  induction cs with
  | nil => simp [skipLine]
  | cons c cs ih =>
    by_cases h : c = '\n'
    · simp [skipLine, h]
    · simp only [skipLine, h, if_false, List.length_cons]
      omega

/-- In verbose mode, drops white space and comments. -/
def skip (verbose : Bool) (cs : List Char) : List Char :=
  if !verbose then cs
  else
    match cs with
    | [] => []
    | c :: rest =>
      if isWhiteSpace c then skip verbose rest
      else if c = '#' then skip verbose (skipLine rest)
      else c :: rest
termination_by cs.length
decreasing_by
  · simp
  · have := length_skipLine_le rest
    simp; omega

/-! ## Section 2: Escapes -/

/-- A fixed number of hexadecimal digits. -/
def readHexDigits (verbose : Bool) : Nat → Nat → List Char → Option (Nat × List Char)
  | 0, value, cs => some (value, cs)
  | _ + 1, _, [] => none
  | n + 1, value, c :: cs =>
    match hexValue? c with
    | none => none
    | some d => readHexDigits verbose n (value * 16 + d) (skip verbose cs)

/-- Everything up to a closing brace, and what follows it. -/
def readBraced (verbose : Bool) : Nat → List Char → Option (List Char × List Char)
  | 0, _ => none
  | fuel + 1, cs =>
    match skip verbose cs with
    | [] => none
    | c :: rest =>
      if c = '\x7d' then some ([], rest)
      else (readBraced verbose fuel rest).map fun (inner, rest) => (c :: inner, rest)

def hexNumber? (ds : List Char) : Option Nat :=
  ds.foldl (fun n d => match n, hexValue? d with
    | some n, some d => some (n * 16 + d)
    | _, _ => none) (some 0)

/-- The character of a hexadecimal escape, behind its letter. -/
def readHex (verbose : Bool) (digits : Nat) (cs : List Char) : Option (Expr × List Char) :=
  match skip verbose cs with
  | [] => none
  | '\x7b' :: rest =>
    match readBraced verbose (rest.length + 1) rest with
    | none => none
    | some (inner, rest) =>
      if inner.isEmpty then none
      else do
        let code ← hexNumber? inner
        if 0x100000000 ≤ code then none
        else (charOfCode? code).map fun c => (.literal c false, skip verbose rest)
  | cs => do
    let (code, rest) ← readHexDigits verbose digits 0 cs
    (charOfCode? code).map fun c => (.literal c (digits == 2), rest)

/-- Splits a list at the first place where `mark` stands. -/
def splitAt? (mark : List Char) : List Char → Option (List Char × List Char)
  | [] => none
  | c :: cs =>
    if mark.isPrefixOf (c :: cs) then some ([], (c :: cs).drop mark.length)
    else (splitAt? mark cs).map fun (before, behind) => (c :: before, behind)

/-- The property that a braced name asks for; the flag says that it is to be negated. -/
def queryOf (inner : List Char) : PropertyQuery × Bool :=
  match splitAt? ['!', '='] inner with
  | some (name, value) => (.valued (String.ofList name) (String.ofList value), true)
  | none =>
    match splitAt? [':'] inner with
    | some (name, value) => (.valued (String.ofList name) (String.ofList value), false)
    | none =>
      match splitAt? ['='] inner with
      | some (name, value) => (.valued (String.ofList name) (String.ofList value), false)
      | none => (.named (String.ofList inner), false)

/-- A class by property, behind its letter. -/
def readProperty (verbose negated : Bool) (cs : List Char) : Option (Expr × List Char) :=
  match skip verbose cs with
  | [] => none
  | '\x7b' :: rest =>
    (readBraced verbose (rest.length + 1) rest).map fun (inner, rest) =>
      let (query, flipped) := queryOf inner
      (.property query (negated != flipped), rest)
  | c :: rest =>
    if c = '\\' then none else some (.property (.named c.toString) negated, skip verbose rest)

def isBoundaryNameChar (c : Char) : Bool := c.isAlpha || c = '-'

/-- The name in braces behind a word boundary, up to its closing brace. -/
def readBoundaryName (verbose : Bool) : Nat → List Char → List Char × List Char
  | 0, cs => ([], cs)
  | fuel + 1, cs =>
    match cs with
    | c :: rest =>
      if isBoundaryNameChar c then
        let (name, rest) := readBoundaryName verbose fuel (skip verbose rest)
        (c :: name, rest)
      else ([], cs)
    | [] => ([], [])

/-- A word boundary, behind its letter: a plain one, or one with a name in braces. -/
def readBoundary (verbose : Bool) (cs : List Char) : Option (Expr × List Char) :=
  match cs with
  | '\x7b' :: rest =>
    match skip verbose rest with
    | [] => none
    | c :: inner =>
      if !isBoundaryNameChar c then some (.anchor .wordBoundary, cs)
      else
        let (name, rest) := readBoundaryName verbose (inner.length + 1) (c :: inner)
        match rest with
        | '\x7d' :: rest =>
          match String.ofList name with
          | "start" => some (.anchor .wordStart, rest)
          | "end" => some (.anchor .wordEnd, rest)
          | "start-half" => some (.anchor .wordStartHalf, rest)
          | "end-half" => some (.anchor .wordEndHalf, rest)
          | _ => none
        | _ => none
  | cs => some (.anchor .wordBoundary, cs)

/-- An escape, behind its backslash. -/
def readEscape (verbose : Bool) : List Char → Option (Expr × List Char)
  | [] => none
  | c :: rest =>
    match c with
    | 'x' => readHex verbose 2 rest
    | 'u' => readHex verbose 4 rest
    | 'U' => readHex verbose 8 rest
    | 'p' => readProperty verbose false rest
    | 'P' => readProperty verbose true rest
    | 'd' => some (.short .digit false, rest)
    | 'D' => some (.short .digit true, rest)
    | 's' => some (.short .space false, rest)
    | 'S' => some (.short .space true, rest)
    | 'w' => some (.short .word false, rest)
    | 'W' => some (.short .word true, rest)
    | 'a' => some (.literal '\x07' false, rest)
    | 'f' => some (.literal '\x0c' false, rest)
    | 't' => some (.literal '\t' false, rest)
    | 'n' => some (.literal '\n' false, rest)
    | 'r' => some (.literal '\r' false, rest)
    | 'v' => some (.literal '\x0b' false, rest)
    | 'A' => some (.anchor .textStart, rest)
    | 'z' => some (.anchor .textEnd, rest)
    | 'b' => readBoundary verbose rest
    | 'B' => some (.anchor .insideWordOrOutside, rest)
    | '<' => some (.anchor .wordStart, rest)
    | '>' => some (.anchor .wordEnd, rest)
    | c => if isEscapable c then some (.literal c false, rest) else none

/-! ## Section 3: Classes in brackets -/

/-- The classes of the form `[:name:]`. -/
def posixClasses : List (String × List (Nat × Nat)) :=
  [("alnum", [(0x30, 0x39), (0x41, 0x5a), (0x61, 0x7a)]), ("alpha", [(0x41, 0x5a), (0x61, 0x7a)]),
    ("ascii", [(0, 0x7f)]), ("blank", [(0x9, 0x9), (0x20, 0x20)]),
    ("cntrl", [(0, 0x1f), (0x7f, 0x7f)]), ("digit", [(0x30, 0x39)]), ("graph", [(0x21, 0x7e)]),
    ("lower", [(0x61, 0x7a)]), ("print", [(0x20, 0x7e)]),
    ("punct", [(0x21, 0x2f), (0x3a, 0x40), (0x5b, 0x60), (0x7b, 0x7e)]),
    ("space", [(0x9, 0xd), (0x20, 0x20)]), ("upper", [(0x41, 0x5a)]),
    ("word", [(0x30, 0x39), (0x41, 0x5a), (0x5f, 0x5f), (0x61, 0x7a)]),
    ("xdigit", [(0x30, 0x39), (0x41, 0x46), (0x61, 0x66)])]

/-- A class of the form `[:name:]`, behind its opening bracket; none if it has not that form. -/
def readPosix : List Char → Option (ClassItem × List Char)
  | ':' :: rest =>
    let (negated, rest) := match rest with
      | '^' :: rest => (true, rest)
      | rest => (false, rest)
    let name := rest.takeWhile (· != ':')
    match rest.drop name.length with
    | ':' :: ']' :: rest =>
      (posixClasses.lookup (String.ofList name)).map fun members => (.posix members negated, rest)
    | _ => none
  | _ => none

/-- One end of a range, or a class of its own. -/
def readClassAtom (verbose : Bool) : List Char → Option (Expr × List Char)
  | [] => none
  | '\\' :: rest => readEscape verbose rest
  | c :: rest => some (.literal c false, rest)

def classItemOf? : Expr → Option ClassItem
  | .literal c _ => some (.literal c)
  | .short cls negated => some (.short cls negated)
  | .property query negated => some (.property query negated)
  | _ => none

/-- A character, a class, or a range of characters. -/
def readClassRange (verbose : Bool) (cs : List Char) : Option (ClassItem × List Char) :=
  match readClassAtom verbose cs with
  | none => none
  | some (first, rest) =>
    match skip verbose rest with
    | [] => none
    | '-' :: behind =>
      match skip verbose behind with
      | [] => none
      | d :: behind =>
        if d = ']' || d = '-' then (classItemOf? first).map (·, skip verbose rest)
        else
          match readClassAtom verbose (d :: behind), first with
          | some (.literal high _, rest), .literal low _ =>
            if low ≤ high then some (.range low high, rest) else none
          | _, _ => none
    | rest => (classItemOf? first).map (·, rest)

/-- Dashes at the start of a class stand for themselves, and so does a closing bracket. -/
def readLeading (verbose : Bool) : Nat → List Char → List ClassItem × List Char
  | 0, cs => ([], cs)
  | fuel + 1, cs =>
    match cs with
    | '-' :: rest =>
      let (items, rest) := readLeading verbose fuel (skip verbose rest)
      (.literal '-' :: items, rest)
    | cs => ([], cs)

/-- What has been read of a class: the operand on the left, with its operation, and the items
    after it. -/
structure ClassProgress where
  pending : Option (ClassMembers × ClassOp)
  items : List ClassItem

def ClassProgress.members (p : ClassProgress) : ClassMembers :=
  match p.pending with
  | none => .items p.items
  | some (left, op) => .combine op left (.items p.items)

def ClassProgress.add (p : ClassProgress) (i : ClassItem) : ClassProgress :=
  { p with items := p.items ++ [i] }

def ClassProgress.combine (p : ClassProgress) (op : ClassOp) : ClassProgress :=
  ⟨some (p.members, op), []⟩

mutual

/-- A class, behind its opening bracket. -/
def readClass (verbose : Bool) : Nat → List Char → Option ((Bool × ClassMembers) × List Char)
  | 0, _ => none
  | fuel + 1, cs =>
    let cs := skip verbose cs
    let (negated, cs) := match cs with
      | '^' :: rest => (true, skip verbose rest)
      | cs => (false, cs)
    let (leading, cs) := readLeading verbose cs.length cs
    let (leading, cs) := match leading, cs with
      | [], ']' :: rest => ([.literal ']'], skip verbose rest)
      | leading, cs => (leading, cs)
    (readMembers verbose fuel ⟨none, leading⟩ cs).map fun (members, rest) =>
      ((negated, members), rest)

/-- The members of a class, up to and with its closing bracket. -/
def readMembers (verbose : Bool) : Nat → ClassProgress → List Char →
    Option (ClassMembers × List Char)
  | 0, _, _ => none
  | fuel + 1, progress, cs =>
    match skip verbose cs with
    | [] => none
    | '[' :: rest =>
      match readPosix rest with
      | some (item, rest) => readMembers verbose fuel (progress.add item) rest
      | none =>
        match readClass verbose fuel rest with
        | none => none
        | some ((negated, members), rest) =>
          readMembers verbose fuel (progress.add (.bracket negated members)) rest
    | ']' :: rest => some (progress.members, rest)
    | '&' :: '&' :: rest => readMembers verbose fuel (progress.combine .intersection) rest
    | '-' :: '-' :: rest => readMembers verbose fuel (progress.combine .difference) rest
    | '~' :: '~' :: rest => readMembers verbose fuel (progress.combine .symmetricDifference) rest
    | cs =>
      match readClassRange verbose cs with
      | none => none
      | some (item, rest) => readMembers verbose fuel (progress.add item) rest

end

/-! ## Section 4: Repetition -/

/-- A decimal number of at most 32 bits, with white space around it. -/
def readCount (verbose : Bool) : Nat → List Char → List Char → Option Nat × List Char
  | 0, _, cs => (none, cs)
  | fuel + 1, ds, cs =>
    match cs with
    | c :: rest =>
      if c.isDigit then readCount verbose fuel (ds ++ [c]) (skip verbose rest)
      else (finish ds, cs.dropWhile isWhiteSpace)
    | [] => (finish ds, [])
where
  finish (ds : List Char) : Option Nat :=
    if ds.isEmpty then none
    else
      let n := ds.foldl (fun n d => n * 10 + (d.toNat - '0'.toNat)) 0
      if n < 0x100000000 then some n else none

def readCountAt (verbose : Bool) (cs : List Char) : Option Nat × List Char :=
  readCount verbose (cs.length + 1) [] (cs.dropWhile isWhiteSpace)

/-- The bounds of a counted repetition, behind its opening brace, with a mark of laziness. -/
def readBounds (verbose : Bool) (cs : List Char) : Option ((Nat × Option Nat) × List Char) :=
  let (least, cs) := readCountAt verbose (skip verbose cs)
  let close (bounds : Nat × Option Nat) (cs : List Char) :
      Option ((Nat × Option Nat) × List Char) :=
    match cs with
    | '\x7d' :: rest =>
      match skip verbose rest with
      | '?' :: rest => some (bounds, rest)
      | rest => some (bounds, rest)
    | _ => none
  match least, cs with
  | some least, ',' :: rest =>
    match skip verbose rest with
    | '\x7d' :: rest => close (least, none) ('\x7d' :: rest)
    | rest =>
      match readCountAt verbose rest with
      | (some most, rest) => if least ≤ most then close (least, some most) rest else none
      | (none, _) => none
  | some least, cs => close (least, some least) cs
  | none, _ => none

/-- Repeats the last of the items read so far, which come in reverse; flags cannot be
    repeated. -/
def repeatLast (least : Nat) (most : Option Nat) : List Expr → Option (List Expr)
  | [] => none
  | .flags _ :: _ => none
  | e :: done => some (.repeated least most e :: done)

/-- Passes a mark of laziness. -/
def skipLazy : List Char → List Char
  | '?' :: rest => rest
  | cs => cs

/-! ## Section 5: Groups -/

def flagOf? : Char → Option Flag
  | 'i' => some .ignoreCase
  | 'm' => some .multiLine
  | 's' => some .dotAll
  | 'U' => some .swapGreed
  | 'u' => some .unicode
  | 'R' => some .crlf
  | 'x' => some .verbose
  | _ => none

/-- Flags up to a colon or a closing parenthesis, which stays. Each flag may be there once,
    and a dash once, not at the end. -/
def readFlags (negating : Bool) (afterDash : Bool) (done : FlagChanges) :
    List Char → Option (FlagChanges × List Char)
  | [] => none
  | c :: rest =>
    if c = ':' || c = ')' then if afterDash then none else some (done, c :: rest)
    else if c = '-' then if negating then none else readFlags true true done rest
    else
      match flagOf? c with
      | none => none
      | some flag =>
        if done.any (·.1 == flag) then none
        else readFlags negating false (done ++ [(flag, !negating)]) rest

def isNameChar (first : Bool) (c : Char) : Bool :=
  if first then c = '_' || (isAlphanumeric c && !GeneralCategory.decimalNumber.contains c
      && !GeneralCategory.otherNumber.contains c)
  else c = '_' || c = '.' || c = '[' || c = ']' || isAlphanumeric c

/-- The name of a group, up to and with its closing angle bracket. -/
def readGroupName (cs : List Char) : Option (String × List Char) :=
  let name := cs.takeWhile (· != '>')
  match name, cs.drop name.length with
  | c :: more, '>' :: rest =>
    if isNameChar true c && more.all (isNameChar false) then some (String.ofList name, rest)
    else none
  | _, _ => none

/-- What a parenthesis opens: a change of flags, or a group. -/
inductive Opening where
  | flags (changes : FlagChanges)
  | group (changes : FlagChanges) (name : Option String)

/-- What follows an opening parenthesis. -/
def readOpening (verbose : Bool) (cs : List Char) : Option (Opening × List Char) :=
  match skip verbose cs with
  | '?' :: '=' :: _ => none
  | '?' :: '!' :: _ => none
  | '?' :: '<' :: '=' :: _ => none
  | '?' :: '<' :: '!' :: _ => none
  | '?' :: 'P' :: '<' :: rest =>
    (readGroupName rest).map fun (name, rest) => (.group [] (some name), rest)
  | '?' :: '<' :: rest =>
    (readGroupName rest).map fun (name, rest) => (.group [] (some name), rest)
  | '?' :: rest =>
    match readFlags false false [] rest with
    | some (changes, ')' :: rest) => if changes.isEmpty then none else some (.flags changes, rest)
    | some (changes, ':' :: rest) => some (.group changes none, rest)
    | _ => none
  | cs => some (.group [] none, cs)

/-- Whether verbose mode is on after a change of flags. -/
def verboseAfter (verbose : Bool) (changes : FlagChanges) : Bool :=
  (changes.lookup .verbose).getD verbose

/-! ## Section 6: Expressions -/

/-- What remains to be read, with the mode and the names of the groups so far. -/
structure Progress where
  verbose : Bool
  names : List String
  rest : List Char

/-- The sequence of items that come in reverse. -/
def sequenceOf : List Expr → Expr
  | [] => .empty
  | [e] => e
  | es => .sequence es.reverse

/-- Alternatives that come in reverse. -/
def alternativesOf : List Expr → Expr
  | [e] => e
  | es => .alternatives es.reverse

/-- Reads up to a closing parenthesis, which stays, or the end. `items` is the sequence so
    far and `others` the alternatives before it, both in reverse. -/
def readBody : Nat → Progress → List Expr → List Expr → Option (Expr × Progress)
  | 0, _, _, _ => none
  | fuel + 1, p, items, others =>
    let finish (rest : List Char) : Option (Expr × Progress) :=
      some (alternativesOf (sequenceOf items :: others), { p with rest })
    let repeatWith (least : Nat) (most : Option Nat) (rest : List Char) :=
      match repeatLast least most items with
      | none => none
      | some items => readBody fuel { p with rest } items others
    match skip p.verbose p.rest with
    | [] => finish []
    | ')' :: rest => finish (')' :: rest)
    | '(' :: rest =>
      match readOpening p.verbose rest with
      | none => none
      | some (.flags changes, rest) =>
        readBody fuel { p with verbose := verboseAfter p.verbose changes, rest }
          (.flags changes :: items) others
      | some (.group changes name, rest) =>
        if name.any p.names.contains then none
        else
          match readBody fuel ⟨verboseAfter p.verbose changes, name.toList ++ p.names, rest⟩
              [] [] with
          | some (e, ⟨_, names, ')' :: rest⟩) =>
            readBody fuel ⟨p.verbose, names, rest⟩ (.group changes e :: items) others
          | _ => none
    | '|' :: rest => readBody fuel { p with rest } [] (sequenceOf items :: others)
    | '[' :: rest =>
      match readClass p.verbose (rest.length + 1) rest with
      | none => none
      | some ((negated, members), rest) =>
        readBody fuel { p with rest } (.bracket negated members :: items) others
    | '?' :: rest => repeatWith 0 (some 1) (skipLazy rest)
    | '*' :: rest => repeatWith 0 none (skipLazy rest)
    | '+' :: rest => repeatWith 1 none (skipLazy rest)
    | '\x7b' :: rest =>
      match readBounds p.verbose rest with
      | none => none
      | some ((least, most), rest) => repeatWith least most rest
    | '\\' :: rest =>
      match readEscape p.verbose rest with
      | none => none
      | some (e, rest) => readBody fuel { p with rest } (e :: items) others
    | '.' :: rest => readBody fuel { p with rest } (.dot :: items) others
    | '^' :: rest => readBody fuel { p with rest } (.anchor .lineStart :: items) others
    | '$' :: rest => readBody fuel { p with rest } (.anchor .lineEnd :: items) others
    | c :: rest => readBody fuel { p with rest } (.literal c false :: items) others

/-- Expressions may nest this deep. -/
def maxDepth : Nat := 250

/-- Reads a whole regular expression. -/
def Expr.ofString? (text : String) : Option Expr :=
  let cs := text.toList
  match readBody (cs.length + 1) ⟨false, [], cs⟩ [] [] with
  | some (e, ⟨_, _, []⟩) => if e.depth ≤ maxDepth then some e else none
  | _ => none

end CallAtlas.Regex
