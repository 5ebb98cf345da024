import CallAtlas.Decimal.Reading
import CallAtlas.Toml.Document
import CallAtlas.Toml.Moment

/-! # Reading TOML text

    TOML 1.0. Integers have 64 bits. A float too large for a double is refused, but a negative
    one is minus infinity. Arrays and tables in values nest less than 80 deep, and keys have
    less than 80 parts.
-/

namespace CallAtlas.Toml

open CallAtlas.Decimal

/-! ## Section 1: Blanks, comments and line ends -/

def skipBlanks : List Char → List Char
  | [] => []
  | c :: rest => if c = ' ' || c = '\t' then skipBlanks rest else c :: rest

/-- Whether a character may stand in a comment. -/
def isCommentChar (c : Char) : Bool := c = '\t' || (' ' ≤ c && c ≤ '~') || 0x80 ≤ c.toNat

/-- Passes a comment, if there is one. -/
def skipComment : List Char → List Char
  | '#' :: rest => rest.dropWhile isCommentChar
  | cs => cs

/-- Passes a line end. -/
def readNewline : List Char → Option (List Char)
  | '\n' :: rest => some rest
  | '\r' :: '\n' :: rest => some rest
  | _ => none

/-- The rest of a line: blanks and a comment, then the end of the line or of the text. -/
def readLineEnd (cs : List Char) : Option (List Char) :=
  match skipComment (skipBlanks cs) with
  | [] => some []
  | cs => readNewline cs

/-- Blanks, comments and line ends inside an array. -/
def skipLayout : Nat → List Char → List Char
  | 0, cs => cs
  | fuel + 1, cs =>
    match skipComment (skipBlanks cs) with
    | [] => []
    | cs =>
      match readNewline cs with
      | some rest => skipLayout fuel rest
      | none => cs

/-! ## Section 2: Strings -/

def hexDigit? (c : Char) : Option Nat :=
  if '0' ≤ c && c ≤ '9' then some (c.toNat - '0'.toNat)
  else if 'a' ≤ c && c ≤ 'f' then some (c.toNat - 'a'.toNat + 10)
  else if 'A' ≤ c && c ≤ 'F' then some (c.toNat - 'A'.toNat + 10)
  else none

/-- The character with a code of exactly so many hexadecimal digits. -/
def readCode : Nat → Nat → List Char → Option (Char × List Char)
  | 0, code, cs =>
    if code < 0xD800 || (0xE000 ≤ code && code ≤ 0x10FFFF) then some (Char.ofNat code, cs) else none
  | n + 1, code, c :: cs =>
    match hexDigit? c with
    | some d => readCode n (code * 16 + d) cs
    | none => none
  | _ + 1, _, [] => none

/-- The character of an escape, behind its backslash. -/
def readEscape : List Char → Option (Char × List Char)
  | 'b' :: rest => some ('\x08', rest)
  | 't' :: rest => some ('\t', rest)
  | 'n' :: rest => some ('\n', rest)
  | 'f' :: rest => some ('\x0c', rest)
  | 'r' :: rest => some ('\r', rest)
  | '"' :: rest => some ('"', rest)
  | '\\' :: rest => some ('\\', rest)
  | 'u' :: rest => readCode 4 0 rest
  | 'U' :: rest => readCode 8 0 rest
  | _ => none

/-- Whether a character may stand in a string as it is. -/
def isPlain (c : Char) : Bool := c = '\t' || (' ' ≤ c && c ≤ '~') || 0x80 ≤ c.toNat

/-- A string with escapes on one line, behind its opening quote. -/
def readBasic : Nat → List Char → Option (List Char × List Char)
  | 0, _ => none
  | _ + 1, [] => none
  | fuel + 1, c :: rest =>
    if c = '"' then some ([], rest)
    else if c = '\\' then
      match readEscape rest with
      | none => none
      | some (x, rest) => (readBasic fuel rest).map fun (xs, rest) => (x :: xs, rest)
    else if isPlain c then (readBasic fuel rest).map fun (xs, rest) => (c :: xs, rest)
    else none

/-- A string without escapes on one line, behind its opening quote. -/
def readLiteral : List Char → Option (List Char × List Char)
  | [] => none
  | c :: rest =>
    if c = '\'' then some ([], rest)
    else if isPlain c then (readLiteral rest).map fun (xs, rest) => (c :: xs, rest)
    else none

/-- How many of the given quote stand at the start. -/
def quoteRun (quote : Char) (cs : List Char) : Nat := (cs.takeWhile (· == quote)).length

/-- The end of a string of several lines at a run of three or more quotes: the last three
    close it, and at most two more belong to it. -/
def closeRun (quote : Char) (run : Nat) (cs : List Char) : Option (List Char × List Char) :=
  let extra := min (run - 3) 2
  some (List.replicate extra quote, cs.drop (extra + 3))

/-- Blanks and line ends behind a backslash at the end of a line. -/
def skipFolded : Nat → List Char → List Char
  | 0, cs => cs
  | fuel + 1, cs =>
    match skipBlanks cs with
    | '\n' :: rest => skipFolded fuel rest
    | '\r' :: '\n' :: rest => skipFolded fuel rest
    | cs => cs

/-- A string with escapes on several lines, behind its opening quotes. -/
def readMultiBasic : Nat → List Char → Option (List Char × List Char)
  | 0, _ => none
  | _ + 1, [] => none
  | fuel + 1, c :: rest =>
    if c = '"' then
      let run := quoteRun '"' (c :: rest)
      if 3 ≤ run then closeRun '"' run (c :: rest)
      else (readMultiBasic fuel rest).map fun (xs, rest) => (c :: xs, rest)
    else if c = '\\' then
      match readNewline (skipBlanks rest) with
      | some behind => readMultiBasic fuel (skipFolded behind.length behind)
      | none =>
        match readEscape rest with
        | none => none
        | some (x, rest) => (readMultiBasic fuel rest).map fun (xs, rest) => (x :: xs, rest)
    else
      match readNewline (c :: rest) with
      | some behind => (readMultiBasic fuel behind).map fun (xs, rest) => ('\n' :: xs, rest)
      | none =>
        if isPlain c then (readMultiBasic fuel rest).map fun (xs, rest) => (c :: xs, rest) else none

/-- A string without escapes on several lines, behind its opening quotes. -/
def readMultiLiteral : Nat → List Char → Option (List Char × List Char)
  | 0, _ => none
  | _ + 1, [] => none
  | fuel + 1, c :: rest =>
    if c = '\'' then
      let run := quoteRun '\'' (c :: rest)
      if 3 ≤ run then closeRun '\'' run (c :: rest)
      else (readMultiLiteral fuel rest).map fun (xs, rest) => (c :: xs, rest)
    else
      match readNewline (c :: rest) with
      | some behind => (readMultiLiteral fuel behind).map fun (xs, rest) => ('\n' :: xs, rest)
      | none =>
        if isPlain c then (readMultiLiteral fuel rest).map fun (xs, rest) => (c :: xs, rest)
        else none

/-- A line end right behind the opening quotes does not count. -/
def skipFirstNewline (cs : List Char) : List Char := (readNewline cs).getD cs

def readString (cs : List Char) : Option (String × List Char) :=
  let found := match cs with
    | '"' :: '"' :: '"' :: rest => readMultiBasic (rest.length + 1) (skipFirstNewline rest)
    | '\'' :: '\'' :: '\'' :: rest => readMultiLiteral (rest.length + 1) (skipFirstNewline rest)
    | '"' :: rest => readBasic (rest.length + 1) rest
    | '\'' :: rest => readLiteral rest
    | _ => none
  found.map fun (xs, rest) => (String.ofList xs, rest)

/-! ## Section 3: Keys -/

def isBareKeyChar (c : Char) : Bool := c.isAlphanum || c = '_' || c = '-'

/-- One part of a key. -/
def readSimpleKey (cs : List Char) : Option (String × List Char) :=
  match cs with
  | '"' :: rest => (readBasic (rest.length + 1) rest).map fun (xs, rest) => (String.ofList xs, rest)
  | '\'' :: rest => (readLiteral rest).map fun (xs, rest) => (String.ofList xs, rest)
  | cs =>
    let key := cs.takeWhile isBareKeyChar
    if key.isEmpty then none else some (String.ofList key, cs.drop key.length)

/-- The parts of a key, with blanks around each. -/
def readKeyParts : Nat → List Char → Option (List String × List Char)
  | 0, _ => none
  | fuel + 1, cs =>
    match readSimpleKey (skipBlanks cs) with
    | none => none
    | some (part, rest) =>
      match skipBlanks rest with
      | '.' :: rest => (readKeyParts fuel rest).map fun (parts, rest) => (part :: parts, rest)
      | rest => some ([part], rest)

/-- Keys and values may not reach this depth. -/
def depthLimit : Nat := 80

/-- The parts of a key but the last, and the last. -/
def readKey (cs : List Char) : Option ((List String × String) × List Char) :=
  match readKeyParts (cs.length + 1) cs with
  | none => none
  | some (parts, rest) =>
    match parts.getLast? with
    | none => none
    | some last => if depthLimit ≤ parts.length then none else some ((parts.dropLast, last), rest)

/-! ## Section 4: Numbers -/

/-- Digits with single underscores between them, at least one; none if an underscore stands
    without a digit behind it. -/
def readDigits (isDigit : Char → Bool) : List Char → Option (List Char × List Char)
  | [] => none
  | c :: rest => if isDigit c then more [c] rest else none
where
  more (done : List Char) : List Char → Option (List Char × List Char)
    | '_' :: d :: rest => if isDigit d then more (done ++ [d]) rest else none
    | ['_'] => none
    | d :: rest => if isDigit d then more (done ++ [d]) rest else some (done, d :: rest)
    | [] => some (done, [])

/-- A whole number without leading zeros. -/
def readWhole (cs : List Char) : Option (List Char × List Char) :=
  match cs with
  | '0' :: rest => some (['0'], rest)
  | cs => readDigits Char.isDigit cs

def readSign : List Char → Bool × List Char
  | '+' :: rest => (false, rest)
  | '-' :: rest => (true, rest)
  | cs => (false, cs)

/-- An integer of 64 bits. -/
def integer? (negative : Bool) (n : Nat) : Option Toml :=
  if negative then if n ≤ 0x8000000000000000 then some (.integer (-(n : Int))) else none
  else if n < 0x8000000000000000 then some (.integer n) else none

/-- An integer in another base, behind its mark. -/
def readBased (base : Nat) (cs : List Char) : Option (Toml × List Char) :=
  let isDigit (c : Char) : Bool := (hexDigit? c).any (· < base)
  match readDigits isDigit cs with
  | none => none
  | some (ds, rest) =>
    let n := ds.foldl (fun n d => n * base + (hexDigit? d).getD 0) 0
    (integer? false n).map (·, rest)

/-- The exponent of a float, if there is one. -/
def readExponent : List Char → Option (Option Int × List Char)
  | c :: rest =>
    if c = 'e' || c = 'E' then
      let (negative, rest) := readSign rest
      (readDigits Char.isDigit rest).map fun (ds, rest) =>
        let n : Int := (digitsValue ds : Nat)
        (some (if negative then -n else n), rest)
    else some (none, c :: rest)
  | [] => some (none, [])

/-- The float with these parts. -/
def makeFloat (negative : Bool) (digits : List Char) (exponent : Int) : Option Toml :=
  match toFloat? (digitsValue digits) exponent, negative with
  | some x, true => some (.float (-x))
  | some x, false => some (.float x)
  | none, true => some (.float (-(1.0 / 0.0)))
  | none, false => none

/-- A decimal number. -/
def readDecimal (negative : Bool) (cs : List Char) : Option (Toml × List Char) :=
  match readWhole cs with
  | none => none
  | some (whole, '.' :: rest) =>
    match readDigits Char.isDigit rest with
    | none => none
    | some (fraction, rest) =>
      match readExponent rest with
      | none => none
      | some (exponent, rest) =>
        (makeFloat negative (whole ++ fraction) (exponent.getD 0 - fraction.length)).map (·, rest)
  | some (whole, rest) =>
    match readExponent rest with
    | none => none
    | some (some exponent, rest) => (makeFloat negative whole exponent).map (·, rest)
    | some (none, rest) => (integer? negative (digitsValue whole)).map (·, rest)

/-- A number, or one of the words for infinity and not a number. -/
def readNumber (cs : List Char) : Option (Toml × List Char) :=
  match cs with
  | '0' :: 'x' :: rest => readBased 16 rest
  | '0' :: 'o' :: rest => readBased 8 rest
  | '0' :: 'b' :: rest => readBased 2 rest
  | cs =>
    let (negative, cs) := readSign cs
    let signed (x : Float) : Toml := .float (if negative then -x else x)
    match cs with
    | 'i' :: 'n' :: 'f' :: rest => some (signed (1.0 / 0.0), rest)
    | 'n' :: 'a' :: 'n' :: rest => some (signed (0.0 / 0.0), rest)
    | cs => readDecimal negative cs

/-! ## Section 5: Values -/

mutual

/-- A value that is `depth` arrays and tables deep. -/
def readValue : Nat → Nat → List Char → Option (Toml × List Char)
  | 0, _, _ => none
  | fuel + 1, depth, cs =>
    match cs with
    | [] => none
    | '[' :: rest => if depthLimit ≤ depth + 1 then none else readItems fuel (depth + 1) [] rest
    | '\x7b' :: rest =>
      if depthLimit ≤ depth + 1 then none
      else
        match skipBlanks rest with
        | '\x7d' :: rest => some (.table [], rest)
        | rest => readFields fuel (depth + 1) .root rest
    | 't' :: 'r' :: 'u' :: 'e' :: rest => some (.bool true, rest)
    | 'f' :: 'a' :: 'l' :: 's' :: 'e' :: rest => some (.bool false, rest)
    | c :: rest =>
      if c = '"' || c = '\'' then
        (readString (c :: rest)).map fun (s, rest) => (.string s, rest)
      else if c.isDigit then
        match readMoment (c :: rest) with
        | .moment rest => some (.moment, rest)
        | .invalid => none
        | .notMoment => readNumber (c :: rest)
      else readNumber (c :: rest)

/-- The items of an array, behind those read so far, up to and with its closing bracket. -/
def readItems : Nat → Nat → List Toml → List Char → Option (Toml × List Char)
  | 0, _, _, _ => none
  | fuel + 1, depth, done, cs =>
    match skipLayout (cs.length + 1) cs with
    | ']' :: rest => some (.array done, rest)
    | cs =>
      match readValue fuel depth cs with
      | none => none
      | some (item, rest) =>
        match skipLayout (rest.length + 1) rest with
        | ',' :: rest => readItems fuel depth (done ++ [item]) rest
        | ']' :: rest => some (.array (done ++ [item]), rest)
        | _ => none

/-- The fields of a table on one line, behind those read so far, up to and with its closing
    brace. -/
def readFields : Nat → Nat → OpenTable → List Char → Option (Toml × List Char)
  | 0, _, _, _ => none
  | fuel + 1, depth, before, cs =>
    match readKey cs with
    | some ((path, key), '=' :: rest) =>
      match readValue fuel depth (skipBlanks rest) with
      | none => none
      | some (v, rest) =>
        match addValue path key v before with
        | none => none
        | some after =>
          match skipBlanks rest with
          | ',' :: rest => readFields fuel depth after rest
          | '\x7d' :: rest => some (.table (freezeEntries after.entries), rest)
          | _ => none
    | _ => none

end

/-! ## Section 6: Documents -/

/-- A document under construction and the path of the table that is open. -/
structure Progress where
  root : OpenTable
  path : List String

/-- A key and its value, with the rest of the line. -/
def readKeyValue (p : Progress) (cs : List Char) : Option (Progress × List Char) :=
  match readKey cs with
  | some ((path, key), '=' :: rest) =>
    match readValue (rest.length + 1) 0 (skipBlanks rest) with
    | none => none
    | some (v, rest) =>
      match descend false (addValue path key v) p.path p.root, readLineEnd rest with
      | some root, some rest => some ({ p with root }, rest)
      | _, _ => none
  | _ => none

/-- A header, with the rest of the line. -/
def readHeader (p : Progress) (cs : List Char) : Option (Progress × List Char) :=
  match cs with
  | '[' :: '[' :: rest =>
    match readKey rest with
    | some ((path, key), ']' :: ']' :: rest) =>
      match addElement path key p.root, readLineEnd rest with
      | some root, some rest => some (⟨root, path ++ [key]⟩, rest)
      | _, _ => none
    | _ => none
  | '[' :: rest =>
    match readKey rest with
    | some ((path, key), ']' :: rest) =>
      match addTable path key p.root, readLineEnd rest with
      | some root, some rest => some (⟨root, path ++ [key]⟩, rest)
      | _, _ => none
    | _ => none
  | _ => none

/-- The lines of a document. -/
def readLines : Nat → Progress → List Char → Option Progress
  | 0, _, _ => none
  | fuel + 1, p, cs =>
    match skipBlanks cs with
    | [] => some p
    | '[' :: rest =>
      match readHeader p ('[' :: rest) with
      | none => none
      | some (p, rest) => readLines fuel p rest
    | c :: rest =>
      if c = '#' || c = '\n' || c = '\r' then
        match readLineEnd (c :: rest) with
        | none => none
        | some rest => readLines fuel p rest
      else
        match readKeyValue p (c :: rest) with
        | none => none
        | some (p, rest) => readLines fuel p rest

/-- Reads a whole document; a byte order mark at its start is passed. -/
def parse (text : String) : Option (List (String × Toml)) :=
  let cs := match text.toList with
    | '\ufeff' :: rest => rest
    | cs => cs
  (readLines (cs.length + 1) ⟨.root, []⟩ cs).map fun p => freezeEntries p.root.entries

end CallAtlas.Toml
