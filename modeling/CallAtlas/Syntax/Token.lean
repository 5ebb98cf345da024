import CallAtlas.Grammar.Reading
import CallAtlas.Syntax.Grammar
import CallAtlas.Syntax.Offside
import CallAtlas.Text.Identifier

/-! # Tokens of Python text

    The characters that make up each class of tokens, and the tokenizer that the grammar is
    read with. A class is given by the length of the longest text of the class that starts a
    list of characters. Among the tokens that are expected the strongest class wins, then the
    longest text.
-/

namespace CallAtlas.Syntax

open CallAtlas.Text
open CallAtlas.Grammar (Table TokenSet Tokenizer Lexeme)

/-! ## Section 1: Classes of text -/

namespace TokenClass

/-- Length of the longest prefix of characters that satisfy `p`. -/
def span (p : Char → Bool) : List Char → Nat
  | [] => 0
  | c :: rest => if p c then span p rest + 1 else 0

def positive (n : Nat) : Option Nat := if n = 0 then none else some n

def identifier : List Char → Option Nat
  | [] => none
  | c :: rest => if Identifier.isStart c then some (span Identifier.isContinue rest + 1) else none

/-- Groups of decimal digits, each of which one underscore may follow. -/
def digits : List Char → Nat
  | [] => 0
  | [c] => if c.isDigit then 1 else 0
  | c :: d :: rest =>
    if !c.isDigit then 0
    else if d = '_' then digits rest + 2
    else digits (d :: rest) + 1

/-- Groups of characters of a class, each of which one underscore may precede. -/
def grouped (p : Char → Bool) : List Char → Nat
  | [] => 0
  | [c] => if p c then 1 else 0
  | c :: d :: rest =>
    if p c then grouped p (d :: rest) + 1
    else if c = '_' && p d then grouped p rest + 2
    else 0

def isHex (c : Char) : Bool :=
  c.isDigit || ('a' ≤ c && c ≤ 'f') || ('A' ≤ c && c ≤ 'F')

def isOctal (c : Char) : Bool := '0' ≤ c && c ≤ '7'

def isBinary (c : Char) : Bool := c = '0' || c = '1'

/-- One if the list starts with one of the characters. -/
def suffix (allowed : List Char) : List Char → Nat
  | [] => 0
  | c :: _ => if allowed.contains c then 1 else 0

/-- A number with a base in front. -/
def based (marks : List Char) (p : Char → Bool) : List Char → Option Nat
  | '0' :: mark :: rest =>
    let n := grouped p rest
    if marks.contains mark && 0 < n then some (n + 2 + suffix ['l', 'L'] (rest.drop n)) else none
  | _ => none

def decimal (cs : List Char) : Option Nat :=
  let n := digits cs
  if n = 0 then none else some (n + suffix ['l', 'L', 'j', 'J'] (cs.drop n))

def integer (cs : List Char) : Option Nat :=
  ((based ['x', 'X'] isHex cs).orElse fun _ =>
    (based ['o', 'O'] isOctal cs).orElse fun _ => based ['b', 'B'] isBinary cs).orElse
      fun _ => decimal cs

/-- Length of an exponent, zero if there is none. -/
def exponent : List Char → Nat
  | c :: rest =>
    if c = 'e' || c = 'E' then
      let sign := suffix ['+', '-'] rest
      let n := digits (rest.drop sign)
      if n = 0 then 0 else n + sign + 1
    else 0
  | [] => 0

def float (cs : List Char) : Option Nat :=
  let whole := digits cs
  let mantissa := match cs.drop whole with
    | '.' :: rest =>
      let fraction := digits rest
      if whole + fraction = 0 then 0 else whole + 1 + fraction
    | _ => 0
  let n := if mantissa = 0 then
      let e := exponent (cs.drop whole)
      if whole = 0 || e = 0 then 0 else whole + e
    else mantissa + exponent (cs.drop mantissa)
  if n = 0 then none else some (n + suffix ['j', 'J'] (cs.drop n))

def typeConversion : List Char → Option Nat
  | '!' :: c :: _ => if 'a' ≤ c && c ≤ 'z' then some 2 else none
  | _ => none

def formatText (cs : List Char) : Option Nat :=
  positive (span (fun c => c != '{' && c != '}' && c != '\n') cs)

def comment : List Char → Option Nat
  | '#' :: rest => some (span (· != '\n') rest + 1)
  | _ => none

def lineContinuation : List Char → Option Nat
  | '\\' :: '\n' :: _ => some 2
  | '\\' :: '\r' :: '\n' :: _ => some 3
  | '\\' :: c :: _ => if c = Char.ofNat 0 then some 2 else none
  | _ => none

/-- Whether at least `n` characters of a class follow. -/
def atLeast (n : Nat) (p : Char → Bool) (cs : List Char) : Bool := n ≤ span p cs

/-- A character given by its name in braces. -/
def namedCharacter : List Char → Option Nat
  | 'N' :: '{' :: rest =>
    let n := span (· != '}') rest
    if 0 < n && n < rest.length then some (n + 4) else none
  | _ => none

def escapeSequence : List Char → Option Nat
  | '\\' :: c :: rest =>
    if c = 'u' && atLeast 4 isHex rest then some 6
    else if c = 'U' && atLeast 8 isHex rest then some 10
    else if c = 'x' && atLeast 2 isHex rest then some 4
    else if c.isDigit then some (2 + min 2 (span Char.isDigit rest))
    else if c = '\n' then some 2
    else if c = '\r' then (match rest with
      | '\n' :: _ => some 3
      | _ => none)
    else if ['\'', '"', 'a', 'b', 'f', 'r', 'n', 't', 'v', '\\'].contains c then some 2
    else namedCharacter (c :: rest)
  | _ => none

def loneBackslash : List Char → Option Nat
  | '\\' :: _ => some 1
  | _ => none

/-- Characters that may stand between tokens. -/
def isBlank (c : Char) : Bool :=
  [' ', '\t', '\n', Char.ofNat 11, Char.ofNat 12, '\r', Char.ofNat 0xFEFF, Char.ofNat 0x2060,
    Char.ofNat 0x200B].contains c

end TokenClass

/-! ## Section 2: The vocabulary by number -/

/-- Tokens by their numbers in a grammar's tables. -/
structure Vocabulary where
  table : Table
  /-- Spelled tokens that are words, with their numbers. -/
  keywords : List (String × Nat)
  /-- Spelled tokens that are punctuation, with their numbers, in the order of length from
      the longest. -/
  punctuation : List (List Char × Nat)
  /-- The set of `keywords` and the identifier. -/
  wordSet : TokenSet
  identifier : Nat
  /-- Numbers of the tokens that `Memory.scan` depends on. -/
  newline : Nat
  indent : Nat
  dedent : Nat
  stringStart : Nat
  stringText : Nat
  doubledBrace : Nat
  except : Nat
  closing : TokenSet
  /-- Other classes, each with its number, strength and length; the flag marks those that
      must follow without a blank. -/
  classes : List (Nat × Nat × Bool × (List Char → Option Nat))
  endOfText : Nat
  /-- Numbers of the tokens that may stand anywhere. -/
  extras : List Nat

namespace Vocabulary

def ofTable (t : Table) : Vocabulary :=
  let number (x : Terminal) : Nat := t.terminals.idxOf x
  let spelled := t.terminals.toList.filterMap fun x =>
    if x == .exceptStar then none
    else x.spelling?.map fun s => (s, number x)
  let isWord (s : String) : Bool :=
    match s.toList with
    | c :: _ => c.isAlpha || c = '_'
    | [] => false
  let keywords := spelled.filter (isWord ·.1)
  let word (s : String) : Nat := number (.word s)
  { table := t
    keywords
    punctuation := ((spelled.filter (!isWord ·.1)).map fun (s, i) => (s.toList, i)).mergeSort
      fun a b => b.1.length ≤ a.1.length
    identifier := number .identifier
    wordSet := keywords.foldl (fun acc k => acc.union (.singleton k.2))
      (.singleton (number .identifier))
    newline := number .newline
    indent := number .indent
    dedent := number .dedent
    stringStart := number .stringStart
    stringText := number .stringText
    doubledBrace := number .doubledBrace
    except := word "except"
    closing := [")", "]", "\x7d"].foldl (fun acc s => acc.union (.singleton (word s))) 0
    classes :=
      [(number .integer, 0, false, TokenClass.integer),
       (number .float, 0, false, TokenClass.float),
       (number .typeConversion, 0, false, TokenClass.typeConversion),
       (number .formatText, 1, false, TokenClass.formatText),
       (number .exceptStar, 1, false, fun
          | '*' :: _ => some 1
          | _ => none),
       (number .escapeSequence, 1, true, TokenClass.escapeSequence),
       (number .loneBackslash, 0, true, TokenClass.loneBackslash),
       (number .comment, 0, false, TokenClass.comment),
       (number .lineContinuation, 0, false, TokenClass.lineContinuation)]
    endOfText := number .endOfText
    extras := [number .comment, number .lineContinuation] }

/-- What the memory's scan is to look for. -/
def wanted (v : Vocabulary) (expected : TokenSet) : Wanted where
  newline := expected.contains v.newline
  indent := expected.contains v.indent
  dedent := expected.contains v.dedent
  stringStart := expected.contains v.stringStart
  stringText := expected.contains v.stringText
  doubledBrace := expected.contains v.doubledBrace
  closing := (expected &&& v.closing) != 0
  except := expected.contains v.except

/-! ## Section 3: Tokens that depend only on the characters ahead -/

/-- A candidate: strength, length and number. -/
abbrev Candidate := Nat × Nat × Nat

def stronger (a b : Candidate) : Candidate :=
  if a.1 < b.1 || (a.1 == b.1 && a.2.1 < b.2.1) then b else a

/-- The word at the start of the text, as a keyword where that is expected and as an
    identifier otherwise. -/
def word (v : Vocabulary) (expected : TokenSet) (cs : List Char) : Option Candidate :=
  if (expected &&& v.wordSet) == 0 then none
  else
    match TokenClass.identifier cs with
    | none => none
    | some n =>
      let text := String.ofList (cs.take n)
      let keyword := (v.keywords.lookup text).filter expected.contains
      match keyword with
      | some i => some (0, n, i)
      | none =>
        if PythonGrammar.reserved.contains text || !expected.contains v.identifier then none
        else some (0, n, v.identifier)

/-- The best token at the start of a text. `adjacent` says that no blank precedes it. -/
def best (v : Vocabulary) (expected : TokenSet) (adjacent : Bool) (cs : List Char) :
    Option Candidate :=
  let join (a b : Option Candidate) : Option Candidate := match a, b with
    | none, b => b
    | a, none => a
    | some a, some b => some (stronger a b)
  let mark := (v.punctuation.find? fun (spelling, i) =>
    expected.contains i && spelling.isPrefixOf cs).map fun (spelling, i) => (0, spelling.length, i)
  v.classes.foldl (fun acc (i, strength, adjacentOnly, length) =>
    if (expected.contains i || v.extras.contains i) && (adjacent || !adjacentOnly) then
      join acc ((length cs).map fun n => (strength, n, i))
    else acc) (join (v.word expected cs) mark)

/-- The next token, blanks in front of it passed over. -/
def plain (v : Vocabulary) (expected : TokenSet) (adjacent : Bool) (c : Cursor) :
    Option (Nat × Cursor × Cursor) :=
  match v.best expected adjacent c.rest with
  | some (_, n, i) => some (i, c, c.skip n)
  | none =>
    match _h : c.rest with
    | [] => if expected.contains v.endOfText then some (v.endOfText, c, c) else none
    | x :: _ => if TokenClass.isBlank x then v.plain expected false c.next else none
termination_by c.rest.length
decreasing_by
  simp only [Cursor.length_next, _h, List.length_cons]
  omega

/-! ## Section 4: The tokenizer -/

/-- A byte order mark at the very start of a text is passed over. -/
def passByteOrderMark (c : Cursor) : Cursor :=
  match c.rest with
  | x :: _ => if c.place.byte = 0 && x = Char.ofNat 0xFEFF then c.next else c
  | [] => c

def next (v : Vocabulary) (expected : TokenSet) (m : Memory) (c : Cursor) :
    Option (Lexeme Memory) :=
  let c := passByteOrderMark c
  match m.scan (v.wanted expected) c with
  | some s => some ⟨v.table.terminals.idxOf s.terminal, s.start, s.cursor.place, s.cursor, s.memory⟩
  | none =>
    match v.plain expected true c with
    | some (i, start, stop) => some ⟨i, start.place, stop.place, stop, m⟩
    | none => none

/-- Whether a line ends, a block or a string begins or ends, or a bracket closes is decided
    by what is expected, before any character is looked at. -/
def steering (v : Vocabulary) : TokenSet :=
  [v.newline, v.indent, v.dedent, v.stringStart, v.stringText, v.doubledBrace,
    v.except].foldl (fun acc i => acc.union (.singleton i)) v.closing

def tokenizer (v : Vocabulary) : Tokenizer Memory where
  initial := Memory.initial
  next := v.next
  isExtra := v.extras.contains
  steering := v.steering

end Vocabulary

end CallAtlas.Syntax
