import CallAtlas.Syntax.Kind
import CallAtlas.Text.Place

/-! # Tokens that depend on what came before

    Indentation and string literals cannot be told from the characters ahead alone. The
    `Memory` holds the columns of the open blocks and the quotes of the open strings, and
    `Memory.scan` finds the tokens that depend on them: the three tokens that stand for the
    shape of lines, which have no width, and the pieces of string literals.

    On a line's indentation a blank counts one column and a tab eight, and a carriage return
    or form feed starts the count again. Columns are counted modulo 2^16.
-/

namespace CallAtlas.Syntax

open CallAtlas.Text

/-! ## Section 1: Memory -/

/-- How an open string literal was opened. -/
structure Quote where
  mark : Char
  triple : Bool
  raw : Bool
  bytes : Bool
  format : Bool
  deriving DecidableEq, Inhabited

/-- Indentation of the open blocks, the innermost first, quotes of the open strings, the
    innermost first, and whether the string opened last is a format string. -/
structure Memory where
  indents : List Nat
  quotes : List Quote
  inFormat : Bool
  deriving DecidableEq, Inhabited

namespace Memory

def initial : Memory := ⟨[0], [], false⟩

end Memory

/-- Which of the tokens that depend on the memory are expected. -/
structure Wanted where
  newline : Bool
  indent : Bool
  dedent : Bool
  stringStart : Bool
  stringText : Bool
  doubledBrace : Bool
  /-- Some closing bracket is expected. -/
  closing : Bool
  /-- The word `except` is expected. -/
  except : Bool

/-- A token, where it starts, the cursor behind it and the memory after it. -/
structure Scanned where
  terminal : Terminal
  start : Place
  cursor : Cursor
  memory : Memory

/-! ## Section 2: Inside a string literal -/

/-- A doubled brace of a format string; any other brace starts or ends a replacement. -/
def scanBrace (m : Memory) (c : Cursor) : Option Scanned :=
  match c.rest with
  | x :: y :: _ => if x = y then some ⟨.doubledBrace, c.place, c.skip 2, m⟩ else none
  | _ => none

/-- Leaves the innermost string at a cursor behind its closing quote. -/
def closeString (m : Memory) (start : Place) (c : Cursor) : Scanned :=
  ⟨.stringEnd, start, c, { m with quotes := m.quotes.drop 1, inFormat := false }⟩

/-- Number of characters that a backslash takes with it in a raw string: a quote or second
    backslash, and then a line break. -/
def rawEscapeLength (q : Quote) (rest : List Char) : Nat :=
  let quoted := match rest with
    | x :: _ => if x = q.mark || x = '\\' then 1 else 0
    | [] => 0
  let lineBreak := match rest.drop quoted with
    | '\r' :: '\n' :: _ => 2
    | '\r' :: _ => 1
    | '\n' :: _ => 1
    | _ => 0
  1 + quoted + lineBreak

theorem rawEscapeLength_pos (q : Quote) (rest : List Char) : 0 < rawEscapeLength q rest := by
  simp only [rawEscapeLength]
  omega

/-- Letters that a backslash gives a meaning in text and none in bytes. -/
def startsWideEscape : List Char → Bool
  | y :: _ => y = 'N' || y = 'u' || y = 'U'
  | [] => false

/-- The next piece of the innermost string, from `start` on. `hasText` says that characters
    have been passed that need no further care. -/
def scanString (m : Memory) (q : Quote) (start : Place) (hasText : Bool) (c : Cursor) :
    Option Scanned :=
  let text (c : Cursor) : Option Scanned :=
    if hasText then some ⟨.stringText, start, c, m⟩ else none
  match _h : c.rest with
  | [] => none
  | x :: rest =>
    if x = Char.ofNat 0 then none
    else if (x = '{' || x = '}') && q.format then text c
    else if x = '\\' then
      if q.raw then scanString m q start hasText (c.skip (rawEscapeLength q rest))
      else if q.bytes && startsWideEscape rest then scanString m q start true (c.skip 3)
      else text c
    else if x = q.mark then
      if q.triple then
        match rest with
        | y :: z :: _ =>
          if y = q.mark && z = q.mark then
            if hasText then some ⟨.stringText, start, c, m⟩
            else some (closeString m start (c.skip 3))
          else some ⟨.stringText, start, c.skip (if y = q.mark then 2 else 1), m⟩
        | [y] => some ⟨.stringText, start, c.skip (if y = q.mark then 2 else 1), m⟩
        | [] => some ⟨.stringText, start, c.skip 1, m⟩
      else if hasText then some ⟨.stringText, start, c, m⟩
      else some (closeString m start (c.skip 1))
    else if x = '\n' && hasText && !q.triple then none
    else scanString m q start true c.next
termination_by c.rest.length
decreasing_by
  all_goals have hl := congrArg List.length _h
  all_goals rw [List.length_cons] at hl
  · have := rawEscapeLength_pos q rest
    rw [Cursor.length_skip]
    omega
  · rw [Cursor.length_skip]
    omega
  · rw [Cursor.length_next]
    omega

/-! ## Section 3: Between tokens -/

/-- What lies between a token and the next. -/
structure Gap where
  cursor : Cursor
  indent : Nat
  /-- A line end, or the end of the text, lies in the gap. -/
  endsLine : Bool
  /-- Indentation of the first comment that has a line of its own. -/
  firstComment : Option Nat

/-- Number of characters up to a line feed, which is counted in. -/
def commentLength : List Char → Nat
  | [] => 0
  | c :: rest => if c = '\n' || c = Char.ofNat 0 then 1 else commentLength rest + 1

theorem commentLength_pos (c : Char) (rest : List Char) : 0 < commentLength (c :: rest) := by
  unfold commentLength
  split <;> omega

/-- Number of characters of the line break, or of the end of the text, at the start of a
    text. -/
def lineBreakLength : List Char → Option Nat
  | [] => some 0
  | '\n' :: _ => some 1
  | ['\r'] => some 1
  | '\r' :: '\n' :: _ => some 2
  | _ => none

/-- Passes over blanks, line ends, continued lines and, where `comments` holds, comments on
    lines of their own. Fails at a comment behind a token and at a stray backslash. -/
def passGap (comments : Bool) (g : Gap) : Option Gap :=
  match _h : g.cursor.rest with
  | [] => some { g with indent := 0, endsLine := true }
  | x :: rest =>
    if x = '\n' then
      passGap comments { g with cursor := g.cursor.next, indent := 0, endsLine := true }
    else if x = ' ' then
      passGap comments { g with cursor := g.cursor.next, indent := (g.indent + 1) % 65536 }
    else if x = '\r' || x = Char.ofNat 12 then
      passGap comments { g with cursor := g.cursor.next, indent := 0 }
    else if x = '\t' then
      passGap comments { g with cursor := g.cursor.next, indent := (g.indent + 8) % 65536 }
    else if x = '#' && comments then
      if g.endsLine then
        passGap comments
          { g with
            cursor := g.cursor.skip (commentLength g.cursor.rest)
            indent := 0
            firstComment := g.firstComment.orElse fun _ => some g.indent }
      else none
    else if x = '\\' then
      match lineBreakLength rest with
      | some n => passGap comments { g with cursor := g.cursor.skip (n + 1) }
      | none => none
    else some g
termination_by g.cursor.rest.length
decreasing_by
  all_goals have hl := congrArg List.length _h
  all_goals have hc := commentLength_pos x rest
  all_goals rw [← _h] at hc
  all_goals simp only [List.length_cons, Cursor.length_next, Cursor.length_skip] at hl ⊢
  all_goals omega

/-! ## Section 4: The shape of lines -/

/-- The token without width that a line end in the gap calls for, if any. A block is opened
    only where one is expected. A block is closed also where no end is expected, unless a
    line may continue there; comments indented like the block keep it open. -/
def scanLine (w : Wanted) (m : Memory) (c : Cursor) (g : Gap) : Option Scanned :=
  let token (t : Terminal) (m : Memory) : Option Scanned := some ⟨t, c.place, c, m⟩
  let quoteAhead := match g.cursor.rest with
    | x :: _ => x = '"' || x = '\'' || x = '`'
    | [] => false
  if !g.endsLine then none
  else
    match m.indents with
    | [] => if w.newline then token .newline m else none
    | current :: outer =>
      if w.indent && current < g.indent then
        token .indent { m with indents := g.indent :: m.indents }
      else if (w.dedent || (!w.newline && !(w.stringStart && quoteAhead) && !w.closing))
          && g.indent < current && !m.inFormat
          && ((g.firstComment.map fun column => decide (column < current)).getD true) then
        token .dedent { m with indents := outer }
      else if w.newline then token .newline m
      else none

/-! ## Section 5: Opening a string literal -/

/-- Letters in front of a quote, as marks on it. -/
def scanFlags (q : Quote) (c : Cursor) : Quote × Cursor :=
  match _h : c.rest with
  | x :: _ =>
    if x = 'f' || x = 'F' || x = 't' || x = 'T' then scanFlags { q with format := true } c.next
    else if x = 'r' || x = 'R' then scanFlags { q with raw := true } c.next
    else if x = 'b' || x = 'B' then scanFlags { q with bytes := true } c.next
    else if x = 'u' || x = 'U' then scanFlags q c.next
    else (q, c)
  | [] => (q, c)
termination_by c.rest.length
decreasing_by
  all_goals have hl := congrArg List.length _h
  all_goals rw [List.length_cons] at hl
  all_goals rw [Cursor.length_next]
  all_goals omega

/-- The opening of a string literal, prefix and quotes. -/
def scanOpening (m : Memory) (c : Cursor) : Option Scanned :=
  let (q, c') := scanFlags ⟨'\'', false, false, false, false⟩ c
  let opened (q : Quote) (length : Nat) : Option Scanned :=
    some ⟨.stringStart, c.place, c'.skip length,
      { m with quotes := q :: m.quotes, inFormat := q.format }⟩
  match c'.rest with
  | '`' :: _ => opened { q with mark := '`' } 1
  | '\'' :: '\'' :: '\'' :: _ => opened { q with mark := '\'', triple := true } 3
  | '\'' :: _ => opened { q with mark := '\'' } 1
  | '"' :: '"' :: '"' :: _ => opened { q with mark := '"', triple := true } 3
  | '"' :: _ => opened { q with mark := '"' } 1
  | _ => none

/-! ## Section 6: The scan -/

/-- Outside of strings: the shape of lines first, then the opening of a string. A comment on
    a line of its own is a token before the string behind it. -/
def Memory.scanGap (m : Memory) (w : Wanted) (c : Cursor) : Option Scanned :=
  match passGap (w.indent || w.dedent || w.newline || w.except) ⟨c, 0, false, none⟩ with
  | none => none
  | some g =>
    match scanLine w m c g with
    | some token => some token
    | none => if w.stringStart && g.firstComment.isNone then scanOpening m g.cursor else none

/-- The next token that depends on the memory, if one is ahead. -/
def Memory.scan (m : Memory) (w : Wanted) (c : Cursor) : Option Scanned :=
  match m.quotes with
  | q :: _ =>
    let atBrace := match c.rest with
      | x :: _ => x = '{' || x = '}'
      | [] => false
    if w.doubledBrace && q.format && atBrace then scanBrace m c
    else if w.stringText then scanString m q c.place false c
    else m.scanGap w c
  | [] => m.scanGap w c

end CallAtlas.Syntax
