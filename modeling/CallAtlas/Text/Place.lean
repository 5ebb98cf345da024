/-! # Places in a text

    A place is counted in UTF-8 bytes from the start of the text and, on its line, from the
    start of the line. Lines and columns count from zero, and only a line feed ends a line.
    A cursor is a place together with the text that lies ahead of it.
-/

namespace CallAtlas.Text

structure Place where
  byte : Nat
  row : Nat
  column : Nat
  deriving DecidableEq, Inhabited

namespace Place

def zero : Place := ⟨0, 0, 0⟩

/-- The place behind a character. -/
def after (p : Place) (c : Char) : Place :=
  if c = '\n' then ⟨p.byte + 1, p.row + 1, 0⟩
  else ⟨p.byte + c.utf8Size, p.row, p.column + c.utf8Size⟩

end Place

structure Cursor where
  place : Place
  rest : List Char
  deriving Inhabited

namespace Cursor

def ofString (s : String) : Cursor := ⟨.zero, s.toList⟩

/-- Steps over one character; at the end of the text stays there. -/
def next (c : Cursor) : Cursor :=
  match c.rest with
  | [] => c
  | x :: rest => ⟨c.place.after x, rest⟩

/-- Steps over the first `n` characters. -/
def skip : Nat → Cursor → Cursor
  | 0, c => c
  | n + 1, c => skip n c.next

theorem length_next (c : Cursor) : c.next.rest.length = c.rest.length - 1 := by
  obtain ⟨place, rest⟩ := c
  cases rest <;> rfl

theorem length_skip : ∀ (n : Nat) (c : Cursor), (c.skip n).rest.length = c.rest.length - n
  | 0, _ => rfl
  | n + 1, c => by
    rw [skip, length_skip n, length_next]
    omega

end Cursor

end CallAtlas.Text
