/-! # UTF-8

    Reading bytes as UTF-8, with the place and length of the first sequence that is not valid,
    and cutting a text at byte offsets.
-/

namespace CallAtlas.Text

namespace Utf8

/-! ## Section 1: Decoding -/

/-- The first fault of a byte sequence: where it starts, and how many bytes make it invalid.
    With no length the bytes end inside a sequence that is valid so far. -/
structure Fault where
  index : Nat
  length : Option Nat
  deriving DecidableEq, Inhabited

/-- The fault in words. -/
def Fault.message (f : Fault) : String :=
  match f.length with
  | some n => "invalid utf-8 sequence of " ++ toString n ++ " bytes from index " ++ toString f.index
  | none => "incomplete utf-8 byte sequence from index " ++ toString f.index

def isTail (b : Nat) : Bool := 0x80 ≤ b && b ≤ 0xBF

/-- How many bytes follow a first byte, and the range of the second; none for a byte that
    starts no sequence. -/
def leadOf (b : Nat) : Option (Nat × Nat × Nat) :=
  if 0xC2 ≤ b && b ≤ 0xDF then some (1, 0x80, 0xBF)
  else if b = 0xE0 then some (2, 0xA0, 0xBF)
  else if b = 0xED then some (2, 0x80, 0x9F)
  else if 0xE1 ≤ b && b ≤ 0xEF then some (2, 0x80, 0xBF)
  else if b = 0xF0 then some (3, 0x90, 0xBF)
  else if b = 0xF4 then some (3, 0x80, 0x8F)
  else if 0xF1 ≤ b && b ≤ 0xF3 then some (3, 0x80, 0xBF)
  else none

/-- One character at the start of the bytes, and what follows it; or the length of the
    invalid prefix, none if the bytes end too early. -/
def decodeOne : List Nat → Except (Option Nat) (Char × List Nat)
  | [] => .error none
  | a :: rest =>
    if a < 0x80 then .ok (Char.ofNat a, rest)
    else
      match leadOf a with
      | none => .error (some 1)
      | some (count, low, high) =>
        match rest with
        | [] => .error none
        | b :: rest =>
          if b < low || high < b then .error (some 1)
          else if count = 1 then .ok (Char.ofNat ((a - 0xC0) * 64 + (b - 0x80)), rest)
          else
            match rest with
            | [] => .error none
            | c :: rest =>
              if !isTail c then .error (some 2)
              else if count = 2 then
                .ok (Char.ofNat ((a - 0xE0) * 4096 + (b - 0x80) * 64 + (c - 0x80)), rest)
              else
                match rest with
                | [] => .error none
                | d :: rest =>
                  if !isTail d then .error (some 3)
                  else .ok (Char.ofNat
                    ((a - 0xF0) * 262144 + (b - 0x80) * 4096 + (c - 0x80) * 64 + (d - 0x80)), rest)

/-- The characters of a byte sequence whose first byte has the given index. -/
def decodeFrom : Nat → Nat → List Nat → Except Fault (List Char)
  | 0, _, _ => .ok []
  | _ + 1, _, [] => .ok []
  | fuel + 1, index, bytes =>
    match decodeOne bytes with
    | .error length => .error ⟨index, length⟩
    | .ok (c, rest) => (decodeFrom fuel (index + c.utf8Size) rest).map (c :: ·)

/-- The text of a byte sequence, or its first fault. -/
def decode (bytes : List Nat) : Except Fault String :=
  (decodeFrom bytes.length 0 bytes).map String.ofList

/-- The bytes of a text. -/
def encode (s : String) : List Nat := s.toUTF8.toList.map (·.toNat)

end Utf8

/-! ## Section 2: Cutting a text at byte offsets -/

/-- What follows the first `n` bytes of a text; none if they end inside a character or
    behind the text. -/
def dropBytes : List Char → Nat → Option (List Char)
  | cs, 0 => some cs
  | [], _ + 1 => none
  | c :: cs, n + 1 => if c.utf8Size ≤ n + 1 then dropBytes cs (n + 1 - c.utf8Size) else none

/-- The characters that take up the first `n` bytes of a text. -/
def takeBytes : List Char → Nat → Option (List Char)
  | _, 0 => some []
  | [], _ + 1 => none
  | c :: cs, n + 1 =>
    if c.utf8Size ≤ n + 1 then (takeBytes cs (n + 1 - c.utf8Size)).map (c :: ·) else none

end CallAtlas.Text
