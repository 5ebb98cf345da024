/-! # Shortest decimals

    The fewest decimal digits that read back as a given double, and of those the ones nearest
    to it. A positive double is `mantissa * 2^exponent`; the decimals that read back as it
    lie between the midpoints to its two neighbours, and a midpoint itself reads back if the
    mantissa is even.
-/

namespace CallAtlas.Decimal

/-! ## Section 1: Doubles in binary -/

/-- A positive number `mantissa * 2^exponent`, as a double holds it. -/
structure Binary where
  mantissa : Nat
  exponent : Int
  /-- Whether the neighbour below is only half as far away as the one above. -/
  closeBelow : Bool
  deriving DecidableEq, Inhabited

/-- The lowest 52 bits of a double are below this; they hold the fraction. -/
def fractionBound : Nat := 0x10000000000000

/-- The next 11 bits are below this; they hold the exponent. -/
def exponentBound : Nat := 0x800

/-- The last bit, which holds the sign. -/
def signBit : Nat := 0x8000000000000000

def exponentField (bits : Nat) : Nat := bits / fractionBound % exponentBound

/-- The absolute value of a finite double, given its bits; none for zero. -/
def Binary.ofBits (bits : Nat) : Option Binary :=
  let fraction := bits % fractionBound
  let field := exponentField bits
  if field = 0 then if fraction = 0 then none else some ⟨fraction, -1074, false⟩
  else some ⟨fraction + fractionBound, (field : Int) - 1075, fraction = 0 && 1 < field⟩

/-! ## Section 2: The interval that reads back -/

/-- Four times the number, and the upper and lower midpoint, in units of `2^(exponent - 2)`. -/
def Binary.center (b : Binary) : Nat := 4 * b.mantissa
def Binary.upper (b : Binary) : Nat := 4 * b.mantissa + 2
def Binary.lower (b : Binary) : Nat :=
  if b.closeBelow then 4 * b.mantissa - 1 else 4 * b.mantissa - 2

/-- A power with a whole exponent as a fraction. -/
def powerParts (base : Nat) (exponent : Int) : Nat × Nat :=
  if exponent < 0 then (1, Nat.pow base exponent.natAbs) else (Nat.pow base exponent.natAbs, 1)

/-- The fraction `a * 2^e / 10^f`. -/
def ratio (a : Nat) (e f : Int) : Nat × Nat :=
  let (num2, den2) := powerParts 2 e
  let (num10, den10) := powerParts 10 f
  (a * num2 * den10, den2 * num10)

/-- Whether `digits * 10^exponent` reads back. -/
def Binary.accepts (b : Binary) (digits : Nat) (exponent : Int) : Bool :=
  let (low, den) := ratio b.lower (b.exponent - 2) exponent
  let (high, _) := ratio b.upper (b.exponent - 2) exponent
  let x := digits * den
  if b.mantissa % 2 = 0 then low ≤ x && x ≤ high else low < x && x < high

/-! ## Section 3: Selecting the digits -/

/-- The decimal exponent of the first digit. -/
def Binary.leading (b : Binary) : Int :=
  let guess := ((Nat.log2 b.mantissa : Int) + b.exponent) * 30103 / 100000
  let (num, den) := ratio b.mantissa b.exponent (guess + 1)
  if den ≤ num then guess + 1 else guess

/-- The best decimal on the grid of multiples of `10^exponent`, if any reads back. -/
def Binary.onGrid (b : Binary) (exponent : Int) : Option Nat :=
  let (num, den) := ratio b.center (b.exponent - 2) exponent
  let below := num / den
  let above := below + 1
  match b.accepts below exponent, b.accepts above exponent with
  | true, true =>
    let gap := 2 * (num % den)
    some (if gap < den || (gap = den && below % 2 = 0) then below else above)
  | true, false => some below
  | false, true => some above
  | false, false => none

/-- Tries grids with one digit more each time. -/
def Binary.search (b : Binary) : Nat → Int → Nat × Int
  | 0, exponent => ((b.onGrid exponent).getD 0, exponent)
  | tries + 1, exponent =>
    match b.onGrid exponent with
    | some digits => (digits, exponent)
    | none => b.search tries (exponent - 1)

/-- Removes zeros at the end. -/
def stripZeros : Nat → Nat → Int → Nat × Int
  | 0, digits, exponent => (digits, exponent)
  | fuel + 1, digits, exponent =>
    if digits ≠ 0 && digits % 10 = 0 then stripZeros fuel (digits / 10) (exponent + 1)
    else (digits, exponent)

/-- The shortest digits and the exponent of the last one. Seventeen are always enough. -/
def Binary.shortest (b : Binary) : Nat × Int :=
  let (digits, exponent) := b.search 17 b.leading
  stripZeros 20 digits exponent

/-! ## Section 4: Laying the digits out -/

/-- How digits are laid out: positionally if the exponent of the first digit lies in a range,
    with at least one place behind the point, otherwise with a signed exponent. -/
structure Style where
  least : Int
  greatest : Int
  deriving DecidableEq, Inhabited

/-- The text of `digits * 10^exponent`. -/
def Style.layOut (style : Style) (digits : Nat) (exponent : Int) : String :=
  let ds := (toString digits).toList
  let point : Int := ds.length + exponent
  let first := point - 1
  let zeros (n : Nat) := List.replicate n '0'
  String.ofList <|
    if style.least ≤ first && first ≤ style.greatest then
      if 0 ≤ exponent then ds ++ zeros exponent.natAbs ++ ['.', '0']
      else if 0 < point then ds.take point.natAbs ++ '.' :: ds.drop point.natAbs
      else '0' :: '.' :: zeros point.natAbs ++ ds
    else
      let tail := match ds with
        | d :: e :: rest => d :: '.' :: e :: rest
        | ds => ds
      tail ++ 'e' :: (if first < 0 then '-' else '+') :: (toString first.natAbs).toList

/-- The text of a double; none if it is not finite. -/
def Style.text? (style : Style) (x : Float) : Option String :=
  let bits := x.toBits.toNat
  if exponentField bits = exponentBound - 1 then none
  else
    let magnitude := match Binary.ofBits bits with
      | none => "0.0"
      | some b =>
        let (digits, exponent) := b.shortest
        style.layOut digits exponent
    some (if signBit ≤ bits then "-" ++ magnitude else magnitude)

end CallAtlas.Decimal
