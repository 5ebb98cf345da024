/-! # Reading decimals

    Digits as numbers, and decimals as the nearest double.
-/

namespace CallAtlas.Decimal

/-- The value of decimal digits. -/
def digitsValue (ds : List Char) : Nat :=
  ds.foldl (fun n d => n * 10 + (d.toNat - '0'.toNat)) 0

theorem digitsValue_toString (n : Nat) : digitsValue (toString n).toList = n := by
  have hfold : digitsValue (Nat.toDigits 10 n) = Nat.ofDigitChars 10 (Nat.toDigits 10 n) 0 := by
    rw [digitsValue, Nat.ofDigitChars_eq_foldl]
    simp only [Nat.mul_comm]
  rw [Nat.toString_eq_ofList_toDigits, String.toList_ofList, hfold,
    Nat.ofDigitChars_ten_toDigits]

/-- The double nearest to `mantissa * 10^exponent`; none if it is too large. -/
def toFloat? (mantissa : Nat) (exponent : Int) : Option Float :=
  if mantissa = 0 then some 0
  else
    let magnitude := (toString mantissa).length + exponent
    if magnitude > 400 then none
    else if magnitude < -400 then some 0
    else
      let x := Float.ofScientific mantissa (exponent < 0) exponent.natAbs
      if x.isInf then none else some x

end CallAtlas.Decimal
