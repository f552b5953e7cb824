import SqlMapper.Decimal.Shortest
import SqlMapper.Text.Numeral

/-!
# Positional notation: how a double shows

A double shows with its shortest digits, all in place: never an exponent,
no fraction on a whole number, a zero before the point of a number below
one, and the sign of a negative zero.
-/

namespace SqlMapper.Decimal

/-! ## Parts of a double -/

/-- What the 64 bits of a double stand for. -/
inductive Parts where
  | nan
  | infinite (negative : Bool)
  /-- The number `mantissa · 2 ^ exponent` with a sign. -/
  | finite (negative : Bool) (mantissa : Nat) (exponent : Int)
  deriving DecidableEq, Repr

/-- Takes the bits apart: one of sign, eleven of exponent, 52 of fraction. -/
def Parts.ofBits (bits : UInt64) : Parts :=
  let n := bits.toNat
  let negative := n / Nat.pow 2 63 == 1
  let exponent : Nat := n / Nat.pow 2 52 % Nat.pow 2 11
  let fraction := n % Nat.pow 2 52
  if exponent = 2047 then
    if fraction = 0 then .infinite negative else .nan
  else if exponent = 0 then .finite negative fraction (-1074)
  else .finite negative (Nat.pow 2 52 + fraction) ((exponent : Int) - 1075)

/-- The double stands for a number. -/
def Parts.isFinite : Parts → Bool
  | .finite .. => true
  | _ => false

/-! ## Writing -/

/-- The decimal `d · 10 ^ e` without an exponent. -/
def positional (d : Nat) (e : Int) : String :=
  let digits := Nat.toDigits 10 d
  if 0 ≤ e then String.ofList (digits ++ List.replicate e.toNat '0')
  else
    let places := (-e).toNat
    if digits.length ≤ places then
      String.ofList ('0' :: '.' :: List.replicate (places - digits.length) '0' ++ digits)
    else
      let whole := digits.length - places
      String.ofList (digits.take whole ++ '.' :: digits.drop whole)

/-- The text of the parts of a double. -/
def Parts.text : Parts → String
  | .nan => "NaN"
  | .infinite negative => if negative then "-inf" else "inf"
  | .finite negative mantissa exponent =>
      let sign := if negative then "-" else ""
      if mantissa = 0 then sign ++ "0"
      else
        let (d, e) := shortest mantissa exponent
        sign ++ positional d e

/-- The text of a double. -/
def ofFloat (x : Float) : String := (Parts.ofBits x.toBits).text

end SqlMapper.Decimal
