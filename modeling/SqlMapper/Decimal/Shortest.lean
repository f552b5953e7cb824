/-!
# Shortest decimals: the fewest digits that identify a binary fraction

A positive number `m · 2 ^ q` is shown by the fewest decimal digits that no
other number of the same precision would be read from. All arithmetic is
exact, on natural numbers.

The reals that are read as `m · 2 ^ q` form an interval around it. Its upper
end is half a step above; the lower end is half a step below, or a quarter
where `m` is the least mantissa of its binade, since the numbers below lie
twice as close. The ends belong to the interval if `m` is even.

## Main definitions

* `Interval` — the number and the ends of its interval over one denominator.
* `candidate?` — the better of the two neighbours on a decimal grid that
  lie in the interval; an exact tie goes up.
* `shortest` — the coarsest grid that has a candidate.
-/

namespace SqlMapper.Decimal

/-- A positive number and the ends of the interval of reals that are read as
it, all over the denominator `den`. -/
structure Interval where
  /-- Numerator of the number. -/
  value : Nat
  /-- Numerator of the lower end. -/
  low : Nat
  /-- Numerator of the upper end. -/
  high : Nat
  /-- The common denominator. -/
  den : Nat
  /-- The ends belong to the interval. -/
  closed : Bool

namespace Interval

/-- The least mantissa with all 53 bits. -/
def leastMantissa : Nat := Nat.pow 2 52

/-- The interval of `m · 2 ^ q`. -/
def ofBinary (m : Nat) (q : Int) : Interval :=
  let scale := Nat.pow 2 (q - 2).toNat
  let below := if m = leastMantissa then 1 else 2
  { value := 4 * m * scale
    low := (4 * m - below) * scale
    high := (4 * m + 2) * scale
    den := Nat.pow 2 (2 - q).toNat
    closed := m % 2 = 0 }

/-- The decimal `d · 10 ^ e` lies in the interval. -/
def admits (i : Interval) (d : Nat) (e : Int) : Bool :=
  let scaled := d * Nat.pow 10 e.toNat * i.den
  let unit := Nat.pow 10 (-e).toNat
  if i.closed then i.low * unit ≤ scaled && scaled ≤ i.high * unit
  else i.low * unit < scaled && scaled < i.high * unit

end Interval

/-- Number of decimal digits. -/
def digitCount (n : Nat) : Nat := (Nat.toDigits 10 n).length

/-- The exponent `p` with `10 ^ p ≤ num / den < 10 ^ (p + 1)`. -/
def magnitude (num den : Nat) : Int :=
  if den ≤ num then (digitCount (num / den) : Int) - 1
  else
    let l := digitCount (den / num)
    if den ≤ num * Nat.pow 10 (l - 1) then 1 - (l : Int) else -(l : Int)

/-- On the grid of the multiples of `10 ^ e`, the better of the number's two
neighbours among those in the interval. -/
def candidate? (i : Interval) (e : Int) : Option Nat :=
  let num := i.value * Nat.pow 10 (-e).toNat
  let den := i.den * Nat.pow 10 e.toNat
  let floor := num / den
  let rest := num % den
  match i.admits floor e, i.admits (floor + 1) e with
  | true, true => some (if 2 * rest < den then floor else floor + 1)
  | true, false => some floor
  | false, true => some (floor + 1)
  | false, false => none

/-- Every number is identified by this many digits. -/
def maxDigits : Nat := 17

/-- The shortest decimal `(d, e)`, meaning `d · 10 ^ e`, that identifies
`m · 2 ^ q`, for `m > 0`. The first grid is the one just above the number,
on which only its upper neighbour counts. -/
def shortest (m : Nat) (q : Int) : Nat × Int :=
  let i := Interval.ofBinary m q
  let p := magnitude i.value i.den + 1
  let found := (List.range (maxDigits + 1)).findSome? fun (n : Nat) =>
    (candidate? i (p - n)).map fun d => (d, p - (n : Int))
  found.getD (0, 0)

end SqlMapper.Decimal
