import MutationTesting.Decimal.Binary

/-!
The fewest decimal digits that read back as a given floating-point number. The numbers that
read back form an interval around the exact value; the coarsest decimal grid with a point in
that interval gives the digits. Of two such points the nearer one is taken, and the upper one
when the value lies halfway between them.
-/

namespace MutationTesting.Decimal

/-- A whole number of units of a power of ten. -/
structure Scaled where
  digits : Nat
  exponent : Int
deriving DecidableEq, Repr

/-- The numbers that read back as one floating-point number, in quarters of the unit of its
significand, with the unit itself as a fraction. The ends belong to it when they are even.
-/
structure Interval where
  low : Nat
  value : Nat
  high : Nat
  closed : Bool
  scale : Nat × Nat

/-- The interval around a positive number. Below a power of two the numbers are twice as
dense, so the lower end is nearer there.
-/
def Interval.around (significand : Nat) (exponent : Int) : Interval where
  low := 4 * significand - if significand = Nat.pow 2 52 ∧ exponent > -1074 then 1 else 2
  value := 4 * significand
  high := 4 * significand + 2
  closed := significand % 2 = 0
  scale := fraction 1 (exponent - 2)

/-- The point of a grid of powers of ten that lies in the interval and nearest to its value,
if there is one. It is one of the two neighbours of the value, the upper one for a value halfway
between them.
-/
def Interval.gridPoint? (i : Interval) (exponent : Int) : Option Scaled :=
  let up := if exponent < 0 then Nat.pow 10 (-exponent).toNat * i.scale.1 else i.scale.1
  let unit := if exponent < 0 then i.scale.2 else Nat.pow 10 exponent.toNat * i.scale.2
  let below := i.value * up / unit
  let isInside (count : Nat) : Bool :=
    if i.closed then i.low * up ≤ count * unit && count * unit ≤ i.high * up
    else i.low * up < count * unit && count * unit < i.high * up
  let toBelow := i.value * up - below * unit
  let toAbove := (below + 1) * unit - i.value * up
  match isInside below, isInside (below + 1) with
  | true, true => some ⟨if toBelow < toAbove then below else below + 1, exponent⟩
  | true, false => some ⟨below, exponent⟩
  | false, true => some ⟨below + 1, exponent⟩
  | false, false => none

/-- The first grid point found while the grid is made finer from `finest + coarser` on. -/
def Interval.search (i : Interval) (finest : Int) : (coarser : Nat) → Scaled
  | 0 => (i.gridPoint? finest).getD ⟨0, finest⟩
  | coarser + 1 => (i.gridPoint? (finest + coarser + 1)).getD (i.search finest coarser)

/-- The shortest decimal that reads back as the positive number given by its parts. -/
def shortest (significand : Nat) (exponent : Int) : Scaled :=
  (Interval.around significand exponent).search (-345) 655

/-- Digits with a point and at least one digit on each side of it, never with an exponent. -/
def Scaled.positional (s : Scaled) : String :=
  let digits := Nat.toDigits 10 s.digits
  if s.exponent ≥ 0 then
    String.ofList (digits ++ List.replicate s.exponent.toNat '0') ++ ".0"
  else
    let places := (-s.exponent).toNat
    let padded := List.replicate (places + 1 - digits.length) '0' ++ digits
    let whole := padded.length - places
    String.ofList (padded.take whole) ++ "." ++ String.ofList (padded.drop whole)

/-- The text of a floating-point number: the fewest digits that read back, written out in
full, with the sign of zero kept.
-/
def render (x : Float) : String :=
  let sign (negative : Bool) : String := if negative then "-" else ""
  match read x with
  | .nan => "NaN"
  | .infinite negative => sign negative ++ "inf"
  | .finite negative significand exponent =>
      sign negative ++
        if significand = 0 then "0.0" else (shortest significand exponent).positional

end MutationTesting.Decimal
