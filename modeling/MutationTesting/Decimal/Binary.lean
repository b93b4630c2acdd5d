/-!
Binary floating-point numbers. The one nearest to a decimal is read from its digits. A finite number
is taken apart into a whole significand times a power of two, and everything printed about it is
computed from that exact value. With a fixed number of places it is rounded to the nearest decimal,
and a value halfway between two goes to the one whose last digit is even.
-/

namespace MutationTesting.Decimal

/-- The number with the given digits, read as a whole number times a power of ten. Decimals far
out of range are infinite or zero without being computed.
-/
def toFloat (negative : Bool) (digits : Nat) (exponent : Int) : Float :=
  let size : Int := (Nat.toDigits 10 digits).length + exponent
  let magnitude : Float :=
    if digits = 0 ∨ size < -400 then 0.0
    else if size > 400 then 1.0 / 0.0
    else if exponent < 0 then Float.ofScientific digits true (-exponent).toNat
    else Float.ofScientific digits false exponent.toNat
  if negative then -magnitude else magnitude

/-- What a floating-point number is: a signed finite value, an infinity or no number. -/
inductive Reading where
  | finite (negative : Bool) (significand : Nat) (exponent : Int)
  | infinite (negative : Bool)
  | nan
deriving DecidableEq, Repr

/-- The reading of a number from its sign bit, 11 exponent bits and 52 fraction bits. -/
def read (x : Float) : Reading :=
  let bits := x.toBits.toNat
  let negative := bits / Nat.pow 2 63 = 1
  let field : Nat := bits / Nat.pow 2 52 % Nat.pow 2 11
  let fraction := bits % Nat.pow 2 52
  if field = 2047 then
    if fraction = 0 then .infinite negative else .nan
  else if field = 0 then
    .finite negative fraction (-1074)
  else
    .finite negative (Nat.pow 2 52 + fraction) ((field : Int) - 1075)

/-- A fraction of naturals with the value of a significand times a power of two. -/
def fraction (significand : Nat) (exponent : Int) : Nat × Nat :=
  if exponent ≥ 0 then
    (significand * Nat.pow 2 exponent.toNat, 1)
  else
    (significand, Nat.pow 2 (-exponent).toNat)

/-- The whole number nearest to a fraction; a half goes to the even neighbour. -/
def roundHalfEven (numerator denominator : Nat) : Nat :=
  let whole := numerator / denominator
  let rest := 2 * (numerator % denominator)
  if rest < denominator then whole
  else if rest > denominator then whole + 1
  else whole + whole % 2

/-- A finite number that is not negative with one digit after the point. -/
def tenths (x : Float) : String :=
  match read x with
  | .finite _ significand exponent =>
      let parts := fraction significand exponent
      let count := roundHalfEven (parts.1 * 10) parts.2
      toString (count / 10) ++ "." ++ toString (count % 10)
  | .infinite _ => "inf"
  | .nan => "NaN"

end MutationTesting.Decimal
