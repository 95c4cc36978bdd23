/-! # Double-precision numbers

A double is kept as its bit pattern, so that the two zeros and every rounding stay apart. Its value
is read off the pattern as a mantissa times a power of two, and everything else is done with whole
numbers: truncation is exact, and reading a decimal rounds to the nearest double, ties to even.
-/

namespace HazeServer

/-- A double-precision number, by its bit pattern. -/
structure Double where
  bits : UInt64
  deriving DecidableEq, Repr

namespace Double

/-- What a bit pattern stands for; a finite value is `mantissa * 2 ^ exponent`, signed. -/
inductive Value where
  | finite (negative : Bool) (mantissa : Nat) (exponent : Int)
  | infinite (negative : Bool)
  | notNumber
  deriving DecidableEq, Repr

/-- The least exponent of a finite double. -/
def minExponent : Int := -1074

/-- The greatest exponent of a finite double. -/
def maxExponent : Int := 971

/-- The value of a bit pattern: sign, eleven bits of exponent, fifty-two bits of fraction. -/
def value (double : Double) : Value :=
  let word : Nat := double.bits.toNat
  let negative := word / Nat.pow 2 63 == 1
  let field : Nat := word / Nat.pow 2 52 % Nat.pow 2 11
  let fraction : Nat := word % Nat.pow 2 52
  if field = 2047 then
    if fraction = 0 then .infinite negative else .notNumber
  else if field = 0 then .finite negative fraction minExponent
  else .finite negative (Nat.pow 2 52 + fraction) ((field : Int) - 1 + minExponent)

/-- The infinity of a sign. -/
def infinity (negative : Bool) : Double :=
  ⟨UInt64.ofNat ((if negative then Nat.pow 2 63 else 0) + 2047 * Nat.pow 2 52)⟩

/-- A value that is not a number. -/
def notNumber : Double :=
  ⟨UInt64.ofNat (2047 * Nat.pow 2 52 + Nat.pow 2 51)⟩

/-- The pattern of `mantissa * 2 ^ exponent`, for a mantissa below `2 ^ 53` that is at least
`2 ^ 52` unless the exponent is the least one. -/
def ofParts (negative : Bool) (mantissa : Nat) (exponent : Int) : Double :=
  let field := if mantissa < Nat.pow 2 52 then 0 else (exponent - minExponent + 1).toNat
  let sign := if negative then Nat.pow 2 63 else 0
  ⟨UInt64.ofNat (sign + field * Nat.pow 2 52 + mantissa % Nat.pow 2 52)⟩

/-- The quotient rounded to the nearest whole number, ties to even. -/
def roundedQuotient (numerator denominator : Nat) : Nat :=
  let quotient := numerator / denominator
  let twice := 2 * (numerator % denominator)
  if twice < denominator then quotient
  else if twice = denominator then quotient + quotient % 2
  else quotient + 1

/-- The exponent of the greatest power of two that is at most a positive quotient. -/
def binaryOrder (numerator denominator : Nat) : Int :=
  let guess : Int := (numerator.log2 : Int) - (denominator.log2 : Int)
  let fits :=
    if guess < 0 then denominator ≤ numerator * Nat.pow 2 guess.natAbs
    else denominator * Nat.pow 2 guess.natAbs ≤ numerator
  if fits then guess else guess - 1

/-- The double nearest to a quotient of whole numbers, ties to even. -/
def ofQuotient (negative : Bool) (numerator denominator : Nat) : Double :=
  if numerator = 0 then ofParts negative 0 minExponent
  else
    let exponent := max (binaryOrder numerator denominator - 52) minExponent
    let mantissa :=
      if exponent < 0 then roundedQuotient (numerator * Nat.pow 2 exponent.natAbs) denominator
      else roundedQuotient numerator (denominator * Nat.pow 2 exponent.natAbs)
    let (mantissa, exponent) :=
      if mantissa = Nat.pow 2 53 then (Nat.pow 2 52, exponent + 1) else (mantissa, exponent)
    if exponent > maxExponent then infinity negative else ofParts negative mantissa exponent

/-- The double nearest to `digits * 10 ^ scale`. Scales far beyond the range of doubles are decided
without computing the power. -/
def ofDecimal (negative : Bool) (digits : Nat) (scale : Int) : Double :=
  let length : Int := (Nat.toDigits 10 digits).length
  if digits = 0 ∨ scale + length < -400 then ofQuotient negative 0 1
  else if scale + length > 400 then infinity negative
  else if scale < 0 then ofQuotient negative digits (Nat.pow 10 scale.natAbs)
  else ofQuotient negative (digits * Nat.pow 10 scale.natAbs) 1

/-- The whole part of `mantissa * 2 ^ exponent`. -/
def wholePart (mantissa : Nat) (exponent : Int) : Nat :=
  if exponent < 0 then mantissa / Nat.pow 2 exponent.natAbs
  else mantissa * Nat.pow 2 exponent.natAbs

/-- Whether a double equals zero, of either sign. -/
def isZero (double : Double) : Bool :=
  match double.value with
  | .finite _ mantissa _ => mantissa == 0
  | _ => false

end Double

end HazeServer
