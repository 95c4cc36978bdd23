import HazeServer.Number.Double

/-! # The shortest decimal of a double

A double is written with the fewest digits that read back as the same double, and among those
decimals with the one nearest to it. The decimals that read back form an interval around the value;
a grid of `count` digits meets it if one of the two grid points next to the value lies in it.
-/

namespace HazeServer

namespace Double

/-- A positive decimal `digits * 10 ^ scale`. -/
structure Decimal where
  digits : Nat
  scale : Int
  deriving DecidableEq, Repr

/-- The reals that round to a double: ends and value as numerators over one denominator. The ends
themselves belong to it when `closed`. -/
structure Interval where
  low : Nat
  middle : Nat
  high : Nat
  denominator : Nat
  closed : Bool
  deriving DecidableEq, Repr

/-- The interval of reals that round to `mantissa * 2 ^ exponent`, in quarters of its unit. Below a
power of two the doubles are twice as dense. -/
def roundingInterval (mantissa : Nat) (exponent : Int) : Interval :=
  let below := if mantissa = Nat.pow 2 52 ∧ exponent > minExponent then 1 else 2
  let unit := if exponent < 0 then 1 else Nat.pow 2 exponent.natAbs
  let denominator := if exponent < 0 then 4 * Nat.pow 2 exponent.natAbs else 4
  { low := (4 * mantissa - below) * unit
    middle := 4 * mantissa * unit
    high := (4 * mantissa + 2) * unit
    denominator := denominator
    closed := mantissa % 2 = 0 }

/-- Whether a decimal lies in the interval. -/
def Interval.holds (interval : Interval) (decimal : Decimal) : Bool :=
  let power := Nat.pow 10 decimal.scale.natAbs
  let point := if decimal.scale < 0 then decimal.digits * interval.denominator
    else decimal.digits * power * interval.denominator
  let low := if decimal.scale < 0 then interval.low * power else interval.low
  let high := if decimal.scale < 0 then interval.high * power else interval.high
  if interval.closed then low ≤ point && point ≤ high else low < point && point < high

/-- The number of decimal places by which a positive value exceeds one: the least `n` with
`value < 10 ^ n`. -/
def decimalOrder (numerator denominator : Nat) : Int :=
  let guess : Int :=
    (Nat.toDigits 10 numerator).length - (Nat.toDigits 10 denominator).length
  let fits :=
    if guess < 0 then numerator * Nat.pow 10 guess.natAbs < denominator
    else numerator < denominator * Nat.pow 10 guess.natAbs
  if fits then guess else guess + 1

/-- The points next to the value on the grid of a scale, the nearer one first, of two equally near
ones the even one first. -/
def Interval.neighbours (interval : Interval) (scale : Int) : List Decimal :=
  let numerator := if scale < 0 then interval.middle * Nat.pow 10 scale.natAbs else interval.middle
  let denominator :=
    if scale < 0 then interval.denominator else interval.denominator * Nat.pow 10 scale.natAbs
  let floor := numerator / denominator
  let twice := 2 * (numerator % denominator)
  let lower : Decimal := ⟨floor, scale⟩
  let upper : Decimal := ⟨floor + 1, scale⟩
  if twice < denominator ∨ (twice = denominator ∧ floor % 2 = 0) then [lower, upper]
  else [upper, lower]

/-- The decimal of the fewest digits in the interval, trying the digit counts from `count` on. -/
def Interval.search (interval : Interval) (order : Int) : Nat → Nat → Decimal
  | 0, count => ⟨interval.middle / interval.denominator, order - count⟩
  | tries + 1, count =>
      match (interval.neighbours (order - count)).find? interval.holds with
      | some decimal => decimal
      | none => interval.search order tries (count + 1)

/-- The shortest decimal that reads back as `mantissa * 2 ^ exponent`; seventeen digits always do. -/
def shortest (mantissa : Nat) (exponent : Int) : Decimal :=
  let interval := roundingInterval mantissa exponent
  interval.search (decimalOrder interval.middle interval.denominator) 17 1

/-- Digits without the zeros at their end. -/
def significant (digits : List Char) : List Char :=
  (digits.reverse.dropWhile (· == '0')).reverse

/-- An exponent with its sign and at least two digits. -/
def exponentText (exponent : Int) : String :=
  let digits := toString exponent.natAbs
  let padded := if digits.length < 2 then "0" ++ digits else digits
  (if exponent < 0 then "e-" else "e+") ++ padded

/-- Digits with the point after the first `point` of them: written out when the exponent is from -4
to 15, always with a digit after the point, and else with an exponent. -/
def layOut (digits : List Char) (point : Int) : String :=
  let exponent := point - 1
  if exponent < -4 ∨ 16 ≤ exponent then
    let tail := digits.drop 1
    String.ofList (digits.take 1 ++ (if tail.isEmpty then [] else '.' :: tail))
      ++ exponentText exponent
  else if point ≤ 0 then
    "0." ++ String.ofList (List.replicate point.natAbs '0' ++ digits)
  else
    let places := point.toNat
    let whole := digits.take places ++ List.replicate (places - digits.length) '0'
    let rest := digits.drop places
    String.ofList whole ++ "." ++ (if rest.isEmpty then "0" else String.ofList rest)

/-- The text of a double. -/
def text (double : Double) : String :=
  match double.value with
  | .notNumber => "nan"
  | .infinite negative => if negative then "-inf" else "inf"
  | .finite negative mantissa exponent =>
      let sign := if negative then "-" else ""
      if mantissa = 0 then sign ++ "0.0"
      else
        let decimal := shortest mantissa exponent
        let digits := Nat.toDigits 10 decimal.digits
        sign ++ layOut (significant digits) (digits.length + decimal.scale)

end Double

end HazeServer
