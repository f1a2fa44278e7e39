/-!
# Texts of floating-point numbers

A decimal number is rounded to the nearest binary number with a significand of 53 bits, a half to
the even neighbour.  The text of such a number has the fewest digits that round to it again, and of
those the nearest; it is positional and always has a fraction.

Main definitions:

- {lit}`Binary`: a significand and an exponent.
- {lit}`Binary.ofDecimal`: the nearest binary number of a decimal one.
- {lit}`Binary.shortest`: the shortest decimal digits of a binary number.
- {lit}`decimalText?`: the text of the nearest binary number.
-/

namespace CallGuard.Toml

/-- The number {lit}`significand * 2 ^ exponent`. -/
structure Binary where
  significand : Nat
  exponent : Int
deriving Repr, DecidableEq

/-- A positive fraction. -/
structure Ratio where
  num : Nat
  den : Nat

namespace Ratio

/-- A fraction times a power of a base. -/
def scale (r : Ratio) (base : Nat) (exponent : Int) : Ratio :=
  if 0 ≤ exponent then ⟨r.num * base.pow exponent.toNat, r.den⟩
  else ⟨r.num, r.den * base.pow (-exponent).toNat⟩

/-- Whether a fraction is less than another one. -/
def lt (r s : Ratio) : Bool :=
  r.num * s.den < s.num * r.den

/-- Whether two fractions are equal. -/
def same (r s : Ratio) : Bool :=
  r.num * s.den == s.num * r.den

/-- The distance of two fractions. -/
def distance (r s : Ratio) : Ratio :=
  ⟨max (r.num * s.den) (s.num * r.den) - min (r.num * s.den) (s.num * r.den), r.den * s.den⟩

/-- The nearest natural number, a half to the even neighbour. -/
def round (r : Ratio) : Nat :=
  let floor := r.num / r.den
  let twice := 2 * (r.num % r.den)
  if twice < r.den then floor
  else if r.den < twice then floor + 1
  else if floor % 2 = 0 then floor else floor + 1

end Ratio

namespace Binary

/-- The least exponent. -/
def minExponent : Int := -1074

/-- The greatest exponent. -/
def maxExponent : Int := 971

/-- The value of a binary number. -/
def toRatio (b : Binary) : Ratio :=
  Ratio.scale ⟨b.significand, 1⟩ 2 b.exponent

/-- The exponent at which a positive fraction has a significand of 53 bits, but not less than the
least exponent. -/
def exponentOf (r : Ratio) : Int :=
  let guess : Int := (Nat.log2 r.num : Int) - (Nat.log2 r.den : Int) - 52
  let scaled := r.scale 2 (-guess)
  let exact := if scaled.num < Nat.pow 2 52 * scaled.den then guess - 1 else guess
  max exact minExponent

/-- The nearest binary number of {lit}`digits * 10 ^ power`; none if that is beyond the greatest
one. -/
def ofDecimal (digits : Nat) (power : Int) : Option Binary :=
  if digits = 0 then some ⟨0, minExponent⟩
  else
    let size : Int := (Nat.toDigits 10 digits).length + power
    if size < -400 then some ⟨0, minExponent⟩
    else if 400 < size then none
    else
      let r := Ratio.scale ⟨digits, 1⟩ 10 power
      let exponent := exponentOf r
      let significand := (r.scale 2 (-exponent)).round
      let carried : Binary :=
        if significand = Nat.pow 2 53 then ⟨Nat.pow 2 52, exponent + 1⟩ else ⟨significand, exponent⟩
      if maxExponent < carried.exponent then none else some carried

/-- The ends of the interval of numbers that round to a positive binary number. -/
def interval (b : Binary) : Ratio × Ratio :=
  let half := b.exponent - 1
  let below : Binary :=
    if b.significand = Nat.pow 2 52 ∧ minExponent < b.exponent then
      ⟨4 * b.significand - 1, b.exponent - 2⟩
    else
      ⟨2 * b.significand - 1, half⟩
  (below.toRatio, toRatio ⟨2 * b.significand + 1, half⟩)

/-- Whether a fraction rounds to a binary number. -/
def covers (b : Binary) (r : Ratio) : Bool :=
  let (low, high) := b.interval
  (low.lt r && r.lt high) || (b.significand % 2 = 0 && (r.same low || r.same high))

/-- The greatest power of ten that is not above a positive fraction, searched for upwards from a
power that is not above it. -/
def powerBelow (r : Ratio) : Nat → Int → Int
  | 0, power => power
  | fuel + 1, power =>
    if r.lt (Ratio.scale ⟨1, 1⟩ 10 (power + 1)) then power else powerBelow r fuel (power + 1)

/-- The nearest of the two neighbours of a fraction among the numbers with a last digit at a power of
ten that rounds to a binary number. -/
def onGrid (b : Binary) (r : Ratio) (power : Int) : Option Nat :=
  let scaled := r.scale 10 (-power)
  let low := scaled.num / scaled.den
  let candidate (n : Nat) : Ratio := Ratio.scale ⟨n, 1⟩ 10 power
  let hits := [low, low + 1].filter fun n => b.covers (candidate n)
  match hits with
  | [] => none
  | [n] => some n
  | m :: n :: _ =>
    if ((candidate n).distance r).lt ((candidate m).distance r) then some n else some m

/-- The shortest decimal digits of a positive binary number, with the power of ten of the last one,
searched for from coarse grids to fine ones. -/
def shortestFrom (b : Binary) (r : Ratio) : Nat → Int → Nat × Int
  | 0, power => ((r.scale 10 (-power)).round, power)
  | fuel + 1, power =>
    match onGrid b r power with
    | some n => (n, power)
    | none => shortestFrom b r fuel (power - 1)

/-- The shortest decimal digits of a positive binary number, with the power of ten of the last
one.  The coarsest grid is that of the power of ten above the number, which the number may round
to. -/
def shortest (b : Binary) : Nat × Int :=
  let r := b.toRatio
  shortestFrom b r 20 (powerBelow r 800 (-330) + 1)

end Binary

/-- Digits with a power of ten as positional text. -/
def positional (digits : Nat) (power : Int) : String :=
  let text := Nat.toDigits 10 digits
  if 0 ≤ power then
    String.ofList (text ++ List.replicate power.toNat '0') ++ ".0"
  else
    let places := (-power).toNat
    let padded := List.replicate (places + 1 - text.length) '0' ++ text
    let whole := padded.take (padded.length - places)
    let fraction := padded.drop (padded.length - places)
    String.ofList whole ++ "." ++ String.ofList fraction

/-- The text of the nearest binary number of {lit}`digits * 10 ^ power`; none if that is beyond the
greatest one. -/
def decimalText? (digits : Nat) (power : Int) : Option String :=
  (Binary.ofDecimal digits power).map fun b =>
    if b.significand = 0 then "0.0"
    else
      let (n, p) := b.shortest
      positional n p

end CallGuard.Toml
