/-!
# Doubles

A finite IEEE 754 double as a sign, a significand and a power of two: the value is
`significand * 2 ^ exponent`.  All arithmetic is exact in natural numbers and rounded once at the
end, to the nearest double, a tie to the even significand; a result above the largest double is no
double.  Zero keeps its sign.
-/

namespace IndexKeeper

/-- A finite double.  A double built here has `-1074 ≤ exponent ≤ 971`, a significand below
`2 ^ 53`, and one below `2 ^ 52` at the least exponent only. -/
structure Binary64 where
  negative : Bool
  significand : Nat
  exponent : Int
  deriving DecidableEq, Repr

namespace Binary64

/-- The power of two of the smallest steps. -/
def minExponent : Int := -1074

/-- The power of two of the largest steps. -/
def maxExponent : Int := 971

/-- Zero with a sign. -/
def zero (negative : Bool) : Binary64 := ⟨negative, 0, minExponent⟩

/-- Whether the value is zero, of either sign. -/
def isZero (x : Binary64) : Bool := x.significand == 0

/-- The value with the other sign. -/
def neg (x : Binary64) : Binary64 := { x with negative := !x.negative }

/-- Two doubles of the same value: the zeros of both signs are one value. -/
def sameValue (x y : Binary64) : Bool := x == y || (x.isZero && y.isZero)

/-- A quotient rounded to the nearest natural number, a tie to the even one. -/
def roundQuotient (num den : Nat) : Nat :=
  let q := num / den
  let r := num % den
  if 2 * r < den then q
  else if den < 2 * r then q + 1
  else if q % 2 = 0 then q else q + 1

/-- A natural number times a power of two, as a numerator and a denominator. -/
def scaled (n : Nat) (exponent : Int) : Nat × Nat :=
  if exponent < 0 then (n, Nat.pow 2 exponent.natAbs) else (n * Nat.pow 2 exponent.natAbs, 1)

/-- The double nearest to `num / den`, if there is one. -/
def ofRatio? (negative : Bool) (num den : Nat) : Option Binary64 :=
  if num = 0 then some (zero negative)
  else
    let guess : Int := (num.log2 : Int) - (den.log2 : Int) - 52
    let quotient (e : Int) : Nat × Nat :=
      if e < 0 then (num * Nat.pow 2 e.natAbs, den) else (num, den * Nat.pow 2 e.natAbs)
    let whole := (quotient guess).1 / (quotient guess).2
    let fitted := if whole < Nat.pow 2 52 then guess - 1 else guess
    let e := max fitted minExponent
    let m := roundQuotient (quotient e).1 (quotient e).2
    let (m, e) := if m = Nat.pow 2 53 then (Nat.pow 2 52, e + 1) else (m, e)
    if e > maxExponent then none else some ⟨negative, m, e⟩

/-- The double nearest to a natural number, if there is one. -/
def ofNat? (n : Nat) : Option Binary64 := ofRatio? false n 1

/-- The size of a double as a numerator and a denominator. -/
def ratio (x : Binary64) : Nat × Nat := scaled x.significand x.exponent

/-- The rounded product, if it is a double. -/
def mul? (x y : Binary64) : Option Binary64 :=
  ofRatio? (x.negative != y.negative) (x.ratio.1 * y.ratio.1) (x.ratio.2 * y.ratio.2)

/-- The rounded quotient by a double other than zero, if it is a double. -/
def div? (x y : Binary64) : Option Binary64 :=
  ofRatio? (x.negative != y.negative) (x.ratio.1 * y.ratio.2) (x.ratio.2 * y.ratio.1)

/-- The integer a double is, if it is one. -/
def toInt? (x : Binary64) : Option Int :=
  if x.ratio.1 % x.ratio.2 = 0 then
    let n : Int := (x.ratio.1 / x.ratio.2 : Nat)
    some (if x.negative then -n else n)
  else none

/-- The double nearest to a power of ten, for powers within the range of doubles. -/
def tenPower? (n : Nat) : Option Binary64 := ofNat? (Nat.pow 10 n)

/-- The greatest power of ten that is within the range of doubles. -/
def maxTenPower : Nat := 308

/-- Divide `n` times by the greatest power of ten within range; zero is left as it is. -/
def shrink? : Nat → Binary64 → Option Binary64
  | 0, x => some x
  | n + 1, x =>
    if x.isZero then some x
    else (tenPower? maxTenPower).bind fun p => (x.div? p).bind (shrink? n)

/-- Multiply or divide by a power of ten within range. -/
def scaleOnce? (x : Binary64) (exponent : Int) : Option Binary64 :=
  (tenPower? exponent.natAbs).bind fun p => if exponent < 0 then x.div? p else x.mul? p

/-- Digits times a power of ten, in steps that each round: one multiplication or division by a
power of ten within range, after divisions by the greatest such power while the power asked for is
below the range.  Nothing if the value is above all doubles.  The steps may end beside the nearest
double. -/
def scaleByTen? (x : Binary64) (exponent : Int) : Option Binary64 :=
  if exponent.natAbs ≤ maxTenPower then scaleOnce? x exponent
  else if x.isZero then some x
  else if 0 ≤ exponent then none
  else
    let steps := (exponent.natAbs - 1) / maxTenPower
    (shrink? steps x).bind (scaleOnce? · (exponent + steps * maxTenPower))

/-- The double read for digits and a power of ten, if it is within range. -/
def ofScientific? (negative : Bool) (digits : Nat) (exponent : Int) : Option Binary64 :=
  ((ofNat? digits).bind (scaleByTen? · exponent)).map fun x => { x with negative := negative }

end Binary64

end IndexKeeper
