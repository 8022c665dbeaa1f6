import IndexKeeper.Number.Binary64

/-!
# Shortest decimals

`Decimal.shortest` gives the fewest decimal digits that read back as a double, and of those with
as few digits the nearest.  A decimal reads back as a double if it lies in the interval of numbers
that round to it; the ends belong to the interval of an even significand.  The digits are searched
on finer and finer decimal grids: on each grid the two neighbours of the value are tried, and the
first grid with a neighbour in the interval gives the digits.  A double may lie halfway between two
such neighbours; which of them is taken is a choice of the layout.

A decimal is written in two layouts: in full (`Decimal.plain`), halves going up, and as JSON writes
a double (`Decimal.json`), halves going to the even digit and with an exponent where the full form
would be long.
-/

namespace IndexKeeper

/-- A positive decimal: `digits * 10 ^ exponent`. -/
structure Decimal where
  digits : Nat
  exponent : Int
  deriving DecidableEq, Repr

namespace Decimal

/-- How many decimal digits a number has; zero has one. -/
def digitCount (n : Nat) : Nat := (Nat.toDigits 10 n).length

/-- The place of the decimal point: `10 ^ (place - 1) ≤ num / den < 10 ^ place`. -/
def place (num den : Nat) : Int :=
  if den ≤ num then digitCount (num / den) else 1 - (digitCount ((den - 1) / num) : Int)

/-- A number without its trailing zeros, which the exponent takes over. -/
def dropZeros : Nat → Nat → Int → Decimal
  | 0, n, e => ⟨n, e⟩
  | fuel + 1, n, e => if n % 10 = 0 then dropZeros fuel (n / 10) (e + 1) else ⟨n, e⟩

/-- The numbers that round to a double: its value and the two ends, all over one denominator. -/
structure Interval where
  low : Nat
  value : Nat
  high : Nat
  den : Nat
  closed : Bool

/-- The numbers that round to a double other than zero.  Below a power of two the doubles lie twice
as close, so the lower end is half as far. -/
def Interval.of (x : Binary64) : Interval :=
  let below := if x.significand = Nat.pow 2 52 ∧ x.exponent ≠ Binary64.minExponent then 1 else 2
  let at_ (n : Nat) := (Binary64.scaled n (x.exponent - 2)).1
  { low := at_ (4 * x.significand - below)
    value := at_ (4 * x.significand)
    high := at_ (4 * x.significand + 2)
    den := (Binary64.scaled 1 (x.exponent - 2)).2
    closed := x.significand % 2 == 0 }

/-- Whether `n` steps of `num / den` lie in the interval. -/
def Interval.holds (i : Interval) (n num den : Nat) : Bool :=
  if i.closed then i.low * den ≤ n * num * i.den && n * num * i.den ≤ i.high * den
  else i.low * den < n * num * i.den && n * num * i.den < i.high * den

/-- Which of two neighbours is taken for a value halfway between them. -/
inductive Halfway
  | toEven
  | up
  deriving DecidableEq, Repr

/-- The neighbour taken for a value halfway between `n` and `n + 1`. -/
def Halfway.pick : Halfway → Nat → Nat
  | toEven, n => if n % 2 = 0 then n else n + 1
  | up, n => n + 1

/-- The neighbour of the value, on the grid of steps `10 ^ step`, that lies in the interval: the
nearer if both do. -/
def Interval.neighbour? (i : Interval) (halfway : Halfway) (step : Int) : Option Nat :=
  let num := if step < 0 then 1 else Nat.pow 10 step.natAbs
  let den := if step < 0 then Nat.pow 10 step.natAbs else 1
  let n := i.value * den / (i.den * num)
  let past := i.value * den % (i.den * num)
  match i.holds n num den, i.holds (n + 1) num den with
  | true, true =>
    if 2 * past < i.den * num then some n
    else if i.den * num < 2 * past then some (n + 1)
    else some (halfway.pick n)
  | true, false => some n
  | false, true => some (n + 1)
  | false, false => none

/-- The fewest digits that read back as a double other than zero, the nearest of those.  Seventeen
digits always do. -/
def shortest (halfway : Halfway) (x : Binary64) : Decimal :=
  let i := Interval.of x
  let point := place i.value i.den
  let found := (List.range 17).findSome? fun k =>
    let step := point - (k + 1 : Nat)
    (i.neighbour? halfway step).map fun n => (n, step)
  let (n, step) := found.getD (0, 0)
  dropZeros (digitCount n) n step

/-! ## Layouts -/

/-- `n` zeros. -/
def zeros (n : Nat) : String := String.ofList (List.replicate n '0')

/-- The digits and their decimal point; digits and point are given as text and place. -/
def pointed (digits : List Char) (point : Int) : String :=
  if point ≤ 0 then "0." ++ zeros point.natAbs ++ String.ofList digits
  else if (digits.length : Int) ≤ point then
    String.ofList digits ++ zeros (point.natAbs - digits.length)
  else String.ofList (digits.take point.natAbs) ++ "." ++ String.ofList (digits.drop point.natAbs)

/-- The decimal in full, with a point only if there is a fraction. -/
def plain (d : Decimal) : String :=
  let digits := Nat.toDigits 10 d.digits
  pointed digits (digits.length + d.exponent)

/-- The decimal as JSON writes a double: in full, with at least one digit after the point, from
`1e-5` up to below `1e16`; else one digit, the fraction if any, and the exponent with its sign. -/
def json (d : Decimal) : String :=
  let digits := Nat.toDigits 10 d.digits
  let point : Int := digits.length + d.exponent
  if -5 < point ∧ point ≤ 16 then
    if (digits.length : Int) ≤ point then pointed digits point ++ ".0" else pointed digits point
  else
    let power := point - 1
    let head := String.ofList (digits.take 1)
    let fraction := if digits.length ≤ 1 then "" else "." ++ String.ofList (digits.drop 1)
    head ++ fraction ++ "e" ++ (if power < 0 then "-" else "+") ++ toString power.natAbs

end Decimal

/-! ## Texts of doubles -/

namespace Binary64

/-- The sign as written. -/
def signText (x : Binary64) : String := if x.negative then "-" else ""

/-- A double as JSON text. -/
def jsonText (x : Binary64) : String :=
  x.signText ++ if x.isZero then "0.0" else (Decimal.shortest .toEven x).json

/-- A double with its shortest digits in full, whole values without a point. -/
def plainText (x : Binary64) : String :=
  x.signText ++ if x.isZero then "0" else (Decimal.shortest .up x).plain

end Binary64

end IndexKeeper
