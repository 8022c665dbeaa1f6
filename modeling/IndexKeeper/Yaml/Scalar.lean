import IndexKeeper.Number.Decimal
import IndexKeeper.Text.Digits

/-!
# YAML scalars

What an unquoted scalar stands for: nothing, a truth value, an integer, a number, or else a text.
Integers are decimal, or hexadecimal, octal or binary after a mark; digits after a zero in front
are a text.  A tag says what a scalar must stand for.
-/

namespace IndexKeeper.Yaml

/-- What an unquoted scalar stands for. -/
inductive Scalar
  | null
  | bool (value : Bool)
  | integer (value : Int)
  | real (value : Binary64)
  /-- An infinity, or no number. -/
  | unbounded (text : String)
  | text (value : String)
  deriving DecidableEq, Repr

namespace Scalar

/-- The sign of a number and what follows it. -/
def splitSign : List Char → Bool × List Char
  | '+' :: cs => (false, cs)
  | '-' :: cs => (true, cs)
  | cs => (false, cs)

/-- The integer without its sign. -/
def magnitude? : List Char → Option Nat
  | '0' :: 'x' :: cs => numeral? 16 cs
  | '0' :: 'o' :: cs => numeral? 8 cs
  | '0' :: 'b' :: cs => numeral? 2 cs
  | cs => numeral? 10 cs

/-- Whether digits after a zero in front make a text of what would be a number. -/
def isPadded : List Char → Bool
  | '0' :: cs => !cs.isEmpty && cs.all Char.isDigit
  | _ => false

/-- Whether an integer is in the range that integers are read in; those outside are numbers. -/
def isInRange (i : Int) : Bool := -Int.pow 2 127 ≤ i ∧ i < Int.pow 2 128

/-- The integer that a scalar is. -/
def integer? (cs : List Char) : Option Int :=
  let (negative, cs) := splitSign cs
  if isPadded cs then none
  else ((magnitude? cs).map fun n => if negative then -n else (n : Int)).filter isInRange

/-- The exponent of a number, from its letter on. -/
def exponent? : List Char → Option Int
  | [] => some 0
  | c :: cs =>
    if c = 'e' ∨ c = 'E' then
      let (negative, cs) := splitSign cs
      (numeral? 10 cs).map fun n => if negative then -n else n
    else none

/-- The greatest exponent that counts; beyond it every number is zero or above all doubles. -/
def maxExponent : Nat := 5000

/-- The double nearest to digits times a power of ten. -/
def nearest? (negative : Bool) (digits : Nat) (exponent : Int) : Option Binary64 :=
  if digits = 0 then some (.zero negative)
  else if maxExponent < exponent then none
  else if exponent < -maxExponent then some (.zero negative)
  else if 0 ≤ exponent then Binary64.ofRatio? negative (digits * Nat.pow 10 exponent.natAbs) 1
  else Binary64.ofRatio? negative digits (Nat.pow 10 exponent.natAbs)

/-- The double that a scalar is, digits after a zero in front being digits like all others. -/
def real? (cs : List Char) : Option Binary64 := do
  let (negative, cs) := splitSign cs
  let whole := cs.takeWhile Char.isDigit
  let rest := cs.drop whole.length
  let fraction := match rest with
    | '.' :: more => more.takeWhile Char.isDigit
    | _ => []
  let rest := match rest with
    | '.' :: more => more.drop fraction.length
    | rest => rest
  let n ← numeral? 10 (whole ++ fraction)
  let exponent ← exponent? rest
  nearest? negative n (exponent - fraction.length)

/-- The words for nothing. -/
def nullWords : List String := ["~", "null", "Null", "NULL"]

/-- The truth value that a word stands for. -/
def bool? (s : String) : Option Bool :=
  if ["true", "True", "TRUE"].contains s then some true
  else if ["false", "False", "FALSE"].contains s then some false
  else none

/-- The number that a text stands for: a double, an infinity, or no number. -/
def number? (s : String) : Option Scalar :=
  if [".inf", ".Inf", ".INF", "+.inf", "+.Inf", "+.INF"].contains s then some (unbounded "inf")
  else if ["-.inf", "-.Inf", "-.INF"].contains s then some (unbounded "-inf")
  else if [".nan", ".NaN", ".NAN"].contains s then some (unbounded "NaN")
  else (real? s.toList).map real

/-- What an unquoted scalar stands for. -/
def ofPlain (s : String) : Scalar :=
  if s.isEmpty || nullWords.contains s then null
  else match bool? s, integer? s.toList with
    | some b, _ => bool b
    | none, some i => integer i
    | none, none =>
      if isPadded (splitSign s.toList).2 then text s else (number? s).getD (text s)

/-! ## Tags -/

/-- What a tag says that a scalar stands for. -/
inductive Kind
  | null
  | bool
  | integer
  | number
  deriving DecidableEq, Repr

/-- The wording of what a tag says. -/
def Kind.text : Kind → String
  | null => "null"
  | bool => "a boolean"
  | integer => "an integer"
  | number => "a float"

/-- What a tag says that a scalar stands for; other tags say nothing. -/
def Kind.ofTag? (tag : String) : Option Kind :=
  if tag = "tag:yaml.org,2002:null" then some .null
  else if tag = "tag:yaml.org,2002:bool" then some .bool
  else if tag = "tag:yaml.org,2002:int" then some .integer
  else if tag = "tag:yaml.org,2002:float" then some .number
  else none

/-- What a text stands for if it is of some kind. -/
def ofKind? (s : String) : Kind → Option Scalar
  | .null => if nullWords.contains s then some null else none
  | .bool => (bool? s).map bool
  | .integer => (integer? s.toList).map integer
  | .number => number? s

/-- What a scalar stands for, or the kind that its tag wrongly gives it.  Of the other tags those of
a document's own leave an unquoted scalar what it is; the rest make a text of every scalar. -/
def ofTagged (s : String) (isPlain : Bool) : Option String → Except Kind Scalar
  | none => .ok (if isPlain then ofPlain s else text s)
  | some tag =>
    match Kind.ofTag? tag with
    | some kind => ((ofKind? s kind).map .ok).getD (.error kind)
    | none => .ok (if isPlain && tag.startsWith "!" then ofPlain s else text s)

end Scalar

end IndexKeeper.Yaml
