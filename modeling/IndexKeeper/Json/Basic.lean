import IndexKeeper.Keyed
import IndexKeeper.Number.Decimal

/-!
# JSON values

A number is an integer of 64 bits, signed or unsigned, or a double; `1` and `1.0` are different
values.  The members of an object are keyed entries: `Json.Ordered` says that the keys of every
object in a value, at any depth, are in order and occur once.  `sameValue` is equality up to the
sign of zero.
-/

namespace IndexKeeper

/-- A JSON number.  Readers give integers from `-2 ^ 63` up to below `2 ^ 64`. -/
inductive Number
  | int (value : Int)
  | real (value : Binary64)
  deriving DecidableEq, Repr

/-- A JSON value. -/
inductive Json
  | null
  | bool (value : Bool)
  | num (value : Number)
  | str (value : String)
  | arr (items : List Json)
  | obj (members : List (String × Json))
  deriving Repr, Inhabited

namespace Number

/-- Equal up to the sign of a zero double. -/
def sameValue : Number → Number → Bool
  | .int a, .int b => a == b
  | .real x, .real y => x.sameValue y
  | _, _ => false

/-- A number as JSON text. -/
def jsonText : Number → String
  | .int i => toString i
  | .real x => x.jsonText

/-- A number in the one form in which settings are compared: whole doubles below `1e15` as
integers, other doubles in full with their shortest digits. -/
def canonicalText : Number → String
  | .int i => toString i
  | .real x =>
    match x.toInt? with
    | some i => if i.natAbs < Nat.pow 10 15 then toString i else x.plainText
    | none => x.plainText

end Number

namespace Json

/-! ## Parts of a value -/

/-- The members of an object. -/
def members? : Json → Option (List (String × Json))
  | obj ms => some ms
  | _ => none

/-- The member of an object under a key. -/
def get? (key : String) : Json → Option Json
  | obj ms => Keyed.get? key ms
  | _ => none

/-- Whether the value is an object. -/
def isObject : Json → Bool
  | obj _ => true
  | _ => false

/-- The text of a text value. -/
def text? : Json → Option String
  | str s => some s
  | _ => none

/-- The integer, if the value is a number that is one of `low` up to `high`. -/
def intWithin? (low high : Int) : Json → Option Int
  | num (.int i) => if low ≤ i ∧ i ≤ high then some i else none
  | _ => none

/-- The signed integer of so many bits, if the value is one. -/
def signed? (bits : Nat) : Json → Option Int :=
  intWithin? (-Int.pow 2 (bits - 1)) (Int.pow 2 (bits - 1) - 1)

/-- The signed integer of 64 bits, if the value is one. -/
def int64? : Json → Option Int := signed? 64

/-- An integer value. -/
def ofInt (i : Int) : Json := num (.int i)

/-- An object from members in any order; of two under one key the later one counts. -/
def ofMembers (entries : List (String × Json)) : Json := obj (Keyed.ofList entries)

/-- An array of texts. -/
def ofTexts (texts : List String) : Json := arr (texts.map str)

/-! ## Order -/

mutual

/-- The keys of every object in the value are in order. -/
def Ordered : Json → Prop
  | arr items => OrderedItems items
  | obj ms => Keyed.Ordered ms ∧ OrderedMembers ms
  | _ => True

/-- Every item of an array is in order. -/
def OrderedItems : List Json → Prop
  | [] => True
  | v :: rest => Ordered v ∧ OrderedItems rest

/-- The value of every member is in order. -/
def OrderedMembers : List (String × Json) → Prop
  | [] => True
  | (_, v) :: rest => Ordered v ∧ OrderedMembers rest

end

/-! ## Equality up to the sign of zero -/

mutual

/-- Equal up to the sign of zero doubles. -/
def sameValue : Json → Json → Bool
  | null, null => true
  | bool a, bool b => a == b
  | num a, num b => a.sameValue b
  | str a, str b => a == b
  | arr a, arr b => sameItems a b
  | obj a, obj b => sameMembers a b
  | _, _ => false

/-- Item by item. -/
def sameItems : List Json → List Json → Bool
  | [], [] => true
  | v :: rest, w :: rest' => sameValue v w && sameItems rest rest'
  | _, _ => false

/-- Member by member, the keys equal. -/
def sameMembers : List (String × Json) → List (String × Json) → Bool
  | [], [] => true
  | (k, v) :: rest, (k', w) :: rest' => k == k' && sameValue v w && sameMembers rest rest'
  | _, _ => false

end

end Json

end IndexKeeper
