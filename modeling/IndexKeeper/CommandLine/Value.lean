import IndexKeeper.Http.Host

/-!
# Values on the command line

The shapes of the values that options take, and which texts have them.
-/

namespace IndexKeeper.CommandLine

/-- The shape of a value. -/
inductive Shape
  | text
  /-- An integer from 0 up to a bound. -/
  | number (high : Nat)
  /-- An address and a port. -/
  | address
  | logLevel
  /-- Whether something is switched on. -/
  | flag
  deriving DecidableEq, Repr

/-- The greatest number of 16 bits. -/
def maxNumber16 : Nat := Nat.pow 2 16 - 1

/-- The greatest number of 64 bits. -/
def maxNumber64 : Nat := Nat.pow 2 64 - 1

/-- The number that a text gives.  A plus may stand before it; a minus may stand before a zero of
less than 64 bits. -/
def number? (high : Nat) (s : String) : Option Nat :=
  match s.toList with
  | '-' :: digits => (numeral? 10 digits).filter fun n => n = 0 ∧ high < maxNumber64
  | '+' :: digits | digits => (numeral? 10 digits).filter (· ≤ high)

/-- The words for the levels of logging, from the least to the most detail. -/
def logLevels : List String := ["error", "warn", "info", "debug", "trace"]

/-- Whether a text names a level of logging: its word in any case, or its number. -/
def isLogLevel (s : String) : Bool :=
  match number? maxNumber64 s with
  | some n => 1 ≤ n && n ≤ logLevels.length
  | none => logLevels.contains (String.ofList (s.toList.map Char.toLower))

/-- Whether characters give a port. -/
def isPort (cs : List Char) : Bool :=
  cs.all Char.isDigit && (numeral? 10 cs).any (· ≤ maxNumber16)

/-- Whether characters are an address of version 4. -/
def isAddress4 (cs : List Char) : Bool :=
  ((splitChars (· == '.') cs).mapM Host.decimalByte?).any (·.length = 4)

/-- Whether characters are an address of version 6, with or without a number for its scope. -/
def isAddress6 (cs : List Char) : Bool :=
  match splitFirst (· == '%') cs with
  | (address, none) => (Host.addressGroups? address).isSome
  | (address, some scope) =>
    (Host.addressGroups? address).isSome && scope.all Char.isDigit &&
      (numeral? 10 scope).any (· < Nat.pow 2 32)

/-- Whether a text is an address and a port; an address of version 6 stands in brackets. -/
def isSocketAddress (s : String) : Bool :=
  match splitLast? (· == ':') s.toList with
  | none => false
  | some (host, port) =>
    isPort port && match host with
      | '[' :: rest => rest.getLast? == some ']' && isAddress6 rest.dropLast
      | host => isAddress4 host

/-- Whether a text has a shape. -/
def Shape.accepts : Shape → String → Bool
  | text, _ => true
  | number high, s => (number? high s).isSome
  | address, s => isSocketAddress s
  | logLevel, s => isLogLevel s
  | flag, s => s == "true" || s == "false"

end IndexKeeper.CommandLine
