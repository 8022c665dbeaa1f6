import IndexKeeper.Text.Blank
import IndexKeeper.Text.Digits

/-!
# Timestamps

The times in the metadata of an object: a date, a time of day and an offset from UTC, in the
notation of RFC 3339, read leniently.  Blanks may stand before numbers and separators, numbers may
have fewer digits, a space may join the date and the time, and a year with a sign may have any
number of digits.  A day has to exist in its month, and the offset has to be less than a day.
-/

namespace IndexKeeper.Controller

/-- A date and a time of day, at an offset in seconds east of UTC. -/
structure Timestamp where
  year : Int
  month : Nat
  day : Nat
  hour : Nat
  minute : Nat
  second : Nat
  offset : Int
  deriving DecidableEq, Repr

namespace Timestamp

/-- Why a text gives no time. -/
inductive Problem
  | tooShort
  | tooLong
  | invalid
  | outOfRange
  /-- A time that is on no day once its offset is taken off. -/
  | impossible
  deriving DecidableEq, Repr

/-- The wording of why a text gives no time. -/
def Problem.message : Problem → String
  | tooShort => "premature end of input"
  | tooLong => "trailing input"
  | invalid => "input contains invalid characters"
  | outOfRange => "input is out of range"
  | impossible => "no possible date and time matching input"

/-! ## Numbers and separators -/

/-- A text without the blanks it starts with. -/
def skipBlanks (s : List Char) : List Char := s.dropWhile isBlank

/-- Read a number of one digit at least and of so many at most. -/
def readNumber (most : Nat) (s : List Char) : Except Problem (Nat × List Char) :=
  let digits := (s.take most).takeWhile Char.isDigit
  match numeral? 10 digits with
  | some n => .ok (n, s.drop digits.length)
  | none => .error (if s.isEmpty then .tooShort else .invalid)

/-- Read a number of at most two digits within bounds. -/
def readField (low high : Nat) (s : List Char) : Except Problem (Nat × List Char) :=
  match readNumber 2 (skipBlanks s) with
  | .error e => .error e
  | .ok (n, rest) => if low ≤ n ∧ n ≤ high then .ok (n, rest) else .error .outOfRange

/-- Read a year: at most four digits, or any number of digits after a sign. -/
def readYear (s : List Char) : Except Problem (Int × List Char) :=
  let signed (negative : Bool) (s : List Char) : Except Problem (Int × List Char) :=
    match readNumber s.length s with
    | .error e => .error e
    | .ok (n, rest) =>
      let year : Int := if negative then -n else n
      if -Int.pow 2 31 ≤ year ∧ year < Int.pow 2 31 then .ok (year, rest) else .error .outOfRange
  match skipBlanks s with
  | '-' :: rest => signed true rest
  | '+' :: rest => signed false rest
  | s => (readNumber 4 s).map fun (n, rest) => (n, rest)

/-- Pass over one of some characters. -/
def skipOneOf (allowed : List Char) : List Char → Except Problem (List Char)
  | [] => .error .tooShort
  | c :: rest => if allowed.contains c then .ok rest else .error .invalid

/-- Pass over a separator. -/
def skipSeparator (separator : Char) (s : List Char) : Except Problem (List Char) :=
  skipOneOf [separator] (skipBlanks s)

/-- Pass over a fraction of a second, if there is one. -/
def skipFraction : List Char → Except Problem (List Char)
  | '.' :: rest => (readNumber 1 rest).map fun _ => rest.dropWhile Char.isDigit
  | s => .ok s

/-! ## The offset from UTC -/

/-- Read two digits.  One character beyond ASCII is as long as two digits. -/
def readTwoDigits : List Char → Except Problem (Nat × List Char)
  | a :: b :: rest =>
    match numeral? 10 [a, b] with
    | some n => .ok (n, rest)
    | none => .error .invalid
  | [a] => .error (if a.toNat < 0x80 then .tooShort else .invalid)
  | [] => .error .tooShort

/-- Read hours and minutes, with a colon or blanks between them or nothing, as seconds. -/
def readHoursAndMinutes (s : List Char) : Except Problem (Nat × List Char) := do
  let (hours, s) ← readTwoDigits s
  let (minutes, s) ← readTwoDigits (s.dropWhile fun c => c == ':' || isBlank c)
  if 59 < minutes then throw .outOfRange
  return (hours * 3600 + minutes * 60, s)

/-- Read the offset from UTC: a sign with hours and minutes, or a word for UTC. -/
def readOffset (s : List Char) : Except Problem (Int × List Char) :=
  if (s.take 3).map Char.toUpper = ['U', 'T', 'C'] then .ok (0, s.drop 3)
  else match s with
    | 'Z' :: rest | 'z' :: rest => .ok (0, rest)
    | '+' :: rest => (readHoursAndMinutes rest).map fun (n, rest) => (n, rest)
    | '-' :: rest | '\u2212' :: rest => (readHoursAndMinutes rest).map fun (n, rest) => (-n, rest)
    | [] => .error .tooShort
    | _ => .error .invalid

/-! ## The calendar -/

/-- The first and the last year that are counted. -/
def firstYear : Int := -262143

/-- The last year that is counted. -/
def lastYear : Int := 262142

/-- Whether a year has a leap day. -/
def isLeap (year : Int) : Bool := year % 4 == 0 && (year % 100 != 0 || year % 400 == 0)

/-- The number of days of a month. -/
def daysOf (year : Int) (month : Nat) : Nat :=
  if month = 2 then (if isLeap year then 29 else 28)
  else if [4, 6, 9, 11].contains month then 30
  else 31

/-- Whether the date of a time exists and its offset is less than a day. -/
def isInRange (t : Timestamp) : Bool :=
  firstYear ≤ t.year && t.year ≤ lastYear && t.day ≤ daysOf t.year t.month &&
    t.offset.natAbs < 86400

/-- Whether the time is on a day that is counted once its offset is taken off. -/
def isPossible (t : Timestamp) : Bool :=
  let seconds : Int := t.hour * 3600 + t.minute * 60 + min t.second 59 - t.offset
  (0 ≤ seconds || (t.year, t.month, t.day) != (firstYear, 1, 1)) &&
    (seconds < 86400 || (t.year, t.month, t.day) != (lastYear, 12, 31))

/-! ## Reading -/

/-- Read the parts of a time, up to the end of a text. -/
def readParts (s : List Char) : Except Problem Timestamp := do
  let (year, s) ← readYear s
  let s ← skipSeparator '-' s
  let (month, s) ← readField 1 12 s
  let s ← skipSeparator '-' s
  let (day, s) ← readField 1 31 s
  let s ← skipOneOf ['T', 't', ' '] s
  let (hour, s) ← readField 0 23 s
  let s ← skipSeparator ':' s
  let (minute, s) ← readField 0 59 s
  let s ← skipSeparator ':' s
  let (second, s) ← readField 0 60 s
  let s ← skipFraction s
  let (offset, s) ← readOffset (skipBlanks s)
  if !(skipBlanks s).isEmpty then throw .tooLong
  return { year, month, day, hour, minute, second, offset }

/-- The time that a text gives. -/
def ofText (text : String) : Except Problem Timestamp := do
  let t ← readParts text.toList
  if !t.isInRange then throw .outOfRange
  if !t.isPossible then throw .impossible
  return t

/-- Why a text gives no time, in words, if it gives none. -/
def problem? (text : String) : Option String :=
  match ofText text with
  | .ok _ => none
  | .error p => some p.message

end Timestamp

end IndexKeeper.Controller
