/-!
# Errors of reading JSON

What is wrong with a text that should be JSON, and where.  Lines count from 1; the column is the
number of bytes of the line that were read, so a line break just read stands at column 0 of the
line it starts.
-/

namespace IndexKeeper

/-- What is wrong with a JSON text. -/
inductive ReadProblem
  | endInValue
  | endInList
  | endInObject
  | endInText
  | noValue
  | wrongWord
  | noColon
  | noMemberEnd
  | noItemEnd
  | keyNotText
  | trailingComma
  | trailingCharacters
  | invalidNumber
  | numberOutOfRange
  | invalidEscape
  | endOfHexEscape
  | loneSurrogate
  | invalidCodePoint
  | controlCharacter
  | tooDeep
  /-- A value of another type than the one asked for. -/
  | wrongType (found expected : String)
  /-- A value of the type asked for that is out of its bounds. -/
  | wrongValue (found expected : String)
  /-- A field of a record that is given twice. -/
  | duplicateField (name : String)
  | missingField (name : String)
  /-- A record that is written as an array and ends before a field that has to be there. -/
  | wrongLength (length : Nat) (expected : String)
  /-- A word that is not one of two words. -/
  | unknownWord (found one other : String)
  /-- A problem known by its description only. -/
  | described (text : String)
  deriving DecidableEq, Repr

/-- A problem and the place up to which the text was read. -/
structure ReadError where
  problem : ReadProblem
  line : Nat
  column : Nat
  deriving DecidableEq, Repr

/-- The wording of a problem. -/
def ReadProblem.message : ReadProblem → String
  | endInValue => "EOF while parsing a value"
  | endInList => "EOF while parsing a list"
  | endInObject => "EOF while parsing an object"
  | endInText => "EOF while parsing a string"
  | noValue => "expected value"
  | wrongWord => "expected ident"
  | noColon => "expected `:`"
  | noMemberEnd => "expected `,` or `\x7d`"
  | noItemEnd => "expected `,` or `]`"
  | keyNotText => "key must be a string"
  | trailingComma => "trailing comma"
  | trailingCharacters => "trailing characters"
  | invalidNumber => "invalid number"
  | numberOutOfRange => "number out of range"
  | invalidEscape => "invalid escape"
  | endOfHexEscape => "unexpected end of hex escape"
  | loneSurrogate => "lone leading surrogate in hex escape"
  | invalidCodePoint => "invalid unicode code point"
  | controlCharacter => "control character (\\u0000-\\u001F) found while parsing a string"
  | tooDeep => "recursion limit exceeded"
  | wrongType found expected => "invalid type: " ++ found ++ ", expected " ++ expected
  | wrongValue found expected => "invalid value: " ++ found ++ ", expected " ++ expected
  | duplicateField name => "duplicate field `" ++ name ++ "`"
  | missingField name => "missing field `" ++ name ++ "`"
  | wrongLength length expected =>
    "invalid length " ++ toString length ++ ", expected " ++ expected
  | unknownWord found one other =>
    "unknown variant `" ++ found ++ "`, expected `" ++ one ++ "` or `" ++ other ++ "`"
  | described text => text

/-- The wording of an error with its place. -/
def ReadError.message (e : ReadError) : String :=
  e.problem.message ++ " at line " ++ toString e.line ++ " column " ++ toString e.column

end IndexKeeper
