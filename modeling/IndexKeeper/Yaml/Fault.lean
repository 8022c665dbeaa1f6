/-!
# What is wrong with a YAML text

A fault names the problem, the place where reading stopped, and mostly what was being read and where
that began.  Lines and columns are counted from 0 and written from 1.  The very start of a text is
never written as a place.
-/

namespace IndexKeeper.Yaml

/-- A place in a text: a line and a column, both counted from 0. -/
structure Mark where
  line : Nat := 0
  column : Nat := 0
  deriving DecidableEq, Repr

namespace Mark

/-- The start of a text. -/
def start : Mark := {}

/-- The place in words. -/
def text (m : Mark) : String :=
  "line " ++ toString (m.line + 1) ++ " column " ++ toString (m.column + 1)

/-- The place as the end of a message; nothing at the start of the text. -/
def suffix (m : Mark) : String := if m = start then "" else " at " ++ m.text

end Mark

/-- What was being read when a problem was found. -/
inductive Context
  | nextToken
  | simpleKey
  | directive
  | versionDirective
  | tagDirective
  | tagDirectiveHandle
  | tagDirectiveOpening
  | tagDirectiveUri
  | anchor
  | alias_
  | tag
  | tagUri
  | blockScalar
  | quotedScalar
  | escape
  | plainScalar
  | node
  | blockNode
  | flowNode
  | blockSequence
  | flowSequence
  deriving DecidableEq, Repr

/-- The wording of what was being read. -/
def Context.text : Context → String
  | nextToken => "while scanning for the next token"
  | simpleKey => "while scanning a simple key"
  | directive => "while scanning a directive"
  | versionDirective => "while scanning a %YAML directive"
  | tagDirective => "while scanning a %TAG directive"
  | tagDirectiveHandle => "while parsing a tag directive"
  | tagDirectiveOpening => "while scanning a tag directive"
  | tagDirectiveUri => "while parsing a %TAG directive"
  | anchor => "while scanning an anchor"
  | alias_ => "while scanning an alias"
  | tag => "while scanning a tag"
  | tagUri => "while parsing a tag"
  | blockScalar => "while scanning a block scalar"
  | quotedScalar => "while scanning a quoted scalar"
  | escape => "while parsing a quoted scalar"
  | plainScalar => "while scanning a plain scalar"
  | node => "while parsing a node"
  | blockNode => "while parsing a block node"
  | flowNode => "while parsing a flow node"
  | blockSequence => "while parsing a block collection"
  | flowSequence => "while parsing a flow sequence"

/-- What is wrong. -/
inductive Problem
  | strayCharacter
  | noColon
  | entryNotAllowed
  | keyNotAllowed
  | valueNotAllowed
  | unknownDirective
  | noDirectiveName
  | directiveNameEnd
  | noLineEnd
  | noVersionPoint
  | longVersion
  | noVersion
  | noSpace
  | noSpaceOrBreak
  | noName
  | noTagEnd
  | noExclamation
  | noUri
  | noOctet
  | leadingOctet
  | trailingOctet
  | zeroIndentation
  | tabInIndentation
  | documentMark
  | endOfText
  | unknownEscape
  | noHexDigits
  | invalidCodePoint
  | colonInPlain
  | tabInPlain
  | noDocumentStart
  | twoVersions
  | unknownVersion
  | twoTagDirectives
  | unknownHandle
  | noContent
  | noEntry
  | noSequenceEnd
  deriving DecidableEq, Repr

/-- The wording of a problem. -/
def Problem.text : Problem → String
  | strayCharacter => "found character that cannot start any token"
  | noColon => "could not find expected ':'"
  | entryNotAllowed => "block sequence entries are not allowed in this context"
  | keyNotAllowed => "mapping keys are not allowed in this context"
  | valueNotAllowed => "mapping values are not allowed in this context"
  | unknownDirective => "found unknown directive name"
  | noDirectiveName => "could not find expected directive name"
  | directiveNameEnd => "found unexpected non-alphabetical character"
  | noLineEnd => "did not find expected comment or line break"
  | noVersionPoint => "did not find expected digit or '.' character"
  | longVersion => "found extremely long version number"
  | noVersion => "did not find expected version number"
  | noSpace => "did not find expected whitespace"
  | noSpaceOrBreak => "did not find expected whitespace or line break"
  | noName => "did not find expected alphabetic or numeric character"
  | noTagEnd => "did not find the expected '>'"
  | noExclamation => "did not find expected '!'"
  | noUri => "did not find expected tag URI"
  | noOctet => "did not find URI escaped octet"
  | leadingOctet => "found an incorrect leading UTF-8 octet"
  | trailingOctet => "found an incorrect trailing UTF-8 octet"
  | zeroIndentation => "found an indentation indicator equal to 0"
  | tabInIndentation => "found a tab character where an indentation space is expected"
  | documentMark => "found unexpected document indicator"
  | endOfText => "found unexpected end of stream"
  | unknownEscape => "found unknown escape character"
  | noHexDigits => "did not find expected hexdecimal number"
  | invalidCodePoint => "found invalid Unicode character escape code"
  | colonInPlain => "found unexpected ':'"
  | tabInPlain => "found a tab character that violates indentation"
  | noDocumentStart => "did not find expected <document start>"
  | twoVersions => "found duplicate %YAML directive"
  | unknownVersion => "found incompatible YAML document"
  | twoTagDirectives => "found duplicate %TAG directive"
  | unknownHandle => "found undefined tag handle"
  | noContent => "did not find expected node content"
  | noEntry => "did not find expected '-' indicator"
  | noSequenceEnd => "did not find expected ',' or ']'"

/-- Why a text is not YAML. -/
inductive Fault
  /-- A character that no text may hold, after so many bytes. -/
  | forbiddenCharacter (offset : Nat)
  /-- A problem, where it was found, and what was being read from where on. -/
  | problem (problem : Problem) (at_ : Mark) (within : Option (Context × Mark))
  deriving DecidableEq, Repr

namespace Fault

/-- The fault of a problem found while something was being read. -/
def within (context : Context) (began : Mark) (what : Problem) (at_ : Mark) : Fault :=
  .problem what at_ (some (context, began))

/-- What was being read, as the end of a message; where it began is told only if that is another
place than that of the problem. -/
def contextText (at_ : Mark) : Option (Context × Mark) → String
  | none => ""
  | some (context, began) =>
    ", " ++ context.text ++ if began = at_ then "" else began.suffix

/-- The wording of a fault. -/
def message : Fault → String
  | forbiddenCharacter offset =>
    "control characters are not allowed" ++
      if offset = 0 then "" else " at position " ++ toString offset
  | problem what at_ context => what.text ++ at_.suffix ++ contextText at_ context

end Fault

end IndexKeeper.Yaml
