import IndexKeeper.Yaml.Fault

/-!
# Tokens of YAML

The signs and words that a text consists of, and those that indentation implies: the start of a
block collection and its end.
-/

namespace IndexKeeper.Yaml

/-- What a token is. -/
inductive TokenKind
  | versionDirective (major minor : Nat)
  /-- What a handle in front of a tag stands for. -/
  | tagDirective (handle meaning : String)
  | documentStart
  | documentEnd
  | blockSequenceStart
  | blockMappingStart
  | blockEnd
  | flowSequenceStart
  | flowSequenceEnd
  | flowMappingStart
  | flowMappingEnd
  | blockEntry
  | flowEntry
  | key
  | value
  | alias_ (name : String)
  | anchor (name : String)
  | tag (handle ending : String)
  | scalar (text : String) (isPlain : Bool)
  | textEnd
  deriving DecidableEq, Repr

/-- A token and the place where it starts. -/
structure Token where
  kind : TokenKind
  mark : Mark
  deriving DecidableEq, Repr

/-- The fault of a problem with a token. -/
def Token.fail {α : Type} (t : Token) (what : Problem) (within? : Option (Context × Mark)) :
    Except Fault α :=
  .error (.problem what t.mark within?)

/-- The tokens of a text, or what is left of them. -/
structure Tokens where
  list : List Token
  /-- Where the text ends, or the fault that ends the tokens. -/
  ending : Except Fault Mark

namespace Tokens

/-- The token ahead; the end of the text is one too. -/
def peek (ts : Tokens) : Except Fault Token :=
  match ts.list with
  | t :: _ => .ok t
  | [] => ts.ending.map (⟨.textEnd, ·⟩)

/-- What follows the token ahead. -/
def tail (ts : Tokens) : Tokens := { ts with list := ts.list.tail }

end Tokens

end IndexKeeper.Yaml
