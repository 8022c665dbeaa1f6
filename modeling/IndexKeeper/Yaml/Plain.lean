import IndexKeeper.Yaml.Cursor

/-!
# Unquoted scalars

The text of a scalar without quotes: words, and what the gaps between them stand for.  It ends at a
colon that ends a word, at a comment, at the mark of a document, and with the indentation of the
collection that it stands in; in a flow collection also at the signs of that collection.
-/

namespace IndexKeeper.Yaml

/-! ## Gaps -/

/-- The text that line breaks stand for: a line feed alone is a space, and of several the first
stands for nothing.  Breaks of another kind at the start are all kept. -/
def joinedBreaks : List Char → List Char
  | ['\n'] => [' ']
  | '\n' :: more => more
  | breaks => breaks

/-- The text that a gap stands for: its blanks if it lies in one line, else its breaks. -/
def joinedGap (gap : List Char) : List Char :=
  match gap.filter isBreak with
  | [] => gap
  | breaks => joinedBreaks breaks

/-- The place of the first tab that stands after a line break and before a column. -/
def tabBefore? (column : Nat) : Mark → Bool → List Char → Option Mark
  | _, _, [] => none
  | m, inIndentation, c :: rest =>
    if inIndentation && c == '\t' && m.column < column then some m
    else tabBefore? column (m.after c) (inIndentation || isBreak c) rest

/-! ## Words -/

/-- Whether some characters start with a colon that can't stand in a flow collection. -/
def isMisplacedColon : List Char → Bool
  | ':' :: c :: _ => c == '?' || isFlowIndicator c
  | _ => false

/-- Whether an unquoted word ends before some characters. -/
def endsPlainWord (inFlow : Bool) : List Char → Bool
  | [] => true
  | c :: rest =>
    isGap c || (c == ':' && endsWord rest.head?) ||
      (inFlow && (isFlowIndicator c || isMisplacedColon (c :: rest)))

/-- The unquoted word that some characters start with. -/
def plainWord (inFlow : Bool) : List Char → List Char
  | [] => []
  | c :: rest => if endsPlainWord inFlow (c :: rest) then [] else c :: plainWord inFlow rest

/-- The text of an unquoted scalar, and whether a line ended after its last word. -/
structure PlainText where
  text : List Char
  endedLine : Bool

/-- An unquoted scalar from a word on, after a gap.  Outside of flow collections the columns before
the given one end it. -/
def plainFrom (inFlow : Bool) (column : Nat) (began : Mark) (gap : List Char) (c : Cursor) :
    Reading PlainText :=
  let word := plainWord inFlow c.rest
  let after := c.advanceBy word.length
  let next := after.span isGap
  if c.atDocumentMark || c.isAt '#' then .ok (⟨[], gap.any isBreak⟩, c)
  else if inFlow && isMisplacedColon after.rest then after.fail .plainScalar began .colonInPlain
  else if word.isEmpty then .ok (⟨[], gap.any isBreak⟩, c)
  else
    match tabBefore? column after.mark false next.1 with
    | some place => .error (.within .plainScalar began .tabInPlain place)
    | none =>
      if _stop : next.1 = [] ∨ (inFlow = false ∧ next.2.mark.column < column) then
        .ok (⟨joinedGap gap ++ word, next.1.any isBreak⟩, next.2)
      else
        (plainFrom inFlow column began next.1 next.2).map fun (more, last) =>
          ({ more with text := joinedGap gap ++ word ++ more.text }, last)
termination_by c.rest.length
decreasing_by
  have taken := after.length_span isGap
  have shorter : after.rest.length ≤ c.rest.length := by
    simp [after, Cursor.rest_advanceBy]
  have some_gap : 0 < next.1.length := List.length_pos_iff.2 fun e => _stop (.inl e)
  simp only [next, after, word] at *
  omega

/-- The unquoted scalar ahead. -/
def readPlain (inFlow : Bool) (column : Nat) (c : Cursor) : Reading PlainText :=
  plainFrom inFlow column c.mark [] c

end IndexKeeper.Yaml
