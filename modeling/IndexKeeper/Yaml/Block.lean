import IndexKeeper.Text.Digits
import IndexKeeper.Yaml.Cursor

/-!
# Block scalars

The text of a scalar that is told by its indentation.  Its header says whether its lines are kept
or folded into one another, where they start, and what becomes of the line breaks at its end; where
they start is otherwise told by the first line that is not empty.
-/

namespace IndexKeeper.Yaml

/-- What becomes of the line breaks at the end of a block scalar. -/
inductive Chomping
  /-- The first of them is kept. -/
  | clip
  /-- None of them is kept. -/
  | strip
  /-- All of them are kept. -/
  | keep
  deriving DecidableEq, Repr

/-- The header of a block scalar. -/
structure BlockHeader where
  isLiteral : Bool
  chomping : Chomping := .clip
  /-- How many columns its lines stand further in than what holds it. -/
  increment? : Option Nat := none

namespace BlockHeader

/-- Read a sign for what becomes of the line breaks, if there is one. -/
def readChomping (h : BlockHeader) (c : Cursor) : BlockHeader × Cursor :=
  if c.isAt '+' then ({ h with chomping := .keep }, c.advance)
  else if c.isAt '-' then ({ h with chomping := .strip }, c.advance)
  else (h, c)

/-- Read a digit for the increment, if there is one. -/
def readIncrement (h : BlockHeader) (began : Mark) (c : Cursor) : Reading BlockHeader :=
  match c.peek?.bind (digitValue? 10) with
  | none => .ok (h, c)
  | some 0 => c.fail .blockScalar began .zeroIndentation
  | some n => .ok ({ h with increment? := some n }, c.advance)

/-- Read a header: the sign and the digit, in either order. -/
def read (isLiteral : Bool) (began : Mark) (c : Cursor) : Reading BlockHeader :=
  let (h, after) := readChomping { isLiteral } c
  if h.chomping = .clip then
    (readIncrement h began after).map fun (h, after) =>
      if h.increment?.isSome then h.readChomping after else (h, after)
  else readIncrement h began after

end BlockHeader

/-! ## Lines -/

/-- The line breaks of the empty lines ahead and the greatest column that their spaces, and those of
the line after them, reach.  Where the lines of the scalar start is known or not yet. -/
structure EmptyLines where
  breaks : List Char := []
  column : Nat := 0

/-- Pass over empty lines and the indentation of the line after them. -/
def readEmptyLines (indent? : Option Nat) (began : Mark) (c : Cursor) : Reading EmptyLines :=
  let spaces := (c.rest.takeWhile (· == ' ')).length
  let missing := (indent?.getD (c.mark.column + spaces)) - c.mark.column
  let at_ := c.advanceBy (min spaces missing)
  if at_.isAt '\t' && indent?.all (at_.mark.column < ·) then
    at_.fail .blockScalar began .tabInIndentation
  else
    match _ahead : at_.rest with
    | [] => .ok ({ column := at_.mark.column }, at_)
    | x :: _ =>
      if isBreak x then
        (readEmptyLines indent? began at_.advance).map fun (more, last) =>
          ({ breaks := x :: more.breaks, column := max at_.mark.column more.column }, last)
      else .ok ({ column := at_.mark.column }, at_)
termination_by c.rest.length
decreasing_by
  have := congrArg List.length _ahead
  simp only [Cursor.rest_advance, Cursor.rest_advanceBy, List.length_tail, List.length_drop,
    List.length_cons, at_] at *
  omega

/-- Empty lines are passed over forwards. -/
theorem length_readEmptyLines {indent? : Option Nat} {began : Mark} {c last : Cursor}
    {lines : EmptyLines} (h : readEmptyLines indent? began c = .ok (lines, last)) :
    last.rest.length ≤ c.rest.length := by
  fun_induction readEmptyLines indent? began c generalizing lines last with
  | case1 => simp [Cursor.fail] at h
  | case2 c _ _ at_ =>
    cases h
    simp [at_, Cursor.rest_advanceBy]
  | case3 =>
    rename_i c _ _ at_ _ _ _ _ _ ih
    cases read : readEmptyLines indent? began at_.advance with
    | error fault => simp [read, Except.map] at h
    | ok found =>
      simp only [read, Except.map] at h
      cases h
      have fewer := ih read
      simp only [at_, Cursor.rest_advance, Cursor.rest_advanceBy, List.length_tail,
        List.length_drop] at fewer
      omega
  | case4 c _ _ at_ =>
    cases h
    simp [at_, Cursor.rest_advanceBy]

/-- The text of a block scalar: its lines, the break after the last of them, and the breaks of the
empty lines at its end. -/
structure BlockText where
  content : List Char
  lastBreak : List Char
  trailing : List Char

/-- What stands between two lines.  The break between two lines that are folded and not further in
than the others is dropped, or is a space where no empty line follows. -/
def joinedLines (isLiteral : Bool) (between : Bool) (lastBreak empty : List Char) : List Char :=
  if !isLiteral && between && lastBreak == ['\n'] then if empty.isEmpty then [' '] else empty
  else lastBreak ++ empty

/-- The lines of a block scalar from some line on.  It is given whether the line before starts with
a blank, the break after that line, and the breaks of the empty lines since. -/
def blockLines (isLiteral : Bool) (indent : Nat) (began : Mark) (wasLed : Bool)
    (lastBreak empty : List Char) (c : Cursor) : Reading BlockText :=
  match _ahead : c.rest with
  | [] => .ok (⟨[], lastBreak, empty⟩, c)
  | x :: _ =>
    if c.mark.column ≠ indent then .ok (⟨[], lastBreak, empty⟩, c)
    else
      let isLed := isSpace x
      let joint := joinedLines isLiteral (!wasLed && !isLed) lastBreak empty
      let line := c.span (!isBreak ·)
      let lineBreak := line.2.peek?.toList
      match _passed : readEmptyLines (some indent) began line.2.advance with
      | .error fault => .error fault
      | .ok (lines, next) =>
        (blockLines isLiteral indent began isLed lineBreak lines.breaks next).map
          fun (more, last) => ({ more with content := joint ++ line.1 ++ more.content }, last)
termination_by c.rest.length
decreasing_by
  have forwards := length_readEmptyLines _passed
  have taken := c.length_span (!isBreak ·)
  have some_left := congrArg List.length _ahead
  simp only [Cursor.rest_advance, List.length_tail, List.length_cons, line] at *
  omega

/-- The text that remains when the line breaks at its end are dealt with. -/
def BlockText.chomped (t : BlockText) : Chomping → List Char
  | .strip => t.content
  | .clip => t.content ++ t.lastBreak
  | .keep => t.content ++ t.lastBreak ++ t.trailing

/-- The block scalar ahead, inside a collection that starts at some column, or in none. -/
def readBlock (isLiteral : Bool) (outer? : Option Nat) (c : Cursor) :
    Except Fault (List Char × Cursor) := do
  let began := c.mark
  let (header, c) ← BlockHeader.read isLiteral began c.advance
  match c.skipLineEnd? with
  | .error place => .error (.within .blockScalar began .noLineEnd place)
  | .ok c =>
    let given? := header.increment?.map (outer?.getD 0 + ·)
    let (lines, c) ← readEmptyLines given? began c
    let indent := given?.getD (max lines.column (max 1 (outer?.elim 0 (· + 1))))
    let (text, c) ← blockLines isLiteral indent began false [] lines.breaks c
    return (text.chomped header.chomping, c)

end IndexKeeper.Yaml
