import IndexKeeper.Text.Digits
import IndexKeeper.Yaml.Plain

/-!
# Quoted scalars

The text between quotes.  Between single quotes a quote is written twice; between double quotes a
backslash gives a character by a letter or by its number, or keeps a line break out of the text.
The gaps between words stand for the same as in an unquoted scalar.
-/

namespace IndexKeeper.Yaml

/-- What a letter after a backslash stands for. -/
inductive Escape
  | char (c : Char)
  /-- A character by its number in so many digits. -/
  | code (digits : Nat)

/-- What a letter after a backslash stands for, if it may stand there. -/
def Escape.ofLetter? : Char → Option Escape
  | '0' => some (.char '\x00')
  | 'a' => some (.char '\x07')
  | 'b' => some (.char '\x08')
  | 't' | '\t' => some (.char '\t')
  | 'n' => some (.char '\n')
  | 'v' => some (.char '\x0B')
  | 'f' => some (.char '\x0C')
  | 'r' => some (.char '\r')
  | 'e' => some (.char '\x1B')
  | ' ' => some (.char ' ')
  | '"' => some (.char '"')
  | '/' => some (.char '/')
  | '\\' => some (.char '\\')
  | 'N' => some (.char '\u0085')
  | '_' => some (.char '\u00A0')
  | 'L' => some (.char '\u2028')
  | 'P' => some (.char '\u2029')
  | 'x' => some (.code 2)
  | 'u' => some (.code 4)
  | 'U' => some (.code 8)
  | _ => none

/-- The character that a backslash and what follows it stand for, the cursor at the backslash. -/
def readEscape (began : Mark) (c : Cursor) : Reading (List Char) :=
  match c.second?.bind Escape.ofLetter? with
  | none => c.fail .escape began .unknownEscape
  | some (.char x) => .ok ([x], c.advanceBy 2)
  | some (.code digits) =>
    let c := c.advanceBy 2
    match digitsValue? 16 (c.rest.take digits) with
    | none => c.fail .escape began .noHexDigits
    | some n =>
      if c.rest.length < digits then c.fail .escape began .noHexDigits
      else if n.isValidChar then .ok ([Char.ofNat n], c.advanceBy digits)
      else c.fail .escape began .invalidCodePoint

/-- An escape takes some characters, unless none are left. -/
theorem rest_readEscape {began : Mark} {c after : Cursor} {text : List Char}
    (h : readEscape began c = .ok (text, after)) :
    ∃ n, after.rest = c.rest.drop (n + 2) := by
  unfold readEscape at h
  split at h
  · simp [Cursor.fail] at h
  · cases h
    exact ⟨0, Cursor.rest_advanceBy 2 c⟩
  · rename_i digits _
    dsimp only at h
    split at h
    · simp [Cursor.fail] at h
    · split at h
      · simp [Cursor.fail] at h
      · split at h
        · cases h
          exact ⟨digits, by simp [Cursor.rest_advanceBy, Nat.add_comm]⟩
        · simp [Cursor.fail] at h

/-- What comes next in a quoted scalar: characters of its text, or nothing at the closing quote. -/
def readQuotedPart (isDouble : Bool) (began : Mark) (c : Cursor) : Reading (Option (List Char)) :=
  if c.atDocumentMark then c.fail .quotedScalar began .documentMark
  else match c.rest with
    | [] => c.fail .quotedScalar began .endOfText
    | x :: rest =>
      if isGap x then
        let (gap, after) := c.span isGap
        .ok (some (joinedGap gap), after)
      else if isDouble then
        if x == '"' then .ok (none, c.advance)
        else if x == '\\' then
          if rest.head?.any isBreak then
            let (gap, after) := (c.advanceBy 2).span isGap
            .ok (some (gap.filter isBreak), after)
          else (readEscape began c).map fun (text, after) => (some text, after)
        else .ok (some [x], c.advance)
      else if x == '\x27' then
        if rest.head? == some '\x27' then .ok (some [x], c.advanceBy 2) else .ok (none, c.advance)
      else .ok (some [x], c.advance)

/-- A part of a quoted scalar takes some characters. -/
theorem length_readQuotedPart {isDouble : Bool} {began : Mark} {c after : Cursor}
    {part : Option (List Char)} (h : readQuotedPart isDouble began c = .ok (part, after)) :
    after.rest.length < c.rest.length := by
  unfold readQuotedPart at h
  split at h
  · simp [Cursor.fail] at h
  · split at h
    · simp [Cursor.fail] at h
    · rename_i x rest ahead
      have one : c.advance.rest.length < c.rest.length := by
        simp [Cursor.rest_advance, ahead]
      have two : (c.advanceBy 2).rest.length < c.rest.length := by
        rw [Cursor.rest_advanceBy, ahead, List.length_drop, List.length_cons]
        omega
      split at h
      · rename_i blank
        cases h
        have taken := c.length_span isGap
        have : 0 < (c.span isGap).1.length := by simp [Cursor.span, ahead, blank]
        change (c.span isGap).2.rest.length < _
        omega
      · split at h
        · split at h
          · cases h
            exact one
          · split at h
            · split at h
              · cases h
                have taken := (c.advanceBy 2).length_span isGap
                change ((c.advanceBy 2).span isGap).2.rest.length < _
                omega
              · cases read : readEscape began c with
                | error fault => simp [read, Except.map] at h
                | ok found =>
                  obtain ⟨text, last⟩ := found
                  obtain ⟨n, dropped⟩ := rest_readEscape read
                  simp only [read, Except.map] at h
                  cases h
                  rw [dropped, ahead, List.length_drop, List.length_cons]
                  omega
            · cases h
              exact one
        · split at h
          · split at h
            · cases h
              exact two
            · cases h
              exact one
          · cases h
            exact one

/-- The text of a quoted scalar from some character on. -/
def quotedFrom (isDouble : Bool) (began : Mark) (c : Cursor) : Reading (List Char) :=
  match _h : readQuotedPart isDouble began c with
  | .error fault => .error fault
  | .ok (none, after) => .ok ([], after)
  | .ok (some part, after) =>
    (quotedFrom isDouble began after).map fun (more, last) => (part ++ more, last)
termination_by c.rest.length
decreasing_by exact length_readQuotedPart _h

/-- The quoted scalar ahead. -/
def readQuoted (isDouble : Bool) (c : Cursor) : Reading (List Char) :=
  quotedFrom isDouble c.mark c.advance

end IndexKeeper.Yaml
