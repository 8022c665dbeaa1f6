import IndexKeeper.Text.Split

/-!
# Punycode

Labels of domain names in letters, digits and hyphens.  The ASCII characters of a label stand in
front, and after a hyphen the others, each as the number of steps to it: one step is the next place
in the label, or, behind the last place, the next character.  Numbers are written in digits of
changing weight, so that equal steps get short.
-/

namespace IndexKeeper.Domain.Punycode

/-! ## Digits -/

/-- A digit below 36: letters, then decimal digits. -/
def digitChar (d : Nat) : Char := Char.ofNat (if d < 26 then 97 + d else 22 + d)

/-- The value of a digit. -/
def digit? (c : Char) : Option Nat :=
  if c.isAlpha then some (c.toLower.toNat - 97)
  else if c.isDigit then some (c.toNat - 22)
  else none

/-- The least digit that is followed by another one, at the given position with the given bias. -/
def threshold (bias position : Nat) : Nat := min 26 (max 1 (36 * (position + 1) - bias))

theorem threshold_bounds (bias position : Nat) :
    1 ≤ threshold bias position ∧ threshold bias position ≤ 26 := by
  unfold threshold
  omega

/-- Divide a number of steps by 35 until it is small, and count 36 for each time. -/
def damped (steps counted : Nat) : Nat :=
  if 455 < steps then damped (steps / 35) (counted + 36) else counted + 36 * steps / (steps + 38)
termination_by steps
decreasing_by omega

/-- The bias after a number of steps to a character that makes so many. -/
def adapted (steps count : Nat) (isFirst : Bool) : Nat :=
  let steps := if isFirst then steps / 700 else steps / 2
  damped (steps + steps / count) 0

/-- The bias for the first number of steps. -/
def firstBias : Nat := 72

/-- The first character that is not in ASCII. -/
def firstCode : Nat := 128

/-! ## Writing -/

/-- The digits of a number of steps from some position on. -/
def stepDigits (bias position steps : Nat) : List Char :=
  let t := threshold bias position
  if steps < t then [digitChar steps]
  else digitChar (t + (steps - t) % (36 - t)) ::
    stepDigits bias (position + 1) ((steps - t) / (36 - t))
termination_by steps
decreasing_by
  have bounds := threshold_bounds bias position
  calc (steps - threshold bias position) / (36 - threshold bias position)
      ≤ steps - threshold bias position := Nat.div_le_self _ _
    _ < steps := by omega

/-- What has been written of a label, with the steps since the last character. -/
structure Writing where
  written : List Char := []
  steps : Nat := 0
  bias : Nat := firstBias
  /-- How many characters of the label are written. -/
  count : Nat

/-- Pass one place of the label, where the characters up to the given one are written. -/
def Writing.pass (basic code : Nat) (w : Writing) (c : Char) : Writing :=
  if c.toNat < code then { w with steps := w.steps + 1 }
  else if c.toNat = code then
    { written := w.written ++ stepDigits w.bias 0 w.steps
      steps := 0
      bias := adapted w.steps (w.count + 1) (w.count == basic)
      count := w.count + 1 }
  else w

/-- Write the characters of a label that are in ascending order given, from some character on. -/
def writeFrom (label : List Char) (basic : Nat) : Nat → List Nat → Writing → Writing
  | _, [], w => w
  | from_, code :: more, w =>
    let w := { w with steps := w.steps + (code - from_) * (w.count + 1) }
    let w := label.foldl (Writing.pass basic code) w
    writeFrom label basic (code + 1) more { w with steps := w.steps + 1 }

/-- Whether a character is in ASCII. -/
def isBasic (c : Char) : Bool := c.toNat < firstCode

/-- A label in letters, digits and hyphens. -/
def encode (label : List Char) : List Char :=
  let basic := label.filter isBasic
  let codes := ((label.filter (!isBasic ·)).map Char.toNat).mergeSort.eraseDups
  let w := writeFrom label basic.length firstCode codes { count := basic.length }
  basic ++ (if basic.isEmpty then [] else ['-']) ++ w.written

/-! ## Reading -/

/-- The greatest weight of a digit. -/
def maxWeight : Nat := Nat.pow 2 32 - 1

/-- Read a number of steps from some position on, the next digit having a weight. -/
def readSteps? (bias : Nat) : Nat → Nat → List Char → Option (Nat × List Char)
  | _, _, [] => none
  | position, weight, c :: rest => do
    let d ← digit? c
    let t := threshold bias position
    if d < t then some (d * weight, rest)
    else if maxWeight < weight * (36 - t) then none
    else
      let (more, rest) ← readSteps? bias (position + 1) (weight * (36 - t)) rest
      some (d * weight + more, rest)

theorem length_readSteps? {bias position weight n : Nat} {cs rest : List Char}
    (h : readSteps? bias position weight cs = some (n, rest)) : rest.length < cs.length := by
  induction cs generalizing position weight n rest with
  | nil => simp [readSteps?] at h
  | cons c more ih =>
    simp only [readSteps?, Option.bind_eq_bind, Option.bind_eq_some_iff] at h
    obtain ⟨d, -, h⟩ := h
    split at h
    · cases h
      simp
    · split at h
      · simp at h
      · obtain ⟨⟨m, last⟩, read, h⟩ := Option.bind_eq_some_iff.1 h
        cases h
        have := ih read
        simp only [List.length_cons]
        omega

/-- What has been read of a label, with the place and the character of the last one read. -/
structure Reading where
  label : List Char
  place : Nat := 0
  code : Nat := firstCode
  bias : Nat := firstBias
  isFirst : Bool := true

/-- Insert the character that is so many steps on. -/
def Reading.insert? (r : Reading) (steps : Nat) : Option Reading :=
  let count := r.label.length + 1
  let code := r.code + (r.place + steps) / count
  let place := (r.place + steps) % count
  if code.isValidChar then
    some
      { label := r.label.insertIdx place (Char.ofNat code)
        place := place + 1
        code
        bias := adapted steps count r.isFirst
        isFirst := false }
  else none

/-- Read the characters that follow the ASCII characters of a label. -/
def readFrom? (r : Reading) (cs : List Char) : Option (List Char) :=
  if cs.isEmpty then some r.label
  else
    match _read : readSteps? r.bias 0 1 cs with
    | none => none
    | some (steps, rest) =>
      match r.insert? steps with
      | none => none
      | some next => readFrom? next rest
termination_by cs.length
decreasing_by exact length_readSteps? _read

/-- The label that letters, digits and hyphens stand for, if they stand for one. -/
def decode? (cs : List Char) : Option (List Char) :=
  match splitLast? (· == '-') cs with
  | some (c :: basic, rest) => readFrom? { label := c :: basic } rest
  | _ => readFrom? { label := [] } cs

end IndexKeeper.Domain.Punycode
