/-!
# UTF-8

Texts as bytes and bytes as texts.  `encode` writes a text.  `next` reads one character: the byte
that starts it fixes how many bytes follow and which second bytes are allowed, so that overlong
forms, surrogates and numbers above the last character are refused at the first byte that rules
them out.  `decode?` accepts well-formed bytes only; `decodeLossy` puts one replacement character
in place of each longest run of bytes that starts a character and does not finish it.
-/

namespace IndexKeeper.Utf8

/-- The bytes of a text. -/
def encode (s : String) : List UInt8 :=
  s.toList.flatMap String.utf8EncodeChar

/-- What the first byte of a character of several bytes promises: its own part of the number, the
range of the second byte and how many bytes follow that one. -/
structure Lead where
  bits : Nat
  low : UInt8
  high : UInt8
  more : Nat

/-- The promise of a first byte, if it starts a character of several bytes. -/
def lead? (b : UInt8) : Option Lead :=
  if 0xC2 ≤ b ∧ b ≤ 0xDF then some ⟨b.toNat - 0xC0, 0x80, 0xBF, 0⟩
  else if b = 0xE0 then some ⟨0, 0xA0, 0xBF, 1⟩
  else if b = 0xED then some ⟨13, 0x80, 0x9F, 1⟩
  else if 0xE1 ≤ b ∧ b ≤ 0xEF then some ⟨b.toNat - 0xE0, 0x80, 0xBF, 1⟩
  else if b = 0xF0 then some ⟨0, 0x90, 0xBF, 2⟩
  else if 0xF1 ≤ b ∧ b ≤ 0xF3 then some ⟨b.toNat - 0xF0, 0x80, 0xBF, 2⟩
  else if b = 0xF4 then some ⟨4, 0x80, 0x8F, 2⟩
  else none

/-- Read continuation bytes onto a number, the first of them within the given range; nothing is
read from the byte that does not fit. -/
def continue? (low high : UInt8) (acc : Nat) : Nat → List UInt8 → Option Nat × List UInt8
  | 0, bytes => (some acc, bytes)
  | _ + 1, [] => (none, [])
  | more + 1, b :: rest =>
    if low ≤ b ∧ b ≤ high then continue? 0x80 0xBF (acc * 64 + b.toNat % 64) more rest
    else (none, b :: rest)

/-- The character that starts with a byte, or nothing where the bytes hold none, and what is left
after the bytes read for it. -/
def next (b : UInt8) (rest : List UInt8) : Option Char × List UInt8 :=
  if b < 0x80 then (some (Char.ofNat b.toNat), rest)
  else match lead? b with
    | none => (none, rest)
    | some l =>
      let read := continue? l.low l.high l.bits (l.more + 1) rest
      (read.1.map Char.ofNat, read.2)

theorem length_continue? (low high : UInt8) (acc more : Nat) (bytes : List UInt8) :
    (continue? low high acc more bytes).2.length ≤ bytes.length := by
  induction more generalizing low high acc bytes with
  | zero => simp [continue?]
  | succ more ih =>
    cases bytes with
    | nil => simp [continue?]
    | cons b rest =>
      unfold continue?
      split
      · exact Nat.le_succ_of_le (ih _ _ _ _)
      · exact Nat.le_refl _

theorem length_next (b : UInt8) (rest : List UInt8) : (next b rest).2.length ≤ rest.length := by
  unfold next
  split
  · exact Nat.le_refl _
  · split
    · exact Nat.le_refl _
    · exact length_continue? _ _ _ _ _

/-- The characters of well-formed bytes. -/
def decodeChars? : List UInt8 → Option (List Char)
  | [] => some []
  | b :: rest =>
    match (next b rest).1 with
    | none => none
    | some c => (decodeChars? (next b rest).2).map (c :: ·)
termination_by bytes => bytes.length
decreasing_by exact Nat.lt_succ_of_le (length_next b rest)

/-- The text of well-formed bytes. -/
def decode? (bytes : List UInt8) : Option String :=
  (decodeChars? bytes).map String.ofList

/-- The characters of any bytes, a replacement character for each run that holds none. -/
def decodeLossyChars : List UInt8 → List Char
  | [] => []
  | b :: rest => (next b rest).1.getD '\uFFFD' :: decodeLossyChars (next b rest).2
termination_by bytes => bytes.length
decreasing_by exact Nat.lt_succ_of_le (length_next b rest)

/-- The text of any bytes, a replacement character for each run that holds none. -/
def decodeLossy (bytes : List UInt8) : String :=
  String.ofList (decodeLossyChars bytes)

end IndexKeeper.Utf8
