import IndexKeeper.Json.Cursor

/-!
# The grammar of JSON

The bytes of JSON, told by what they are made of and without a reader.  `Numeral` and `RawText` are
the numbers and the inner bytes of quoted texts, `Derives` the values with everything they hold.
Nothing is asked of a text beyond its escapes, so it may be no UTF-8 and name lone surrogates;
`Unescapes` says of the texts that are read as such which bytes they stand for.

A value is derived from left to right: behind the first value in brackets stands a comma with the
next one, or the closing bracket (`Part.rest`).
-/

namespace IndexKeeper.Json

/-- The bytes of a text of ASCII. -/
def ascii (s : String) : List UInt8 := s.toList.map byte

/-- Blanks. -/
def Blank (bs : List UInt8) : Prop := ∀ b ∈ bs, b ∈ ascii " \n\t\r"

/-! ## Numbers -/

/-- Some digits, and at least one. -/
structure Digits (bs : List UInt8) : Prop where
  nonempty : bs ≠ []
  bounds : ∀ b ∈ bs, byte '0' ≤ b ∧ b ≤ byte '9'

/-- A whole number: a zero alone, or digits that start with another one. -/
inductive Whole : List UInt8 → Prop
  | zero : Whole [byte '0']
  | digits {ds : List UInt8} (h : Digits ds) (hhead : ds.head? ≠ some (byte '0')) : Whole ds

/-- A fraction with its point, or none. -/
inductive Fraction : List UInt8 → Prop
  | none : Fraction []
  | digits {ds : List UInt8} (h : Digits ds) : Fraction (byte '.' :: ds)

/-- An exponent with its letter and perhaps a sign, or none. -/
inductive Exponent : List UInt8 → Prop
  | none : Exponent []
  | digits {letter : UInt8} {sign ds : List UInt8} (hletter : letter ∈ ascii "eE")
    (hsign : sign = [] ∨ sign = ascii "+" ∨ sign = ascii "-") (h : Digits ds) :
    Exponent (letter :: (sign ++ ds))

/-- A number without a sign. -/
inductive Magnitude : List UInt8 → Prop
  | mk {whole fraction exponent : List UInt8} (hwhole : Whole whole) (hfraction : Fraction fraction)
    (hexponent : Exponent exponent) : Magnitude (whole ++ fraction ++ exponent)

/-- A number. -/
inductive Numeral : List UInt8 → Prop
  | positive {bs : List UInt8} (h : Magnitude bs) : Numeral bs
  | negative {bs : List UInt8} (h : Magnitude bs) : Numeral (byte '-' :: bs)

/-! ## Texts -/

/-- A byte that stands in a quoted text for itself. -/
structure IsPlain (b : UInt8) : Prop where
  notQuote : b ≠ byte '"'
  notBackslash : b ≠ byte '\\'
  notControl : ¬ b < 0x20

/-- A hexadecimal digit of either case, with its value. -/
def HexDigit (b : UInt8) (d : Nat) : Prop :=
  (ascii "0123456789abcdef")[d]? = some b ∨ (ascii "0123456789ABCDEF")[d]? = some b

instance (b : UInt8) (d : Nat) : Decidable (HexDigit b d) := inferInstanceAs (Decidable (_ ∨ _))

/-- Four hexadecimal digits, with their value. -/
inductive Hex : List UInt8 → Nat → Prop
  | mk {b₁ b₂ b₃ b₄ : UInt8} {d₁ d₂ d₃ d₄ : Nat} (h₁ : HexDigit b₁ d₁) (h₂ : HexDigit b₂ d₂)
    (h₃ : HexDigit b₃ d₃) (h₄ : HexDigit b₄ d₄) :
    Hex [b₁, b₂, b₃, b₄] (((d₁ * 16 + d₂) * 16 + d₃) * 16 + d₄)

/-- The letters that may follow a backslash, with the characters they stand for. -/
def letters : List (Char × Char) :=
  [('"', '"'), ('\\', '\\'), ('/', '/'), ('b', '\x08'), ('f', '\x0c'), ('n', '\n'), ('r', '\r'),
    ('t', '\t')]

/-- What may follow a backslash, whether or not it stands for a character. -/
inductive RawEscape : List UInt8 → Prop
  | letter {l c : Char} (hl : (l, c) ∈ letters) : RawEscape [byte l]
  | number {digits : List UInt8} {n : Nat} (hd : Hex digits n) : RawEscape (byte 'u' :: digits)

/-- What stands between the quotes of a text, whether or not it can be read as a text. -/
inductive RawText : List UInt8 → Prop
  | nil : RawText []
  | plain {b : UInt8} {raw : List UInt8} (hb : IsPlain b) (h : RawText raw) : RawText (b :: raw)
  | escape {esc raw : List UInt8} (he : RawEscape esc) (h : RawText raw) :
    RawText (byte '\\' :: (esc ++ raw))

/-- What follows a backslash, with the character it stands for: a letter for it, its number, or its
pair of surrogates. -/
inductive Escape : List UInt8 → Char → Prop
  | letter {l c : Char} (hl : (l, c) ∈ letters) : Escape [byte l] c
  | unit {digits : List UInt8} {n : Nat} (hd : Hex digits n) (hn : n < 0xD800 ∨ 0xDFFF < n) :
    Escape (byte 'u' :: digits) (Char.ofNat n)
  | pair {high low : List UInt8} {n m : Nat} (hhigh : Hex high n) (hn : 0xD800 ≤ n ∧ n < 0xDC00)
    (hlow : Hex low m) (hm : 0xDC00 ≤ m ∧ m < 0xE000) :
    Escape (byte 'u' :: (high ++ byte '\\' :: byte 'u' :: low))
      (Char.ofNat (0x10000 + (n - 0xD800) * 0x400 + (m - 0xDC00)))

/-- What stands between the quotes of a text, with the bytes it stands for. -/
inductive Unescapes : List UInt8 → List UInt8 → Prop
  | nil : Unescapes [] []
  | plain {b : UInt8} {raw bs : List UInt8} (hb : IsPlain b) (h : Unescapes raw bs) :
    Unescapes (b :: raw) (b :: bs)
  | escape {esc raw bs : List UInt8} {c : Char} (he : Escape esc c) (h : Unescapes raw bs) :
    Unescapes (byte '\\' :: (esc ++ raw)) (String.utf8EncodeChar c ++ bs)

/-! ## Values -/

/-- The two kinds of brackets. -/
inductive Bracket
  | square
  | curly

namespace Bracket

/-- The byte that opens brackets. -/
def opening : Bracket → UInt8
  | square => byte '['
  | curly => byte '{'

/-- The byte that closes brackets. -/
def closing : Bracket → UInt8
  | square => byte ']'
  | curly => byte '}'

end Bracket

/-- A key up to and with its colon, given what stands between the quotes. -/
inductive KeyPart (raw : List UInt8) : List UInt8 → Prop
  | mk {before between : List UInt8} (hbefore : Blank before) (hbetween : Blank between) :
    KeyPart raw (before ++ byte '"' :: (raw ++ byte '"' :: (between ++ [byte ':'])))

/-- What stands before a value in brackets. -/
inductive Lead : Bracket → List UInt8 → Prop
  | item : Lead .square []
  | member {raw key : List UInt8} (hraw : RawText raw) (hkey : KeyPart raw key) : Lead .curly key

/-- What stands before the key of a member: nothing before the first one, else a comma. -/
inductive Separator : Bool → List UInt8 → Prop
  | first : Separator true []
  | comma {ws : List UInt8} (h : Blank ws) : Separator false (ws ++ [byte ','])

/-- A value that is no brackets. -/
inductive Scalar : List UInt8 → Prop
  | word {w : String} (h : w ∈ ["null", "true", "false"]) : Scalar (ascii w)
  | number {n : List UInt8} (h : Numeral n) : Scalar n
  | text {raw : List UInt8} (h : RawText raw) : Scalar (byte '"' :: (raw ++ [byte '"']))

/-- The parts of the grammar of values. -/
inductive Part
  | value
  /-- What stands behind a value in brackets, up to and with the closing one. -/
  | rest (b : Bracket)

/-- The bytes of a part. -/
inductive Derives : Part → List UInt8 → Prop
  | scalar {v : List UInt8} (h : Scalar v) : Derives .value v
  | empty {b : Bracket} {ws : List UInt8} (h : Blank ws) :
    Derives .value (b.opening :: (ws ++ [b.closing]))
  | filled {b : Bracket} {lead ws v rest : List UInt8} (hlead : Lead b lead) (hws : Blank ws)
    (hv : Derives .value v) (hrest : Derives (.rest b) rest) :
    Derives .value (b.opening :: (lead ++ (ws ++ (v ++ rest))))
  | close {b : Bracket} {ws : List UInt8} (h : Blank ws) : Derives (.rest b) (ws ++ [b.closing])
  | next {b : Bracket} {before lead ws v rest : List UInt8} (hbefore : Blank before)
    (hlead : Lead b lead) (hws : Blank ws) (hv : Derives .value v)
    (hrest : Derives (.rest b) rest) :
    Derives (.rest b) (before ++ byte ',' :: (lead ++ (ws ++ (v ++ rest))))

/-- A value without blanks around it. -/
abbrev IsValue (bs : List UInt8) : Prop := Derives .value bs

end IndexKeeper.Json
