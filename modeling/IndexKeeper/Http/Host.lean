import IndexKeeper.Http.Domain.Name
import IndexKeeper.Http.Percent

/-!
# Hosts

The host of a URL in its one written form: a domain name in ASCII, a numeric address of version 4 as
four decimal numbers, one of version 6 in brackets with its longest run of zeros left out.
-/

namespace IndexKeeper.Host

/-! ## Addresses of version 4 -/

/-- A part of an address of version 4: decimal, octal after a zero, hexadecimal after `0x`. -/
def addressPart? : List Char → Option Nat
  | [] => none
  | '0' :: 'x' :: cs | '0' :: 'X' :: cs => digitsValue? 16 cs
  | '0' :: cs => digitsValue? 8 cs
  | cs => digitsValue? 10 cs

/-- The parts of a name, without the empty part after a dot at its end. -/
def nameParts (cs : List Char) : List (List Char) :=
  match (splitChars (· == '.') cs).reverse with
  | [] :: rest@(_ :: _) => rest.reverse
  | parts => parts.reverse

/-- Whether a name has to be an address, because its last part is a number. -/
def endsInNumber (cs : List Char) : Bool :=
  match (nameParts cs).getLast? with
  | none | some [] => false
  | some part => part.all Char.isDigit || (addressPart? part).isSome

/-- The value of an address of version 4: each part but the last is one byte, and the last fills
the bytes that are left. -/
def addressValue? (cs : List Char) : Option Nat := do
  let parts ← (nameParts cs).mapM addressPart?
  let last ← parts.getLast?
  let bytes := parts.dropLast
  if bytes.length > 3 || bytes.any (255 < ·) || Nat.pow 256 (4 - bytes.length) ≤ last then none
  else some (bytes.zipIdx.foldl (fun n (b, i) => n + b * Nat.pow 256 (3 - i)) last)

/-- An address of version 4 as four decimal numbers. -/
def addressChars (n : Nat) : List Char :=
  (String.intercalate "." <|
    [n / Nat.pow 256 3 % 256, n / Nat.pow 256 2 % 256, n / 256 % 256, n % 256].map toString).toList

/-! ## Addresses of version 6 -/

/-- A group of an address of version 6: one to four hexadecimal digits. -/
def group? (cs : List Char) : Option Nat :=
  if 1 ≤ cs.length ∧ cs.length ≤ 4 then digitsValue? 16 cs else none

/-- A byte in decimal, without a zero in front. -/
def decimalByte? (cs : List Char) : Option Nat :=
  if cs.isEmpty || (cs.length > 1 && cs.head? == some '0') then none
  else (digitsValue? 10 cs).filter (· ≤ 255)

/-- The last group of an address of version 6, or the last two written as four bytes. -/
def lastGroups? (cs : List Char) : Option (List Nat) :=
  if cs.contains '.' then
    match (splitChars (· == '.') cs).mapM decimalByte? with
    | some [a, b, c, d] => some [a * 256 + b, c * 256 + d]
    | _ => none
  else (group? cs).map ([·])

/-- Groups with colons between them; no characters are no groups. -/
def groups? (cs : List Char) : Option (List Nat) :=
  if cs.isEmpty then some []
  else
    let parts := splitChars (· == ':') cs
    match parts.dropLast.mapM group?, lastGroups? (parts.getLastD []) with
    | some front, some last => some (front ++ last)
    | _, _ => none

/-- What stands on the two sides of the first two colons in a row. -/
def splitGap? : List Char → Option (List Char × List Char)
  | ':' :: ':' :: rest => some ([], rest)
  | c :: rest => (splitGap? rest).map fun (before, after) => (c :: before, after)
  | [] => none

/-- The eight groups of an address of version 6. -/
def addressGroups? (cs : List Char) : Option (List Nat) :=
  match splitGap? cs with
  | none => (groups? cs).filter (·.length = 8)
  | some (before, after) =>
    match groups? before, groups? after with
    | some front, some back =>
      if before.contains '.' || 7 < front.length + back.length then none
      else some (front ++ List.replicate (8 - (front.length + back.length)) 0 ++ back)
    | _, _ => none

/-- Where the longest run of two or more zeros starts, and how long it is; the first of equals. -/
def longestGap (groups : List Nat) : Option (Nat × Nat) :=
  (List.range groups.length).foldl (fun best i =>
    let size := ((groups.drop i).takeWhile (· == 0)).length
    if size ≤ (best.map Prod.snd).getD 1 then best else some (i, size)) none

/-- Groups in lower-case hexadecimal with colons between them. -/
def groupChars (groups : List Nat) : List Char :=
  (String.intercalate ":" (groups.map fun g => String.ofList (Nat.toDigits 16 g))).toList

/-- An address of version 6 in brackets. -/
def bracketed (groups : List Nat) : List Char :=
  let inner := match longestGap groups with
    | none => groupChars groups
    | some (start, size) =>
      groupChars (groups.take start) ++ "::".toList ++ groupChars (groups.drop (start + size))
  '[' :: inner ++ [']']

/-! ## Hosts -/

/-- An address of version 6 in brackets in its written form, from what follows the opening one. -/
def ofBrackets? (cs : List Char) : Option (List Char) :=
  match cs.reverse with
  | ']' :: inner => (addressGroups? inner.reverse).map bracketed
  | _ => none

/-- A name or an address of version 4 in its written form. -/
def ofName? (cs : List Char) : Option (List Char) := do
  let decoded ← Utf8.decode? (Percent.decode cs)
  let name ← Domain.ofChars? decoded.toList
  if name.isEmpty then none
  else if endsInNumber name then (addressValue? name).map addressChars
  else some name

/-- A host in its written form, if it is one. -/
def ofChars? : List Char → Option (List Char)
  | '[' :: cs => ofBrackets? cs
  | cs => ofName? cs

/-- Characters that no host holds that is kept as it is. -/
def isForbidden (c : Char) : Bool :=
  ['\x00', '\t', '\n', '\r', ' ', '#', '/', ':', '<', '>', '?', '@', '[', '\\', ']', '^',
    '|'].contains c

/-- A host that is kept as it is, for a URL whose scheme says nothing of hosts.  It may be empty. -/
def ofFreeChars? : List Char → Option (List Char)
  | '[' :: cs => ofBrackets? cs
  | cs => if cs.any isForbidden then none else some (Percent.encode Percent.isControl cs)

end IndexKeeper.Host
