import IndexKeeper.Http.Host

/-!
# Authorities

The part of a URL that says where it leads: a host with a port, and in front of it a user name and a
password.  These are sent apart from the URL where they are texts, and then the URL does not show
them.
-/

namespace IndexKeeper

/-- A user name and a password, percent-encoded. -/
structure Credentials where
  user : String
  password : Option String
  deriving DecidableEq, Repr

namespace Credentials

/-- The credentials that the characters before an `@` give; none if they are empty. -/
def ofChars? (cs : List Char) : Option Credentials :=
  let (user, password) := splitFirst (· == ':') cs
  let encoded (cs : List Char) := String.ofList (Percent.encode Percent.inUserInfo cs)
  let password := password.filter (!·.isEmpty)
  if user.isEmpty && password.isNone then none
  else some ⟨encoded user, password.map encoded⟩

/-- The credentials written out. -/
def text (c : Credentials) : String :=
  c.user ++ (c.password.map (":" ++ ·)).getD "" ++ "@"

/-- Whether something percent-encoded is a text. -/
def isText (s : String) : Bool := (Utf8.decode? (Percent.decode s.toList)).isSome

/-- Whether the credentials can be sent apart from the URL: the user name is a text, and there is
one, or the password is a text. -/
def areSent (c : Credentials) : Bool :=
  isText c.user && (c.user != "" || c.password.any isText)

end Credentials

/-- Where a URL leads. -/
structure Authority where
  credentials : Option Credentials := none
  host : String
  port : Option Nat := none
  deriving DecidableEq, Repr

namespace Authority

/-- The authority written out. -/
def text (a : Authority) : String :=
  (a.credentials.map (·.text)).getD "" ++ a.host ++
    (a.port.map fun n => ":" ++ toString n).getD ""

/-- The authority without credentials that are sent apart from the URL. -/
def withoutSent (a : Authority) : Authority :=
  { a with credentials := a.credentials.filter (!·.areSent) }

/-! ## Reading -/

/-- The characters of credentials, before the last `@`, and those of host and port. -/
def splitUser (cs : List Char) : Option (List Char) × List Char :=
  match splitLast? (· == '@') cs with
  | some (user, rest) => (some user, rest)
  | none => (none, cs)

/-- The characters of a host and those of a port.  A colon in brackets belongs to the host. -/
def splitPort (inBrackets : Bool) : List Char → List Char × Option (List Char)
  | [] => ([], none)
  | c :: rest =>
    if c == ':' && !inBrackets then ([], some rest)
    else
      let (host, port) := splitPort (c == '[' || (inBrackets && c != ']')) rest
      (c :: host, port)

/-- The port that some digits give, left out where there are none or the scheme implies it. -/
def port? (implied : Option Nat) (digits : List Char) : Option (Option Nat) :=
  match digitsValue? 10 digits with
  | none => none
  | some n =>
    if 65535 < n then none
    else if digits.isEmpty || some n = implied then some none
    else some (some n)

/-- The authority of credentials, a host and the digits of a port.  Where the host is empty nothing
else can be there. -/
def ofParts? (user : Option (List Char)) (host : List Char) (implied : Option Nat)
    (digits : Option (List Char)) : Option Authority := do
  let credentials := user.bind Credentials.ofChars?
  if host.isEmpty && (credentials.isSome || user == some [] || digits.isSome) then none
  let port ← port? implied (digits.getD [])
  return { credentials, host := String.ofList host, port }

/-- The authority of a URL whose scheme has a host and implies a port. -/
def ofHosted? (implied : Option Nat) (cs : List Char) : Option Authority := do
  let (user, rest) := splitUser cs
  let (host, port) := splitPort false rest
  ofParts? user (← Host.ofChars? host) implied port

/-- The authority of a URL of any other scheme, and what follows it.  A backslash ends a port. -/
def ofFree? (cs : List Char) : Option (Authority × List Char) := do
  let (user, rest) := splitUser cs
  let (host, port) := splitPort false rest
  let after := (port.getD []).dropWhile Char.isDigit
  if after.head?.any (· != '\\') then none
  let a ← ofParts? user (← Host.ofFreeChars? host) none (port.map (·.takeWhile Char.isDigit))
  return (a, after)

end Authority

end IndexKeeper
