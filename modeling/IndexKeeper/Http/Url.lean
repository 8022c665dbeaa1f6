import IndexKeeper.Http.Authority
import IndexKeeper.Http.UrlPath
import IndexKeeper.Keyed

/-!
# URLs

A URL in its parts, and the reading of one from a text.  Reading brings a URL into its one written
form: blanks around it are dropped, line breaks and tabs in it too, the scheme is in
lower case and the host in its one form, the port is left out where the scheme implies it, dot
segments of the path are resolved, and what can't stand in a part is percent-encoded.  Two texts
address the same thing exactly if they are read as the same URL.
-/

namespace IndexKeeper

/-- A URL in its parts. -/
structure Url where
  scheme : String
  authority : Option Authority
  path : String
  query : Option String := none
  fragment : Option String := none
  deriving DecidableEq, Repr

namespace Url

/-- What a request asks the server for: path and query. -/
def target (u : Url) : String :=
  u.path ++ (u.query.map ("?" ++ ·)).getD ""

/-- What stands before the path.  A path that starts as an authority does has a dot segment in
front where there is no authority. -/
def opening (u : Url) : String :=
  match u.authority with
  | some a => "//" ++ a.text
  | none => if u.path.startsWith "//" then "/." else ""

/-- The URL written out. -/
def text (u : Url) : String :=
  u.scheme ++ ":" ++ u.opening ++ u.target ++ (u.fragment.map ("#" ++ ·)).getD ""

/-- The URL without credentials that are sent apart from it. -/
def withoutSent (u : Url) : Url := { u with authority := u.authority.map (·.withoutSent) }

/-! ## Schemes -/

/-- The schemes whose URLs have a host and a path in segments, with the ports that they imply. -/
def hostSchemes : List (String × Option Nat) :=
  [("http", some 80), ("https", some 443), ("ws", some 80), ("wss", some 443), ("ftp", some 21),
    ("file", none)]

/-- Whether a scheme is one of those with a host. -/
def hasHost (scheme : String) : Bool := hostSchemes.any fun (name, _) => name == scheme

/-- Whether a character may follow in a scheme. -/
def isSchemeChar (c : Char) : Bool := c.isAlphanum || ['+', '-', '.'].contains c

/-- The scheme in lower case and what follows its colon. -/
def readScheme? (cs : List Char) : Option (String × List Char) :=
  match splitFirst (· == ':') cs with
  | (c :: more, some rest) =>
    if c.isAlpha && more.all isSchemeChar then
      some (String.ofList ((c :: more).map Char.toLower), rest)
    else none
  | _ => none

/-! ## Whole URLs -/

/-- A text without blanks around it, and without line breaks and tabs in it. -/
def cleaned (cs : List Char) : List Char :=
  let isEdge (c : Char) : Bool := c.toNat ≤ 0x20
  (((cs.dropWhile isEdge).reverse.dropWhile isEdge).reverse).filter fun c =>
    !(['\t', '\n', '\r'].contains c)

/-- The characters before the query and the fragment, the query, and the fragment. -/
def splitTail (cs : List Char) : List Char × Option (List Char) × Option (List Char) :=
  let (front, fragment) := splitFirst (· == '#') cs
  let (front, query) := splitFirst (· == '?') front
  (front, query, fragment)

/-- Authority and path of a URL whose scheme has a host. -/
def readHosted? (scheme : String) (cs : List Char) : Option (Authority × String) := do
  let rest := cs.dropWhile UrlPath.isAnySlash
  let (authority, after) := rest.span (!UrlPath.isAnySlash ·)
  let authority ← Authority.ofHosted? (Keyed.get? scheme hostSchemes).join authority
  return (authority, UrlPath.ofChars UrlPath.isAnySlash (after.drop 1))

/-- Authority and path of a file without a host, from what follows the slash that starts the path,
and the segments before it in reverse. -/
def localFile (above : List (List Char)) (cs : List Char) : Authority × String :=
  let segments := UrlPath.resolve true above (splitChars UrlPath.isAnySlash cs)
  ({ host := "" }, UrlPath.fileText segments)

/-- Authority and path of a file, from what follows the slashes that start a host.  The host is left
out if it is this machine or if the name of a drive follows it; there is none if its name would be
that of a drive. -/
def readFileHost? (cs : List Char) : Option (Authority × String) :=
  let (host, after) := cs.span (!UrlPath.isAnySlash ·)
  if UrlPath.isDrive host then some (localFile [] cs)
  else if host.isEmpty then some (localFile [[]] (after.drop 1))
  else
    (Host.ofChars? host).map fun host =>
      if host = "localhost".toList then localFile [[]] (after.drop 1)
      else
        let segments := UrlPath.resolve true [] (splitChars UrlPath.isAnySlash (after.drop 1))
        let host := if segments.head?.any UrlPath.isDrive then [] else host
        ({ host := String.ofList host }, UrlPath.fileText segments)

/-- Authority and path of a file.  Two slashes start a host. -/
def readFile? (cs : List Char) : Option (Authority × String) :=
  if (cs.takeWhile UrlPath.isAnySlash).length < 2 then
    some (localFile [] (cs.dropWhile UrlPath.isAnySlash))
  else readFileHost? (cs.drop 2)

/-- A URL of any other scheme, from what stands before its query: with an authority, with a path in
segments, or with a path as it is. -/
def readFree? : List Char → Option (Option Authority × String)
  | '/' :: '/' :: cs => do
    let (authority, after) := cs.span (!UrlPath.isSlash ·)
    let (authority, rest) ← Authority.ofFree? authority
    let path := match rest ++ after with
      | [] => ""
      | '/' :: cs | cs => UrlPath.ofChars UrlPath.isSlash cs
    return (some authority, path)
  | '/' :: cs => some (none, UrlPath.ofChars UrlPath.isSlash cs)
  | cs => some (none, String.ofList (Percent.encode Percent.isControl cs))

/-- The URL that a text names, if it names one. -/
def ofText? (text : String) : Option Url := do
  let (scheme, rest) ← readScheme? (cleaned text.toList)
  let (front, query, fragment) := splitTail rest
  let encoded (set : Char → Bool) (cs : List Char) := String.ofList (Percent.encode set cs)
  let fragment := fragment.map (encoded Percent.inFragment)
  if hasHost scheme then
    let (authority, path) ← if scheme = "file" then readFile? front else readHosted? scheme front
    return { scheme, authority := some authority, path,
             query := query.map (encoded Percent.inWebQuery), fragment }
  else
    let (authority, path) ← readFree? front
    return { scheme, authority, path, query := query.map (encoded Percent.inQuery), fragment }

/-- The most bytes that a URL of a request can have. -/
def maxLength : Nat := 65534

/-- Whether a request can be sent to a URL: its scheme is that of the web, its host can stand in a
request, and it is not too long. -/
def isWeb (u : Url) : Bool :=
  (u.scheme == "http" || u.scheme == "https") && u.text.utf8ByteSize ≤ maxLength &&
    u.authority.all fun a => a.host.toList.all fun c => !(['"', '`', '{', '}'].contains c)

end Url

end IndexKeeper
