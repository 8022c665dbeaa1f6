import IndexKeeper.Http.Percent
import IndexKeeper.Text.Split

/-!
# Paths of URLs

A path as its segments, percent-encoded.  A segment of one dot stands for the place it is in, and
one of two dots for the place above.  No segment that starts as the name of a drive does, a letter
and a colon or a bar, is left for the place above it; as the first segment of the path of a file it
is written with a colon.
-/

namespace IndexKeeper.UrlPath

/-! ## Segments -/

/-- Whether a segment stands for the place it is in. -/
def isHere (segment : List Char) : Bool :=
  [".", "%2e"].contains (String.ofList (segment.map Char.toLower))

/-- Whether a segment stands for the place above. -/
def isAbove (segment : List Char) : Bool :=
  ["..", ".%2e", "%2e.", "%2e%2e"].contains (String.ofList (segment.map Char.toLower))

/-- Whether a segment starts as the name of a drive does; a backslash ends the name. -/
def startsAsDrive : List Char → Bool
  | c :: sign :: rest =>
    c.isAlpha && (sign == ':' || sign == '|') && rest.head?.all (· == '\\')
  | _ => false

/-- Whether a segment is the name of a drive. -/
def isDrive (segment : List Char) : Bool := segment.length = 2 && startsAsDrive segment

/-- The segments of a path, dot segments resolved, after those read so far in reverse.  A dot
segment at the end leaves an empty segment. -/
def resolve (isFile : Bool) (above : List (List Char)) : List (List Char) → List (List Char)
  | [] => above.reverse
  | segment :: rest =>
    let last := rest.isEmpty
    if isAbove segment then
      let above := if above.head?.any startsAsDrive then above else above.tail
      resolve isFile (if last then [] :: above else above) rest
    else if isHere segment then resolve isFile (if last then [] :: above else above) rest
    else if isFile && above.isEmpty && isDrive segment then
      resolve isFile [segment.take 1 ++ [':']] rest
    else resolve isFile (Percent.encode Percent.inPath segment :: above) rest

/-- A path of segments, written out; each has a slash before it. -/
def pathChars (segments : List (List Char)) : List Char :=
  segments.flatMap fun segment => '/' :: segment

/-! ## Reading -/

/-- Slashes of URLs whose scheme has a host. -/
def isAnySlash (c : Char) : Bool := c == '/' || c == '\\'

/-- Slashes of other URLs. -/
def isSlash (c : Char) : Bool := c == '/'

/-- The path of a URL, after the slash that starts it. -/
def ofChars (isSlash : Char → Bool) (cs : List Char) : String :=
  String.ofList (pathChars (resolve false [] (splitChars isSlash cs)))

/-- The path of a file: no empty segments start it. -/
def fileText (segments : List (List Char)) : String :=
  match segments.dropWhile List.isEmpty with
  | [] => "/"
  | segments => String.ofList (pathChars segments)

end IndexKeeper.UrlPath
