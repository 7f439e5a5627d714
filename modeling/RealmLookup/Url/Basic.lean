import RealmLookup.Url.Host

/-!
# URLs

URLs as records of their parts, their written form, and the two ways in which a URL is made
from a base URL: by further path segments and by further query pairs.

## Main definitions

* `Url` : a URL by its parts.
* `Url.render` : the written form; `Url.target` is what a server gets to see.
* `Url.push`, `Url.extend` : the URL with further path segments.
* `Url.withPairs` : the URL with further query pairs.
-/

namespace RealmLookup

/-- A URL by its parts.  The path is the list of its segments, each behind a slash; a path
without any slash, as that of a mail address, makes a URL that nothing can be appended to. -/
structure Url where
  scheme : List Char
  username : List Char
  password : List Char
  host : Option Url.Host
  port : Option Nat
  path : List (List Char) ⊕ List Char
  query : Option (List Char)
  fragment : Option (List Char)
deriving DecidableEq

namespace Url

/-! ### Schemes -/

/-- The default ports of the schemes whose URLs always have a host. -/
def defaultPorts : List (String × Nat) :=
  [("http", 80), ("https", 443), ("ws", 80), ("wss", 443), ("ftp", 21)]

/-- The default port of a scheme. -/
def defaultPort? (scheme : List Char) : Option Nat :=
  (defaultPorts.find? (·.1 == String.ofList scheme)).map Prod.snd

/-- Whether a scheme names local files. -/
def isFile (scheme : List Char) : Bool :=
  String.ofList scheme == "file"

/-- Whether a scheme is one of those with hosts and backslashes of their own rules. -/
def isSpecial (scheme : List Char) : Bool :=
  (defaultPort? scheme).isSome || isFile scheme

/-! ### Written form -/

variable (url : Url)

/-- Username and password, with the sign that ends them. -/
def userinfo : List Char :=
  if url.username.isEmpty && url.password.isEmpty then []
  else
    url.username ++ (if url.password.isEmpty then [] else ':' :: url.password) ++ ['@']

/-- Host and port. -/
def authority : List Char :=
  match url.host with
  | none => []
  | some host =>
      host.render ++ (match url.port with
        | none => []
        | some port => ':' :: Nat.toDigits 10 port)

/-- The slashes and the authority, which a URL of local files has even without a host. -/
def location : List Char :=
  if url.host.isSome || isFile url.scheme then '/' :: '/' :: (url.userinfo ++ url.authority)
  else []

/-- Segments, each behind a slash. -/
def renderSegments (segments : List (List Char)) : List Char :=
  segments.flatMap ('/' :: ·)

/-- The path; one that would look like an authority gets a point first. -/
def renderPath : List Char :=
  match url.path with
  | .inr text => text
  | .inl segments =>
      match segments with
      | [] :: _ :: _ =>
          if url.location.isEmpty then '/' :: '.' :: renderSegments segments
          else renderSegments segments
      | _ => renderSegments segments

/-- An optional part behind its sign. -/
def renderPart (sign : Char) : Option (List Char) → List Char
  | none => []
  | some text => sign :: text

/-- The written form of a URL. -/
def render : List Char :=
  url.scheme ++ ':' :: (url.location ++ url.renderPath ++ renderPart '?' url.query ++
    renderPart '#' url.fragment)

/-- The URL as a server receives it: without username, password and fragment. -/
def target : Url :=
  { url with username := [], password := [], fragment := none }

/-- The text of a URL. -/
def text : String :=
  String.ofList url.render

/-! ### Path segments -/

/-- Whether a segment is a letter and a colon, as drives are named. -/
def isDrive (segment : List Char) : Bool :=
  match segment with
  | [letter, ':'] => letter.isAlpha
  | _ => false

/-- Whether a segment is a letter and a colon or bar. -/
def isDriveLike (segment : List Char) : Bool :=
  match segment with
  | [letter, sign] => letter.isAlpha && (sign == ':' || sign == '|')
  | _ => false

/-- Empties the last segment, unless it is the drive of a file. -/
def emptyLast (file : Bool) (segments : List (List Char)) : List (List Char) :=
  match segments.getLast? with
  | none => segments
  | some last =>
      if file && isDrive last then segments else segments.dropLast ++ [[]]

/-- Goes up one level from an open last segment: its slash is removed unless it is the first
one or follows a drive, and then the last segment is emptied. -/
def goUp (file : Bool) (segments : List (List Char)) : List (List Char) :=
  let shorter :=
    match segments.dropLast.getLast? with
    | none => segments
    | some before => if isDriveLike before then segments else segments.dropLast
  emptyLast file shorter

/-- One point, also as its percent-encoding. -/
def pointSpellings : List String := [".", "%2e", "%2E"]

/-- Whether a segment stands for the level it is in. -/
def isHere (segment : List Char) : Bool :=
  pointSpellings.contains (String.ofList segment)

/-- Whether a segment stands for the level above. -/
def isAbove (segment : List Char) : Bool :=
  (pointSpellings.flatMap fun a => pointSpellings.map fun b => a ++ b).contains
    (String.ofList segment)

/-- Fills the open last segment: a point leaves it empty, and two points go up one level. -/
def fillLast (file : Bool) (segments : List (List Char)) (segment : List Char) :
    List (List Char) :=
  if isAbove segment then goUp file segments
  else if isHere segment then segments
  else segments.dropLast ++ [segment]

/-- Drops the empty segments that a path of files may not begin with. -/
def dropLeadingEmpty (segments : List (List Char)) : List (List Char) :=
  match segments.dropWhile List.isEmpty with
  | [] => [[]]
  | rest => rest

/-- Opens a new last segment; a path that is a single slash is open already. -/
def openLast (segments : List (List Char)) : List (List Char) :=
  if segments = [[]] then segments else segments ++ [[]]

/-- The characters that are dropped wherever they stand in a URL. -/
def isDropped (c : Char) : Bool :=
  c == '\t' || c == '\n' || c == '\r'

/-- Appends one segment to a path.  Points alone are passed over; tabs and line ends are
dropped first, and points that only then stand alone do count. -/
def pushSegment (special file : Bool) (segments : List (List Char)) (text : String) :
    List (List Char) :=
  if text = "." ∨ text = ".." then segments
  else
    let set := if special then Percent.specialSegment else Percent.segment
    let filled :=
      fillLast file (openLast segments)
        (Percent.encode set (text.toList.filter fun c => !isDropped c))
    if file then dropLeadingEmpty filled else filled

/-- Drops one empty last segment. -/
def dropEmptyLast (segments : List (List Char)) : List (List Char) :=
  if segments.length > 1 ∧ segments.getLast? = some [] then segments.dropLast else segments

/-- Whether path segments can be appended. -/
def isBase : Bool :=
  url.path.isLeft

/-- The URL with further path segments, one empty last segment dropped first. -/
def extend (segments : List String) : Url :=
  match url.path with
  | .inr _ => url
  | .inl path =>
      let push := pushSegment (isSpecial url.scheme) (isFile url.scheme)
      { url with path := .inl (segments.foldl push (dropEmptyLast path)) }

/-! ### Query pairs -/

/-- The URL with further query pairs. -/
def withPairs (pairs : List (String × String)) : Url :=
  if pairs.isEmpty then url
  else
    { url with query :=
        match url.query with
        | none | some [] => some (Form.encode pairs)
        | some query => some (query ++ '&' :: Form.encode pairs) }

end Url

end RealmLookup
