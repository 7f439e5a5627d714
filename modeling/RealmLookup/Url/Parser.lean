import RealmLookup.Text.Blank
import RealmLookup.Url.Basic

/-!
# Reading URLs

The URL that a text denotes by itself, without a base to be relative to.  Control characters
and blanks at the ends are dropped first, and tabs and line ends everywhere; the rest is read
from left to right: scheme, username and password, host, port, path, query, fragment.

## Main definitions

* `Url.parse` : the URL of a text.
-/

namespace RealmLookup.Url

open RealmLookup.Text

/-! ### Parts -/

/-- Whether a character separates segments: a slash, or for special schemes a backslash. -/
def isSlash (special : Bool) (c : Char) : Bool :=
  c == '/' || (special && c == '\\')

/-- The scheme in lower case, and the text behind its colon. -/
def scheme? (text : List Char) : Option (List Char × List Char) :=
  let isSchemeChar (c : Char) : Bool := c.isAlphanum || ['+', '-', '.'].contains c
  match text with
  | [] => none
  | first :: _ =>
      if !first.isAlpha then none
      else
        match text.dropWhile isSchemeChar with
        | ':' :: rest => some ((text.takeWhile isSchemeChar).map Char.toLower, rest)
        | _ => none

/-- The text before and behind the last sign of a kind. -/
def splitLast (sign : Char) (text : List Char) : Option (List Char × List Char) :=
  match (text.reverse.dropWhile (· ≠ sign)) with
  | [] => none
  | _ :: before => some (before.reverse, (text.reverse.takeWhile (· ≠ sign)).reverse)

/-- Username and password, encoded; they are separated by the first colon. -/
def credentials (text : List Char) : List Char × List Char :=
  (Percent.encode Percent.userinfo (text.takeWhile (· ≠ ':')),
    Percent.encode Percent.userinfo ((text.dropWhile (· ≠ ':')).drop 1))

/-- The host at the start of a text, up to a colon outside brackets. -/
def spanHost : Bool → List Char → List Char × List Char
  | _, [] => ([], [])
  | bracket, c :: rest =>
      if c = ':' ∧ !bracket then ([], c :: rest)
      else
        let bracket := if c = '[' then true else if c = ']' then false else bracket
        let parts := spanHost bracket rest
        (c :: parts.1, parts.2)

/-- The port that digits spell; none if they are missing or spell the default one. -/
def portOf (scheme digits : List Char) : Except Error (Option Nat) :=
  let number := Nat.ofDigitChars 10 digits 0
  if 65535 < number then .error .invalidPort
  else if digits.isEmpty ∨ defaultPort? scheme = some number then .ok none
  else .ok (some number)

/-- Host and port, and the text behind them, which is empty or begins with a backslash. -/
def hostAndPort (scheme text : List Char) : Except Error (Host × Option Nat × List Char) := do
  let special := isSpecial scheme
  let (hostText, rest) := spanHost false text
  if special ∧ hostText.isEmpty then throw .emptyHost
  let host ← if special then Host.parse hostText else Host.parseOther hostText
  match rest with
  | ':' :: behind =>
      if hostText.isEmpty then throw .emptyHost
      let port ← portOf scheme (behind.takeWhile Char.isDigit)
      match behind.dropWhile Char.isDigit with
      | [] => return (host, port, [])
      | '\\' :: rest => return (host, port, '\\' :: rest)
      | _ => throw .invalidPort
  | _ => return (host, none, [])

/-! ### Paths -/

/-- A segment read as a drive: the bar of a drive becomes a colon. -/
def asDrive (segment : List Char) : List Char :=
  match segment with
  | [letter, '|'] => if letter.isAlpha then [letter, ':'] else segment
  | _ => segment

/-- Fills the open last segment with one that was read.  The first segment of a path of files
may begin with a drive, which is then a segment of its own. -/
def readLast (file : Bool) (segments : List (List Char)) (segment : List Char) :
    List (List Char) :=
  if file ∧ segments = [[]] then
    match segment with
    | letter :: ':' :: c :: rest =>
        if letter.isAlpha then [[letter, ':'], c :: rest] else fillLast file segments segment
    | _ => fillLast file segments (asDrive segment)
  else fillLast file segments segment

/-- Opens the segment behind a slash; a level that points left open stays so. -/
def reopen (segment : List Char) (segments : List (List Char)) : List (List Char) :=
  if (isHere segment || isAbove segment) && segments.getLast? == some [] then segments
  else segments ++ [[]]

/-- The segments of a path, the first one being open. -/
def readSegments (file : Bool) : List (List Char) → List (List Char) → List (List Char)
  | segments, [] => segments
  | segments, [last] => readLast file segments last
  | segments, segment :: rest =>
      readSegments file (reopen segment (readLast file segments segment)) rest

/-- The parts of a text between slashes. -/
def splitSlashes (special : Bool) (text : List Char) : List (List Char) :=
  Form.split '/' (text.map fun c => if isSlash special c then '/' else c)

/-- The path of a text behind its first slash. -/
def readPath (special file : Bool) (text : List Char) : List (List Char) :=
  let encoded := (splitSlashes special text).map (Percent.encode Percent.path)
  let segments := readSegments file [[]] encoded
  if file then dropLeadingEmpty segments else segments

/-- The path that follows an authority. -/
def pathAfterAuthority (special : Bool) (text : List Char) : List (List Char) :=
  match text with
  | [] => if special then [[]] else []
  | c :: rest => readPath special false (if isSlash special c then rest else text)

/-! ### URLs -/

/-- What precedes the path. -/
structure Location where
  username : List Char
  password : List Char
  host : Option Host
  port : Option Nat

/-- The location without an authority. -/
def Location.none : Location := ⟨[], [], .none, .none⟩

/-- The authority of a URL, and the text behind it. -/
def authorityOf (scheme text : List Char) : Except Error (Location × List Char) := do
  match splitLast '@' text with
  | none =>
      let (host, port, rest) ← hostAndPort scheme text
      return (⟨[], [], some host, port⟩, rest)
  | some (before, after) =>
      if before.isEmpty ∧ after.isEmpty then throw .emptyHost
      let (username, password) := credentials before
      let (host, port, rest) ← hostAndPort scheme after
      if host = .name [] ∧ !(username.isEmpty && password.isEmpty) then throw .emptyHost
      return (⟨username, password, some host, port⟩, rest)

/-- Text up to the first sign of a kind, and what follows the sign. -/
def cut (sign : Char) (text : List Char) : List Char × Option (List Char) :=
  (text.takeWhile (· ≠ sign),
    match text.dropWhile (· ≠ sign) with
    | [] => none
    | _ :: rest => some rest)

/-- Host and path of a URL of local files.  The host `localhost` counts as none, and a drive
is never a host. -/
def fileParts (text : List Char) : Except Error (Option Host × List (List Char)) :=
  match text with
  | a :: b :: rest =>
      if isSlash true a ∧ isSlash true b then
        let hostText := rest.takeWhile (!isSlash true ·)
        let pathText := rest.dropWhile (!isSlash true ·)
        if hostText.isEmpty then .ok (none, readPath true true (rest.drop 1))
        else if isDriveLike hostText then .ok (none, readPath true true rest)
        else
          match Host.parse hostText with
          | .error error => .error error
          | .ok host =>
              let host := if host = .name "localhost".toList then none else some host
              .ok (host, readPath true true (pathText.drop 1))
      else .ok (none, readPath true true (if isSlash true a then b :: rest else text))
  | [a] => .ok (none, readPath true true (if isSlash true a then [] else [a]))
  | [] => .ok (none, readPath true true [])

/-- Location and path of the text between scheme and query. -/
def parts (scheme text : List Char) :
    Except Error (Location × (List (List Char) ⊕ List Char)) := do
  if isFile scheme then
    let (host, path) ← fileParts text
    return ({ Location.none with host }, .inl path)
  else if isSpecial scheme then
    let text := text.dropWhile (isSlash true)
    let (location, rest) ← authorityOf scheme (text.takeWhile (!isSlash true ·))
    let path := rest ++ text.dropWhile (!isSlash true ·)
    return (location, .inl (pathAfterAuthority true path))
  else
    match text with
    | '/' :: '/' :: rest =>
        let (location, behind) ← authorityOf scheme (rest.takeWhile (· ≠ '/'))
        let path := behind ++ rest.dropWhile (· ≠ '/')
        return (location, .inl (pathAfterAuthority false path))
    | '/' :: rest => return (Location.none, .inl (readPath false false rest))
    | _ => return (Location.none, .inr (Percent.encode Percent.controls text))

/-- The URL of a text. -/
def parse (text : List Char) : Except Error Url := do
  let isEnd (c : Char) : Bool := c.toNat ≤ 0x20
  match scheme? ((trim isEnd text).filter fun c => !isDropped c) with
  | none => throw .relativeWithoutBase
  | some (scheme, rest) =>
      let (rest, fragment) := cut '#' rest
      let (rest, query) := cut '?' rest
      let (location, path) ← parts scheme rest
      let querySet := if isSpecial scheme then Percent.specialQuery else Percent.query
      return {
        scheme, path
        username := location.username
        password := location.password
        host := location.host
        port := location.port
        query := query.map (Percent.encode querySet)
        fragment := fragment.map (Percent.encode Percent.fragment) }

end RealmLookup.Url
