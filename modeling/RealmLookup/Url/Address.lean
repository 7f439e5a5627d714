import RealmLookup.Power
import RealmLookup.Url.Form

/-!
# Numeric hosts

IPv4 addresses in all their spellings (one to four parts in decimal, octal or hexadecimal
digits, the last part filling the remaining bytes) and IPv6 addresses, with their written
forms.

## Main definitions

* `Address.endsInNumber` : the hosts that must be IPv4 addresses.
* `Address.ipv4?`, `Address.renderIpv4` : IPv4 addresses.
* `Address.ipv6?`, `Address.renderIpv6` : IPv6 addresses.
-/

namespace RealmLookup.Url.Address

/-! ### Numbers -/

/-- The number that digits spell in a base. -/
def digits? (base : Nat) : List Char → Option Nat
  | text => text.foldl (fun found c =>
      match found, Percent.hexValue? c with
      | some n, some d => if d < base then some (n * base + d) else none
      | _, _ => none) (some 0)

/-- A part of an IPv4 address: hexadecimal behind `0x`, octal behind a zero, else decimal. -/
def part? (text : List Char) : Option Nat :=
  match text with
  | [] => none
  | '0' :: 'x' :: rest => digits? 16 rest
  | '0' :: 'X' :: rest => digits? 16 rest
  | '0' :: c :: rest => digits? 8 (c :: rest)
  | _ => digits? 10 text

/-! ### IPv4 -/

/-- The parts of a host between points, without one empty last part. -/
def labels (host : List Char) : List (List Char) :=
  let parts := Form.split '.' host
  if parts.length > 1 ∧ parts.getLast? = some [] then parts.dropLast else parts

/-- Whether the last label of a host is numeric, so that the host must be an address. -/
def endsInNumber (host : List Char) : Bool :=
  match (labels host).getLast? with
  | none | some [] => false
  | some last => last.all Char.isDigit || (part? last).isSome

/-- The address of its parts: all but the last fill one byte each, the last one the rest. -/
def ofParts? (parts : List Nat) : Option Nat :=
  match parts.getLast? with
  | none => none
  | some last =>
      let first := parts.dropLast
      let unit := twoTo (8 * (4 - first.length))
      if 3 < first.length ∨ first.any (255 < ·) = true ∨ unit ≤ last then none
      else some (first.foldl (fun n part => n * 256 + part) 0 * unit + last)

/-- The IPv4 address of a host. -/
def ipv4? (host : List Char) : Option Nat :=
  ((labels host).mapM part?).bind ofParts?

/-- An IPv4 address as four decimal numbers. -/
def renderIpv4 (address : Nat) : List Char :=
  List.intercalate ['.'] <|
    [address / twoTo 24 % 256, address / twoTo 16 % 256, address / 256 % 256, address % 256].map
      (Nat.toDigits 10)

/-! ### IPv6 -/

/-- One byte of the dotted tail of an IPv6 address: decimal, without leading zeros. -/
def tailByte? (text : List Char) : Option Nat :=
  match text with
  | [] => none
  | ['0'] => some 0
  | '0' :: _ => none
  | _ =>
      match digits? 10 text with
      | some n => if n ≤ 255 then some n else none
      | none => none

/-- The two pieces of a dotted tail. -/
def tail? (text : List Char) : Option (List Nat) :=
  match (Form.split '.' text).mapM tailByte? with
  | some [a, b, c, d] => some [a * 256 + b, c * 256 + d]
  | _ => none

/-- A piece of one to four hexadecimal digits. -/
def piece? (text : List Char) : Option Nat :=
  if text ≠ [] ∧ text.length ≤ 4 then digits? 16 text else none

/-- The pieces between colons; the last part may be a dotted tail. -/
def pieces? : List (List Char) → Option (List Nat)
  | [] => some []
  | [last] => if last.contains '.' then tail? last else (piece? last).map ([·])
  | part :: rest =>
      match piece? part, pieces? rest with
      | some piece, some pieces => some (piece :: pieces)
      | _, _ => none

/-- The text before and behind the first pair of colons. -/
def splitGap : List Char → Option (List Char × List Char)
  | [] => none
  | ':' :: ':' :: rest => some ([], rest)
  | c :: rest => (splitGap rest).map fun parts => (c :: parts.1, parts.2)

/-- The pieces of one side of the gap. -/
def side? (dotted : Bool) (text : List Char) : Option (List Nat) :=
  if text.isEmpty then some []
  else if !dotted && text.contains '.' then none
  else pieces? (Form.split ':' text)

/-- The eight pieces of an IPv6 address; two colons stand for one or more pieces of zero. -/
def ipv6? (text : List Char) : Option (List Nat) :=
  match splitGap text with
  | none =>
      match pieces? (Form.split ':' text) with
      | some pieces => if pieces.length = 8 then some pieces else none
      | none => none
  | some (before, after) =>
      match side? false before, side? true after with
      | some left, some right =>
          if left.length + right.length ≤ 7 then
            some (left ++ List.replicate (8 - left.length - right.length) 0 ++ right)
          else none
      | _, _ => none

/-- The number of leading zeros of a list. -/
def leadingZeros (pieces : List Nat) : Nat :=
  (pieces.takeWhile (· == 0)).length

/-- Start and length of the longest run of zeros, the first one of several. -/
def longestRun (pieces : List Nat) : Nat × Nat :=
  (List.range pieces.length).foldl (fun best start =>
    let count := leadingZeros (pieces.drop start)
    if best.2 < count then (start, count) else best) (0, 0)

/-- Pieces in hexadecimal digits, joined by colons. -/
def renderPieces (pieces : List Nat) : List Char :=
  List.intercalate [':'] (pieces.map (Nat.toDigits 16))

/-- An IPv6 address with its longest run of two or more zeros left out. -/
def renderIpv6 (pieces : List Nat) : List Char :=
  let (start, count) := longestRun pieces
  if count < 2 then renderPieces pieces
  else renderPieces (pieces.take start) ++ [':', ':'] ++ renderPieces (pieces.drop (start + count))

end RealmLookup.Url.Address
