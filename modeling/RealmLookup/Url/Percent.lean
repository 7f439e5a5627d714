import RealmLookup.Text.Utf8

/-!
# Percent-encoding

A character outside ASCII, or one of a given set of ASCII characters, is written as the bytes
of its UTF-8 form, each as a percent sign and two hexadecimal digits.

## Main definitions

* `Percent.Set` : the ASCII characters to be encoded.
* `Percent.encode`, `Percent.decode` : encoding and decoding.
* `Percent.controls`, `Percent.path`, `Percent.segment`, … : the sets of the parts of a URL.
-/

namespace RealmLookup.Url.Percent

open RealmLookup.Text

/-- A set of ASCII characters that are encoded, as all others outside ASCII are. -/
abbrev Set : Type := Char → Bool

/-! ### Encoding -/

/-- The upper-case hexadecimal digit of a number below sixteen. -/
def hexDigit (n : Nat) : Char :=
  if n < 10 then Char.ofNat ('0'.toNat + n) else Char.ofNat ('A'.toNat + (n - 10))

/-- A byte as a percent sign and two hexadecimal digits. -/
def encodeByte (byte : UInt8) : List Char :=
  ['%', hexDigit (byte.toNat / 16), hexDigit (byte.toNat % 16)]

/-- A character, encoded if it is in the set or outside ASCII. -/
def encodeChar (set : Set) (c : Char) : List Char :=
  if c.toNat < 0x80 && !set c then [c] else (Utf8.encodeChar c).flatMap encodeByte

/-- A text with the characters of a set encoded. -/
def encode (set : Set) (text : List Char) : List Char :=
  text.flatMap (encodeChar set)

/-! ### Decoding -/

/-- The value of a hexadecimal digit. -/
def hexValue? (c : Char) : Option Nat :=
  if '0' ≤ c ∧ c ≤ '9' then some (c.toNat - '0'.toNat)
  else if 'a' ≤ c ∧ c ≤ 'f' then some (c.toNat - 'a'.toNat + 10)
  else if 'A' ≤ c ∧ c ≤ 'F' then some (c.toNat - 'A'.toNat + 10)
  else none

/-- The byte of two hexadecimal digits. -/
def byte? (high low : Char) : Option UInt8 :=
  match hexValue? high, hexValue? low with
  | some high, some low => some (UInt8.ofNat (high * 16 + low))
  | _, _ => none

/-- The bytes of a text, with the encoded ones decoded; a percent sign that two hexadecimal
digits do not follow stands for itself. -/
def decodeBytes : List Char → List UInt8
  | [] => []
  | '%' :: high :: low :: rest =>
      match byte? high low with
      | some byte => byte :: decodeBytes rest
      | none => Utf8.encodeChar '%' ++ decodeBytes (high :: low :: rest)
  | c :: rest => Utf8.encodeChar c ++ decodeBytes rest

/-- The characters of a text with its encoded bytes decoded. -/
def decode (text : List Char) : List Char :=
  Utf8.decodeLossy (decodeBytes text)

/-! ### The sets of the parts of a URL -/

/-- Control characters. -/
def controls : Set := fun c => c.toNat < 0x20 || c.toNat == 0x7F

/-- The set of a fragment. -/
def fragment : Set := fun c => controls c || [' ', '"', '<', '>', Char.ofNat 0x60].contains c

/-- The set of a query. -/
def query : Set := fun c => controls c || [' ', '"', '#', '<', '>'].contains c

/-- The set of a query of a special scheme. -/
def specialQuery : Set := fun c => query c || c == '\''

/-- The set of a path that is read with its slashes. -/
def path : Set := fun c => fragment c || ['#', '?', '{', '}'].contains c

/-- The set of one segment, slashes and percent signs included. -/
def segment : Set := fun c => path c || ['/', '%'].contains c

/-- The set of one segment where a backslash separates segments, too. -/
def specialSegment : Set := fun c => segment c || c == '\\'

/-- The set of a username or password. -/
def userinfo : Set := fun c =>
  path c || ['/', ':', ';', '=', '@', '[', '\\', ']', '^', '|'].contains c

end RealmLookup.Url.Percent
