/-!
# UTF-8

Characters as bytes and back.  Decoding runs one step per byte and never looks back: a
malformed sequence is given up at the first byte that cannot continue it, and that byte then
starts anew.

## Main definitions

* `Utf8.encode` : the bytes of a text.
* `Utf8.decode` : the characters of a byte sequence, `none` in place of each malformed part.
* `Utf8.decodeStrict?`, `Utf8.decodeLossy` : decoding that refuses malformed parts, and
  decoding that puts U+FFFD in their place.
-/

namespace RealmLookup.Text.Utf8

/-- The bytes of one character. -/
def encodeChar (c : Char) : List UInt8 :=
  let n := c.toNat
  if n < 0x80 then [UInt8.ofNat n]
  else if n < 0x800 then [UInt8.ofNat (0xC0 + n / 64), UInt8.ofNat (0x80 + n % 64)]
  else if n < 0x10000 then
    [UInt8.ofNat (0xE0 + n / 4096), UInt8.ofNat (0x80 + n / 64 % 64), UInt8.ofNat (0x80 + n % 64)]
  else
    [UInt8.ofNat (0xF0 + n / 262144), UInt8.ofNat (0x80 + n / 4096 % 64),
      UInt8.ofNat (0x80 + n / 64 % 64), UInt8.ofNat (0x80 + n % 64)]

/-- The bytes of a text. -/
def encode (text : List Char) : List UInt8 :=
  text.flatMap encodeChar

/-- A sequence that has begun: how many bytes are missing, the bits so far, and the range of
the next byte. -/
structure Pending where
  missing : Nat
  bits : Nat
  low : Nat
  high : Nat

/-- What a first byte means: a character of its own, the begin of a sequence, or neither. -/
def lead (byte : Nat) : Option (Char ⊕ Pending) :=
  if byte < 0x80 then some (.inl (Char.ofNat byte))
  else if 0xC2 ≤ byte ∧ byte ≤ 0xDF then some (.inr ⟨1, byte - 0xC0, 0x80, 0xBF⟩)
  else if byte = 0xE0 then some (.inr ⟨2, 0, 0xA0, 0xBF⟩)
  else if byte = 0xED then some (.inr ⟨2, 0xD, 0x80, 0x9F⟩)
  else if 0xE1 ≤ byte ∧ byte ≤ 0xEF then some (.inr ⟨2, byte - 0xE0, 0x80, 0xBF⟩)
  else if byte = 0xF0 then some (.inr ⟨3, 0, 0x90, 0xBF⟩)
  else if byte = 0xF4 then some (.inr ⟨3, 4, 0x80, 0x8F⟩)
  else if 0xF1 ≤ byte ∧ byte ≤ 0xF3 then some (.inr ⟨3, byte - 0xF0, 0x80, 0xBF⟩)
  else none

/-- One byte outside a sequence: what it completes and what it begins. -/
def start (byte : Nat) : List (Option Char) × Option Pending :=
  match lead byte with
  | none => ([none], none)
  | some (.inl c) => ([some c], none)
  | some (.inr pending) => ([], some pending)

/-- One byte inside a sequence. -/
def continue? (pending : Pending) (byte : Nat) : Option (List (Option Char) × Option Pending) :=
  if pending.low ≤ byte ∧ byte ≤ pending.high then
    let bits := pending.bits * 64 + (byte - 0x80)
    if pending.missing ≤ 1 then some ([some (Char.ofNat bits)], none)
    else some ([], some ⟨pending.missing - 1, bits, 0x80, 0xBF⟩)
  else none

/-- One byte in any state; a byte that cannot continue a sequence ends it as malformed and
starts anew. -/
def step (state : Option Pending) (byte : Nat) : List (Option Char) × Option Pending :=
  match state with
  | none => start byte
  | some pending =>
      match continue? pending byte with
      | some next => next
      | none => (none :: (start byte).1, (start byte).2)

/-- Decodes the rest of a byte sequence from a state. -/
def decodeFrom : Option Pending → List UInt8 → List (Option Char)
  | none, [] => []
  | some _, [] => [none]
  | state, byte :: rest =>
      (step state byte.toNat).1 ++ decodeFrom (step state byte.toNat).2 rest

/-- The characters of a byte sequence, with `none` for each malformed part. -/
def decode (bytes : List UInt8) : List (Option Char) :=
  decodeFrom none bytes

/-- The characters of a byte sequence without malformed parts. -/
def decodeStrict? (bytes : List UInt8) : Option (List Char) :=
  (decode bytes).mapM id

/-- The characters of a byte sequence, each malformed part as U+FFFD. -/
def decodeLossy (bytes : List UInt8) : List Char :=
  (decode bytes).map fun c => c.getD (Char.ofNat 0xFFFD)

end RealmLookup.Text.Utf8
