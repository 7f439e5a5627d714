import RealmLookup.Power

/-!
# Elements of certificates

The nested elements that a certificate consists of, each a tag, a length and its contents, and
the sequence of elements that makes up a certificate.

## Main definitions

* `Certificate.element?` : the element at the start of a byte sequence.
* `Certificate.isCertificate` : the byte sequences that hold one certificate.
-/

namespace RealmLookup.Certificate

/-- The tag of an integer. -/
def integerTag : Nat := 0x02

/-- The tag of a bit string. -/
def bitStringTag : Nat := 0x03

/-- The tag of a sequence. -/
def sequenceTag : Nat := 0x30

/-- The tag of the version of a certificate. -/
def versionTag : Nat := 0xA0

/-- The tag of the extensions of a certificate. -/
def extensionsTag : Nat := 0xA3

/-- The number of bytes in big-endian order. -/
def bigEndian (bytes : List UInt8) : Nat :=
  bytes.foldl (fun n byte => n * 256 + byte.toNat) 0

/-- The length at the start of a byte sequence, written in the fewest bytes, and the rest. -/
def length? : List UInt8 → Option (Nat × List UInt8)
  | [] => none
  | first :: rest =>
      if first.toNat < 0x80 then some (first.toNat, rest)
      else
        let count := first.toNat - 0x80
        let size := bigEndian (rest.take count)
        if 1 ≤ count ∧ count ≤ 4 ∧ count ≤ rest.length ∧ 0x80 ≤ size ∧
            twoTo (8 * (count - 1)) ≤ size then
          some (size, rest.drop count)
        else none

/-- The element of a tag at the start of a byte sequence: its contents, and the rest. -/
def element? (tag : Nat) : List UInt8 → Option (List UInt8 × List UInt8)
  | [] => none
  | first :: rest =>
      if first.toNat ≠ tag then none
      else
        match length? rest with
        | some (size, rest) =>
            if size ≤ rest.length then some (rest.take size, rest.drop size) else none
        | none => none

/-- The elements of given tags, one after the other: their contents, and the rest. -/
def elements? : List Nat → List UInt8 → Option (List (List UInt8) × List UInt8)
  | [], bytes => some ([], bytes)
  | tag :: tags, bytes =>
      match element? tag bytes with
      | none => none
      | some (contents, rest) =>
          (elements? tags rest).map fun found => (contents :: found.1, found.2)

/-- Whether bytes are sequences and nothing else, at most the given number. -/
def areSequences : Nat → List UInt8 → Bool
  | _, [] => true
  | 0, _ => false
  | count + 1, bytes =>
      match element? sequenceTag bytes with
      | some (_, rest) => areSequences count rest
      | none => false

/-- Whether bytes are one element holding one sequence of sequences, or nothing. -/
def areExtensions (bytes : List UInt8) : Bool :=
  bytes.isEmpty ||
    match element? extensionsTag bytes with
    | some (inner, []) =>
        match element? sequenceTag inner with
        | some (list, []) => areSequences list.length list
        | _ => false
    | _ => false

/-- The tags of the fields that every certificate has: serial number, signature algorithm,
issuer, validity, subject and public key. -/
def fieldTags : List Nat :=
  [integerTag, sequenceTag, sequenceTag, sequenceTag, sequenceTag, sequenceTag]

/-- Whether bytes are the signed part of a certificate that names this algorithm. -/
def isSigned (algorithm bytes : List UInt8) : Bool :=
  match element? versionTag bytes with
  | some (version, rest) =>
      match elements? fieldTags rest with
      | some (_ :: inner :: _, rest) =>
          version == [0x02, 0x01, 0x02] && inner == algorithm && areExtensions rest
      | _ => false
  | none =>
      match elements? fieldTags bytes with
      | some (_, []) => true
      | _ => false

/-- Whether bytes are one certificate. -/
def isCertificate (bytes : List UInt8) : Bool :=
  match element? sequenceTag bytes with
  | some (whole, []) =>
      match elements? [sequenceTag, sequenceTag, bitStringTag] whole with
      | some ([signed, algorithm, _], []) => isSigned algorithm signed
      | _ => false
  | _ => false

end RealmLookup.Certificate
