import RealmLookup.Proofs.Text.Utf8
import RealmLookup.Url.Percent

/-!
# Decoding percent-encoded text

Percent-encoding loses nothing as long as the percent sign itself is encoded, and no sign of the
set is left in the encoded text, the percent signs and digits of the encoding apart.

## Main definitions

* `Url.Percent.hides` : the signs of a set that are no part of an encoded byte.

## Main results

* `Url.Percent.decode_encode` : decoding gives the text that was encoded.
* `Url.Percent.not_mem_encode` : a hidden sign does not occur in encoded text.
* `Url.Percent.ascii_encode` : encoded text is ASCII.
-/

namespace RealmLookup.Url.Percent

open RealmLookup.Text

/-! ### Encoded bytes -/

theorem hexValue?_hexDigit {n : Nat} (h : n < 16) : hexValue? (hexDigit n) = some n := by
  have every : ∀ k < 16, hexValue? (hexDigit k) = some k := by decide
  exact every n h

/-- The two digits of a byte spell it. -/
theorem byte?_hexDigits (byte : UInt8) :
    byte? (hexDigit (byte.toNat / 16)) (hexDigit (byte.toNat % 16)) = some byte := by
  have bound : byte.toNat < 256 := byte.toNat_lt
  have high : byte.toNat / 16 < 16 := by omega
  have low : byte.toNat % 16 < 16 := by omega
  have digits : byte.toNat / 16 * 16 + byte.toNat % 16 = byte.toNat := by omega
  simp [byte?, hexValue?_hexDigit high, hexValue?_hexDigit low, digits]

theorem decodeBytes_encodeByte (byte : UInt8) (rest : List Char) :
    decodeBytes (encodeByte byte ++ rest) = byte :: decodeBytes rest := by
  simp [encodeByte, decodeBytes, byte?_hexDigits]

theorem decodeBytes_flatMap_encodeByte (bytes : List UInt8) (rest : List Char) :
    decodeBytes (bytes.flatMap encodeByte ++ rest) = bytes ++ decodeBytes rest := by
  induction bytes with
  | nil => rfl
  | cons byte bytes ih =>
    rw [List.flatMap_cons, List.append_assoc, decodeBytes_encodeByte, ih, List.cons_append]

/-! ### Encoded text -/

variable {set : Set}

/-- A character other than the percent sign stands for itself. -/
theorem decodeBytes_cons {c : Char} (plain : c ≠ '%') (rest : List Char) :
    decodeBytes (c :: rest) = Utf8.encodeChar c ++ decodeBytes rest := by
  rw [decodeBytes]
  rintro _ _ _ rfl
  exact absurd rfl plain

section Decoding

variable (escapes : set '%' = true)
include escapes

theorem decodeBytes_encodeChar (c : Char) (rest : List Char) :
    decodeBytes (encodeChar set c ++ rest) = Utf8.encodeChar c ++ decodeBytes rest := by
  unfold encodeChar
  split
  · rename_i kept
    have plain : c ≠ '%' := by
      rintro rfl
      simp [escapes] at kept
    exact decodeBytes_cons plain rest
  · exact decodeBytes_flatMap_encodeByte _ _

theorem decodeBytes_encode (text : List Char) :
    decodeBytes (encode set text) = Utf8.encode text := by
  unfold encode Utf8.encode
  induction text with
  | nil => rfl
  | cons c rest ih => rw [List.flatMap_cons, decodeBytes_encodeChar escapes, ih, List.flatMap_cons]

/-- Decoding gives the text that was encoded. -/
theorem decode_encode (text : List Char) : decode (encode set text) = text := by
  rw [decode, decodeBytes_encode escapes, Utf8.decodeLossy_encode]

end Decoding

/-! ### Signs in encoded text -/

theorem encodeChar_ne_nil (set : Set) (c : Char) : encodeChar set c ≠ [] := by
  unfold encodeChar Utf8.encodeChar
  dsimp only
  split_ifs <;> simp [encodeByte]

theorem encode_ne_nil (set : Set) {text : List Char} (some : text ≠ []) :
    encode set text ≠ [] := by
  obtain ⟨c, rest, rfl⟩ := List.exists_cons_of_ne_nil some
  rw [encode, List.flatMap_cons]
  exact List.append_ne_nil_of_left_ne_nil (encodeChar_ne_nil set c) _

theorem mem_encodeByte {c : Char} {byte : UInt8} (member : c ∈ encodeByte byte) :
    c = '%' ∨ (hexValue? c).isSome = true := by
  have bound : byte.toNat < 256 := byte.toNat_lt
  have high : byte.toNat / 16 < 16 := by omega
  have low : byte.toNat % 16 < 16 := by omega
  rw [encodeByte, List.mem_cons, List.mem_cons, List.mem_singleton] at member
  rcases member with rfl | rfl | rfl
  · exact .inl rfl
  · exact .inr (by simp [hexValue?_hexDigit high])
  · exact .inr (by simp [hexValue?_hexDigit low])

/-- A sign of encoded text was there before, or belongs to an encoded byte. -/
theorem mem_encode {sign : Char} {text : List Char} (member : sign ∈ encode set text) :
    sign ∈ text ∧ set sign = false ∨ sign = '%' ∨ (hexValue? sign).isSome = true := by
  obtain ⟨c, listed, member⟩ := List.mem_flatMap.1 member
  unfold encodeChar at member
  split at member
  · rename_i kept
    rw [Bool.and_eq_true, Bool.not_eq_true'] at kept
    obtain rfl := List.mem_singleton.1 member
    exact .inl ⟨listed, kept.2⟩
  · obtain ⟨byte, -, member⟩ := List.mem_flatMap.1 member
    exact .inr (mem_encodeByte member)

theorem ascii_of_hexValue? {c : Char} (digit : (hexValue? c).isSome = true) : c.toNat < 0x80 := by
  have below {last : Char} (bound : c ≤ last) (ascii : last.toNat < 0x80) : c.toNat < 0x80 :=
    Nat.lt_of_le_of_lt bound ascii
  unfold hexValue? at digit
  split_ifs at digit with decimal lower upper
  · exact below decimal.2 (by decide)
  · exact below lower.2 (by decide)
  · exact below upper.2 (by decide)
  · cases digit

/-- Encoded text is ASCII. -/
theorem ascii_encode {sign : Char} {text : List Char} (member : sign ∈ encode set text) :
    sign.toNat < 0x80 := by
  obtain ⟨c, listed, member⟩ := List.mem_flatMap.1 member
  unfold encodeChar at member
  split at member
  · rename_i kept
    rw [Bool.and_eq_true, decide_eq_true_eq] at kept
    obtain rfl := List.mem_singleton.1 member
    exact kept.1
  · obtain ⟨byte, -, member⟩ := List.mem_flatMap.1 member
    rcases mem_encodeByte member with rfl | digit
    · decide
    · exact ascii_of_hexValue? digit

/-- Whether a sign is in a set and is neither the percent sign nor a digit of an encoded byte. -/
def hides (set : Set) (sign : Char) : Bool :=
  set sign && sign != '%' && (hexValue? sign).isNone

/-- A hidden sign does not occur in encoded text. -/
theorem not_mem_encode {sign : Char} (hidden : hides set sign = true) (text : List Char) :
    sign ∉ encode set text := by
  intro member
  simp only [hides, Bool.and_eq_true, bne_iff_ne, Option.isNone_iff_eq_none] at hidden
  obtain ⟨⟨encodes, other⟩, digit⟩ := hidden
  rcases mem_encode member with ⟨-, kept⟩ | percent | found
  · cases encodes.symm.trans kept
  · exact other percent
  · simp [digit] at found

end RealmLookup.Url.Percent
