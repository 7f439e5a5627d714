import RealmLookup.Text.Utf8
import Mathlib.Tactic.Common

/-!
# Decoding encoded text

Text survives its encoding: the bytes of a character decode to that character, whatever follows
them.  No character lies in the range of the surrogates, which is why a sequence that begins with
`0xED` may be continued by half of the bytes only.

## Main results

* `Text.Utf8.decodeFrom_encodeChar` : the bytes of a character decode to it.
* `Text.Utf8.decodeLossy_encode` : the bytes of a text decode to it.
-/

namespace RealmLookup.Text.Utf8

theorem toNat_ofNat_byte {n : Nat} (h : n < 256) : (UInt8.ofNat n).toNat = n := by
  rw [UInt8.toNat_ofNat', Nat.mod_eq_of_lt h]

theorem decodeFrom_cons (state : Option Pending) (byte : UInt8) (rest : List UInt8) :
    decodeFrom state (byte :: rest) =
      (step state byte.toNat).1 ++ decodeFrom (step state byte.toNat).2 rest := by
  cases state <;> rfl

/-! ### First bytes -/

variable {n : Nat}

theorem lead_one (h : n < 0x80) : lead n = some (.inl (Char.ofNat n)) := by
  simp [lead, h]

theorem lead_two (low : 0x80 ≤ n) (high : n < 0x800) :
    lead (0xC0 + n / 64) = some (.inr ⟨1, n / 64, 0x80, 0xBF⟩) := by
  have ascii : ¬ 0xC0 + n / 64 < 0x80 := by omega
  have range : 0xC2 ≤ 0xC0 + n / 64 ∧ 0xC0 + n / 64 ≤ 0xDF := by omega
  simp [lead, ascii, range]

/-- The first byte of three tells the range of the second one. -/
theorem lead_three (low : 0x800 ≤ n) (high : n < 0x10000)
    (valid : n < 0xD800 ∨ 0xDFFF < n) :
    ∃ least greatest, lead (0xE0 + n / 4096) = some (.inr ⟨2, n / 4096, least, greatest⟩) ∧
      least ≤ 0x80 + n / 64 % 64 ∧ 0x80 + n / 64 % 64 ≤ greatest := by
  have ascii : ¬ 0xE0 + n / 4096 < 0x80 := by omega
  have two : ¬ (0xC2 ≤ 0xE0 + n / 4096 ∧ 0xE0 + n / 4096 ≤ 0xDF) := by omega
  by_cases first : n / 4096 = 0
  · refine ⟨0xA0, 0xBF, by simp [lead, first], by omega, by omega⟩
  by_cases surrogates : n / 4096 = 0xD
  · refine ⟨0x80, 0x9F, by simp [lead, surrogates], by omega, by omega⟩
  · have range : 0xE1 ≤ 0xE0 + n / 4096 ∧ 0xE0 + n / 4096 ≤ 0xEF := by omega
    refine ⟨0x80, 0xBF, ?_, by omega, by omega⟩
    have other : ¬ 0xE0 + n / 4096 = 0xE0 ∧ ¬ 0xE0 + n / 4096 = 0xED := by omega
    rw [lead, if_neg ascii, if_neg two, if_neg other.1, if_neg other.2, if_pos range,
      Nat.add_sub_cancel_left]

/-- The first byte of four tells the range of the second one. -/
theorem lead_four (low : 0x10000 ≤ n) (high : n < 0x110000) :
    ∃ least greatest, lead (0xF0 + n / 262144) = some (.inr ⟨3, n / 262144, least, greatest⟩) ∧
      least ≤ 0x80 + n / 4096 % 64 ∧ 0x80 + n / 4096 % 64 ≤ greatest := by
  by_cases first : n / 262144 = 0
  · refine ⟨0x90, 0xBF, by simp [lead, first], by omega, by omega⟩
  by_cases last : n / 262144 = 4
  · refine ⟨0x80, 0x8F, by simp [lead, last], by omega, by omega⟩
  · refine ⟨0x80, 0xBF, ?_, by omega, by omega⟩
    have middle : n / 262144 = 1 ∨ n / 262144 = 2 ∨ n / 262144 = 3 := by omega
    rcases middle with same | same | same <;> simp [lead, same]

/-! ### Bytes that continue a sequence -/

theorem step_last {bits byte least greatest : Nat} (low : least ≤ byte)
    (high : byte ≤ greatest) :
    step (some ⟨1, bits, least, greatest⟩) byte =
      ([some (Char.ofNat (bits * 64 + (byte - 0x80)))], none) := by
  simp [step, continue?, low, high]

theorem step_middle {missing bits byte least greatest : Nat} (low : least ≤ byte)
    (high : byte ≤ greatest) :
    step (some ⟨missing + 2, bits, least, greatest⟩) byte =
      ([], some ⟨missing + 1, bits * 64 + (byte - 0x80), 0x80, 0xBF⟩) := by
  simp [step, continue?, low, high]

/-! ### Characters and texts -/

theorem start_of_lead {byte : Nat} {pending : Pending} (leads : lead byte = some (.inr pending)) :
    step none byte = ([], some pending) := by
  simp [step, start, leads]

theorem valid_toNat (c : Char) : c.toNat < 0xD800 ∨ 0xDFFF < c.toNat ∧ c.toNat < 0x110000 :=
  c.valid

/-- The bytes of a character decode to it, whatever follows them. -/
theorem decodeFrom_encodeChar (c : Char) (rest : List UInt8) :
    decodeFrom none (encodeChar c ++ rest) = some c :: decodeFrom none rest := by
  have valid := valid_toNat c
  have whole : Char.ofNat c.toNat = c := Char.ofNat_toNat c
  unfold encodeChar
  dsimp only
  generalize c.toNat = n at valid whole ⊢
  have tail (k : Nat) : 0x80 ≤ 0x80 + k % 64 ∧ 0x80 + k % 64 ≤ 0xBF := by omega
  have tailByte (k : Nat) : (UInt8.ofNat (0x80 + k % 64)).toNat = 0x80 + k % 64 :=
    toNat_ofNat_byte (by omega)
  split_ifs with one two three
  · have byte : (UInt8.ofNat n).toNat = n := toNat_ofNat_byte (by omega)
    rw [List.singleton_append, decodeFrom_cons, byte, step, start, lead_one one, whole]
    rfl
  · have byte : (UInt8.ofNat (0xC0 + n / 64)).toNat = 0xC0 + n / 64 := toNat_ofNat_byte (by omega)
    have bits : n / 64 * 64 + (0x80 + n % 64 - 0x80) = n := by omega
    rw [List.cons_append, List.singleton_append, decodeFrom_cons, byte,
      start_of_lead (lead_two (by omega) two), List.nil_append, decodeFrom_cons, tailByte,
      step_last (tail n).1 (tail n).2, bits, whole]
    rfl
  · have byte : (UInt8.ofNat (0xE0 + n / 4096)).toNat = 0xE0 + n / 4096 :=
      toNat_ofNat_byte (by omega)
    obtain ⟨least, greatest, leads, low, high⟩ := lead_three (n := n) (by omega) three (by omega)
    have bits :
        (n / 4096 * 64 + (0x80 + n / 64 % 64 - 0x80)) * 64 + (0x80 + n % 64 - 0x80) = n := by
      omega
    rw [List.cons_append, List.cons_append, List.singleton_append, decodeFrom_cons, byte,
      start_of_lead leads, List.nil_append, decodeFrom_cons, tailByte, step_middle low high,
      List.nil_append, decodeFrom_cons, tailByte, step_last (tail n).1 (tail n).2, bits, whole]
    rfl
  · have byte : (UInt8.ofNat (0xF0 + n / 262144)).toNat = 0xF0 + n / 262144 :=
      toNat_ofNat_byte (by omega)
    obtain ⟨least, greatest, leads, low, high⟩ := lead_four (n := n) (by omega) (by omega)
    have bits : ((n / 262144 * 64 + (0x80 + n / 4096 % 64 - 0x80)) * 64 +
        (0x80 + n / 64 % 64 - 0x80)) * 64 + (0x80 + n % 64 - 0x80) = n := by
      omega
    rw [List.cons_append, List.cons_append, List.cons_append, List.singleton_append,
      decodeFrom_cons, byte, start_of_lead leads, List.nil_append, decodeFrom_cons, tailByte,
      step_middle low high, List.nil_append, decodeFrom_cons, tailByte,
      step_middle (tail _).1 (tail _).2, List.nil_append, decodeFrom_cons, tailByte,
      step_last (tail n).1 (tail n).2, bits, whole]
    rfl

theorem decode_encode (text : List Char) : decode (encode text) = text.map some := by
  unfold decode encode
  induction text with
  | nil => rfl
  | cons c rest ih => rw [List.flatMap_cons, decodeFrom_encodeChar, ih, List.map_cons]

theorem decodeStrict?_encode (text : List Char) : decodeStrict? (encode text) = some text := by
  rw [decodeStrict?, decode_encode]
  induction text with
  | nil => rfl
  | cons c rest ih =>
    rw [List.map_cons, List.mapM_cons, ih]
    rfl

/-- The bytes of a text decode to it. -/
theorem decodeLossy_encode (text : List Char) : decodeLossy (encode text) = text := by
  rw [decodeLossy, decode_encode, List.map_map]
  exact List.map_id' text

end RealmLookup.Text.Utf8
