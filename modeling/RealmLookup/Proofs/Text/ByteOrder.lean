import RealmLookup.Proofs.Text.Utf8
import Mathlib.Data.Char
import Mathlib.Data.List.Lex

/-!
# The order of encoded text

Texts are in the order of their bytes: the first character in which two texts differ decides, and
of two characters the smaller one has the smaller bytes, whatever follows them.

## Main results

* `Text.Utf8.encodeChar_append_lt` : the bytes of a smaller character are smaller.
* `Text.Utf8.encode_lt_encode_iff` : texts have the order of their bytes.
-/

namespace RealmLookup.Text.Utf8

theorem ofNat_lt_ofNat {m n : Nat} (first : m < 256) (second : n < 256) :
    UInt8.ofNat m < UInt8.ofNat n ↔ m < n := by
  rw [UInt8.lt_iff_toNat_lt, toNat_ofNat_byte first, toNat_ofNat_byte second]

theorem ofNat_inj {m n : Nat} (first : m < 256) (second : n < 256) :
    UInt8.ofNat m = UInt8.ofNat n ↔ m = n := by
  rw [← UInt8.toNat_inj, toNat_ofNat_byte first, toNat_ofNat_byte second]

/-- The bytes of a smaller character are smaller, whatever follows them. -/
theorem encodeChar_append_lt {c d : Char} (less : c < d) (first second : List UInt8) :
    encodeChar c ++ first < encodeChar d ++ second := by
  have below : c.toNat < d.toNat := less
  have valid := valid_toNat d
  unfold encodeChar
  simp only
  -- One goal for each pair of lengths; the first bytes that differ decide each of them.
  split_ifs <;>
    simp (disch := omega) only [List.cons_append, List.nil_append, List.cons_lt_cons_iff,
      ofNat_lt_ofNat, ofNat_inj] <;>
    omega

theorem encodeChar_ne_nil (c : Char) : encodeChar c ≠ [] := by
  unfold encodeChar
  simp only
  split_ifs <;> exact List.cons_ne_nil _ _

theorem append_lt_append_iff (front first second : List UInt8) :
    front ++ first < front ++ second ↔ first < second := by
  induction front with
  | nil => rfl
  | cons byte rest ih => simp [ih]

/-- Texts have the order of their bytes. -/
theorem encode_lt_encode_iff {text other : List Char} :
    encode text < encode other ↔ text < other := by
  induction text generalizing other with
  | nil =>
    cases other with
    | nil => exact iff_of_false (List.not_lt_nil _) (List.not_lt_nil _)
    | cons d others =>
      obtain ⟨byte, rest, written⟩ := List.exists_cons_of_ne_nil (encodeChar_ne_nil d)
      rw [encode, encode, List.flatMap_cons, written]
      exact iff_of_true (List.nil_lt_cons _ _) (List.nil_lt_cons _ _)
  | cons c rest ih =>
    cases other with
    | nil => exact iff_of_false (List.not_lt_nil _) (List.not_lt_nil _)
    | cons d others =>
      rw [encode, encode, List.flatMap_cons, List.flatMap_cons, List.cons_lt_cons_iff]
      rcases lt_trichotomy c d with less | rfl | greater
      · exact iff_of_true (encodeChar_append_lt less _ _) (.inl less)
      · refine (append_lt_append_iff _ _ _).trans (ih.trans ⟨fun less => .inr ⟨rfl, less⟩, ?_⟩)
        rintro (less | ⟨-, less⟩)
        · exact absurd less (lt_irrefl c)
        · exact less
      · refine iff_of_false (List.lt_asymm (encodeChar_append_lt greater _ _)) ?_
        rintro (less | ⟨rfl, -⟩)
        · exact lt_asymm less greater
        · exact lt_irrefl c greater

end RealmLookup.Text.Utf8
