import RealmLookup.Text.Blank
import Mathlib.Data.List.TakeWhile
import Mathlib.Tactic.Common

/-!
# Trimming

Trimming a text leaves the part between the characters of a class at its ends, and this part is
the only one that neither begins nor ends with such a character.

## Main definitions

* `Text.Padded` : a text with characters of a class around a part of it.
* `Text.Bare` : texts without such characters at their ends.

## Main results

* `Text.trim_eq_iff` : what trimming leaves.
-/

namespace RealmLookup.Text

variable {drop : Char → Bool} {text core before : List Char}

/-- A text that is a part with characters of a class before and behind it. -/
def Padded (drop : Char → Bool) (text core : List Char) : Prop :=
  ∃ before after, text = before ++ core ++ after ∧ (∀ c ∈ before, drop c = true) ∧
    ∀ c ∈ after, drop c = true

/-- A text around a part that is not empty is not empty. -/
theorem Padded.ne_nil (padded : Padded drop text core) (filled : core ≠ []) : text ≠ [] := by
  obtain ⟨before, after, rfl, -⟩ := padded
  simp [filled]

/-- A text that neither begins nor ends with a character of a class. -/
structure Bare (drop : Char → Bool) (text : List Char) : Prop where
  starts : ∀ c ∈ text.head?, drop c = false
  ends : ∀ c ∈ text.getLast?, drop c = false

/-- Characters in front of a text that does not begin with one are dropped. -/
theorem dropWhile_padding (padding : ∀ c ∈ before, drop c = true)
    (starts : ∀ c ∈ text.head?, drop c = false) : (before ++ text).dropWhile drop = text := by
  rw [List.dropWhile_append_of_pos padding]
  cases text with
  | nil => rfl
  | cons c rest => exact List.dropWhile_cons_of_neg (Bool.eq_false_iff.1 (starts c rfl))

/-- What is dropped at the start are characters of the class, and no more of them follow. -/
theorem exists_of_dropWhile (drop : Char → Bool) (text : List Char) :
    (∃ before, text = before ++ text.dropWhile drop ∧ ∀ c ∈ before, drop c = true) ∧
      ∀ c ∈ (text.dropWhile drop).head?, drop c = false := by
  refine ⟨⟨text.takeWhile drop, List.takeWhile_append_dropWhile.symm, fun c member => ?_⟩,
    fun c first => ?_⟩
  · exact List.mem_takeWhile_imp member
  · have stays := List.head?_dropWhile_not drop text
    rw [Option.mem_def.1 first] at stays
    exact stays

/-- What is dropped at the end are characters of the class. -/
theorem exists_of_trim (drop : Char → Bool) (text : List Char) :
    ∃ after, text.dropWhile drop = trim drop text ++ after ∧ ∀ c ∈ after, drop c = true := by
  obtain ⟨⟨after, back, trailing⟩, -⟩ := exists_of_dropWhile drop (text.dropWhile drop).reverse
  refine ⟨after.reverse, ?_, fun c member => trailing c (List.mem_reverse.1 member)⟩
  rw [trim, trimEnd, trimStart, ← List.reverse_append, ← back, List.reverse_reverse]

/-- A trimmed text is a part of the text with characters of the class around it. -/
theorem padded_trim (drop : Char → Bool) (text : List Char) :
    Padded drop text (trim drop text) := by
  obtain ⟨⟨before, front, leading⟩, -⟩ := exists_of_dropWhile drop text
  obtain ⟨after, back, trailing⟩ := exists_of_trim drop text
  refine ⟨before, after, ?_, leading, trailing⟩
  rw [List.append_assoc, ← back]
  exact front

/-- A trimmed text has no more characters of the class at its ends. -/
theorem bare_trim (drop : Char → Bool) (text : List Char) : Bare drop (trim drop text) where
  starts c first := by
    obtain ⟨after, back, -⟩ := exists_of_trim drop text
    refine (exists_of_dropWhile drop text).2 c ?_
    rw [back, List.head?_append, Option.mem_def.1 first]
    rfl
  ends c last := by
    refine (exists_of_dropWhile drop (text.dropWhile drop).reverse).2 c ?_
    rwa [trim, trimEnd, List.getLast?_reverse] at last

/-- A text that is not empty is what trimming leaves exactly if it has no characters of the class
at its ends, and nothing but such characters around it. -/
theorem trim_eq_iff (filled : core ≠ []) :
    trim drop text = core ↔ Bare drop core ∧ Padded drop text core := by
  constructor
  · rintro rfl
    exact ⟨bare_trim drop text, padded_trim drop text⟩
  · rintro ⟨⟨starts, ends⟩, before, after, rfl, leading, trailing⟩
    have front : trimStart drop (before ++ core ++ after) = core ++ after := by
      rw [trimStart, List.append_assoc]
      refine dropWhile_padding leading fun c first => starts c ?_
      obtain ⟨d, rest, rfl⟩ := List.exists_cons_of_ne_nil filled
      exact first
    rw [trim, front, trimEnd, List.reverse_append, dropWhile_padding, List.reverse_reverse]
    · exact fun c member => trailing c (List.mem_reverse.1 member)
    · rwa [List.head?_reverse]

end RealmLookup.Text
