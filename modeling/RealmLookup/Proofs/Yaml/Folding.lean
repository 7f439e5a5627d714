import RealmLookup.Proofs.Yaml.Quoted
import Mathlib.Data.List.Chain

/-!
# Texts that folding leaves alone

Folding turns U+0085 into a line feed or a blank, or drops it, and drops the blanks beside line and
paragraph separators.  All other texts are left as they are.

## Main definitions

* `Yaml.Apart` : characters that are not a blank and a separator.

## Main results

* `Yaml.folded_eq_self_iff` : the texts that folding leaves alone.
* `Yaml.isMarked_iff` : the texts of which a line starts with a document marker.
-/

namespace RealmLookup.Yaml

variable {gap : Gap} {text : List Char}

/-! ### Gaps -/

/-- The characters of white space that a gap keeps. -/
def Gap.chars : Gap → List Char
  | .blanks text => text
  | .breaks first more => first :: more
  | .escaped more => more

/-- A gap stands for a blank, or for characters that it keeps. -/
theorem Gap.mem_text {c : Char} (member : c ∈ gap.text) : c = ' ' ∨ c ∈ gap.chars := by
  unfold Gap.text at member
  split at member
  · exact .inr member
  · split_ifs at member
    · exact .inl (List.mem_singleton.1 member)
    · exact .inr (List.mem_cons_of_mem _ member)
    · exact .inr member
  · exact .inr member

theorem Gap.mem_chars_add {c d : Char} (member : d ∈ (gap.add c).chars) :
    d = c ∨ d ∈ gap.chars := by
  cases gap <;> cases breaks : isBreak c <;> simp [Gap.add, Gap.chars, breaks] at member ⊢ <;> grind

/-- A character more in a gap is at most one more in what the gap stands for. -/
theorem Gap.length_text_add (gap : Gap) (c : Char) :
    (gap.add c).text.length ≤ gap.text.length + 1 := by
  cases breaks : isBreak c with
  | false => cases gap <;> simp [Gap.add, Gap.text, breaks]
  | true =>
    cases gap with
    | blanks text =>
      have one : (Gap.breaks c []).text.length = 1 := by
        rw [Gap.text]
        split <;> rfl
      have step : (Gap.blanks text).add c = .breaks c [] := by simp [Gap.add, breaks]
      rw [step, one]
      exact Nat.le_add_left 1 _
    | breaks first more =>
      simp only [Gap.add, Gap.text, breaks]
      split_ifs <;> simp_all
    | escaped more => simp [Gap.add, Gap.text, breaks]

theorem unified_ne_nextLine (c : Char) : unified c ≠ nextLine := by
  unfold unified
  split
  · decide
  · assumption

/-- No U+0085 is left. -/
theorem nextLine_not_mem_folded (text : List Char) {gap : Gap} (without : nextLine ∉ gap.chars) :
    nextLine ∉ folded gap text := by
  have plain {gap : Gap} (without : nextLine ∉ gap.chars) : nextLine ∉ gap.text := fun member =>
    (Gap.mem_text member).elim (by decide) without
  induction text generalizing gap with
  | nil => exact plain without
  | cons c rest ih =>
    rw [folded]
    split
    · exact ih fun member => (Gap.mem_chars_add member).elim (unified_ne_nextLine c).symm without
    · rename_i solid
      have different : nextLine ≠ c := by
        rintro rfl
        exact solid rfl
      have later : nextLine ∉ folded .nothing rest := ih List.not_mem_nil
      simp [plain without, different, later]

/-- Folding does not make texts longer. -/
theorem length_folded (gap : Gap) (text : List Char) :
    (folded gap text).length ≤ gap.text.length + text.length := by
  induction text generalizing gap with
  | nil => exact Nat.le_refl _
  | cons c rest ih =>
    rw [folded]
    split
    · have more := gap.length_text_add (unified c)
      have step := ih (gap.add (unified c))
      rw [List.length_cons]
      omega
    · have step : (folded .nothing rest).length ≤ 0 + rest.length := ih .nothing
      rw [List.length_append, List.length_cons, List.length_cons]
      omega

/-! ### What is left alone -/

/-- Characters of which not one is a blank and the other one a separator. -/
def Apart (c d : Char) : Prop :=
  ¬ (c = ' ' ∧ isSeparator d = true) ∧ ¬ (isSeparator c = true ∧ d = ' ')

/-- A gap of blanks alone, or of separators alone. -/
inductive Gap.Pure : Gap → Prop
  | blanks {text : List Char} (every : ∀ c ∈ text, c = ' ') : Gap.Pure (.blanks text)
  | breaks {first : Char} {more : List Char} (every : ∀ c ∈ first :: more, isSeparator c = true) :
      Gap.Pure (.breaks first more)

theorem isBreak_of_isSeparator {c : Char} (separator : isSeparator c = true) :
    isBreak c = true := by
  rw [isSeparator] at separator
  rw [isBreak, Bool.or_assoc, separator, Bool.or_true]

theorem ne_of_isSeparator {c : Char} (separator : isSeparator c = true) :
    c ≠ ' ' ∧ c ≠ '\n' ∧ c ≠ nextLine := by
  refine ⟨?_, ?_, ?_⟩ <;>
    · rintro rfl
      cases separator

theorem spacing_cases {c : Char} (spacing : isSpacing c = true) (different : c ≠ nextLine) :
    c = ' ' ∨ isSeparator c = true := by
  simpa [isSpacing, isLineEnd, different] using spacing

namespace Gap.Pure

/-- A gap of separators stands for itself. -/
theorem text_breaks {first : Char} {more : List Char}
    (every : ∀ c ∈ first :: more, isSeparator c = true) :
    (Gap.breaks first more).text = first :: more :=
  if_neg (ne_of_isSeparator (every first List.mem_cons_self)).2.1

theorem isChain (pure : gap.Pure) : gap.text.IsChain Apart := by
  cases pure with
  | blanks every =>
    refine (List.pairwise_of_forall_mem_list fun c first d second => ?_).isChain
    rw [every c first, every d second]
    exact ⟨fun same => absurd same.2 (by decide), fun same => absurd same.1 (by decide)⟩
  | breaks every =>
    rw [text_breaks every]
    refine (List.pairwise_of_forall_mem_list fun c first d second => ?_).isChain
    exact ⟨fun same => (ne_of_isSeparator (every c first)).1 same.1,
      fun same => (ne_of_isSeparator (every d second)).1 same.2⟩

end Gap.Pure

/-- Folding leaves a text behind a gap alone exactly if no blank is beside a separator. -/
theorem folded_eq_append_iff (pure : gap.Pure) (without : nextLine ∉ text) :
    folded gap text = gap.text ++ text ↔ (gap.text ++ text).IsChain Apart := by
  induction text generalizing gap with
  | nil => simpa [folded] using pure.isChain
  | cons c rest ih =>
    have different : c ≠ nextLine := (List.ne_of_not_mem_cons without).symm
    have same : unified c = c := if_neg different
    have later : nextLine ∉ rest := List.not_mem_of_not_mem_cons without
    rw [folded, same]
    split
    · rename_i spacing
      -- A character that does not go on with the gap as it is makes the text shorter.
      have shorter (left : Gap) (less : left.text.length < gap.text.length + 1) :
          ¬ folded left rest = gap.text ++ c :: rest := fun equal => by
        have bound := length_folded left rest
        rw [equal, List.length_append, List.length_cons] at bound
        omega
      have unchained (filled : gap.text ≠ []) (beside : ∀ d ∈ gap.text, ¬ Apart d c) :
          ¬ (gap.text ++ c :: rest).IsChain Apart := fun chain => by
        obtain ⟨-, -, meet⟩ := List.isChain_append.1 chain
        have last := List.getLast?_eq_getLast_of_ne_nil filled
        exact beside _ (List.getLast_mem filled) (meet _ last _ rfl)
      rcases spacing_cases spacing different with rfl | separator
      · cases pure with
        | @blanks blanks every =>
          have add : (Gap.blanks blanks).add ' ' = .blanks (blanks ++ [' ']) := rfl
          have longer : ∀ d ∈ blanks ++ [' '], d = ' ' := by
            simpa [or_imp, forall_and] using every
          have step := ih (.blanks longer) later
          rw [add]
          simpa [Gap.text] using step
        | @breaks first more every =>
          refine iff_of_false (shorter _ (Nat.lt_succ_self _)) (unchained ?_ ?_)
          · rw [Gap.Pure.text_breaks every]
            exact List.cons_ne_nil _ _
          · rw [Gap.Pure.text_breaks every]
            exact fun d member apart => apart.2 ⟨every d member, rfl⟩
      · have breaks := isBreak_of_isSeparator separator
        cases pure with
        | @blanks blanks every =>
          have add : (Gap.blanks blanks).add c = .breaks c [] := by simp [Gap.add, breaks]
          have single : ∀ d ∈ [c], isSeparator d = true := List.forall_mem_singleton.2 separator
          have one : (Gap.breaks c []).text = [c] := Gap.Pure.text_breaks single
          rw [add]
          rcases List.eq_nil_or_concat blanks with rfl | ⟨front, last, rfl⟩
          · have step := ih (.breaks single) later
            rwa [one] at step
          · refine iff_of_false (shorter _ ?_) (unchained ?_ ?_)
            · rw [one]
              simp [Gap.text]
            · simp [Gap.text]
            · exact fun d member apart => apart.1 ⟨every d member, separator⟩
        | @breaks first more every =>
          have add : (Gap.breaks first more).add c = .breaks first (more ++ [c]) := by
            simp [Gap.add, breaks]
          have longer : ∀ d ∈ first :: (more ++ [c]), isSeparator d = true := by
            simpa [or_imp, forall_and, separator] using every
          have step := ih (.breaks longer) later
          rw [add, Gap.Pure.text_breaks every]
          rw [Gap.Pure.text_breaks longer] at step
          simpa using step
    · rename_i solid
      have alone : folded .nothing rest = rest ↔ rest.IsChain Apart :=
        @ih .nothing (.blanks (List.forall_mem_nil _)) later
      have notBlank : c ≠ ' ' := by
        rintro rfl
        exact solid rfl
      have notSeparator : isSeparator c = false := by
        simpa [isSpacing, isLineEnd, notBlank, different] using solid
      rw [List.append_cancel_left_eq, List.cons_inj_right, List.isChain_append, List.isChain_cons]
      simpa [Apart, notBlank, notSeparator, pure.isChain] using alone

/-- The texts that folding leaves alone: without U+0085, and without blanks beside separators. -/
theorem folded_eq_self_iff : folded .nothing text = text ↔
    nextLine ∉ text ∧ text.IsChain Apart := by
  constructor
  · intro same
    have without : nextLine ∉ text := same ▸ nextLine_not_mem_folded text List.not_mem_nil
    exact ⟨without, (folded_eq_append_iff (.blanks (List.forall_mem_nil _)) without).1 same⟩
  · rintro ⟨without, chain⟩
    exact (@folded_eq_append_iff .nothing text (.blanks (List.forall_mem_nil _)) without).2 chain

/-! ### Document markers -/

/-- A text has a line behind a line break that starts with a document marker: one of its characters
three times, and white space. -/
def HasMarker (text : List Char) : Prop :=
  ∃ before ending mark space after,
    text = before ++ ending :: mark :: mark :: mark :: space :: after ∧
      isLineEnd ending = true ∧ IsMark mark ∧ isSpacing space = true

theorem repeats_iff {space : Char → Bool} {mark : Char} : repeats space mark 3 text = true ↔
    ∃ c after, text = mark :: mark :: mark :: c :: after ∧ space c = true := by
  constructor
  · intro found
    match text with
    | [] | [_] | [_, _] | [_, _, _] => simp [repeats] at found
    | first :: second :: third :: c :: after =>
      simp only [repeats, Bool.and_eq_true, beq_iff_eq] at found
      obtain ⟨rfl, rfl, rfl, white⟩ := found
      exact ⟨c, after, rfl, white⟩
  · rintro ⟨c, after, rfl, white⟩
    simpa [repeats] using white

theorem startsMarker_iff : startsMarker text = true ↔
    ∃ mark space after, text = mark :: mark :: mark :: space :: after ∧ IsMark mark ∧
      isSpacing space = true := by
  rw [startsMarker, Bool.or_eq_true, repeats_iff, repeats_iff]
  constructor
  · rintro (⟨c, after, same, white⟩ | ⟨c, after, same, white⟩)
    · exact ⟨'-', c, after, same, .inl rfl, white⟩
    · exact ⟨'.', c, after, same, .inr rfl, white⟩
  · rintro ⟨mark, c, after, same, rfl | rfl, white⟩
    · exact .inl ⟨c, after, same, white⟩
    · exact .inr ⟨c, after, same, white⟩

/-- A line starts with a marker at the start of the text, if that is fresh, or behind a line
break. -/
theorem isMarked_iff {fresh : Bool} : isMarked fresh text = true ↔
    (fresh = true ∧ startsMarker text = true) ∨
      ∃ before ending after, text = before ++ ending :: after ∧ isLineEnd ending = true ∧
        startsMarker after = true := by
  induction text generalizing fresh with
  | nil => simp [isMarked, startsMarker, repeats]
  | cons c rest ih =>
    rw [isMarked, Bool.or_eq_true, Bool.and_eq_true, ih]
    refine or_congr_right ⟨?_, ?_⟩
    · rintro (⟨ends, marker⟩ | ⟨before, ending, after, rfl, ends, marker⟩)
      · exact ⟨[], c, rest, rfl, ends, marker⟩
      · exact ⟨c :: before, ending, after, rfl, ends, marker⟩
    · rintro ⟨before, ending, after, same, ends, marker⟩
      cases before with
      | nil =>
        obtain ⟨rfl, rfl⟩ := List.cons.inj same
        exact .inl ⟨ends, marker⟩
      | cons d before =>
        obtain ⟨rfl, rfl⟩ := List.cons.inj same
        exact .inr ⟨before, ending, after, rfl, ends, marker⟩

/-- The texts with a line that starts with a document marker. -/
theorem isMarked_eq_true_iff : isMarked false text = true ↔ HasMarker text := by
  simp only [isMarked_iff, startsMarker_iff]
  constructor
  · rintro (⟨impossible, -⟩ | found)
    · cases impossible
    · obtain ⟨before, ending, -, rfl, ends, mark, space, after, rfl, isMark, white⟩ := found
      exact ⟨before, ending, mark, space, after, rfl, ends, isMark, white⟩
  · rintro ⟨before, ending, mark, space, after, same, ends, isMark, white⟩
    exact .inr ⟨before, ending, _, same, ends, mark, space, after, rfl, isMark, white⟩

end RealmLookup.Yaml
