import RealmLookup.Proofs.Json.Rendering
import RealmLookup.Yaml.Scalar

/-!
# JSON strings in YAML documents

A JSON string is also a scalar in double quotes.  Characters that are escaped keep their meaning,
but white space that stands as it is may lose it: line breaks are folded, the blanks around them are
dropped, and a line that starts with a document marker ends the scalar.

## Main definitions

* `Yaml.advance` : the place behind a text.
* `Yaml.isLineEnd`, `Yaml.isSpacing` : white space that JSON strings do not escape.
* `Yaml.quotedText` : a JSON string as it stands in a document.
* `Yaml.isMarked` : whether a line of a text starts with a document marker.
* `Yaml.folded` : what is left of a text when its line breaks are folded.

## Main results

* `Yaml.atMarker_place` : where a scalar has a document marker.
* `Yaml.scanDoubleQuoted_quotedText` : what a JSON string is read as.
-/

namespace RealmLookup.Yaml

open RealmLookup.Json

/-! ### Places -/

/-- A character of a document in which all line breaks of ASCII are one character. -/
def unified (c : Char) : Char := if c = nextLine then '\n' else c

theorem unifyBreaks_eq_map {text : List Char} (single : '\r' ∉ text) :
    unifyBreaks text = text.map unified := by
  induction text with
  | nil => rfl
  | cons c rest ih =>
    have different : '\r' ≠ c := List.ne_of_not_mem_cons single
    have step : unifyBreaks (c :: rest) =
        (if c = '\r' ∨ c = nextLine then '\n' else c) :: unifyBreaks rest := by
      rw [unifyBreaks.eq_def]
      split
      · cases ‹_›
      · cases ‹_›
        exact absurd rfl different
      · cases ‹_›
        rfl
    rw [step, ih (List.not_mem_of_not_mem_cons single), List.map_cons, unified]
    simp [different.symm]

/-- The place behind a text that starts at a line and column. -/
def advance : Nat → Nat → List Char → Nat × Nat
  | line, column, [] => (line, column)
  | line, column, c :: rest =>
      if isBreak c then advance (line + 1) 0 rest else advance line (column + 1) rest

theorem place_cons {c : Char} (within : isBreak c = false) (line column : Nat) (rest : List Char) :
    place line column (c :: rest) = ⟨c, line, column⟩ :: place line (column + 1) rest := by
  rw [place, within]
  rfl

theorem length_place (line column : Nat) (text : List Char) :
    (place line column text).length = text.length := by
  induction text generalizing line column with
  | nil => rfl
  | cons c rest ih =>
    rw [place, List.length_cons, List.length_cons]
    split <;> rw [ih]

theorem advance_append (line column : Nat) (text more : List Char) :
    advance line column (text ++ more) =
      advance (advance line column text).1 (advance line column text).2 more := by
  induction text generalizing line column with
  | nil => rfl
  | cons c rest ih =>
    rw [List.cons_append, advance, advance]
    split <;> exact ih _ _

/-- A text without line breaks stays in its line. -/
theorem advance_of_unbroken {text : List Char} (unbroken : ∀ c ∈ text, isBreak c = false)
    (line column : Nat) : advance line column text = (line, column + text.length) := by
  induction text generalizing column with
  | nil => rfl
  | cons c rest ih =>
    obtain ⟨within, later⟩ := List.forall_mem_cons.1 unbroken
    rw [advance, within, if_neg Bool.false_ne_true, ih later, List.length_cons]
    congr 1
    omega

theorem le_advance (line column : Nat) (text : List Char) :
    line ≤ (advance line column text).1 := by
  induction text generalizing line column with
  | nil => exact Nat.le_refl line
  | cons c rest ih =>
    rw [advance]
    split
    · exact Nat.le_trans (Nat.le_succ line) (ih _ _)
    · exact ih _ _

/-- A text with a line break leaves its line. -/
theorem lt_advance {text : List Char} (broken : ∃ c ∈ text, isBreak c = true) (line column : Nat) :
    line < (advance line column text).1 := by
  induction text generalizing line column with
  | nil => simp at broken
  | cons c rest ih =>
    rw [advance]
    split
    · exact Nat.lt_of_lt_of_le (Nat.lt_succ_self line) (le_advance _ _ _)
    · rename_i within
      refine ih ?_ _ _
      simpa [within] using broken

/-! ### White space between quotes -/

/-- The separators of lines and of paragraphs. -/
def isSeparator (c : Char) : Bool := c == lineSeparator || c == paragraphSeparator

/-- The line breaks that JSON strings do not escape. -/
def isLineEnd (c : Char) : Bool := c == nextLine || isSeparator c

/-- The white space that JSON strings do not escape. -/
def isSpacing (c : Char) : Bool := c == ' ' || isLineEnd c

/-- The characters that JSON strings escape. -/
def Escaped (c : Char) : Prop := c = '"' ∨ c = '\\' ∨ c.toNat < 0x20

theorem isBreak_unified {c : Char} (printable : 0x20 ≤ c.toNat) :
    isBreak (unified c) = isLineEnd c := by
  have notNewline : (c == '\n') = false := beq_false_of_ne <| by
    rintro rfl
    exact absurd printable (by decide)
  unfold unified isLineEnd
  split
  · rename_i same
    subst same
    rfl
  · rename_i different
    rw [isBreak, notNewline, beq_false_of_ne different, Bool.false_or, Bool.false_or, isSeparator]

theorem isWhite_unified {c : Char} (printable : 0x20 ≤ c.toNat) :
    isWhite (unified c) = isSpacing c := by
  have notTab : (c == '\t') = false := beq_false_of_ne <| by
    rintro rfl
    exact absurd printable (by decide)
  rw [isWhite, isBreak_unified printable, isSpacing]
  congr 1
  unfold unified
  split
  · rename_i same
    subst same
    rfl
  · rw [isBlank, notTab, Bool.or_false]

theorem unified_of_not_lineEnd {c : Char} (within : isLineEnd c = false) : unified c = c := by
  refine if_neg ?_
  rintro rfl
  cases within

theorem not_isLineEnd_of_not_isSpacing {c : Char} (solid : isSpacing c = false) :
    isLineEnd c = false :=
  (Bool.or_eq_false_iff.1 solid).2

theorem not_isSpacing_of_escaped {c : Char} (escaped : Escaped c) : isSpacing c = false := by
  have high : isSpacing c = true → c = ' ' ∨ 0x80 ≤ c.toNat := by
    simp only [isSpacing, isLineEnd, isSeparator, Bool.or_eq_true, beq_iff_eq]
    rintro (rfl | rfl | rfl | rfl)
    · exact .inl rfl
    · exact .inr (by decide)
    · exact .inr (by decide)
    · exact .inr (by decide)
  refine Bool.eq_false_iff.2 fun spacing => ?_
  rcases escaped with rfl | rfl | low
  · cases spacing
  · cases spacing
  · rcases high spacing with rfl | _
    · exact absurd low (by decide)
    · omega

theorem renderChar_of_not_escaped {c : Char} (plain : ¬ Escaped c) : renderChar c = [c] := by
  simp only [Escaped, not_or, not_lt] at plain
  rw [renderChar, if_neg plain.1, if_neg plain.2.1, if_pos plain.2.2]

/-- What stands behind the backslash of an escaped character: it is in one line, and read as the
character. -/
structure Spells (c : Char) (code : List Char) : Prop where
  unified : code.map unified = code
  unbroken : ∀ d ∈ code, isBreak d = false
  scan : ∀ line column found more,
    scanDoubleQuoted .escape found (place line column (code ++ more)) =
      scanDoubleQuoted (.text .nothing) (c :: found)
        (place (advance line column code).1 (advance line column code).2 more)

theorem spells_mark {mark c : Char} (means : escape? mark = some (.char c))
    (same : unified mark = mark) (within : isBreak mark = false) : Spells c [mark] where
  unified := congrArg (fun mark => [mark]) same
  unbroken := List.forall_mem_singleton.2 within
  scan line column found more := by
    rw [List.singleton_append, place_cons within, scanDoubleQuoted, advance_of_unbroken (by simpa)]
    simp [within, means]

/-- The four digits of a control character. -/
theorem spells_digits {c : Char} (low : c.toNat < 0x20) :
    Spells c ['u', '0', '0', hexDigit (c.toNat / 16), hexDigit (c.toNat % 16)] := by
  have same : ∀ n < 16, unified (hexDigit n) = hexDigit n := by decide
  have within : ∀ n < 16, isBreak (hexDigit n) = false := by decide
  have high : c.toNat / 16 < 16 := by omega
  have rest : c.toNat % 16 < 16 := by omega
  have unbroken : ∀ d ∈ ['u', '0', '0', hexDigit (c.toNat / 16), hexDigit (c.toNat % 16)],
      isBreak d = false := by
    simp [within _ high, within _ rest]
    decide
  refine ⟨?_, unbroken, ?_⟩
  · simp [same _ high, same _ rest]
    decide
  · intro line column found more
    have zero : hexDigit? '0' = some 0 := rfl
    have code : c.toNat / 16 * 16 + c.toNat % 16 = c.toNat := by omega
    have valid : charOfCode? c.toNat = some c := by
      rw [charOfCode?, if_pos (show c.toNat.isValidChar from c.valid), Char.ofNat_toNat]
    rw [advance_of_unbroken unbroken]
    simp only [List.cons_append, List.nil_append]
    rw [place_cons rfl, place_cons rfl, place_cons rfl, place_cons (within _ high),
      place_cons (within _ rest)]
    have first := hexDigit?_of_hexDigit (hexDigit_of_lt high)
    have second := hexDigit?_of_hexDigit (hexDigit_of_lt rest)
    have opens : isBreak 'u' = false := rfl
    have unicode : escape? 'u' = some (.digits 4) := rfl
    simp [scanDoubleQuoted, opens, unicode, zero, first, second, code, valid]

/-- What is written for a character that is escaped. -/
theorem exists_renderChar_of_escaped {c : Char} (escaped : Escaped c) :
    ∃ code, renderChar c = '\\' :: code ∧ Spells c code := by
  have short {mark d : Char} (read : c = d) (means : escape? mark = some (.char d))
      (same : unified mark = mark) (within : isBreak mark = false) :
      ∃ code, ['\\', mark] = '\\' :: code ∧ Spells c code :=
    ⟨[mark], rfl, read ▸ spells_mark means same within⟩
  unfold renderChar
  split_ifs with quote backslash printable
  · exact short quote rfl rfl rfl
  · exact short backslash rfl rfl rfl
  · rcases escaped with same | same | low
    · exact absurd same quote
    · exact absurd same backslash
    · omega
  · exact short (eq_ofNat_of_toNat ‹_›) rfl rfl rfl
  · exact short (eq_ofNat_of_toNat ‹_›) rfl rfl rfl
  · exact short (eq_ofNat_of_toNat ‹_›) rfl rfl rfl
  · exact short (eq_ofNat_of_toNat ‹_›) rfl rfl rfl
  · exact short (eq_ofNat_of_toNat ‹_›) rfl rfl rfl
  · exact ⟨_, rfl, spells_digits (by omega)⟩

/-- The text of a JSON string as it stands in a document. -/
def quotedText (text : List Char) : List Char := (text.flatMap renderChar).map unified

theorem quotedText_of_escaped {c : Char} {code : List Char} (written : renderChar c = '\\' :: code)
    (same : code.map unified = code) (rest : List Char) :
    quotedText (c :: rest) = '\\' :: (code ++ quotedText rest) := by
  have backslash : unified '\\' = '\\' := rfl
  rw [quotedText, List.flatMap_cons, List.map_append, written, List.map_cons, same, backslash]
  rfl

theorem quotedText_of_not_escaped {c : Char} (plain : ¬ Escaped c) (rest : List Char) :
    quotedText (c :: rest) = unified c :: quotedText rest := by
  rw [quotedText, List.flatMap_cons, renderChar_of_not_escaped plain]
  rfl

/-- The line breaks of a JSON string are those that are not escaped. -/
theorem exists_isBreak_quotedText (text : List Char) :
    (∃ c ∈ quotedText text, isBreak c = true) ↔ ∃ c ∈ text, isLineEnd c = true := by
  induction text with
  | nil => simp [quotedText]
  | cons c rest ih =>
    by_cases escaped : Escaped c
    · obtain ⟨code, written, spells⟩ := exists_renderChar_of_escaped escaped
      have within := not_isLineEnd_of_not_isSpacing (not_isSpacing_of_escaped escaped)
      have backslash : isBreak '\\' = false := rfl
      have unbroken : ¬ ∃ d ∈ code, isBreak d = true := by simpa using spells.unbroken
      rw [quotedText_of_escaped written spells.unified]
      simp [backslash, within, or_and_right, exists_or, unbroken, ih]
    · have printable : 0x20 ≤ c.toNat := not_lt.1 fun low => escaped (.inr (.inr low))
      rw [quotedText_of_not_escaped escaped]
      simp [isBreak_unified printable, ih]

/-! ### Document markers -/

/-- Whether a text starts with a character so many times, and white space behind it. -/
def repeats (space : Char → Bool) (mark : Char) : Nat → List Char → Bool
  | 0, c :: _ => space c
  | count + 1, c :: rest => c == mark && repeats space mark count rest
  | _, [] => false

/-- Whether a text starts with a document marker. -/
def startsMarker (text : List Char) : Bool :=
  repeats isSpacing '-' 3 text || repeats isSpacing '.' 3 text

/-- Whether a line of a text starts with a document marker; `fresh` says if the text starts a
line. -/
def isMarked (fresh : Bool) : List Char → Bool
  | [] => false
  | c :: rest => (fresh && startsMarker (c :: rest)) || isMarked (isLineEnd c) rest

/-- The characters that document markers consist of. -/
def IsMark (c : Char) : Prop := c = '-' ∨ c = '.'

theorem IsMark.solid {mark : Char} (isMark : IsMark mark) :
    ¬ Escaped mark ∧ isSpacing mark = false := by
  unfold Escaped
  rcases isMark with rfl | rfl <;> decide

/-- A character that is not escaped is a mark where it is one in the document. -/
theorem IsMark.beq_unified {mark : Char} (isMark : IsMark mark) (c : Char) :
    (unified c == mark) = (c == mark) := by
  unfold unified
  split
  · rename_i same
    subst same
    rcases isMark with rfl | rfl <;> decide
  · rfl

/-- A text in quotes repeats the marks that the text itself repeats. -/
theorem repeats_quotedText {mark : Char} (isMark : IsMark mark) (count : Nat)
    (text more : List Char) :
    repeats isWhite mark count (quotedText text ++ '"' :: more) =
      repeats isSpacing mark count text := by
  have notBackslash : ('\\' == mark) = false := by rcases isMark with rfl | rfl <;> rfl
  have notQuote : ('"' == mark) = false := by rcases isMark with rfl | rfl <;> rfl
  induction count generalizing text with
  | zero =>
    cases text with
    | nil => rfl
    | cons c rest =>
      by_cases escaped : Escaped c
      · obtain ⟨code, written, spells⟩ := exists_renderChar_of_escaped escaped
        rw [quotedText_of_escaped written spells.unified, List.cons_append, repeats, repeats,
          not_isSpacing_of_escaped escaped]
        rfl
      · rw [quotedText_of_not_escaped escaped, List.cons_append, repeats, repeats,
          isWhite_unified (not_lt.1 fun low => escaped (.inr (.inr low)))]
  | succ count ih =>
    cases text with
    | nil =>
      rw [quotedText, List.flatMap_nil, List.map_nil, List.nil_append, repeats, notQuote]
      rfl
    | cons c rest =>
      by_cases escaped : Escaped c
      · obtain ⟨code, written, spells⟩ := exists_renderChar_of_escaped escaped
        have different : (c == mark) = false := beq_false_of_ne fun same =>
          isMark.solid.1 (same ▸ escaped)
        rw [quotedText_of_escaped written spells.unified, List.cons_append, repeats, repeats,
          notBackslash, different, Bool.false_and, Bool.false_and]
      · rw [quotedText_of_not_escaped escaped, List.cons_append, repeats, repeats, ih,
          isMark.beq_unified]

/-- A line starts with a document marker if its characters do; none ends the text, since there is a
quote behind it. -/
theorem isMarkerOf_eq {mark : Char} (isMark : IsMark mark) (first : Glyph) (rest : List Glyph)
    (closed : '"' ∈ chars (first :: rest)) :
    isMarkerOf mark (first :: rest) =
      (first.column == 0 && repeats isWhite mark 3 (chars (first :: rest))) := by
  have notQuote : mark ≠ '"' := by rcases isMark with rfl | rfl <;> decide
  match rest with
  | [] => simp [isMarkerOf, chars, repeats]
  | [second] => simp [isMarkerOf, chars, repeats]
  | [second, third] =>
    simp only [chars, List.map_cons, List.map_nil, List.mem_cons, List.not_mem_nil,
      or_false] at closed
    have unlike : ¬ (first.char = mark ∧ second.char = mark ∧ third.char = mark) := by
      rintro ⟨one, two, three⟩
      rw [one, two, three] at closed
      simp [notQuote.symm] at closed
    simpa [isMarkerOf, chars, repeats, atWhite] using fun _ => unlike
  | second :: third :: fourth :: rest =>
    simp [isMarkerOf, chars, repeats, atWhite, Bool.and_assoc]

theorem chars_place (line column : Nat) (text : List Char) :
    chars (place line column text) = text := by
  induction text generalizing line column with
  | nil => rfl
  | cons c rest ih =>
    rw [place, chars, List.map_cons, ← chars]
    split <;> rw [ih]

/-- A text starts with a document marker where it would in a document. -/
theorem isMarkerOf_place {mark : Char} (isMark : IsMark mark) (line column : Nat)
    {text : List Char} (closed : '"' ∈ text) :
    isMarkerOf mark (place line column text) = (column == 0 && repeats isWhite mark 3 text) := by
  have same := chars_place line column text
  cases text with
  | nil => cases closed
  | cons c rest =>
    rw [place] at same ⊢
    rw [isMarkerOf_eq isMark _ _ (same ▸ closed), same]

/-- A scalar that starts at a place starts with a document marker if its text does and the place is
the start of a line. -/
theorem atMarker_place (line column : Nat) (text more : List Char) :
    atMarker (place line column (quotedText text ++ '"' :: more)) =
      (column == 0 && startsMarker text) := by
  have closed : '"' ∈ quotedText text ++ '"' :: more :=
    List.mem_append_right _ List.mem_cons_self
  rw [atMarker, isMarkerOf_place (.inl rfl) line column closed,
    isMarkerOf_place (.inr rfl) line column closed, repeats_quotedText (.inl rfl),
    repeats_quotedText (.inr rfl), startsMarker, Bool.and_or_distrib_left]

/-! ### Reading -/

/-- What is left of a text behind a gap when its line breaks are folded. -/
def folded : Gap → List Char → List Char
  | gap, [] => gap.text
  | gap, c :: rest =>
      if isSpacing c then folded (gap.add (unified c)) rest
      else gap.text ++ c :: folded .nothing rest

theorem isNothing_add (gap : Gap) (c : Char) : (gap.add c).isNothing = false := by
  refine beq_false_of_ne fun same => ?_
  cases gap <;> cases breaks : isBreak c <;> simp [Gap.add, Gap.nothing, breaks] at same

theorem startsMarker_of_not_mark {c : Char} (plain : ¬ IsMark c) (rest : List Char) :
    startsMarker (c :: rest) = false := by
  obtain ⟨notDash, notDot⟩ := not_or.1 plain
  rw [startsMarker, repeats, repeats, beq_false_of_ne notDash, beq_false_of_ne notDot]
  rfl

/-- What a JSON string is read as, from behind a gap. -/
theorem scanDoubleQuoted_quotedText (gap : Gap) (found : List Char) (line column : Nat)
    (text more : List Char) :
    scanDoubleQuoted (.text gap) found (place line column (quotedText text ++ '"' :: more)) =
      if isMarked (!gap.isNothing && column == 0) text then none
      else
        some (found.reverse ++ folded gap text,
          place (advance line column (quotedText text ++ ['"'])).1
            (advance line column (quotedText text ++ ['"'])).2 more) := by
  induction text generalizing gap found line column with
  | nil =>
    have marker := atMarker_place line column [] more
    have quote : place line column (quotedText [] ++ '"' :: more) =
        ⟨'"', line, column⟩ :: place line (column + 1) more := place_cons rfl line column more
    have within : isWhite '"' = false := rfl
    have unmarked : startsMarker [] = false := rfl
    have behind : advance line column (quotedText [] ++ ['"']) = (line, column + 1) := rfl
    rw [quote, unmarked, Bool.and_false] at marker
    rw [quote, scanDoubleQuoted, marker, within, isMarked, behind, folded]
    simp
  | cons c rest ih =>
    have marker := atMarker_place line column (c :: rest) more
    by_cases escaped : Escaped c
    · obtain ⟨code, written, spells⟩ := exists_renderChar_of_escaped escaped
      have solid := not_isSpacing_of_escaped escaped
      have within : isWhite '\\' = false := rfl
      have unmarked : startsMarker (c :: rest) = false :=
        startsMarker_of_not_mark (fun isMark => isMark.solid.1 escaped) rest
      have behind : advance line column ('\\' :: (code ++ (quotedText rest ++ ['"']))) =
          advance (advance line (column + 1) code).1 (advance line (column + 1) code).2
            (quotedText rest ++ ['"']) := advance_append line (column + 1) code _
      rw [unmarked, Bool.and_false] at marker
      rw [isMarked, unmarked, folded, solid, not_isLineEnd_of_not_isSpacing solid]
      rw [quotedText_of_escaped written spells.unified, List.cons_append,
        place_cons rfl] at marker ⊢
      rw [scanDoubleQuoted, marker, within]
      simp only [List.append_assoc, List.cons_append]
      rw [spells.scan, ih, behind]
      simp [Gap.isNothing]
    · have printable : 0x20 ≤ c.toNat := not_lt.1 fun low => escaped (.inr (.inr low))
      have white := isWhite_unified printable
      have breaks := isBreak_unified printable
      rw [quotedText_of_not_escaped escaped, List.cons_append] at marker ⊢
      cases spacing : isSpacing c with
      | true =>
        rw [spacing] at white
        have unmarked : startsMarker (c :: rest) = false :=
          startsMarker_of_not_mark (fun isMark => by simp [isMark.solid.2] at spacing) rest
        rw [place, scanDoubleQuoted, isMarked, unmarked, folded, spacing, List.cons_append, advance,
          breaks]
        simp only [white, if_true]
        cases ends : isLineEnd c with
        | true => simp [ih, isNothing_add]
        | false => simp [ih]
      | false =>
        have within := not_isLineEnd_of_not_isSpacing spacing
        have same := unified_of_not_lineEnd within
        rw [same, spacing] at white
        rw [same, within] at breaks
        simp only [Escaped, not_or] at escaped
        rw [same, place_cons breaks] at marker ⊢
        rw [scanDoubleQuoted, marker, isMarked, folded, spacing, within, List.cons_append, advance,
          breaks]
        simp only [white, Bool.and_assoc]
        cases !gap.isNothing && (column == 0 && startsMarker (c :: rest)) with
        | true => simp
        | false => simp [escaped, ih, Gap.isNothing]

end RealmLookup.Yaml
