import RealmLookup.Proofs.Url.Percent
import RealmLookup.Url.Form

/-!
# Decoding forms

The pairs of an encoded form are the ones that were encoded, in their order, and further pairs
behind an ampersand change none of the earlier ones.  A plus sign in a name or value is encoded, so
the plus signs of a form are blanks.

## Main results

* `Url.Form.split_append_cons`, `Url.Form.split_of_not_mem` : splitting undoes joining.
* `Url.Form.decode_append` : the pairs of two forms that are joined.
* `Url.Form.decode_encode` : decoding gives the pairs that were encoded.
* `Url.Form.ascii_encode` : encoded forms are ASCII.
-/

namespace RealmLookup.Url.Form

open RealmLookup.Text

/-! ### Splitting -/

section Split

variable {separator : Char}

theorem split_cons_self (rest : List Char) :
    split separator (separator :: rest) = [] :: split separator rest := by
  rw [split, if_pos rfl]

theorem split_ne_nil (text : List Char) : split separator text ≠ [] := by
  cases text with
  | nil => simp [split]
  | cons c rest =>
    rw [split]
    split_ifs
    · simp
    · cases split separator rest <;> simp

theorem split_cons_of_ne {c : Char} (other : c ≠ separator) (rest : List Char) :
    split separator (c :: rest) = (split separator rest).modifyHead (c :: ·) := by
  rw [split, if_neg other]
  cases parts : split separator rest with
  | nil => exact absurd parts (split_ne_nil rest)
  | cons part parts => rfl

theorem split_eq_splitOnP (text : List Char) :
    split separator text = text.splitOnP (· == separator) := by
  induction text with
  | nil => rfl
  | cons c rest ih =>
    rw [List.splitOnP_cons_eq_if_modifyHead, ← ih]
    by_cases same : c = separator
    · rw [same, split_cons_self, if_pos (beq_self_eq_true separator)]
    · rw [split_cons_of_ne same, if_neg (by simpa using same)]

/-- Splitting undoes joining. -/
theorem split_append_cons (text rest : List Char) :
    split separator (text ++ separator :: rest) = split separator text ++ split separator rest := by
  simp only [split_eq_splitOnP]
  exact List.splitOnP_append_cons text rest (beq_self_eq_true separator)

theorem split_of_not_mem {text : List Char} (absent : separator ∉ text) :
    split separator text = [text] := by
  rw [split_eq_splitOnP]
  refine List.splitOnP_eq_singleton fun c member => beq_eq_false_iff_ne.2 ?_
  rintro rfl
  exact absent member

theorem not_mem_of_mem_split {text part : List Char} (member : part ∈ split separator text) :
    separator ∉ part := by
  induction text generalizing part with
  | nil =>
    rw [split, List.mem_singleton] at member
    simp [member]
  | cons c rest ih =>
    by_cases same : c = separator
    · rw [same, split_cons_self] at member
      rcases List.mem_cons.1 member with rfl | member
      · exact List.not_mem_nil
      · exact ih member
    · rw [split_cons_of_ne same] at member
      cases parts : split separator rest with
      | nil => simp [parts] at member
      | cons first parts =>
        rw [parts] at member ih
        rcases List.mem_cons.1 member with rfl | member
        · exact List.not_mem_cons_of_ne_of_not_mem (Ne.symm same) (ih List.mem_cons_self)
        · exact ih (List.mem_cons_of_mem first member)

/-- The last part of a text ends as the text does. -/
theorem getLast?_split_concat (front : List Char) {c : Char} (other : c ≠ separator) :
    ∃ part, (split separator (front ++ [c])).getLast? = some (part ++ [c]) := by
  induction front with
  | nil =>
    have absent : separator ∉ [c] := fun member => other (List.mem_singleton.1 member).symm
    exact ⟨[], congrArg List.getLast? (split_of_not_mem absent)⟩
  | cons d front ih =>
    obtain ⟨part, last⟩ := ih
    by_cases same : d = separator
    · refine ⟨part, ?_⟩
      rw [same, List.cons_append, split_cons_self, List.getLast?_cons, last]
      rfl
    · rw [List.cons_append, split_cons_of_ne same]
      cases parted : split separator (front ++ [c]) with
      | nil => exact absurd parted (split_ne_nil _)
      | cons first parts =>
        rw [parted, List.getLast?_cons, Option.some.injEq] at last
        rw [List.modifyHead_cons, List.getLast?_cons]
        cases tail : parts.getLast? with
        | none =>
          rw [tail, Option.getD_none] at last
          exact ⟨d :: part, by rw [last]; rfl⟩
        | some found =>
          rw [tail, Option.getD_some] at last
          exact ⟨part, congrArg some last⟩

end Split

/-! ### Names and values -/

/-- What is encoded, apart from the plus signs of blanks, does not occur in an encoded text. -/
theorem not_mem_encodeText {sign : Char} (hidden : Percent.hides reserved sign = true)
    (plus : sign ≠ '+') (text : List Char) : sign ∉ encodeText text := by
  intro member
  obtain ⟨c, -, member⟩ := List.mem_flatMap.1 member
  unfold encodeChar at member
  split_ifs at member
  · exact plus (List.mem_singleton.1 member)
  · have encoded : sign ∈ Percent.encode reserved [c] := by simpa [Percent.encode] using member
    exact Percent.not_mem_encode hidden [c] encoded

theorem map_plus_of_not_mem {text : List Char} (absent : '+' ∉ text) :
    text.map (fun c => if c = '+' then ' ' else c) = text := by
  have same : ∀ c ∈ text, (if c = '+' then ' ' else c) = c := by
    intro c member
    have other : c ≠ '+' := by
      rintro rfl
      exact absent member
    exact if_neg other
  rw [List.map_congr_left same, List.map_id']

theorem decodeBytes_encodeChar (c : Char) (rest : List Char) :
    Percent.decodeBytes ((encodeChar c).map (fun c => if c = '+' then ' ' else c) ++ rest) =
      Utf8.encodeChar c ++ Percent.decodeBytes rest := by
  unfold encodeChar
  split_ifs with blank
  · rw [blank]
    exact Percent.decodeBytes_cons (by decide) rest
  · have plain : '+' ∉ Percent.encodeChar reserved c := by
      have absent : '+' ∉ Percent.encode reserved [c] :=
        Percent.not_mem_encode (by decide) [c]
      simpa [Percent.encode] using absent
    rw [map_plus_of_not_mem plain, Percent.decodeBytes_encodeChar (by decide)]

/-- Decoding gives the name or value that was encoded. -/
theorem decodeText_encodeText (text : List Char) : decodeText (encodeText text) = text := by
  have bytes : Percent.decodeBytes ((encodeText text).map fun c => if c = '+' then ' ' else c) =
      Utf8.encode text := by
    unfold encodeText Utf8.encode
    induction text with
    | nil => rfl
    | cons c rest ih =>
      rw [List.flatMap_cons, List.map_append, decodeBytes_encodeChar, ih, List.flatMap_cons]
  rw [decodeText, Percent.decode, bytes, Utf8.decodeLossy_encode]

/-! ### Pairs -/

theorem not_mem_encodePair {sign : Char} (hidden : Percent.hides reserved sign = true)
    (other : sign ∉ ['+', '=']) (pair : String × String) : sign ∉ encodePair pair := by
  simp only [List.mem_cons, List.not_mem_nil, or_false, not_or] at other
  unfold encodePair
  simp only [List.mem_append, List.mem_cons, not_or]
  exact ⟨not_mem_encodeText hidden other.1 _, other.2, not_mem_encodeText hidden other.1 _⟩

/-- Decoding gives the pair that was encoded, as no encoded name holds an equals sign. -/
theorem decodePair_encodePair (pair : String × String) : decodePair (encodePair pair) = pair := by
  have name : ∀ c ∈ encodeText pair.1.toList, decide (c ≠ '=') = true := by
    intro c member
    have absent : '=' ∉ encodeText pair.1.toList :=
      not_mem_encodeText (by decide) (by decide) _
    exact decide_eq_true fun same => absent (same ▸ member)
  unfold decodePair encodePair
  rw [List.takeWhile_append_of_pos name, List.dropWhile_append_of_pos name,
    List.takeWhile_cons_of_neg (by decide), List.dropWhile_cons_of_neg (by decide), List.append_nil,
    List.drop_one, List.tail_cons, decodeText_encodeText, decodeText_encodeText,
    String.ofList_toList, String.ofList_toList]

/-! ### Forms -/

/-- The pairs of two forms that are joined. -/
theorem decode_append (text rest : List Char) :
    decode (text ++ '&' :: rest) = decode text ++ decode rest := by
  rw [decode, split_append_cons, List.filter_append, List.map_append, decode, decode]

theorem decode_encodePair (pair : String × String) : decode (encodePair pair) = [pair] := by
  have whole : split '&' (encodePair pair) = [encodePair pair] :=
    split_of_not_mem (not_mem_encodePair (by decide) (by decide) pair)
  have filled : (encodePair pair).isEmpty = false := by simp [encodePair]
  rw [decode, whole, List.filter_cons_of_pos (by rw [filled, Bool.not_false]), List.filter_nil,
    List.map_singleton, decodePair_encodePair]

theorem encode_cons_cons (first second : String × String) (rest : List (String × String)) :
    encode (first :: second :: rest) = encodePair first ++ '&' :: encode (second :: rest) := by
  rw [encode, List.map_cons, List.map_cons, List.intercalate_cons_cons, encode, List.map_cons]
  simp

/-- Decoding gives the pairs that were encoded. -/
theorem decode_encode (pairs : List (String × String)) : decode (encode pairs) = pairs := by
  induction pairs with
  | nil => rfl
  | cons first rest ih =>
    cases rest with
    | nil =>
      have single : encode [first] = encodePair first := by simp [encode]
      rw [single, decode_encodePair]
    | cons second rest => rw [encode_cons_cons, decode_append, decode_encodePair, ih]; rfl

/-! ### Forms are ASCII -/

theorem ascii_encodeText {c : Char} {text : List Char} (member : c ∈ encodeText text) :
    c.toNat < 0x80 := by
  obtain ⟨d, -, member⟩ := List.mem_flatMap.1 member
  unfold encodeChar at member
  split_ifs at member
  · rw [List.mem_singleton.1 member]
    decide
  · have encoded : c ∈ Percent.encode reserved [d] := by simpa [Percent.encode] using member
    exact Percent.ascii_encode encoded

theorem ascii_encodePair {c : Char} {pair : String × String} (member : c ∈ encodePair pair) :
    c.toNat < 0x80 := by
  rcases List.mem_append.1 member with member | member
  · exact ascii_encodeText member
  · rcases List.mem_cons.1 member with rfl | member
    · decide
    · exact ascii_encodeText member

/-- The text of a list of pairs is ASCII. -/
theorem ascii_encode {pairs : List (String × String)} : ∀ c ∈ encode pairs, c.toNat < 0x80 := by
  induction pairs with
  | nil => simp [encode]
  | cons first rest ih =>
    cases rest with
    | nil =>
      have single : encode [first] = encodePair first := by simp [encode]
      rw [single]
      exact fun c => ascii_encodePair
    | cons second rest =>
      rw [encode_cons_cons]
      exact List.forall_mem_append.2
        ⟨fun c => ascii_encodePair, List.forall_mem_cons.2 ⟨by decide, ih⟩⟩

end RealmLookup.Url.Form
