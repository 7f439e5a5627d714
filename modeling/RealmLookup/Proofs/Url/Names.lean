import RealmLookup.Proofs.Url.Parser

/-!
# Reading names behind a path

A name of ASCII letters, digits, hyphens and underscores is read as it is written, and names behind
a path become its last segments.  The path in front of them stays, without the slash that it may end
with once the points at its end are resolved.

## Main definitions

* `Url.IsName` : segments that are read and written as they are.
* `Url.withoutSlash` : a path without a slash at its end.

## Main results

* `Url.readSegments_append`, `Url.readSegments_names` : reading one path behind another one.
* `Url.pathAfterAuthority_append` : names behind a path become its last segments.
-/

namespace RealmLookup.Url

open RealmLookup.Text

/-! ### Names -/

/-- The signs of names: ASCII letters and digits, hyphens and underscores. -/
def isNameSign (c : Char) : Bool :=
  c.isAlphanum || c == '-' || c == '_'

/-- A segment that is made of such signs. -/
def IsName (segment : List Char) : Prop :=
  segment ≠ [] ∧ ∀ c ∈ segment, isNameSign c = true

instance (segment : List Char) : Decidable (IsName segment) :=
  decidable_of_iff (segment ≠ [] ∧ segment.all isNameSign = true)
    (and_congr_right fun _ => List.all_eq_true)

theorem ne_of_isNameSign {c sign : Char} (named : isNameSign c = true)
    (other : isNameSign sign = false) : c ≠ sign := by
  rintro rfl
  cases named.symm.trans other

theorem toNat_of_isNameSign {c : Char} (named : isNameSign c = true) :
    0x20 < c.toNat ∧ c.toNat < 0x7F := by
  have signs : isNameSign c = ((((decide (65 ≤ c.toNat ∧ c.toNat ≤ 90) ||
      (decide (97 ≤ c.toNat) && decide (c.toNat ≤ 122))) ||
        (decide (48 ≤ c.toNat) && decide (c.toNat ≤ 57))) || c == '-') || c == '_') := rfl
  rw [signs] at named
  simp only [Bool.or_eq_true, Bool.and_eq_true, decide_eq_true_eq, beq_iff_eq] at named
  rcases named with (((upper | lower) | digit) | rfl) | rfl
  · omega
  · omega
  · omega
  · decide
  · decide

/-- The signs of names are not encoded in paths. -/
theorem path_of_isNameSign {c : Char} (named : isNameSign c = true) :
    Percent.path c = false := by
  obtain ⟨low, high⟩ := toNat_of_isNameSign named
  have every : [' ', '"', '<', '>', Char.ofNat 0x60, '#', '?', '{', '}'].all
      (!isNameSign ·) = true := by decide
  have other : ∀ sign ∈ [' ', '"', '<', '>', Char.ofNat 0x60, '#', '?', '{', '}'], c ≠ sign :=
    fun sign listed => ne_of_isNameSign named (by simpa using List.all_eq_true.1 every sign listed)
  simp only [List.forall_mem_cons, List.not_mem_nil, false_imp_iff, implies_true] at other
  simp [Percent.path, Percent.fragment, Percent.controls, other]
  omega

theorem encode_path_of_isName {segment : List Char} (named : IsName segment) :
    Percent.encode Percent.path segment = segment := by
  have kept {c : Char} (sign : isNameSign c = true) : Percent.encodeChar Percent.path c = [c] := by
    have bound : c.toNat < 0x80 := by
      have below := (toNat_of_isNameSign sign).2
      omega
    rw [Percent.encodeChar, path_of_isNameSign sign, if_pos (by simp [bound])]
  obtain ⟨-, signs⟩ := named
  unfold Percent.encode
  induction segment with
  | nil => rfl
  | cons c rest ih =>
    rw [List.flatMap_cons, kept (signs c List.mem_cons_self),
      ih fun other member => signs other (List.mem_cons_of_mem c member)]
    rfl

theorem map_encode_of_isName {names : List (List Char)} (named : ∀ name ∈ names, IsName name) :
    names.map (Percent.encode Percent.path) = names :=
  (List.map_congr_left fun name listed => encode_path_of_isName (named name listed)).trans
    (List.map_id' names)

/-- No name stands for a level. -/
theorem not_points_of_isName {segment : List Char} (named : IsName segment) :
    isHere segment = false ∧ isAbove segment = false := by
  have plain {spellings : List String}
      (every : ∀ spelling ∈ spellings, spelling.toList.all isNameSign = false) :
      spellings.contains (String.ofList segment) = false := by
    refine Bool.eq_false_iff.2 fun spelled => ?_
    have signs := every _ (List.contains_iff_mem.1 spelled)
    rw [String.toList_ofList, List.all_eq_true.2 named.2] at signs
    cases signs
  exact ⟨plain (by decide), plain (by decide)⟩

section Written

variable {first : List Char} {rest : List (List Char)}

/-- What is written for names after their first slash. -/
theorem renderSegments_cons :
    renderSegments (first :: rest) = '/' :: (first ++ renderSegments rest) :=
  rfl

theorem renderSegments_eq_cons {segments : List (List Char)} (given : segments ≠ []) :
    ∃ more, renderSegments segments = '/' :: more := by
  obtain ⟨first, rest, rfl⟩ := List.exists_cons_of_ne_nil given
  exact ⟨_, renderSegments_cons⟩

theorem mem_renderSegments {segments : List (List Char)} {c : Char}
    (named : ∀ segment ∈ segments, IsName segment) (member : c ∈ renderSegments segments) :
    c = '/' ∨ isNameSign c = true := by
  obtain ⟨segment, listed, member⟩ := List.mem_flatMap.1 member
  rcases List.mem_cons.1 member with slash | member
  · exact .inl slash
  · exact .inr ((named segment listed).2 c member)

theorem splitSlashes_append (special : Bool) (text more : List Char) :
    splitSlashes special (text ++ '/' :: more) =
      splitSlashes special text ++ splitSlashes special more := by
  have slash : (if isSlash special '/' then '/' else '/') = '/' := ite_self _
  rw [splitSlashes, List.map_append, List.map_cons, slash, Form.split_append_cons, splitSlashes,
    splitSlashes]

/-- Names are what their written path is split into. -/
theorem splitSlashes_names (special : Bool) (named : ∀ segment ∈ first :: rest, IsName segment) :
    splitSlashes special (first ++ renderSegments rest) = first :: rest := by
  have plain : ∀ segment ∈ first :: rest, '/' ∉ segment := fun segment listed member =>
    ne_of_isNameSign ((named segment listed).2 _ member) (by decide) rfl
  have same : ∀ c ∈ first ++ renderSegments rest, (if isSlash special c then '/' else c) = c := by
    intro c member
    have signs : c = '/' ∨ isNameSign c = true :=
      mem_renderSegments named (List.mem_cons_of_mem '/' member)
    rcases signs with rfl | sign
    · exact ite_self _
    · have other : isSlash special c = false := by
        simp [isSlash, ne_of_isNameSign sign (show isNameSign '/' = false by decide),
          ne_of_isNameSign sign (show isNameSign '\\' = false by decide)]
      rw [other]
      rfl
  rw [splitSlashes, List.map_congr_left same, List.map_id']
  exact split_append_renderSegments (plain first List.mem_cons_self) fun other listed =>
    plain other (List.mem_cons_of_mem first listed)

end Written

/-! ### Reading one path behind another one -/

section Segments

variable {segments : List (List Char)}

theorem getLast?_reopen (text : List Char) (segments : List (List Char)) :
    (reopen text segments).getLast? = some [] := by
  unfold reopen
  split_ifs with passed
  · rw [Bool.and_eq_true] at passed
    exact beq_iff_eq.1 passed.2
  · exact List.getLast?_concat

theorem getLast?_emptyLast (some : emptyLast false segments ≠ []) :
    (emptyLast false segments).getLast? = .some [] := by
  unfold emptyLast at some ⊢
  split
  · rename_i none
    rw [none] at some
    exact absurd (List.getLast?_eq_none_iff.1 none) some
  · rw [Bool.false_and, if_neg Bool.false_ne_true]
    exact List.getLast?_concat

/-- Going up leaves the last segment open. -/
theorem getLast?_goUp (some : segments ≠ []) : (goUp false segments).getLast? = .some [] :=
  getLast?_emptyLast (goUp_ne_nil some)

/-- A path that is read on goes on from where its last segment is left. -/
theorem readSegments_append (front : List (List Char)) (last : List Char)
    {more : List (List Char)} (goes : more ≠ []) :
    readSegments false segments (front ++ last :: more) =
      readSegments false (reopen last (readSegments false segments (front ++ [last]))) more := by
  induction front generalizing segments with
  | nil =>
    obtain ⟨next, rest, rfl⟩ := List.exists_cons_of_ne_nil goes
    rfl
  | cons text front ih =>
    cases front with
    | nil => exact ih
    | cons next front => exact ih

/-- Before its last segment is read, a path is open. -/
theorem readSegments_concat (opened : segments.getLast? = some []) (front : List (List Char))
    (last : List Char) :
    ∃ before, before.getLast? = some [] ∧
      readSegments false segments (front ++ [last]) = fillLast false before last := by
  induction front generalizing segments with
  | nil => exact ⟨segments, opened, readLast_eq segments last⟩
  | cons text front ih =>
    have same : readSegments false segments (text :: front ++ [last]) =
        readSegments false (reopen text (readLast false segments text)) (front ++ [last]) := by
      cases front <;> rfl
    rw [same]
    exact ih (getLast?_reopen text _)

/-- Names are read as the segments behind an open one. -/
theorem readSegments_names {names : List (List Char)} (some : names ≠ [])
    (named : ∀ name ∈ names, IsName name) :
    readSegments false segments names = segments.dropLast ++ names := by
  have filled {segments : List (List Char)} {name : List Char} (plain : IsName name) :
      readLast false segments name = segments.dropLast ++ [name] := by
    obtain ⟨here, above⟩ := not_points_of_isName plain
    rw [readLast_eq, fillLast, here, above]
    rfl
  induction names generalizing segments with
  | nil => exact absurd rfl some
  | cons name rest ih =>
    have plain := named name List.mem_cons_self
    cases rest with
    | nil => exact filled plain
    | cons next more =>
      obtain ⟨here, above⟩ := not_points_of_isName plain
      have opened : reopen name (segments.dropLast ++ [name]) =
          segments.dropLast ++ [name] ++ [[]] := by
        rw [reopen, here, above]
        rfl
      have stepped : readSegments false segments (name :: next :: more) =
          readSegments false (segments.dropLast ++ [name] ++ [[]]) (next :: more) := by
        rw [← opened, ← filled plain]
        rfl
      rw [stepped, ih (List.cons_ne_nil _ _) fun later listed =>
        named later (List.mem_cons_of_mem name listed), List.dropLast_concat, List.append_assoc]
      rfl

end Segments

/-! ### Paths with names behind them -/

/-- A path without a slash at its end. -/
def withoutSlash (path : List Char) : List Char :=
  if path.getLast? = some '/' then path.dropLast else path

theorem withoutSlash_append_slash (path : List Char) : withoutSlash (path ++ ['/']) = path := by
  rw [withoutSlash, if_pos List.getLast?_concat, List.dropLast_concat]

/-- Only a path that ends with two slashes keeps one. -/
theorem withoutSlash_eq_trimEnd {path : List Char} (single : ∀ front, path ≠ front ++ ['/', '/']) :
    withoutSlash path = trimEnd (· == '/') path := by
  have kept (front : List Char) {c : Char} (other : c ≠ '/') :
      trimEnd (· == '/') (front ++ [c]) = front ++ [c] := by
    simp [trimEnd, other]
  obtain rfl | ⟨front, c, rfl⟩ := List.eq_nil_or_concat path
  · rfl
  rw [List.concat_eq_append] at single ⊢
  by_cases slash : c = '/'
  · subst slash
    have dropped : trimEnd (· == '/') (front ++ ['/']) = trimEnd (· == '/') front := by
      simp [trimEnd]
    rw [withoutSlash_append_slash, dropped]
    obtain rfl | ⟨before, d, rfl⟩ := List.eq_nil_or_concat front
    · rfl
    · rw [List.concat_eq_append] at single ⊢
      refine (kept before ?_).symm
      rintro rfl
      exact single before (by simp)
  · rw [kept front slash]
    exact if_neg fun ends => slash (Option.some.inj (List.getLast?_concat.symm.trans ends))

theorem renderSegments_concat (front : List (List Char)) (last : List Char) :
    renderSegments (front ++ [last]) = renderSegments front ++ ['/'] ++ last := by
  rw [renderSegments_append]
  simp [renderSegments]

/-- A written path whose last segment is not empty ends without a slash. -/
theorem withoutSlash_renderSegments (front : List (List Char)) {last : List Char}
    (filled : last ≠ []) (plain : '/' ∉ last) :
    withoutSlash (renderSegments (front ++ [last])) = renderSegments (front ++ [last]) := by
  refine if_neg fun ends => ?_
  rw [renderSegments_concat, List.getLast?_append, List.getLast?_eq_some_getLast filled] at ends
  exact plain (Option.some.inj ends ▸ List.getLast_mem filled)

/-- The last piece of a text that does not end with a slash is not empty. -/
theorem getLast?_splitSlashes (front : List Char) {c : Char} (other : isSlash true c = false) :
    ∃ before last, (splitSlashes true (front ++ [c])).map (Percent.encode Percent.path) =
      before ++ [last] ∧ last ≠ [] ∧ '/' ∉ last := by
  have kept : (if isSlash true c then '/' else c) = c := by rw [other]; rfl
  have plain : c ≠ '/' := by
    rintro rfl
    cases other
  obtain ⟨part, ends⟩ := Form.getLast?_split_concat
    (front.map fun c => if isSlash true c then '/' else c) plain
  obtain ⟨before, parted⟩ := List.getLast?_eq_some_iff.1 ends
  have pieces : (splitSlashes true (front ++ [c])).map (Percent.encode Percent.path) =
      before.map (Percent.encode Percent.path) ++ [Percent.encode Percent.path (part ++ [c])] := by
    rw [splitSlashes, List.map_append, List.map_singleton, kept, parted, List.map_append,
      List.map_singleton]
  have listed : Percent.encode Percent.path (part ++ [c]) ∈
      (splitSlashes true (front ++ [c])).map (Percent.encode Percent.path) := by
    rw [pieces]
    exact List.mem_append_right _ List.mem_cons_self
  have filled : part ++ [c] ≠ [] := List.append_ne_nil_of_right_ne_nil _ (List.cons_ne_nil _ _)
  exact ⟨_, _, pieces, Percent.encode_ne_nil _ filled, (not_mem_of_mem_splitSlashes listed).1⟩

/-- Reading on behind a last segment keeps the path, without the slash that it may end with once
points are resolved. -/
theorem withoutSlash_fillLast {before : List (List Char)} {last : List Char}
    (opened : before.getLast? = some []) (filled : last ≠ []) (plain : '/' ∉ last) :
    withoutSlash (renderSegments (fillLast false before last)) =
      renderSegments (reopen last (fillLast false before last)).dropLast := by
  have passed {path : List (List Char)} (points : (isHere last || isAbove last) = true)
      (ends : path.getLast? = some []) :
      withoutSlash (renderSegments path) = renderSegments (reopen last path).dropLast := by
    obtain ⟨front, rfl⟩ := List.getLast?_eq_some_iff.1 ends
    have kept : reopen last (front ++ [[]]) = front ++ [[]] := by
      rw [reopen, points, ends]
      rfl
    rw [kept, List.dropLast_concat, renderSegments_append]
    exact withoutSlash_append_slash _
  by_cases above : isAbove last = true
  · have moved : fillLast false before last = goUp false before := if_pos above
    rw [moved]
    refine passed (by rw [above, Bool.or_true]) (getLast?_goUp ?_)
    rintro rfl
    cases opened
  · by_cases here : isHere last = true
    · have stayed : fillLast false before last = before := by
        rw [fillLast, if_neg above, if_pos here]
      rw [stayed]
      exact passed (by rw [here, Bool.true_or]) opened
    · have grown : fillLast false before last = before.dropLast ++ [last] := by
        rw [fillLast, if_neg above, if_neg here]
      have behind : reopen last (before.dropLast ++ [last]) =
          before.dropLast ++ [last] ++ [[]] := by
        rw [reopen, Bool.eq_false_iff.2 above, Bool.eq_false_iff.2 here]
        rfl
      rw [grown, behind, List.dropLast_concat]
      exact withoutSlash_renderSegments _ filled plain

section Names

variable {names : List (List Char)} (given : names ≠ []) (named : ∀ name ∈ names, IsName name)
include given named

/-- Names behind a path become its last segments. -/
theorem readPath_append (front : List Char) {c : Char} (other : isSlash true c = false) :
    ∃ root, readPath true false (front ++ [c] ++ renderSegments names) = root ++ names ∧
      withoutSlash (renderSegments (readPath true false (front ++ [c]))) = renderSegments root := by
  obtain ⟨before, last, pieces, filled, plain⟩ := getLast?_splitSlashes front other
  have empty : ([[]] : List (List Char)).getLast? = some [] := rfl
  obtain ⟨state, opened, read⟩ := readSegments_concat empty before last
  have alone : readPath true false (front ++ [c]) = fillLast false state last := by
    rw [readPath, pieces, if_neg Bool.false_ne_true, read]
  have joined : readPath true false (front ++ [c] ++ renderSegments names) =
      (reopen last (fillLast false state last)).dropLast ++ names := by
    obtain ⟨first, rest, rfl⟩ := List.exists_cons_of_ne_nil given
    rw [renderSegments_cons, readPath, splitSlashes_append, splitSlashes_names true named,
      List.map_append, pieces, map_encode_of_isName named, if_neg Bool.false_ne_true,
      List.append_assoc, List.singleton_append, readSegments_append before last given, read,
      readSegments_names given named]
  refine ⟨_, joined, ?_⟩
  rw [alone]
  exact withoutSlash_fillLast opened filled plain

/-- Names behind an authority and a path that does not end with a slash become the last segments of
the path. -/
theorem pathAfterAuthority_append {text : List Char}
    (ends : ∀ c ∈ text.getLast?, isSlash true c = false) :
    ∃ root, pathAfterAuthority true (text ++ renderSegments names) = root ++ names ∧
      withoutSlash (renderSegments (pathAfterAuthority true text)) = renderSegments root := by
  obtain rfl | ⟨front, last, rfl⟩ := List.eq_nil_or_concat text
  · obtain ⟨first, rest, rfl⟩ := List.exists_cons_of_ne_nil given
    refine ⟨[], ?_, rfl⟩
    show readPath true false (first ++ renderSegments rest) = _
    rw [readPath, splitSlashes_names true named, map_encode_of_isName named,
      if_neg Bool.false_ne_true, readSegments_names given named]
    rfl
  · rw [List.concat_eq_append] at ends ⊢
    have other : isSlash true last = false := ends last List.getLast?_concat
    cases front with
    | nil =>
      have joined := readPath_append given named [] other
      simpa [pathAfterAuthority, other] using joined
    | cons c front =>
      by_cases slash : isSlash true c = true
      · have joined := readPath_append given named front other
        simpa [pathAfterAuthority, slash] using joined
      · have joined := readPath_append given named (c :: front) other
        simpa [pathAfterAuthority, slash] using joined

end Names

end RealmLookup.Url
