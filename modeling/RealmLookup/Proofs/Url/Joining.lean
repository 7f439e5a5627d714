import RealmLookup.Proofs.Url.Names

/-!
# URLs with names behind them

A path of names that is written behind a text is read behind the URL of the text.  If both together
are a URL, the text alone is one, too, and the two URLs differ in nothing but the names at the ends
of their paths.  This needs a text that a path can be written behind: not one that ends inside a
query or a fragment, with a blank, with a sign that counts as a slash, or with its scheme.

## Main definitions

* `Url.stripped`, `Url.EndsKept` : what is left of a text, and whether its end is.
* `Url.Joinable` : the texts that a path can be written behind.

## Main results

* `Url.parts_append` : names behind a text change nothing in front of the path.
* `Url.parse_append` : the URL of a text with names behind it.
-/

namespace RealmLookup.Url

open RealmLookup.Text

/-! ### What is in front of the path -/

/-- Text behind a sign at which reading stops is left where it is. -/
theorem span_append (keep : Char → Bool) (sign : Char) (stops : keep sign = false)
    (text more : List Char) :
    (text ++ sign :: more).takeWhile keep = text.takeWhile keep ∧
      (text ++ sign :: more).dropWhile keep = text.dropWhile keep ++ sign :: more := by
  induction text with
  | nil => simp [stops]
  | cons c rest ih =>
    by_cases kept : keep c = true
    · simp [kept, ih]
    · simp [kept]

theorem spanHost_append (bracket : Bool) (text : List Char) :
    (spanHost bracket text).1 ++ (spanHost bracket text).2 = text := by
  induction text generalizing bracket with
  | nil => rfl
  | cons c rest ih =>
    rw [spanHost]
    split
    · rfl
    · exact congrArg (c :: ·) (ih _)

/-- Nothing follows host and port in a text without backslashes. -/
theorem behind_of_hostAndPort {scheme text behind : List Char} {host : Host} {port : Option Nat}
    (plain : '\\' ∉ text) (read : hostAndPort scheme text = .ok (host, port, behind)) :
    behind = [] := by
  have whole := spanHost_append false text
  unfold hostAndPort at read
  dsimp only at read
  split at read
  · cases read
  -- the host is read in one of two ways, and the port in the same way behind both
  split at read <;> obtain ⟨found, -, read⟩ := exists_of_bind_eq_ok read
  all_goals
    split at read
    · rename_i digits colon
      split at read
      · cases read
      · obtain ⟨number, -, read⟩ := exists_of_bind_eq_ok read
        split at read
        · cases read
          rfl
        · rename_i rest sign
          have member : '\\' ∈ digits := by
            refine (List.dropWhile_suffix Char.isDigit).subset ?_
            rw [sign]
            exact List.mem_cons_self
          refine absurd ?_ plain
          rw [← whole, colon]
          exact List.mem_append_right _ (List.mem_cons_of_mem ':' member)
        · cases read
    · cases read
      rfl

/-- Nothing is left of an authority without backslashes. -/
theorem behind_of_authorityOf {scheme text behind : List Char} {location : Location}
    (plain : '\\' ∉ text) (read : authorityOf scheme text = .ok (location, behind)) :
    behind = [] := by
  unfold authorityOf at read
  split at read
  · obtain ⟨⟨host, port, rest⟩, found, read⟩ := exists_of_bind_eq_ok read
    cases read
    exact behind_of_hostAndPort plain found
  · rename_i before after parted
    have absent : '\\' ∉ after := by
      intro member
      unfold splitLast at parted
      split at parted
      · cases parted
      · cases parted
        exact plain (List.mem_reverse.1
          ((List.takeWhile_prefix _).subset (List.mem_reverse.1 member)))
    dsimp only at read
    split at read
    · cases read
    · obtain ⟨⟨host, port, rest⟩, found, read⟩ := exists_of_bind_eq_ok read
      dsimp only at read
      split at read
      · cases read
      · cases read
        exact behind_of_hostAndPort absent found

/-! ### Location and path -/

/-- The end of a text is the end of what follows in it. -/
theorem getLast?_of_suffix {text behind : List Char} (follows : behind <:+ text) {c : Char}
    (last : c ∈ behind.getLast?) : c ∈ text.getLast? := by
  obtain ⟨front, rfl⟩ := follows
  rw [Option.mem_def] at last ⊢
  rw [List.getLast?_append, last]
  rfl

section Parts

variable {scheme text : List Char} (some : text ≠ [])
  (ends : ∀ c ∈ text.getLast?, isSlash true c = false)
include some ends

/-- Behind a URL of local files, a path changes nothing about whether there is one. -/
theorem fileParts_append {more : List Char} {found : Option Host × List (List Char)}
    (read : fileParts (text ++ '/' :: more) = .ok found) :
    ∃ alone, fileParts text = .ok alone := by
  match text, some, read with
  | [a], _, _ => exact ⟨_, rfl⟩
  | a :: b :: rest, _, read =>
    obtain ⟨same, -⟩ := span_append (!isSlash true ·) '/' rfl rest more
    rw [List.cons_append, List.cons_append] at read
    unfold fileParts at read ⊢
    dsimp only at read ⊢
    rw [same] at read
    split_ifs at read ⊢
    · exact ⟨_, rfl⟩
    · exact ⟨_, rfl⟩
    · split at read
      · cases read
      · exact ⟨_, rfl⟩
    · exact ⟨_, rfl⟩
    · exact ⟨_, rfl⟩

/-- Names behind a URL with a host change nothing in front of the path. -/
theorem parts_append_special {names : List (List Char)} (given : names ≠ [])
    (named : ∀ name ∈ names, IsName name) (special : isSpecial scheme = true)
    (remote : isFile scheme = false) {location : Location} {path : List (List Char) ⊕ List Char}
    (read : parts scheme (text ++ renderSegments names) = .ok (location, path)) :
    ∃ whole root, parts scheme text = .ok (location, .inl whole) ∧ path = .inl (root ++ names) ∧
      withoutSlash (renderSegments whole) = renderSegments root := by
  obtain ⟨more, written⟩ := renderSegments_eq_cons given
  have behind : (text ++ renderSegments names).dropWhile (isSlash true) =
      text.dropWhile (isSlash true) ++ renderSegments names := by
    have left : (text.dropWhile (isSlash true)).isEmpty = false := by
      obtain ⟨front, c, rfl⟩ := (List.eq_nil_or_concat text).resolve_left some
      rw [List.concat_eq_append] at ends ⊢
      rw [List.dropWhile_append]
      split_ifs <;> simp [ends c List.getLast?_concat]
    rw [List.dropWhile_append, left]
    rfl
  obtain ⟨same, tail⟩ :=
    span_append (!isSlash true ·) '/' rfl (text.dropWhile (isSlash true)) more
  unfold parts at read ⊢
  rw [if_neg (by simp [remote]), if_pos special] at read ⊢
  dsimp only at read ⊢
  rw [behind, written, same, tail, ← written] at read
  obtain ⟨⟨found, rest⟩, authority, read⟩ := exists_of_bind_eq_ok read
  have absent : '\\' ∉ (text.dropWhile (isSlash true)).takeWhile (!isSlash true ·) := by
    intro member
    have every : ((text.dropWhile (isSlash true)).takeWhile (!isSlash true ·)).all
        (!isSlash true ·) = true := List.all_takeWhile
    cases List.all_eq_true.1 every _ member
  obtain rfl := behind_of_authorityOf absent authority
  have follows : (text.dropWhile (isSlash true)).dropWhile (!isSlash true ·) <:+ text :=
    (List.dropWhile_suffix _).trans (List.dropWhile_suffix _)
  obtain ⟨root, joined, same⟩ := pathAfterAuthority_append given named fun c last =>
    ends c (getLast?_of_suffix follows last)
  cases read
  refine ⟨_, root, ?_, congrArg Sum.inl joined, same⟩
  rw [authority]
  rfl

/-- Names behind a URL that need not have a host do not make it one. -/
theorem parts_append_other {more : List Char} (other : isSpecial scheme = false)
    (remote : isFile scheme = false) {location : Location} {path : List (List Char)}
    (read : parts scheme (text ++ '/' :: more) = .ok (location, .inl path)) :
    ∃ alone whole, parts scheme text = .ok (alone, .inl whole) := by
  unfold parts at read ⊢
  rw [if_neg (by simp [remote]), if_neg (by simp [other])] at read ⊢
  -- a text without a slash at its start has no path of segments
  have rooted {c : Char} {rest : List Char} (starts : text = c :: rest) : c = '/' := by
    subst starts
    split at read
    · rename_i same
      exact (List.cons.inj same).1
    · rename_i same
      exact (List.cons.inj same).1
    · cases read
  rcases text with _ | ⟨a, _ | ⟨b, rest⟩⟩
  · exact absurd rfl some
  · obtain rfl := rooted rfl
    cases ends '/' rfl
  · obtain rfl := rooted rfl
    by_cases slash : b = '/'
    · subst slash
      obtain ⟨same, -⟩ := span_append (· ≠ '/') '/' (by decide) rest more
      obtain ⟨⟨found, behind⟩, authority, -⟩ := exists_of_bind_eq_ok read
      rw [List.append_eq, same] at authority
      refine ⟨found, pathAfterAuthority false (behind ++ rest.dropWhile (· ≠ '/')), ?_⟩
      show authorityOf scheme (rest.takeWhile (· ≠ '/')) >>= _ = _
      rw [authority]
      rfl
    · refine ⟨Location.none, readPath false false (b :: rest), ?_⟩
      split
      · rename_i same
        exact absurd (List.cons.inj (List.cons.inj same).2).1 slash
      · rename_i same
        rw [(List.cons.inj same).2]
        rfl
      · rename_i none
        exact absurd rfl (none _)

/-- Names behind a text leave its location and path as they are, up to the names in the path. -/
theorem parts_append {names : List (List Char)} (given : names ≠ [])
    (named : ∀ name ∈ names, IsName name) {location : Location} {path : List (List Char)}
    (read : parts scheme (text ++ renderSegments names) = .ok (location, .inl path)) :
    ∃ alone whole, parts scheme text = .ok (alone, .inl whole) ∧
      (isSpecial scheme = true → isFile scheme = false → alone = location ∧
        ∃ root, path = root ++ names ∧
          withoutSlash (renderSegments whole) = renderSegments root) := by
  cases file : isFile scheme with
  | true =>
    obtain ⟨more, written⟩ := renderSegments_eq_cons given
    rw [written] at read
    unfold parts at read ⊢
    rw [if_pos file] at read ⊢
    obtain ⟨found, parsed, -⟩ := exists_of_bind_eq_ok read
    obtain ⟨⟨host, whole⟩, alone⟩ := fileParts_append some ends parsed
    rw [alone]
    exact ⟨_, whole, rfl, fun _ remote => by cases remote⟩
  | false =>
    cases special : isSpecial scheme with
    | true =>
      obtain ⟨whole, root, alone, same, joined⟩ :=
        parts_append_special some ends given named special file read
      exact ⟨location, whole, alone, fun _ _ => ⟨rfl, root, Sum.inl.inj same, joined⟩⟩
    | false =>
      obtain ⟨more, written⟩ := renderSegments_eq_cons given
      rw [written] at read
      obtain ⟨alone, whole, parsed⟩ := parts_append_other some ends special file read
      exact ⟨alone, whole, parsed, fun other => by cases other⟩

end Parts

/-! ### Schemes -/

/-- A scheme ends at the first colon. -/
theorem eq_of_scheme? {text scheme rest : List Char} (read : scheme? text = some (scheme, rest)) :
    ∃ front, text = front ++ ':' :: rest ∧ ':' ∉ front := by
  unfold scheme? at read
  dsimp only at read
  split at read
  · cases read
  · rename_i first letters
    split at read
    · cases read
    · split at read
      · rename_i tail colon
        cases read
        have signs : ((first :: letters).takeWhile fun c =>
            c.isAlphanum || ['+', '-', '.'].contains c).all
              (fun c => c.isAlphanum || ['+', '-', '.'].contains c) = true := List.all_takeWhile
        refine ⟨(first :: letters).takeWhile fun c =>
          c.isAlphanum || ['+', '-', '.'].contains c, ?_, fun member => ?_⟩
        · rw [← colon]
          exact List.takeWhile_append_dropWhile.symm
        · cases List.all_eq_true.1 signs ':' member
      · cases read

/-- A slash and what follows it change nothing about the scheme of a text. -/
theorem scheme?_append {text more scheme behind : List Char}
    (read : scheme? (text ++ '/' :: more) = some (scheme, behind)) :
    ∃ rest, behind = rest ++ '/' :: more ∧ scheme? text = some (scheme, rest) := by
  obtain ⟨taken, dropped⟩ :=
    span_append (fun c => c.isAlphanum || ['+', '-', '.'].contains c) '/' rfl text more
  cases text with
  | nil => cases read
  | cons first letters =>
    unfold scheme? at read ⊢
    dsimp only [List.cons_append] at read taken dropped ⊢
    rw [taken, dropped] at read
    split at read
    · cases read
    · rename_i letter
      rw [if_neg letter]
      generalize (first :: letters).takeWhile _ = front at *
      generalize (first :: letters).dropWhile _ = tail at *
      cases tail with
      | nil => cases read
      | cons colon rest =>
        by_cases sign : colon = ':'
        · subst sign
          cases read
          exact ⟨rest, rfl, rfl⟩
        · simp [sign] at read

/-! ### Ends of texts -/

/-- Whether a character is dropped at the ends of a URL. -/
def isEnd (c : Char) : Bool :=
  c.toNat ≤ 0x20

/-- A text as it is read, up to what is dropped at its end alone. -/
def stripped (text : List Char) : List Char :=
  (trimStart isEnd text).filter fun c => !isDropped c

/-- Whether a text ends with nothing but characters that are dropped everywhere, if with any that
are dropped at the end. -/
def EndsKept (text : List Char) : Prop :=
  ∀ c ∈ text.reverse.takeWhile isEnd, isDropped c = true

instance (text : List Char) : Decidable (EndsKept text) :=
  decidable_of_iff ((text.reverse.takeWhile isEnd).all isDropped = true) List.all_eq_true

theorem isEnd_of_isDropped {c : Char} (dropped : isDropped c = true) : isEnd c = true := by
  simp only [isDropped, Bool.or_eq_true, beq_iff_eq, or_assoc] at dropped
  rcases dropped with rfl | rfl | rfl <;> decide

section Ends

variable {text more : List Char}

theorem mem_of_mem_stripped {c : Char} (member : c ∈ stripped text) : c ∈ text :=
  (List.dropWhile_suffix isEnd).subset (List.mem_filter.1 member).1

/-- Texts without characters that are dropped are kept behind others. -/
theorem stripped_append (solid : ∀ c ∈ more, isEnd c = false) :
    stripped (text ++ more) = stripped text ++ more := by
  have front : more.dropWhile isEnd = more := by
    cases more with
    | nil => rfl
    | cons c rest => exact List.dropWhile_cons_of_neg (by simp [solid c List.mem_cons_self])
  have whole : (more.filter fun c => !isDropped c) = more := by
    refine List.filter_eq_self.2 fun c member => ?_
    cases dropped : isDropped c with
    | false => rfl
    | true => cases (isEnd_of_isDropped dropped).symm.trans (solid c member)
  have starts : trimStart isEnd (text ++ more) = trimStart isEnd text ++ more := by
    rw [trimStart, List.dropWhile_append, front]
    split_ifs with none
    · rw [trimStart, List.isEmpty_iff.1 none, List.nil_append]
    · rfl
  rw [stripped, starts, List.filter_append, whole, stripped]

/-- Such texts end in a character that is kept. -/
theorem endsKept_append (some : more ≠ []) (solid : ∀ c ∈ more, isEnd c = false) :
    EndsKept (text ++ more) := by
  obtain ⟨front, c, rfl⟩ := (List.eq_nil_or_concat more).resolve_left some
  have last : isEnd c = false := solid c (by simp)
  simp [EndsKept, last]

theorem EndsKept.of_suffix {rest : List Char} (kept : EndsKept text) (ends : rest <:+ text) :
    EndsKept rest := by
  obtain ⟨front, rfl⟩ := ends
  intro c member
  refine kept c ?_
  rw [List.reverse_append, List.takeWhile_append]
  split_ifs
  · exact List.mem_append_left _ ((List.takeWhile_prefix isEnd).subset member)
  · exact member

theorem EndsKept.filter_trimEnd (kept : EndsKept text) :
    (trimEnd isEnd text).filter (fun c => !isDropped c) = text.filter fun c => !isDropped c := by
  have whole : trimEnd isEnd text ++ (text.reverse.takeWhile isEnd).reverse = text := by
    rw [trimEnd, ← List.reverse_append, List.takeWhile_append_dropWhile, List.reverse_reverse]
  have none : ((text.reverse.takeWhile isEnd).reverse.filter fun c => !isDropped c) = [] := by
    refine List.filter_eq_nil_iff.2 fun c member => ?_
    rw [kept c (List.mem_reverse.1 member)]
    decide
  conv_rhs => rw [← whole, List.filter_append, none, List.append_nil]

/-- Only what is dropped everywhere is dropped at the end of such a text. -/
theorem EndsKept.trim_eq (kept : EndsKept text) :
    (trim (fun c => decide (c.toNat ≤ 0x20)) text).filter (fun c => !isDropped c) =
      stripped text :=
  (kept.of_suffix (List.dropWhile_suffix isEnd)).filter_trimEnd

end Ends

/-- The URL of a location and a path. -/
def Location.withPath (location : Location) (scheme : List Char)
    (path : List (List Char) ⊕ List Char) : Url where
  scheme := scheme
  username := location.username
  password := location.password
  host := location.host
  port := location.port
  path := path
  query := .none
  fragment := .none

theorem cut_of_not_mem {sign : Char} {text : List Char} (absent : sign ∉ text) :
    cut sign text = (text, none) := by
  have passes : ∀ c ∈ text, decide (c ≠ sign) = true := fun c member =>
    decide_eq_true fun same => absent (same ▸ member)
  have taken : (text ++ []).takeWhile (· ≠ sign) = text ++ [] := List.takeWhile_append_of_pos passes
  have dropped : (text ++ []).dropWhile (· ≠ sign) = [] := List.dropWhile_append_of_pos passes
  rw [List.append_nil] at taken dropped
  rw [cut, taken, dropped]

/-- The URL of a text whose end is kept, without query and fragment. -/
theorem parse_eq {text : List Char} (kept : EndsKept text) (query : '?' ∉ text)
    (fragment : '#' ∉ text) :
    parse text =
      match scheme? (stripped text) with
      | none => .error .relativeWithoutBase
      | some (scheme, rest) =>
          (parts scheme rest).map fun found => found.1.withPath scheme found.2 := by
  unfold parse
  dsimp only
  rw [kept.trim_eq]
  cases read : scheme? (stripped text) with
  | none => rfl
  | some found =>
    obtain ⟨scheme, rest⟩ := found
    obtain ⟨front, whole, -⟩ := eq_of_scheme? read
    have absent {sign : Char} (absent : sign ∉ text) : sign ∉ rest := by
      refine fun member => absent (mem_of_mem_stripped ?_)
      rw [whole]
      exact List.mem_append_right _ (List.mem_cons_of_mem ':' member)
    dsimp only
    rw [cut_of_not_mem (absent fragment), cut_of_not_mem (absent query)]
    cases parts scheme rest <;> rfl

/-! ### Texts with names behind them -/

/-- The texts that a path can be written behind: they have neither query nor fragment, and what is
read of them ends neither with a sign that counts as a slash nor with their scheme. -/
structure Joinable (text : List Char) : Prop where
  query : '?' ∉ text
  fragment : '#' ∉ text
  kept : EndsKept text
  slash : ∀ c ∈ (stripped text).getLast?, isSlash true c = false
  behind : (stripped text).dropWhile (· ≠ ':') ≠ [':']

instance (text : List Char) : Decidable (Joinable text) :=
  decidable_of_iff
    ('?' ∉ text ∧ '#' ∉ text ∧ EndsKept text ∧
      (stripped text).getLast?.all (!isSlash true ·) = true ∧
        (stripped text).dropWhile (· ≠ ':') ≠ [':'])
    ⟨fun ⟨query, fragment, kept, slash, behind⟩ =>
        ⟨query, fragment, kept, by simpa [Option.all_eq_true] using slash, behind⟩,
      fun ⟨query, fragment, kept, slash, behind⟩ =>
        ⟨query, fragment, kept, by simpa [Option.all_eq_true] using slash, behind⟩⟩

section Joinable

variable {text : List Char}

/-- Such a text goes on behind its scheme. -/
theorem Joinable.behind_ne_nil (joinable : Joinable text) {scheme rest : List Char}
    (read : scheme? (stripped text) = some (scheme, rest)) : rest ≠ [] := by
  rintro rfl
  obtain ⟨front, whole, first⟩ := eq_of_scheme? read
  have passes : ∀ c ∈ front, decide (c ≠ ':') = true := fun c member =>
    decide_eq_true fun same => first (same ▸ member)
  refine joinable.behind ?_
  rw [whole, List.dropWhile_append_of_pos passes]
  rfl

/-- What is behind the scheme ends as the text does. -/
theorem Joinable.slash_of_scheme? (joinable : Joinable text) {scheme rest : List Char}
    (read : scheme? (stripped text) = some (scheme, rest)) :
    ∀ c ∈ rest.getLast?, isSlash true c = false := by
  intro c last
  obtain ⟨front, whole, -⟩ := eq_of_scheme? read
  have follows : rest <:+ stripped text :=
    ⟨front ++ [':'], by rw [whole, List.append_assoc, List.singleton_append]⟩
  exact joinable.slash c (getLast?_of_suffix follows last)

section Names

variable {names : List (List Char)} (given : names ≠ []) (named : ∀ name ∈ names, IsName name)
include named

theorem isEnd_of_mem_renderSegments {c : Char} (member : c ∈ renderSegments names) :
    isEnd c = false := by
  rcases mem_renderSegments named member with rfl | sign
  · decide
  · have bound := (toNat_of_isNameSign sign).1
    simpa [isEnd] using bound

include given

/-- Names bring neither query nor fragment to a text, and nothing of them is dropped. -/
theorem parse_names_eq (joinable : Joinable text) :
    parse (text ++ renderSegments names) =
      match scheme? (stripped text ++ renderSegments names) with
      | none => .error .relativeWithoutBase
      | some (scheme, rest) =>
          (parts scheme rest).map fun found => found.1.withPath scheme found.2 := by
  have absent {sign : Char} (front : sign ∉ text) (slash : sign ≠ '/')
      (other : isNameSign sign = false) : sign ∉ text ++ renderSegments names := by
    intro member
    rcases List.mem_append.1 member with member | member
    · exact front member
    · rcases mem_renderSegments named member with same | sign
      · exact slash same
      · cases sign.symm.trans other
  have written : renderSegments names ≠ [] := by
    obtain ⟨more, same⟩ := renderSegments_eq_cons given
    rw [same]
    exact List.cons_ne_nil _ _
  have solid : ∀ c ∈ renderSegments names, isEnd c = false :=
    fun c member => isEnd_of_mem_renderSegments named member
  rw [parse_eq (endsKept_append written solid) (absent joinable.query (by decide) (by decide))
    (absent joinable.fragment (by decide) (by decide)), stripped_append solid]

/-- If a text with names behind it is a URL, so is the text alone, and the names are the last
segments of the path. -/
theorem parse_append (joinable : Joinable text) {joined : Url}
    (read : parse (text ++ renderSegments names) = .ok joined) (base : joined.isBase = true) :
    ∃ alone, parse text = .ok alone ∧ alone.isBase = true ∧
      (isSpecial joined.scheme = true → isFile joined.scheme = false → ∃ whole root,
        alone = { joined with path := .inl whole } ∧ joined.path = .inl (root ++ names) ∧
          withoutSlash (renderSegments whole) = renderSegments root) := by
  obtain ⟨more, written⟩ := renderSegments_eq_cons given
  rw [parse_names_eq given named joinable] at read
  rw [parse_eq joinable.kept joinable.query joinable.fragment]
  cases found : scheme? (stripped text ++ renderSegments names) with
  | none =>
    rw [found] at read
    cases read
  | some parted =>
    obtain ⟨scheme, behind⟩ := parted
    rw [found] at read
    rw [written] at found
    obtain ⟨rest, rfl, alone⟩ := scheme?_append found
    rw [alone]
    dsimp only at read ⊢
    rw [← written] at read
    cases parsed : parts scheme (rest ++ renderSegments names) with
    | error error =>
      rw [parsed] at read
      cases read
    | ok found =>
      obtain ⟨location, path⟩ := found
      rw [parsed] at read
      obtain rfl : location.withPath scheme path = joined := Except.ok.inj read
      obtain ⟨segments, rfl⟩ : ∃ segments, path = .inl segments := Sum.isLeft_iff.1 base
      obtain ⟨place, whole, located, joins⟩ := parts_append (joinable.behind_ne_nil alone)
        (joinable.slash_of_scheme? alone) given named parsed
      refine ⟨place.withPath scheme (.inl whole), by rw [located]; rfl, rfl,
        fun special remote => ?_⟩
      obtain ⟨rfl, root, rfl, same⟩ := joins special remote
      exact ⟨whole, root, rfl, rfl, same⟩

end Names

end Joinable

end RealmLookup.Url
