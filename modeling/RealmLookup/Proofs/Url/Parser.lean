import RealmLookup.Proofs.Url.Path
import RealmLookup.Url.Parser

/-!
# The paths of URLs that are read

A URL that is read from a text and that has a scheme with a host, other than that of local files,
has a host and a path of segments.  Every segment comes from between two slashes of the text and has
its question marks encoded, so the written path shows where it starts and ends.

## Main results

* `Url.forall_readSegments` : what reading a path keeps of its segments.
* `Url.pathAfterAuthority_ne_nil` : a path has a segment.
* `Url.parse_hierarchical` : the written form of a URL that was read keeps its segments apart.
-/

namespace RealmLookup.Url

/-! ### Reading segments -/

/-- Apart from local files, no segment is read as a drive. -/
theorem readLast_eq (segments : List (List Char)) (text : List Char) :
    readLast false segments text = fillLast false segments text :=
  if_neg fun first => Bool.false_ne_true first.1

section Segments

variable {fits : List Char → Prop} (blank : fits []) {segments : List (List Char)}
include blank

theorem forall_emptyLast (given : ∀ segment ∈ segments, fits segment) :
    ∀ segment ∈ emptyLast false segments, fits segment := by
  intro segment member
  unfold emptyLast at member
  split at member
  · exact given segment member
  · rw [Bool.false_and, if_neg Bool.false_ne_true] at member
    rcases List.mem_append.1 member with member | member
    · exact given segment (List.dropLast_subset _ member)
    · rw [List.mem_singleton.1 member]
      exact blank

theorem forall_goUp (given : ∀ segment ∈ segments, fits segment) :
    ∀ segment ∈ goUp false segments, fits segment := by
  refine forall_emptyLast blank fun segment member => ?_
  split at member
  · exact given segment member
  · split at member
    · exact given segment member
    · exact given segment (List.dropLast_subset _ member)

theorem forall_fillLast {text : List Char} (given : ∀ segment ∈ segments, fits segment)
    (read : fits text) : ∀ segment ∈ fillLast false segments text, fits segment := by
  intro segment member
  unfold fillLast at member
  split at member
  · exact forall_goUp blank given segment member
  · split at member
    · exact given segment member
    · rcases List.mem_append.1 member with member | member
      · exact given segment (List.dropLast_subset _ member)
      · rw [List.mem_singleton.1 member]
        exact read

theorem forall_reopen {text : List Char} (given : ∀ segment ∈ segments, fits segment) :
    ∀ segment ∈ reopen text segments, fits segment := by
  intro segment member
  unfold reopen at member
  split at member
  · exact given segment member
  · rcases List.mem_append.1 member with member | member
    · exact given segment member
    · rw [List.mem_singleton.1 member]
      exact blank

/-- What holds of the empty segment and of all texts that are read holds of all segments: points
remove segments and leave empty ones, but make no others. -/
theorem forall_readSegments {texts : List (List Char)} (given : ∀ segment ∈ segments, fits segment)
    (read : ∀ text ∈ texts, fits text) :
    ∀ segment ∈ readSegments false segments texts, fits segment := by
  have filled {segments : List (List Char)} {text : List Char}
      (given : ∀ segment ∈ segments, fits segment) (read : fits text) :
      ∀ segment ∈ readLast false segments text, fits segment := by
    rw [readLast_eq]
    exact forall_fillLast blank given read
  induction texts generalizing segments with
  | nil => exact given
  | cons text rest ih =>
    have filled := filled given (read text List.mem_cons_self)
    cases rest with
    | nil => exact filled
    | cons next more =>
      exact ih (forall_reopen blank filled) fun later member =>
        read later (List.mem_cons_of_mem text member)

end Segments

section Roots

variable {segments : List (List Char)} (some : segments ≠ [])
include some

theorem emptyLast_ne_nil : emptyLast false segments ≠ [] := by
  unfold emptyLast
  split
  · exact some
  · exact List.append_ne_nil_of_right_ne_nil _ (List.cons_ne_nil _ _)

theorem goUp_ne_nil : goUp false segments ≠ [] := by
  refine emptyLast_ne_nil ?_
  split
  · exact some
  · rename_i before above
    split
    · exact some
    · rintro none
      rw [none] at above
      cases above

theorem fillLast_ne_nil (text : List Char) : fillLast false segments text ≠ [] := by
  unfold fillLast
  split_ifs
  · exact goUp_ne_nil some
  · exact some
  · exact List.append_ne_nil_of_right_ne_nil _ (List.cons_ne_nil _ _)

/-- A path keeps a segment, however far points go up. -/
theorem readSegments_ne_nil (texts : List (List Char)) :
    readSegments false segments texts ≠ [] := by
  have filled {segments : List (List Char)} (some : segments ≠ []) (text : List Char) :
      readLast false segments text ≠ [] := by
    rw [readLast_eq]
    exact fillLast_ne_nil some text
  induction texts generalizing segments with
  | nil => exact some
  | cons text rest ih =>
    cases rest with
    | nil => exact filled some text
    | cons next more =>
      refine ih ?_
      unfold reopen
      split_ifs
      · exact filled some text
      · exact List.append_ne_nil_of_right_ne_nil _ (List.cons_ne_nil _ _)

end Roots

/-! ### Reading paths -/

/-- Behind an authority there is a path, if only a slash. -/
theorem pathAfterAuthority_ne_nil (text : List Char) : pathAfterAuthority true text ≠ [] := by
  unfold pathAfterAuthority
  split
  · rw [if_pos rfl]
    exact List.cons_ne_nil _ _
  · rw [readPath, if_neg Bool.false_ne_true]
    exact readSegments_ne_nil (List.cons_ne_nil _ _) _

/-- A piece between slashes, once encoded, holds no sign that ends a segment or the path. -/
theorem not_mem_of_mem_splitSlashes {special : Bool} {text segment : List Char}
    (member : segment ∈ (splitSlashes special text).map (Percent.encode Percent.path)) :
    '/' ∉ segment ∧ '?' ∉ segment := by
  obtain ⟨piece, between, rfl⟩ := List.mem_map.1 member
  refine ⟨fun slash => ?_, Percent.not_mem_encode (by decide) piece⟩
  rcases Percent.mem_encode slash with ⟨kept, -⟩ | percent | digit
  · exact Form.not_mem_of_mem_split between kept
  · exact absurd percent (by decide)
  · exact absurd digit (by decide)

theorem not_mem_of_mem_readPath {special : Bool} {text segment : List Char}
    (member : segment ∈ readPath special false text) : '/' ∉ segment ∧ '?' ∉ segment := by
  have blank : '/' ∉ ([] : List Char) ∧ '?' ∉ ([] : List Char) := by simp
  rw [readPath, if_neg Bool.false_ne_true] at member
  have given : ∀ segment ∈ ([[]] : List (List Char)), '/' ∉ segment ∧ '?' ∉ segment := by
    intro segment member
    rw [List.mem_singleton.1 member]
    exact blank
  exact forall_readSegments blank given
    (fun piece between => not_mem_of_mem_splitSlashes between) segment member

theorem not_mem_of_mem_pathAfterAuthority {special : Bool} {text segment : List Char}
    (member : segment ∈ pathAfterAuthority special text) : '/' ∉ segment ∧ '?' ∉ segment := by
  unfold pathAfterAuthority at member
  split at member
  · split at member
    · rw [List.mem_singleton.1 member]
      simp
    · cases member
  · exact not_mem_of_mem_readPath member

/-! ### Reading URLs -/

/-- The steps of a computation that ends without an error end without one. -/
theorem exists_of_bind_eq_ok {ε α β : Type} {first : Except ε α} {next : α → Except ε β} {value : β}
    (ends : first >>= next = .ok value) : ∃ found, first = .ok found ∧ next found = .ok value := by
  cases first with
  | error error => cases ends
  | ok found => exact ⟨found, rfl, ends⟩

/-- An authority names a host. -/
theorem host_of_authorityOf {scheme text behind : List Char} {location : Location}
    (read : authorityOf scheme text = .ok (location, behind)) : location.host.isSome = true := by
  unfold authorityOf at read
  split at read
  · obtain ⟨⟨host, port, rest⟩, -, read⟩ := exists_of_bind_eq_ok read
    cases read
    rfl
  · dsimp only at read
    split at read
    · cases read
    · obtain ⟨⟨host, port, rest⟩, -, read⟩ := exists_of_bind_eq_ok read
      dsimp only at read
      split at read
      · cases read
      · cases read
        rfl

/-- The parts of a URL with a scheme whose URLs have hosts. -/
theorem parts_of_special {scheme text : List Char} {location : Location}
    {path : List (List Char) ⊕ List Char} (read : parts scheme text = .ok (location, path))
    (special : isSpecial scheme = true) (remote : isFile scheme = false) :
    location.host.isSome = true ∧ ∃ text, path = .inl (pathAfterAuthority true text) := by
  unfold parts at read
  rw [if_neg (by simp [remote]), if_pos special] at read
  obtain ⟨⟨found, rest⟩, authority, read⟩ := exists_of_bind_eq_ok read
  cases read
  exact ⟨host_of_authorityOf authority, _, rfl⟩

/-- The written form of a URL that was read keeps its segments apart. -/
theorem parse_hierarchical {text : List Char} {url : Url} (read : parse text = .ok url)
    (special : isSpecial url.scheme = true) (remote : isFile url.scheme = false) :
    ∃ segments, segments ≠ [] ∧ Hierarchical url segments := by
  unfold parse at read
  dsimp only at read
  split at read
  · cases read
  · obtain ⟨⟨location, path⟩, parts, read⟩ := exists_of_bind_eq_ok read
    cases read
    obtain ⟨host, behind, rfl⟩ := parts_of_special parts special remote
    exact ⟨_, pathAfterAuthority_ne_nil behind, rfl, host,
      fun segment member => (not_mem_of_mem_pathAfterAuthority member).1,
      fun segment member => (not_mem_of_mem_pathAfterAuthority member).2⟩

end RealmLookup.Url
