import RealmLookup.Proofs.Url.Form
import RealmLookup.Url.Basic

/-!
# Paths and queries that are appended

What a URL shows of the path segments and query pairs that were appended to it.  Splitting the
written path at its slashes and decoding the pieces gives the segments back, and decoding the query
gives the pairs.  A text that is nothing but one or two points once tabs and line ends are dropped
is no segment: it names a level of the path.

## Main definitions

* `Url.Hierarchical` : URLs whose written form keeps the segments of their paths apart.
* `Url.pieces`, `Url.pairs` : the pieces of a path between its slashes, the pairs of a query.
* `Url.stem` : the segments of a path to which further ones are appended.
* `Url.kept`, `Url.isPoints` : what is left of a text in a URL, and whether it names a level.
* `Url.shown` : the texts that show behind the segments in front of them.
* `Url.climbs` : whether a text leads out of the level it is appended to.

## Main results

* `Url.Hierarchical.pieces_eq` : the pieces of a path are its segments.
* `Url.render_inj` : a written URL shows its segments and its query.
* `Url.extend_eq` : the path of an extended URL.
* `Url.foldl_pushSegment_below` : what keeps an extended path below the one it extends.
* `Url.pairs_withPairs` : the pairs of a query that was extended.
-/

namespace RealmLookup.Url

/-! ### Written paths -/

/-- A path is split at its slashes into its segments. -/
theorem split_append_renderSegments {segment : List Char} {segments : List (List Char)}
    (first : '/' ∉ segment) (others : ∀ other ∈ segments, '/' ∉ other) :
    Form.split '/' (segment ++ renderSegments segments) = segment :: segments := by
  induction segments generalizing segment with
  | nil =>
    have bare : segment ++ renderSegments [] = segment := List.append_nil segment
    rw [bare, Form.split_of_not_mem first]
  | cons next rest ih =>
    have written : renderSegments (next :: rest) = '/' :: (next ++ renderSegments rest) := by
      simp [renderSegments]
    have behind := ih (others next List.mem_cons_self) fun other member =>
      others other (List.mem_cons_of_mem next member)
    rw [written, Form.split_append_cons, Form.split_of_not_mem first, behind]
    rfl

/-- The pieces of the path of a URL between its slashes. -/
def pieces (url : Url) : List (List Char) :=
  (Form.split '/' url.renderPath).tail

/-- A URL with a host and a path of segments, none of which holds a sign that ends a segment or
the path. -/
structure Hierarchical (url : Url) (segments : List (List Char)) : Prop where
  path : url.path = .inl segments
  host : url.host.isSome = true
  slash : ∀ segment ∈ segments, '/' ∉ segment
  mark : ∀ segment ∈ segments, '?' ∉ segment

variable {url : Url} {segments : List (List Char)}

theorem renderSegments_append (segments more : List (List Char)) :
    renderSegments (segments ++ more) = renderSegments segments ++ renderSegments more :=
  List.flatMap_append

/-- Behind a host, a path is written as it is. -/
theorem renderPath_of_host (host : url.host.isSome = true) (path : url.path = .inl segments) :
    url.renderPath = renderSegments segments := by
  have located : url.location.isEmpty = false := by simp [location, host]
  rw [renderPath, path]
  dsimp only
  split
  · rw [located]
    rfl
  · rfl

theorem Hierarchical.renderPath_eq (laid : url.Hierarchical segments) :
    url.renderPath = renderSegments segments :=
  renderPath_of_host laid.host laid.path

/-- The pieces of a path are its segments. -/
theorem Hierarchical.pieces_eq (laid : url.Hierarchical segments) : url.pieces = segments := by
  rw [pieces, laid.renderPath_eq]
  cases segments with
  | nil => rfl
  | cons first rest =>
    have written : renderSegments (first :: rest) = '/' :: (first ++ renderSegments rest) := by
      simp [renderSegments]
    rw [written, Form.split_cons_self, List.tail_cons]
    exact split_append_renderSegments (laid.slash first List.mem_cons_self) fun other member =>
      laid.slash other (List.mem_cons_of_mem first member)

/-- The written path holds no question mark, so it ends where the query begins. -/
theorem Hierarchical.mark_not_mem (laid : url.Hierarchical segments) : '?' ∉ url.renderPath := by
  rw [laid.renderPath_eq]
  intro member
  obtain ⟨segment, listed, member⟩ := List.mem_flatMap.1 member
  rcases List.mem_cons.1 member with slash | member
  · exact absurd slash (by decide)
  · exact laid.mark segment listed member

theorem renderPart_injective (sign : Char) : Function.Injective (renderPart sign) := by
  intro part other same
  cases part <;> cases other <;> simp_all [renderPart]

/-- Text in front of an optional part is told apart from it by the sign of the part. -/
theorem append_renderPart_inj {sign : Char} {text other : List Char} {part : Option (List Char)}
    {last : Option (List Char)} (absent : sign ∉ text) (missing : sign ∉ other)
    (same : text ++ renderPart sign part = other ++ renderPart sign last) :
    text = other ∧ part = last := by
  have before {front : List Char} (none : sign ∉ front) (rest : Option (List Char)) :
      (front ++ renderPart sign rest).takeWhile (· ≠ sign) = front := by
    have passes : ∀ c ∈ front, decide (c ≠ sign) = true := by
      intro c member
      refine decide_eq_true ?_
      rintro rfl
      exact none member
    rw [List.takeWhile_append_of_pos passes]
    cases rest <;> simp [renderPart]
  have front : text = other := by rw [← before absent part, same, before missing last]
  subst front
  exact ⟨rfl, renderPart_injective sign (List.append_cancel_left same)⟩

/-- Two URLs that differ in their paths and queries alone are written differently. -/
theorem render_inj {more : List (List Char)} {query last : Option (List Char)}
    (laid : Hierarchical { url with path := .inl segments, query := query } segments)
    (other : Hierarchical { url with path := .inl more, query := last } more)
    (same : render { url with path := .inl segments, query := query } =
      render { url with path := .inl more, query := last }) :
    segments = more ∧ query = last := by
  have behind : renderPath { url with path := .inl segments, query := query } ++
        renderPart '?' query ++ renderPart '#' url.fragment =
      renderPath { url with path := .inl more, query := last } ++ renderPart '?' last ++
        renderPart '#' url.fragment := by
    have whole := (List.cons.inj (List.append_cancel_left same)).2
    simp only [List.append_assoc] at whole ⊢
    exact (List.append_right_inj url.location).1 whole
  obtain ⟨path, part⟩ := append_renderPart_inj laid.mark_not_mem other.mark_not_mem
    (List.append_cancel_right behind)
  refine ⟨?_, part⟩
  rw [← laid.pieces_eq, ← other.pieces_eq, pieces, pieces, path]

/-! ### Texts as segments -/

/-- What is left of a text in a URL. -/
def kept (text : String) : List Char :=
  text.toList.filter fun c => !isDropped c

/-- Whether a text names a level of the path. -/
def isPoints (text : String) : Prop :=
  kept text = ['.'] ∨ kept text = ['.', '.']

instance (text : String) : Decidable (isPoints text) :=
  inferInstanceAs (Decidable (_ ∨ _))

/-- The characters of a segment that are encoded. -/
def segmentSet (special : Bool) : Percent.Set :=
  if special then Percent.specialSegment else Percent.segment

/-- A text as a segment. -/
def segmentOf (special : Bool) (text : String) : List Char :=
  Percent.encode (segmentSet special) (kept text)

theorem escapes_segmentSet (special : Bool) : segmentSet special '%' = true := by
  cases special <;> decide

theorem decode_segmentOf (special : Bool) (text : String) :
    Percent.decode (segmentOf special text) = kept text :=
  Percent.decode_encode (escapes_segmentSet special) _

theorem slash_not_mem_segmentOf (special : Bool) (text : String) :
    '/' ∉ segmentOf special text :=
  Percent.not_mem_encode (by cases special <;> decide) _

theorem mark_not_mem_segmentOf (special : Bool) (text : String) :
    '?' ∉ segmentOf special text :=
  Percent.not_mem_encode (by cases special <;> decide) _

theorem kept_of_plain {text : String} (plain : ∀ c ∈ text.toList, isDropped c = false) :
    kept text = text.toList := by
  refine List.filter_eq_self.2 fun c member => ?_
  rw [plain c member]
  rfl

/-- However it is spelled, one point decodes to one. -/
theorem decode_of_isHere {segment : List Char} (here : isHere segment = true) :
    Percent.decode segment = ['.'] := by
  have spelled : String.ofList segment ∈ pointSpellings := List.contains_iff_mem.1 here
  have every : ∀ spelling ∈ pointSpellings, Percent.decode spelling.toList = ['.'] := by
    decide +kernel
  simpa using every _ spelled

/-- However they are spelled, two points decode to two. -/
theorem decode_of_isAbove {segment : List Char} (above : isAbove segment = true) :
    Percent.decode segment = ['.', '.'] := by
  have spelled : String.ofList segment ∈
      pointSpellings.flatMap fun a => pointSpellings.map fun b => a ++ b :=
    List.contains_iff_mem.1 above
  have every : ∀ spelling ∈ pointSpellings.flatMap fun a => pointSpellings.map fun b => a ++ b,
      Percent.decode spelling.toList = ['.', '.'] := by
    decide +kernel
  simpa using every _ spelled

theorem isHere_segmentOf {special : Bool} {text : String} (other : kept text ≠ ['.']) :
    isHere (segmentOf special text) = false := by
  refine Bool.eq_false_iff.2 fun here => other ?_
  rw [← decode_segmentOf special, decode_of_isHere here]

theorem isAbove_segmentOf {special : Bool} {text : String} (other : kept text ≠ ['.', '.']) :
    isAbove (segmentOf special text) = false := by
  refine Bool.eq_false_iff.2 fun above => other ?_
  rw [← decode_segmentOf special, decode_of_isAbove above]

/-! ### Appending segments -/

/-- The segments in front of a new one; those of a path that is a single slash do not count. -/
def closed (segments : List (List Char)) : List (List Char) :=
  if segments = [[]] then [] else segments

/-- The segments of a path to which further ones are appended: one empty last one is dropped. -/
def stem (segments : List (List Char)) : List (List Char) :=
  closed (dropEmptyLast segments)

/-- Only slashes at the end of a path are dropped. -/
theorem renderSegments_stem (segments : List (List Char)) :
    ∃ slashes, renderSegments segments = renderSegments (stem segments) ++ slashes ∧
      ∀ c ∈ slashes, c = '/' := by
  have closing (segments : List (List Char)) : ∃ slashes,
      renderSegments segments = renderSegments (closed segments) ++ slashes ∧
        ∀ c ∈ slashes, c = '/' := by
    unfold closed
    split_ifs with root
    · exact ⟨['/'], by rw [root]; rfl, by simp⟩
    · exact ⟨[], (List.append_nil _).symm, by simp⟩
  obtain ⟨slashes, same, every⟩ := closing (dropEmptyLast segments)
  rw [stem]
  by_cases dropped : segments.length > 1 ∧ segments.getLast? = some []
  · obtain ⟨before, rfl⟩ := List.getLast?_eq_some_iff.1 dropped.2
    rw [dropEmptyLast, if_pos dropped, List.dropLast_concat] at same ⊢
    refine ⟨slashes ++ ['/'], ?_, ?_⟩
    · rw [renderSegments_append, same, List.append_assoc]
      rfl
    · intro c member
      rcases List.mem_append.1 member with member | member
      · exact every c member
      · exact List.mem_singleton.1 member
  · rw [dropEmptyLast, if_neg dropped] at same ⊢
    exact ⟨slashes, same, every⟩

theorem dropLast_openLast (segments : List (List Char)) :
    (openLast segments).dropLast = closed segments := by
  unfold openLast closed
  split_ifs with root
  · rw [root]
    rfl
  · exact List.dropLast_concat

section Push

variable {special : Bool}

/-- A text that names no level is appended as a segment. -/
theorem pushSegment_eq {text : String} (plain : ¬ isPoints text) :
    pushSegment special false segments text = closed segments ++ [segmentOf special text] := by
  have plain := not_or.1 plain
  have one : text ≠ "." := by
    rintro rfl
    exact plain.1 (by decide)
  have two : text ≠ ".." := by
    rintro rfl
    exact plain.2 (by decide)
  rw [pushSegment, if_neg (not_or.2 ⟨one, two⟩)]
  change fillLast false (openLast segments) (segmentOf special text) = _
  rw [fillLast, isAbove_segmentOf plain.2, isHere_segmentOf plain.1, ← dropLast_openLast]
  rfl

theorem closed_ne_nil_iff {segments : List (List Char)} :
    closed segments ≠ [] ↔ segments ≠ [] ∧ segments ≠ [[]] := by
  unfold closed
  split_ifs with root
  · simp [root]
  · simp [root]

theorem closed_eq {segments : List (List Char)} (filled : closed segments ≠ []) :
    closed segments = segments :=
  if_neg (closed_ne_nil_iff.1 filled).2

/-- What follows a filled path is filled. -/
theorem closed_ne_nil_of_below {segments longer : List (List Char)} (filled : closed segments ≠ [])
    (below : segments <+: longer) : closed longer ≠ [] := by
  obtain ⟨some, other⟩ := closed_ne_nil_iff.1 filled
  refine closed_ne_nil_iff.2 ⟨?_, ?_⟩
  · rintro rfl
    exact some (List.prefix_nil.1 below)
  · rintro rfl
    rcases List.prefix_cons_iff.1 below with none | ⟨rest, rfl, nothing⟩
    · exact some none
    · exact other (congrArg _ (List.prefix_nil.1 nothing))

/-- Behind a segment, texts that name no level are appended as segments, one after another. -/
theorem foldl_pushSegment_of_filled {texts : List String} (plain : ∀ text ∈ texts, ¬ isPoints text)
    (filled : closed segments ≠ []) :
    texts.foldl (pushSegment special false) segments =
      segments ++ texts.map (segmentOf special) := by
  induction texts generalizing segments with
  | nil => rw [List.foldl_nil, List.map_nil, List.append_nil]
  | cons text rest ih =>
    have pushed :
        pushSegment special false segments text = segments ++ [segmentOf special text] := by
      rw [pushSegment_eq (plain text List.mem_cons_self), closed_eq filled]
    have grown : closed (segments ++ [segmentOf special text]) ≠ [] :=
      closed_ne_nil_of_below filled (List.prefix_append _ _)
    rw [List.foldl_cons, pushed,
      ih (fun later member => plain later (List.mem_cons_of_mem text member)) grown,
      List.append_assoc, List.map_cons]
    rfl

/-- Of some texts, those that show behind the segments in front of them.  Behind a single slash an
empty text is lost as soon as another one follows, and without any other text the slash stays. -/
def shown (segments : List (List Char)) (texts : List String) : List String :=
  if segments = [] then
    match texts.dropWhile fun text => (kept text).isEmpty with
    | [] => [""]
    | visible => visible
  else texts

theorem shown_of_ne_nil (some : segments ≠ []) (texts : List String) :
    shown segments texts = texts :=
  if_neg some

/-- Nothing is lost behind a text that shows itself. -/
theorem shown_of_first {first : String} (visible : kept first ≠ []) (rest : List String) :
    shown segments (first :: rest) = first :: rest := by
  unfold shown
  rw [List.dropWhile_cons_of_neg (by simpa using visible)]
  exact ite_self _

theorem mem_of_mem_shown {texts : List String} {text : String}
    (member : text ∈ shown segments texts) : text ∈ texts ∨ text = "" := by
  unfold shown at member
  split at member
  · split at member
    · exact .inr (List.mem_singleton.1 member)
    · exact .inl ((List.dropWhile_sublist _).subset member)
  · exact .inl member

/-- Behind a single slash, the first text that shows is appended as a segment, and so are those
behind it. -/
theorem foldl_pushSegment_of_closed {texts : List String} (plain : ∀ text ∈ texts, ¬ isPoints text)
    (bare : closed segments = []) (some : segments ≠ [] ∨ texts ≠ []) :
    texts.foldl (pushSegment special false) segments =
      (shown [] texts).map (segmentOf special) := by
  have blank (text : String) (lost : kept text = []) : segmentOf special text = [] := by
    rw [segmentOf, lost]
    rfl
  induction texts generalizing segments with
  | nil =>
    have root : segments = [[]] := by
      by_contra other
      exact closed_ne_nil_iff.2 ⟨some.resolve_right (· rfl), other⟩ bare
    rw [root]
    exact congrArg (List.cons · []) (blank "" rfl).symm
  | cons text rest ih =>
    have pushed : pushSegment special false segments text = [segmentOf special text] := by
      rw [pushSegment_eq (plain text List.mem_cons_self), bare, List.nil_append]
    have later : ∀ other ∈ rest, ¬ isPoints other :=
      fun other member => plain other (List.mem_cons_of_mem text member)
    rw [List.foldl_cons, pushed]
    by_cases lost : kept text = []
    · have skipped : shown [] (text :: rest) = shown [] rest := by
        unfold shown
        rw [List.dropWhile_cons_of_pos (by simpa using lost), if_pos rfl, if_pos rfl]
      rw [blank text lost, ih later rfl (.inl (List.cons_ne_nil _ _)), skipped]
    · have filled : closed [segmentOf special text] ≠ [] := by
        refine closed_ne_nil_iff.2 ⟨List.cons_ne_nil _ _, fun root => lost ?_⟩
        rw [← decode_segmentOf special, (List.cons.inj root).1]
        rfl
      rw [foldl_pushSegment_of_filled later filled, shown_of_first lost]
      rfl

/-- Texts that name no level are appended as segments, one after another. -/
theorem foldl_pushSegment {texts : List String} (plain : ∀ text ∈ texts, ¬ isPoints text)
    (some : segments ≠ [] ∨ texts ≠ []) :
    texts.foldl (pushSegment special false) segments =
      closed segments ++ (shown (closed segments) texts).map (segmentOf special) := by
  by_cases bare : closed segments = []
  · rw [foldl_pushSegment_of_closed plain bare some, bare, List.nil_append]
  · rw [foldl_pushSegment_of_filled plain bare, shown_of_ne_nil bare, closed_eq bare]

theorem dropEmptyLast_ne_nil (some : segments ≠ []) : dropEmptyLast segments ≠ [] := by
  unfold dropEmptyLast
  split_ifs with long
  · exact List.ne_nil_of_length_pos (by rw [List.length_dropLast]; omega)
  · exact some

/-- The path of an extended URL. -/
theorem extend_eq {path : List (List Char)} {texts : List String} (leads : url.path = .inl path)
    (remote : isFile url.scheme = false) (plain : ∀ text ∈ texts, ¬ isPoints text)
    (some : path ≠ []) :
    url.extend texts =
      { url with
        path := .inl (stem path ++
          (shown (stem path) texts).map (segmentOf (isSpecial url.scheme))) } := by
  rw [extend, leads]
  dsimp only
  rw [remote, foldl_pushSegment plain (.inl (dropEmptyLast_ne_nil some)), stem]

/-- Right behind the host an empty text in front is lost. -/
theorem extend_blank {path : List (List Char)} (leads : url.path = .inl path)
    (remote : isFile url.scheme = false) (some : path ≠ []) (bare : stem path = [])
    (texts : List String) : url.extend ("" :: texts) = url.extend texts := by
  have root : dropEmptyLast path = [[]] := by
    by_contra other
    exact closed_ne_nil_iff.2 ⟨dropEmptyLast_ne_nil some, other⟩ bare
  have pushed : pushSegment (isSpecial url.scheme) false [[]] "" = [[]] :=
    pushSegment_eq (by decide)
  rw [extend, extend, leads]
  dsimp only
  rw [remote, root, List.foldl_cons, pushed]

/-! ### Staying below a path -/

/-- Whether a text leads one level up: two points that stand alone only once tabs and line ends are
dropped.  Two points as they are written are passed over. -/
def climbs (text : String) : Prop :=
  kept text = ['.', '.'] ∧ text ≠ ".."

instance (text : String) : Decidable (climbs text) :=
  inferInstanceAs (Decidable (_ ∧ _))

/-- A text that does not climb leaves the segments that are there. -/
theorem prefix_pushSegment {text : String} (stays : ¬ climbs text) (filled : closed segments ≠ []) :
    segments <+: pushSegment special false segments text := by
  by_cases points : isPoints text
  · by_cases literal : text = "." ∨ text = ".."
    · have passed : pushSegment special false segments text = segments := if_pos literal
      exact ⟨[], (List.append_nil segments).trans passed.symm⟩
    · have here : kept text = ['.'] :=
        points.resolve_right fun two => stays ⟨two, fun same => literal (.inr same)⟩
      have opened : pushSegment special false segments text = openLast segments := by
        rw [pushSegment, if_neg literal]
        change fillLast false (openLast segments)
          (Percent.encode (segmentSet special) (kept text)) = _
        rw [here]
        cases special <;> rfl
      rw [opened, openLast]
      split_ifs with root
      · exact List.prefix_rfl
      · exact List.prefix_append _ _
  · rw [pushSegment_eq points, closed_eq filled]
    exact List.prefix_append _ _

/-- Texts that do not climb leave the segments that are there. -/
theorem prefix_foldl_pushSegment {texts : List String} (stay : ∀ text ∈ texts, ¬ climbs text)
    (filled : closed segments ≠ []) :
    segments <+: texts.foldl (pushSegment special false) segments := by
  induction texts generalizing segments with
  | nil => exact List.prefix_rfl
  | cons text rest ih =>
    have below : segments <+: pushSegment special false segments text :=
      prefix_pushSegment (stay text List.mem_cons_self) filled
    exact below.trans (ih (fun later member => stay later (List.mem_cons_of_mem text member))
      (closed_ne_nil_of_below filled below))

/-- Texts that do not climb lead below the segments that are there, as soon as one of them names no
level. -/
theorem foldl_pushSegment_below {texts : List String} (stay : ∀ text ∈ texts, ¬ climbs text)
    (filled : closed segments ≠ []) (moves : ∃ text ∈ texts, ¬ isPoints text) :
    ∃ more, more ≠ [] ∧ texts.foldl (pushSegment special false) segments = segments ++ more := by
  induction texts generalizing segments with
  | nil => simp at moves
  | cons text rest ih =>
    have later : ∀ text ∈ rest, ¬ climbs text :=
      fun other member => stay other (List.mem_cons_of_mem text member)
    by_cases points : isPoints text
    · have grows : segments <+: pushSegment special false segments text :=
        prefix_pushSegment (stay text List.mem_cons_self) filled
      obtain ⟨first, same⟩ := grows
      have moves : ∃ text ∈ rest, ¬ isPoints text := by
        obtain ⟨other, member, plain⟩ := moves
        rcases List.mem_cons.1 member with rfl | member
        · exact absurd points plain
        · exact ⟨other, member, plain⟩
      obtain ⟨more, some, grown⟩ := ih later
        (closed_ne_nil_of_below filled (List.prefix_append segments first)) moves
      refine ⟨first ++ more, List.append_ne_nil_of_right_ne_nil first some, ?_⟩
      rw [List.foldl_cons, ← same, grown, List.append_assoc]
    · have pushed :
          pushSegment special false segments text = segments ++ [segmentOf special text] := by
        rw [pushSegment_eq points, closed_eq filled]
      have grows : segments ++ [segmentOf special text] <+: rest.foldl (pushSegment special false)
          (segments ++ [segmentOf special text]) :=
        prefix_foldl_pushSegment later
          (closed_ne_nil_of_below filled (List.prefix_append segments [segmentOf special text]))
      obtain ⟨more, grown⟩ := grows
      refine ⟨segmentOf special text :: more, List.cons_ne_nil _ _, ?_⟩
      rw [List.foldl_cons, pushed, ← grown, List.append_assoc]
      rfl

end Push

/-! ### Query pairs -/

/-- The pairs of the query of a URL. -/
def pairs (url : Url) : List (String × String) :=
  Form.decode (url.query.getD [])

/-- The pairs of a query that was extended: those that it had, and then the new ones. -/
theorem pairs_withPairs (more : List (String × String)) :
    (url.withPairs more).pairs = url.pairs ++ more := by
  unfold withPairs pairs
  cases none : more.isEmpty with
  | true =>
    rw [List.isEmpty_iff.1 none, List.append_nil, if_pos rfl]
  | false =>
    rw [if_neg Bool.false_ne_true]
    dsimp only
    rcases url.query with _ | _ | ⟨c, rest⟩
    · exact Form.decode_encode more
    · exact Form.decode_encode more
    · show Form.decode (c :: rest ++ '&' :: Form.encode more) = _
      rw [Form.decode_append, Form.decode_encode]
      rfl

end RealmLookup.Url
