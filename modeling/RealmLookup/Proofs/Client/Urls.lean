import RealmLookup.Proofs.Client.Requests
import RealmLookup.Proofs.Url.Parser

/-!
# The URLs of a client

A URL that a client builds shows the path segments and query pairs that it was built of, however
they are spelled.  Only tabs, line ends and texts that are one or two points are lost.  Right behind
the host empty texts in front are lost as well, but the path of a resource or of a token starts with
a name.

## Main definitions

* `Url.Plain` : texts that a path shows as they are.
* `Url.filledPieces` : the pieces of a path, without an empty last one.
* `Client.Shows` : what the URL of segments and pairs shows of them.
* `Client.Whole` : the lists of segments of which nothing is lost.
* `Client.Faithful` : what the URLs that a client builds tell of what they were built of.

## Main results

* `Client.hierarchical_of_build` : the base URL of a client keeps its segments apart.
* `Client.url_eq` : the path of a URL below the base URL.
* `Client.path_url`, `Client.resourceUrl_below` : the names that the path of a URL begins with.
* `Client.url_faithful` : a URL shows all segments and pairs, and so no other ones have it, but for
  empty texts right behind the host.
* `Client.not_shows_blank_nor_escape` : an empty text right behind the host does not show.
-/

namespace RealmLookup

open RealmLookup.Url

namespace Url

/-! ### Pieces of paths -/

/-- Texts that a path shows as they are. -/
structure Plain (text : String) : Prop where
  here : text ≠ "."
  above : text ≠ ".."
  tab : '\t' ∉ text.toList
  feed : '\n' ∉ text.toList
  carriage : '\r' ∉ text.toList

instance (text : String) : Decidable (Plain text) :=
  decidable_of_iff
    (text ≠ "." ∧ text ≠ ".." ∧ '\t' ∉ text.toList ∧ '\n' ∉ text.toList ∧ '\r' ∉ text.toList)
    ⟨fun ⟨here, above, tab, feed, carriage⟩ => ⟨here, above, tab, feed, carriage⟩,
      fun ⟨here, above, tab, feed, carriage⟩ => ⟨here, above, tab, feed, carriage⟩⟩

variable {url : Url} {segments : List (List Char)}

theorem Plain.kept_eq {text : String} (plain : Plain text) : kept text = text.toList := by
  refine kept_of_plain fun c member => ?_
  have tab : c ≠ '\t' := fun same => plain.tab (same ▸ member)
  have feed : c ≠ '\n' := fun same => plain.feed (same ▸ member)
  have carriage : c ≠ '\r' := fun same => plain.carriage (same ▸ member)
  simp [isDropped, tab, feed, carriage]

theorem Plain.not_isPoints {text : String} (plain : Plain text) : ¬ isPoints text := by
  rw [isPoints, plain.kept_eq]
  rintro (one | two)
  · exact plain.here (String.toList_inj.1 one)
  · exact plain.above (String.toList_inj.1 two)

theorem plain_of_mem_shown {texts : List String} (plain : ∀ text ∈ texts, Plain text) :
    ∀ text ∈ shown segments texts, Plain text := by
  intro text member
  rcases mem_of_mem_shown member with member | rfl
  · exact plain text member
  · decide

theorem map_kept_of_plain {texts : List String} (plain : ∀ text ∈ texts, Plain text) :
    texts.map kept = texts.map String.toList :=
  List.map_congr_left fun text member => (plain text member).kept_eq

theorem shown_of_plain {first : String} (plain : Plain first) (visible : first ≠ "")
    (rest : List String) : shown segments (first :: rest) = first :: rest := by
  refine shown_of_first (fun lost => visible ?_) rest
  rw [plain.kept_eq] at lost
  exact String.toList_eq_nil_iff.1 lost

/-- The pieces of a path, without an empty last one. -/
def filledPieces (url : Url) : List (List Char) :=
  if url.pieces.getLast? = some [] then url.pieces.dropLast else url.pieces

/-- Where no piece but the last one is empty, new segments follow the other ones. -/
theorem stem_eq_filledPieces (laid : url.Hierarchical segments)
    (filled : [] ∉ url.pieces.dropLast) : stem segments = url.filledPieces := by
  have whole {pieces : List (List Char)} (none : [] ∉ pieces) : closed pieces = pieces := by
    refine if_neg ?_
    rintro rfl
    exact none List.mem_cons_self
  rw [filledPieces, stem, laid.pieces_eq]
  rw [laid.pieces_eq] at filled
  rcases segments.eq_nil_or_concat with rfl | ⟨before, last, rfl⟩
  · rfl
  rw [List.concat_eq_append] at filled ⊢
  rw [List.dropLast_concat] at filled
  rw [List.getLast?_concat, List.dropLast_concat, dropEmptyLast, List.getLast?_concat,
    List.dropLast_concat]
  by_cases blank : last = []
  · rw [if_pos (congrArg some blank)]
    split_ifs with long
    · exact whole filled
    · have none : before = [] := by
        simpa [blank, List.length_eq_zero_iff] using long
      rw [none, blank]
      rfl
  · have other : some last ≠ some [] := fun same => blank (Option.some.inj same)
    rw [if_neg other, if_neg fun long => other long.2]
    refine whole fun member => ?_
    rcases List.mem_append.1 member with member | member
    · exact filled member
    · exact blank (List.mem_singleton.1 member).symm

theorem mem_of_mem_stem {segment : List Char} (member : segment ∈ stem segments) :
    segment ∈ segments := by
  have listed : segment ∈ dropEmptyLast segments := by
    unfold stem closed at member
    split_ifs at member
    · cases member
    · exact member
  unfold dropEmptyLast at listed
  split_ifs at listed
  · exact List.dropLast_subset _ listed
  · exact listed

/-- Further segments keep apart from those of a URL. -/
theorem Hierarchical.extended {path : List (List Char)} (laid : url.Hierarchical path)
    (texts : List String) (special : Bool) (query : Option (List Char)) :
    Hierarchical
      { url with path := .inl (stem path ++ texts.map (segmentOf special)), query := query }
      (stem path ++ texts.map (segmentOf special)) where
  path := rfl
  host := laid.host
  slash segment member := by
    rcases List.mem_append.1 member with member | member
    · exact laid.slash segment (mem_of_mem_stem member)
    · obtain ⟨text, -, rfl⟩ := List.mem_map.1 member
      exact slash_not_mem_segmentOf special text
  mark segment member := by
    rcases List.mem_append.1 member with member | member
    · exact laid.mark segment (mem_of_mem_stem member)
    · obtain ⟨text, -, rfl⟩ := List.mem_map.1 member
      exact mark_not_mem_segmentOf special text

theorem Hierarchical.target (laid : url.Hierarchical segments) :
    url.target.Hierarchical segments :=
  ⟨laid.path, laid.host, laid.slash, laid.mark⟩

theorem withPairs_eq (url : Url) (more : List (String × String)) :
    url.withPairs more = { url with query := (url.withPairs more).query } := by
  unfold withPairs
  split_ifs <;> rfl

end Url

namespace Client

variable {config : Config} {client : Client}

/-! ### The base URL -/

theorem parse_of_build (built : build config = .ok client) :
    Url.parse config.serverUrl.toList = .ok client.base :=
  (builtFrom_of_build built).base

/-- Requests are sent by schemes whose URLs have hosts. -/
theorem schemes_of_canSend (opened : client.canSend = true) :
    isSpecial client.base.scheme = true ∧ isFile client.base.scheme = false := by
  have listed : String.ofList client.base.scheme ∈ sendableSchemes := List.contains_iff_mem.1 opened
  have every : ∀ scheme ∈ sendableSchemes,
      isSpecial scheme.toList = true ∧ isFile scheme.toList = false := by
    decide
  simpa using every _ listed

/-- The base URL of a client keeps its segments apart, if anything can be sent to it. -/
theorem hierarchical_of_build (built : build config = .ok client)
    (opened : client.canSend = true) :
    ∃ segments, segments ≠ [] ∧ client.base.Hierarchical segments :=
  let ⟨special, remote⟩ := schemes_of_canSend opened
  parse_hierarchical (parse_of_build built) special remote

/-! ### URLs below the base URL -/

theorem pairs_url (args : List String) (pairs : List (String × String)) :
    (client.url args pairs).pairs = client.base.pairs ++ pairs := by
  have same : (client.base.extend args).pairs = client.base.pairs := by
    unfold extend
    split <;> rfl
  rw [url, pairs_withPairs, same]

section Below

variable {path : List (List Char)} (laid : client.base.Hierarchical path)
  (opened : client.canSend = true) (some : path ≠ [])
include laid opened some

/-- The path of a URL below the base URL. -/
theorem url_eq {args : List String} (plain : ∀ text ∈ args, ¬ isPoints text)
    (pairs : List (String × String)) :
    client.url args pairs =
      { client.base with
        path := .inl (stem path ++ (shown (stem path) args).map (segmentOf true))
        query := (client.url args pairs).query } := by
  obtain ⟨special, remote⟩ := schemes_of_canSend opened
  have extended := extend_eq laid.path remote plain some
  rw [special] at extended
  rw [url, withPairs_eq, extended]

/-- A URL below the base URL has the pieces of its path and those of its segments. -/
theorem pieces_url {args : List String} (plain : ∀ text ∈ args, ¬ isPoints text)
    (pairs : List (String × String)) :
    (client.url args pairs).pieces =
      stem path ++ (shown (stem path) args).map (segmentOf true) := by
  rw [url_eq laid opened some plain pairs]
  exact (laid.extended (shown (stem path) args) true _).pieces_eq

/-- URLs below the base URL are written alike only if they show the same segments, as far as these
are kept, and have the same pairs. -/
theorem url_inj {args other : List String} {pairs more : List (String × String)}
    (plain : ∀ text ∈ args, ¬ isPoints text) (honest : ∀ text ∈ other, ¬ isPoints text)
    (same : (client.url args pairs).text = (client.url other more).text ∨
      (client.url args pairs).target.text = (client.url other more).target.text) :
    (shown (stem path) args).map kept = (shown (stem path) other).map kept ∧ pairs = more := by
  have apart : stem path ++ (shown (stem path) args).map (segmentOf true) =
      stem path ++ (shown (stem path) other).map (segmentOf true) ∧
        (client.url args pairs).query = (client.url other more).query := by
    rw [url_eq laid opened some plain pairs, url_eq laid opened some honest more] at same
    rcases same with same | same
    · exact render_inj (laid.extended _ true _) (laid.extended _ true _)
        (String.ofList_inj.1 same)
    · have first := laid.target.extended (shown (stem path) args) true (client.url args pairs).query
      exact render_inj first (laid.target.extended (shown (stem path) other) true _)
        (String.ofList_inj.1 same)
  constructor
  · have decoded := congrArg (List.map Percent.decode) (List.append_cancel_left apart.1)
    simpa [Function.comp_def, decode_segmentOf] using decoded
  · have read : (client.url args pairs).pairs = (client.url other more).pairs := by
      rw [Url.pairs, apart.2, Url.pairs]
    rw [pairs_url, pairs_url] at read
    exact List.append_cancel_left read

/-- What is dropped of segments does not show in a URL. -/
theorem url_congr {args other : List String} (plain : ∀ text ∈ args, ¬ isPoints text)
    (honest : ∀ text ∈ other, ¬ isPoints text) (pairs : List (String × String))
    (same : (shown (stem path) args).map kept = (shown (stem path) other).map kept) :
    client.url args pairs = client.url other pairs := by
  have encoded (texts : List String) : texts.map (segmentOf true) =
      (texts.map kept).map (Percent.encode (segmentSet true)) := List.map_map.symm
  obtain ⟨special, remote⟩ := schemes_of_canSend opened
  rw [url, url, extend_eq laid.path remote plain some, extend_eq laid.path remote honest some,
    special, encoded, encoded, same]

end Below

/-! ### Staying below the base URL -/

section Paths

variable {path : List (List Char)} (remote : isFile client.base.scheme = false)
include remote

/-- Behind the path of the base URL, the path of a URL shows the names that it begins with, unless
a text behind them climbs. -/
theorem path_url (leads : client.base.path = .inl path) {first : String} {names args : List String}
    (visible : kept first ≠ []) (plain : ∀ text ∈ first :: names, ¬ isPoints text)
    (stay : ∀ text ∈ args, ¬ climbs text) (moves : ∃ text ∈ args, ¬ isPoints text)
    (pairs : List (String × String)) :
    ∃ more, more ≠ [] ∧ (client.url (first :: names ++ args) pairs).path =
      .inl (stem path ++ (first :: names).map (segmentOf (isSpecial client.base.scheme)) ++
        more) := by
  let push := pushSegment (isSpecial client.base.scheme) false
  let root := stem path ++ (first :: names).map (segmentOf (isSpecial client.base.scheme))
  have named : (first :: names).foldl push (dropEmptyLast path) = root := by
    refine (foldl_pushSegment plain (.inr (List.cons_ne_nil _ _))).trans ?_
    rw [shown_of_first visible]
    rfl
  have written : segmentOf (isSpecial client.base.scheme) first ≠ [] :=
    Percent.encode_ne_nil _ visible
  have filled : closed root ≠ [] := by
    refine closed_ne_nil_iff.2 ⟨by simp [root], fun single => written ?_⟩
    have member : segmentOf (isSpecial client.base.scheme) first ∈ root :=
      List.mem_append_right _ List.mem_cons_self
    rw [single] at member
    exact List.mem_singleton.1 member
  obtain ⟨more, some, below⟩ := foldl_pushSegment_below stay filled moves
  refine ⟨more, some, ?_⟩
  rw [url, withPairs_eq, extend, leads]
  dsimp only
  rw [remote, List.foldl_append, ← below, ← named]

/-- Behind the path of the base URL, the path of a resource begins with the realms of the admin API,
unless a part of it climbs. -/
theorem path_resourceUrl (leads : client.base.path = .inl path) {resource : Admin.Resource}
    (stay : ∀ text ∈ resource.path, ¬ climbs text)
    (moves : ∃ text ∈ resource.segments, ¬ isPoints text) :
    ∃ more, more ≠ [] ∧ (client.resourceUrl resource).path =
      .inl (stem path ++ ["admin".toList, "realms".toList] ++ more) := by
  have behind : ∀ text ∈ resource.realm :: resource.segments, ¬ climbs text := fun text member =>
    stay text (List.mem_cons_of_mem _ (List.mem_cons_of_mem _ member))
  obtain ⟨text, member, plain⟩ := moves
  obtain ⟨more, some, below⟩ := path_url remote leads (by decide : kept "admin" ≠ [])
    (by decide : ∀ text ∈ ["admin", "realms"], ¬ isPoints text) behind
    ⟨text, List.mem_cons_of_mem _ member, plain⟩ resource.query
  refine ⟨more, some, below.trans ?_⟩
  cases isSpecial client.base.scheme <;> rfl

end Paths

/-- The URL of a resource lies below the realms of the admin API, unless a part of it climbs. -/
theorem resourceUrl_below {path : List (List Char)} (laid : client.base.Hierarchical path)
    (remote : isFile client.base.scheme = false) {resource : Admin.Resource}
    (stay : ∀ text ∈ resource.path, ¬ climbs text)
    (moves : ∃ text ∈ resource.segments, ¬ isPoints text) :
    ∃ root slashes more, client.base.renderPath = root ++ slashes ∧ (∀ c ∈ slashes, c = '/') ∧
      (client.resourceUrl resource).target.renderPath =
        root ++ "/admin/realms/".toList ++ more := by
  obtain ⟨more, some, leads⟩ := path_resourceUrl remote laid.path stay moves
  obtain ⟨slashes, same, every⟩ := renderSegments_stem path
  obtain ⟨first, rest, rfl⟩ := List.exists_cons_of_ne_nil some
  have host : (client.resourceUrl resource).target.host.isSome = true := by
    rw [resourceUrl, url, withPairs_eq, extend, laid.path]
    exact laid.host
  refine ⟨renderSegments (stem path), slashes, first ++ renderSegments rest, ?_, every, ?_⟩
  · rw [laid.renderPath_eq, same]
  · rw [renderPath_of_host host leads, renderSegments_append, renderSegments_append]
    simp [renderSegments]

/-! ### What a URL shows -/

/-- What the URL of segments and pairs shows of them, and of the base URL. -/
structure Shows (client : Client) (args : List String) (pairs : List (String × String))
    (url : Url) : Prop where
  scheme : url.scheme = client.base.scheme
  host : url.host = client.base.host
  port : url.port = client.base.port
  pieces : url.pieces.map Percent.decode =
    client.base.filledPieces.map Percent.decode ++ args.map String.toList
  pairs : url.pairs = client.base.pairs ++ pairs

/-- Whether two URLs are the same, as they are written or as they are sent. -/
def Alike (url other : Url) : Prop :=
  url.text = other.text ∨ url.target.text = other.target.text

/-- The lists of segments of which nothing is lost: behind a path all of them, and right behind the
host those that begin with a text that is not empty. -/
def Whole (client : Client) (args : List String) : Prop :=
  client.base.filledPieces ≠ [] ∨ ∃ first ∈ args.head?, first ≠ ""

/-- What the URLs that a client builds tell of the segments and pairs that they were built of.  The
URLs of resources and tokens begin with a name, so nothing of them is lost, whatever the realm, the
other segments and the pairs are.  Of other lists of segments empty texts in front are lost right
behind the host. -/
structure Faithful (client : Client) : Prop where
  lists : ∀ args pairs, (∀ text ∈ args, Plain text) → client.Whole args →
    client.Shows args pairs (client.url args pairs)
  lists_apart : ∀ args pairs other more, (∀ text ∈ args, Plain text) →
    (∀ text ∈ other, Plain text) → client.Whole args → client.Whole other →
      Alike (client.url args pairs) (client.url other more) → args = other ∧ pairs = more
  resources : ∀ resource : Admin.Resource, (∀ text ∈ resource.path, Plain text) →
    client.Shows resource.path resource.query (client.resourceUrl resource)
  apart : ∀ resource other : Admin.Resource, (∀ text ∈ resource.path, Plain text) →
    (∀ text ∈ other.path, Plain text) →
      Alike (client.resourceUrl resource) (client.resourceUrl other) → resource = other
  token : Plain client.realm →
    client.Shows ["realms", client.realm, "protocol", "openid-connect", "token"] [] client.tokenUrl
  /-- Right behind the host an empty text in front is lost. -/
  blank : client.base.filledPieces = [] → ∀ args pairs,
    client.url ("" :: args) pairs = client.url args pairs
  /-- Right behind the host the path of no segments shows an empty one. -/
  bare : client.base.filledPieces = [] → ∀ pairs, client.Shows [""] pairs (client.url [] pairs)

/-- Nothing of a list is lost that begins with a text, or stands behind a path. -/
theorem Whole.shown_eq {args : List String} (whole : client.Whole args)
    (plain : ∀ text ∈ args, Plain text) : shown client.base.filledPieces args = args := by
  rcases whole with filled | ⟨first, head, visible⟩
  · exact shown_of_ne_nil filled args
  · obtain ⟨rest, rfl⟩ := List.head?_eq_some_iff.1 head
    exact shown_of_plain (plain first List.mem_cons_self) visible rest

theorem whole_cons {first : String} (visible : first ≠ "") (rest : List String) :
    client.Whole (first :: rest) :=
  .inr ⟨first, rfl, visible⟩

section Paths

variable {path : List (List Char)} (laid : client.base.Hierarchical path)
  (opened : client.canSend = true) (some : path ≠ []) {args other : List String}
include laid opened some

theorem shows_url (filled : [] ∉ client.base.pieces.dropLast) (plain : ∀ text ∈ args, Plain text)
    (pairs : List (String × String)) :
    client.Shows (shown (stem path) args) pairs (client.url args pairs) := by
  have moves : ∀ text ∈ args, ¬ isPoints text := fun text member => (plain text member).not_isPoints
  have below := url_eq laid opened some moves pairs
  refine ⟨by rw [below], by rw [below], by rw [below], ?_, pairs_url args pairs⟩
  rw [pieces_url laid opened some moves, List.map_append, stem_eq_filledPieces laid filled,
    List.map_map, ← map_kept_of_plain (plain_of_mem_shown plain)]
  exact congrArg _ (List.map_congr_left fun text _ => decode_segmentOf true text)

theorem shown_of_alike (plain : ∀ text ∈ args, Plain text) (honest : ∀ text ∈ other, Plain text)
    {pairs more : List (String × String)}
    (alike : Alike (client.url args pairs) (client.url other more)) :
    shown (stem path) args = shown (stem path) other ∧ pairs = more := by
  obtain ⟨texts, rfl⟩ := url_inj laid opened some
    (fun text member => (plain text member).not_isPoints)
    (fun text member => (honest text member).not_isPoints) alike
  rw [map_kept_of_plain (plain_of_mem_shown plain),
    map_kept_of_plain (plain_of_mem_shown honest)] at texts
  exact ⟨(List.map_inj_right fun _ _ => String.toList_inj.1).1 texts, rfl⟩

/-- The URL of a whole list shows it. -/
theorem shows_of_whole (filled : [] ∉ client.base.pieces.dropLast)
    (plain : ∀ text ∈ args, Plain text) (whole : client.Whole args)
    (pairs : List (String × String)) : client.Shows args pairs (client.url args pairs) := by
  have shows := shows_url laid opened some filled plain pairs
  rwa [stem_eq_filledPieces laid filled, whole.shown_eq plain] at shows

/-- Whole lists have the same URL only if they are the same. -/
theorem eq_of_alike (filled : [] ∉ client.base.pieces.dropLast)
    (plain : ∀ text ∈ args, Plain text) (honest : ∀ text ∈ other, Plain text)
    (whole : client.Whole args) (complete : client.Whole other)
    {pairs more : List (String × String)}
    (alike : Alike (client.url args pairs) (client.url other more)) :
    args = other ∧ pairs = more := by
  have same := shown_of_alike laid opened some plain honest alike
  rwa [stem_eq_filledPieces laid filled, whole.shown_eq plain, complete.shown_eq honest] at same

end Paths

/-- The URLs that a client builds show the segments and pairs that they were built of, and no other
ones have the same URL, but for empty segments right behind the host. -/
theorem url_faithful (built : build config = .ok client) (opened : client.canSend = true)
    (filled : [] ∉ client.base.pieces.dropLast) : client.Faithful := by
  obtain ⟨path, some, laid⟩ := hierarchical_of_build built opened
  have root := stem_eq_filledPieces laid filled
  have administrative (resource : Admin.Resource) : client.Whole resource.path :=
    whole_cons (by decide : "admin" ≠ "") _
  refine ⟨fun args pairs plain whole => shows_of_whole laid opened some filled plain whole pairs,
    fun args pairs other more plain honest whole complete =>
      eq_of_alike laid opened some filled plain honest whole complete,
    fun resource plain => shows_of_whole laid opened some filled plain (administrative resource) _,
    fun resource other plain honest alike => ?_, fun plain => ?_, fun bare args pairs => ?_,
    fun bare pairs => ?_⟩
  · obtain ⟨paths, queries⟩ := eq_of_alike laid opened some filled plain honest
      (administrative resource) (administrative other) alike
    obtain ⟨realm, segments, query⟩ := resource
    obtain ⟨rfl, rfl⟩ := List.cons.inj (List.cons.inj (List.cons.inj paths).2).2
    obtain rfl := queries
    rfl
  · have every : ∀ text ∈ ["realms", client.realm, "protocol", "openid-connect", "token"],
        Plain text := by
      simp only [List.forall_mem_cons]
      exact ⟨by decide, plain, by decide, by decide, by decide, List.forall_mem_nil _⟩
    exact shows_of_whole laid opened some filled every (whole_cons (by decide : "realms" ≠ "") _) []
  · have remote := (schemes_of_canSend opened).2
    rw [url, url, extend_blank laid.path remote some (root.trans bare)]
  · have below := shows_url laid opened some filled (List.forall_mem_nil Plain) pairs
    rwa [root.trans bare] at below

/-- Names and a value on the local host, with the signs that separate segments and pairs, and an
empty one. -/
theorem url_faithful_localConfig :
    build localConfig = .ok localClient ∧ localClient.canSend = true ∧
      [] ∉ localClient.base.pieces.dropLast ∧
        localClient.Shows ["a/b", "", "%2F?"] [("c", "d&e")]
          (localClient.url ["a/b", "", "%2F?"] [("c", "d&e")]) ∧
        localClient.Shows ["admin", "realms", "a/b", "%2F?"] [("c", "d&e")]
          (localClient.resourceUrl ⟨"a/b", ["%2F?"], [("c", "d&e")]⟩) := by
  have opened : localClient.canSend = true := by decide
  have filled : [] ∉ localClient.base.pieces.dropLast := by decide
  have faithful : localClient.Faithful := url_faithful build_localConfig opened filled
  exact ⟨build_localConfig, opened, filled,
    faithful.lists ["a/b", "", "%2F?"] [("c", "d&e")] (by decide) (whole_cons (by decide) _),
    faithful.resources ⟨"a/b", ["%2F?"], [("c", "d&e")]⟩ (by decide)⟩

/-- Settings of a server whose path has an escape. -/
def escapedConfig : Config :=
  { localConfig with url := "http://kc.test/a%20b" }

/-- The client of a server whose path has an escape. -/
def escapedClient : Client :=
  { localClient with
    base :=
      { localClient.base with
        host := some (.name ['k', 'c', '.', 't', 'e', 's', 't'])
        port := none
        path := .inl [['a', '%', '2', '0', 'b']] } }

/-- Right behind the host an empty text in front does not show, and two lists have one URL.  Pieces
of the path that are decoded are not those of a base URL with an escape, unless these are decoded
as well. -/
theorem not_shows_blank_nor_escape :
    (build localConfig = .ok localClient ∧ localClient.canSend = true ∧
      [] ∉ localClient.base.pieces.dropLast ∧ (∀ text ∈ ["", "a"], Plain text) ∧
        ¬ localClient.Shows ["", "a"] [] (localClient.url ["", "a"] []) ∧
          localClient.url ["", "a"] [] = localClient.url ["a"] []) ∧
    (build escapedConfig = .ok escapedClient ∧ escapedClient.canSend = true ∧
      [] ∉ escapedClient.base.pieces.dropLast ∧
        (∀ text ∈ ["admin", "realms", "r", "groups", "x"], Plain text) ∧
          (escapedClient.url ["admin", "realms", "r", "groups", "x"] []).pieces.map Percent.decode ≠
            escapedClient.base.filledPieces ++
              ["admin", "realms", "r", "groups", "x"].map String.toList) := by
  refine ⟨⟨build_localConfig, by decide, by decide, by decide, fun shows => ?_, by decide +kernel⟩,
    build_eq_ok (by decide +kernel), by decide, by decide, by decide, by decide +kernel⟩
  exact absurd shows.pieces (by decide +kernel)

end Client

end RealmLookup
