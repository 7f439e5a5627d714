import RealmLookup.Proofs.Client.Urls
import RealmLookup.Proofs.Text.Trimming
import RealmLookup.Proofs.Url.Joining

/-!
# Clients with a base path

Settings with a base path of names give a client that differs from the client without one in the
path of its base URL alone, which ends with the names.  Whatever the client requests lies below the
path of the server, followed by the names.

## Main definitions

* `Config.server`, `Config.withoutBasePath` : the text of the server, and the settings of it alone.
* `Config.HasNames` : base paths of names.
* `Url.Below` : the URLs at a server, below its path and further names.
* `Client.Prefixed` : a client and the one without the base path.

## Main results

* `Config.serverUrl_of_names` : the text that is read as the base URL.
* `Client.build_withoutBasePath` : a client has one without the base path.
* `Client.Prefixed.tokenUrl_below`, `Client.Prefixed.resourceUrl_below` : where its URLs lie.
-/

namespace RealmLookup

open RealmLookup.Text RealmLookup.Url

/-! ### Base paths of names -/

namespace Url

/-- The written path of names is their text, behind a slash. -/
theorem cons_intercalate {names : List (List Char)} (given : names ≠ []) :
    '/' :: List.intercalate ['/'] names = renderSegments names := by
  induction names with
  | nil => exact absurd rfl given
  | cons name rest ih =>
    cases rest with
    | nil => simp [renderSegments]
    | cons next more =>
      rw [renderSegments_cons, ← ih (List.cons_ne_nil _ _), List.intercalate_cons_cons]
      simp

/-- Slashes around a text that neither begins nor ends with one are dropped. -/
theorem trim_slashes {text : List Char} (some : text ≠ []) (starts : ∀ c ∈ text.head?, c ≠ '/')
    (ends : ∀ c ∈ text.getLast?, c ≠ '/') (before after : Nat) :
    trim (· == '/') (List.replicate before '/' ++ text ++ List.replicate after '/') = text := by
  have slashes (count : Nat) : ∀ c ∈ List.replicate count '/', (c == '/') = true :=
    fun c member => beq_iff_eq.2 (List.eq_of_mem_replicate member)
  refine (trim_eq_iff some).2 ⟨⟨fun c first => ?_, fun c last => ?_⟩, _, _, rfl, slashes before,
    slashes after⟩
  · exact beq_eq_false_iff_ne.2 (starts c first)
  · exact beq_eq_false_iff_ne.2 (ends c last)

/-- The text of names begins and ends with signs of names. -/
theorem intercalate_ends {names : List (List Char)} (given : names ≠ [])
    (named : ∀ name ∈ names, IsName name) :
    List.intercalate ['/'] names ≠ [] ∧ (∀ c ∈ (List.intercalate ['/'] names).head?, c ≠ '/') ∧
      ∀ c ∈ (List.intercalate ['/'] names).getLast?, c ≠ '/' := by
  have written := cons_intercalate given
  have plain {name : List Char} (listed : name ∈ names) {c : Char} (member : c ∈ name) : c ≠ '/' :=
    ne_of_isNameSign ((named name listed).2 c member) (by decide)
  have starts : List.intercalate ['/'] names ≠ [] ∧
      ∀ c ∈ (List.intercalate ['/'] names).head?, c ≠ '/' := by
    obtain ⟨first, rest, rfl⟩ := List.exists_cons_of_ne_nil given
    obtain ⟨c, more, rfl⟩ := List.exists_cons_of_ne_nil (named first List.mem_cons_self).1
    have text := (List.cons.inj (written.trans renderSegments_cons)).2
    rw [text]
    refine ⟨List.cons_ne_nil _ _, fun d leads => ?_⟩
    obtain rfl := Option.some.inj leads
    exact plain List.mem_cons_self List.mem_cons_self
  refine ⟨starts.1, starts.2, fun c ends => ?_⟩
  obtain ⟨front, last, rfl⟩ := (List.eq_nil_or_concat names).resolve_left given
  rw [List.concat_eq_append] at written ends plain named
  have listed : last ∈ front ++ [last] := List.mem_append_right _ List.mem_cons_self
  have filled := (named last listed).1
  have same := congrArg List.getLast? written
  rw [renderSegments_concat, List.getLast?_cons, Option.mem_def.1 ends, List.getLast?_append,
    List.getLast?_eq_some_getLast filled] at same
  have sign : c = last.getLast filled := Option.some.inj same
  rw [sign]
  exact plain listed (List.getLast_mem filled)

end Url

/-! ### Settings with a base path -/

namespace Config

/-- The text of the server, without slashes at its end. -/
def server (config : Config) : List Char :=
  trimEnd (· == '/') config.url.toList

/-- The settings of the server alone. -/
def withoutBasePath (config : Config) : Config :=
  { config with basePath := "" }

/-- A base path of names, joined by slashes and with any number of slashes around them. -/
structure HasNames (config : Config) (names : List (List Char)) : Prop where
  given : names ≠ []
  named : ∀ name ∈ names, IsName name
  written : ∃ before after, config.basePath.toList =
    List.replicate before '/' ++ List.intercalate ['/'] names ++ List.replicate after '/'

variable {config : Config} {names : List (List Char)}

theorem serverUrl_withoutBasePath (config : Config) :
    config.withoutBasePath.serverUrl.toList = config.server :=
  String.toList_ofList ..

/-- The names of the base path are written behind the server. -/
theorem serverUrl_of_names (path : config.HasNames names) :
    config.serverUrl.toList = config.server ++ renderSegments names := by
  obtain ⟨before, after, written⟩ := path.written
  obtain ⟨some, starts, ends⟩ := intercalate_ends path.given path.named
  have text : trim (· == '/') config.basePath.toList = List.intercalate ['/'] names := by
    rw [written, trim_slashes some starts ends]
  have filled : (List.intercalate ['/'] names).isEmpty = false := by simpa using some
  unfold serverUrl
  dsimp only
  rw [String.toList_ofList, text, filled, if_neg Bool.false_ne_true, cons_intercalate path.given]
  rfl

end Config

/-! ### URLs below a path and names -/

/-- A URL at the server of another one, with a path that begins with the path of that one, some
names and an entry. -/
structure Url.Below (base : Url) (names : List (List Char)) (entry : String) (url : Url) :
    Prop where
  scheme : url.scheme = base.scheme
  host : url.host = base.host
  port : url.port = base.port
  path : ∃ more, url.renderPath =
    withoutSlash base.renderPath ++ renderSegments names ++ entry.toList ++ more

/-- New segments follow names, as no name is empty. -/
theorem Url.stem_names {names : List (List Char)} (given : names ≠ [])
    (named : ∀ name ∈ names, IsName name) (root : List (List Char)) :
    stem (root ++ names) = root ++ names := by
  obtain ⟨front, last, rfl⟩ := (List.eq_nil_or_concat names).resolve_left given
  rw [List.concat_eq_append] at named ⊢
  have filled : last ≠ [] := (named last (List.mem_append_right _ List.mem_cons_self)).1
  have ends : (root ++ (front ++ [last])).getLast? = some last := by
    rw [← List.append_assoc]
    exact List.getLast?_concat
  have kept : dropEmptyLast (root ++ (front ++ [last])) = root ++ (front ++ [last]) := by
    refine if_neg fun dropped => filled ?_
    exact Option.some.inj (ends.symm.trans dropped.2)
  rw [stem, kept]
  refine if_neg fun single => filled ?_
  rw [single] at ends
  exact (Option.some.inj ends).symm

namespace Client

variable {config : Config} {client alone : Client} {names : List (List Char)}

/-! ### Clients with and without a base path -/

/-- A client whose base URL is that of another one with names at the end of its path. -/
structure Prefixed (client alone : Client) (names : List (List Char)) : Prop where
  given : names ≠ []
  named : ∀ name ∈ names, IsName name
  host : client.base.host.isSome = true
  remote : isFile client.base.scheme = false
  base : ∃ whole root, alone.base = { client.base with path := .inl whole } ∧
    client.base.path = .inl (root ++ names) ∧
      withoutSlash (renderSegments whole) = renderSegments root

/-- Clients of the same settings, up to their base paths, differ in their base URLs alone. -/
theorem build_of_parse (built : build config = .ok client) {base : Url}
    (read : Url.parse config.withoutBasePath.serverUrl.toList = .ok base)
    (opened : base.isBase = true) :
    build config.withoutBasePath = .ok { client with base := base } := by
  have headers : config.withoutBasePath.additionalHeaders = config.additionalHeaders := rfl
  have usable : (!base.isBase) = false := by rw [opened]; rfl
  unfold build at built ⊢
  rw [read, headers]
  dsimp only
  rw [usable, if_neg Bool.false_ne_true]
  split at built
  · cases built
  · split at built
    · cases built
    · split at built
      · cases built
      · split at built
        · cases built
        · rename_i verified
          cases built
          exact if_neg verified

/-- A client with a base path of names has a counterpart without it. -/
theorem build_withoutBasePath (path : config.HasNames names) (joinable : Joinable config.server)
    (built : build config = .ok client) :
    ∃ alone, build config.withoutBasePath = .ok alone ∧
      (client.canSend = true → client.Prefixed alone names) := by
  have read := parse_of_build built
  rw [Config.serverUrl_of_names path] at read
  obtain ⟨base, single, opened, joins⟩ :=
    parse_append path.given path.named joinable read (builtFrom_of_build built).isBase
  rw [← Config.serverUrl_withoutBasePath] at single
  refine ⟨_, build_of_parse built single opened, fun sendable => ?_⟩
  obtain ⟨special, remote⟩ := schemes_of_canSend sendable
  obtain ⟨segments, -, laid⟩ := hierarchical_of_build built sendable
  exact ⟨path.given, path.named, laid.host, remote, joins special remote⟩

/-! ### Where the URLs of a client with a base path lie -/

section Prefixed

variable (behind : client.Prefixed alone names)
include behind

/-- The path of a URL is the path of the server, then the names, then the texts that it begins with,
unless a text behind these climbs. -/
theorem Prefixed.url_below {first entry : String} {front args : List String}
    (visible : kept first ≠ []) (plain : ∀ text ∈ first :: front, ¬ isPoints text)
    (stay : ∀ text ∈ args, ¬ climbs text) (moves : ∃ text ∈ args, ¬ isPoints text)
    (pairs : List (String × String))
    (written : renderSegments ((first :: front).map (segmentOf (isSpecial client.base.scheme))) ++
      ['/'] = entry.toList) :
    Below alone.base names entry (client.url (first :: front ++ args) pairs).target := by
  obtain ⟨whole, root, single, leads, same⟩ := behind.base
  obtain ⟨more, some, path⟩ := path_url behind.remote leads visible plain stay moves pairs
  obtain ⟨next, rest, rfl⟩ := List.exists_cons_of_ne_nil some
  have extended : (client.url (first :: front ++ args) pairs).target =
      { client.base.target with
        path := (client.url (first :: front ++ args) pairs).path
        query := (client.url (first :: front ++ args) pairs).query } := by
    rw [url, withPairs_eq, extend, leads]
    rfl
  have host : (client.url (first :: front ++ args) pairs).target.host.isSome = true := by
    rw [extended]
    exact behind.host
  have alone_path : alone.base.renderPath = renderSegments whole := by
    refine renderPath_of_host ?_ (by rw [single])
    rw [single]
    exact behind.host
  refine ⟨by rw [extended, single]; rfl, by rw [extended, single]; rfl,
    by rw [extended, single]; rfl, next ++ renderSegments rest, ?_⟩
  rw [renderPath_of_host host path, stem_names behind.given behind.named, alone_path, same,
    ← written, renderSegments_append, renderSegments_append, renderSegments_append,
    renderSegments_cons]
  simp only [List.append_assoc, List.singleton_append]

/-- Tokens are issued below the base path, unless the realm climbs. -/
theorem Prefixed.tokenUrl_below (stays : ¬ climbs client.realm) :
    Below alone.base names "/realms/" client.tokenUrl.target := by
  have stay : ∀ text ∈ [client.realm, "protocol", "openid-connect", "token"], ¬ climbs text := by
    simp only [List.forall_mem_cons]
    exact ⟨stays, by decide, by decide, by decide, List.forall_mem_nil _⟩
  refine behind.url_below (by decide : kept "realms" ≠ []) (by decide : ∀ text ∈ ["realms"], _) stay
    ⟨"protocol", by simp, by decide⟩ [] ?_
  cases isSpecial client.base.scheme <;> decide

/-- Resources lie below the base path, unless a part of their path climbs. -/
theorem Prefixed.resourceUrl_below {resource : Admin.Resource}
    (stay : ∀ text ∈ resource.path, ¬ climbs text)
    (moves : ∃ text ∈ resource.segments, ¬ isPoints text) :
    Below alone.base names "/admin/realms/" (client.resourceUrl resource).target := by
  have later : ∀ text ∈ resource.realm :: resource.segments, ¬ climbs text := fun text member =>
    stay text (List.mem_cons_of_mem _ (List.mem_cons_of_mem _ member))
  obtain ⟨text, member, plain⟩ := moves
  refine behind.url_below (by decide : kept "admin" ≠ [])
    (by decide : ∀ text ∈ ["admin", "realms"], ¬ isPoints text) later
    ⟨text, List.mem_cons_of_mem _ member, plain⟩ resource.query ?_
  cases isSpecial client.base.scheme <;> decide

end Prefixed

end Client

end RealmLookup
