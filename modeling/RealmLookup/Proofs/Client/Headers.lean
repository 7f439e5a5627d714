import RealmLookup.Proofs.Client.Requests
import RealmLookup.Proofs.Http.Header

/-!
# The headers of requests

Which headers the requests of a client have: those that a request sets itself, then those of the
settings, then defaults, each name once.  Settings with an entry that is no header give no client.

## Main definitions

* `Client.Effective` : the value of a header of a request.
* `Client.Carries` : the headers of a request.

## Main results

* `Client.build_eq_invalidHeader_iff` : the first entry that is no header is reported.
* `Client.carries_tokenRequest`, `Client.carries_resourceRequest` : the headers of the requests of a
  client.
-/

namespace RealmLookup.Client

open RealmLookup.Http RealmLookup.Http.Header

/-! ### Settings -/

section Building

variable {config : Config} {base : Url} {name : String}

/-- The first entry that is no header is reported, if the URL can be used. -/
theorem build_eq_invalidHeader_iff (parsed : Url.parse config.serverUrl.toList = .ok base)
    (usable : base.isBase = true) (sorted : config.additionalHeaders.Sorted) :
    build config = .error (.invalidHeader name) ↔ FirstInvalid config.additionalHeaders name := by
  have opened : ¬ (!base.isBase) = true := by simp [usable]
  rw [← collect_eq_error_iff sorted, build, parsed]
  dsimp only
  rw [if_neg opened]
  cases Header.collect config.additionalHeaders with
  | error other => simp
  | ok headers =>
    dsimp only
    split <;> simp

/-- A table with an entry that is no header has a first one. -/
theorem exists_firstInvalid {table : Table String} (sorted : table.Sorted) :
    (∃ name, FirstInvalid table name) ↔ ∃ entry ∈ table, ¬ Valid entry := by
  constructor
  · rintro ⟨name, value, listed, invalid, -⟩
    exact ⟨_, listed, invalid⟩
  · rintro ⟨entry, listed, invalid⟩
    cases collected : Header.collect table with
    | ok headers => exact absurd ((collect_eq_ok_iff.1 collected).1 entry listed) invalid
    | error name => exact ⟨name, (collect_eq_error_iff sorted).1 collected⟩

end Building

/-! ### Layers of headers -/

section Layers

variable {taken more : List (String × String)} {header : String × String}

/-- Headers with more of them, whose names they do not have. -/
def fill (taken more : List (String × String)) : List (String × String) :=
  taken ++ more.filter fun header => !(taken.map Prod.fst).contains header.1

theorem mem_fill : header ∈ fill taken more ↔
    header ∈ taken ∨ header.1 ∉ taken.map Prod.fst ∧ header ∈ more := by
  have free : (!(taken.map Prod.fst).contains header.1) = true ↔
      header.1 ∉ taken.map Prod.fst := by
    rw [Bool.not_eq_true', ← Bool.not_eq_true, List.contains_iff_mem]
  rw [fill, List.mem_append, List.mem_filter, free, and_comm]

theorem mem_names_fill {name : String} : name ∈ (fill taken more).map Prod.fst ↔
    name ∈ taken.map Prod.fst ∨ name ∈ more.map Prod.fst := by
  constructor
  · intro member
    obtain ⟨header, listed, rfl⟩ := List.mem_map.1 member
    exact (mem_fill.1 listed).imp List.mem_map_of_mem fun added => List.mem_map_of_mem added.2
  · intro member
    by_cases set : name ∈ taken.map Prod.fst
    · obtain ⟨header, listed, rfl⟩ := List.mem_map.1 set
      exact List.mem_map_of_mem (mem_fill.2 (.inl listed))
    · obtain ⟨header, listed, rfl⟩ := List.mem_map.1 (member.resolve_left set)
      exact List.mem_map_of_mem (mem_fill.2 (.inr ⟨set, listed⟩))

/-- Each name stays there once. -/
theorem nodup_fill (once : (taken.map Prod.fst).Nodup) (distinct : (more.map Prod.fst).Nodup) :
    ((fill taken more).map Prod.fst).Nodup := by
  rw [fill, List.map_append]
  refine List.nodup_append'.2 ⟨once, distinct.sublist (List.filter_sublist.map _), ?_⟩
  intro name set added
  obtain ⟨header, listed, rfl⟩ := List.mem_map.1 added
  have free := (List.mem_filter.1 listed).2
  rw [List.contains_iff_mem.2 set] at free
  cases free

/-- The headers of a request come in three layers. -/
theorem headersWith_eq_fill (client : Client) (own : List (String × String)) :
    client.headersWith own = fill (fill own client.headers) defaultHeaders :=
  rfl

end Layers

/-! ### Headers of a request -/

/-- The value of a header of a request: its own one, or that of the settings, or the default. -/
inductive Effective (own : List (String × String)) (table : Table String) (name value : String) :
    Prop
  | own (sets : (name, value) ∈ own)
  | configured (free : name ∉ own.map Prod.fst) (counts : Counts table name value)
  | default (free : name ∉ own.map Prod.fst) (unset : ∀ entry ∈ table, lower entry.1 ≠ name)
      (listed : (name, value) ∈ [("accept", "*/*"), ("user-agent", "keycloak-lookup/0.1.0")])

/-- The headers of a request: each name once, with the value that it has in effect. -/
structure Carries (own : List (String × String)) (table : Table String)
    (headers : List (String × String)) : Prop where
  once : (headers.map Prod.fst).Nodup
  value : ∀ name value, (name, value) ∈ headers ↔ Effective own table name value

variable {client : Client} {table : Table String} {own : List (String × String)}

section Collected

variable (sorted : table.Sorted) (collected : Header.collect table = .ok client.headers)
include sorted collected

/-- A request has its own headers, then those of the settings, then the defaults. -/
theorem carries_headersWith (once : (own.map Prod.fst).Nodup) :
    Carries own table (client.headersWith own) := by
  have ordered : Table.Sorted client.headers := by
    rw [← (collect_eq_ok_iff.1 collected).2]
    exact Table.sorted_ofEntries _
  have counts {name value : String} :
      (name, value) ∈ client.headers ↔ Counts table name value := by
    rw [Table.mem_iff_get? ordered.nodup, get?_collect sorted collected]
  have set {name : String} :
      name ∈ client.headers.map Prod.fst ↔ ∃ entry ∈ table, lower entry.1 = name := by
    rw [← (collect_eq_ok_iff.1 collected).2, ← mem_keys_lowered]
    exact Table.mem_keys_ofEntries
  rw [headersWith_eq_fill]
  refine ⟨nodup_fill (nodup_fill once ordered.nodup) (by decide), fun name value => ?_⟩
  rw [mem_fill, mem_fill, mem_names_fill, counts, set]
  constructor
  · rintro ((sets | ⟨free, counts⟩) | ⟨free, listed⟩)
    · exact .own sets
    · exact .configured free counts
    · simp only [not_or, not_exists, not_and] at free
      exact .default free.1 free.2 listed
  · rintro (sets | ⟨free, counts⟩ | ⟨free, unset, listed⟩)
    · exact .inl (.inl sets)
    · exact .inl (.inr ⟨free, counts⟩)
    · refine .inr ⟨?_, listed⟩
      rintro (taken | ⟨entry, listed, same⟩)
      · exact free taken
      · exact unset entry listed same

/-- The own headers of a login: what its body is. -/
theorem carries_tokenRequest (nobody : client.baseCredentials = []) :
    Carries [("content-type", "application/x-www-form-urlencoded")] table
      client.tokenRequest.headers := by
  rw [tokenRequest, nobody]
  exact carries_headersWith sorted collected (List.nodup_singleton _)

/-- The own headers of other requests: their tokens. -/
theorem carries_resourceRequest (nobody : client.baseCredentials = []) {url : Url} {token : String}
    {request : Request} (made : client.resourceRequest? url token = some request) :
    Carries [("authorization", "Bearer " ++ token)] table request.headers := by
  obtain ⟨-, rfl⟩ := resourceRequest?_eq_some_iff.1 made
  rw [nobody]
  exact carries_headersWith sorted collected (List.nodup_singleton _)

end Collected

/-- A URL without a username and a password has no credentials. -/
theorem baseCredentials_eq_nil (username : client.base.username = [])
    (password : client.base.password = []) : client.baseCredentials = [] := by
  rw [baseCredentials, username, password]
  rfl

end RealmLookup.Client
