import RealmLookup.Proofs.Admin.Address
import RealmLookup.Proofs.Client.Urls
import RealmLookup.Proofs.Session.Discipline
import RealmLookup.Proofs.Session.Transparency

/-!
# Isolation of objects

Which URLs are requested when an object is fetched by its identifier.  Different objects have
different URLs, and all URLs lie below the realms of the admin API, as long as realms and
identifiers are spelled without tabs and line ends and are no points.  The conditions are needed:
the parts of an address go into the URL as they are, where tabs and line ends are dropped and points
name levels of the path.

## Main definitions

* `Session.Isolated` : how the URLs that are requested for objects keep these apart.

## Main results

* `Session.eq_of_mem_fetchedUrls` : fetching an object requests no URL but that of its address.
* `Session.isolated_of_build` : the URLs of different objects differ.
* `Session.fetch_not_isolated` : a realm and identifiers for which they do not.
-/

namespace RealmLookup

open RealmLookup.Admin RealmLookup.Http RealmLookup.Url

/-! ### Names of resources -/

/-- The resource of an address begins with the name of its endpoint. -/
theorem Admin.Address.named (address : Address) : address.resource.Named := by
  obtain ⟨name, rest, same, listed⟩ := address.endpoint.segments_eq_cons
  have segments : address.resource.segments = name :: (rest ++ [address.id]) :=
    congrArg (· ++ [address.id]) same
  have every : ∀ name ∈ ["authentication", "organizations", "roles-by-id", "groups", "clients",
      "client-scopes", "components"], name ∈ Resource.names := by
    decide
  exact ⟨name, _, segments, every name listed⟩

theorem Admin.Address.asks_fetch (address : Address) : address.fetch.Asks Resource.Named := by
  rw [address.fetch_eq]
  exact ⟨address.named, fun _ => trivial⟩

/-- The names of endpoints are no levels of the path. -/
theorem Admin.Resource.Named.moves {resource : Resource} (named : resource.Named) :
    ∃ text ∈ resource.segments, ¬ isPoints text := by
  obtain ⟨name, rest, same, listed⟩ := named
  have every : ∀ name ∈ Resource.names, ¬ isPoints name := by decide
  refine ⟨name, ?_, every name listed⟩
  rw [same]
  exact List.mem_cons_self

/-! ### Requested URLs -/

namespace Session

variable {environment : Environment} {client : Client} {session : Session}

/-- Fetching an object requests no URL but that of its address. -/
theorem eq_of_mem_fetchedUrls {address : Address} {url : Url}
    (member : url ∈ fetchedUrls environment client address.fetch session) :
    client.canSend = true ∧ url = (client.resourceUrl address.resource).target := by
  have visited : visits environment client address.fetch session =
      [visit environment client address.resource session] := by
    rw [address.fetch_eq, Plan.get, visits]
    cases (visit environment client address.resource session).reply <;> rfl
  rw [fetchedUrls_eq, visited, List.flatMap_singleton] at member
  obtain ⟨exchange, found, rfl⟩ := List.mem_map.1 member
  obtain ⟨sent, gets⟩ := List.mem_filter.1 found
  obtain ⟨result, responded, -⟩ := visit_responded environment client address.resource session
  refine ⟨?_, responded.leads.fetches sent (beq_iff_eq.1 gets)⟩
  cases closed : client.canSend with
  | true => rfl
  | false =>
    rw [responded.own_of_closed closed] at sent
    cases sent

/-- The path of an object names levels only where its realm, its owner or its identifier does. -/
theorem moves_of_address (address : Address) :
    ∃ text ∈ address.resource.segments, ¬ isPoints text :=
  address.named.moves

/-- How the URLs that are requested for objects keep these apart. -/
structure Isolated (client : Client) : Prop where
  /-- Parts that name no levels of the path show in the URL as far as they are kept. -/
  text_eq_iff : ∀ (address other : Address) (environment distant : Environment)
    (session later : Session),
      (∀ text ∈ address.resource.path, ¬ isPoints text) →
      (∀ text ∈ other.resource.path, ¬ isPoints text) →
        ∀ url ∈ fetchedUrls environment client address.fetch session,
          ∀ found ∈ fetchedUrls distant client other.fetch later,
            url.text = found.text ↔
              address.resource.path.map kept = other.resource.path.map kept
  /-- Parts without tabs and line ends that are no points are kept, so the URLs differ. -/
  differ : ∀ (address other : Address) (environment distant : Environment)
    (session later : Session),
      (∀ text ∈ address.resource.path, Plain text) → (∀ text ∈ other.resource.path, Plain text) →
        address ≠ other →
          ∀ url ∈ fetchedUrls environment client address.fetch session,
            ∀ found ∈ fetchedUrls distant client other.fetch later, url.text ≠ found.text
  /-- No parts but two points behind which tabs or line ends are dropped lead out of the realms. -/
  below : ∀ (address : Address) (environment : Environment) (session : Session),
    (∀ text ∈ address.resource.path, ¬ climbs text) →
      ∀ url ∈ fetchedUrls environment client address.fetch session,
        ∃ root slashes more, client.base.renderPath = root ++ slashes ∧ (∀ c ∈ slashes, c = '/') ∧
          url.renderPath = root ++ "/admin/realms/".toList ++ more

theorem text_eq_iff_of_build {config : Config} (built : Client.build config = .ok client)
    (opened : client.canSend = true) {address other : Address}
    (plain : ∀ text ∈ address.resource.path, ¬ isPoints text)
    (honest : ∀ text ∈ other.resource.path, ¬ isPoints text) :
    (client.resourceUrl address.resource).target.text =
        (client.resourceUrl other.resource).target.text ↔
      address.resource.path.map kept = other.resource.path.map kept := by
  obtain ⟨path, some, laid⟩ := Client.hierarchical_of_build built opened
  have whole (address : Address) :
      shown (stem path) address.resource.path = address.resource.path :=
    shown_of_first (by decide) _
  rw [← whole address, ← whole other]
  constructor
  · intro alike
    exact (Client.url_inj laid opened some plain honest (.inr alike)).1
  · intro same
    exact congrArg (fun url => url.target.text)
      (Client.url_congr laid opened some plain honest [] same)

/-- The URLs that a client requests for objects keep them apart, unless tabs, line ends or points
are parts of their addresses. -/
theorem isolated_of_build {config : Config} (built : Client.build config = .ok client) :
    Isolated client where
  text_eq_iff address other _ _ _ _ plain honest url member found listed := by
    obtain ⟨opened, rfl⟩ := eq_of_mem_fetchedUrls member
    obtain ⟨-, rfl⟩ := eq_of_mem_fetchedUrls listed
    exact text_eq_iff_of_build built opened plain honest
  differ address other _ _ _ _ plain honest differ url member found listed alike := by
    obtain ⟨opened, rfl⟩ := eq_of_mem_fetchedUrls member
    obtain ⟨-, rfl⟩ := eq_of_mem_fetchedUrls listed
    have same := (text_eq_iff_of_build built opened
      (fun text member => (plain text member).not_isPoints)
      fun text member => (honest text member).not_isPoints).1 alike
    rw [map_kept_of_plain plain, map_kept_of_plain honest] at same
    exact differ (Address.path_injective
      ((List.map_inj_right fun _ _ => String.toList_inj.1).1 same))
  below address _ _ stay url member := by
    obtain ⟨opened, rfl⟩ := eq_of_mem_fetchedUrls member
    obtain ⟨path, -, laid⟩ := Client.hierarchical_of_build built opened
    exact Client.resourceUrl_below laid (Client.schemes_of_canSend opened).2 stay
      (moves_of_address address)

/-! ### Groups on the local host -/

/-- The URLs that are requested on the local host for a group. -/
def groupUrls (realm id : String) : List Url :=
  fetchedUrls (tokenServer true missing) Client.localClient (Address.fetch ⟨realm, .group, id⟩)
    fresh

/-- Two groups of a realm have two URLs. -/
theorem isolated_of_build_groups :
    Client.build Client.localConfig = .ok Client.localClient ∧
      ∃ url ∈ groupUrls "r" "a", ∃ found ∈ groupUrls "r" "b", url.text ≠ found.text := by
  let first : Address := ⟨"r", .group, "a"⟩
  let second : Address := ⟨"r", .group, "b"⟩
  have asked : groupUrls "r" "a" = [(Client.localClient.resourceUrl first.resource).target] := by
    decide +kernel
  have again : groupUrls "r" "b" = [(Client.localClient.resourceUrl second.resource).target] := by
    decide +kernel
  refine ⟨Client.build_localConfig, _, asked ▸ List.mem_cons_self, _,
    again ▸ List.mem_cons_self, ?_⟩
  exact (isolated_of_build Client.build_localConfig).differ first second _ _ _ _ (by decide)
    (by decide) (by decide) _ (asked ▸ List.mem_cons_self) _ (again ▸ List.mem_cons_self)

/-- Identifiers that differ by a tab have one URL, and a realm whose points are parted by a tab
leads out of the realms. -/
theorem fetch_not_isolated :
    (¬ ∀ realm id other, id ≠ other → ∀ url ∈ groupUrls realm id, ∀ found ∈ groupUrls realm other,
        url.text ≠ found.text) ∧
      ¬ ∀ realm id, ∀ url ∈ groupUrls realm id,
        ("/admin/realms/".toList).isPrefixOf url.renderPath = true := by
  have split : groupUrls "r" "a\tb" = groupUrls "r" "ab" := by decide +kernel
  have asked : groupUrls "r" "ab" =
      [(Client.localClient.resourceUrl (Address.resource ⟨"r", .group, "ab"⟩)).target] := by
    decide +kernel
  have climbed : (groupUrls ".\t." "x").map renderPath = ["/admin//groups/x".toList] := by
    decide +kernel
  refine ⟨fun differ => ?_, fun below => ?_⟩
  · refine differ "r" "a\tb" "ab" (by decide) _ ?_ _ (asked ▸ List.mem_cons_self) rfl
    rw [split, asked]
    exact List.mem_cons_self
  · obtain ⟨url, member, path⟩ := List.mem_map.1 (climbed ▸ List.mem_cons_self)
    have under := below ".\t." "x" url member
    rw [path] at under
    exact absurd under (by decide)

end Session

end RealmLookup
