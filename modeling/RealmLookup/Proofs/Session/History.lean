import RealmLookup.Proofs.Session.Visits
import Mathlib.Order.Monotone.Defs
import Mathlib.Order.Nat

/-!
# The token of a history

Which token a session should keep can be told from its exchanges alone: the one that the latest
successful login issued.  A login that failed issued none, so it does not count.

## Main definitions

* `Exchange.issued?` : what an exchange issued.
* `Session.latestLogin` : the latest exchange that issued a token.
* `Session.tokenOf` : the token that a history leaves.
* `Session.NeedsLogin` : whether a session needs a login before its next request.

## Main results

* `Session.latestLogin_append_of_none`, `Session.latestLogin_append_of_some` : the latest login
  after one more exchange.
* `Session.isStale_iff_needsLogin` : a session that keeps the token of its history finds it stale
  when it needs a login.
-/

namespace RealmLookup

open RealmLookup.Http

/-- What an exchange issued, if it was a login that succeeded. -/
def Exchange.issued? (exchange : Exchange) : Option Session.Issued :=
  match exchange.request.method with
  | .post => Session.issued? exchange.answer
  | .get => none

namespace Session

variable {environment : Environment} {client : Client} {exchanges : List Exchange}
  {exchange : Exchange} {issued : Issued} {session : Session}

/-! ### The latest login -/

/-- The latest exchange that issued a token, and what it issued. -/
def latestLogin (exchanges : List Exchange) : Option (Exchange × Issued) :=
  (exchanges.filterMap fun exchange =>
    exchange.issued?.map fun issued => (exchange, issued)).getLast?

/-- The access token of the latest login that succeeded. -/
def latestToken (exchanges : List Exchange) : Option String :=
  (latestLogin exchanges).map fun login => login.2.token

/-- Exchanges that issue no token leave the latest login. -/
theorem latestLogin_append_of_none {own : List Exchange}
    (fails : ∀ exchange ∈ own, exchange.issued? = none) :
    latestLogin (exchanges ++ own) = latestLogin exchanges := by
  have none : own.filterMap (fun exchange =>
      exchange.issued?.map fun issued => (exchange, issued)) = [] := by
    refine List.filterMap_eq_nil_iff.2 fun exchange member => ?_
    rw [fails exchange member]
    rfl
  rw [latestLogin, List.filterMap_append, none, List.append_nil, latestLogin]

theorem latestLogin_append_of_some (issues : exchange.issued? = some issued) :
    latestLogin (exchanges ++ [exchange]) = some (exchange, issued) := by
  simp [latestLogin, issues]

/-- The latest login is one of the exchanges, and issued its token. -/
theorem of_latestLogin (latest : latestLogin exchanges = some (exchange, issued)) :
    exchange ∈ exchanges ∧ exchange.issued? = some issued := by
  have member := List.mem_of_getLast? latest
  obtain ⟨found, listed, same⟩ := List.mem_filterMap.1 member
  obtain ⟨value, issues, equal⟩ := Option.map_eq_some_iff.1 same
  obtain ⟨rfl, rfl⟩ := Prod.mk.inj equal
  exact ⟨listed, issues⟩

/-! ### The token that a history leaves -/

/-- The token that a history leaves. -/
def tokenOf (environment : Environment) (exchanges : List Exchange) : Option Token :=
  (latestLogin exchanges).map fun login =>
    login.2.tokenAt (environment.clock login.1.readings)

theorem tokenOf_append_of_none {own : List Exchange}
    (fails : ∀ exchange ∈ own, exchange.issued? = none) :
    tokenOf environment (exchanges ++ own) = tokenOf environment exchanges := by
  rw [tokenOf, latestLogin_append_of_none fails, tokenOf]

theorem tokenOf_append_of_some (issues : exchange.issued? = some issued) :
    tokenOf environment (exchanges ++ [exchange]) =
      some (issued.tokenAt (environment.clock exchange.readings)) := by
  rw [tokenOf, latestLogin_append_of_some issues, Option.map_some]

/-- The token that a history leaves has the text of the latest one. -/
theorem latestToken_of_tokenOf {token : Token} (left : tokenOf environment exchanges = some token) :
    latestToken exchanges = some token.value := by
  obtain ⟨login, latest, rfl⟩ := Option.map_eq_some_iff.1 left
  rw [latestToken, latest]
  rfl

/-! ### When a login is needed -/

/-- A login is needed unless the latest login issued a token of which more than ten seconds
remain, or which does not expire. -/
def NeedsLogin (environment : Environment) (session : Session) : Prop :=
  ∀ login issued, latestLogin session.exchanges = some (login, issued) →
    ∃ seconds, issued.expiresIn = some seconds ∧
      environment.clock login.readings + seconds * second ≤
        environment.clock session.readings + 10 * second

theorem needsLogin_of_none (none : latestLogin session.exchanges = none) :
    NeedsLogin environment session := by
  intro login issued latest
  rw [none] at latest
  cases latest

/-- A token that lasts is used again. -/
theorem not_needsLogin_of_lasting (latest : latestLogin session.exchanges = some (exchange, issued))
    (lasting : issued.expiresIn = none) : ¬ NeedsLogin environment session := by
  intro needed
  obtain ⟨seconds, expires, -⟩ := needed exchange issued latest
  rw [lasting] at expires
  cases expires

/-- A token of ten seconds or less is not used again. -/
theorem needsLogin_of_brief (monotone : Monotone environment.clock)
    (read : ∀ found ∈ session.exchanges, found.readings ≤ session.readings) {seconds : Nat}
    (latest : latestLogin session.exchanges = some (exchange, issued))
    (expires : issued.expiresIn = some seconds) (brief : seconds ≤ 10) :
    NeedsLogin environment session := by
  intro login found also
  obtain ⟨rfl, rfl⟩ := Prod.mk.inj (Option.some.inj (latest.symm.trans also))
  refine ⟨seconds, expires, ?_⟩
  have before := monotone (read exchange (of_latestLogin latest).1)
  exact Nat.add_le_add before (Nat.mul_le_mul_right second brief)

/-- A session that keeps the token of its history finds it stale when it needs a login. -/
theorem isStale_iff_needsLogin (kept : session.token = tokenOf environment session.exchanges) :
    session.isStale environment = true ↔ NeedsLogin environment session := by
  cases latest : latestLogin session.exchanges with
  | none =>
    rw [tokenOf, latest] at kept
    exact iff_of_true (isStale_of_none environment kept) (needsLogin_of_none latest)
  | some login =>
    obtain ⟨exchange, issued⟩ := login
    rw [tokenOf, latest, Option.map_some] at kept
    cases expires : issued.expiresIn with
    | none =>
      have lasting : (issued.tokenAt (environment.clock exchange.readings)).expiry = none := by
        rw [Issued.tokenAt, expires]
        rfl
      rw [isStale_of_lasting environment kept lasting]
      exact iff_of_false Bool.false_ne_true (not_needsLogin_of_lasting latest expires)
    | some seconds =>
      have expiring : (issued.tokenAt (environment.clock exchange.readings)).expiry =
          some (environment.clock exchange.readings + seconds * second) := by
        rw [Issued.tokenAt, expires]
        rfl
      rw [isStale_of_expiring environment kept expiring, Bool.not_eq_true', decide_eq_false_iff_not,
        Nat.not_lt]
      constructor
      · intro late login found also
        obtain ⟨rfl, rfl⟩ := Prod.mk.inj (Option.some.inj (latest.symm.trans also))
        exact ⟨seconds, expires, late⟩
      · intro needed
        obtain ⟨other, same, late⟩ := needed exchange issued latest
        obtain rfl : seconds = other := Option.some.inj (expires.symm.trans same)
        exact late

end Session

end RealmLookup
