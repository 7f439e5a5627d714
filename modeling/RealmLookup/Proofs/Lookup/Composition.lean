import RealmLookup.Lookup.Strategies
import RealmLookup.Proofs.Admin.Plan

/-!
# What searches are made of

Every search is made of a few kinds of steps: it settles an outcome without a request, as when it
reads a parameter, or asks for one resource that it reads as what the resource represents.  What
all these steps have in common, and one step behind another keeps, holds of every strategy.

## Main definitions

* `Lookup.Reads` : the ways to read a resource of an endpoint.
* `Lookup.Composed` : the searches that are made of such steps.

## Main results

* `Lookup.composed_byExternalName`, `Lookup.composed_byParameters` : both strategies of every kind
  are.
* `Kind.asks_resolve` : resolving asks for resources of endpoints only.
-/

namespace RealmLookup

open RealmLookup.Admin RealmLookup.Representation

namespace Lookup

variable {α β : Type}

/-- A decoder that reads what a resource of an endpoint represents. -/
structure Reads (decoder : Decoder α) (resource : Resource) : Prop where
  reads : ∀ body, resource.isReadable body = (body.read? decoder).isSome
  named : resource.Named

/-- The searches that settle outcomes of their own, which are no failed requests, and ask for
resources that they can read. -/
inductive Composed : {α : Type} → Search α → Prop
  | done {α : Type} {outcome : Except Error α} (own : ∀ error, outcome ≠ .error (.client error)) :
      Composed (ExceptT.mk (Plan.done outcome))
  | get {α : Type} {decoder : Decoder α} {resource : Resource} (reads : Reads decoder resource) :
      Composed (ask (Plan.get decoder resource))
  | map {α β : Type} {decoder : Decoder α} {resource : Resource} (f : α → β)
      (reads : Reads decoder resource) : Composed (ask (Fetch.map f (Plan.get decoder resource)))
  | optional {α : Type} {decoder : Decoder α} {resource : Resource}
      (reads : Reads decoder resource) : Composed (ask (Plan.getOptional decoder resource))
  | bind {α β : Type} {search : Search α} {next : α → Search β} (first : Composed search)
      (follows : ∀ value, Composed (next value)) : Composed (search >>= next)

/-! ### Steps -/

section Steps

variable (params : Parameters)

theorem composed_pure (value : α) : Composed (pure value : Search α) :=
  .done fun _ same => by cases same

theorem composed_param (key : String) : Composed (param params key) := by
  refine .done fun error same => ?_
  unfold Parameters.text at same
  split at same <;> cases same

theorem composed_owner : Composed (owner params) := by
  refine .bind (composed_param params _) fun clientId => ?_
  refine .bind (composed_param params _) fun clientScopeId => .done fun error same => ?_
  unfold ownerOf at same
  split at same <;> cases same

theorem composed_single (id : α → String) (items : List α) : Composed (single id items) := by
  refine .done fun error same => ?_
  unfold singleOrNone at same
  split at same <;> cases same

/-- A value that is made of what one request gives. -/
theorem Composed.image {search : Search α} (composed : Composed search) (f : α → β) :
    Composed (do return f (← search)) :=
  .bind composed fun _ => composed_pure _

end Steps

/-! ### Strategies -/

section Strategies

variable (params : Parameters)

theorem composed_byExternalName (kind : Kind) (id : String) :
    Composed (byExternalName kind id params) := by
  cases kind with
  | authenticationSubflow =>
    refine .bind (composed_param params _) fun realm => .bind (composed_param params _) fun _ => ?_
    exact .image (.get ⟨fun _ => rfl, _, _, rfl, by decide⟩) _
  | genericProtocolMapper =>
    refine .bind (composed_param params _) fun realm => ?_
    refine .bind (composed_owner params) fun owner => ?_
    cases owner <;> exact .image (.get ⟨fun _ => rfl, _, _, rfl, by decide⟩) _
  | _ =>
    refine .bind (composed_param params _) fun realm => ?_
    exact .image (.get ⟨fun _ => rfl, _, _, rfl, by decide⟩) _

theorem composed_firstFlow (realm aliasName : String) (ids : List String) :
    Composed (firstFlow realm aliasName ids) := by
  induction ids with
  | nil => exact composed_pure _
  | cons id rest ih =>
    refine .bind (.get ⟨fun _ => rfl, _, _, rfl, by decide⟩) fun flow => ?_
    cases flow.aliasName == aliasName
    · exact ih
    · exact composed_pure _

theorem composed_componentId (realm : String) (kind : ComponentKind) (name : String) :
    Composed (componentId realm kind name) :=
  .bind (.get ⟨fun _ => rfl, _, _, rfl, by decide⟩) fun _ => composed_single _ _

theorem composed_byParameters (kind : Kind) : Composed (byParameters kind params) := by
  cases kind with
  | authenticationFlow =>
    refine .bind (composed_param params _) fun realm => ?_
    refine .bind (composed_param params _) fun aliasName => ?_
    exact .image (.map _ ⟨fun _ => rfl, _, _, rfl, by decide⟩) _
  | authenticationSubflow =>
    refine .bind (composed_param params _) fun realm => .bind (composed_param params _) fun _ => ?_
    refine .bind (composed_param params _) fun aliasName => ?_
    exact .bind (.get ⟨fun _ => rfl, _, _, rfl, by decide⟩) fun _ => composed_firstFlow _ _ _
  | authenticationExecution =>
    refine .bind (composed_param params _) fun realm => .bind (composed_param params _) fun _ => ?_
    refine .bind (composed_param params _) fun authenticator => ?_
    exact .bind (.get ⟨fun _ => rfl, _, _, rfl, by decide⟩) fun _ => composed_single _ _
  | authenticationExecutionConfig => exact composed_pure _
  | organization =>
    refine .bind (composed_param params _) fun realm => .bind (composed_param params _) fun _ => ?_
    exact .image (.map _ ⟨fun _ => rfl, _, _, rfl, by decide⟩) _
  | role =>
    refine .bind (composed_param params _) fun realm => .bind (composed_param params _) fun _ => ?_
    refine .bind (composed_param params _) fun clientId => ?_
    cases clientId.isEmpty <;> exact .image (.optional ⟨fun _ => rfl, _, _, rfl, by decide⟩) _
  | group =>
    refine .bind (composed_param params _) fun realm => .bind (composed_param params _) fun _ => ?_
    refine .bind (composed_param params _) fun parent => ?_
    cases parent.isEmpty <;>
      exact .bind (.map _ ⟨fun _ => rfl, _, _, rfl, by decide⟩) fun _ => composed_single _ _
  | openIdClient =>
    refine .bind (composed_param params _) fun realm => .bind (composed_param params _) fun _ => ?_
    exact .bind (.map _ ⟨fun _ => rfl, _, _, rfl, by decide⟩) fun _ => composed_single _ _
  | realmKeystoreRsa =>
    refine .bind (composed_param params _) fun realm => .bind (composed_param params _) fun _ => ?_
    exact composed_componentId _ _ _
  | ldapUserFederation =>
    refine .bind (composed_param params _) fun realm => .bind (composed_param params _) fun _ => ?_
    exact composed_componentId _ _ _
  | genericProtocolMapper =>
    refine .bind (composed_param params _) fun realm => .bind (composed_param params _) fun _ => ?_
    refine .bind (composed_owner params) fun owner => ?_
    cases owner <;>
      exact .bind (.get ⟨fun _ => rfl, _, _, rfl, by decide⟩) fun _ => composed_single _ _

end Strategies

/-! ### Searches as plans -/

theorem run_bind (search : Search α) (next : α → Search β) :
    (search >>= next).run = Plan.bind search.run fun outcome =>
      match outcome with
      | .ok value => (next value).run
      | .error error => .done (.error error) := by
  show Plan.bind search.run _ = _
  congr 1
  funext outcome
  cases outcome <;> rfl

/-! ### Asking for resources -/

/-- Searches ask for resources of endpoints only. -/
theorem Composed.asks {search : Search α} (composed : Composed search) :
    search.run.Asks Resource.Named := by
  have get {α : Type} {decoder : Decoder α} {resource : Resource} (reads : Reads decoder resource) :
      (Plan.get decoder resource).Asks Resource.Named := ⟨reads.named, fun _ => trivial⟩
  induction composed with
  | done => trivial
  | get reads => exact Plan.asks_bind (get reads) fun _ => trivial
  | map f reads =>
    exact Plan.asks_bind (Plan.asks_bind (get reads) fun _ => trivial) fun _ => trivial
  | optional reads =>
    refine Plan.asks_bind (Plan.asks_bind (get reads) fun result => ?_) fun _ => trivial
    cases result <;> trivial
  | bind _ _ first follows =>
    rw [run_bind]
    refine Plan.asks_bind first fun outcome => ?_
    cases outcome with
    | error error => trivial
    | ok value => exact follows value

namespace Strategy

variable {strategy : Strategy Plan} {externalName : String} {params : Parameters}

/-- A lookup asks for what its strategies ask for. -/
theorem asks_resolve {allowed : Resource → Prop}
    (named : ∀ selected, strategy.select params = .ok selected → externalName ≠ "" →
      (strategy.byExternalName externalName selected).Asks allowed)
    (searched : ∀ selected, strategy.select params = .ok selected →
      (strategy.byParameters selected).Asks allowed) :
    (strategy.resolve externalName params).Asks allowed := by
  rw [resolve]
  cases selects : strategy.select params with
  | error error => trivial
  | ok selected =>
    have search : (strategy.search selected).Asks allowed :=
      Plan.asks_bind (searched selected selects) fun _ => trivial
    dsimp only
    by_cases unnamed : externalName = ""
    · rw [if_pos (String.isEmpty_iff.2 unnamed)]
      exact search
    · rw [if_neg (by rwa [String.isEmpty_iff])]
      refine Plan.asks_bind (named selected selects unnamed) fun outcome => ?_
      rcases outcome with error | id
      · dsimp only
        cases error.isNotFound
        · trivial
        · exact search
      · trivial

end Strategy

end Lookup

/-- Resolving asks for resources of endpoints only, for every kind. -/
theorem Kind.asks_resolve (kind : Kind) (externalName : String) (params : Parameters) :
    (kind.resolve externalName params).Asks Resource.Named :=
  Lookup.Strategy.asks_resolve
    (fun selected _ _ => (Lookup.composed_byExternalName selected kind _).asks)
    fun selected _ => (Lookup.composed_byParameters selected kind).asks

end RealmLookup
