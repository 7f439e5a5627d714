import RealmLookup.Proofs.Client.Secrets
import RealmLookup.Proofs.Session.Visits

/-!
# Two sessions side by side

Two clients that differ in their credentials alone talk to two servers that answer alike, but may
issue different tokens.  Their sessions stay side by side: they log in at the same points and ask
for the same resources, each with the token it was issued last, and end every action alike.

Actions are compared by relational rules: one for each action, and one for an action behind another
one.

## Main definitions

* `Session.Parallel` : the requests of two sessions side by side.
* `Session.Alike` : servers that answer such sessions alike.
* `Session.Logged`, `Session.Twins` : what is left of two sessions, and sessions that go on.
* `Session.Coupled` : actions that end alike.
* `Session.runEach` : plans that are carried out one after another.

## Main results

* `Session.Coupled.bind` : actions one behind another end alike if each one does.
* `Session.login_coupled`, `Session.sendWith_coupled`, `Session.accessToken_coupled`,
  `Session.sendAuthorized_coupled` : the actions of a session end alike.
* `Session.run_coupled`, `Session.runEach_coupled`, `Session.start_coupled` : runs end alike.
-/

namespace RealmLookup.Session

open RealmLookup.Http RealmLookup.Representation RealmLookup.Admin

variable {α β γ δ : Type}

/-! ### Servers that answer alike -/

section Servers

variable (client twin : Client) (network distant : Network)

/-- The earlier requests of two sessions side by side, and the tokens that they were issued last. -/
inductive Parallel : List Request → List Request → Option (String × String) → Prop
  | fresh : Parallel [] [] none
  | refused {earlier others : List Request} {tokens : Option (String × String)}
      (parallel : Parallel earlier others tokens)
      (refused : issued? (network earlier client.tokenRequest) = none)
      (denied : issued? (distant others twin.tokenRequest) = none) :
      Parallel (earlier ++ [client.tokenRequest]) (others ++ [twin.tokenRequest]) tokens
  | issued {earlier others : List Request} {tokens : Option (String × String)}
      {first second : Issued} (parallel : Parallel earlier others tokens)
      (issues : issued? (network earlier client.tokenRequest) = some first)
      (grants : issued? (distant others twin.tokenRequest) = some second) :
      Parallel (earlier ++ [client.tokenRequest]) (others ++ [twin.tokenRequest])
        (some (first.token, second.token))
  | resource {earlier others : List Request} {url : Url} {first second : String}
      {request counterpart : Request} (parallel : Parallel earlier others (some (first, second)))
      (made : client.resourceRequest? url first = some request)
      (matched : twin.resourceRequest? url second = some counterpart) :
      Parallel (earlier ++ [request]) (others ++ [counterpart]) (some (first, second))

/-- Answers to logins that are equal, or issue tokens that can be sent and that last equally
long. -/
inductive LoginsAlike : Answer → Answer → Prop
  | same (answer : Answer) : LoginsAlike answer answer
  | issued {answer reply : Answer} {first second : Issued} (issues : issued? answer = some first)
      (grants : issued? reply = some second) (lasts : first.expiresIn = second.expiresIn)
      (safe : Header.isValue first.token = true) (sound : Header.isValue second.token = true) :
      LoginsAlike answer reply

/-- Servers that answer sessions side by side alike, except that they issue different tokens. -/
structure Alike : Prop where
  logins : ∀ {earlier others : List Request} {tokens : Option (String × String)},
    Parallel client twin network distant earlier others tokens →
      LoginsAlike (network earlier client.tokenRequest) (distant others twin.tokenRequest)
  resources : ∀ {earlier others : List Request} {url : Url} {first second : String}
    {request counterpart : Request},
    Parallel client twin network distant earlier others (some (first, second)) →
    client.resourceRequest? url first = some request →
    twin.resourceRequest? url second = some counterpart →
      network earlier request = distant others counterpart

end Servers

/-- Answers to logins that are alike arrive or not together. -/
theorem LoginsAlike.reached {answer reply : Answer} (alike : LoginsAlike answer reply) :
    (answer != .unreachable) = (reply != .unreachable) := by
  have reached {answer : Answer} {issued : Issued} (issues : issued? answer = some issued) :
      (answer != .unreachable) = true := by
    rcases answer with _ | _ | response
    · cases issues
    · cases issues
    · rfl
  cases alike with
  | same => rfl
  | issued issues grants => rw [reached issues, reached grants]

section Tokens

variable {client twin : Client} {network distant : Network}

/-- The tokens that are issued last to sessions side by side can be sent both or not at all. -/
theorem Parallel.isValue_eq (alike : Alike client twin network distant)
    {earlier others : List Request} {tokens : Option (String × String)}
    (parallel : Parallel client twin network distant earlier others tokens) :
    ∀ first second, tokens = some (first, second) →
      Header.isValue first = Header.isValue second := by
  induction parallel with
  | fresh => rintro _ _ ⟨⟩
  | refused _ _ _ ih => exact ih
  | issued parallel issues grants =>
    rintro _ _ ⟨⟩
    have answers := alike.logins parallel
    generalize network _ client.tokenRequest = answer at answers issues
    generalize distant _ twin.tokenRequest = reply at answers grants
    cases answers with
    | same =>
      obtain rfl := Option.some.inj (issues.symm.trans grants)
      rfl
    | issued gives deals _ safe sound =>
      obtain rfl := Option.some.inj (issues.symm.trans gives)
      obtain rfl := Option.some.inj (grants.symm.trans deals)
      rw [safe, sound]
  | resource _ _ _ ih => exact ih

end Tokens

/-! ### Sessions side by side -/

/-- Whether the requests of a session reached the server, in order. -/
def reached (session : Session) : List Bool :=
  session.exchanges.map fun exchange => exchange.answer != .unreachable

/-- The requests of a session that were attempted, in order. -/
def attempted (session : Session) : List Request :=
  session.exchanges.map Exchange.request

theorem attempted_record (environment : Environment) (session : Session) (request : Request) :
    (session.record environment request).attempted = session.attempted ++ [request] :=
  List.map_append

theorem reached_record (environment : Environment) (session : Session) (request : Request) :
    (session.record environment request).reached =
      session.reached ++ [session.answer environment request != .unreachable] :=
  List.map_append

section Relations

variable (environment distant : Environment) (client twin : Client)

/-- What two sessions side by side leave, with the tokens that they were issued last. -/
structure Logged (tokens : Option (String × String)) (session other : Session) : Prop where
  parallel : Parallel client twin environment.network distant.network session.attempted
    other.attempted tokens
  reached : session.reached = other.reached

/-- Tokens that are kept side by side. -/
inductive Matched : Option (String × String) → Option Token → Option Token → Prop
  | none : Matched none none none
  | some (first second : String) (expiry : Option Nat) :
      Matched (some (first, second)) (some ⟨first, expiry⟩) (some ⟨second, expiry⟩)

/-- Sessions that go on side by side: each keeps the token that it was issued last. -/
structure Twins (tokens : Option (String × String)) (session other : Session) : Prop where
  logged : Logged environment distant client twin tokens session other
  kept : Matched tokens session.token other.token
  readings : session.readings = other.readings

/-- Actions that end alike: with values and sessions as stated, with the same error and sessions
that go on, or when the clock cannot hold the expiry of a token. -/
inductive Coupled (post : α → β → Session → Session → Prop) :
    Except Stop α × Session → Except Stop β × Session → Prop
  | returned {value : α} {image : β} {session other : Session}
      (holds : post value image session other) :
      Coupled post (.ok value, session) (.ok image, other)
  | failed {error : Client.Error} {session other : Session}
      (twins : ∃ tokens, Twins environment distant client twin tokens session other) :
      Coupled post (.error (.failed error), session) (.error (.failed error), other)
  | overflowed {session other : Session}
      (logged : ∃ tokens, Logged environment distant client twin tokens session other) :
      Coupled post (.error .clockOverflow, session) (.error .clockOverflow, other)

end Relations

section Rules

variable {environment distant : Environment} {client twin : Client}
  {tokens : Option (String × String)} {session other : Session}

theorem twins_fresh : Twins environment distant client twin none fresh fresh where
  logged := ⟨.fresh, rfl⟩
  kept := .none
  readings := rfl

/-- Requests that arrive or not together leave sessions side by side. -/
theorem Logged.record {issued : Option (String × String)} {request counterpart : Request}
    (logged : Logged environment distant client twin tokens session other)
    (parallel : Parallel client twin environment.network distant.network
      (session.attempted ++ [request]) (other.attempted ++ [counterpart]) issued)
    (reached : (session.answer environment request != .unreachable) =
      (other.answer distant counterpart != .unreachable)) :
    Logged environment distant client twin issued (session.record environment request)
      (other.record distant counterpart) where
  parallel := by rwa [attempted_record, attempted_record]
  reached := by rw [reached_record, reached_record, logged.reached, reached]

/-- Actions one behind another end alike if each one does. -/
theorem Coupled.bind {action : Action α} {image : Action β} {next : α → Action γ}
    {follow : β → Action δ} {middle : α → β → Session → Session → Prop}
    {post : γ → δ → Session → Session → Prop}
    (first : Coupled environment distant client twin middle (action.run.run session)
      (image.run.run other))
    (second : ∀ value matched after beside, middle value matched after beside →
      Coupled environment distant client twin post ((next value).run.run after)
        ((follow matched).run.run beside)) :
    Coupled environment distant client twin post ((action >>= next).run.run session)
      ((image >>= follow).run.run other) := by
  rw [run_bind, run_bind]
  generalize action.run.run session = result at first
  generalize image.run.run other = outcome at first
  cases first with
  | returned holds => exact second _ _ _ _ holds
  | failed twins => exact .failed twins
  | overflowed logged => exact .overflowed logged

end Rules

/-! ### Logins -/

section Equations

variable {environment : Environment} {client : Client} {session : Session}

/-- Without a way to send anything a login fails at once. -/
theorem run_login_of_closed (closed : client.canSend = false) :
    (login environment client).run.run session =
      (.error (.failed (.request client.tokenUrl.text)), session) := by
  rcases ran : (login environment client).run.run session with ⟨result, after⟩
  obtain ⟨own, login⟩ := login_login ran
  cases login with
  | unsent => rfl
  | failed opened | overflow opened | kept opened => cases closed.symm.trans opened

/-- A login that issues no token fails. -/
theorem run_login_of_refused {error : Client.Error} (opened : client.canSend = true)
    (refused : loginError? client (session.answer environment client.tokenRequest) = some error) :
    (login environment client).run.run session =
      (.error (.failed error), session.record environment client.tokenRequest) := by
  have unissued {issued : Issued}
      (issues : issued? (session.answer environment client.tokenRequest) = some issued) :
      False := by
    rw [loginError?_eq_none_iff.2 ⟨issued, issues⟩] at refused
    cases refused
  rcases ran : (login environment client).run.run session with ⟨result, after⟩
  obtain ⟨own, login⟩ := login_login ran
  cases login with
  | unsent closed => cases closed.symm.trans opened
  | failed _ fails =>
    obtain rfl := Option.some.inj (refused.symm.trans fails)
    rfl
  | overflow _ issues | kept _ issues => exact (unissued issues).elim

/-- Whether the clock can hold the expiry of a token that is issued now. -/
def fits (environment : Environment) (session : Session) (expiresIn : Option Nat) : Bool :=
  expiresIn.all fun seconds => (after? (environment.clock session.readings) seconds).isSome

/-- A login that issues a token keeps it, if the clock can hold its expiry. -/
theorem run_login_of_issued {issued : Issued} (opened : client.canSend = true)
    (issues : issued? (session.answer environment client.tokenRequest) = some issued) :
    (login environment client).run.run session =
      if fits environment session issued.expiresIn then
        (.ok issued.token,
          (session.record environment client.tokenRequest).keep environment issued)
      else
        (.error .clockOverflow,
          { session.record environment client.tokenRequest with
            readings := session.readings + 1 }) := by
  rcases ran : (login environment client).run.run session with ⟨result, after⟩
  obtain ⟨own, login⟩ := login_login ran
  cases login with
  | unsent closed => cases closed.symm.trans opened
  | failed _ refused =>
    rw [loginError?_eq_none_iff.2 ⟨issued, issues⟩] at refused
    cases refused
  | overflow _ gives expires late =>
    obtain rfl := Option.some.inj (issues.symm.trans gives)
    have unfit : fits environment session issued.expiresIn = false := by
      rw [fits, expires, Option.all_some, late, Option.isSome_none]
    rw [unfit, if_neg Bool.false_ne_true]
  | kept _ gives holds =>
    obtain rfl := Option.some.inj (issues.symm.trans gives)
    have fit : fits environment session issued.expiresIn = true := by
      rw [fits]
      exact (Option.all_eq_true_iff_get ..).2 fun expires => holds _ (Option.some_get expires).symm
    rw [fit, if_pos rfl]

end Equations

section Actions

variable {environment distant : Environment} {client twin : Client}
  (alike : Alike client twin environment.network distant.network) (agree : client.Agree twin)
  (clocks : environment.clock = distant.clock)
  {tokens : Option (String × String)} {session other : Session}

include agree in
/-- Equal answers to logins are refused alike. -/
theorem loginError?_eq (answer : Answer) :
    loginError? client answer = loginError? twin answer := by
  unfold loginError?
  rw [agree.realm, agree.tokenUrl]

include clocks in
/-- Logins that issue tokens which last equally long end alike. -/
theorem login_coupled_of_issued {first second : Issued}
    (twins : Twins environment distant client twin tokens session other)
    (opened : client.canSend = true) (reaches : twin.canSend = true)
    (issues : issued? (session.answer environment client.tokenRequest) = some first)
    (grants : issued? (other.answer distant twin.tokenRequest) = some second)
    (lasts : first.expiresIn = second.expiresIn)
    (reached : (session.answer environment client.tokenRequest != .unreachable) =
      (other.answer distant twin.tokenRequest != .unreachable)) :
    Coupled environment distant client twin
      (fun token renewed after beside =>
        Twins environment distant client twin (some (token, renewed)) after beside)
      ((login environment client).run.run session) ((login distant twin).run.run other) := by
  have logged := twins.logged.record (.issued twins.logged.parallel issues grants) reached
  have together : fits distant other second.expiresIn =
      fits environment session first.expiresIn := by
    rw [fits, fits, lasts, clocks, twins.readings]
  rw [run_login_of_issued opened issues, run_login_of_issued reaches grants, together]
  cases fits environment session first.expiresIn with
  | false => exact .overflowed ⟨_, logged.parallel, logged.reached⟩
  | true =>
    refine .returned ⟨⟨logged.parallel, logged.reached⟩, ?_, ?_⟩
    · have expiry : (second.tokenAt (distant.clock other.readings)).expiry =
          (first.tokenAt (environment.clock session.readings)).expiry := by
        rw [Issued.tokenAt, Issued.tokenAt, lasts, clocks, twins.readings]
      have kept := Matched.some first.token second.token
        (first.tokenAt (environment.clock session.readings)).expiry
      nth_rewrite 2 [← expiry] at kept
      exact kept
    · show session.readings + _ = other.readings + _
      rw [twins.readings, lasts]

include alike agree clocks in
/-- Logins end alike, and the sessions go on with the tokens that they are issued. -/
theorem login_coupled (twins : Twins environment distant client twin tokens session other) :
    Coupled environment distant client twin
      (fun token renewed after beside =>
        Twins environment distant client twin (some (token, renewed)) after beside)
      ((login environment client).run.run session) ((login distant twin).run.run other) := by
  cases opened : client.canSend with
  | false =>
    rw [run_login_of_closed opened, run_login_of_closed (agree.canSend.symm.trans opened),
      agree.tokenUrl]
    exact .failed ⟨tokens, twins⟩
  | true =>
    have reaches : twin.canSend = true := agree.canSend.symm.trans opened
    have answers : LoginsAlike (session.answer environment client.tokenRequest)
      (other.answer distant twin.tokenRequest) := alike.logins twins.logged.parallel
    have reached := answers.reached
    cases first : issued? (session.answer environment client.tokenRequest) with
    | some issued =>
      have grants : ∃ second, issued? (other.answer distant twin.tokenRequest) = some second ∧
          issued.expiresIn = second.expiresIn := by
        generalize session.answer environment client.tokenRequest = answer at answers first
        generalize other.answer distant twin.tokenRequest = reply at answers
        cases answers with
        | same => exact ⟨issued, first, rfl⟩
        | issued issues grants lasts =>
          obtain rfl := Option.some.inj (first.symm.trans issues)
          exact ⟨_, grants, lasts⟩
      obtain ⟨second, grants, lasts⟩ := grants
      exact login_coupled_of_issued clocks twins opened reaches first grants lasts reached
    | none =>
      have same : session.answer environment client.tokenRequest =
          other.answer distant twin.tokenRequest := by
        generalize session.answer environment client.tokenRequest = answer at answers first
        cases answers with
        | same => rfl
        | issued issues => cases first.symm.trans issues
      obtain ⟨error, refused⟩ : ∃ error,
          loginError? client (session.answer environment client.tokenRequest) = some error := by
        refine Option.ne_none_iff_exists'.1 fun accepted => ?_
        obtain ⟨issued, issues⟩ := loginError?_eq_none_iff.1 accepted
        cases first.symm.trans issues
      have denied : loginError? twin (other.answer distant twin.tokenRequest) = some error := by
        rw [← same, ← loginError?_eq agree, refused]
      have ungranted : issued? (other.answer distant twin.tokenRequest) = none := by
        rw [← same, first]
      have logged := twins.logged.record (.refused twins.logged.parallel first ungranted) reached
      rw [run_login_of_refused opened refused, run_login_of_refused reaches denied]
      exact .failed ⟨tokens, logged, twins.kept, twins.readings⟩

/-! ### Requests with a token -/

theorem run_sendWith (url : Url) (token : String) :
    (sendWith environment client url token).run.run session =
      match client.resourceRequest? url token with
      | some request => (send environment client url request).run.run session
      | none => (.error (.failed (.request url.text)), session) := by
  rw [sendWith]
  cases client.resourceRequest? url token <;> rfl

include alike agree in
/-- The tokens that were issued last are sent both or not at all. -/
theorem resourceRequest?_isSome_eq {first second : String}
    (logged : Logged environment distant client twin (some (first, second)) session other)
    (url : Url) :
    (client.resourceRequest? url first).isSome = (twin.resourceRequest? url second).isSome := by
  have safe := logged.parallel.isValue_eq alike first second rfl
  rw [← agree.resourceRequest?]
  have shown := Client.withoutAuthorization_resourceRequest? client url safe
  simpa only [Option.isSome_map] using congrArg Option.isSome shown

include alike agree in
/-- Requests with the tokens that were issued last end alike, with the same response. -/
theorem sendWith_coupled {first second : String}
    (twins : Twins environment distant client twin (some (first, second)) session other)
    (url : Url) :
    Coupled environment distant client twin
      (fun response result after beside => response = result ∧
        ∃ tokens, Twins environment distant client twin tokens after beside)
      ((sendWith environment client url first).run.run session)
      ((sendWith distant twin url second).run.run other) := by
  have sends := resourceRequest?_isSome_eq alike agree twins.logged url
  rw [run_sendWith, run_sendWith]
  cases made : client.resourceRequest? url first with
  | none =>
    rw [made] at sends
    rw [Option.not_isSome_iff_eq_none.1 (Bool.eq_false_iff.1 sends.symm)]
    exact .failed ⟨_, twins⟩
  | some request =>
    rw [made] at sends
    obtain ⟨counterpart, matched⟩ := Option.isSome_iff_exists.1 sends.symm
    rw [matched]
    dsimp only
    rw [run_send, run_send, ← agree.canSend]
    cases client.canSend with
    | false => exact .failed ⟨_, twins⟩
    | true =>
      have same : session.answer environment request = other.answer distant counterpart :=
        alike.resources twins.logged.parallel made matched
      have logged := twins.logged.record (.resource twins.logged.parallel made matched)
        (by rw [same])
      have after : Twins environment distant client twin (some (first, second))
          (session.record environment request) (other.record distant counterpart) :=
        ⟨logged, twins.kept, twins.readings⟩
      rw [if_pos rfl, if_pos rfl, same]
      cases (other.answer distant counterpart).response? with
      | none => exact .failed ⟨_, after⟩
      | some response => exact .returned ⟨rfl, _, after⟩

/-! ### Fetching resources -/

include clocks in
/-- Tokens that are kept side by side are stale together. -/
theorem isStale_eq (twins : Twins environment distant client twin tokens session other) :
    session.isStale environment = other.isStale distant := by
  have kept := twins.kept
  rw [isStale, isStale, clocks, twins.readings]
  generalize session.token = token at kept
  generalize other.token = renewed at kept
  cases kept <;> rfl

/-- Looking at the tokens leaves sessions side by side. -/
theorem Twins.checked (twins : Twins environment distant client twin tokens session other) :
    Twins environment distant client twin tokens session.checked other.checked where
  logged := ⟨twins.logged.parallel, twins.logged.reached⟩
  kept := twins.kept
  readings := by
    have kept := twins.kept
    show session.readings + _ = other.readings + _
    rw [twins.readings]
    generalize session.token = token at kept
    generalize other.token = renewed at kept
    cases kept <;> rfl

include alike agree clocks in
/-- Tokens for a request are obtained alike. -/
theorem accessToken_coupled
    (twins : Twins environment distant client twin tokens session other) :
    Coupled environment distant client twin
      (fun token renewed after beside =>
        Twins environment distant client twin (some (token, renewed)) after beside)
      ((accessToken environment client).run.run session)
      ((accessToken distant twin).run.run other) := by
  have requested := login_coupled alike agree clocks twins.checked
  have kept := twins.checked
  rw [run_accessToken, run_accessToken, isStale_eq clocks twins]
  cases other.isStale distant with
  | true => exact requested
  | false =>
    have tokens := twins.kept
    generalize session.token = token at tokens
    generalize other.token = renewed at tokens
    cases tokens with
    | none => exact requested
    | some first second expiry => exact .returned kept

include alike agree clocks in
/-- Requests with their retry end alike, with the same response. -/
theorem sendAuthorized_coupled
    (twins : Twins environment distant client twin tokens session other) (url : Url) :
    Coupled environment distant client twin
      (fun response result after beside => response = result ∧
        ∃ tokens, Twins environment distant client twin tokens after beside)
      ((sendAuthorized environment client url).run.run session)
      ((sendAuthorized distant twin url).run.run other) := by
  rw [sendAuthorized, sendAuthorized]
  refine .bind (accessToken_coupled alike agree clocks twins) fun token renewed _ _ twins => ?_
  refine .bind (sendWith_coupled alike agree twins url) fun response result after beside same => ?_
  obtain ⟨rfl, tokens, twins⟩ := same
  by_cases rejected : response.status = unauthorized
  · rw [if_pos rejected, if_pos rejected]
    refine .bind (login_coupled alike agree clocks twins) fun token renewed _ _ twins => ?_
    exact sendWith_coupled alike agree twins url
  · rw [if_neg rejected, if_neg rejected]
    exact .returned ⟨rfl, tokens, twins⟩

include alike agree clocks in
/-- Resources are fetched alike. -/
theorem fetch_coupled
    (twins : Twins environment distant client twin tokens session other) (resource : Resource) :
    Coupled environment distant client twin
      (fun document found after beside => document = found ∧
        ∃ tokens, Twins environment distant client twin tokens after beside)
      ((fetch environment client resource).run.run session)
      ((fetch distant twin resource).run.run other) := by
  rw [fetch, fetch, ← agree.resourceUrl]
  refine .bind (sendAuthorized_coupled alike agree clocks twins _) fun response _ after beside => ?_
  rintro ⟨rfl, going⟩
  cases response.isSuccess with
  | true => exact .returned ⟨rfl, going⟩
  | false => exact .failed going

end Actions

/-! ### Runs -/

section Runs

variable (environment distant : Environment) (client twin : Client)

/-- Runs that end together, with related values and sessions that go on, or both abruptly. -/
inductive Together (same : α → β → Prop) : Option α × Session → Option β × Session → Prop
  | ended {value : α} {image : β} {session other : Session} (holds : same value image)
      (twins : ∃ tokens, Twins environment distant client twin tokens session other) :
      Together same (some value, session) (some image, other)
  | stopped {session other : Session}
      (logged : ∃ tokens, Logged environment distant client twin tokens session other) :
      Together same (none, session) (none, other)

/-- The results of plans that are carried out one after another, up to one that ends abruptly. -/
def runEach : List ((α : Type) × Plan α) → Session → List ((α : Type) × Option α) × Session
  | [], session => ([], session)
  | ⟨α, plan⟩ :: rest, session =>
      match run environment client plan session with
      | (some value, after) =>
          (⟨α, some value⟩ :: (runEach rest after).1, (runEach rest after).2)
      | (none, after) => ([⟨α, none⟩], after)

variable {environment distant client twin}

theorem Together.logged {same : α → β → Prop} {first : Option α × Session}
    {second : Option β × Session}
    (together : Together environment distant client twin same first second) :
    ∃ tokens, Logged environment distant client twin tokens first.2 second.2 := by
  cases together with
  | ended _ twins =>
    obtain ⟨tokens, twins⟩ := twins
    exact ⟨tokens, twins.logged⟩
  | stopped logged => exact logged

variable (alike : Alike client twin environment.network distant.network)
  (agree : client.Agree twin) (clocks : environment.clock = distant.clock)
  {tokens : Option (String × String)} {session other : Session}
include alike agree clocks

/-- Steps end together, with the same reply. -/
theorem step_coupled (twins : Twins environment distant client twin tokens session other)
    (resource : Resource) :
    Together environment distant client twin Eq (step environment client resource session)
      (step distant twin resource other) := by
  have fetched := fetch_coupled alike agree clocks twins resource
  unfold step
  generalize (fetch environment client resource).run.run session = first at fetched
  generalize (fetch distant twin resource).run.run other = second at fetched
  cases fetched with
  | returned holds =>
    obtain ⟨rfl, twins⟩ := holds
    exact .ended rfl twins
  | failed twins => exact .ended rfl twins
  | overflowed logged => exact .stopped logged

/-- Runs of a plan end together, with the same value. -/
theorem run_coupled (plan : Plan α)
    (twins : ∃ tokens, Twins environment distant client twin tokens session other) :
    Together environment distant client twin Eq (run environment client plan session)
      (run distant twin plan other) := by
  induction plan generalizing session other with
  | done value => exact .ended rfl twins
  | fetch resource next ih =>
    obtain ⟨tokens, twins⟩ := twins
    have stepped := step_coupled alike agree clocks twins resource
    rw [run_fetch, run_fetch]
    generalize step environment client resource session = first at stepped
    generalize step distant twin resource other = second at stepped
    cases stepped with
    | ended same twins =>
      obtain rfl := same
      exact ih _ twins
    | stopped logged => exact .stopped logged

/-- Plans one after another give the same results, and leave sessions side by side. -/
theorem runEach_coupled (plans : List ((α : Type) × Plan α))
    (twins : ∃ tokens, Twins environment distant client twin tokens session other) :
    (runEach environment client plans session).1 = (runEach distant twin plans other).1 ∧
      ∃ tokens, Logged environment distant client twin tokens
        (runEach environment client plans session).2 (runEach distant twin plans other).2 := by
  induction plans generalizing session other with
  | nil =>
    obtain ⟨tokens, twins⟩ := twins
    exact ⟨rfl, tokens, twins.logged⟩
  | cons entry rest ih =>
    obtain ⟨α, plan⟩ := entry
    have ran := run_coupled alike agree clocks plan twins
    rw [runEach, runEach]
    generalize run environment client plan session = first at ran
    generalize run distant twin plan other = second at ran
    cases ran with
    | ended same twins =>
      obtain rfl := same
      obtain ⟨results, logged⟩ := ih twins
      exact ⟨congrArg (List.cons _) results, logged⟩
    | stopped logged => exact ⟨rfl, logged⟩

/-- Sessions are started together, with the two clients. -/
theorem start_coupled {config settings : Config} (built : Client.build config = .ok client)
    (matched : Client.build settings = .ok twin)
    (eagerness : config.initialLogin = settings.initialLogin) :
    Together environment distant client twin
      (fun opened counterpart => (opened = .ok client ∧ counterpart = .ok twin) ∨
        ∃ error, opened = .error error ∧ counterpart = .error error)
      (start environment config) (start distant settings) := by
  rw [start, start, built, matched, ← eagerness]
  cases config.initialLogin with
  | false => exact .ended (.inl ⟨rfl, rfl⟩) ⟨none, twins_fresh⟩
  | true =>
    have initial : Twins environment distant client twin none fresh fresh := twins_fresh
    have logged := login_coupled alike agree clocks initial
    dsimp only
    rw [if_pos rfl, if_pos rfl]
    generalize (login environment client).run.run fresh = first at logged
    generalize (login distant twin).run.run fresh = second at logged
    cases logged with
    | returned twins => exact .ended (.inl ⟨rfl, rfl⟩) ⟨_, twins⟩
    | failed twins => exact .ended (.inr ⟨_, rfl, rfl⟩) twins
    | overflowed logged => exact .stopped logged

end Runs

end RealmLookup.Session
