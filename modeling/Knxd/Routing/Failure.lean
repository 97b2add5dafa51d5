import Knxd.Routing.LinkChanges
import Knxd.Routing.Lifecycle

/-!
# How a link fails

A driver that fails is stopped first.  Only when it has stopped, the link decides
between another attempt and `L_error`.  Drivers may report an error more than once, and
the router may stop a link at any time in between, so the decision is reached on several
ways through the table.  One pair of states breaks the rule: an error that is reported in
an error state takes the link to `L_error` at once.
-/

namespace Knxd.Failure

open Memory LPDU Link Routing LinkChanges LinkConnect Transition
open Transition (Path anyEvent)

/-- `stop()` was called since the last `start()`. -/
def askedToStop : List Call → Bool
  | [] => false
  | .stop :: _ => true
  | .start :: _ => false
  | _ :: older => askedToStop older

/-- `start()` was called and the driver has answered neither `started()` nor
`stopped()`. -/
def starting : List Call → Bool
  | [] => false
  | .start :: _ => true
  | .started :: _ | .stopped _ :: _ => false
  | _ :: older => starting older

/-- Reports of the driver do not change that it was asked to stop. -/
@[simp]
theorem askedToStop_callback (event : Event) (key : ℕ) (older : List Call) :
    askedToStop (event.callback key ++ older) = askedToStop older := by
  cases event with
  | started | stopped | errored =>
    rw [Event.callback]
    split <;> rfl
  | _ => rfl

/-- A link that is going up has a driver that is starting, and one that is going down
has a driver that was asked to stop. -/
def Asked (state : LConnState) (older : List Call) : Prop :=
  match state with
  | .goingUp => starting older
  | .goingDown | .goingDownError => askedToStop older
  | _ => True

variable {router next : Router} {event : Event} {older : List Call} {key : ℕ}
variable {link after : LinkConnect}

@[simp]
theorem asked_goingUp : Asked .goingUp older ↔ starting older := Iff.rfl

@[simp]
theorem asked_goingDown : Asked .goingDown older ↔ askedToStop older := Iff.rfl

@[simp]
theorem asked_goingDownError : Asked .goingDownError older ↔ askedToStop older := Iff.rfl

/-- Links that neither go up nor down. -/
@[simp]
theorem asked_of_ne {state : LConnState} (hup : state ≠ .goingUp) (hdown : state ≠ .goingDown)
    (herror : state ≠ .goingDownError) : Asked state older := by
  cases state <;> first | contradiction | trivial

@[simp]
theorem asked_retry (link : LinkConnect) : Asked link.retry.1.state older := by
  unfold retry
  split <;> simp

/-- A transition keeps `Asked`, whatever the driver reported with it. -/
theorem asked_setState {key : ℕ} {newState : LConnState} {link : LinkConnect}
    (hrequest : router.request event = some (key, .set newState))
    (hasked : Asked link.state older) :
    match link.setState newState with
    | .ok (after, effect) => Asked after.state (calls effect ++ (event.callback key ++ older))
    | .error _ => Asked link.state (event.callback key ++ older) := by
  obtain ⟨rfl, -⟩ | ⟨rfl, -⟩ | ⟨rfl, -⟩ | ⟨rfl | rfl, _⟩ := request_set_cases hrequest <;>
    cases hstate : link.state <;>
    simp_all [setState, askedToStop, starting]

theorem perLink_asked_step (hinv : PerLink Asked router) (hstep : step router event = some next) :
    PerLink Asked next := by
  refine hinv.step trivial hstep (fun key newState link hrequest _ hkey => ?_)
    fun key state hrequest hstate _ => ?_
  · exact asked_setState hrequest hkey
  · have herror := stateOf_of_stop hrequest
    rw [hstate, Option.some.injEq, Option.some.injEq] at herror
    obtain rfl | rfl := herror
    · trivial
    · rfl

/-- In every run, links go up and down together with their drivers. -/
theorem perLink_asked {addr : Addr} {allowed : Router → Event → Prop}
    (hpath : Path step allowed (boot addr) router) : PerLink Asked router :=
  hpath.invariant (PerLink Asked) (.boot Asked addr)
    fun _ _ _ hinv _ hstep => perLink_asked_step hinv hstep

/-- The driver reports no further error after an error, and after an error it stops
only if it was asked to, or before it had started. -/
def ReportsOnce (router : Router) : Event → Prop
  | .errored key => router.stateOf key ≠ some .upError ∧ router.stateOf key ≠ some .goingDownError
  | .stopped key _ => router.stateOf key = some .upError →
      askedToStop (lifecycle key router.log) ∨ starting (lifecycle key router.log)
  | _ => True

instance (router : Router) : (event : Event) → Decidable (ReportsOnce router event)
  | .errored _ => inferInstanceAs (Decidable (_ ∧ _))
  | .stopped _ _ => inferInstanceAs (Decidable (_ → _))
  | .resume | .ret | .started _ | .sendNext _ | .addresses _ _ _ _ | .registerLink _ _ _
  | .unregisterLink _ | .rehash _ | .start | .stop | .stateTrigger | .retryTimer _
  | .sendLData _ => inferInstanceAs (Decidable True)

theorem not_retryAllowed_of_retry (herror : link.retry.1.state = .error) : ¬ link.retryAllowed := by
  intro hallowed
  simp [retry, hallowed] at herror

/-- A failed link that stops goes to `L_wait_retry` or to `L_error`. -/
def fails (state : LConnState) : Prop :=
  state = .goingUp ∨ state = .upError ∨ state = .goingDownError

/-- The pairs of the table that end in `L_error`. -/
theorem error_of_setState {newState : LConnState} {result : LinkConnect × Effect}
    (htable : link.setState newState = .ok result) (herror : result.1.state = .error)
    (hbefore : link.state ≠ .error) :
    newState = .down ∧ fails link.state ∧ ¬ link.retryAllowed ∨
      newState = .error ∧ (link.state = .upError ∨ link.state = .goingDownError) := by
  unfold setState at htable
  split at htable
  · cases htable
    exact absurd herror hbefore
  · dsimp only at htable
    split at htable
    all_goals first
      | (next hstate _ => exact absurd hstate hbefore)
      | (next hstate _ =>
        cases htable
        have hdenied : ¬ (link.enter .down).retryAllowed := not_retryAllowed_of_retry herror
        exact .inl ⟨rfl, by simp [fails, hstate], hdenied⟩)
      | (cases htable
         simp at herror
         done)
      | (next hstate _ => exact .inr ⟨rfl, by simp [hstate]⟩)
      | cases htable

/-- `stopped()` of a failed link with retries left. -/
theorem waitRetry_of_stopped (hfails : fails link.state) (hallowed : link.retryAllowed) :
    ∃ effect, link.setState .down = .ok ({ link.enter .down with
      state := .waitRetry, retryTimer := true }, effect) := by
  have hretry : (link.enter .down).retryAllowed := hallowed
  obtain hstate | hstate | hstate := hfails <;>
    exact ⟨.retryLater, by simp [setState, hstate, retry, hretry]⟩

/-- A link enters `L_error` in a step only if its driver reports `stopped()` and no
retry is left, or reports an error in an error state. -/
theorem error_of_change {new : List Call} (hchange : Change router event key link after new)
    (herror : after.state = .error) (hbefore : link.state ≠ .error) :
    (∃ answer, event = .stopped key answer) ∧ fails link.state ∧ ¬ link.retryAllowed ∨
      event = .errored key ∧ (link.state = .upError ∨ link.state = .goingDownError) := by
  cases hchange with
  | kept hsame | asked _ hsame => exact absurd (hsame.state.symm.trans herror) hbefore
  | acknowledged | sent | expired => exact absurd herror hbefore
  | @requested _ _ _ _ hrequest hreadied htable =>
    cases hreadied with
    | plain htimer hsame =>
      rw [← hsame.state, ← hsame.retryAllowed]
      obtain ⟨rfl, hfails, hdenied⟩ | ⟨rfl, hstate⟩ :=
        error_of_setState htable herror (hsame.state ▸ hbefore)
      · exact .inl ⟨by simpa using request_set_cases hrequest, hfails, hdenied⟩
      · have hevent : event = .errored key := by
          simpa [htimer] using request_set_cases hrequest
        exact .inr ⟨hevent, hstate⟩
    | overdue _ hbusy =>
      -- the link is up and goes to `L_up_error`
      obtain ⟨⟨⟩, -⟩ | ⟨-, hstate⟩ := error_of_setState htable herror hbefore
      have hup : link.state = .up := hbusy.1
      simp [hup] at hstate
    | retry => obtain ⟨⟨⟩, -⟩ | ⟨⟨⟩, -⟩ := error_of_setState htable herror hbefore
  | rejected _ hreadied =>
    refine absurd herror ?_
    cases hreadied with
    | plain _ hsame => rwa [hsame.state]
    | overdue | retry => exact hbefore

/-- What it takes to enter `L_error` in a step: the driver was asked to stop or was still
starting, it reports `stopped()`, and the retries are used up or there are none.  A link
with retries left goes to `L_wait_retry` instead. -/
structure ErrorEarned (router : Router) (event : Event) (next : Router) (key : ℕ) : Prop where
  entered : router.stateOf key ≠ some .error → next.stateOf key = some .error →
    (∃ answer, event = .stopped key answer) ∧
      (askedToStop (lifecycle key router.log) ∨ starting (lifecycle key router.log)) ∧
      ∃ link, router.object key = some link ∧ link.maxRetries ≤ link.retries ∧
        (link.maxRetries = 0 → link.retryDelay ≤ 0)
  otherwise : ∀ answer link, event = .stopped key answer → router.object key = some link →
    fails link.state → link.retryAllowed → next.stateOf key = some .waitRetry

theorem waitRetry_of_step {answer : Answer} (hstep : step router (.stopped key answer) = some next)
    (hobject : router.object key = some link) (hfails : fails link.state)
    (hallowed : link.retryAllowed) : next.stateOf key = some .waitRetry := by
  cases steps_of_step hstep with
  | stopped =>
    obtain ⟨_, htable⟩ := waitRetry_of_stopped hfails hallowed
    exact (Router.setState_of_ok (by exact hobject) htable).1

/-- The driver of a failed link that stops was asked to, or was starting. -/
theorem asked_of_fails (hasked : Asked link.state (lifecycle key router.log)) {answer : Answer}
    (honce : ReportsOnce router (.stopped key answer)) (hobject : router.object key = some link)
    (hfails : fails link.state) :
    askedToStop (lifecycle key router.log) ∨ starting (lifecycle key router.log) := by
  obtain hstate | hstate | hstate := hfails
  · rw [hstate] at hasked
    exact .inr hasked
  · exact honce (by rw [router.stateOf_of_object key hobject, hstate])
  · rw [hstate] at hasked
    exact .inl hasked

/-- In every run, a step in which no driver reports a second error, or stops by itself
after an error, takes a link to `L_error` only if that is earned. -/
theorem error_earned {addr : Addr} {router next : Router} {event : Event}
    (hpath : Path step anyEvent (boot addr) router) (honce : ReportsOnce router event)
    (hstep : step router event = some next) (key : ℕ) : ErrorEarned router event next key := by
  refine ⟨fun hbefore hafter => ?_, fun answer link hevent hobject hfails hallowed => ?_⟩
  · obtain ⟨_, hobjectAfter, herror⟩ := Router.exists_object_of_stateOf hafter
    cases hobject : router.object key with
    | none =>
      obtain ⟨new, -, hfresh⟩ := fresh_of_step hstep hobject hobjectAfter
      obtain ⟨hstate, -⟩ | ⟨hstate, -⟩ := hfresh.state <;> cases hstate.symm.trans herror
    | some link =>
      have hstate := router.stateOf_of_object key hobject
      have hasked : Asked link.state (lifecycle key router.log) :=
        (perLink_asked hpath).of_some hstate
      have hlink : link.state ≠ .error := by
        intro hsame
        exact hbefore (hsame ▸ hstate)
      obtain ⟨_, new, hfound, -, hchange⟩ := changes_of_step hstep hobject
      obtain rfl := Option.some.inj (hfound.symm.trans hobjectAfter)
      obtain ⟨⟨answer, rfl⟩, hfails, hdenied⟩ | ⟨rfl, hstateError⟩ :=
        error_of_change hchange herror hlink
      · refine ⟨⟨answer, rfl⟩, asked_of_fails hasked honce hobject hfails, link, rfl, ?_⟩
        simp only [retryAllowed, not_or, not_and] at hdenied
        omega
      · obtain ⟨hup, hdown⟩ := honce
        rw [hstate] at hup hdown
        obtain hsame | hsame := hstateError
        · exact absurd (congrArg some hsame) hup
        · exact absurd (congrArg some hsame) hdown
  · subst hevent
    exact waitRetry_of_step hstep hobject hfails hallowed

/-- A link comes up, fails inside its `start()`, and is stopped by the state trigger. -/
def failOnce (config : LinkConnect) : List Event :=
  [.registerLink 0 config false, .start, .resume, .started 0, .errored 0, .ret, .resume, .resume,
    .resume, .resume, .resume, .stateTrigger, .resume, .resume, .resume, .resume, .resume]

/-- A link without retries: it was asked to stop, has stopped, and rests in `L_error`. -/
theorem error_earned_once : ∃ router next,
    Transition.run step (boot 0) (failOnce {}) = some router ∧
    step router (.stopped 0 .stop) = some next ∧ next.stateOf 0 = some .error ∧
    ErrorEarned router (.stopped 0 .stop) next 0 := by
  obtain ⟨router, hrouter, honce, next, hnext, herror⟩ : ∃ router,
      run step (boot 0) (failOnce {}) = some router ∧ ReportsOnce router (.stopped 0 .stop) ∧
      ∃ next, step router (.stopped 0 .stop) = some next ∧ next.stateOf 0 = some .error := by
    decide +kernel
  exact ⟨router, next, hrouter, hnext, herror, error_earned (path_of_run hrouter) honce hnext 0⟩

/-- The driver obeys its contract and reports two errors in a row: the link is in
`L_error` although it is retried without limit and its driver was never asked to stop. -/
theorem error_unearned_reached : ∃ router next, Path step Lifecycle.ObeysContract (boot 0) router ∧
    Lifecycle.ObeysContract router (.errored 0) ∧ step router (.errored 0) = some next ∧
    router.stateOf 0 = some .upError ∧ next.stateOf 0 = some .error ∧
    lifecycle 0 next.log = [.errored, .errored, .started, .start] ∧
    ∃ link, next.object 0 = some link ∧ link.retryAllowed := by
  obtain ⟨router, hrouter, hobeys, hbefore, next, hnext, hafter⟩ : ∃ router,
      runAllowed step Lifecycle.ObeysContract (boot 0) ((failOnce { retryDelay := 5 }).take 5) =
        some router ∧ Lifecycle.ObeysContract router (.errored 0) ∧
      router.stateOf 0 = some .upError ∧ ∃ next, step router (.errored 0) = some next ∧
        next.stateOf 0 = some .error ∧
        lifecycle 0 next.log = [.errored, .errored, .started, .start] ∧
        ∃ link, next.object 0 = some link ∧ link.retryAllowed := by decide +kernel
  exact ⟨router, next, path_of_runAllowed hrouter, hobeys, hnext, hbefore, hafter⟩

end Knxd.Failure
