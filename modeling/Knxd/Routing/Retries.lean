import Knxd.Routing.Failure
import Knxd.Routing.Rounds

/-!
# How often a link is retried

`retries` is tested at the `retry` label, incremented when the retry timer fires, and
reset when the link is up.  To compare it with the number of times that the driver was
started, a run is followed together with two counters of one link, which begin anew
whenever the link is up.  A start by the retry timer costs one retry; the router's own
starts are free, and with one `Router::start` there is at most one of them.
-/

namespace Knxd.Retries

open Memory LPDU Link Routing LinkChanges LinkConnect Transition Option Rounds
open Shutdown (startsOf startsOf_step count_start_callback count_start_calls)
open Failure (error_of_change fails)
open Transition (Path)

def firesTimer (key : ℕ) : Event → Bool
  | .retryTimer other => other == key
  | _ => false

/-- A router, and the calls of `start()` for one link since that link was last up.
Those that the retry timer did not make are also counted in `begun`. -/
structure Attempts where
  router : Router
  starts : ℕ := 0
  begun : ℕ := 0

def attempt (key : ℕ) (attempts : Attempts) (event : Event) : Option Attempts :=
  (step attempts.router event).map fun router =>
    if router.stateOf key = some .up then { router }
    else
      let started := startsOf key router - startsOf key attempts.router
      { router
        starts := attempts.starts + started
        begun := attempts.begun + if firesTimer key event then 0 else started }

/-- No driver reports a second error before it has stopped. -/
def ErrsOnce (router : Router) : Event → Prop
  | .errored key => router.stateOf key ≠ some .upError ∧ router.stateOf key ≠ some .goingDownError
  | _ => True

instance (router : Router) : (event : Event) → Decidable (ErrsOnce router event)
  | .errored _ => inferInstanceAs (Decidable (_ ∧ _))
  | .resume | .ret | .started _ | .stopped _ _ | .sendNext _ | .addresses _ _ _ _
  | .registerLink _ _ _ | .unregisterLink _ | .rehash _ | .start | .stop | .stateTrigger
  | .retryTimer _ | .sendLData _ => inferInstanceAs (Decidable True)

section Links

variable {router : Router} {event : Event} {key : ℕ} {link after : LinkConnect} {new : List Call}
variable {newState : LConnState} {result : LinkConnect × Effect}

/-- The fields that decide about another attempt: only a link that comes up resets its
counter, and the configuration stays. -/
structure KeepsBudget (link after : LinkConnect) : Prop where
  retries : after.retries = link.retries ∨ after.state = .up ∧ after.retries = 0
  retryDelay : after.retryDelay = link.retryDelay
  maxRetries : after.maxRetries = link.maxRetries

theorem keepsBudget_retry (link : LinkConnect) : KeepsBudget link link.retry.1 := by
  unfold retry
  split <;> exact ⟨.inl rfl, rfl, rfl⟩

theorem keepsBudget_start (link : LinkConnect) : KeepsBudget link link.start := by
  unfold start
  split <;> exact ⟨.inl rfl, rfl, rfl⟩

theorem KeepsBudget.of_enter (hkeeps : KeepsBudget (link.enter newState) after) :
    KeepsBudget link after :=
  ⟨hkeeps.retries, hkeeps.retryDelay, hkeeps.maxRetries⟩

theorem keepsBudget_setState (htable : link.setState newState = .ok result) :
    KeepsBudget link result.1 := by
  have hretry : KeepsBudget link (link.enter newState).retry.1 :=
    .of_enter (keepsBudget_retry (link.enter newState))
  have hstart : KeepsBudget link (link.enter newState).start :=
    .of_enter (keepsBudget_start (link.enter newState))
  unfold setState at htable
  split at htable
  · cases htable
    exact ⟨.inl rfl, rfl, rfl⟩
  · dsimp only at htable
    split at htable
    case h_9 =>
        cases htable
        exact ⟨.inr ⟨rfl, rfl⟩, rfl, rfl⟩
    case h_24 => cases htable
    all_goals
      cases htable
      first
        | exact hretry
        | exact hstart
        | exact ⟨.inl rfl, rfl, rfl⟩

theorem count_start_new (effect : Effect) (event : Event) (key : ℕ) :
    (calls effect ++ event.callback key).count .start = if effect = .start then 1 else 0 := by
  rw [List.count_append, count_start_callback, Nat.add_zero, count_start_calls]

/-- The counter of a link against the number of starts: each start that the router did
not begin has cost a retry. -/
structure Spent (starts begun : ℕ) (link : LinkConnect) : Prop where
  nonneg : 0 ≤ link.retries
  starts : (starts : ℤ) ≤ link.retries + begun
  bound : 0 < link.maxRetries → link.retries ≤ link.maxRetries

structure Budget (starts begun : ℕ) (link : LinkConnect) : Prop extends
    Spent starts begun link where
  waiting : link.state = .waitRetry → 0 < link.maxRetries → link.retries < link.maxRetries

variable {starts begun : ℕ}

theorem Budget.same (hbudget : Budget starts begun link) (hsame : SameLink link after) :
    Budget starts begun after := by
  refine ⟨⟨?_, ?_, ?_⟩, ?_⟩
  · rw [hsame.retries]
    exact hbudget.nonneg
  · rw [hsame.retries]
    exact hbudget.starts
  · rw [hsame.retries, hsame.maxRetries]
    exact hbudget.bound
  · rw [hsame.retries, hsame.maxRetries, hsame.state]
    exact hbudget.waiting

/-- The counters as a step leaves them: a link that is up begins anew. -/
def Recount (starts begun : ℕ) (link : LinkConnect) : Prop :=
  if link.state = .up then Budget 0 0 link else Budget starts begun link

theorem Budget.recount (hbudget : Budget starts begun link) : Recount starts begun link := by
  unfold Recount
  split
  · exact ⟨⟨hbudget.nonneg, by simpa using hbudget.nonneg, hbudget.bound⟩, hbudget.waiting⟩
  · exact hbudget

/-- The starts of the router itself are free. -/
theorem Spent.more (hspent : Spent starts begun link) (started : ℕ) :
    Spent (starts + started) (begun + started) link := by
  refine ⟨hspent.nonneg, ?_, hspent.bound⟩
  have hstarts := hspent.starts
  push_cast
  omega

/-- A transition, after its start has been counted. -/
theorem Spent.setState (hspent : Spent starts begun link) (hnew : newState ≠ .waitRetry)
    (htable : link.setState newState = .ok result) : Recount starts begun result.1 := by
  obtain ⟨hretries, -, hmax⟩ := keepsBudget_setState htable
  obtain hsame | ⟨hup, hzero⟩ := hretries
  · refine Budget.recount ⟨⟨?_, ?_, ?_⟩, fun hwait hpositive => ?_⟩
    · rw [hsame]
      exact hspent.nonneg
    · rw [hsame]
      exact hspent.starts
    · rw [hsame, hmax]
      exact hspent.bound
    · obtain ⟨-, -, hallowed⟩ := Shutdown.waitRetry_of_setState htable hwait hnew
      rw [hmax] at hpositive
      rw [hsame, hmax]
      unfold retryAllowed at hallowed
      omega
  · rw [Recount, if_pos hup]
    refine ⟨⟨hzero.ge, by rw [hzero]; simp, fun hpositive => ?_⟩, fun hwait => ?_⟩
    · rw [hzero]
      exact hpositive.le
    · cases hup.symm.trans hwait

theorem firesTimer_eq_false (htimer : event ≠ .retryTimer key) : firesTimer key event = false := by
  cases event with
  | retryTimer =>
    refine beq_eq_false_iff_ne.2 fun hother => htimer ?_
    rw [hother]
  | _ => rfl

/-- What a step does to a link, with the counters that belong to it. -/
theorem Budget.change (hbudget : Budget starts begun link)
    (hchange : Change router event key link after new) :
    Recount (starts + new.count .start)
      (begun + if firesTimer key event then 0 else new.count .start) after := by
  -- a change without a start
  have hidle : ∀ {other : LinkConnect}, Budget starts begun other →
      Recount (starts + 0) (begun + if firesTimer key event then 0 else 0) other := by
    intro other hother
    simpa using hother.recount
  cases hchange with
  | kept hsame | asked _ hsame => exact hidle (hbudget.same hsame)
  | acknowledged | sent | expired =>
    exact hidle ⟨⟨hbudget.nonneg, hbudget.starts, hbudget.bound⟩, hbudget.waiting⟩
  | @requested _ _ newState effect hrequest hreadied htable =>
    have hnew : newState ≠ .waitRetry := by
      rintro rfl
      simpa using request_set_cases hrequest
    rw [count_start_new]
    cases hreadied with
    | plain htimer hsame =>
      rw [firesTimer_eq_false htimer]
      exact ((hbudget.same hsame).toSpent.more _).setState hnew htable
    | overdue =>
      have heffect : effect ≠ .start := fun hstart => by
        cases Shutdown.goingUp_of_start htable hstart
      rw [if_neg heffect]
      have hspent : Spent (starts + 0) (begun + if firesTimer key event then 0 else 0)
          { link with retryTimer := false } := by
        simpa using ⟨hbudget.nonneg, hbudget.starts, hbudget.bound⟩
      exact hspent.setState hnew htable
    | retry hevent hwait =>
      -- the start is paid with a retry
      have heffect : effect = .start := by
        simp only [setState, hwait] at htable
        exact (Prod.mk.inj (Except.ok.inj htable)).2.symm
      have hfires : firesTimer key event = true := by simp [hevent, firesTimer]
      rw [if_pos heffect, hfires]
      refine Spent.setState ⟨?_, ?_, fun hpositive => ?_⟩ hnew htable
      · exact Int.add_nonneg hbudget.nonneg (by decide)
      · have hstarts := hbudget.starts
        push_cast
        omega
      · exact hbudget.waiting hwait hpositive
  | rejected _ hreadied htable =>
    rw [count_start_callback]
    cases hreadied with
    | plain _ hsame => exact hidle (hbudget.same hsame)
    | overdue _ hbusy => simp [setState, hbusy.1] at htable
    | retry _ hwait => simp [setState, hwait] at htable

theorem KeepsBudget.retryAllowed (hkeeps : KeepsBudget link after) (hup : after.state ≠ .up) :
    after.retryAllowed ↔ link.retryAllowed := by
  unfold LinkConnect.retryAllowed
  rw [hkeeps.retries.resolve_right fun hreset => hup hreset.1, hkeeps.retryDelay, hkeeps.maxRetries]

/-- On the way to `L_error` nothing is paid. -/
theorem retryAllowed_of_change (hchange : Change router event key link after new)
    (herror : after.state = .error) : after.retryAllowed ↔ link.retryAllowed := by
  have hup : after.state ≠ .up := by simp [herror]
  cases hchange with
  | kept hsame | asked _ hsame => exact hsame.retryAllowed
  | acknowledged | sent | expired => exact Iff.rfl
  | requested _ hreadied htable =>
    have hkeeps := (keepsBudget_setState htable).retryAllowed hup
    cases hreadied with
    | plain _ hsame => exact hkeeps.trans hsame.retryAllowed
    | overdue => exact hkeeps
    | retry _ hwait =>
      simp only [setState, hwait] at htable
      obtain rfl := (Prod.mk.inj (Except.ok.inj htable)).1
      simp at herror
  | rejected _ hreadied htable =>
    cases hreadied with
    | plain _ hsame => exact hsame.retryAllowed
    | overdue => exact Iff.rfl
    | retry _ hwait => simp [setState, hwait] at htable

/-- A transition of a link in `L_error` without retries leaves it there. -/
theorem error_setState (herror : link.state = .error) (hdenied : ¬ link.retryAllowed)
    (htable : link.setState newState = .ok result) :
    result.1.state = .error ∧ result.2 ≠ .start := by
  have hretry : ¬ (link.enter newState).retryAllowed := hdenied
  cases newState <;> simp [setState, herror, retry, hretry] at htable <;> simp [← htable, herror]

/-- Nothing takes a link without retries out of `L_error`. -/
theorem error_change (herror : link.state = .error) (hdenied : ¬ link.retryAllowed)
    (hchange : Change router event key link after new) :
    after.state = .error ∧ new.count .start = 0 := by
  cases hchange with
  | kept hsame | asked _ hsame => exact ⟨hsame.state.trans herror, rfl⟩
  | acknowledged | sent | expired => exact ⟨herror, rfl⟩
  | requested _ hreadied htable =>
    rw [count_start_new]
    cases hreadied with
    | plain _ hsame =>
      obtain ⟨hstate, heffect⟩ := error_setState (hsame.state.trans herror)
        (hsame.retryAllowed.not.2 hdenied) htable
      exact ⟨hstate, if_neg heffect⟩
    | overdue _ hbusy => cases herror.symm.trans hbusy.1
    | retry _ hwait => cases herror.symm.trans hwait
  | rejected _ hreadied =>
    rw [count_start_callback]
    cases hreadied with
    | plain _ hsame => exact ⟨hsame.state.trans herror, rfl⟩
    | overdue | retry => exact ⟨herror, rfl⟩

/-- Where no driver reports a second error, a link in `L_error` has no retries left. -/
theorem denied_change (hrests : link.state = .error → ¬ link.retryAllowed)
    (honce : ErrsOnce router event) (hobject : router.object key = some link)
    (hchange : Change router event key link after new) (herror : after.state = .error) :
    ¬ after.retryAllowed := by
  rw [retryAllowed_of_change hchange herror]
  by_cases hbefore : link.state = .error
  · exact hrests hbefore
  · obtain ⟨-, -, hdenied⟩ | ⟨rfl, hstate⟩ := error_of_change hchange herror hbefore
    · exact hdenied
    · obtain ⟨hup, hdown⟩ := honce
      rw [router.stateOf_of_object key hobject] at hup hdown
      obtain hsame | hsame := hstate
      · exact absurd (congrArg some hsame) hup
      · exact absurd (congrArg some hsame) hdown

end Links

/-- The counters of a link agree with its calls, and a link in `L_error` is at rest. -/
structure Counted (key : ℕ) (attempts : Attempts) : Prop where
  calls : PerLink Failure.Asked attempts.router
  absent : attempts.router.object key = none → attempts.starts ≤ attempts.begun
  budget : ∀ link, attempts.router.object key = some link →
    Budget attempts.starts attempts.begun link
  rests : ∀ link, attempts.router.object key = some link → link.state = .error →
    ¬ link.retryAllowed

section Runs

variable {key : ℕ} {attempts next : Attempts} {event : Event}

theorem startsOf_append {router after : Router} {new : List Call}
    (hlog : lifecycle key after.log = new ++ lifecycle key router.log) :
    startsOf key after - startsOf key router = new.count .start := by
  rw [startsOf, startsOf, hlog, List.count_append, Nat.add_sub_cancel]

theorem Budget.fresh {link : LinkConnect} {new : List Call} {starts begun : ℕ}
    (hfresh : Fresh link new) (hle : starts ≤ begun) : Budget starts begun link := by
  refine ⟨⟨hfresh.retries.ge, ?_, fun hpositive => ?_⟩, fun hwait => ?_⟩
  · rw [hfresh.retries, zero_add]
    exact_mod_cast hle
  · rw [hfresh.retries]
    exact hpositive.le
  · obtain ⟨hstate, -⟩ | ⟨hstate, -⟩ := hfresh.state <;> cases hstate.symm.trans hwait

/-- A step of the router and the counters it leaves. -/
theorem attempt_cases (hattempt : attempt key attempts event = some next) :
    step attempts.router event = some next.router ∧
      (next.router.stateOf key = some .up ∧ next.starts = 0 ∧ next.begun = 0 ∨
        next.router.stateOf key ≠ some .up ∧
        next.starts = attempts.starts + (startsOf key next.router - startsOf key attempts.router) ∧
        next.begun = attempts.begun + if firesTimer key event then 0
          else startsOf key next.router - startsOf key attempts.router) := by
  obtain ⟨router, hstep, rfl⟩ := map_eq_some_iff.1 hattempt
  by_cases hup : router.stateOf key = some .up
  · rw [if_pos hup]
    exact ⟨hstep, .inl ⟨hup, rfl, rfl⟩⟩
  · rw [if_neg hup]
    exact ⟨hstep, .inr ⟨hup, rfl, rfl⟩⟩

/-- There is no timer without a link. -/
theorem firesTimer_of_absent {router after : Router} (hstep : step router event = some after)
    (hnone : router.object key = none) : firesTimer key event = false := by
  apply firesTimer_eq_false
  rintro rfl
  cases steps_of_step hstep with
  | retryTimer _ hobject => cases hnone.symm.trans hobject

/-- A step in which the link is constructed, or does not exist. -/
theorem Counted.step_absent (hcounted : Counted key attempts)
    (hnone : attempts.router.object key = none)
    (hattempt : attempt key attempts event = some next) : Counted key next := by
  obtain ⟨hstep, hcases⟩ := attempt_cases hattempt
  have hcalls := Failure.perLink_asked_step hcounted.calls hstep
  have hle : next.starts ≤ next.begun := by
    obtain ⟨-, hstarts, hbegun⟩ | ⟨-, hstarts, hbegun⟩ := hcases
    · rw [hstarts, hbegun]
    · rw [hstarts, hbegun, firesTimer_of_absent hstep hnone]
      exact Nat.add_le_add_right (hcounted.absent hnone) _
  refine ⟨hcalls, fun _ => hle, fun link hlink => ?_, fun link hlink herror => ?_⟩
  · obtain ⟨new, -, hfresh⟩ := fresh_of_step hstep hnone hlink
    exact .fresh hfresh hle
  · obtain ⟨new, -, hfresh⟩ := fresh_of_step hstep hnone hlink
    obtain ⟨hstate, -⟩ | ⟨hstate, -⟩ := hfresh.state <;> cases hstate.symm.trans herror

/-- A step of an existing link. -/
theorem Counted.step_present (hcounted : Counted key attempts)
    (honce : ErrsOnce attempts.router event) {link : LinkConnect}
    (hobject : attempts.router.object key = some link)
    (hattempt : attempt key attempts event = some next) : Counted key next := by
  obtain ⟨hstep, hcases⟩ := attempt_cases hattempt
  have hcalls := Failure.perLink_asked_step hcounted.calls hstep
  obtain ⟨_, _, hafter, hlog, hchange⟩ := changes_of_step hstep hobject
  have hrecount := (hcounted.budget link hobject).change hchange
  rw [next.router.stateOf_of_object key hafter, startsOf_append hlog, some.injEq] at hcases
  refine ⟨hcalls, fun hnone => ?_, fun found hfound => ?_, fun found hfound => ?_⟩
  · cases hnone.symm.trans hafter
  · obtain rfl := some.inj (hafter.symm.trans hfound)
    unfold Recount at hrecount
    obtain ⟨hup, hstarts, hbegun⟩ | ⟨hup, hstarts, hbegun⟩ := hcases
    · rw [if_pos hup] at hrecount
      rwa [hstarts, hbegun]
    · rw [if_neg (by simpa using hup)] at hrecount
      rwa [hstarts, hbegun]
  · obtain rfl := some.inj (hafter.symm.trans hfound)
    exact denied_change (hcounted.rests link hobject) honce hobject hchange

theorem Counted.step (hcounted : Counted key attempts) (honce : ErrsOnce attempts.router event)
    (hattempt : attempt key attempts event = some next) : Counted key next := by
  cases hobject : attempts.router.object key with
  | none => exact hcounted.step_absent hobject hattempt
  | some => exact hcounted.step_present honce hobject hattempt

theorem counted_boot (addr : Addr) (key : ℕ) : Counted key { router := boot addr } where
  calls := .boot _ addr
  absent _ := le_rfl
  budget _ hobject := by cases hobject
  rests _ hobject := by cases hobject

/-- The router itself has started the driver at most once. -/
structure Begun (key : ℕ) (attempts : Attempts) : Prop where
  once : Once attempts.router
  begun_le : attempts.begun ≤ 1
  untold : Untold attempts.router key → attempts.begun = 0

theorem Begun.step (hbegun : Begun key attempts) (hevent : StartsOnce attempts.router event)
    (hattempt : attempt key attempts event = some next) : Begun key next := by
  obtain ⟨hstep, hcases⟩ := attempt_cases hattempt
  have honce := hbegun.once.step hevent hstep
  have hkept : next.begun = attempts.begun → Begun key next := by
    refine fun hsame => ⟨honce, hsame ▸ hbegun.begun_le, fun huntold => ?_⟩
    exact hsame.trans (hbegun.untold (huntold.before hbegun.once.stamped hstep))
  obtain ⟨-, -, hzero⟩ | ⟨-, -, hcount⟩ := hcases
  · exact ⟨honce, hzero.trans_le zero_le_one, fun _ => hzero⟩
  · obtain hsame | ⟨hrequest, hmore⟩ := startsOf_step hstep key
    · exact hkept (by simpa [hsame] using hcount)
    · obtain ⟨rfl, -⟩ | ⟨huntold, htold⟩ := hbegun.once.goingUp hstep hrequest
      · exact hkept (by simpa [firesTimer] using hcount)
      · refine ⟨honce, ?_, fun hnext => absurd hnext htold⟩
        rw [hmore, hbegun.untold huntold] at hcount
        split at hcount <;> omega

/-- A link at rest stays there, whatever happens. -/
theorem rests_forever {router later : Router} {allowed : Router → Event → Prop}
    (hlater : Path Routing.step allowed router later) {link : LinkConnect}
    (hobject : router.object key = some link) (herror : link.state = .error)
    (hdenied : ¬ link.retryAllowed) :
    later.stateOf key = some .error ∧ startsOf key later = startsOf key router := by
  have hrests := hlater.invariant (fun later => startsOf key later = startsOf key router ∧
      ∃ link, later.object key = some link ∧ link.state = .error ∧ ¬ link.retryAllowed)
    ⟨rfl, link, hobject, herror, hdenied⟩ ?_
  · obtain ⟨hstarts, found, hfound, hstate, -⟩ := hrests
    exact ⟨by rw [later.stateOf_of_object key hfound, hstate], hstarts⟩
  · rintro before event after ⟨hstarts, found, hfound, hstate, hfinal⟩ - hstep
    obtain ⟨changed, _, hchanged, hlog, hchange⟩ := changes_of_step hstep hfound
    obtain ⟨hstill, hcount⟩ := error_change hstate hfinal hchange
    refine ⟨?_, changed, hchanged, hstill, ?_⟩
    · rw [← hstarts, startsOf, startsOf, hlog, List.count_append, hcount, Nat.zero_add]
    · rwa [retryAllowed_of_change hchange hstill]

end Runs

/-- One start of the router, and no second error of a driver before it has stopped. -/
def RunsOnce (attempts : Attempts) (event : Event) : Prop :=
  StartsOnce attempts.router event ∧ ErrsOnce attempts.router event
  deriving Decidable

/-- In every run with one `Router::start` in which no driver reports a second error before
it has stopped, a link with a positive number of retries uses at most that many.  Since it
was last up, its driver was started at most once more than that, and once the link is in
`L_error` its driver is not started again. -/
theorem retries_bounded {addr : Addr} {key : ℕ} {attempts : Attempts}
    (hpath : Path (attempt key) RunsOnce { router := boot addr } attempts)
    {link : LinkConnect} (hobject : attempts.router.object key = some link)
    (hpositive : 0 < link.maxRetries) :
    link.retries ≤ link.maxRetries ∧ (attempts.starts : ℤ) ≤ link.maxRetries + 1 ∧
      (link.state = .error → ∀ later, Path step ErrsOnce attempts.router later →
        later.stateOf key = some .error ∧ startsOf key later = startsOf key attempts.router) := by
  obtain ⟨hcounted, hbegun⟩ := hpath.invariant
    (fun attempts => Counted key attempts ∧ Begun key attempts)
    ⟨counted_boot addr key, once_boot addr, zero_le_one, fun _ => rfl⟩
    fun _ _ _ hinv hevent hattempt =>
      ⟨hinv.1.step hevent.2 hattempt, hinv.2.step hevent.1 hattempt⟩
  have hbudget := hcounted.budget link hobject
  have hbound := hbudget.bound hpositive
  refine ⟨hbound, ?_, fun herror later hlater => ?_⟩
  · have hstarts := hbudget.starts
    have hfirst := hbegun.begun_le
    omega
  · exact rests_forever hlater hobject herror (hcounted.rests link hobject herror)

/-- The configuration of a link that is retried once. -/
def onceMore : LinkConnect := { retryDelay := 5, maxRetries := 1 }

def failTwice : List Event :=
  [.registerLink 0 onceMore false, .start, .resume, .stopped 0 .start, .ret] ++
    List.replicate 5 .resume ++ [.retryTimer 0, .stopped 0 .start]

/-- Two starts, one of them by the retry timer, and the link is at rest. -/
theorem retries_bounded_twice : ∃ attempts link,
    Transition.runAllowed (attempt 0) RunsOnce { router := boot 0 } failTwice = some attempts ∧
    attempts.router.object 0 = some link ∧ link.state = .error ∧ attempts.starts = 2 ∧
    link.retries ≤ link.maxRetries ∧ (attempts.starts : ℤ) ≤ link.maxRetries + 1 ∧
    (link.state = .error → ∀ later, Path step ErrsOnce attempts.router later →
      later.stateOf 0 = some .error ∧ startsOf 0 later = startsOf 0 attempts.router) := by
  obtain ⟨attempts, hattempts, link, hlink, herror, hstarts, hpositive⟩ : ∃ attempts,
      runAllowed (attempt 0) RunsOnce { router := boot 0 } failTwice = some attempts ∧
      ∃ link, attempts.router.object 0 = some link ∧ link.state = .error ∧
        attempts.starts = 2 ∧ 0 < link.maxRetries := by decide +kernel
  exact ⟨attempts, link, hattempts, hlink, herror, hstarts,
    retries_bounded (path_of_runAllowed hattempts) hlink hpositive⟩

/-- A driver that obeys its contract reports a second error while it is being stopped:
its link enters `L_error` with a retry left, goes on to `L_wait_retry` when the driver
has stopped, and is started by the retry timer. -/
theorem error_restarted_reached : ∃ rested waiting next,
    Path step Lifecycle.ObeysContract (boot 0) rested ∧ rested.stateOf 0 = some .error ∧
    Path step Lifecycle.ObeysContract rested waiting ∧
    step waiting (.retryTimer 0) = some next ∧ next.log = ⟨0, .start⟩ :: waiting.log ∧
    (rested.object 0).map (·.maxRetries) = some 1 := by
  obtain ⟨rested, hrested, herror, hmax, waiting, hwaiting, next, hnext, hlog⟩ : ∃ rested,
      runAllowed step Lifecycle.ObeysContract (boot 0)
        (Failure.failOnce onceMore ++ [.errored 0]) = some rested ∧
      rested.stateOf 0 = some .error ∧ (rested.object 0).map (·.maxRetries) = some 1 ∧
      ∃ waiting, runAllowed step Lifecycle.ObeysContract rested
        [.stopped 0 .stop, .ret, .resume, .resume, .resume] = some waiting ∧
      ∃ next, step waiting (.retryTimer 0) = some next ∧
        next.log = ⟨0, .start⟩ :: waiting.log := by decide +kernel
  exact ⟨rested, waiting, next, path_of_runAllowed hrested, herror,
    path_of_runAllowed hwaiting, hnext, hlog, hmax⟩

end Knxd.Retries
