import Knxd.Routing.LinkChanges
import Knxd.Routing.Rounds

/-!
# The watchdog of a link

One timer of a link has two tasks: in `L_wait_retry` it ends the pause before the next
attempt, and while a link that is up has not taken its last frame it notices a driver
that hangs.  It should run in these two situations only, and in both of them.  Leaving
`L_up` stops the timer; so does a redundant request to go up, which leaves the link
where it is.  In a run with one `Router::start` no link that is up gets such a request.
-/

namespace Knxd.Watchdog

open Memory LPDU Link Routing LinkChanges LinkConnect Transition Rounds

/-- The timer runs exactly while it is needed.  A link that goes up has no frame, and a
server never has one. -/
structure Watched (link : LinkConnect) : Prop where
  timer : link.retryTimer ↔ link.state = .waitRetry ∨ link.busy
  rising : link.state = .goingUp → link.sendMore
  server : link.isServer → link.sendMore

section Links

variable {link base after : LinkConnect} {newState : LConnState} {effect : Effect}

theorem Watched.same (hwatched : Watched link) (hsame : SameLink link after) : Watched after where
  timer := by
    rw [busy, hsame.retryTimer, hsame.state, hsame.sendMore]
    exact hwatched.timer
  rising := by
    rw [hsame.state, hsame.sendMore]
    exact hwatched.rising
  server := by
    rw [hsame.isServer, hsame.sendMore]
    exact hwatched.server

/-- Outside of its two tasks the timer does not run. -/
theorem Watched.stopped (hwatched : Watched link) (hwait : link.state ≠ .waitRetry)
    (hup : link.state ≠ .up) : link.retryTimer = false := by
  by_contra hruns
  obtain hstate | hbusy := hwatched.timer.1 (by simpa using hruns)
  · exact hwait hstate
  · exact hup hbusy.1

theorem Watched.fresh {new : List Call} (hfresh : Fresh link new) : Watched link := by
  refine ⟨?_, fun _ => hfresh.sendMore, fun _ => hfresh.sendMore⟩
  rw [busy, hfresh.retryTimer, hfresh.sendMore]
  obtain ⟨hstate, -⟩ | ⟨hstate, -⟩ := hfresh.state <;> simp [hstate]

section

variable (htimer : link.retryTimer = false)
include htimer

/-- A link that neither waits nor is up nor on its way up. -/
theorem Watched.idle (hserver : link.isServer → link.sendMore)
    (hwait : link.state ≠ .waitRetry) (hup : link.state ≠ .up) (hgoing : link.state ≠ .goingUp) :
    Watched link := by
  refine ⟨?_, fun hstate => absurd hstate hgoing, hserver⟩
  simp [busy, htimer, hwait, hup]

/-- A link that is up and has taken its last frame. -/
theorem Watched.ready (hsend : link.sendMore) (hup : link.state = .up) : Watched link := by
  refine ⟨?_, fun _ => hsend, fun _ => hsend⟩
  simp [busy, htimer, hup, hsend]

theorem Watched.start (hserver : link.isServer → link.sendMore)
    (hgoing : link.state = .goingUp) : Watched link.start := by
  unfold LinkConnect.start
  split
  · next hlink =>
    refine ⟨?_, fun _ => hserver hlink, hserver⟩
    simp [busy, htimer, hgoing]
  · refine ⟨?_, fun _ => rfl, fun _ => rfl⟩
    simp [busy, htimer, hgoing]

/-- The `retry` label arms the timer together with `L_wait_retry`. -/
theorem Watched.retry (hserver : link.isServer → link.sendMore) : Watched link.retry.1 := by
  unfold LinkConnect.retry
  split
  · exact ⟨by simp, by simp, hserver⟩
  · exact .idle htimer hserver (by simp) (by simp) (by simp)

end

/-- The timer after the state was assigned. -/
theorem retryTimer_enter (htimer : link.state ≠ .waitRetry → link.state ≠ .up →
      link.retryTimer = false) (hnew : newState ≠ .up) :
    (link.enter newState).retryTimer = false := by
  simp only [enter]
  split
  · rfl
  · next hkept =>
    simp only [not_or, not_and_or, not_not, hnew, or_false] at hkept
    exact htimer hkept.1 hkept.2

/-- A transition leaves the timer as the new state needs it.  Before the transition the
timer may already have fired. -/
theorem watched_setState {result : LinkConnect × Effect}
    (htable : link.setState newState = .ok result)
    (htimer : link.state ≠ .waitRetry → link.state ≠ .up → link.retryTimer = false)
    (hrising : link.state = .goingUp → link.sendMore) (hserver : link.isServer → link.sendMore)
    (hidle : newState = .goingUp → ¬ link.busy) (hne : link.state ≠ newState) :
    Watched result.1 := by
  have hentered : newState ≠ .up → (link.enter newState).retryTimer = false :=
    retryTimer_enter htimer
  unfold setState at htable
  rw [if_neg hne] at htable
  dsimp only at htable
  split at htable
  case h_5 hup =>
      -- the redundant request
      cases htable
      refine .ready (hentered (by simp)) ?_ rfl
      have hsend : link.sendMore = true := by simpa [busy, hup] using hidle rfl
      exact hsend
  case h_9 hgoing =>
      cases htable
      refine .ready ?_ (hrising hgoing) rfl
      have hstopped := htimer (by simp [hgoing]) (by simp [hgoing])
      simp [enter, hstopped]
  case h_1 | h_13 =>
      cases htable
      exact .start (hentered (by simp)) hserver rfl
  case h_11 | h_15 | h_17 | h_19 | h_21 =>
      cases htable
      exact .retry (hentered (by simp)) hserver
  case h_24 => cases htable
  all_goals
    cases htable
    exact .idle (hentered (by simp)) hserver (by simp [enter])
      (by simp [enter]) (by simp [enter])

end Links

section Runs

variable {router next : Router} {event : Event} {key : ℕ} {link after : LinkConnect}

/-- What a step does to a link keeps the timer in accordance with its state. -/
theorem Watched.change (hwatched : Watched link) {new : List Call}
    (hidle : router.request event = some (key, .set .goingUp) → ¬ link.busy)
    (hchange : Change router event key link after new) : Watched after := by
  cases hchange with
  | kept hsame | asked _ hsame => exact hwatched.same hsame
  | acknowledged =>
    refine ⟨?_, fun _ => rfl, fun _ => rfl⟩
    by_cases hup : link.state = .up
    · simp [busy, hup]
    · simp [busy, hup, hwatched.timer]
  | sent hup hserver =>
    refine ⟨?_, fun hgoing => ?_, fun hlink => ?_⟩
    · simp [busy, hup]
    · cases hup.symm.trans hgoing
    · cases hserver.symm.trans hlink
  | expired hbusy hwait =>
    refine ⟨?_, hwatched.rising, hwatched.server⟩
    simpa [busy, hwait] using hbusy
  | @requested base _ newState _ hrequest hreadied htable =>
    cases hreadied with
    | plain _ hsame =>
      have hbase := hwatched.same hsame
      by_cases hne : base.state = newState
      · rw [setState, if_pos hne] at htable
        cases htable
        exact hbase
      · refine watched_setState htable hbase.stopped hbase.rising hbase.server ?_ hne
        rintro rfl
        rw [busy, hsame.state, hsame.sendMore]
        exact hidle hrequest
    | overdue _ hbusy =>
      refine watched_setState htable (fun _ hup => absurd hbusy.1 hup) hwatched.rising
        hwatched.server (by simp) ?_
      simp [hbusy.1]
    | retry _ hwait =>
      refine watched_setState htable (fun hne => absurd hwait hne) hwatched.rising
        hwatched.server (fun _ hbusy => ?_) ?_
      · cases hwait.symm.trans hbusy.1
      · simp [hwait]
  | rejected _ hreadied htable =>
    cases hreadied with
    | plain _ hsame => exact hwatched.same hsame
    | overdue _ hbusy => simp [setState, hbusy.1] at htable
    | retry _ hwait => simp [setState, hwait] at htable

/-- A link that is asked to go up has no frame. -/
theorem not_busy_of_goingUp (honce : Once router) (hstep : step router event = some next)
    (hobject : router.object key = some link)
    (hrequest : router.request event = some (key, .set .goingUp)) : ¬ link.busy := by
  rintro ⟨hup, -⟩
  have hstate := router.stateOf_of_object key hobject
  obtain ⟨-, hwait⟩ | ⟨huntold, -⟩ := honce.goingUp hstep hrequest
  · rw [hstate, hup] at hwait
    cases hwait
  · cases hup.symm.trans (honce.down key link.state huntold hstate)

theorem watched_step (hwatched : ∀ key link, router.object key = some link → Watched link)
    (honce : Once router) (hstep : step router event = some next) :
    ∀ key link, next.object key = some link → Watched link := by
  intro key after hafter
  cases hobject : router.object key with
  | none =>
    obtain ⟨new, -, hfresh⟩ := fresh_of_step hstep hobject hafter
    exact .fresh hfresh
  | some link =>
    obtain ⟨_, new, hfound, -, hchange⟩ := changes_of_step hstep hobject
    obtain rfl := Option.some.inj (hfound.symm.trans hafter)
    exact (hwatched key link hobject).change (not_busy_of_goingUp honce hstep hobject) hchange

end Runs

/-- In every run with one `Router::start`, the timer of a link runs exactly while the link
waits for a retry or for its `send_Next()`. -/
theorem watchdog_armed {addr : Addr} {router : Router}
    (hpath : Path step StartsOnce (boot addr) router) {key : ℕ} {link : LinkConnect}
    (hobject : router.object key = some link) :
    link.retryTimer ↔ link.state = .waitRetry ∨ link.state = .up ∧ link.sendMore = false := by
  have hwatched := hpath.invariant
    (fun router => Once router ∧ ∀ key link, router.object key = some link → Watched link)
    ⟨once_boot addr, fun _ _ hnone => by cases hnone⟩
    fun _ _ _ hinv hevent hstep => ⟨hinv.1.step hevent hstep, watched_step hinv.2 hinv.1 hstep⟩
  exact (hwatched.2 key link hobject).timer

/-- Two links have got a frame, and the second one is done with it. -/
theorem watchdog_armed_distributing : ∃ router link,
    Transition.runAllowed step StartsOnce (boot 0) (FlowControl.bringUp ++ FlowControl.distribute) =
      some router ∧ router.object 0 = some link ∧ link.busy ∧
    (link.retryTimer ↔ link.state = .waitRetry ∨ link.state = .up ∧ link.sendMore = false) := by
  obtain ⟨router, hrouter, link, hlink, hbusy⟩ : ∃ router, runAllowed step StartsOnce (boot 0)
      (FlowControl.bringUp ++ FlowControl.distribute) = some router ∧
      ∃ link, router.object 0 = some link ∧ link.busy := by decide +kernel
  exact ⟨router, link, hrouter, hlink, hbusy, watchdog_armed (path_of_runAllowed hrouter) hlink⟩

end Knxd.Watchdog
