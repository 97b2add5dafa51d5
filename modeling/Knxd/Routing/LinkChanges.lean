import Knxd.Routing.FlowControl
import Knxd.Routing.Stack

/-!
# What a step does to one link

The decomposition of a step into bookkeeping and a request speaks about connection
states and calls.  The retry counter, the retry timer and `send_more` change in more
places: `send_Next` and `send_L_Data` of the link, and `retry_timer_cb`.  This module
lists, for a link of any key, everything that a step can do to it.
-/

namespace Knxd.LinkChanges

open Memory LPDU Link Routing Function Router Option

variable {newState : LConnState} {after : LinkConnect}

structure SameLink (link after : LinkConnect) : Prop where
  state : after.state = link.state
  retries : after.retries = link.retries
  retryTimer : after.retryTimer = link.retryTimer
  sendMore : after.sendMore = link.sendMore
  isServer : after.isServer = link.isServer
  retryDelay : after.retryDelay = link.retryDelay
  maxRetries : after.maxRetries = link.maxRetries

theorem SameLink.refl (link : LinkConnect) : SameLink link link :=
  ⟨rfl, rfl, rfl, rfl, rfl, rfl, rfl⟩

theorem SameLink.retryAllowed {link after : LinkConnect} (hsame : SameLink link after) :
    after.retryAllowed ↔ link.retryAllowed := by
  unfold LinkConnect.retryAllowed
  rw [hsame.retries, hsame.retryDelay, hsame.maxRetries]

/-- The link as it meets a request: `retry_timer_cb` has noted that the timer fired, or
all that the state machine reads is as before. -/
inductive Readied (event : Event) (key : ℕ) (link : LinkConnect) : LConnState → LinkConnect → Prop
  | plain {newState : LConnState} {base : LinkConnect} :
      event ≠ .retryTimer key → SameLink link base → Readied event key link newState base
  | overdue : event = .retryTimer key → link.busy →
      Readied event key link .error { link with retryTimer := false }
  | retry : event = .retryTimer key → link.state = .waitRetry → Readied event key link .goingUp
        { link with retryTimer := false, retries := link.retries + 1 }

/-- What a step can do to a link, with the calls it adds to those that start, stop or
answer. -/
inductive Change (router : Router) (event : Event) (key : ℕ) (link : LinkConnect) :
    LinkConnect → List Call → Prop
  | kept {after : LinkConnect} : SameLink link after → Change router event key link after []
  /-- `LinkConnect::send_Next`. -/
  | acknowledged : Change router event key link
        { link with
          sendMore := true
          retryTimer := if link.state = .up then false else link.retryTimer } []
  /-- `LinkConnect::send_L_Data`. -/
  | sent : link.state = .up → link.isServer = false →
      Change router event key link { link with sendMore := false, retryTimer := true } []
  /-- The retry timer fires and nobody waited for it. -/
  | expired : ¬ link.busy → link.state ≠ .waitRetry →
      Change router event key link { link with retryTimer := false } []
  /-- `state_trigger_cb` calls `stop()` directly. -/
  | asked {after : LinkConnect} :
      link.state = .upError ∨ link.state = .goingDownError → SameLink link after →
      Change router event key link after [.stop]
  | requested {base after : LinkConnect} {newState : LConnState} {effect : Effect} :
      router.request event = some (key, .set newState) →
      Readied event key link newState base → base.setState newState = .ok (after, effect) →
      Change router event key link after (calls effect ++ event.callback key)
  | rejected {base : LinkConnect} {newState : LConnState} {fault : Fault} :
      router.request event = some (key, .set newState) →
      Readied event key link newState base → base.setState newState = .error fault →
      Change router event key link base (event.callback key)

/-- A step changed a link as listed, and its calls accordingly. -/
def Changes (router : Router) (event : Event) (next : Router) (key : ℕ) (link : LinkConnect) :
    Prop :=
  ∃ after new, next.object key = some after ∧
    lifecycle key next.log = new ++ lifecycle key router.log ∧
    Change router event key link after new

variable {router prepared next : Router} {event : Event} {key other : ℕ} {link base : LinkConnect}

theorem Changes.kept (hobject : next.object key = some base)
    (hlog : lifecycle key next.log = lifecycle key router.log) (hsame : SameLink link base) :
    Changes router event next key link :=
  ⟨base, [], hobject, hlog, .kept hsame⟩

/-- The step does nothing to the links. -/
theorem Changes.of_fields (hobject : router.object key = some link)
    (hsame : next.object = router.object) (hlog : next.log = router.log) :
    Changes router event next key link :=
  .kept (hsame ▸ hobject) (by rw [hlog]) (.refl link)

/-- A request to no link, or to another one. -/
theorem Changes.perform_other {request : Option (ℕ × Request)}
    (hrequest : ∀ asked, request ≠ some (key, asked)) (hobject : prepared.object key = some base)
    (hlog : lifecycle key prepared.log = lifecycle key router.log) (hsame : SameLink link base) :
    Changes router event (prepared.perform request) key link := by
  refine .kept ?_ ((Router.perform_other hrequest).2.trans hlog) hsame
  match request with
  | none => exact hobject
  | some (other, .set newState) =>
    have hother : key ≠ other := by
      rintro rfl
      exact hrequest _ rfl
    exact (FlowControl.object_setState_other hother).trans hobject
  | some (other, .stop) => exact hobject

theorem object_setState_of_ok {effect : Effect} (hobject : prepared.object key = some base)
    (htable : base.setState newState = .ok (after, effect)) :
    (prepared.setState key newState).object key = some after := by
  cases effect <;> simp [setState, hobject, htable, follow, setLink,
    linkStateChanged, callDriver, record, push]

/-- A request to the link itself. -/
theorem Changes.setState (hrequest : router.request event = some (key, .set newState))
    (hobject : prepared.object key = some base)
    (hlog : lifecycle key prepared.log = event.callback key ++ lifecycle key router.log)
    (hreadied : Readied event key link newState base) :
    Changes router event (prepared.setState key newState) key link := by
  cases htable : base.setState newState with
  | error =>
    rw [setState_of_error hobject htable]
    exact ⟨base, _, hobject, hlog, .rejected hrequest hreadied htable⟩
  | ok result =>
    obtain ⟨after, _⟩ := result
    refine ⟨after, _, object_setState_of_ok hobject htable, ?_, .requested hrequest hreadied htable⟩
    rw [(setState_of_ok hobject htable).2.1, hlog, List.append_assoc]

/-- Bookkeeping before a request: at most one link gets the number of the round. -/
structure Stamps (router prepared : Router) : Prop where
  log : prepared.log = router.log
  object : prepared.object = router.object ∨ ∃ key link, router.object key = some link ∧
    prepared.object = (router.setLink key { link with seq := router.seq }).object

/-- A function that goes on does some bookkeeping, and then what it requests. -/
def Performs (router : Router) (pending : Pending) (next : Router) : Prop :=
  ∃ prepared, next = prepared.perform (router.requestOf pending) ∧ Stamps router prepared

theorem Stamps.same {router prepared : Router} (hlog : prepared.log = router.log)
    (hobject : prepared.object = router.object) : Stamps router prepared :=
  ⟨hlog, .inl hobject⟩

theorem Stamps.object_of_some {router prepared : Router} (hstamps : Stamps router prepared)
    {key : ℕ} {link : LinkConnect} (hobject : router.object key = some link) :
    ∃ base, prepared.object key = some base ∧ SameLink link base := by
  obtain hsame | ⟨visited, found, hvisited, hstamped⟩ := hstamps.object
  · exact ⟨link, by rw [hsame, hobject], .refl link⟩
  · by_cases hkey : key = visited
    · subst hkey
      obtain rfl := some.inj (hobject.symm.trans hvisited)
      refine ⟨{ link with seq := router.seq }, ?_, rfl, rfl, rfl, rfl, rfl, rfl, rfl⟩
      rw [hstamped]
      exact update_self _ _ _
    · refine ⟨link, ?_, .refl link⟩
      rw [hstamped, ← hobject]
      exact update_of_ne hkey _ _

/-- All functions but the loop of `send_L_Data`. -/
theorem performs_resume (router : Router) {pending : Pending} (hkind : pending.kind ≠ .send) :
    Performs router pending (router.resume pending) := by
  obtain ⟨base, hasks | ⟨hstops, -, hnone, hobject⟩, hsettled⟩ := proceeds_resume router hkind
  · exact ⟨base, hasks, hsettled.log, hsettled.object⟩
  · have hstop : base.stop.log = base.log ∧ base.stop.object = base.object := by
      unfold stop
      split <;> exact ⟨rfl, rfl⟩
    refine ⟨base.stop, ?_, .same (hstop.1.trans hsettled.log) (hstop.2.trans hobject)⟩
    rw [hstops, hnone]
    rfl

/-- What a link meets when a function other than `send_L_Data` goes on. -/
theorem Performs.changes {pending : Pending} {rest : List Pending}
    (hstack : router.stack = pending :: rest)
    (hperforms : Performs { router with stack := rest } pending next)
    (hobject : router.object key = some link) : Changes router .resume next key link := by
  obtain ⟨prepared, rfl, hstamps⟩ := hperforms
  have hrequest : router.request .resume = { router with stack := rest }.requestOf pending := by
    rw [request, hstack]
    rfl
  rw [← hrequest]
  obtain ⟨base, hbase, hsame⟩ := hstamps.object_of_some hobject
  have hlog : lifecycle key prepared.log = lifecycle key router.log := by rw [hstamps.log]
  by_cases hasked : ∃ request, router.request .resume = some (key, request)
  · obtain ⟨request, hasked⟩ := hasked
    rw [hasked]
    cases request with
    | set => exact .setState hasked hbase hlog (.plain (by simp) hsame)
    | stop =>
      have hstate := stateOf_of_stop hasked
      rw [router.stateOf_of_object key hobject, some.injEq, some.injEq] at hstate
      refine ⟨base, [.stop], hbase, ?_, .asked hstate hsame⟩
      simp [perform, callDriver, push, hlog]
  · push Not at hasked
    exact .perform_other hasked hbase hlog hsame

/-- What a link meets when the loop of `send_L_Data` goes on. -/
theorem changes_sendLoop {frame : LDataPDU} {found : Bool} {rest : List ℕ} {stack : List Pending}
    (hobject : router.object key = some link) :
    Changes router event ({ router with stack }.sendLoop frame found rest) key link := by
  cases rest with
  | nil =>
    simp only [sendLoop, sendNext]
    split_ifs <;> exact .of_fields hobject rfl rfl
  | cons target =>
    simp only [sendLoop]
    split
    · exact .of_fields hobject rfl rfl
    next found hfound =>
    split
    · next hready =>
      simp only [linkSendLData]
      split
      · exact .of_fields hobject rfl rfl
      next hserver =>
      by_cases hkey : key = target
      · subst hkey
        obtain rfl := some.inj (hobject.symm.trans hfound)
        refine ⟨_, [], update_self _ _ _, ?_, .sent hready.2.1 (by simpa using hserver)⟩
        simp [callDriver, push, setLink]
      · refine .kept ((update_of_ne hkey _ _).trans hobject) ?_ (.refl link)
        simp [callDriver, push, setLink]
    · exact .of_fields hobject rfl rfl

/-- A callback of a driver, which asks its own link for a state. -/
theorem changes_callback {call : Call}
    (hrequest : router.request event = some (other, .set newState))
    (hcalls : ∀ key, lifecycle key (router.record other call).log =
      event.callback key ++ lifecycle key router.log) (htimer : ∀ key, event ≠ .retryTimer key)
    (hobject : router.object key = some link) :
    Changes router event ((router.record other call).setState other newState) key link := by
  by_cases hkey : key = other
  · subst hkey
    exact .setState hrequest hobject (hcalls key) (.plain (htimer key) (.refl link))
  · have hother : ∀ asked, some (other, Request.set newState) ≠ some (key, asked) := by
      intro asked hsame
      cases hsame
      exact hkey rfl
    have hnone : event.callback key = [] := Event.callback_eq_nil fun asked => by
      rw [hrequest]
      exact hother asked
    have hlog := hcalls key
    rw [hnone] at hlog
    have hchanges : Changes router event
        ((router.record other call).perform (some (other, .set newState))) key link :=
      .perform_other hother hobject hlog (.refl link)
    exact hchanges

/-- `retry_timer_cb`. -/
theorem changes_retryTimer {fired : LinkConnect} (hfired : router.object other = some fired)
    (hobject : router.object key = some link) :
    Changes router (.retryTimer other) (router.retryTimer other fired) key link := by
  by_cases hkey : key = other
  · subst hkey
    obtain rfl := some.inj (hobject.symm.trans hfired)
    simp only [retryTimer]
    split_ifs with hbusy hwait
    · refine .setState ?_ (update_self _ _ _) rfl (.overdue rfl hbusy)
      simp [request, hobject, hbusy]
    · refine .setState ?_ (update_self _ _ _) rfl (.retry rfl hwait)
      simp [request, hobject, hwait]
    · exact ⟨_, [], update_self _ _ _, rfl, .expired hbusy hwait⟩
  · have hset : ∀ update, (router.setLink other update).object key = some link :=
      fun update => (update_of_ne hkey _ _).trans hobject
    have hother : ∀ newState asked, some (other, Request.set newState) ≠ some (key, asked) := by
      intro newState asked hsame
      cases hsame
      exact hkey rfl
    simp only [retryTimer]
    split_ifs
    · exact .perform_other (hother .error) (hset _) rfl (.refl link)
    · exact .perform_other (hother .goingUp) (hset _) rfl (.refl link)
    · exact .kept (hset _) rfl (.refl link)

/-- `registerLink` leaves the other links alone. -/
theorem changes_registerLink (config : LinkConnect) (transient : Bool) (hkey : key ≠ other)
    (hobject : router.object key = some link) :
    Changes router (.registerLink other config transient)
      (router.registerLink other config transient) key link := by
  have hset : ∀ update, (router.setLink other update).object key = some link :=
    fun update => (update_of_ne hkey _ _).trans hobject
  simp only [registerLink]
  split
  · have hother : ∀ asked, some (other, Request.set .goingUp) ≠ some (key, asked) := by
      intro asked hsame
      cases hsame
      exact hkey rfl
    exact .perform_other hother ((update_of_ne hkey _ _).trans (hset _)) rfl (.refl link)
  · exact .kept (hset _) rfl (.refl link)

/-- Everything that a step can do to a link that exists. -/
theorem changes_of_step (hstep : step router event = some next)
    (hobject : router.object key = some link) : Changes router event next key link := by
  cases steps_of_step hstep with
  | @resume pending _ hstack =>
    by_cases hsend : pending.kind = .send
    · cases pending with
      | sendLoop => exact changes_sendLoop hobject
      | _ => cases hsend
    · exact (performs_resume _ hsend).changes hstack hobject
  | ret | unregisterLink | rehash | stateTrigger => exact .of_fields hobject rfl rfl
  | started | stopped | errored =>
    exact changes_callback rfl (fun other => by simp [Event.callback]) (by simp) hobject
  | @sendNext other found _ hfound =>
    have hnext : ∀ base : Router, base.sendNext.object = base.object ∧
        base.sendNext.log = base.log := by
      intro base
      unfold sendNext
      split_ifs <;> exact ⟨rfl, rfl⟩
    obtain ⟨hsame, hlog⟩ := hnext (router.setLink other
      { found with
        sendMore := true
        retryTimer := if found.state = .up then false else found.retryTimer })
    by_cases hkey : key = other
    · subst hkey
      obtain rfl := some.inj (hobject.symm.trans hfound)
      refine ⟨_, [], ?_, by rw [linkSendNext, hlog]; rfl, .acknowledged⟩
      rw [linkSendNext, hsame]
      exact update_self _ _ _
    · refine .kept ?_ (by rw [linkSendNext, hlog]; rfl) (.refl link)
      rw [linkSendNext, hsame]
      exact (update_of_ne hkey _ _).trans hobject
  | @addresses other _ _ _ _ _ hfound =>
    by_cases hkey : key = other
    · subst hkey
      obtain rfl := some.inj (hobject.symm.trans hfound)
      exact .kept (update_self _ _ _) rfl ⟨rfl, rfl, rfl, rfl, rfl, rfl, rfl⟩
    · exact .kept ((update_of_ne hkey _ _).trans hobject) rfl (.refl link)
  | @registerLink other config transient _ hfresh =>
    have hkey : key ≠ other := by
      rintro rfl
      cases hfresh.symm.trans hobject
    exact changes_registerLink config transient hkey hobject
  | start =>
    unfold start
    split <;> exact .of_fields hobject rfl rfl
  | stop =>
    unfold stop
    split <;> exact .of_fields hobject rfl rfl
  | retryTimer _ hfired => exact changes_retryTimer hfired hobject
  | sendLData =>
    unfold sendLData
    split <;> exact .of_fields hobject rfl rfl

/-- A link that was just constructed, with the call that started it, if any. -/
structure Fresh (after : LinkConnect) (new : List Call) : Prop where
  retries : after.retries = 0
  retryTimer : after.retryTimer = false
  sendMore : after.sendMore = true
  state : after.state = .down ∧ new = [] ∨ after.state = .goingUp ∧ new = [.start]

/-- Links come into being by `registerLink` only. -/
theorem registerLink_of_fresh (hstep : step router event = some next)
    (hnone : router.object key = none) (hafter : next.object key = some after) :
    ∃ config transient, event = .registerLink key config transient := by
  have hstate : router.stateOf key = none := by rw [stateOf, hnone, map_none]
  suffices hconstructed : event.constructed = some key by
    cases event with
    | registerLink other config transient =>
      obtain rfl : other = key := some.inj hconstructed
      exact ⟨config, transient, rfl⟩
    | _ => cases hconstructed
  by_contra hother
  have hrequest : ∀ asked, router.request event ≠ some (key, asked) := by
    intro asked hasked
    obtain ⟨state, hsome⟩ := (request_stateOf hstep hasked).resolve_right hother
    cases hstate.symm.trans hsome
  obtain ⟨_, rfl, hprepares⟩ := step_spec hstep
  have hprepared := hprepares.state key
  rw [if_neg hother, hstate, ← (perform_other hrequest).1, stateOf, hafter]
    at hprepared
  cases hprepared

/-- A new link that is started at once. -/
theorem fresh_goingUp {prepared : Router} {base : LinkConnect}
    (hobject : prepared.object key = some base) (hdown : base.state = .down)
    (hretries : base.retries = 0) (htimer : base.retryTimer = false)
    (hsend : base.sendMore = true) :
    ∃ after new, (prepared.setState key .goingUp).object key = some after ∧
      lifecycle key (prepared.setState key .goingUp).log = new ++ lifecycle key prepared.log ∧
      Fresh after new := by
  have htable : base.setState .goingUp = .ok ((base.enter .goingUp).start, .start) := by
    simp [LinkConnect.setState, hdown]
  have hentered : (base.enter .goingUp).retryTimer = false := by
    simp [LinkConnect.enter, hdown, htimer]
  refine ⟨_, [.start], object_setState_of_ok hobject htable,
    (setState_of_ok hobject htable).2.1, ?_, ?_, ?_, .inr ⟨?_, rfl⟩⟩
  · unfold LinkConnect.start
    split <;> exact hretries
  · unfold LinkConnect.start
    split <;> exact hentered
  · unfold LinkConnect.start
    split
    · exact hsend
    · rfl
  · rw [LinkConnect.start_state, LinkConnect.enter_state]

theorem fresh_registerLink (router : Router) (key : ℕ) (config : LinkConnect) (transient : Bool) :
    ∃ after new, (router.registerLink key config transient).object key = some after ∧
      lifecycle key (router.registerLink key config transient).log =
        new ++ lifecycle key router.log ∧ Fresh after new := by
  simp only [registerLink]
  split
  · exact fresh_goingUp (update_self _ _ _) rfl rfl rfl rfl
  · exact ⟨_, [], update_self _ _ _, rfl, rfl, rfl, rfl, .inl ⟨rfl, rfl⟩⟩

/-- What a new link is like. -/
theorem fresh_of_step (hstep : step router event = some next)
    (hnone : router.object key = none) (hafter : next.object key = some after) :
    ∃ new, lifecycle key next.log = new ++ lifecycle key router.log ∧ Fresh after new := by
  obtain ⟨config, transient, rfl⟩ := registerLink_of_fresh hstep hnone hafter
  cases steps_of_step hstep with
  | registerLink =>
    obtain ⟨_, new, hobject, hlog, hfresh⟩ := fresh_registerLink router key config transient
    obtain rfl := some.inj (hobject.symm.trans hafter)
    exact ⟨new, hlog, hfresh⟩

end Knxd.LinkChanges
