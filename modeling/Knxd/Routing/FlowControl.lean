import Knxd.Routing.Request

/-!
# Flow control between the router and its links

The router takes the next frame only when `high_send_more` is set.  It clears the
flag when it distributes a frame and sets it again in `send_Next`, which the links
call when they are done with theirs.  While the flag is clear, some link must
therefore still owe that call.  The module shows which steps break this: those
that take the last busy link out of `L_up` or out of the link table, because
nothing calls `Router::send_Next` in its place.
-/

namespace Knxd.FlowControl

open Memory LPDU Link Routing Transition Router

/-- While the router neither accepts nor distributes a frame, some link in the
table owes it a `send_Next()`. -/
def WakeUpOwed (router : Router) : Prop :=
  router.highSendMore = false → router.highSending = false → ∃ key, router.BusyLink key

/-- The link that a step takes out of `L_up` or out of the table, if it is there. -/
def takesDown (router : Router) : Event → Option ℕ
  | .unregisterLink key => some key
  | event =>
    match router.request event with
    | some (key, .set .goingDown) => some key
    | some (key, .set .down) => some key
    | some (key, .set .error) => some key
    | _ => none

/-- The link `key` may leave `L_up`: if it is busy, the router is not waiting for it
alone. -/
def MayLeave (router : Router) (key : ℕ) : Prop :=
  router.BusyLink key → router.highSendMore = true ∨ router.highSending = true ∨
    ∃ other ∈ router.links, other ≠ key ∧ router.BusyLink other
  deriving Decidable

/-- The step does not take the last busy link away while the router waits. -/
def KeepsWakeUp (router : Router) (event : Event) : Prop :=
  ∀ key ∈ takesDown router event, MayLeave router key
  deriving Decidable

variable {router : Router} {key : ℕ} {newState : LConnState} {link update : LinkConnect}

theorem object_setState_other {other : ℕ} (hother : other ≠ key) :
    (router.setState key newState).object other = router.object other := by
  unfold setState
  split
  · rfl
  · split
    · rfl
    · next effect _ => cases effect <;> exact Function.update_of_ne hother _ _

/-- A busy link that is told again to be up stays busy. -/
theorem busy_setState (hbusy : link.busy) (hnew : newState = .up ∨ newState = .goingUp) :
    ∃ after effect, link.setState newState = .ok (after, effect) ∧ after.busy := by
  obtain ⟨hstate, hsend⟩ := hbusy
  rcases hnew with rfl | rfl
  · exact ⟨link, .unchanged, by simp [LinkConnect.setState, hstate], hstate, hsend⟩
  · refine ⟨_, _, by simp only [LinkConnect.setState, hstate]; rfl, ?_⟩
    exact ⟨rfl, hsend⟩

theorem busyLink_setState {other : ℕ} (hbusy : router.BusyLink other)
    (hkept : other ≠ key ∨ newState = .up ∨ newState = .goingUp) :
    (router.setState key newState).BusyLink other := by
  obtain ⟨hmem, link, hobject, hlink⟩ := hbusy
  refine ⟨by simpa using hmem, ?_⟩
  by_cases hother : other = key
  · subst hother
    obtain ⟨after, effect, htable, hafter⟩ := busy_setState hlink (hkept.resolve_left (· rfl))
    refine ⟨after, ?_, hafter⟩
    rw [Option.mem_def] at hobject ⊢
    cases effect <;> simp [setState, hobject, htable, follow, setLink,
      linkStateChanged, callDriver, record, push]
  · exact ⟨link, by rwa [object_setState_other hother], hlink⟩

/-- A transition that takes a busy link out of `L_up` is harmless only while the
router does not wait or another link is busy. -/
theorem WakeUpOwed.setState (howed : WakeUpOwed router)
    (hkeeps : newState = .up ∨ newState = .goingUp ∨ MayLeave router key) :
    WakeUpOwed (router.setState key newState) := by
  intro hmore hsending
  rw [setState_highSendMore] at hmore
  rw [setState_highSending] at hsending
  obtain ⟨busy, hbusy⟩ := howed hmore hsending
  by_cases hkept : busy ≠ key ∨ newState = .up ∨ newState = .goingUp
  · exact ⟨busy, busyLink_setState hbusy hkept⟩
  · push Not at hkept
    obtain ⟨rfl, hup, hgoing⟩ := hkept
    have hother := (hkeeps.resolve_left hup).resolve_left hgoing hbusy
    simp only [hmore, hsending, Bool.false_eq_true, false_or] at hother
    obtain ⟨other, _, hne, hbusy⟩ := hother
    exact ⟨other, busyLink_setState hbusy (.inl hne)⟩

theorem busyLink_setLink_iff (hobject : router.object key = some link)
    (hupdate : update.busy ↔ link.busy) (other : ℕ) :
    (router.setLink key update).BusyLink other ↔ router.BusyLink other := by
  by_cases hother : other = key
  · subst hother
    simp [BusyLink, setLink, hobject, hupdate]
  · simp [BusyLink, setLink, hother]

/-- An update that leaves a busy link busy. -/
theorem WakeUpOwed.setLink (howed : WakeUpOwed router) (hobject : router.object key = some link)
    (hupdate : link.busy → update.busy) : WakeUpOwed (router.setLink key update) := by
  intro hmore hsending
  obtain ⟨busy, hmem, found, hfound, hbusy⟩ := howed hmore hsending
  by_cases hkey : busy = key
  · subst hkey
    obtain rfl : link = found := by simpa [hobject] using hfound
    exact ⟨busy, hmem, update, by simp [setLink], hupdate hbusy⟩
  · exact ⟨busy, hmem, found, by simpa [Router.setLink, hkey] using hfound, hbusy⟩

theorem MayLeave.setLink (hleave : MayLeave router key) (hobject : router.object key = some link)
    (hupdate : update.busy ↔ link.busy) : MayLeave (router.setLink key update) key := by
  intro hbusy
  rcases hleave ((busyLink_setLink_iff hobject hupdate key).mp hbusy) with
    hmore | hsending | ⟨other, hmem, hne, hother⟩
  · exact .inl hmore
  · exact .inr (.inl hsending)
  · exact .inr (.inr ⟨other, hmem, hne, (busyLink_setLink_iff hobject hupdate other).mpr hother⟩)

/-- `Router::send_Next` either finds a busy link or sets the flag. -/
theorem wakeUpOwed_sendNext (router : Router) : WakeUpOwed router.sendNext := by
  unfold sendNext
  split_ifs with hsending hmore hbusy
  · exact fun _ hidle => absurd hsending (by simp [hidle])
  · exact fun hwaiting _ => absurd hmore (by simp [hwaiting])
  · exact fun _ _ => hbusy.imp fun _ hkey => hkey.2
  · exact fun hwaiting _ => absurd hwaiting (by simp)

theorem wakeUpOwed_stop (howed : WakeUpOwed router) : WakeUpOwed router.stop := by
  unfold stop
  split <;> exact howed

section Settled

variable {visited : Option ℕ} {pending : Pending} {base : Router}

theorem busyLink_settled (hsettled : Settled visited router pending base) (key : ℕ) :
    base.BusyLink key ↔ router.BusyLink key := by
  obtain hsame | ⟨stamped, link, -, hobject, hstamped⟩ := hsettled.stamped
  · simp [BusyLink, hsettled.links, hsame]
  · have hset : (router.setLink stamped { link with seq := router.seq }).BusyLink key ↔
        router.BusyLink key := busyLink_setLink_iff hobject (by exact Iff.rfl) key
    simp only [BusyLink, hsettled.links, hstamped] at hset ⊢
    exact hset

/-- The router waits after the bookkeeping only if it waited before. -/
theorem more_of_settled (hsettled : Settled visited router pending base)
    (hmore : base.highSendMore = false) : router.highSendMore = false := by
  obtain hsame | hset := hsettled.more
  · rwa [← hsame]
  · exact absurd (hset.symm.trans hmore) nofun

theorem WakeUpOwed.settled (howed : WakeUpOwed router)
    (hsettled : Settled visited router pending base) : WakeUpOwed base := by
  intro hmore hsending
  obtain ⟨busy, hbusy⟩ := howed (more_of_settled hsettled hmore) (hsettled.sending ▸ hsending)
  exact ⟨busy, (busyLink_settled hsettled busy).2 hbusy⟩

theorem MayLeave.settled {key : ℕ} (hleave : MayLeave router key)
    (hsettled : Settled visited router pending base) : MayLeave base key := by
  intro hbusy
  rcases hleave ((busyLink_settled hsettled key).1 hbusy) with
    hmore | hsending | ⟨other, hmem, hne, hother⟩
  · refine .inl ?_
    by_contra hclear
    exact absurd (hmore.symm.trans (more_of_settled hsettled (by simpa using hclear))) nofun
  · exact .inr (.inl (hsettled.sending.trans hsending))
  · exact .inr (.inr ⟨other, hsettled.links ▸ hmem, hne,
      (busyLink_settled hsettled other).2 hother⟩)

end Settled

private theorem wakeUpOwed_sendLoop (howed : WakeUpOwed router) (frame : LDataPDU)
    (found : Bool) (rest : List ℕ) : WakeUpOwed (router.sendLoop frame found rest) := by
  cases rest with
  | nil => exact wakeUpOwed_sendNext _
  | cons key rest =>
    simp only [sendLoop]
    split
    · exact howed
    · next link hobject =>
      split
      · unfold linkSendLData
        split
        · exact howed
        · exact WakeUpOwed.setLink howed hobject fun hbusy => ⟨hbusy.1, rfl⟩
      · exact howed

/-- The router's own code loses no wake-up, unless it takes the last busy link
down. -/
theorem wakeUpOwed_resume {pending : Pending} (howed : WakeUpOwed router)
    (hkeeps : ∀ key, router.requestOf pending = some (key, .set .goingDown) →
      MayLeave router key) : WakeUpOwed (router.resume pending) := by
  by_cases hsend : pending.kind = .send
  · cases pending with
    | sendLoop frame found rest => exact wakeUpOwed_sendLoop howed frame found rest
    | _ => cases hsend
  obtain ⟨base, hasks | ⟨hstops, -⟩, hsettled⟩ := proceeds_resume router hsend
  all_goals have hbase : WakeUpOwed base := howed.settled hsettled
  · rw [hasks]
    cases hrequest : router.requestOf pending with
    | none => exact hbase
    | some asked =>
      obtain ⟨key, _⟩ := asked
      obtain ⟨-, -, rfl | rfl | ⟨rfl, -⟩⟩ := requestOf_cases hrequest
      · exact hbase.setState (.inr (.inl rfl))
      · exact hbase.setState (.inr (.inr ((hkeeps key hrequest).settled hsettled)))
      · exact hbase
  · rw [hstops]
    exact wakeUpOwed_stop hbase

theorem wakeUpOwed_registerLink {key : ℕ} (config : LinkConnect) (transient : Bool)
    (howed : WakeUpOwed router) (hfresh : router.object key = none) :
    WakeUpOwed (router.registerLink key config transient) := by
  have hentered : ∀ entered : Router, entered.highSendMore = router.highSendMore →
      entered.highSending = router.highSending → entered.links = router.links ++ [key] →
      (∀ other, other ≠ key → entered.object other = router.object other) →
      WakeUpOwed entered := by
    intro entered hmore hsending hlinks hobject hwaiting hidle
    obtain ⟨busy, hmem, link, hlink, hbusy⟩ := howed (hmore ▸ hwaiting) (hsending ▸ hidle)
    have hother : busy ≠ key := by
      rintro rfl
      simp [hfresh] at hlink
    exact ⟨busy, by simp [hlinks, hmem], link, by rwa [hobject busy hother], hbusy⟩
  unfold registerLink
  split
  · refine WakeUpOwed.setState (hentered _ rfl rfl rfl fun other hother => ?_) (.inr (.inl rfl))
    simp [setLink, hother]
  · refine hentered _ rfl rfl rfl fun other hother => ?_
    simp [setLink, hother]

theorem wakeUpOwed_unregisterLink {key : ℕ} (howed : WakeUpOwed router)
    (hleave : MayLeave router key) : WakeUpOwed (router.unregisterLink key) := by
  intro hmore hsending
  have hkept : ∀ other, other ≠ key → router.BusyLink other →
      (router.unregisterLink key).BusyLink other := fun other hother hbusy =>
    ⟨(List.mem_erase_of_ne hother).mpr hbusy.1, hbusy.2⟩
  obtain ⟨busy, hbusy⟩ := howed hmore hsending
  by_cases hkey : busy = key
  · subst hkey
    rcases hleave hbusy with hset | hset | ⟨other, _, hne, hother⟩
    · exact absurd (hset.symm.trans hmore) nofun
    · exact absurd (hset.symm.trans hsending) nofun
    · exact ⟨other, hkept other hne hother⟩
  · exact ⟨busy, hkept busy hkey hbusy⟩

theorem wakeUpOwed_retryTimer {key : ℕ} {link : LinkConnect} (howed : WakeUpOwed router)
    (hobject : router.object key = some link) (hkeeps : link.busy → MayLeave router key) :
    WakeUpOwed (router.retryTimer key link) := by
  unfold retryTimer
  split_ifs with hup hwait
  · have hset : WakeUpOwed (router.setLink key { link with retryTimer := false }) :=
      howed.setLink hobject id
    have hlater : MayLeave (router.setLink key { link with retryTimer := false }) key :=
      (hkeeps hup).setLink hobject Iff.rfl
    exact hset.setState (.inr (.inr hlater))
  · exact (howed.setLink hobject (by exact id)).setState (.inr (.inl rfl))
  · exact howed.setLink hobject id

/-- One step loses no wake-up unless it takes the last busy link away. -/
theorem wakeUpOwed_step {next : Router} {event : Event} (howed : WakeUpOwed router)
    (hkeeps : KeepsWakeUp router event) (hstep : step router event = some next) :
    WakeUpOwed next := by
  cases steps_of_step hstep with
  | @resume _ rest hstack =>
    have hresumed : WakeUpOwed { router with stack := rest } := howed
    refine wakeUpOwed_resume hresumed fun key hrequest => hkeeps key ?_
    have hasked : router.request .resume = some (key, .set .goingDown) := by
      rw [request, hstack]
      exact hrequest
    simp [takesDown, hasked]
  | ret | stateTrigger => exact howed
  | started => exact WakeUpOwed.setState howed (.inl rfl)
  | @stopped key | @errored key =>
    exact WakeUpOwed.setState howed (.inr (.inr (hkeeps key (by simp [takesDown, request]))))
  | sendNext => exact wakeUpOwed_sendNext _
  | addresses _ hobject => exact howed.setLink hobject id
  | registerLink _ hfresh => exact wakeUpOwed_registerLink _ _ howed hfresh
  | @unregisterLink key => exact wakeUpOwed_unregisterLink howed (hkeeps key rfl)
  | rehash _ hperm =>
    intro hmore hsending
    obtain ⟨busy, hmem, hbusy⟩ := howed hmore hsending
    exact ⟨busy, hperm.mem_iff.mpr hmem, hbusy⟩
  | start =>
    unfold start
    split <;> exact howed
  | stop => exact wakeUpOwed_stop howed
  | @retryTimer key _ _ hobject =>
    refine wakeUpOwed_retryTimer howed hobject fun hbusy => hkeeps key ?_
    obtain ⟨hstate, hsend⟩ := hbusy
    simp [takesDown, request, hobject, hstate, hsend]
  | sendLData =>
    unfold sendLData
    split
    · exact fun _ hsending => Bool.noConfusion hsending
    · exact howed

/-- Once the router was started, in every run whose steps never take the last busy
link away while the router waits, whenever it waits some registered link that is
up still owes it a `send_Next()`. -/
theorem wakeUp_never_lost {started router : Router} (hstarted : started.highSendMore = true)
    (hpath : Path step KeepsWakeUp started router) (hmore : router.highSendMore = false)
    (hsending : router.highSending = false) :
    ∃ key ∈ router.links, ∃ link ∈ router.object key, link.state = .up ∧ link.sendMore = false := by
  have howed : WakeUpOwed router :=
    hpath.invariant _ (fun hwaiting => absurd (hstarted.symm.trans hwaiting) nofun)
      fun _ _ _ howed hkeeps hstep => wakeUpOwed_step howed hkeeps hstep
  exact howed hmore hsending

/-- A link that subscribes to every group address. -/
def subscriber : LinkConnect := { checkGroupAddress := fun _ => true }

def groupFrame : LDataPDU := { addrType := .groupAddress, source := 1, dest := 2, data := [0, 0] }

def bringUp : List Event :=
  [.registerLink 0 subscriber false, .registerLink 1 subscriber false, .start,
    .resume, .started 0, .ret, .resume, .resume, .resume, .started 1, .ret, .resume, .resume,
    .resume, .resume, .resume, .resume, .stateTrigger, .resume, .resume, .resume, .resume, .resume,
    .resume, .resume, .resume, .resume, .resume, .resume]

def distribute : List Event :=
  [.sendLData groupFrame, .resume, .ret, .resume, .ret, .resume, .sendNext 1]

theorem wakeUp_never_lost_distributing :
    ∃ started router, run step (boot 0) bringUp = some started ∧
      runAllowed step KeepsWakeUp started distribute = some router ∧
      ∃ key ∈ router.links, ∃ link ∈ router.object key,
        link.state = .up ∧ link.sendMore = false := by
  obtain ⟨started, hstarted, hready, router, hrouter, hwaits, hidle⟩ : ∃ started,
      run step (boot 0) bringUp = some started ∧ started.highSendMore = true ∧
      ∃ router, runAllowed step KeepsWakeUp started distribute = some router ∧
        router.highSendMore = false ∧ router.highSending = false := by decide +kernel
  exact ⟨started, router, hstarted, hrouter,
    wakeUp_never_lost hready (path_of_runAllowed hrouter) hwaits hidle⟩

/-- The first link fails before it is done with the frame, and nobody owes the
router a `send_Next()` any more. -/
theorem wakeUp_lost_reached :
    ∃ started router, Path step anyEvent (boot 0) started ∧ started.highSendMore = true ∧
      Path step anyEvent started router ∧ router.highSendMore = false ∧
      router.highSending = false ∧
      ¬ ∃ key ∈ router.links, ∃ link ∈ router.object key,
        link.state = .up ∧ link.sendMore = false := by
  obtain ⟨started, hstarted, hready, router, hrouter, hlost⟩ : ∃ started,
      run step (boot 0) bringUp = some started ∧ started.highSendMore = true ∧
      ∃ router, run step started (distribute ++ [.errored 0]) = some router ∧
        router.highSendMore = false ∧ router.highSending = false ∧
        ¬ ∃ key ∈ router.links, ∃ link ∈ router.object key,
          link.state = .up ∧ link.sendMore = false := by decide +kernel
  exact ⟨started, router, path_of_run hstarted, hready, path_of_run hrouter, hlost⟩

end Knxd.FlowControl
