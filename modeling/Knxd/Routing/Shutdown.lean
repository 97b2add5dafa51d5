import Knxd.Routing.Stack

/-!
# Shutdown

`Router::stop` clears `want_up` and `stop_` tells every link to go down.  After
that no link should be started again.  The retry rule of `LinkConnect::setState`
does not know about the shutdown: a link in an error state that reports
`stopped()` while retries are left waits for its retry timer, the router is not
told, and the timer starts the link.  The module proves that this is the only way
back up.
-/

namespace Knxd.Shutdown

open Memory LPDU Link Routing Transition List Router Option

variable {newState : LConnState} {pending : Pending}

/-- The states in which `stopped()` leads to the retry rule. -/
def entersRetry (state : LConnState) : Prop :=
  state = .goingUp ∨ state = .error ∨ state = .upError ∨ state = .goingDownError
  deriving Decidable

/-- The router is not started anew, and no link of the table with retries left
reports `stopped()` in a state that leads to the retry rule. -/
def StaysDown (router : Router) : Event → Prop
  | .start => False
  | .stopped key _ =>
    key ∈ router.links → ∀ link ∈ router.object key, entersRetry link.state → ¬ link.retryAllowed
  | _ => True

instance (router : Router) (event : Event) : Decidable (StaysDown router event) :=
  match event with
  | .start => .isFalse id
  | .stopped key _ =>
    inferInstanceAs (Decidable (key ∈ router.links → ∀ link ∈ router.object key,
      entersRetry link.state → ¬ link.retryAllowed))
  | .resume | .ret | .started _ | .errored _ | .sendNext _ | .addresses .. | .registerLink ..
  | .unregisterLink _ | .rehash _ | .stop | .stateTrigger | .retryTimer _ | .sendLData _ =>
    .isTrue trivial

/-! ## Links that wait for their retry timer -/

variable {router next : Router} {event : Event} {link : LinkConnect} {key : ℕ}

theorem retryAllowed_of_retry (hwait : link.retry.1.state = .waitRetry) : link.retryAllowed := by
  by_contra hdenied
  simp [LinkConnect.retry, hdenied] at hwait

/-- Only the retry rule makes a link wait. -/
theorem waitRetry_of_setState {result : LinkConnect × Effect}
    (htable : link.setState newState = .ok result) (hwait : result.1.state = .waitRetry)
    (hnew : newState ≠ .waitRetry) :
    newState = .down ∧ entersRetry link.state ∧ link.retryAllowed := by
  unfold LinkConnect.setState at htable
  split at htable
  · next hsame =>
    cases htable
    exact absurd (hsame.symm.trans hwait) hnew
  · dsimp only at htable
    split at htable
    all_goals first
      | exact absurd rfl hnew
      | (next hstate _ =>
        cases htable
        have hallowed : (link.enter .down).retryAllowed := retryAllowed_of_retry hwait
        exact ⟨rfl, by simp [entersRetry, hstate], hallowed⟩)
      | (cases htable
         simp at hwait)
      | simp at htable

/-- A suspended `stop_` will come to a link. -/
def visits (key : ℕ) : Pending → Prop
  | .stopLoop rest seen => key ∈ rest ∨ seen = true
  | .stopNext _ => True
  | _ => False

/-- What holds from the moment `want_up` is cleared: the router's start is not
suspended, and a link of the table that waits for its retry timer is one that
`stop_` has not visited yet. -/
structure Halting (router : Router) : Prop where
  wantUp : router.wantUp = false
  start : ∀ pending ∈ router.stack, pending.kind ≠ .start
  waiting : router.fault = none → ∀ key ∈ router.links, router.stateOf key = some .waitRetry →
    (∃ pending ∈ router.stack, visits key pending) ∧
      ∃ round, router.stampOf key = some round ∧ round < router.seq

section Step

variable {router next : Router} {event : Event} {key : ℕ}

/-- A transition never makes a link of the table wait. -/
private theorem not_waiting_of_set {prepared : Router}
    (hprepares : Prepares router event prepared) (hdown : StaysDown router event)
    (hmem : key ∈ prepared.links) (hrequest : router.request event = some (key, .set newState))
    (hwait : (prepared.setState key newState).stateOf key = some .waitRetry)
    (hfault : (prepared.setState key newState).fault = none) : False := by
  cases hobject : prepared.object key with
  | none => simp [setState, stateOf, hobject] at hwait
  | some link =>
    cases htable : link.setState newState with
    | error fault => simp [setState_of_error hobject htable] at hfault
    | ok result =>
      obtain ⟨after, effect⟩ := result
      obtain ⟨hafter, _, _⟩ := setState_of_ok hobject htable
      have hresult : after.state = .waitRetry := Option.some.inj (hafter.symm.trans hwait)
      have hnew : newState ≠ .waitRetry := by
        rintro rfl
        rcases request_set_cases hrequest with h | h | h | h <;> simp at h
      obtain ⟨rfl, henters, hallowed⟩ := waitRetry_of_setState htable hresult hnew
      rcases request_set_cases hrequest with h | ⟨_, answer, rfl⟩ | h | h
      · simp at h
      · have hkey := (hprepares.links key hmem).resolve_right (by simp [Event.constructed])
        rw [hprepares.object key answer rfl] at hobject
        exact hdown hkey link hobject henters hallowed
      · simp at h
      · simp at h

/-- While the links stay down, no link of the table begins to wait, and a link that
still waits was not asked for anything. -/
theorem waiting_before (hstep : step router event = some next) (hdown : StaysDown router event)
    (hfault : next.fault = none) (hmem : key ∈ next.links)
    (hwait : next.stateOf key = some .waitRetry) :
    key ∈ router.links ∧ router.stateOf key = some .waitRetry ∧
      (∀ asked, router.request event ≠ some (key, asked)) ∧
      next.stampOf key = router.stampOf key := by
  obtain ⟨prepared, rfl, hprepares⟩ := step_spec hstep
  obtain ⟨hlinks, _, _⟩ := prepared.perform_fields (router.request event)
  rw [hlinks] at hmem
  have huntouched : ∀ asked, router.request event ≠ some (key, asked) := by
    intro asked hrequest
    rw [hrequest] at hwait hfault
    cases asked with
    | stop =>
      obtain rfl := eq_resume_of_stop hrequest
      have hsame : router.stateOf key = some .waitRetry := (hprepares.state key).symm.trans hwait
      rcases stateOf_of_stop hrequest with herror | herror <;> simp [hsame] at herror
    | set => exact not_waiting_of_set hprepares hdown hmem hrequest hwait hfault
  obtain ⟨hstate, _⟩ := prepared.perform_other huntouched
  rw [hstate, hprepares.state] at hwait
  split at hwait
  · simp at hwait
  · next hold =>
    refine ⟨(hprepares.links key hmem).resolve_right hold, hwait, huntouched, ?_⟩
    rw [stampOf_perform]
    rcases hprepares.stamp key with hsame | ⟨htarget, _⟩ | ⟨hnew, _⟩
    · exact hsame
    · obtain ⟨⟨_, asked⟩, hrequest, rfl⟩ := map_eq_some_iff.mp htarget
      exact absurd hrequest (huntouched asked)
    · exact absurd hnew hold

/-- A pass of `stop_` that goes on still visits a link that waits, now or in the
next pass. -/
private theorem visits_resume (hmem : key ∈ router.links)
    {link : LinkConnect} (hobject : router.object key = some link) (hround : link.seq < router.seq)
    (hvisit : visits key pending) : ∃ left ∈ (router.resume pending).stack, visits key left := by
  have hpass : visits key (.stopLoop router.links false) := .inl hmem
  cases pending with
  | stopNext rest =>
    simp only [resume, stopNext]
    split
    · exact ⟨_, mem_cons_self, hpass⟩
    · exact ⟨_, mem_cons_self, .inr rfl⟩
  | stopLoop rest seen =>
    cases rest with
    | nil =>
      obtain rfl : seen = true := hvisit.resolve_left not_mem_nil
      exact ⟨_, mem_cons_self, hpass⟩
    | cons head rest =>
      have hlater : head ≠ key → visits key (.stopLoop rest seen) := fun hhead =>
        hvisit.imp_left fun hin => (mem_cons.mp hin).resolve_left hhead.symm
      simp only [resume, stopLoop]
      split
      · next hnone =>
        have hhead : head ≠ key := by
          rintro rfl
          simp [hobject] at hnone
        exact ⟨_, mem_cons_self, hlater hhead⟩
      · next found hfound =>
        split
        · next hskip =>
          have hhead : head ≠ key := by
            rintro rfl
            obtain rfl : link = found := by simpa [hobject] using hfound
            exact hskip.elim (· hmem) fun hstamped => by omega
          exact ⟨_, mem_cons_self, hlater hhead⟩
        · have hgrows : Grows (fun _ => False) (.stopNext rest :: router.stack)
              (((router.setLink head { found with seq := router.seq }).push
                (.stopNext rest)).setState head .goingDown).stack :=
            Grows.setState (by exact .refl _) head .goingDown
          exact ⟨.stopNext rest, hgrows.mem mem_cons_self, trivial⟩
  | _ => exact hvisit.elim

/-- A suspended `stop_` goes on until it has visited every link that waits. -/
theorem visits_step (hstep : step router event = some next) (hmem : key ∈ router.links)
    {round : ℕ} (hstamp : router.stampOf key = some round) (hround : round < router.seq)
    (hvisits : ∃ pending ∈ router.stack, visits key pending) :
    ∃ pending ∈ next.stack, visits key pending := by
  obtain ⟨pending, hpending, hvisit⟩ := hvisits
  rcases grows_step hstep with ⟨top, rest, hstack, rfl, hgrows⟩ | hreturn | hgrows | ⟨hidle, _⟩
  · rw [hstack] at hpending
    rcases mem_cons.mp hpending with rfl | hbelow
    · obtain ⟨link, hobject, rfl⟩ := map_eq_some_iff.mp hstamp
      have hresumed : { router with stack := rest }.object key = some link := hobject
      exact visits_resume hmem hresumed hround hvisit
    · exact ⟨pending, hgrows.mem hbelow, hvisit⟩
  · rw [hreturn] at hpending
    rcases mem_cons.mp hpending with rfl | hbelow
    · exact hvisit.elim
    · exact ⟨pending, hbelow, hvisit⟩
  · exact ⟨pending, hgrows.mem hpending, hvisit⟩
  · simp [hidle] at hpending

/-- One step keeps the router halting. -/
theorem halting_step (hhalting : Halting router) (hdown : StaysDown router event)
    (hstep : step router event = some next) : Halting next := by
  obtain ⟨prepared, hnext, hprepares⟩ := step_spec hstep
  obtain ⟨_, hwant, hseq⟩ := prepared.perform_fields (router.request event)
  rw [← hnext] at hwant hseq
  have hevent : event ≠ .start := by
    rintro rfl
    exact hdown
  refine ⟨?_, ?_, fun hfault key hmem hwait => ?_⟩
  · rw [hwant, Bool.eq_false_iff]
    intro hup
    rcases hprepares.wantUp hup with hbefore | hstart
    · exact absurd (hbefore.symm.trans hhalting.wantUp) nofun
    · exact hevent hstart
  · refine kind_ne_of_step hstep nofun hhalting.start nofun fun hopens => ?_
    cases event <;> simp_all [Event.opens]
  · obtain ⟨hkey, hbefore, _, hstamp⟩ := waiting_before hstep hdown hfault hmem hwait
    obtain ⟨hvisits, round, hround, hlt⟩ :=
      hhalting.waiting (fault_eq_none_of_step hstep) key hkey hbefore
    refine ⟨visits_step hstep hkey hround hlt hvisits, round, hstamp.trans hround, ?_⟩
    rwa [hseq, hprepares.round_eq hhalting.wantUp hevent]

end Step

/-! ## The step that clears `want_up` -/

/-- No link was visited in a round that has not begun. -/
def Stamped (router : Router) : Prop :=
  ∀ key round, router.stampOf key = some round → round ≤ router.seq

theorem stamped_step (hstamped : Stamped router) (hstep : step router event = some next) :
    Stamped next := by
  obtain ⟨prepared, rfl, hprepares⟩ := step_spec hstep
  obtain ⟨_, _, hseq⟩ := prepared.perform_fields (router.request event)
  intro key round hstamp
  rw [stampOf_perform] at hstamp
  rw [hseq]
  refine le_trans ?_ hprepares.round_le
  rcases hprepares.stamp key with hsame | ⟨_, hvisited⟩ | ⟨_, bound, hbound, hnew⟩
  · exact hstamped key round (hsame.symm.trans hstamp)
  · obtain rfl : router.seq = round := by simpa [hvisited] using hstamp
    exact le_rfl
  · obtain rfl : bound = round := by simpa [hnew] using hstamp
    exact hbound

theorem stamped_of_path {addr : Addr} {allowed : Router → Event → Prop}
    (hreached : Path step allowed (boot addr) router) : Stamped router := by
  refine hreached.invariant Stamped (fun key round hstamp => ?_) fun _ _ _ hstamped _ hstep =>
    stamped_step hstamped hstep
  simp [stampOf, boot] at hstamp

/-- `stop` leaves the router halting, unless its start is suspended. -/
theorem halting_stop {base : Router} (hup : base.wantUp = true) (hstamped : Stamped base)
    (hstart : ∀ pending ∈ base.stack, pending.kind ≠ .start) : Halting base.stop := by
  rw [stop, if_pos hup]
  refine ⟨rfl, fun pending hmem => ?_, fun _ key hkey hwait => ⟨?_, ?_⟩⟩
  · rcases mem_cons.mp hmem with rfl | hbelow
    · nofun
    · exact hstart pending hbelow
  · exact ⟨_, mem_cons_self, .inl hkey⟩
  · obtain ⟨link, hobject, _⟩ := exists_object_of_stateOf hwait
    have hstamp : base.stampOf key = some link.seq := by
      simpa [stampOf] using congrArg (Option.map (·.seq)) hobject
    exact ⟨link.seq, hstamp, Nat.lt_succ_of_le (hstamped key _ hstamp)⟩

/-- The router wants what it wanted, in the same round of `start_` or `stop_`. -/
def SameRound (router next : Router) : Prop :=
  next.wantUp = router.wantUp ∧ next.seq = router.seq

theorem SameRound.refl (router : Router) : SameRound router router := ⟨rfl, rfl⟩

theorem sameRound_setState (key : ℕ) (newState : LConnState) :
    SameRound router (router.setState key newState) :=
  ⟨setState_wantUp, setState_seq⟩

theorem sameRound_sendNext (router : Router) : SameRound router router.sendNext := by
  unfold sendNext
  split_ifs <;> exact ⟨rfl, rfl⟩

theorem resumed_wantUp (hresumed : Resumed router pending next) : SameRound router next ∨
      pending.kind = .trigger ∧ ∃ base : Router, next = base.stop ∧
        base.wantUp = router.wantUp ∧ base.object = router.object ∧ base.seq = router.seq ∧
        Grows (· = .trigger) router.stack base.stack := by
  cases hresumed with
  | settled hsettles | callDriver _ hsettles => exact .inl ⟨hsettles.wantUp, hsettles.seq⟩
  | setState _ _ hsettles =>
    exact .inl ⟨setState_wantUp.trans hsettles.wantUp, setState_seq.trans hsettles.seq⟩
  | stop htrigger hobject hsettles =>
    exact .inr ⟨htrigger, _, rfl, hsettles.wantUp, hobject, hsettles.seq, hsettles.grows htrigger⟩

/-- Of the suspended functions, only the state trigger shuts the router down. -/
theorem resume_wantUp (router : Router) (pending : Pending) :
    SameRound router (router.resume pending) ∨
      pending.kind = .trigger ∧ ∃ base : Router, router.resume pending = base.stop ∧
        base.wantUp = router.wantUp ∧ base.object = router.object ∧ base.seq = router.seq ∧
        Grows (· = .trigger) router.stack base.stack := by
  by_cases hsend : pending.kind = .send
  · left
    cases pending with
    | sendLoop _ _ rest =>
      cases rest with
      | nil => exact ⟨(sameRound_sendNext _).1, (sameRound_sendNext _).2⟩
      | cons =>
        simp only [resume, sendLoop, linkSendLData]
        repeat' split
        all_goals exact ⟨rfl, rfl⟩
    | _ => cases hsend
  · exact resumed_wantUp (resumed_resume router hsend)

/-- A router that wants its links up goes on in the same round until `stop` is called, by
the event loop or by the state trigger. -/
theorem sameRound_of_step (hstep : step router event = some next) (hup : router.wantUp = true) :
    SameRound router next ∨
    ∃ base : Router, next = base.stop ∧ base.wantUp = true ∧ base.object = router.object ∧
      base.seq = router.seq ∧
      (base.stack = [] ∨ ∃ pending rest, router.stack = pending :: rest ∧
        pending.kind = .trigger ∧ Grows (· = .trigger) rest base.stack) := by
  cases steps_of_step hstep with
  | @resume pending rest hstack =>
    rcases resume_wantUp { router with stack := rest } pending with
      hsame | ⟨hkind, base, hbase, hwant, hobject, hseq, hgrows⟩
    · exact .inl hsame
    · exact .inr ⟨base, hbase, hwant.trans hup, hobject, hseq,
        .inr ⟨pending, rest, hstack, hkind, hgrows⟩⟩
  | ret | addresses | unregisterLink | rehash | stateTrigger => exact .inl ⟨rfl, rfl⟩
  | started | stopped | errored => exact .inl (sameRound_setState _ _)
  | sendNext => exact .inl (sameRound_sendNext _)
  | registerLink =>
    simp only [registerLink, hup, if_true]
    exact .inl ⟨setState_wantUp, setState_seq⟩
  | start =>
    rw [start, if_pos hup]
    exact .inl (.refl router)
  | stop hidle => exact .inr ⟨router, rfl, hup, rfl, rfl, .inl hidle⟩
  | retryTimer =>
    left
    unfold retryTimer
    split_ifs
    · exact sameRound_setState _ _
    · exact sameRound_setState _ _
    · exact ⟨rfl, rfl⟩
  | sendLData =>
    left
    unfold sendLData
    split <;> exact ⟨rfl, rfl⟩

/-- The step that clears `want_up` is a call of `stop`. -/
theorem exists_stop_of_cleared (hstep : step router event = some next) (hup : router.wantUp = true)
    (hcleared : next.wantUp = false) :
    ∃ base : Router, next = base.stop ∧ base.wantUp = true ∧ base.object = router.object ∧
      base.seq = router.seq ∧
      (base.stack = [] ∨ ∃ pending rest, router.stack = pending :: rest ∧
        pending.kind = .trigger ∧ Grows (· = .trigger) rest base.stack) := by
  refine (sameRound_of_step hstep hup).resolve_left fun hsame => ?_
  cases (hcleared.symm.trans hsame.1).trans hup

/-- The step that clears `want_up` leaves the router halting. -/
theorem halting_of_cleared (hexcl : Exclusive router.stack) (hstamped : Stamped router)
    (hstep : step router event = some next) (hup : router.wantUp = true)
    (hcleared : next.wantUp = false) : Halting next := by
  obtain ⟨base, rfl, hwant, hobject, hseq, hbelow⟩ := exists_stop_of_cleared hstep hup hcleared
  have hbaseStamped : Stamped base := by
    intro key round hstamp
    rw [stampOf, hobject] at hstamp
    rw [hseq]
    exact hstamped key round hstamp
  refine halting_stop hwant hbaseStamped fun left hleft hkind => ?_
  rcases hbelow with hidle | ⟨pending, rest, hstack, htrigger, hgrows⟩
  · simp [hidle] at hleft
  · have htop : pending ∈ router.stack := hstack ▸ mem_cons_self
    have hstart := hexcl.resolve_right fun habsent => habsent pending htop htrigger
    rcases hgrows.mem_cases hleft with hold | hcall | hnew
    · exact hstart left (hstack ▸ mem_cons_of_mem _ hold) hkind
    · simp [hkind] at hcall
    · simp [hkind] at hnew

/-! ## No link is started again -/

/-- Only the request to go up calls the driver's `start()`. -/
theorem goingUp_of_start {result : LinkConnect × Effect}
    (htable : link.setState newState = .ok result) (hstart : result.2 = .start) :
    newState = .goingUp := by
  have hretry : ∀ entered : LinkConnect, entered.retry.2 ≠ .start := by
    intro entered
    unfold LinkConnect.retry
    split <;> nofun
  unfold LinkConnect.setState at htable
  split at htable
  · cases htable
    simp at hstart
  · dsimp only at htable
    split at htable
    all_goals first
      | rfl
      | (cases htable
         first
           | exact absurd hstart (hretry _)
           | simp at hstart)
      | simp at htable

/-- How often the driver of a link was started. -/
def startsOf (key : ℕ) (router : Router) : ℕ :=
  (lifecycle key router.log).count .start

/-- The reports of a driver contain no `start()`. -/
theorem count_start_callback (event : Event) (key : ℕ) : (event.callback key).count .start = 0 := by
  cases event with
  | started | stopped | errored =>
    rw [Event.callback]
    split <;> rfl
  | _ => rfl

theorem count_start_calls (effect : Effect) :
    (calls effect).count .start = if effect = .start then 1 else 0 := by
  cases effect <;> rfl

/-- A step starts a driver at most once, and only when it tells the link to go up. -/
theorem startsOf_step (hstep : step router event = some next) (key : ℕ) :
    startsOf key next = startsOf key router ∨
      router.request event = some (key, .set .goingUp) ∧
        startsOf key next = startsOf key router + 1 := by
  obtain ⟨prepared, rfl, hprepares⟩ := step_spec hstep
  have hprepared : startsOf key prepared = startsOf key router := by
    rw [startsOf, hprepares.calls, count_append, count_start_callback, Nat.zero_add, startsOf]
  rw [← hprepared]
  by_cases hrequest : ∃ asked, router.request event = some (key, asked)
  · obtain ⟨asked, hrequest⟩ := hrequest
    rw [hrequest]
    cases asked with
    | stop =>
      left
      simp [startsOf, perform, callDriver, push]
    | set newState =>
      rw [perform]
      cases hobject : prepared.object key with
      | none => exact .inl (by simp [startsOf, setState, hobject])
      | some link =>
        cases htable : link.setState newState with
        | error => exact .inl (by simp [startsOf, setState_of_error hobject htable])
        | ok result =>
          obtain ⟨_, _⟩ := result
          rw [startsOf, (setState_of_ok hobject htable).2.1, count_append, count_start_calls]
          split
          · next heffect =>
            rw [goingUp_of_start htable heffect]
            exact .inr ⟨rfl, Nat.add_comm _ _⟩
          · exact .inl (Nat.zero_add _)
  · push Not at hrequest
    rw [startsOf, (prepared.perform_other hrequest).2]
    exact .inl rfl

/-- Of the suspended functions, only the start of the router tells links to go up. -/
theorem kind_of_goingUp
    (hrequest : router.requestOf pending = some (key, .set .goingUp)) : pending.kind = .start := by
  unfold requestOf at hrequest
  split at hrequest
  case h_1 => rfl
  case h_3 =>
      obtain ⟨_, _, hfound⟩ := bind_eq_some_iff.mp hrequest
      obtain ⟨link, _, hguarded⟩ := bind_eq_some_iff.mp hfound
      split_ifs at hguarded
      simp at hguarded
  case h_6 => simp at hrequest
  all_goals
    obtain ⟨link, _, hguarded⟩ := bind_eq_some_iff.mp hrequest
    repeat' split at hguarded
    all_goals simp at hguarded

/-- A link is asked to go up by its retry timer, or by `start_` or `registerLink`, which
give it the number of the round. -/
theorem goingUp_cases
    (hstart : ∀ pending ∈ router.stack, pending.kind = .start → router.wantUp = true)
    (hstep : step router event = some next)
    (hrequest : router.request event = some (key, .set .goingUp)) :
    event = .retryTimer key ∧ router.stack = [] ∧ router.stateOf key = some .waitRetry ∨
      router.wantUp = true ∧ next.stampOf key = some router.seq ∧
        ∀ round, router.stampOf key = some round → round < router.seq := by
  cases steps_of_step hstep with
  | @resume pending _ hstack =>
    simp only [request, hstack, head?_cons, bind_some] at hrequest
    have hkind := kind_of_goingUp hrequest
    refine .inr ⟨hstart pending (hstack ▸ mem_cons_self) hkind, ?_⟩
    cases pending with
    | startLoop links =>
      cases links with
      | nil => cases hrequest
      | cons =>
        obtain ⟨link, hobject, hguarded⟩ := bind_eq_some_iff.1 hrequest
        split_ifs at hguarded with hskip
        cases hguarded
        refine ⟨?_, fun round hround => ?_⟩
        · rw [resume, startLoop]
          simp only [hobject]
          rw [if_neg hskip, stampOf_setState]
          simp [stampOf, push, setLink]
        · obtain rfl : link.seq = round := by simpa [stampOf, hobject] using hround
          exact not_le.1 fun hle => hskip (.inr (.inr (.inr hle)))
    | startNext => cases hrequest
    | _ => cases hkind
  | registerLink _ hobject =>
    obtain ⟨hup, hasked⟩ := ite_none_right_eq_some.1 hrequest
    cases hasked
    refine .inr ⟨hup, ?_, by simp [stampOf, hobject]⟩
    rw [registerLink, if_pos hup, stampOf_setState]
    simp [stampOf, setLink]
  | retryTimer hidle hobject =>
    simp only [request, hobject, bind_some] at hrequest
    split_ifs at hrequest with hup hwait
    · simp at hrequest
    · cases hrequest
      exact .inl ⟨rfl, hidle, by simp [stateOf, hobject, hwait]⟩
  | _ => simp [request] at hrequest

/-- Once `want_up` is cleared, in every run in which no link of the table reports
`stopped()` in an error state with retries left, and the router is not started
anew, no link of the table is started again. -/
theorem shutdown_final {addr : Addr} {running stopped router next : Router}
    {stopping event : Event} {key : ℕ} (hreached : Path step anyEvent (boot addr) running)
    (hstopping : step running stopping = some stopped)
    (hup : running.wantUp = true) (hcleared : stopped.wantUp = false)
    (hlater : Path step StaysDown stopped router) (hstep : step router event = some next)
    (hkey : key ∈ router.links) : next.log ≠ ⟨key, .start⟩ :: router.log := by
  have hstamped : Stamped running := stamped_of_path hreached
  have hhalting : Halting router :=
    hlater.invariant _ (halting_of_cleared (exclusive_of_path hreached) hstamped hstopping hup
      hcleared) fun _ _ _ hhalting hdown hstep => halting_step hhalting hdown hstep
  intro hlog
  have hstarted : startsOf key next = startsOf key router + 1 := by simp [startsOf, hlog, lifecycle]
  obtain ⟨hrequest, -⟩ := (startsOf_step hstep key).resolve_left (by omega)
  obtain ⟨-, hidle, hwait⟩ | ⟨hagain, -⟩ := goingUp_cases
    (fun pending hmem hkind => absurd hkind (hhalting.start pending hmem)) hstep hrequest
  · obtain ⟨⟨pending, hpending, _⟩, _⟩ :=
      hhalting.waiting (fault_eq_none_of_step hstep) key hkey hwait
    simp [hidle] at hpending
  · cases hagain.symm.trans hhalting.wantUp

/-- Two links come up; the first one may fail and is retried without limit. -/
def startLinks : List Event :=
  [.registerLink 0 { retryDelay := 5, mayFail := true } false, .registerLink 1 {} false, .start,
    .resume, .started 0, .ret, .resume, .resume, .resume, .started 1, .ret, .resume, .resume,
    .resume, .resume, .resume, .resume]

/-- `stop_` tells both links to go down and returns. -/
def stopLinks : List Event :=
  [.resume, .ret, .resume, .resume, .resume, .ret, .resume, .resume, .resume, .resume, .resume,
    .resume]

def failGoingDown : List Event :=
  stopLinks ++ [.errored 0, .stateTrigger, .resume, .resume, .resume, .resume, .resume, .resume,
    .resume, .resume, .resume, .ret, .resume, .resume, .resume, .resume, .resume]

theorem shutdown_final_after_failure :
    ∃ running stopped router next, run step (boot 0) startLinks = some running ∧
      step running .stop = some stopped ∧
      runAllowed step StaysDown stopped (failGoingDown ++ [.stopped 1 .stop]) = some router ∧
      step router .stateTrigger = some next ∧ next.log ≠ ⟨0, .start⟩ :: router.log := by
  obtain ⟨running, hrunning, hup, stopped, hstopped, hdown, router, hrouter, hmem, next, hnext,
      -⟩ : ∃ running, run step (boot 0) startLinks = some running ∧ running.wantUp = true ∧
      ∃ stopped, step running .stop = some stopped ∧ stopped.wantUp = false ∧
      ∃ router, runAllowed step StaysDown stopped (failGoingDown ++ [.stopped 1 .stop]) =
        some router ∧ 0 ∈ router.links ∧
      ∃ next, step router .stateTrigger = some next ∧ True := by decide +kernel
  exact ⟨running, stopped, router, next, hrunning, hstopped, hrouter, hnext,
    shutdown_final (path_of_run hrunning) hstopped hup hdown (path_of_runAllowed hrouter) hnext
      hmem⟩

/-- The first link answers `stop()`, waits for its retry timer although the router
has shut down and has nothing left to do, and is started by the timer. -/
theorem restart_after_shutdown :
    ∃ running stopped router next, Path step anyEvent (boot 0) running ∧
      running.wantUp = true ∧ step running .stop = some stopped ∧ stopped.wantUp = false ∧
      Path step anyEvent stopped router ∧ router.stack = [] ∧ router.stateTrigger = false ∧
      0 ∈ router.links ∧ step router (.retryTimer 0) = some next ∧
      next.log = ⟨0, .start⟩ :: router.log := by
  obtain ⟨running, hrunning, hup, stopped, hstopped, hdown, router, hrouter, hidle, htrigger,
      hmem, next, hnext⟩ : ∃ running, run step (boot 0) startLinks = some running ∧
      running.wantUp = true ∧ ∃ stopped, step running .stop = some stopped ∧
      stopped.wantUp = false ∧ ∃ router,
        run step stopped (failGoingDown ++ [.stopped 0 .stop]) = some router ∧
        router.stack = [] ∧ router.stateTrigger = false ∧ 0 ∈ router.links ∧
      ∃ next, step router (.retryTimer 0) = some next ∧
        next.log = ⟨0, .start⟩ :: router.log := by decide +kernel
  exact ⟨running, stopped, router, next, path_of_run hrunning, hup, hstopped, hdown,
    path_of_run hrouter, hidle, htrigger, hmem, hnext⟩

end Knxd.Shutdown
