import Knxd.Routing.Router

/-!
# What a step asks of a link

However long the call stack is, a step of the program asks at most one link to
change its state or its driver to stop.  `request` names that link, and
`step_spec` splits every step into bookkeeping that leaves all connection states
alone and the request that follows it.  Everything proved about link states and
about the calls between links and drivers rests on this decomposition.
-/

namespace Knxd.Routing

open Memory LPDU Link Router Option List

variable {link : LinkConnect} {newState : LConnState} {key : ℕ}

/-- A request to a link: a call of its `setState`, or of its `stop()`. -/
inductive Request where
  | set (newState : LConnState)
  | stop
  deriving DecidableEq, Repr

def target (request : Option (ℕ × Request)) : Option ℕ :=
  request.map (·.1)

namespace Router

def requestOf (router : Router) : Pending → Option (ℕ × Request)
  | .startLoop (key :: _) _ =>
    (router.object key).bind fun link =>
      if key ∉ router.links ∨ link.ignore ∨ link.transient ∨ router.seq ≤ link.seq then none
      else some (key, .set .goingUp)
  | .stopLoop (key :: _) _ =>
    (router.object key).bind fun link =>
      if key ∉ router.links ∨ router.seq ≤ link.seq then none
      else some (key, .set .goingDown)
  | .drain _ =>
    router.linkChanges.head?.bind fun key =>
      (router.object key).bind fun link =>
        if router.wantUp = false ∧ link.state ≠ .down ∧
            link.state.index < LConnState.waitRetry.index then some (key, .set .goingDown)
        else none
  | .scan (key :: _) _ =>
    (router.object key).bind fun link =>
      if key ∉ router.links then none
      else if link.transient then
        if router.wantUp = false ∧ link.state ≠ .down ∧ link.state ≠ .error then
          some (key, .set .goingDown)
        else none
      else if link.state = .upError ∨ link.state = .goingDownError then some (key, .stop)
      else none
  | .classify key _ _ =>
    (router.object key).bind fun link =>
      if router.wantUp then none
      else
        match link.state with
        | .goingDown | .goingUp => some (key, .set .goingDown)
        | .upError | .goingDownError | .waitRetry =>
          if link.mayFail then none else some (key, .set .goingDown)
        | .down | .error | .up => none
  | _ => none

def request (router : Router) : Event → Option (ℕ × Request)
  | .resume => router.stack.head?.bind router.requestOf
  | .started key => some (key, .set .up)
  | .stopped key _ => some (key, .set .down)
  | .errored key => some (key, .set .error)
  | .retryTimer key =>
    (router.object key).bind fun link =>
      if link.state = .up ∧ link.sendMore = false then some (key, .set .error)
      else if link.state = .waitRetry then some (key, .set .goingUp)
      else none
  | .registerLink key _ _ => if router.wantUp then some (key, .set .goingUp) else none
  | _ => none

def perform (router : Router) : Option (ℕ × Request) → Router
  | none => router
  | some (key, .set newState) => router.setState key newState
  | some (key, .stop) => router.callDriver key .stop

def stateOf (router : Router) (key : ℕ) : Option LConnState :=
  (router.object key).map (·.state)

/-- The round of `start_` or `stop_` in which a link was visited last. -/
def stampOf (router : Router) (key : ℕ) : Option ℕ :=
  (router.object key).map (·.seq)

end Router

/-- The calls between one link and its driver that start, stop or answer, newest
first. -/
def lifecycle (key : ℕ) : List Entry → List Call
  | [] => []
  | ⟨link, call⟩ :: older =>
    match call with
    | .send _ => lifecycle key older
    | call => if link = key then call :: lifecycle key older else lifecycle key older

def Event.callback : Event → ℕ → List Call
  | .started key, other => if key = other then [.started] else []
  | .stopped key answer, other => if key = other then [.stopped answer] else []
  | .errored key, other => if key = other then [.errored] else []
  | _, _ => []

def Event.constructed : Event → Option ℕ
  | .registerLink key _ _ => some key
  | _ => none

/-- Bookkeeping: connection states and the record of starts, stops and answers stay
as they are, no link enters the table, and at most the visited link is stamped with
the router's round. -/
structure Quiet (visited : Option ℕ) (router prepared : Router) : Prop where
  state : ∀ key, prepared.stateOf key = router.stateOf key
  stamp : ∀ key, prepared.stampOf key = router.stampOf key ∨
    visited = some key ∧ prepared.stampOf key = some router.seq
  calls : ∀ key, lifecycle key prepared.log = lifecycle key router.log
  links : ∀ key ∈ prepared.links, key ∈ router.links
  wantUp : prepared.wantUp = true → router.wantUp = true
  round_le : router.seq ≤ prepared.seq
  round_eq : router.wantUp = false → prepared.seq = router.seq
  fault : prepared.fault = some .abort → router.fault = some .abort

/-- The bookkeeping before a request, with the callback or the construction that
the event stands for. -/
structure Prepares (router : Router) (event : Event) (prepared : Router) : Prop where
  state : ∀ key, prepared.stateOf key =
    if event.constructed = some key then some .down else router.stateOf key
  calls : ∀ key,
    lifecycle key prepared.log = event.callback key ++ lifecycle key router.log
  links : ∀ key ∈ prepared.links, key ∈ router.links ∨ event.constructed = some key
  object : ∀ key answer, event = .stopped key answer → prepared.object = router.object
  stamp : ∀ key, prepared.stampOf key = router.stampOf key ∨
    target (router.request event) = some key ∧ prepared.stampOf key = some router.seq ∨
    event.constructed = some key ∧ ∃ round ≤ router.seq, prepared.stampOf key = some round
  wantUp : prepared.wantUp = true → router.wantUp = true ∨ event = .start
  round_le : router.seq ≤ prepared.seq
  round_eq : router.wantUp = false → event ≠ .start → prepared.seq = router.seq
  fault : prepared.fault ≠ some .abort

inductive Kind where
  | call
  | start
  | stop
  | trigger
  | send
  deriving DecidableEq, Repr

def Pending.kind : Pending → Kind
  | .driver | .linkStateChanged _ => .call
  | .startLoop _ _ | .startNext _ => .start
  | .stopLoop _ _ | .stopNext _ => .stop
  | .drain _ | .scan _ _ | .classify _ _ _ | .conclude _ => .trigger
  | .sendLoop _ _ _ => .send

/-- The bookkeeping of a function that goes on: flags, the queue, the round of one link,
and itself on the stack again. -/
structure Settles (router : Router) (pending : Pending) (base : Router) : Prop where
  addr : base.addr = router.addr
  links : base.links = router.links
  seq : base.seq = router.seq
  wantUp : base.wantUp = router.wantUp
  log : base.log = router.log
  object : base.object = router.object ∨ ∃ key link, router.object key = some link ∧
    base.object = (router.setLink key { link with seq := router.seq }).object
  stack : base.stack = router.stack ∨
    ∃ left : Pending, left.kind = pending.kind ∧ base.stack = left :: router.stack

/-- What bookkeeping leaves alone: all but the flags, the queue and the stack. -/
def Router.core (router : Router) :=
  (router.addr, router.object, router.links, router.seq, router.wantUp, router.highSending,
    router.log, router.fault)

/-- Bookkeeping in which at most the visited link gets the number of the round. -/
structure Settled (visited : Option ℕ) (router : Router) (pending : Pending) (base : Router) :
    Prop extends Settles router pending base where
  fault : base.fault = router.fault
  more : base.highSendMore = router.highSendMore ∨ base.highSendMore = true
  sending : base.highSending = router.highSending
  stamped : base.object = router.object ∨ ∃ key link, visited = some key ∧
    router.object key = some link ∧
    base.object = (router.setLink key { link with seq := router.seq }).object

/-- A function that goes on does its bookkeeping and then what it requests.  The state trigger may
start the shutdown instead, and requests nothing then. -/
def Proceeds (router : Router) (pending : Pending) (next : Router) : Prop :=
  ∃ base, (next = base.perform (router.requestOf pending) ∨
      next = base.stop ∧ pending.kind = .trigger ∧ router.requestOf pending = none ∧
        base.object = router.object) ∧
    Settled (target (router.requestOf pending)) router pending base

namespace Router

/-! ## Projections of the elementary updates -/

section Projections

variable (router : Router) (key : ℕ)

@[simp]
theorem stateOf_setLink (link : LinkConnect) (other : ℕ) : (router.setLink key link).stateOf other =
      if other = key then some link.state else router.stateOf other := by
  by_cases hother : other = key <;> simp [stateOf, setLink, hother]

theorem stateOf_of_object (hobject : router.object key = some link) :
    router.stateOf key = some link.state := by
  simp [stateOf, hobject]

end Projections

/-- Only the updated link can be stamped. -/
theorem stampOf_setLink_other {router : Router} {key other : ℕ} (hother : other ≠ key)
    (update : LinkConnect) : (router.setLink key update).stampOf other = router.stampOf other := by
  simp [stampOf, setLink, hother]

/-- A link update that keeps the connection state changes no connection state. -/
theorem stateOf_setLink_same {router : Router} {link update : LinkConnect}
    (hobject : router.object key = some link) (hstate : update.state = link.state) (other : ℕ) :
    (router.setLink key update).stateOf other = router.stateOf other := by
  by_cases hother : other = key
  · subst hother
    simp [stateOf_of_object router other hobject, hstate]
  · simp [hother]

@[simp]
theorem lifecycle_record (router : Router) (key : ℕ) (call : Call) (other : ℕ) :
    lifecycle other (router.record key call).log =
      (match call with
      | .send _ => []
      | call => if key = other then [call] else []) ++ lifecycle other router.log := by
  cases call <;> simp only [record, lifecycle, nil_append] <;> split <;> rfl

end Router

/-! ## The decomposition -/

section Decomposition

variable {visited : Option ℕ} {router : Router}

theorem Quiet.refl (router : Router) : Quiet visited router router :=
  ⟨fun _ => rfl, fun _ => .inl rfl, fun _ => rfl, fun _ => id, id, le_rfl, fun _ => rfl, id⟩

theorem Quiet.after {middle last : Router} (hsecond : Quiet visited middle last)
    (hfirst : Quiet visited router middle) (hwant : middle.wantUp = router.wantUp)
    (hseq : middle.seq = router.seq) : Quiet visited router last where
  state key := (hsecond.state key).trans (hfirst.state key)
  stamp key := by
    rcases hsecond.stamp key with hsame | ⟨hvisited, hstamp⟩
    · simpa only [hsame] using hfirst.stamp key
    · exact .inr ⟨hvisited, hseq ▸ hstamp⟩
  calls key := (hsecond.calls key).trans (hfirst.calls key)
  links key hkey := hfirst.links key (hsecond.links key hkey)
  wantUp hup := hfirst.wantUp (hsecond.wantUp hup)
  round_le := hfirst.round_le.trans hsecond.round_le
  round_eq hdown := (hsecond.round_eq (hwant.trans hdown)).trans (hfirst.round_eq hdown)
  fault hfault := hfirst.fault (hsecond.fault hfault)

/-- Updates of the stack, the flags and the queue only. -/
theorem Quiet.of_fields {prepared : Router} (hobject : prepared.object = router.object)
    (hlog : prepared.log = router.log) (hlinks : prepared.links = router.links)
    (hwant : prepared.wantUp = router.wantUp) (hseq : prepared.seq = router.seq)
    (hfault : prepared.fault = router.fault) : Quiet visited router prepared where
  state key := by simp only [stateOf, hobject]
  stamp key := .inl (by simp only [stampOf, hobject])
  calls key := by rw [hlog]
  links key := by rw [hlinks]; exact id
  wantUp := by rw [hwant]; exact id
  round_le := hseq.ge
  round_eq _ := hseq
  fault := by rw [hfault]; exact id

/-- An update of a link that keeps its connection state. -/
theorem Quiet.setLink {link update : LinkConnect}
    (hobject : router.object key = some link) (hstate : update.state = link.state)
    (hstamp : update.seq = link.seq ∨ visited = some key ∧ update.seq = router.seq) :
    Quiet visited router (router.setLink key update) where
  state := stateOf_setLink_same hobject hstate
  stamp other := by
    by_cases hkey : other = key
    · subst hkey
      simpa [stampOf, setLink, hobject] using hstamp
    · exact .inl (stampOf_setLink_other hkey update)
  calls _ := rfl
  links _ := id
  wantUp := id
  round_le := le_rfl
  round_eq _ := rfl
  fault := id

theorem Quiet.stop : Quiet visited router router.stop := by
  unfold Router.stop
  split
  · next hup =>
    exact ⟨fun _ => rfl, fun _ => .inl rfl, fun _ => rfl, fun _ => id, by simp,
      Nat.le_succ _, fun hdown => absurd (hup.symm.trans hdown) nofun, id⟩
  · exact .refl _

theorem Quiet.sendNext : Quiet visited router router.sendNext := by
  unfold Router.sendNext
  split_ifs <;> exact .of_fields rfl rfl rfl rfl rfl rfl

theorem Quiet.linkSendLData (frame : LDataPDU) (hobject : router.object key = some link) :
    Quiet visited router (router.linkSendLData key link frame) := by
  unfold Router.linkSendLData
  split
  · exact .refl _
  · have hset : Quiet visited router (router.setLink key
        { link with sendMore := false, retryTimer := true }) := .setLink hobject rfl (.inl rfl)
    have hcall : Quiet visited
        (router.setLink key { link with sendMore := false, retryTimer := true })
        ((router.setLink key { link with sendMore := false, retryTimer := true }).callDriver key
          (.send frame)) :=
      ⟨fun _ => rfl, fun _ => .inl rfl, fun other => by simp [callDriver, push],
        fun _ => id, id, le_rfl, fun _ => rfl, id⟩
    exact hcall.after hset rfl rfl

/-! ## Functions that go on -/

section Proceeds

variable {base : Router} {pending left : Pending}

/-- The flags, the queue and the stack are all that changes. -/
theorem Settled.of_core (hcore : base.core = router.core)
    (hmore : base.highSendMore = router.highSendMore ∨ base.highSendMore = true)
    (hstack : base.stack = router.stack ∨
      ∃ left : Pending, left.kind = pending.kind ∧ base.stack = left :: router.stack) :
    Settled visited router pending base := by
  simp only [core, Prod.mk.injEq] at hcore
  obtain ⟨haddr, hobject, hlinks, hseq, hwant, hsending, hlog, hfault⟩ := hcore
  exact ⟨⟨haddr, hlinks, hseq, hwant, hlog, .inl hobject, hstack⟩, hfault, hmore, hsending,
    .inl hobject⟩

theorem Settled.done (hcore : base.core = router.core)
    (hmore : base.highSendMore = router.highSendMore) (hstack : base.stack = router.stack) :
    Settled visited router pending base :=
  .of_core hcore (.inl hmore) (.inl hstack)

theorem Settled.later (hstack : base.stack = left :: router.stack)
    (hkind : left.kind = pending.kind) (hcore : base.core = router.core)
    (hmore : base.highSendMore = router.highSendMore) : Settled visited router pending base :=
  .of_core hcore (.inl hmore) (.inr ⟨left, hkind, hstack⟩)

theorem Settled.again (hkind : left.kind = pending.kind) :
    Settled visited router pending (router.push left) :=
  .later rfl hkind rfl rfl

/-- A link is given the round of the loop before it is told what to do. -/
theorem Settled.visit (hobject : router.object key = some link) (hkind : left.kind = pending.kind) :
    Settled (some key) router pending
      ((router.setLink key { link with seq := router.seq }).push left) :=
  ⟨⟨rfl, rfl, rfl, rfl, rfl, .inr ⟨key, link, hobject, rfl⟩, .inr ⟨left, hkind, rfl⟩⟩, rfl,
    .inl rfl, rfl, .inr ⟨key, link, rfl, hobject, rfl⟩⟩

variable (router)

theorem proceeds_loop (rest : List ℕ) (seen : Bool) :
    Proceeds router (.startLoop rest seen) (router.startLoop seen rest) ∧
      Proceeds router (.stopLoop rest seen) (router.stopLoop seen rest) := by
  constructor
  all_goals
    cases rest with
    | nil =>
      cases seen with
      | false => exact ⟨_, .inl rfl, .done rfl rfl rfl⟩
      | true => exact ⟨_, .inl rfl, .later rfl rfl rfl rfl⟩
    | cons key =>
      simp only [Proceeds, startLoop, stopLoop, requestOf]
      cases hobject : router.object key with
      | none => exact ⟨_, .inl rfl, .again rfl⟩
      | some =>
        simp only [bind_some]
        split
        · exact ⟨_, .inl rfl, .again rfl⟩
        · exact ⟨_, .inl rfl, .visit hobject rfl⟩

theorem proceeds_drain (count : Count) : Proceeds router (.drain count) (router.drain count) := by
  simp only [Proceeds, drain, requestOf]
  cases router.linkChanges with
  | nil => exact ⟨_, .inl rfl, .again rfl⟩
  | cons key =>
    simp only [head?_cons, bind_some]
    cases router.object key with
    | none => exact ⟨_, .inl rfl, .later rfl rfl rfl rfl⟩
    | some =>
      simp only [bind_some]
      split <;> exact ⟨_, .inl rfl, .later rfl rfl rfl rfl⟩

theorem proceeds_scan (rest : List ℕ) (count : Count) :
    Proceeds router (.scan rest count) (router.scan count rest) := by
  cases rest with
  | nil =>
    simp only [scan, evaluate]
    split
    · exact ⟨_, .inr ⟨rfl, rfl, rfl, rfl⟩, .later rfl rfl rfl rfl⟩
    · exact ⟨_, .inl rfl, .later rfl rfl rfl rfl⟩
  | cons key =>
    simp only [Proceeds, scan, requestOf]
    cases router.object key with
    | none => exact ⟨_, .inl rfl, .again rfl⟩
    | some =>
      simp only [bind_some]
      split_ifs <;> exact ⟨_, .inl rfl, .again rfl⟩

theorem proceeds_classify (key : ℕ) (rest : List ℕ) (count : Count) :
    Proceeds router (.classify key rest count) (router.classify key rest count) := by
  simp only [Proceeds, classify, requestOf]
  cases router.object key with
  | none => exact ⟨_, .inl rfl, .again rfl⟩
  | some link =>
    simp only [bind_some]
    cases link.state <;> simp only <;> split_ifs <;> exact ⟨_, .inl rfl, .again rfl⟩

theorem proceeds_conclude (count : Count) :
    Proceeds router (.conclude count) (router.conclude count) := by
  simp only [conclude, started]
  split_ifs
  · exact ⟨_, .inr ⟨rfl, rfl, rfl, rfl⟩, .done rfl rfl rfl⟩
  · exact ⟨_, .inl rfl, .done rfl rfl rfl⟩
  · exact ⟨_, .inl rfl, .of_core rfl (.inr rfl) (.inl rfl)⟩
  · exact ⟨_, .inl rfl, .done rfl rfl rfl⟩

/-- What every function but `send_L_Data` does when it goes on. -/
theorem proceeds_resume (hkind : pending.kind ≠ .send) :
    Proceeds router pending (router.resume pending) := by
  cases pending with
  | driver | linkStateChanged => exact ⟨_, .inl rfl, .done rfl rfl rfl⟩
  | startLoop rest seen => exact (proceeds_loop router rest seen).1
  | stopLoop rest seen => exact (proceeds_loop router rest seen).2
  | startNext | stopNext =>
    simp only [resume, startNext, stopNext]
    split <;> exact ⟨_, .inl rfl, .later rfl rfl rfl rfl⟩
  | drain count => exact proceeds_drain router count
  | scan rest count => exact proceeds_scan router rest count
  | classify key rest count => exact proceeds_classify router key rest count
  | conclude count => exact proceeds_conclude router count
  | sendLoop => exact absurd rfl hkind

end Proceeds

theorem Settled.quiet {base : Router} {pending : Pending}
    (hsettled : Settled visited router pending base) : Quiet visited router base := by
  have hrest : ∀ middle : Router, base.object = middle.object → middle.log = router.log →
      middle.links = router.links → middle.wantUp = router.wantUp → middle.seq = router.seq →
      middle.fault = router.fault → Quiet visited middle base :=
    fun middle hobject hlog hlinks hwant hseq hfault =>
      .of_fields hobject (hsettled.log.trans hlog.symm) (hsettled.links.trans hlinks.symm)
        (hsettled.wantUp.trans hwant.symm) (hsettled.seq.trans hseq.symm)
        (hsettled.fault.trans hfault.symm)
  obtain hsame | ⟨key, link, hvisited, hobject, hstamped⟩ := hsettled.stamped
  · exact hrest router hsame rfl rfl rfl rfl rfl
  · exact .after (hrest _ hstamped rfl rfl rfl rfl rfl)
      (.setLink hobject rfl (.inr ⟨hvisited, rfl⟩)) rfl rfl

private theorem sendLoop_spec (router : Router) (frame : LDataPDU) (found : Bool) (rest : List ℕ) :
    ∃ prepared, router.sendLoop frame found rest =
        prepared.perform (router.requestOf (.sendLoop frame found rest)) ∧
      Quiet (target (router.requestOf (.sendLoop frame found rest))) router prepared := by
  cases rest with
  | nil => exact ⟨_, rfl, .after .sendNext (.of_fields rfl rfl rfl rfl rfl rfl) rfl rfl⟩
  | cons key rest =>
    simp only [sendLoop, requestOf]
    cases hobject : router.object key with
    | none => exact ⟨_, rfl, .of_fields rfl rfl rfl rfl rfl rfl⟩
    | some link =>
      simp only
      split
      · have hpushed : (router.push (.sendLoop frame found rest)).object key = some link := hobject
        exact ⟨_, rfl, .after (.linkSendLData frame hpushed)
          (.of_fields rfl rfl rfl rfl rfl rfl) rfl rfl⟩
      · exact ⟨_, rfl, .of_fields rfl rfl rfl rfl rfl rfl⟩

/-- What goes on when a pending function does: bookkeeping, then its request. -/
theorem resume_spec (router : Router) (pending : Pending) :
    ∃ prepared, router.resume pending = prepared.perform (router.requestOf pending) ∧
      Quiet (target (router.requestOf pending)) router prepared := by
  by_cases hsend : pending.kind = .send
  · cases pending with
    | sendLoop frame found rest => exact sendLoop_spec router frame found rest
    | _ => cases hsend
  · obtain ⟨base, hasks | ⟨hstops, -, hnone, -⟩, hsettled⟩ := proceeds_resume router hsend
    · exact ⟨base, hasks, hsettled.quiet⟩
    · rw [hstops, hnone]
      exact ⟨base.stop, rfl, .after .stop (hnone ▸ hsettled.quiet) hsettled.wantUp hsettled.seq⟩

/-- Bookkeeping prepares any event that is neither a callback, nor a registration,
nor the router's start. -/
theorem Quiet.prepares {event : Event} {prepared : Router}
    (hquiet : Quiet (target (router.request event)) router prepared) (hnone : router.fault = none)
    (hcallback : ∀ key, event.callback key = []) (hconstructed : event.constructed = none)
    (hstopped : ∀ key answer, event ≠ .stopped key answer) : Prepares router event prepared where
  state key := by simpa [hconstructed] using hquiet.state key
  calls key := by simpa [hcallback] using hquiet.calls key
  links key hkey := .inl (hquiet.links key hkey)
  object key answer hevent := absurd hevent (hstopped key answer)
  stamp key := (hquiet.stamp key).imp_right .inl
  wantUp hwant := .inl (hquiet.wantUp hwant)
  round_le := hquiet.round_le
  round_eq hdown _ := hquiet.round_eq hdown
  fault hfault := by simpa [hnone] using hquiet.fault hfault

/-- A callback is recorded before the link acts on it. -/
theorem Prepares.record {event : Event} {call : Call} (hnone : router.fault = none)
    (hcallback : ∀ other, lifecycle other (router.record key call).log =
      event.callback other ++ lifecycle other router.log)
    (hconstructed : event.constructed = none) : Prepares router event (router.record key call) where
  state other := by simp [hconstructed, Router.stateOf, Router.record]
  calls := hcallback
  links _ hmem := .inl hmem
  object _ _ _ := rfl
  stamp _ := .inl rfl
  wantUp := .inl
  round_le := le_rfl
  round_eq _ _ := rfl
  fault := by simp [Router.record, hnone]

end Decomposition

variable {router : Router} {key : ℕ} {event : Event}

/-- `registerLink` up to the request to go up. -/
private theorem registerLink_spec (config : LinkConnect) (transient : Bool)
    (hnone : router.fault = none) :
    ∃ prepared, router.registerLink key config transient =
        prepared.perform (router.request (.registerLink key config transient)) ∧
      Prepares router (.registerLink key config transient) prepared := by
  have hprepares : ∀ prepared : Router, (∀ other, prepared.stateOf other =
      if other = key then some .down else router.stateOf other) →
      (∀ other, other ≠ key → prepared.stampOf other = router.stampOf other) →
      (∃ round ≤ router.seq, prepared.stampOf key = some round) → prepared.log = router.log →
      prepared.links = router.links ++ [key] →
      prepared.wantUp = router.wantUp → prepared.seq = router.seq →
      prepared.fault = router.fault →
      Prepares router (.registerLink key config transient) prepared := by
    intro prepared hstate hstamp hround hlog hlinks hwant hseq hfault
    refine ⟨fun other => ?_, fun other => ?_, fun other hmem => ?_, fun _ _ => nofun,
      fun other => ?_, fun h => .inl (hwant ▸ h), hseq.ge, fun _ _ => hseq, by simp [hfault, hnone]⟩
    · simp [hstate, Event.constructed, eq_comm]
    · simp [hlog, Event.callback]
    · simpa [hlinks, Event.constructed, eq_comm] using hmem
    · by_cases hother : other = key
      · subst hother
        exact .inr (.inr ⟨rfl, hround⟩)
      · exact .inl (hstamp other hother)
  simp only [registerLink, request]
  split
  all_goals
    refine ⟨_, rfl, hprepares _ (fun other => ?_) (fun other hother => ?_) ?_ rfl rfl rfl rfl rfl⟩
    · by_cases hother : other = key <;> simp [stateOf, setLink, LinkConnect.construct, hother]
    · simp [stampOf, setLink, hother]
    · simp [stampOf, setLink, LinkConnect.construct]

/-- `retry_timer_cb` up to its request. -/
private theorem retryTimer_spec (hobject : router.object key = some link) :
    ∃ prepared, router.retryTimer key link = prepared.perform (router.request (.retryTimer key)) ∧
      Quiet (target (router.request (.retryTimer key))) router prepared := by
  simp only [retryTimer, request, hobject, bind_some]
  split_ifs <;> exact ⟨_, rfl, .setLink hobject rfl (.inl rfl)⟩

/-- Every step is bookkeeping followed by at most one request. -/
theorem step_spec {router next : Router} (hstep : step router event = some next) :
    ∃ prepared, next = prepared.perform (router.request event) ∧
      Prepares router event prepared := by
  have hnone := fault_eq_none_of_step hstep
  have hquiet : ∀ {prepared}, Quiet (target (router.request event)) router prepared →
      (∀ key, event.callback key = []) →
      event.constructed = none → (∀ key answer, event ≠ .stopped key answer) →
      Prepares router event prepared := fun h => h.prepares hnone
  cases steps_of_step hstep with
  | @resume pending rest hstack =>
    obtain ⟨prepared, hresume, hprepared⟩ := resume_spec { router with stack := rest } pending
    have hrequest : router.request .resume = { router with stack := rest }.requestOf pending := by
      rw [request, hstack]
      rfl
    rw [← hrequest] at hresume hprepared
    exact ⟨prepared, hresume, hquiet (.after hprepared (.of_fields rfl rfl rfl rfl rfl rfl) rfl rfl)
      (fun _ => rfl) rfl nofun⟩
  | ret | stateTrigger =>
    exact ⟨_, rfl, hquiet (.of_fields rfl rfl rfl rfl rfl rfl) (fun _ => rfl) rfl nofun⟩
  | started | stopped | errored =>
    exact ⟨_, rfl, .record hnone (fun other => by simp [Event.callback]) rfl⟩
  | sendNext _ hobject =>
    exact ⟨_, rfl, hquiet (.after .sendNext (.setLink hobject rfl (.inl rfl)) rfl rfl)
      (fun _ => rfl) rfl nofun⟩
  | addresses _ hobject =>
    exact ⟨_, rfl, hquiet (.setLink hobject rfl (.inl rfl)) (fun _ => rfl) rfl nofun⟩
  | registerLink => exact registerLink_spec _ _ hnone
  | unregisterLink =>
    exact ⟨_, rfl, hquiet ⟨fun _ => rfl, fun _ => .inl rfl, fun _ => rfl,
      fun _ => mem_of_mem_erase, id, le_rfl, fun _ => rfl, id⟩
      (fun _ => rfl) rfl nofun⟩
  | rehash _ hperm =>
    exact ⟨_, rfl, hquiet ⟨fun _ => rfl, fun _ => .inl rfl, fun _ => rfl,
      fun _ => hperm.mem_iff.mp, id, le_rfl, fun _ => rfl, id⟩
      (fun _ => rfl) rfl nofun⟩
  | start =>
    refine ⟨router.start, rfl, ?_⟩
    unfold start
    split
    · exact hquiet (.refl _) (fun _ => rfl) rfl nofun
    · exact ⟨fun _ => rfl, fun _ => rfl, fun _ => .inl, nofun, fun _ => .inl rfl,
        fun _ => .inr rfl, Nat.le_succ _, fun _ h => absurd rfl h, by simp [hnone]⟩
  | stop => exact ⟨_, rfl, hquiet .stop (fun _ => rfl) rfl nofun⟩
  | retryTimer _ hobject =>
    obtain ⟨prepared, htimer, hprepared⟩ := retryTimer_spec hobject
    exact ⟨prepared, htimer, hquiet hprepared (fun _ => rfl) rfl nofun⟩
  | @sendLData frame =>
    refine ⟨router.sendLData frame, rfl, hquiet ?_ (fun _ => rfl) rfl nofun⟩
    unfold sendLData
    split
    · exact .of_fields rfl rfl rfl rfl rfl rfl
    · exact ⟨fun _ => rfl, fun _ => .inl rfl, fun _ => rfl, fun _ => id, id, le_rfl, fun _ => rfl,
        by simp⟩

/-! ## The effect of a request -/

/-- The calls of the driver that a transition ends with. -/
def calls : Effect → List Call
  | .start => [.start]
  | .stop => [.stop]
  | .unchanged | .retryLater | .changed => []

@[simp]
theorem calls_start : calls .start = [.start] := rfl

@[simp]
theorem calls_stop : calls .stop = [.stop] := rfl

@[simp]
theorem calls_unchanged : calls .unchanged = [] := rfl

@[simp]
theorem calls_changed : calls .changed = [] := rfl

/-- The retry rule never calls the driver. -/
@[simp]
theorem calls_retry (link : LinkConnect) : calls link.retry.2 = [] := by
  unfold LinkConnect.retry
  split <;> rfl

namespace Router

variable {router : Router} {key : ℕ}

theorem exists_object_of_stateOf {state : LConnState} (hstate : router.stateOf key = some state) :
    ∃ link, router.object key = some link ∧ link.state = state := by
  simpa [stateOf] using hstate

/-- A transition that the table accepts. -/
theorem setState_of_ok {link next : LinkConnect} {effect : Effect}
    (hobject : router.object key = some link)
    (htable : link.setState newState = .ok (next, effect)) :
    (router.setState key newState).stateOf key = some next.state ∧
      lifecycle key (router.setState key newState).log = calls effect ++ lifecycle key router.log ∧
      (router.setState key newState).fault = router.fault := by
  cases effect <;>
    simp [setState, follow, hobject, htable, calls, linkStateChanged, callDriver, record, push,
      lifecycle, stateOf, setLink]

/-- A transition that the table rejects aborts the program. -/
theorem setState_of_error {fault : Fault} (hobject : router.object key = some link)
    (htable : link.setState newState = .error fault) :
    router.setState key newState = { router with fault := some fault } := by
  simp [setState, hobject, htable]

/-- A transition of one link leaves the others and their drivers alone. -/
theorem setState_other {other : ℕ} (hother : other ≠ key) (newState : LConnState) :
    (router.setState key newState).stateOf other = router.stateOf other ∧
      lifecycle other (router.setState key newState).log = lifecycle other router.log := by
  unfold setState
  split
  · exact ⟨rfl, rfl⟩
  · split
    · exact ⟨rfl, rfl⟩
    · next next effect _ =>
      cases effect <;>
        simp [follow, stateOf, setLink, linkStateChanged, callDriver, record, push, lifecycle,
          hother, hother.symm]

/-- What no transition of the table changes about a link stays as it is for all links. -/
theorem map_object_setState {α : Type*} (read : LinkConnect → α)
    (hread : ∀ link result, link.setState newState = .ok result → read result.1 = read link)
    (other : ℕ) :
    ((router.setState key newState).object other).map read = (router.object other).map read := by
  unfold setState
  split
  · rfl
  · next link hobject =>
    split
    · rfl
    · next next effect htable =>
      have hsame : read next = read link := hread link _ htable
      have hset : ((router.setLink key next).object other).map read =
          (router.object other).map read := by
        by_cases hother : other = key
        · subst hother
          simp [setLink, hobject, hsame]
        · simp [setLink, hother]
      cases effect <;> exact hset

/-- Transitions stamp no link. -/
theorem stampOf_setState (newState : LConnState) (other : ℕ) :
    (router.setState key newState).stampOf other = router.stampOf other :=
  map_object_setState _ (fun _ _ htable => LinkConnect.setState_seq htable) other

theorem stampOf_perform (request : Option (ℕ × Request)) (other : ℕ) :
    (router.perform request).stampOf other = router.stampOf other := by
  match request with
  | none => rfl
  | some (key, .set newState) => exact stampOf_setState newState other
  | some (key, .stop) => rfl

/-- A request changes neither the table nor what the router wants. -/
theorem perform_fields (request : Option (ℕ × Request)) :
    (router.perform request).links = router.links ∧
      (router.perform request).wantUp = router.wantUp ∧
      (router.perform request).seq = router.seq := by
  match request with
  | none => exact ⟨rfl, rfl, rfl⟩
  | some (key, .set newState) => simp [perform]
  | some (key, .stop) => exact ⟨rfl, rfl, rfl⟩

/-- A request leaves every link but its own alone. -/
theorem perform_other {other : ℕ} {request : Option (ℕ × Request)}
    (hrequest : ∀ asked, request ≠ some (other, asked)) :
    (router.perform request).stateOf other = router.stateOf other ∧
      lifecycle other (router.perform request).log = lifecycle other router.log := by
  match request with
  | none => exact ⟨rfl, rfl⟩
  | some (key, .set newState) =>
    have hother : other ≠ key := by
      rintro rfl
      exact hrequest _ rfl
    exact setState_other hother newState
  | some (key, .stop) =>
    have hother : key ≠ other := by
      rintro rfl
      exact hrequest _ rfl
    exact ⟨rfl, by simp [perform, callDriver, push, hother]⟩

/-- A function that goes on asks a link to go up or down, or stops one that failed. -/
theorem requestOf_cases {pending : Pending} {request : Request}
    (hrequest : router.requestOf pending = some (key, request)) :
    ∃ link, router.object key = some link ∧ (request = .set .goingUp ∨ request = .set .goingDown ∨
        request = .stop ∧ (link.state = .upError ∨ link.state = .goingDownError)) := by
  unfold requestOf at hrequest
  split at hrequest
  case h_3 =>
      obtain ⟨found, _, hfound⟩ := bind_eq_some_iff.mp hrequest
      obtain ⟨link, hobject, hguarded⟩ := bind_eq_some_iff.mp hfound
      split_ifs at hguarded
      obtain ⟨rfl, rfl⟩ : found = key ∧ _ = request := by simpa using hguarded
      exact ⟨link, hobject, .inr (.inl rfl)⟩
  case h_6 => simp at hrequest
  all_goals
    obtain ⟨link, hobject, hguarded⟩ := bind_eq_some_iff.mp hrequest
    refine ⟨link, ?_⟩
    repeat' split at hguarded
    all_goals first
      | (obtain ⟨rfl, rfl⟩ : _ = key ∧ _ = request := by simpa using hguarded
         simp_all)
      | simp at hguarded

end Router

/-- A request goes to a link that exists, or to the one just constructed. -/
theorem request_stateOf {router next : Router} {request : Request}
    (hstep : step router event = some next)
    (hrequest : router.request event = some (key, request)) :
    (∃ state, router.stateOf key = some state) ∨ event.constructed = some key := by
  have hexists : ∀ link, router.object key = some link →
      (∃ state, router.stateOf key = some state) ∨ event.constructed = some key :=
    fun link hobject => .inl ⟨_, router.stateOf_of_object key hobject⟩
  cases steps_of_step hstep with
  | resume hstack =>
    simp only [Router.request, hstack, head?_cons, bind_some] at hrequest
    obtain ⟨link, hobject, -⟩ := Router.requestOf_cases hrequest
    exact hexists link hobject
  | started _ hobject | stopped _ hobject | errored _ hobject =>
    obtain ⟨rfl, _⟩ : _ = key ∧ _ := by simpa [Router.request] using hrequest
    exact hexists _ hobject
  | registerLink =>
    simp only [Router.request] at hrequest
    split at hrequest
    · obtain ⟨rfl, _⟩ : _ = key ∧ _ := by simpa using hrequest
      exact .inr rfl
    · simp at hrequest
  | retryTimer _ hobject =>
    simp only [Router.request, hobject, bind_some] at hrequest
    split_ifs at hrequest <;>
      (obtain ⟨rfl, _⟩ : _ = key ∧ _ := by simpa using hrequest
       exact hexists _ hobject)
  | _ => simp [Router.request] at hrequest

/-- Where a request to change the state comes from. -/
theorem request_set_cases (hrequest : router.request event = some (key, .set newState)) :
    (newState = .up ∧ event = .started key) ∨
      (newState = .down ∧ ∃ answer, event = .stopped key answer) ∨
      (newState = .error ∧
        (event = .errored key ∨ event = .retryTimer key ∧ router.stateOf key = some .up)) ∨
      ((newState = .goingUp ∨ newState = .goingDown) ∧ event.callback key = []) := by
  cases event with
  | resume =>
    refine .inr (.inr (.inr ⟨?_, rfl⟩))
    obtain ⟨_, _, hpending⟩ := bind_eq_some_iff.mp hrequest
    obtain ⟨link, -, hasked⟩ := requestOf_cases hpending
    simpa using hasked
  | started | stopped | errored => simp_all [request]
  | retryTimer =>
    obtain ⟨link, _, hguarded⟩ := bind_eq_some_iff.mp hrequest
    split_ifs at hguarded <;> simp_all [stateOf, Event.callback]
  | registerLink =>
    rw [request] at hrequest
    split at hrequest <;> simp_all [Event.callback]
  | _ => simp [request] at hrequest

/-! ## Invariants of single links -/

/-- Every link satisfies an invariant of its connection state and its calls; a key
without a link has had no calls. -/
def PerLink (Inv : LConnState → List Call → Prop) (router : Router) : Prop :=
  ∀ key, match router.stateOf key with
    | none => lifecycle key router.log = []
    | some state => Inv state (lifecycle key router.log)

section PerLink

variable {Inv : LConnState → List Call → Prop} {router next : Router} {event : Event}
variable {key : ℕ} {state : LConnState}

theorem PerLink.boot (Inv : LConnState → List Call → Prop) (addr : Addr) :
    PerLink Inv (boot addr) := fun _ => rfl

theorem PerLink.of_some (hinv : PerLink Inv router) (hstate : router.stateOf key = some state) :
    Inv state (lifecycle key router.log) := by
  have hkey := hinv key
  rwa [hstate] at hkey

theorem PerLink.of_none (hinv : PerLink Inv router) (hstate : router.stateOf key = none) :
    lifecycle key router.log = [] := by
  have hkey := hinv key
  rwa [hstate] at hkey

/-- A key without a link counts as a link that is down and was never called. -/
theorem PerLink.getD (hdown : Inv .down []) (hinv : PerLink Inv router) (key : ℕ) :
    Inv ((router.stateOf key).getD .down) (lifecycle key router.log) := by
  cases hstate : router.stateOf key with
  | none => rwa [hinv.of_none hstate]
  | some => exact hinv.of_some hstate

/-- A callback comes with a request to the same link. -/
theorem Event.callback_eq_nil (hrequest : ∀ request, router.request event ≠ some (key, request)) :
    event.callback key = [] := by
  cases event <;> simp_all [Event.callback, request]

/-- Only the router itself calls a driver's `stop()` without a transition. -/
theorem eq_resume_of_stop (hrequest : router.request event = some (key, .stop)) :
    event = .resume := by
  cases event with
  | resume => rfl
  | retryTimer =>
    obtain ⟨_, _, hguarded⟩ := bind_eq_some_iff.mp hrequest
    split_ifs at hguarded <;> simp at hguarded
  | registerLink =>
    rw [request] at hrequest
    split at hrequest <;> simp at hrequest
  | _ => simp [request] at hrequest

/-- The router calls `stop()` directly only on a link in an error state. -/
theorem stateOf_of_stop (hrequest : router.request event = some (key, .stop)) :
    router.stateOf key = some .upError ∨ router.stateOf key = some .goingDownError := by
  obtain rfl := eq_resume_of_stop hrequest
  obtain ⟨_, _, hpending⟩ := bind_eq_some_iff.mp hrequest
  obtain ⟨_, hobject, hasked⟩ := requestOf_cases hpending
  rw [router.stateOf_of_object key hobject]
  simpa using hasked

theorem stateOf_of_constructed (hstep : step router event = some next)
    (hconstructed : event.constructed = some key) : router.stateOf key = none := by
  cases steps_of_step hstep with
  | registerLink _ hobject =>
    obtain rfl : _ = key := by simpa [Event.constructed] using hconstructed
    simp [stateOf, hobject]
  | _ => simp [Event.constructed] at hconstructed

/-- The state in which a link meets a request; a new link is down. -/
theorem Prepares.getD_stateOf {prepared : Router} (hstep : step router event = some next)
    (hprepares : Prepares router event prepared) (hstate : prepared.stateOf key = some state) :
    (router.stateOf key).getD .down = state := by
  rw [hprepares.state] at hstate
  split at hstate
  · next hconstructed =>
    rw [stateOf_of_constructed hstep hconstructed]
    exact Option.some.inj hstate
  · rw [hstate]
    rfl

/-- The bookkeeping of a step keeps an invariant of single links; the calls are
those before the step. -/
private theorem PerLink.prepared {prepared : Router} (hdown : Inv .down [])
    (hstep : step router event = some next) (hinv : PerLink Inv router)
    (hprepares : Prepares router event prepared) (hstate : prepared.stateOf key = some state) :
    Inv state (lifecycle key router.log) := by
  rw [hprepares.state] at hstate
  split at hstate
  · next hconstructed =>
    cases hstate
    rwa [hinv.of_none (stateOf_of_constructed hstep hconstructed)]
  · exact hinv.of_some hstate

/-- The proof rule: an invariant of single links holds after a step if the
requests of the step keep it. -/
theorem PerLink.step (hdown : Inv .down []) (hstep : step router event = some next)
    (hinv : PerLink Inv router) (hset : ∀ (key : ℕ) (newState : LConnState) (link : LinkConnect),
      router.request event = some (key, .set newState) →
      (router.stateOf key).getD .down = link.state → Inv link.state (lifecycle key router.log) →
      match link.setState newState with
      | .ok (after, effect) =>
        Inv after.state (calls effect ++ (event.callback key ++ lifecycle key router.log))
      | .error _ => Inv link.state (event.callback key ++ lifecycle key router.log))
    (hstop : ∀ (key : ℕ) (state : LConnState), router.request event = some (key, .stop) →
      router.stateOf key = some state → Inv state (lifecycle key router.log) →
      Inv state (.stop :: lifecycle key router.log)) : PerLink Inv next := by
  obtain ⟨prepared, rfl, hprepares⟩ := step_spec hstep
  intro key
  by_cases hrequest : ∃ asked, router.request event = some (key, asked)
  · obtain ⟨asked, hrequest⟩ := hrequest
    have hexists : ∃ state, prepared.stateOf key = some state := by
      rw [hprepares.state]
      split
      · exact ⟨_, rfl⟩
      · next hconstructed => exact (request_stateOf hstep hrequest).resolve_right hconstructed
    obtain ⟨state, hstate⟩ := hexists
    have hbefore := hprepares.getD_stateOf hstep hstate
    have hkey := PerLink.prepared hdown hstep hinv hprepares hstate
    obtain ⟨link, hobject, rfl⟩ := exists_object_of_stateOf hstate
    rw [hrequest]
    cases asked with
    | set newState =>
      have hset := hset key newState link hrequest hbefore hkey
      cases htable : link.setState newState with
      | error =>
        rw [htable] at hset
        rw [perform, setState_of_error hobject htable]
        simpa [stateOf, hobject, hprepares.calls] using hset
      | ok result =>
        obtain ⟨_, _⟩ := result
        rw [htable] at hset
        obtain ⟨hafter, hcalls, _⟩ := setState_of_ok hobject htable
        simpa only [perform, hafter, hcalls, hprepares.calls] using hset
    | stop =>
      obtain rfl := eq_resume_of_stop hrequest
      have hsame : prepared.stateOf key = router.stateOf key := hprepares.state key
      have hcalls : lifecycle key prepared.log = lifecycle key router.log := hprepares.calls key
      have hstopped := hstop key link.state hrequest (hsame ▸ hstate) hkey
      simpa [perform, callDriver, push, record, lifecycle, stateOf, hobject, hcalls] using hstopped
  · push Not at hrequest
    obtain ⟨hstate, hcalls⟩ := perform_other hrequest
    rw [hstate, hcalls, hprepares.calls, Event.callback_eq_nil hrequest, nil_append]
    cases hkey : prepared.stateOf key with
    | none =>
      rw [hprepares.state] at hkey
      split at hkey
      · simp at hkey
      · exact hinv.of_none hkey
    | some => exact PerLink.prepared hdown hstep hinv hprepares hkey

/-- The program is aborted only where a link rejects a requested state. -/
theorem request_of_abort (hstep : step router event = some next)
    (habort : next.fault = some .abort) :
    ∃ (key : ℕ) (newState : LConnState) (link : LinkConnect),
      router.request event = some (key, .set newState) ∧
      (router.stateOf key).getD .down = link.state ∧ link.setState newState = .error .abort := by
  obtain ⟨prepared, rfl, hprepares⟩ := step_spec hstep
  match hrequest : router.request event with
  | none => exact absurd habort (by rw [hrequest]; exact hprepares.fault)
  | some (key, .stop) => exact absurd habort (by rw [hrequest]; exact hprepares.fault)
  | some (key, .set newState) =>
    rw [hrequest, perform] at habort
    cases hobject : prepared.object key with
    | none => simp [setState, hobject, hprepares.fault] at habort
    | some link =>
      refine ⟨key, newState, link, rfl,
        hprepares.getD_stateOf hstep (prepared.stateOf_of_object key hobject), ?_⟩
      cases htable : link.setState newState with
      | error =>
        rw [setState_of_error hobject htable] at habort
        rw [Option.some.inj habort]
      | ok =>
        obtain ⟨_, _, hfault⟩ := setState_of_ok hobject htable
        exact absurd (hfault ▸ habort) hprepares.fault

end PerLink

end Knxd.Routing
