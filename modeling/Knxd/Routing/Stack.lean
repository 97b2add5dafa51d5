import Knxd.Routing.Request

/-!
# The call stack

A suspended function stays on the stack until it goes on, and going on it leaves
only itself, what it calls, or, for the state trigger, the shutdown it starts.
So the start of the router and its state trigger never overlap, which decides
what a shutdown can interrupt.
-/

namespace Knxd.Routing

open Memory LPDU Link Transition Router List

def Grows (kinds : Kind → Prop) (stack grown : List Pending) : Prop :=
  ∃ added, grown = added ++ stack ∧ ∀ pending ∈ added, pending.kind = .call ∨ kinds pending.kind

section Grows

variable {kinds : Kind → Prop} {router : Router} {stack grown : List Pending}

theorem Grows.refl (stack : List Pending) : Grows kinds stack stack := ⟨[], rfl, forall_mem_nil _⟩

theorem Grows.cons {pending : Pending} (hkind : pending.kind = .call ∨ kinds pending.kind)
    (hgrows : Grows kinds stack grown) : Grows kinds stack (pending :: grown) := by
  obtain ⟨added, rfl, hadded⟩ := hgrows
  refine ⟨pending :: added, rfl, fun found hfound => ?_⟩
  rcases mem_cons.mp hfound with rfl | hfound
  · exact hkind
  · exact hadded found hfound

theorem Grows.mem (hgrows : Grows kinds stack grown) {pending : Pending}
    (hmem : pending ∈ stack) : pending ∈ grown := by
  obtain ⟨added, rfl, _⟩ := hgrows
  exact mem_append_right added hmem

/-- What is on the grown stack was there before or is of a new kind. -/
theorem Grows.mem_cases (hgrows : Grows kinds stack grown) {pending : Pending}
    (hmem : pending ∈ grown) : pending ∈ stack ∨ pending.kind = .call ∨ kinds pending.kind := by
  obtain ⟨_, rfl, hadded⟩ := hgrows
  rcases mem_append.mp hmem with hnew | hold
  · exact .inr (hadded pending hnew)
  · exact .inl hold

theorem Grows.setState (hgrows : Grows kinds stack router.stack) (key : ℕ)
    (newState : LConnState) : Grows kinds stack (router.setState key newState).stack := by
  unfold Router.setState
  split
  · exact hgrows
  · split
    · exact hgrows
    · next next effect _ =>
      cases effect with
      | unchanged | retryLater | changed => exact hgrows
      | start | stop => exact (hgrows.cons (.inl rfl)).cons (.inl rfl)

theorem Grows.stop (hgrows : Grows kinds stack router.stack) (hstop : kinds .stop) :
    Grows kinds stack router.stop.stack := by
  unfold Router.stop
  split
  · exact hgrows.cons (.inr hstop)
  · exact hgrows

theorem stack_sendNext (router : Router) : router.sendNext.stack = router.stack := by
  unfold sendNext
  split_ifs <;> rfl

end Grows

open Grows

/-- All that a function other than `send_L_Data` does when it goes on: bookkeeping, and
then at most one call. -/
inductive Resumed (router : Router) (pending : Pending) : Router → Prop
  | settled {base : Router} : Settles router pending base → Resumed router pending base
  | setState {base : Router} (key : ℕ) (newState : LConnState) :
      Settles router pending base → Resumed router pending (base.setState key newState)
  | callDriver {base : Router} (key : ℕ) :
      Settles router pending base → Resumed router pending (base.callDriver key .stop)
  | stop {base : Router} :
      pending.kind = .trigger → base.object = router.object → Settles router pending base →
      Resumed router pending base.stop

variable {router next : Router} {event : Event} {pending : Pending}

/-- What every function but `send_L_Data` does when it goes on. -/
theorem resumed_resume (router : Router) (hkind : pending.kind ≠ .send) :
    Resumed router pending (router.resume pending) := by
  obtain ⟨_, hasks | ⟨hstops, htrigger, -, hobject⟩, hsettled⟩ := proceeds_resume router hkind
  · rw [hasks]
    cases router.requestOf pending with
    | none => exact .settled hsettled.toSettles
    | some asked =>
      obtain ⟨key, request⟩ := asked
      cases request with
      | set newState => exact .setState key newState hsettled.toSettles
      | stop => exact .callDriver key hsettled.toSettles
  · rw [hstops]
    exact .stop htrigger hobject hsettled.toSettles

/-- What a function of a kind may leave on the stack. -/
def Kind.leaves (kind left : Kind) : Prop :=
  left = kind ∨ (kind = .trigger ∧ left = .stop)

theorem Settles.grows {router base : Router} {kinds : Kind → Prop}
    (hsettles : Settles router pending base) (hkind : kinds pending.kind) :
    Grows kinds router.stack base.stack := by
  rcases hsettles.stack with hsame | ⟨left, hleft, hstack⟩
  · rw [hsame]
    exact .refl _
  · rw [hstack]
    exact (refl _).cons (.inr (hleft ▸ hkind))

theorem Resumed.grows (hresumed : Resumed router pending next) :
    Grows pending.kind.leaves router.stack next.stack := by
  cases hresumed with
  | settled hsettles => exact hsettles.grows (.inl rfl)
  | setState key newState hsettles => exact (hsettles.grows (.inl rfl)).setState key newState
  | callDriver _ hsettles => exact (hsettles.grows (.inl rfl)).cons (.inl rfl)
  | stop htrigger _ hsettles => exact (hsettles.grows (.inl rfl)).stop (.inr ⟨htrigger, rfl⟩)

/-- A function that goes on leaves only itself, calls, or the shutdown. -/
theorem grows_resume (router : Router) (pending : Pending) :
    Grows pending.kind.leaves router.stack (router.resume pending).stack := by
  by_cases hsend : pending.kind = .send
  · have hself : ∀ left : Pending, left.kind = pending.kind →
        Grows pending.kind.leaves router.stack (left :: router.stack) :=
      fun left hkind => (refl router.stack).cons (.inr (.inl hkind))
    cases pending with
    | sendLoop _ _ rest =>
      cases rest with
      | nil =>
        rw [resume, sendLoop, stack_sendNext]
        exact .refl _
      | cons =>
        simp only [resume, sendLoop, linkSendLData]
        repeat' split
        · exact hself _ rfl
        · exact hself _ rfl
        · exact .cons (.inl rfl) (hself _ (by rfl))
        · exact hself _ rfl
    | _ => cases hsend
  · exact (resumed_resume router hsend).grows

/-- The functions that an event of the event loop puts on the empty stack. -/
def Event.opens : Event → Kind → Prop
  | .start, kind => kind = .start
  | .stop, kind => kind = .stop
  | .stateTrigger, kind => kind = .trigger
  | .sendLData _, kind => kind = .send
  | _, _ => False

/-- How a step changes the stack: the function on top goes on, the driver on top
returns, or something is put on top. -/
theorem grows_step (hstep : step router event = some next) :
    (∃ pending rest, router.stack = pending :: rest ∧
        next = { router with stack := rest }.resume pending ∧
        Grows pending.kind.leaves rest next.stack) ∨
      router.stack = .driver :: next.stack ∨ Grows (fun _ => False) router.stack next.stack ∨
      router.stack = [] ∧ Grows event.opens [] next.stack := by
  have hbottom : ∀ {kinds : Kind → Prop}, router.stack = [] → Grows kinds [] router.stack :=
    fun hidle => ⟨[], hidle, forall_mem_nil _⟩
  cases steps_of_step hstep with
  | @resume pending rest hstack =>
    exact .inl ⟨pending, rest, hstack, rfl, grows_resume { router with stack := rest } pending⟩
  | ret hstack => exact .inr (.inl hstack)
  | started | stopped | errored => exact .inr (.inr (.inl (setState (by exact .refl _) _ _)))
  | sendNext =>
    refine .inr (.inr (.inl ?_))
    rw [linkSendNext, stack_sendNext]
    exact .refl _
  | addresses | unregisterLink | rehash => exact .inr (.inr (.inl (.refl _)))
  | registerLink =>
    refine .inr (.inr (.inl ?_))
    unfold registerLink
    split
    · exact setState (by exact .refl _) _ _
    · exact .refl _
  | start hidle =>
    refine .inr (.inr (.inr ⟨hidle, ?_⟩))
    unfold start
    split
    · exact hbottom hidle
    · exact (hbottom hidle).cons (.inr rfl)
  | stop hidle => exact .inr (.inr (.inr ⟨hidle, stop (hbottom hidle) rfl⟩))
  | stateTrigger hidle => exact .inr (.inr (.inr ⟨hidle, (hbottom hidle).cons (.inr rfl)⟩))
  | retryTimer =>
    refine .inr (.inr (.inl ?_))
    unfold retryTimer
    split_ifs
    · exact setState (by exact .refl _) _ _
    · exact setState (by exact .refl _) _ _
    · exact .refl _
  | sendLData hidle =>
    refine .inr (.inr (.inr ⟨hidle, ?_⟩))
    unfold sendLData
    split
    · exact (hbottom hidle).cons (.inr rfl)
    · exact hbottom hidle

/-- The start of the router and its state trigger are never suspended together. -/
def Exclusive (stack : List Pending) : Prop :=
  (∀ pending ∈ stack, pending.kind ≠ .start) ∨ ∀ pending ∈ stack, pending.kind ≠ .trigger

/-- A kind that the step does not bring in stays off the stack. -/
theorem kind_ne_of_step {kind : Kind} (hstep : step router event = some next) (hcall : kind ≠ .call)
    (habsent : ∀ pending ∈ router.stack, pending.kind ≠ kind)
    (htrigger : kind = .stop → ∀ pending ∈ router.stack, pending.kind ≠ .trigger)
    (hopens : ¬ event.opens kind) : ∀ pending ∈ next.stack, pending.kind ≠ kind := by
  intro pending hmem hkind
  rcases grows_step hstep with ⟨top, rest, hstack, _, hgrows⟩ | hreturn | hgrows | ⟨_, hgrows⟩
  · have htop : top ∈ router.stack := hstack ▸ mem_cons_self
    rcases hgrows.mem_cases hmem with hold | hnew | hleft | ⟨htrig, hstop⟩
    · exact habsent pending (hstack ▸ mem_cons_of_mem _ hold) hkind
    · exact hcall (hkind.symm.trans hnew)
    · exact habsent top htop (hleft.symm.trans hkind)
    · exact htrigger (hkind.symm.trans hstop) top htop htrig
  · exact habsent pending (hreturn ▸ mem_cons_of_mem _ hmem) hkind
  · rcases hgrows.mem_cases hmem with hold | hnew | hnever
    · exact habsent pending hold hkind
    · exact hcall (hkind.symm.trans hnew)
    · exact hnever
  · rcases hgrows.mem_cases hmem with hold | hnew | hopen
    · simp at hold
    · exact hcall (hkind.symm.trans hnew)
    · exact hopens (hkind ▸ hopen)

/-- Only the event loop starts the router or runs its state trigger. -/
theorem stack_eq_nil_of_opens {kind : Kind} (hstep : step router event = some next)
    (hopens : event.opens kind) : router.stack = [] := by
  cases steps_of_step hstep with
  | start hidle | stop hidle | stateTrigger hidle | sendLData hidle => exact hidle
  | _ => exact hopens.elim

theorem exclusive_step (hexcl : Exclusive router.stack) (hstep : step router event = some next) :
    Exclusive next.stack := by
  have hempty : ∀ kind, event.opens kind → ∀ other pending, pending ∈ router.stack →
      pending.kind ≠ other := by
    intro kind hopens other pending hmem
    simp [stack_eq_nil_of_opens hstep hopens] at hmem
  by_cases hstart : event.opens .start
  · refine .inr (kind_ne_of_step hstep nofun (hempty _ hstart _) nofun fun htrigger => ?_)
    cases event <;> simp [Event.opens] at hstart htrigger
  · by_cases htrigger : event.opens .trigger
    · exact .inl (kind_ne_of_step hstep nofun (hempty _ htrigger _) nofun hstart)
    · exact hexcl.imp (fun habsent => kind_ne_of_step hstep nofun habsent nofun hstart)
        fun habsent => kind_ne_of_step hstep nofun habsent nofun htrigger

theorem exclusive_of_path {addr : Addr} {allowed : Router → Event → Prop}
    (hpath : Path step allowed (boot addr) router) : Exclusive router.stack :=
  hpath.invariant (fun router => Exclusive router.stack) (.inl (by simp [boot]))
    fun _ _ _ hexcl _ hstep => exclusive_step hexcl hstep

end Knxd.Routing
