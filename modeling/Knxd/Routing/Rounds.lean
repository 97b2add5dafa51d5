import Knxd.Routing.Shutdown

/-!
# The rounds of the router

Every call of `start` and `stop` begins a round, and the links that it tells to go up or
down get the number of the round.  A link without a number is down.  `knxd` calls
`Router::start` once, before its main loop, and in such a run the router itself tells a
link to go up at most once in its life: in the first round, or when it is registered.
Whatever starts the link later is its retry timer.
-/

namespace Knxd.Rounds

open Memory LPDU Link Routing Transition Shutdown Router Option

variable {router next : Router} {event : Event} {key : ℕ} {newState : LConnState}

/-- Out of `down` there is only the way up. -/
theorem state_of_down {link : LinkConnect} {result : LinkConnect × Effect}
    (hlink : link.state = .down) (hstate : newState ≠ .goingUp)
    (htable : link.setState newState = .ok result) : result.1.state = .down := by
  unfold LinkConnect.setState at htable
  rw [hlink] at htable
  cases newState with
  | goingUp => exact absurd rfl hstate
  | down | goingDown =>
    cases htable
    first | exact hlink | rfl
  | _ => cases htable

theorem stateOf_setState_of_down (hdown : router.stateOf key = some .down)
    (hstate : newState ≠ .goingUp) (other : ℕ) :
    (router.setState other newState).stateOf key = some .down := by
  by_cases hother : key = other
  · subst hother
    obtain ⟨link, hobject, hlink⟩ := exists_object_of_stateOf hdown
    cases htable : link.setState newState with
    | error =>
      rw [setState_of_error hobject htable]
      exact hdown
    | ok result =>
      obtain ⟨_, _⟩ := result
      rw [(setState_of_ok hobject htable).1, state_of_down hlink hstate htable]
  · exact (setState_other hother newState).1.trans hdown

/-- The step that sets `want_up` is the call of `start`. -/
theorem eq_start_of_raised {before begun : Router} (hstep : step before event = some begun)
    (hdown : before.wantUp = false) (hraised : begun.wantUp = true) :
    event = .start ∧ begun = before.start := by
  obtain ⟨prepared, hnext, hprepares⟩ := step_spec hstep
  have hwant : prepared.wantUp = true := by
    rw [← hraised, hnext, (prepared.perform_fields _).2.1]
  rcases hprepares.wantUp hwant with hup | rfl
  · cases hup.symm.trans hdown
  · cases steps_of_step hstep with
    | start => exact ⟨rfl, rfl⟩

/-- No round has reached the link. -/
def Untold (router : Router) (key : ℕ) : Prop :=
  ∀ round, router.stampOf key = some round → round = 0

theorem Untold.before (huntold : Untold next key) (hstamped : Stamped router)
    (hstep : step router event = some next) : Untold router key := by
  obtain ⟨_, rfl, hprepares⟩ := step_spec hstep
  intro round hround
  obtain hsame | ⟨-, hvisited⟩ | ⟨hconstructed, -⟩ := hprepares.stamp key
  · exact huntold round (by rw [stampOf_perform, hsame, hround])
  · have hzero : router.seq = 0 := huntold _ (by rw [stampOf_perform, hvisited])
    exact Nat.le_zero.1 (hzero ▸ hstamped key round hround)
  · have hnone := stateOf_of_constructed hstep hconstructed
    rw [stateOf, map_eq_none_iff] at hnone
    rw [stampOf, hnone] at hround
    cases hround

/-- What holds of the rounds in every run. -/
structure Numbered (router : Router) : Prop where
  stamped : Stamped router
  exclusive : Exclusive router.stack
  start : ∀ pending ∈ router.stack, pending.kind = .start → router.wantUp = true
  round : router.wantUp = true → 0 < router.seq
  down : ∀ key state, Untold router key → router.stateOf key = some state → state = .down

theorem numbered_boot (addr : Addr) : Numbered (boot addr) where
  stamped _ _ hstamp := by cases hstamp
  exclusive := .inl (by simp [boot])
  start := by simp [boot]
  round hup := by cases hup
  down _ _ _ hstate := by cases hstate

/-- The router tells a link to go up if no round has reached it, or in a later round than
the first one. -/
theorem Numbered.goingUp (hnumbered : Numbered router) (hstep : step router event = some next)
    (hrequest : router.request event = some (key, .set .goingUp)) :
    event = .retryTimer key ∧ router.stateOf key = some .waitRetry ∨
      router.wantUp = true ∧ ¬ Untold next key ∧ (router.seq = 1 → Untold router key) := by
  obtain ⟨htimer, -, hwait⟩ | ⟨hup, hstamp, hbefore⟩ :=
    goingUp_cases hnumbered.start hstep hrequest
  · exact .inl ⟨htimer, hwait⟩
  · refine .inr ⟨hup, fun huntold => ?_, fun hfirst round hround => ?_⟩
    · exact (hnumbered.round hup).ne' (huntold _ hstamp)
    · exact Nat.lt_one_iff.1 (hfirst ▸ hbefore round hround)

/-- A link that no round has reached stays down. -/
theorem Numbered.down_step (hnumbered : Numbered router) (hstep : step router event = some next)
    {state : LConnState} (huntold : Untold next key) (hstate : next.stateOf key = some state) :
    state = .down := by
  have hbefore := huntold.before hnumbered.stamped hstep
  have hnot : router.request event ≠ some (key, .set .goingUp) := by
    intro hrequest
    obtain ⟨-, hwait⟩ | ⟨-, htold, -⟩ := hnumbered.goingUp hstep hrequest
    · cases hnumbered.down key _ hbefore hwait
    · exact htold huntold
  obtain ⟨prepared, rfl, hprepares⟩ := step_spec hstep
  have hprepared : ∀ found, prepared.stateOf key = some found → found = .down := by
    intro found hfound
    rw [hprepares.state] at hfound
    split at hfound
    · exact (some.inj hfound).symm
    · exact hnumbered.down key found hbefore hfound
  by_cases hrequest : ∃ asked, router.request event = some (key, asked)
  · obtain ⟨asked, hrequest⟩ := hrequest
    rw [hrequest] at hstate hnot
    cases asked with
    | stop => exact hprepared state hstate
    | set newState =>
      have hup : newState ≠ .goingUp := fun hsame => hnot (by rw [hsame])
      cases hobject : prepared.object key with
      | none =>
        simp only [perform, setState, hobject] at hstate
        exact hprepared state hstate
      | some =>
        have hdown := prepared.stateOf_of_object key hobject
        rw [hprepared _ hdown] at hdown
        exact some.inj (hstate.symm.trans (stateOf_setState_of_down hdown hup key))
  · push Not at hrequest
    rw [(prepared.perform_other hrequest).1] at hstate
    exact hprepared state hstate

theorem Numbered.step (hnumbered : Numbered router) (hstep : step router event = some next) :
    Numbered next where
  stamped := stamped_step hnumbered.stamped hstep
  exclusive := exclusive_step hnumbered.exclusive hstep
  start pending hmem hkind := by
    by_contra hdown
    rw [Bool.not_eq_true] at hdown
    by_cases hup : router.wantUp = true
    · exact (halting_of_cleared hnumbered.exclusive hnumbered.stamped hstep hup hdown).start
        pending hmem hkind
    · have hopens : ¬ event.opens .start := fun hopens => by
        cases steps_of_step hstep with
        | start =>
          rw [Router.start, if_neg hup] at hdown
          cases hdown
        | _ => cases hopens
      have habsent : ∀ left ∈ next.stack, left.kind ≠ .start := kind_ne_of_step hstep (by simp)
        (fun left hleft hstart => hup (hnumbered.start left hleft hstart)) (by simp) hopens
      exact habsent pending hmem hkind
  round hup := by
    by_cases hbefore : router.wantUp = true
    · obtain ⟨prepared, rfl, hprepares⟩ := step_spec hstep
      rw [(prepared.perform_fields _).2.2]
      exact (hnumbered.round hbefore).trans_le hprepares.round_le
    · obtain ⟨-, rfl⟩ := eq_start_of_raised hstep (by simpa using hbefore) hup
      rw [Router.start, if_neg hbefore]
      exact Nat.succ_pos _
  down _ _ := hnumbered.down_step hstep

theorem numbered_of_path {addr : Addr} {allowed : Router → Event → Prop}
    (hpath : Path step allowed (boot addr) router) : Numbered router :=
  hpath.invariant Numbered (numbered_boot addr) fun _ _ _ hnumbered _ hstep => hnumbered.step hstep

/-- In the first round a link that has not got its number is down. -/
theorem Numbered.down_of_first (hnumbered : Numbered router) (hfirst : router.seq = 1)
    {link : LinkConnect} (hobject : router.object key = some link)
    (hround : link.seq < router.seq) : link.state = .down := by
  refine hnumbered.down key _ (fun round hstamp => ?_) (router.stateOf_of_object key hobject)
  rw [stampOf, hobject] at hstamp
  cases hstamp
  exact Nat.lt_one_iff.1 (hfirst ▸ hround)

/-- A router that keeps its links up stays in its round. -/
theorem seq_of_up (hstep : step router event = some next) (hbefore : router.wantUp = true)
    (hafter : next.wantUp = true) : next.seq = router.seq := by
  obtain hsame | ⟨base, rfl, hbase, -⟩ := sameRound_of_step hstep hbefore
  · exact hsame.2
  · simp [Router.stop, hbase] at hafter

/-! ## One start -/

def starts : Event → Bool
  | .start => true
  | _ => false

/-- `Router::start` is called only before the first round. -/
def StartsOnce (router : Router) (event : Event) : Prop :=
  starts event → router.seq = 0
  deriving Decidable

/-- A router that was started at most once. -/
structure Once (router : Router) : Prop extends Numbered router where
  first : router.wantUp = true → router.seq = 1

theorem once_boot (addr : Addr) : Once (boot addr) where
  toNumbered := numbered_boot addr
  first hup := by cases hup

theorem Once.step (honce : Once router) (hevent : StartsOnce router event)
    (hstep : Routing.step router event = some next) : Once next where
  toNumbered := honce.toNumbered.step hstep
  first hup := by
    by_cases hbefore : router.wantUp = true
    · exact (seq_of_up hstep hbefore hup).trans (honce.first hbefore)
    · obtain ⟨rfl, rfl⟩ := eq_start_of_raised hstep (by simpa using hbefore) hup
      rw [Router.start, if_neg hbefore]
      exact congrArg (· + 1) (hevent rfl)

/-- The router itself tells a link to go up at most once, and the link is down then. -/
theorem Once.goingUp (honce : Once router) (hstep : Routing.step router event = some next)
    (hrequest : router.request event = some (key, .set .goingUp)) :
    event = .retryTimer key ∧ router.stateOf key = some .waitRetry ∨
      Untold router key ∧ ¬ Untold next key := by
  obtain htimer | ⟨hup, htold, hfirst⟩ := honce.toNumbered.goingUp hstep hrequest
  · exact .inl htimer
  · exact .inr ⟨hfirst (honce.first hup), htold⟩

end Knxd.Rounds
