import Knxd.Routing.Request

/-!
# The contract between links and drivers

A driver answers every `start()` with one `started()` or `stopped()` and every
`stop()` with one `stopped()`, at any later time, and may report an error between
them.  This contract alone does not keep `LinkConnect::setState` away from the
transitions it rejects.  The router repeats `stop()` on a link in an error state
each time any link changes, so that one answer too many arrives in
`L_wait_retry`; and a driver that is stopped or fails while it starts may still
answer `started()`.  The module states what has to be added to the contract, and
proves that it then suffices.
-/

namespace Knxd.Lifecycle

open Memory LPDU Link Routing Transition LinkConnect
open Event (callback)

/-- The requests a driver has not answered yet, and whether it has been started
since it last stopped. -/
structure Owed where
  starts : ℕ
  stops : ℕ
  running : Bool
  deriving DecidableEq, Repr

def Owed.after (owed : Owed) : Call → Owed
  | .start => { owed with starts := owed.starts + 1, running := true }
  | .stop => { owed with stops := owed.stops + 1 }
  | .started => { owed with starts := owed.starts - 1 }
  | .stopped .start => { owed with starts := owed.starts - 1, running := false }
  | .stopped .stop => { owed with stops := owed.stops - 1, running := false }
  | .stopped .both => ⟨owed.starts - 1, owed.stops - 1, false⟩
  | .send _ | .errored => owed

def owed : List Call → Owed
  | [] => ⟨0, 0, false⟩
  | call :: older => (owed older).after call

def owedBy (router : Router) (key : ℕ) : Owed :=
  owed (lifecycle key router.log)

def Owed.Awaits (owed : Owed) : Answer → Prop
  | .start => 0 < owed.starts
  | .stop => 0 < owed.stops
  | .both => 0 < owed.starts ∧ 0 < owed.stops

instance (owed : Owed) (answer : Answer) : Decidable (owed.Awaits answer) := by
  unfold Owed.Awaits
  split <;> infer_instance

/-- The documented contract: every answer answers a request, and errors are
reported only by a driver that was started. -/
def ObeysContract (router : Router) : Event → Prop
  | .started key => 0 < (owedBy router key).starts
  | .stopped key answer => (owedBy router key).Awaits answer
  | .errored key => (owedBy router key).running = true
  | _ => True

instance (router : Router) (event : Event) : Decidable (ObeysContract router event) := by
  unfold ObeysContract
  split <;> infer_instance

/-- The driver answers in turn: `started()` only while the link is still going up,
and one `stopped()` for a start that was overtaken by a stop. -/
def AnswersInTurn (router : Router) : Event → Prop
  | .started key => router.stateOf key = some .goingUp
  | .stopped key answer =>
    0 < (owedBy router key).starts → 0 < (owedBy router key).stops → answer = .both
  | _ => True

instance (router : Router) (event : Event) : Decidable (AnswersInTurn router event) := by
  unfold AnswersInTurn
  split <;> infer_instance

/-- The router asks in turn: it does not stop a link in an error state whose driver
still owes an answer to `stop()`, and does not start a link that is going down or
in an error state. -/
def AsksInTurn (router : Router) : Option (ℕ × Request) → Prop
  | some (key, .stop) => (owedBy router key).stops = 0
  | some (key, .set .goingDown) =>
    router.stateOf key = some .upError → (owedBy router key).stops = 0
  | some (key, .set .goingUp) =>
    router.stateOf key ≠ some .goingDown ∧ router.stateOf key ≠ some .error ∧
      router.stateOf key ≠ some .upError ∧ router.stateOf key ≠ some .goingDownError
  | _ => True

instance (router : Router) (request : Option (ℕ × Request)) :
    Decidable (AsksInTurn router request) := by
  unfold AsksInTurn
  split <;> infer_instance

def InTurn (router : Router) (event : Event) : Prop :=
  ObeysContract router event ∧ AnswersInTurn router event ∧
    AsksInTurn router (router.request event)
  deriving Decidable

def Consistent (state : LConnState) (older : List Call) : Prop :=
  match state with
  | .down | .waitRetry => owed older = ⟨0, 0, false⟩
  | .goingUp => (owed older).starts = 1 ∧ (owed older).stops = 0
  | .up => (owed older).starts = 0 ∧ (owed older).stops = 0
  | .goingDown | .goingDownError => (owed older).starts ≤ 1 ∧ (owed older).stops = 1
  | .upError | .error => (owed older).starts ≤ 1 ∧ (owed older).stops ≤ 1

variable {state : LConnState} {router : Router} {event : Event}

theorem Consistent.starts_le {older : List Call} (hconsistent : Consistent state older) :
    (owed older).starts ≤ 1 := by
  cases state <;> simp_all [Consistent]

theorem Consistent.stops_le {older : List Call} (hconsistent : Consistent state older) :
    (owed older).stops ≤ 1 := by
  cases state <;> simp_all [Consistent]

def Accepts (link : LinkConnect) (newState : LConnState) (older : List Call) : Prop :=
  ∃ after effect, link.setState newState = .ok (after, effect) ∧
    Consistent after.state (calls effect ++ older)

section Accepts

variable {link : LinkConnect} {older : List Call}

/-- Whatever the retry rule decides, nothing may be unanswered. -/
theorem consistent_retry (hsettled : owed older = ⟨0, 0, false⟩) :
    Consistent link.retry.1.state (calls link.retry.2 ++ older) := by
  rw [calls_retry, List.nil_append]
  unfold retry
  split <;> simp [Consistent, hsettled]

theorem accepts_up (hconsistent : Consistent link.state older) (hstate : link.state = .goingUp) :
    Accepts link .up (.started :: older) := by
  rw [hstate] at hconsistent
  obtain ⟨hstarts, hstops⟩ := hconsistent
  refine ⟨_, _, by simp only [setState, hstate]; rfl, ?_⟩
  simp [Consistent, owed, Owed.after, hstarts, hstops]

/-- A `stopped()` in turn leaves nothing unanswered. -/
theorem owed_stopped {answer : Answer} (hstarts : (owed older).starts ≤ 1)
    (hstops : (owed older).stops ≤ 1) (hanswer : (owed older).Awaits answer)
    (hboth : 0 < (owed older).starts → 0 < (owed older).stops → answer = .both) :
    owed (.stopped answer :: older) = ⟨0, 0, false⟩ := by
  cases answer <;> simp_all [owed, Owed.after, Owed.Awaits]

theorem accepts_down {answer : Answer} (hconsistent : Consistent link.state older)
    (hanswer : (owed older).Awaits answer)
    (hboth : 0 < (owed older).starts → 0 < (owed older).stops → answer = .both) :
    Accepts link .down (.stopped answer :: older) := by
  have hsettled := owed_stopped hconsistent.starts_le hconsistent.stops_le hanswer hboth
  have hunanswered : 0 < (owed older).starts ∨ 0 < (owed older).stops := by
    cases answer <;> simp_all [Owed.Awaits]
  cases hstate : link.state with
  | down | waitRetry =>
    rw [hstate, Consistent] at hconsistent
    simp [hconsistent] at hunanswered
  | up =>
    rw [hstate] at hconsistent
    obtain ⟨_, _⟩ := hconsistent
    omega
  | goingDown =>
    refine ⟨_, _, by simp only [setState, hstate]; rfl, ?_⟩
    simpa [Consistent] using hsettled
  | goingUp | error | upError | goingDownError =>
    refine ⟨_, _, by simp only [setState, hstate]; rfl, ?_⟩
    exact consistent_retry hsettled

/-- An error report, or the send timeout in `L_up`. -/
theorem accepts_error {report : List Call} (hreport : owed (report ++ older) = owed older)
    (hconsistent : Consistent link.state older)
    (hrunning : (owed older).running = true ∨ link.state = .up) :
    Accepts link .error (report ++ older) := by
  cases hstate : link.state with
  | down | waitRetry =>
    rw [hstate, Consistent] at hconsistent
    simp [hconsistent, hstate] at hrunning
  | up | goingUp | goingDown | error | upError | goingDownError =>
    rw [hstate] at hconsistent
    obtain ⟨hstarts, hstops⟩ := hconsistent
    refine ⟨_, _, by simp only [setState, hstate]; rfl, ?_⟩
    simp [hstate, Consistent, hreport, hstarts, hstops]

theorem accepts_goingUp (hconsistent : Consistent link.state older)
    (hstate : link.state = .down ∨ link.state = .goingUp ∨ link.state = .up ∨
      link.state = .waitRetry) : Accepts link .goingUp older := by
  rcases hstate with hstate | hstate | hstate | hstate
  all_goals
    rw [hstate] at hconsistent
    refine ⟨_, _, by simp only [setState, hstate]; rfl, ?_⟩
  · simp_all [Consistent, owed, Owed.after]
  · simpa [hstate] using hconsistent
  · simpa using hconsistent
  · simp_all [Consistent, owed, Owed.after]

theorem accepts_goingDown (hconsistent : Consistent link.state older)
    (hunanswered : link.state = .upError → (owed older).stops = 0) :
    Accepts link .goingDown older := by
  cases hstate : link.state with
  | down | waitRetry | goingDown | error | goingDownError =>
    rw [hstate] at hconsistent
    refine ⟨_, _, by simp only [setState, hstate]; rfl, ?_⟩
    simpa [hstate, Consistent] using hconsistent
  | up | goingUp | upError =>
    rw [hstate] at hconsistent
    obtain ⟨_, _⟩ := hconsistent
    refine ⟨_, _, by simp only [setState, hstate]; rfl, ?_⟩
    simp_all [Consistent, owed, Owed.after]

end Accepts

private theorem eq_some_of_getD {found : Option LConnState} (hfound : found.getD .down = state)
    (hstate : state ≠ .down) : found = some state := by
  cases found <;> simp_all

/-- In turn, every requested transition is accepted. -/
theorem accepts_of_inTurn {key : ℕ} {newState : LConnState} {link : LinkConnect}
    (hturn : InTurn router event) (hrequest : router.request event = some (key, .set newState))
    (hlink : (router.stateOf key).getD .down = link.state)
    (hconsistent : Consistent link.state (lifecycle key router.log)) :
    Accepts link newState (event.callback key ++ lifecycle key router.log) := by
  obtain ⟨hcontract, hanswers, hasks⟩ := hturn
  rcases request_set_cases hrequest with ⟨rfl, rfl⟩ | ⟨rfl, answer, rfl⟩ |
    ⟨rfl, rfl | ⟨rfl, hup⟩⟩ | ⟨hnew, hcallback⟩
  · have hgoing : router.stateOf key = some .goingUp := hanswers
    rw [hgoing] at hlink
    simpa [callback] using accepts_up hconsistent hlink.symm
  · simpa [callback] using accepts_down hconsistent hcontract hanswers
  · exact accepts_error (by simp [callback, owed, Owed.after]) hconsistent (.inl hcontract)
  · rw [hup] at hlink
    exact accepts_error rfl hconsistent (.inr hlink.symm)
  · rw [hcallback, List.nil_append]
    rw [hrequest] at hasks
    rcases hnew with rfl | rfl
    · obtain ⟨_, _, _, _⟩ := hasks
      refine accepts_goingUp hconsistent ?_
      cases hstate : link.state with
      | down | goingUp | up | waitRetry => simp
      | goingDown | error | upError | goingDownError =>
        have hsome := eq_some_of_getD (hlink.trans hstate) (by decide)
        contradiction
    · refine accepts_goingDown hconsistent fun hstate => hasks ?_
      exact eq_some_of_getD (hlink.trans hstate) (by decide)

/-- One step in turn keeps what is unanswered consistent and is not rejected. -/
theorem inTurn_step {router next : Router} (hturn : InTurn router event)
    (hstep : step router event = some next) (hinv : PerLink Consistent router) :
    PerLink Consistent next ∧ next.fault ≠ some .abort := by
  constructor
  · refine hinv.step rfl hstep (fun key newState link hrequest hlink hkey => ?_)
      fun key state hrequest hstate hkey => ?_
    · obtain ⟨after, effect, htable, hafter⟩ := accepts_of_inTurn hturn hrequest hlink hkey
      rw [htable]
      exact hafter
    · have hstops : (owed (lifecycle key router.log)).stops = 0 := by
        have hasks := hturn.2.2
        rw [hrequest] at hasks
        exact hasks
      rcases stateOf_of_stop hrequest with herror | herror
      · obtain rfl : state = .upError := by simpa [hstate] using herror
        exact ⟨hkey.starts_le, by simp [owed, Owed.after, hstops]⟩
      · obtain rfl : state = .goingDownError := by simpa [hstate] using herror
        exact absurd hkey.2 (by simp [hstops])
  · intro habort
    obtain ⟨key, newState, link, hrequest, hlink, htable⟩ := request_of_abort hstep habort
    have hkey : Consistent link.state (lifecycle key router.log) := hlink ▸ hinv.getD rfl key
    obtain ⟨after, effect, haccepted, _⟩ := accepts_of_inTurn hturn hrequest hlink hkey
    simp [htable] at haccepted

/-- In every run in which answers and requests come in turn, no link is ever asked
for a transition it rejects. -/
theorem setState_never_invalid {addr : Addr} {router : Router}
    (hpath : Path step InTurn (boot addr) router) : router.fault ≠ some .abort := by
  have hinv : PerLink Consistent router ∧ router.fault ≠ some .abort :=
    hpath.invariant (fun router => PerLink Consistent router ∧ router.fault ≠ some .abort)
      ⟨PerLink.boot _ addr, nofun⟩ fun _ _ _ hinv hturn hstep =>
      inTurn_step hturn hstep hinv.1
  exact hinv.2

/-- Two links are set up and started, and neither has answered yet. -/
def startTwoLinks : List Event :=
  [.registerLink 0 { retryDelay := 5 } false, .registerLink 1 {} false, .start,
    .resume, .ret, .resume, .resume, .resume, .ret, .resume, .resume, .resume, .resume, .resume,
    .resume]

def stopFailedLink : List Event :=
  startTwoLinks ++ [.started 0, .errored 0, .stateTrigger, .resume, .resume, .resume, .resume,
    .resume, .resume, .ret, .resume, .resume, .resume, .resume, .resume]

/-- Before the first link has answered, the second one comes up, and the state
trigger stops the first one again. -/
def stopFailedLinkAgain : List Event :=
  stopFailedLink ++ [.started 1, .stateTrigger, .resume, .resume, .resume]

theorem setState_never_invalid_after_stop :
    ∃ router, runAllowed step InTurn (boot 0) (stopFailedLink ++ [.stopped 0 .stop]) = some router ∧
      router.fault ≠ some .abort :=
  exists_state (D := fun _ => True) (by decide +kernel) fun _ hrun _ =>
    setState_never_invalid (path_of_runAllowed hrun)

/-- A driver that obeys the contract makes the program abort: it answers both
calls of `stop()`, and the second answer meets `L_wait_retry`. -/
theorem setState_invalid_reached :
    ∃ router, Path step ObeysContract (boot 0) router ∧ router.fault = some .abort :=
  exists_path (stopFailedLinkAgain ++ [.stopped 0 .stop, .stopped 0 .stop]) (by decide +kernel)

/-- A `stop()` that no `stopped()` has followed. -/
def pendingStop : List Call → Bool
  | [] => false
  | .stop :: _ => true
  | .stopped _ :: _ => false
  | _ :: older => pendingStop older

/-- No `stop()` was called while another one was pending. -/
def SingleStops : List Call → Prop
  | [] => True
  | .stop :: older => pendingStop older = false ∧ SingleStops older
  | _ :: older => SingleStops older

instance : (older : List Call) → Decidable (SingleStops older)
  | [] => isTrue trivial
  | .stop :: older =>
    have := instDecidableSingleStops older
    inferInstanceAs (Decidable (_ ∧ _))
  | .start :: older | .send _ :: older | .started :: older | .stopped _ :: older |
    .errored :: older => instDecidableSingleStops older

/-- While a `stop()` is pending, the router neither stops a link in an error state
nor starts a link. -/
def StopsInTurn (router : Router) (event : Event) : Prop :=
  match router.request event with
  | some (key, .stop) => pendingStop (lifecycle key router.log) = false
  | some (key, .set .goingDown) =>
    router.stateOf key = some .upError → pendingStop (lifecycle key router.log) = false
  | some (key, .set .goingUp) =>
    router.stateOf key = some .down → pendingStop (lifecycle key router.log) = false
  | _ => True

instance (router : Router) (event : Event) : Decidable (StopsInTurn router event) := by
  unfold StopsInTurn
  split <;> infer_instance

/-- No stop is pending in the states from which a link is stopped or started
without looking at its driver. -/
def Unstopped (state : LConnState) (older : List Call) : Prop :=
  SingleStops older ∧
    (state = .up ∨ state = .goingUp ∨ state = .waitRetry → pendingStop older = false)

/-- What a requested transition has to leave behind, accepted or not. -/
def KeepsUnstopped (link : LinkConnect) (newState : LConnState) (older : List Call) : Prop :=
  match link.setState newState with
  | .ok (after, effect) => Unstopped after.state (calls effect ++ older)
  | .error _ => Unstopped link.state older

section Unstopped

variable {link : LinkConnect} {older : List Call}

/-- Answers and reports leave the record of stops as it is. -/
theorem unstopped_started (hkey : Unstopped link.state older) :
    KeepsUnstopped link .up (.started :: older) := by
  unfold KeepsUnstopped
  cases hstate : link.state <;> simp_all [setState, Unstopped, SingleStops, pendingStop]

theorem unstopped_errored {report : List Call} (hsingle : SingleStops (report ++ older))
    (hpending : pendingStop (report ++ older) = pendingStop older)
    (hkey : Unstopped link.state older) : KeepsUnstopped link .error (report ++ older) := by
  unfold KeepsUnstopped
  cases hstate : link.state <;> simp_all [setState, Unstopped]

/-- After `stopped()` nothing is pending, so that a further stop is in order. -/
theorem unstopped_stopped {answer : Answer} (hkey : Unstopped link.state older) :
    KeepsUnstopped link .down (.stopped answer :: older) := by
  have hsingle := hkey.1
  have hpending : pendingStop (.stopped answer :: older) = false := rfl
  unfold KeepsUnstopped
  cases hstate : link.state <;> simp [setState, hstate, Unstopped, hsingle, hpending, SingleStops]

theorem unstopped_goingUp (hkey : Unstopped link.state older)
    (hdown : link.state = .down → pendingStop older = false) :
    KeepsUnstopped link .goingUp older := by
  unfold KeepsUnstopped
  cases hstate : link.state <;> simp_all [setState, Unstopped, SingleStops, pendingStop]

theorem unstopped_goingDown (hkey : Unstopped link.state older)
    (herror : link.state = .upError → pendingStop older = false) :
    KeepsUnstopped link .goingDown older := by
  unfold KeepsUnstopped
  cases hstate : link.state <;> simp_all [setState, Unstopped, SingleStops]

end Unstopped

/-- One step keeps the record free of repeated stops. -/
theorem stopsInTurn_step {router next : Router} (hturn : StopsInTurn router event)
    (hstep : step router event = some next) (hinv : PerLink Unstopped router) :
    PerLink Unstopped next := by
  refine hinv.step ⟨trivial, fun _ => rfl⟩ hstep (fun key newState link hrequest hlink hkey => ?_)
    fun key state hrequest hstate hkey => ?_
  · change KeepsUnstopped link newState (event.callback key ++ lifecycle key router.log)
    rcases request_set_cases hrequest with ⟨rfl, rfl⟩ | ⟨rfl, answer, rfl⟩ |
      ⟨rfl, rfl | ⟨rfl, _⟩⟩ | ⟨hnew, hcallback⟩
    · simpa [callback] using unstopped_started hkey
    · simpa [callback] using unstopped_stopped hkey
    · exact unstopped_errored (by simpa [callback, SingleStops] using hkey.1)
        (by simp [callback, pendingStop]) hkey
    · exact unstopped_errored hkey.1 rfl hkey
    · rw [hcallback, List.nil_append]
      unfold StopsInTurn at hturn
      rw [hrequest] at hturn
      rcases hnew with rfl | rfl
      · refine unstopped_goingUp hkey fun hdown => ?_
        cases hstate : router.stateOf key with
        | none => rw [hinv.of_none hstate, pendingStop]
        | some state =>
          obtain rfl : state = .down := by simpa [hstate, hdown] using hlink
          exact hturn hstate
      · refine unstopped_goingDown hkey fun herror => hturn ?_
        exact eq_some_of_getD (hlink.trans herror) (by decide)
  · unfold StopsInTurn at hturn
    rw [hrequest] at hturn
    refine ⟨⟨hturn, hkey.1⟩, ?_⟩
    rcases stateOf_of_stop hrequest with herror | herror <;>
      · rw [hstate] at herror
        simp [Option.some.inj herror]

/-- In every run in which the router stops in turn, no driver is told to stop while
it still owes an answer to an earlier `stop()`. -/
theorem stop_never_repeated {addr : Addr} {router : Router}
    (hpath : Path step StopsInTurn (boot addr) router) (key : ℕ) :
    SingleStops (lifecycle key router.log) := by
  have hinv : PerLink Unstopped router :=
    hpath.invariant _ (PerLink.boot _ addr) fun _ _ _ hinv hturn hstep =>
      stopsInTurn_step hturn hstep hinv
  exact (hinv.getD ⟨trivial, fun _ => rfl⟩ key).1

theorem stop_never_repeated_after_failure :
    ∃ router, runAllowed step StopsInTurn (boot 0) stopFailedLink = some router ∧
      SingleStops (lifecycle 0 router.log) :=
  exists_state (D := fun _ => True) (by decide +kernel) fun _ hrun _ =>
    stop_never_repeated (path_of_runAllowed hrun) 0

/-- The state trigger stops a failed link again when another link comes up, although
every driver obeys the contract. -/
theorem stop_repeated_reached :
    ∃ router, Path step ObeysContract (boot 0) router ∧ ¬ SingleStops (lifecycle 0 router.log) :=
  exists_path stopFailedLinkAgain (by decide +kernel)

end Knxd.Lifecycle
