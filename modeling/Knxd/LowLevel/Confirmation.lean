import Knxd.LowLevel.EMIDriver

/-!
# Frames, answers and confirmations

`EMI_Common` hands a frame to the driver below and waits for two things: the answer of
that driver, a `send_Next`, and a confirmation from the device.  Without the confirmation
the frame is handed over again when the timer expires, until the retries are used up; then,
or with the confirmation, the upper layer gets its `send_Next`.

`Exchange` follows the frames through the driver's state machine: how many answers the
driver below still owes, and in which order frames were handed over and confirmed.
-/

namespace Knxd.LowLevel

open Memory LPDU EMI Driver List Transition Nat Option
open Transition (Path)

def Call.concernsFrame : Call → Bool
  | .sendNext | .ifaceSendData _ => true
  | _ => false

open Call (concernsFrame)

def Call.handsOver : Call → Option CArray
  | .ifaceSendData pdu => some pdu
  | _ => none

namespace Driver

/-- A `send_Next` from below is not the end of a local command or of a reset, and no closing
command waits for it: it gets to `EMI_Common::do_send_Next`. -/
def reachesCommon (t : Driver) : Bool :=
  !t.isLocal &&
    match t.kind with
    | .emi1 => t.sendLocalDoneNext != .nWantClose
    | .emi2 =>
      !t.resetWait && t.sendLocalDoneNext != .nWantClose && t.sendLocalDoneNext != .nWantLeave
    | .cemi => !t.resetWait

/-- `send_L_Data` takes the frame. -/
def accepts (t : Driver) : Event → Bool
  | .sendLData _ => t.state == .idle
  | _ => false

def answers (t : Driver) : Event → Bool
  | .sendNext => t.reachesCommon
  | _ => false

def confirms (t : Driver) : Event → Bool
  | .recvData c => c.head? == some (getIndTypes t.kind).1 && t.state != .idle
  | _ => false

def callsUntil (t next : Driver) : List Call :=
  next.log.take (next.log.length - t.log.length)

end Driver

/-- Frames are numbered in the order in which they are accepted. -/
inductive Note
  | handed (frame : ℕ) (pdu : CArray)
  | confirmed (frame : ℕ)
  deriving DecidableEq, Repr

/-- The bytes that were handed over for a frame, newest first. -/
def handovers (frame : ℕ) : List Note → List CArray
  | [] => []
  | .handed other pdu :: history =>
    if other = frame then pdu :: handovers frame history else handovers frame history
  | .confirmed _ :: history => handovers frame history

structure Exchange where
  driver : Driver
  owed : ℕ := 0
  accepted : ℕ := 0
  history : List Note := []
  deriving DecidableEq, Repr

namespace Exchange

def follow (x : Exchange) (event : Event) (next : Driver) : Exchange :=
  let handed := (x.driver.callsUntil next).filterMap Call.handsOver
  let accepted :=
    if x.driver.accepts event ∧ next.fault = none then x.accepted + 1 else x.accepted
  { driver := next
    accepted
    owed := x.owed + handed.length - (if x.driver.answers event then 1 else 0)
    history :=
      handed.map (.handed accepted) ++
        (if x.driver.confirms event then [.confirmed x.accepted] else []) ++ x.history }

def step (x : Exchange) (event : Event) : Option Exchange :=
  (LowLevel.step x.driver event).map (x.follow event)

def begin (t : Driver) : Exchange :=
  { driver := { t with log := [], fault := none }.start }

end Exchange

open Exchange

/-! ## What a step does to the frames -/

structure Quietly (t next : Driver) : Prop where
  state : next.state = t.state
  retries : next.retries = t.retries
  maxRetries : next.maxRetries = t.maxRetries
  out : next.out = t.out
  log : ∃ calls, next.log = calls ++ t.log ∧ ∀ c ∈ calls, c.concernsFrame = false

section Quiet

variable {t middle next : Driver}

theorem Quietly.refl (t : Driver) : Quietly t t :=
  ⟨rfl, rfl, rfl, rfl, [], rfl, by simp⟩

theorem Quietly.trans (hfirst : Quietly t middle) (hsecond : Quietly middle next) :
    Quietly t next := by
  obtain ⟨first, hlog, hquiet⟩ := hfirst.log
  obtain ⟨second, hlog', hquiet'⟩ := hsecond.log
  refine ⟨hsecond.state.trans hfirst.state, hsecond.retries.trans hfirst.retries,
    hsecond.maxRetries.trans hfirst.maxRetries, hsecond.out.trans hfirst.out, second ++ first, ?_,
    ?_⟩
  · rw [hlog', hlog, append_assoc]
  · intro c hc
    obtain hc | hc := mem_append.1 hc
    · exact hquiet' c hc
    · exact hquiet c hc

/-- Other fields may have changed before. -/
theorem Quietly.after (hnext : Quietly middle next) (hstate : middle.state = t.state)
    (hretries : middle.retries = t.retries) (hmaxRetries : middle.maxRetries = t.maxRetries)
    (hout : middle.out = t.out) (hlog : middle.log = t.log) : Quietly t next :=
  Quietly.trans ⟨hstate, hretries, hmaxRetries, hout, [], hlog, by simp⟩ hnext

theorem quietly_call {c : Call} (hc : c.concernsFrame = false) : Quietly t (t.call c) :=
  ⟨rfl, rfl, rfl, rfl, [c], rfl, by simpa using hc⟩

theorem quietly_stopped : Quietly t t.stopped :=
  ⟨rfl, rfl, rfl, rfl, [.stopped], rfl, by simp [concernsFrame]⟩

theorem quietly_errored_stopped : Quietly t (t.call .errored).stopped :=
  (quietly_call rfl).trans quietly_stopped

theorem quietly_ifaceStop : Quietly t t.ifaceStop :=
  ⟨rfl, rfl, rfl, rfl, [.ifaceStop], rfl, by simp [concernsFrame]⟩

theorem quietly_command (after : DoneNext) (d : CArray) : Quietly t (t.command after d) := by
  unfold command sendLocal
  split
  · exact ⟨rfl, rfl, rfl, rfl, [], rfl, by simp⟩
  · exact ⟨rfl, rfl, rfl, rfl, [.ifaceSendLocal d], rfl, by simp [concernsFrame]⟩

theorem quietly_postpone (after : DoneNext) : Quietly t { t with sendLocalDoneNext := after } :=
  ⟨rfl, rfl, rfl, rfl, [], rfl, by simp⟩

theorem quietly_commonStarted : Quietly t t.commonStarted := by
  unfold commonStarted cmdEnterMonitor cmdOpen
  split <;> split
  · exact quietly_command _ _
  · exact quietly_command _ _
  · exact quietly_errored_stopped
  · exact quietly_command _ _
  · exact quietly_command _ _
  · exact quietly_call rfl

theorem quietly_cmdClose : Quietly t t.cmdClose := by
  unfold cmdClose
  split
  · split
    · exact quietly_postpone _
    · exact quietly_command _ _
  · split
    · exact quietly_postpone _
    · exact quietly_command _ _
  · exact quietly_stopped

theorem quietly_cmdLeaveMonitor : Quietly t t.cmdLeaveMonitor := by
  unfold cmdLeaveMonitor
  split
  · exact quietly_command _ _
  · split
    · exact quietly_postpone _
    · exact quietly_command _ _
  · exact quietly_errored_stopped

theorem quietly_sendLocalDoneCb (success : Bool) : Quietly t (t.sendLocalDoneCb success) := by
  unfold sendLocalDoneCb
  split
  · exact quietly_errored_stopped
  split
  · exact quietly_stopped
  · exact quietly_ifaceStop
  · exact quietly_call rfl
  · exact quietly_command _ _
  · exact quietly_command _ _
  · exact quietly_command _ _
  · exact quietly_commonStarted
  · exact .refl t

end Quiet

/-- The steps of the driver as the frames see them. -/
inductive Turn (t : Driver) : Event → Driver → Prop
  | quiet {event : Event} {next : Driver} :
      Quietly t next → (t.accepts event → next.fault ≠ none) →
      (t.answers event → t.state ≠ .wait) → (t.confirms event → t.state ≠ .waitConfirm) →
      Turn t event next
  | restart {next : Driver} : Quietly { t with state := .idle } next → Turn t .start next
  | oversize {l : LDataPDU} : t.state = .idle → Turn t (.sendLData l) (t.call .sendNext)
  | accept {l : LDataPDU} {pdu : CArray} :
      t.state = .idle → Turn t (.sendLData l) ({ t with out := pdu, retries := 0 }.sendData pdu)
  | answer : t.state = .wait → t.reachesCommon → Turn t .sendNext { t with state := .waitConfirm }
  | credit : t.state = .idle → t.reachesCommon → Turn t .sendNext (t.call .sendNext)
  | abandon :
      t.state = .wait →
      Turn t .timeout ({ t with timeout := false, state := .timedOut }.call .errored)
  | again :
      t.state = .waitConfirm → (t.retries + 1 : ℤ) ≤ t.maxRetries →
      Turn t .timeout ({ t with timeout := false, retries := t.retries + 1 }.sendData t.out)
  | discard :
      t.state = .waitConfirm → ¬ (t.retries + 1 : ℤ) ≤ t.maxRetries →
      Turn t .timeout
        ({ t with timeout := false, retries := t.retries + 1, state := .idle }.call .sendNext)
  | confirm {c : CArray} :
      t.state = .waitConfirm → c.head? = some (Driver.getIndTypes t.kind).1 →
      Turn t (.recvData c) ({ t with state := .idle, timeout := false }.call .sendNext)

section Inversion

variable {t next : Driver}

/-- An event that is neither a frame, nor an answer, nor a confirmation. -/
theorem Turn.of_quietly {event : Event} (hquiet : Quietly t next)
    (haccepts : t.accepts event = false) (hanswers : t.answers event = false)
    (hconfirms : t.confirms event = false) : Turn t event next := by
  refine .quiet hquiet ?_ ?_ ?_
  · simp [haccepts]
  · simp [hanswers]
  · simp [hconfirms]

theorem turn_sendLData (l : LDataPDU) : Turn t (.sendLData l) (t.sendLData l) := by
  unfold sendLData
  split
  · next hbusy =>
    refine .quiet (.refl t) ?_ (by simp [answers]) (by simp [confirms])
    intro haccepts
    exact absurd (by simpa [accepts] using haccepts) hbusy
  next hidle =>
  have hidle := not_not.1 hidle
  split
  · exact .quiet ⟨rfl, rfl, rfl, rfl, [], rfl, by simp⟩ (by simp) (by simp [answers])
      (by simp [confirms])
  split
  · exact .oversize hidle
  split
  · exact .quiet ⟨rfl, rfl, rfl, rfl, [], rfl, by simp⟩ (by simp) (by simp [answers])
      (by simp [confirms])
  · exact .accept hidle

theorem sendNext_of_reachesCommon (hcommon : t.reachesCommon) : t.sendNext = t.commonSendNext := by
  unfold reachesCommon at hcommon
  unfold sendNext doSendNext
  cases hkind : t.kind <;> simp_all

theorem quietly_sendNext (hcommon : t.reachesCommon = false) : Quietly t t.sendNext := by
  unfold sendNext
  split
  · exact (quietly_sendLocalDoneCb true).after rfl rfl rfl rfl rfl
  next hlocal =>
  have hclose : Quietly t { t with waitConfirmLow := false }.cmdClose :=
    quietly_cmdClose.after rfl rfl rfl rfl rfl
  have hreset : Quietly t { t with resetWait := false, resetTimer := false }.commonStarted :=
    quietly_commonStarted.after rfl rfl rfl rfl rfl
  unfold doSendNext
  split
  · next hkind =>
    split
    · exact hclose
    · simp_all [reachesCommon]
  · next hkind =>
    split
    · exact hreset
    split
    · exact hclose
    split
    · exact quietly_cmdLeaveMonitor.after rfl rfl rfl rfl rfl
    · simp_all [reachesCommon]
  · next hkind =>
    split
    · exact hreset
    · simp_all [reachesCommon]

theorem turn_sendNext : Turn t .sendNext t.sendNext := by
  cases hcommon : t.reachesCommon with
  | false => exact .of_quietly (quietly_sendNext hcommon) rfl hcommon rfl
  | true =>
    rw [sendNext_of_reachesCommon hcommon, commonSendNext]
    split
    · next hwait => exact .answer hwait hcommon
    · next hidle => exact .credit hidle hcommon
    · next hwait hidle =>
      exact .quiet (.refl t) (by simp [accepts]) (fun _ => hwait)
        (by simp [confirms])

theorem turn_recvData (c : CArray) : Turn t (.recvData c) (t.recvData c) := by
  have hquiet {next : Driver} (hnext : Quietly t next)
      (hother : c.head? ≠ some (getIndTypes t.kind).1) : Turn t (.recvData c) next := by
    refine .of_quietly hnext rfl rfl ?_
    simp [confirms, hother]
  unfold recvData
  dsimp only
  split
  · next hreset =>
    refine hquiet (quietly_call rfl) ?_
    rw [hreset]
    cases t.kind <;> decide
  split
  · next hconfirm =>
    split
    · next hwaiting => exact .confirm hwaiting hconfirm
    · next hwaiting =>
      exact .quiet (.refl t) (by simp [accepts]) (by simp [answers]) (fun _ => hwaiting)
  next hother =>
  split
  · split
    · exact hquiet ⟨rfl, rfl, rfl, rfl, [], rfl, by simp⟩ hother
    · exact hquiet (.refl t) hother
    · exact hquiet (quietly_call rfl) hother
  split
  · exact hquiet (quietly_call rfl) hother
  · exact hquiet (.refl t) hother

theorem turn_timeoutCb : Turn t .timeout { t with timeout := false }.timeoutCb := by
  have hquiet : Turn t .timeout { t with timeout := false } :=
    .of_quietly ⟨rfl, rfl, rfl, rfl, [], rfl, by simp⟩ rfl rfl rfl
  unfold timeoutCb
  split
  · exact hquiet
  split
  · next hwait => exact .abandon hwait
  split
  · exact .of_quietly ⟨rfl, rfl, rfl, rfl, [], rfl, by simp⟩ rfl rfl rfl
  next hwaiting =>
  have hwaiting := not_not.1 hwaiting
  split
  · next hleft => exact .again hwaiting hleft
  · next hleft => exact .discard hwaiting hleft

/-- Inversion of `step`. -/
theorem turn_of_step {event : Event} (hstep : step t event = some next) : Turn t event next := by
  rw [step.eq_def] at hstep
  obtain ⟨-, hstep⟩ := ite_none_left_eq_some.1 hstep
  cases event with
  | start =>
    cases hstep
    exact .restart ⟨rfl, rfl, rfl, rfl, [.ifaceStart], rfl, by simp [concernsFrame]⟩
  | stop =>
    cases hstep
    refine .of_quietly ?_ rfl rfl rfl
    unfold stop
    split
    · exact quietly_cmdLeaveMonitor
    · exact quietly_cmdClose
  | sendLData l =>
    cases hstep
    exact turn_sendLData l
  | started =>
    cases hstep
    refine .of_quietly ?_ rfl rfl rfl
    unfold started
    split
    · exact quietly_commonStarted.after rfl rfl rfl rfl rfl
    · exact ⟨rfl, rfl, rfl, rfl, [.ifaceSendReset], rfl, by simp [concernsFrame]⟩
    · exact ⟨rfl, rfl, rfl, rfl, [.ifaceSendReset], rfl, by simp [concernsFrame]⟩
  | stopped =>
    cases hstep
    exact .of_quietly ⟨rfl, rfl, rfl, rfl, [.stopped], rfl, by simp [concernsFrame]⟩ rfl rfl rfl
  | errored =>
    cases hstep
    exact .of_quietly (quietly_call rfl) rfl rfl rfl
  | sendNext =>
    cases hstep
    exact turn_sendNext
  | recvData c =>
    cases hstep
    exact turn_recvData c
  | localTimeout =>
    obtain ⟨-, rfl⟩ := ite_some_none_eq_some.1 hstep
    exact .of_quietly ((quietly_sendLocalDoneCb false).after rfl rfl rfl rfl rfl) rfl rfl rfl
  | resetTimer =>
    obtain ⟨-, rfl⟩ := ite_some_none_eq_some.1 hstep
    refine .of_quietly ?_ rfl rfl rfl
    unfold resetTimerCb
    split
    · exact ⟨rfl, rfl, rfl, rfl, [.errored], rfl, by simp [concernsFrame]⟩
    · exact ⟨rfl, rfl, rfl, rfl, [], rfl, by simp⟩
    · exact ⟨rfl, rfl, rfl, rfl, [], rfl, by simp⟩
  | timeout =>
    obtain ⟨-, rfl⟩ := ite_some_none_eq_some.1 hstep
    exact turn_timeoutCb

theorem fault_eq_none_of_step {event : Event} (hstep : step t event = some next) :
    t.fault = none := by
  rw [step.eq_def] at hstep
  exact not_isSome_iff_eq_none.1 (ite_none_left_eq_some.1 hstep).1

end Inversion

/-! ## The books -/

section Books

variable {x : Exchange} {next : Driver} {calls : List Call}

theorem callsUntil_eq {t : Driver} (hlog : next.log = calls ++ t.log) :
    t.callsUntil next = calls := by
  rw [callsUntil, hlog, length_append, Nat.add_sub_cancel, take_left]

theorem filterMap_handsOver_eq_nil (hquiet : ∀ c ∈ calls, c.concernsFrame = false) :
    calls.filterMap Call.handsOver = [] := by
  rw [filterMap_eq_nil_iff]
  intro c hc
  have hother := hquiet c hc
  cases c <;> simp_all [concernsFrame, Call.handsOver]

theorem count_sendNext_eq_zero (hquiet : ∀ c ∈ calls, c.concernsFrame = false) :
    calls.count .sendNext = 0 := by
  rw [count_eq_zero]
  intro hmem
  cases hquiet _ hmem

/-- The books in terms of the calls of a step. -/
theorem follow_eq (calls : List Call) {event : Event} {accepted : ℕ}
    (hlog : next.log = calls ++ x.driver.log)
    (haccepted : (if x.driver.accepts event ∧ next.fault = none then x.accepted + 1
      else x.accepted) = accepted) :
    x.follow event next =
      { driver := next
        accepted
        owed := x.owed + (calls.filterMap Call.handsOver).length -
          (if x.driver.answers event then 1 else 0)
        history :=
          (calls.filterMap Call.handsOver).map (.handed accepted) ++
            (if x.driver.confirms event then [.confirmed x.accepted] else []) ++ x.history } := by
  rw [← haccepted, follow, callsUntil_eq hlog]

end Books

/-- The steps of the driver with the books. -/
inductive Deals (x : Exchange) : Event → Exchange → Prop
  | quiet {event : Event} {next : Driver} :
      Quietly x.driver next → (x.driver.answers event → x.driver.state ≠ .wait) →
      (x.driver.confirms event → x.driver.state ≠ .waitConfirm) →
      Deals x event
        { driver := next
          accepted := x.accepted
          owed := x.owed - (if x.driver.answers event then 1 else 0)
          history :=
            (if x.driver.confirms event then [.confirmed x.accepted] else []) ++ x.history }
  | restart {next : Driver} :
      Quietly { x.driver with state := .idle } next → Deals x .start { x with driver := next }
  | oversize {l : LDataPDU} :
      x.driver.state = .idle →
      Deals x (.sendLData l)
        { x with driver := x.driver.call .sendNext, accepted := x.accepted + 1 }
  | accept {l : LDataPDU} {pdu : CArray} :
      x.driver.state = .idle →
      Deals x (.sendLData l)
        { driver := { x.driver with out := pdu, retries := 0 }.sendData pdu
          accepted := x.accepted + 1
          owed := x.owed + 1
          history := .handed (x.accepted + 1) pdu :: x.history }
  | answer :
      x.driver.state = .wait →
      Deals x .sendNext
        { x with driver := { x.driver with state := .waitConfirm }, owed := x.owed - 1 }
  | credit :
      x.driver.state = .idle → x.driver.reachesCommon →
      Deals x .sendNext { x with driver := x.driver.call .sendNext, owed := x.owed - 1 }
  | abandon :
      x.driver.state = .wait →
      Deals x .timeout
        { x with
          driver := { x.driver with timeout := false, state := .timedOut }.call .errored }
  | again :
      x.driver.state = .waitConfirm → (x.driver.retries + 1 : ℤ) ≤ x.driver.maxRetries →
      Deals x .timeout
        { driver :=
            { x.driver with timeout := false, retries := x.driver.retries + 1 }.sendData
              x.driver.out
          accepted := x.accepted
          owed := x.owed + 1
          history := .handed x.accepted x.driver.out :: x.history }
  | discard {retries : ℕ} :
      x.driver.state = .waitConfirm →
      Deals x .timeout
        { x with
          driver := { x.driver with timeout := false, retries, state := .idle }.call .sendNext }
  | confirm {c : CArray} :
      x.driver.state = .waitConfirm →
      Deals x (.recvData c)
        { x with
          driver := { x.driver with state := .idle, timeout := false }.call .sendNext
          history := .confirmed x.accepted :: x.history }

variable {x y : Exchange} {event : Event}

theorem Deals.of_eq {x y z : Exchange} (hbooks : y = z) (hdeals : Deals x event z) :
    Deals x event y := by
  rwa [hbooks]

theorem deals_of_step (hstep : x.step event = some y) : Deals x event y := by
  obtain ⟨next, hdriver, rfl⟩ := map_eq_some_iff.1 hstep
  have hfault := fault_eq_none_of_step hdriver
  cases turn_of_step hdriver with
  | quiet hquiet haccepts hanswers hconfirms =>
    obtain ⟨calls, hlog, hcalls⟩ := hquiet.log
    have hrejected : ¬ (x.driver.accepts event ∧ next.fault = none) :=
      fun haccepted => haccepts haccepted.1 haccepted.2
    refine .of_eq (follow_eq calls hlog (if_neg hrejected)) ?_
    rw [filterMap_handsOver_eq_nil hcalls]
    exact .quiet hquiet hanswers hconfirms
  | restart hquiet =>
    obtain ⟨calls, hlog, hcalls⟩ := hquiet.log
    refine .of_eq (follow_eq calls hlog (if_neg (by simp [accepts]))) ?_
    rw [filterMap_handsOver_eq_nil hcalls]
    exact .restart hquiet
  | @oversize l hidle =>
    have haccepts : x.driver.accepts (.sendLData l) := by simp [accepts, hidle]
    exact .of_eq (follow_eq [.sendNext] rfl (if_pos ⟨haccepts, hfault⟩)) (.oversize hidle)
  | @accept l _ hidle =>
    have haccepts : x.driver.accepts (.sendLData l) := by simp [accepts, hidle]
    exact .of_eq (follow_eq [.ifaceSendData _] rfl (if_pos ⟨haccepts, hfault⟩)) (.accept hidle)
  | answer hwait hcommon =>
    refine .of_eq (follow_eq [] rfl (if_neg (by simp [accepts]))) ?_
    rw [show x.driver.answers .sendNext = true from hcommon]
    exact .answer hwait
  | credit hidle hcommon =>
    refine .of_eq (follow_eq [.sendNext] rfl (if_neg (by simp [accepts]))) ?_
    rw [show x.driver.answers .sendNext = true from hcommon]
    exact .credit hidle hcommon
  | abandon hwait =>
    exact .of_eq (follow_eq [.errored] rfl (if_neg (by simp [accepts]))) (.abandon hwait)
  | again hwaiting hleft =>
    exact .of_eq (follow_eq [.ifaceSendData _] rfl (if_neg (by simp [accepts])))
      (.again hwaiting hleft)
  | discard hwaiting =>
    exact .of_eq (follow_eq [.sendNext] rfl (if_neg (by simp [accepts]))) (.discard hwaiting)
  | @confirm c hwaiting hcode =>
    have hconfirms : x.driver.confirms (.recvData c) = true := by
      simp [confirms, hcode, hwaiting]
    refine .of_eq (follow_eq [.sendNext] rfl (if_neg (by simp [accepts]))) ?_
    rw [hconfirms]
    exact .confirm hwaiting

/-! ## Credits and repetitions -/

/-- Between `start` and `stop`, the driver below answers what it was given, once each. -/
def AnswersOnce (x : Exchange) (event : Event) : Prop :=
  event ≠ .start ∧ event ≠ .stop ∧ (x.driver.answers event → 0 < x.owed)
  deriving Decidable

/-- The upper layer has got a credit for every frame but the one that is on its way. -/
structure Balanced (x : Exchange) : Prop where
  credits : x.driver.log.count .sendNext + (if x.driver.state = .idle then 0 else 1) = x.accepted
  owed_idle : x.driver.state = .idle → x.owed = 0
  owed_waitConfirm : x.driver.state = .waitConfirm → x.owed = 0
  owed_le : x.owed ≤ 1

theorem Balanced.step (hx : Balanced x) (hallowed : AnswersOnce x event)
    (hstep : x.step event = some y) : Balanced y := by
  obtain ⟨hstart, -, hanswered⟩ := hallowed
  have hcredits := hx.credits
  cases deals_of_step hstep with
  | quiet hquiet =>
    obtain ⟨_, hlog, hcalls⟩ := hquiet.log
    refine ⟨?_, fun hidle => ?_, fun hwaiting => ?_, ?_⟩
    · simpa [hlog, count_append, count_sendNext_eq_zero hcalls, hquiet.state] using hcredits
    · have howed := hx.owed_idle (hquiet.state ▸ hidle)
      simp [howed]
    · have howed := hx.owed_waitConfirm (hquiet.state ▸ hwaiting)
      simp [howed]
    · exact (sub_le _ _).trans hx.owed_le
  | restart => exact absurd rfl hstart
  | oversize hidle =>
    have howed := hx.owed_idle hidle
    rw [if_pos hidle] at hcredits
    refine ⟨?_, fun _ => howed, fun _ => howed, hx.owed_le⟩
    simpa [call, hidle] using hcredits
  | accept hidle =>
    have howed := hx.owed_idle hidle
    rw [if_pos hidle] at hcredits
    refine ⟨?_, ?_, ?_, by simp [howed]⟩
    · simpa [sendData, call] using hcredits
    · simp [sendData, call]
    · simp [sendData, call]
  | answer hwait =>
    have howed := hx.owed_le
    rw [if_neg (by simp [hwait])] at hcredits
    exact ⟨hcredits, by simp, fun _ => by simp; omega, by simp; omega⟩
  | credit hidle hcommon =>
    have howed := hx.owed_idle hidle
    have hpos := hanswered hcommon
    omega
  | abandon hwait =>
    rw [if_neg (by simp [hwait])] at hcredits
    refine ⟨?_, by simp [call], by simp [call], hx.owed_le⟩
    simpa [call] using hcredits
  | again hwaiting =>
    have howed := hx.owed_waitConfirm hwaiting
    rw [if_neg (by simp [hwaiting])] at hcredits
    refine ⟨?_, ?_, ?_, by simp [howed]⟩
    · simpa [sendData, call] using hcredits
    · simp [sendData, call]
    · simp [sendData, call]
  | discard hwaiting | confirm hwaiting =>
    have howed := hx.owed_waitConfirm hwaiting
    rw [if_neg (by simp [hwaiting])] at hcredits
    refine ⟨?_, fun _ => howed, fun _ => howed, hx.owed_le⟩
    simpa [call] using hcredits

structure Bounded (maxRetries : ℤ) (x : Exchange) : Prop where
  maxRetries_eq : x.driver.maxRetries = maxRetries
  current : x.driver.state ≠ .idle →
    handovers x.accepted x.history = replicate (x.driver.retries + 1) x.driver.out ∧
      (x.driver.retries : ℤ) ≤ maxRetries
  all : ∀ frame, ∃ pdu count, handovers frame x.history = replicate count pdu ∧
    (count : ℤ) ≤ maxRetries + 1
  future : ∀ frame, x.accepted < frame → handovers frame x.history = []

theorem Bounded.step {maxRetries : ℤ} (hmax : 0 ≤ maxRetries) (hx : Bounded maxRetries x)
    (hstart : event ≠ .start) (hstep : x.step event = some y) : Bounded maxRetries y := by
  have hrunning := hx.maxRetries_eq
  cases deals_of_step hstep with
  | quiet hquiet =>
    have hsame (frame : ℕ) : handovers frame
        ((if x.driver.confirms event then [Note.confirmed x.accepted] else []) ++ x.history) =
          handovers frame x.history := by
      split <;> rfl
    refine ⟨hquiet.maxRetries.trans hrunning, fun hbusy => ?_, fun frame => ?_,
      fun frame hframe => ?_⟩
    · rw [hsame]
      simpa [hquiet.retries, hquiet.out] using hx.current (hquiet.state ▸ hbusy)
    · rw [hsame]
      exact hx.all frame
    · rw [hsame]
      exact hx.future frame hframe
  | restart => exact absurd rfl hstart
  | oversize hidle =>
    exact ⟨hrunning, fun hbusy => absurd hidle hbusy, hx.all,
      fun frame hframe => hx.future frame (lt_of_succ_lt hframe)⟩
  | @accept _ pdu =>
    have hnew := hx.future (x.accepted + 1) (lt_succ_self _)
    refine ⟨hrunning, fun _ => ?_, fun frame => ?_, fun frame hframe => ?_⟩
    · simpa [handovers, sendData, call, hnew] using hmax
    · by_cases hframe : x.accepted + 1 = frame
      · subst hframe
        exact ⟨pdu, 1, by simp [handovers, hnew], by simpa using hmax⟩
      · simpa [handovers, hframe] using hx.all frame
    · simpa [handovers, hframe.ne] using hx.future frame (lt_of_succ_lt hframe)
  | answer hwait | abandon hwait =>
    exact ⟨hrunning, fun _ => hx.current (by simp [hwait]), hx.all, hx.future⟩
  | credit hidle => exact ⟨hrunning, fun hbusy => absurd hidle hbusy, hx.all, hx.future⟩
  | again hwaiting hleft =>
    obtain ⟨hcurrent, -⟩ := hx.current (by simp [hwaiting])
    rw [hrunning] at hleft
    refine ⟨hrunning, fun _ => ?_, fun frame => ?_, fun frame hframe => ?_⟩
    · simpa [handovers, sendData, call, hcurrent, ← replicate_succ] using hleft
    · by_cases hframe : x.accepted = frame
      · subst hframe
        exact ⟨x.driver.out, x.driver.retries + 2,
          by simp [handovers, hcurrent, ← replicate_succ], by push_cast; omega⟩
      · simpa [handovers, hframe] using hx.all frame
    · simpa [handovers, hframe.ne] using hx.future frame hframe
  | discard | confirm =>
    exact ⟨hrunning, fun hbusy => absurd rfl hbusy, hx.all, hx.future⟩

/-- The driver that was just started has done nothing yet. -/
theorem balanced_begin (t : Driver) : Balanced (.begin t) :=
  ⟨rfl, fun _ => rfl, fun _ => rfl, zero_le 1⟩

theorem bounded_begin {t : Driver} (hmax : 0 ≤ t.maxRetries) : Bounded t.maxRetries (.begin t) :=
  ⟨rfl, fun hbusy => absurd rfl hbusy, fun _ => ⟨[], 0, rfl, by simp; omega⟩, fun _ _ => rfl⟩

/-- `timeout_cb` keeps within its assertion. -/
def TimeoutAsserts (t : Driver) : Prop :=
  t.timeoutCb.fault = t.fault

theorem timeoutAsserts (t : Driver) : TimeoutAsserts t := by
  unfold TimeoutAsserts timeoutCb
  cases hstate : t.state with
  | idle | timedOut | wait => simp [call]
  | waitConfirm =>
    rw [if_neg (by simp), if_neg (by simp), if_neg (by simp)]
    split <;> rfl

/-- In every run between `start` and `stop`, the upper layer gets one credit for each frame, a
frame is handed over at most once more than there are retries and with the same bytes each time, and
the assertion of `timeout_cb` holds. -/
theorem send_protocol {t : Driver} {x : Exchange}
    (hpath : Path Exchange.step AnswersOnce (.begin t) x) :
    x.driver.log.count .sendNext + (if x.driver.state = .idle then 0 else 1) = x.accepted ∧
      (0 ≤ t.maxRetries →
        ∀ frame, ∃ pdu count, handovers frame x.history = replicate count pdu ∧
          (count : ℤ) ≤ t.maxRetries + 1) ∧ TimeoutAsserts x.driver := by
  refine ⟨?_, fun hmax => ?_, timeoutAsserts x.driver⟩
  · exact (hpath.invariant Balanced (balanced_begin t)
      fun _ _ _ hx hallowed hstep => hx.step hallowed hstep).credits
  · exact (hpath.invariant (Bounded t.maxRetries) (bounded_begin hmax)
      fun _ _ _ hx hallowed hstep => hx.step hmax hallowed.1 hstep).all

/-- A group telegram with one byte. -/
def shortTelegram : LDataPDU :=
  { addrType := .groupAddress, dest := 0x0901, data := [0x00] }

def shortBytes : CArray :=
  [0x11, 0x0C, 0x00, 0x00, 0x09, 0x01, 0xE0, 0x00]

/-- A frame that is repeated once and then confirmed. -/
theorem send_protocol_repeated : ∃ x, Path Exchange.step AnswersOnce (.begin { kind := .emi1 }) x ∧
      x.history = [.confirmed 1, .handed 1 shortBytes, .handed 1 shortBytes] ∧
      x.driver.log.count .sendNext + (if x.driver.state = .idle then 0 else 1) = 1 :=
  exists_path_of (D := fun x => x.history = [.confirmed 1, .handed 1 shortBytes,
      .handed 1 shortBytes] ∧ x.accepted = 1)
    [.sendLData shortTelegram, .sendNext, .timeout, .sendNext, .recvData [0x4E]]
    (by decide +kernel) fun _ hpath hbooks =>
      ⟨hbooks.1, (send_protocol hpath).1.trans hbooks.2⟩

/-! ## After the confirmation -/

/-- No frame was handed over after its confirmation. -/
def NotRepeated (history : List Note) : Prop :=
  ∀ newer older frame, history = newer ++ .confirmed frame :: older → handovers frame newer = []

section Notes

variable {history : List Note} {frame : ℕ} {pdu : CArray}

theorem NotRepeated.confirmed (hhistory : NotRepeated history) :
    NotRepeated (.confirmed frame :: history) := by
  intro newer older other hsplit
  cases newer with
  | nil => rfl
  | cons _ newer =>
    obtain ⟨rfl, htail⟩ := cons.inj hsplit
    exact hhistory newer older other htail

theorem NotRepeated.handed (hhistory : NotRepeated history)
    (hopen : .confirmed frame ∉ history) : NotRepeated (.handed frame pdu :: history) := by
  intro newer older other hsplit
  cases newer with
  | nil => rfl
  | cons _ newer =>
    obtain ⟨rfl, htail⟩ := cons.inj hsplit
    have hother : frame ≠ other := by
      rintro rfl
      exact hopen (htail ▸ by simp)
    simpa [handovers, hother] using hhistory newer older other htail

end Notes

/-- A confirmation does not come before the answer of the driver below, unless the frame would
not be repeated anyway. -/
def NotEarly (x : Exchange) (event : Event) : Prop :=
  x.driver.confirms event → x.driver.state = .wait →
    ¬ (x.driver.retries : ℤ) < x.driver.maxRetries
  deriving Decidable

structure Settled (x : Exchange) : Prop where
  notRepeated : NotRepeated x.history
  future : ∀ frame, x.accepted < frame → .confirmed frame ∉ x.history
  unconfirmed : x.driver.state = .wait ∨ x.driver.state = .waitConfirm →
    (x.driver.retries : ℤ) < x.driver.maxRetries → .confirmed x.accepted ∉ x.history

theorem Settled.step (hx : Settled x) (hallowed : NotEarly x event) (hstep : x.step event = some y)
    : Settled y := by
  have hidle {state : EState} (hstate : state = .idle) :
      ¬ (state = .wait ∨ state = .waitConfirm) := by
    simp [hstate]
  cases deals_of_step hstep with
  | quiet hquiet _ hconfirms =>
    cases hconfirm : x.driver.confirms event with
    | false =>
      refine ⟨hx.notRepeated, hx.future, ?_⟩
      dsimp only
      rw [hquiet.state, hquiet.retries, hquiet.maxRetries]
      exact hx.unconfirmed
    | true =>
      refine ⟨hx.notRepeated.confirmed, fun frame hframe => ?_, fun hstate hleft => ?_⟩
      · simpa [ne_of_gt hframe] using hx.future frame hframe
      · dsimp only at hstate hleft
        rw [hquiet.state] at hstate
        rw [hquiet.retries, hquiet.maxRetries] at hleft
        obtain hwait | hwaiting := hstate
        · exact absurd hleft (hallowed hconfirm hwait)
        · exact absurd hwaiting (hconfirms hconfirm)
  | restart hquiet =>
    exact ⟨hx.notRepeated, hx.future, fun hstate => absurd hstate (hidle hquiet.state)⟩
  | oversize hstate =>
    exact ⟨hx.notRepeated, fun frame hframe => hx.future frame (lt_of_succ_lt hframe),
      fun hbusy => absurd hbusy (hidle hstate)⟩
  | accept =>
    have hnew := hx.future (x.accepted + 1) (lt_succ_self _)
    refine ⟨hx.notRepeated.handed hnew, fun frame hframe => ?_, fun _ _ => ?_⟩
    · simpa using hx.future frame (lt_of_succ_lt hframe)
    · simpa using hnew
  | answer hwait =>
    exact ⟨hx.notRepeated, hx.future, fun _ hleft => hx.unconfirmed (.inl hwait) hleft⟩
  | credit hstate =>
    exact ⟨hx.notRepeated, hx.future, fun hbusy => absurd hbusy (hidle hstate)⟩
  | abandon =>
    refine ⟨hx.notRepeated, hx.future, fun hbusy => ?_⟩
    simp [call] at hbusy
  | again hwaiting =>
    have hopen := hx.unconfirmed (.inr hwaiting) (by omega)
    refine ⟨hx.notRepeated.handed hopen, fun frame hframe => ?_, fun _ _ => ?_⟩
    · simpa using hx.future frame hframe
    · simpa using hopen
  | discard => exact ⟨hx.notRepeated, hx.future, fun hbusy => absurd hbusy (hidle rfl)⟩
  | confirm =>
    refine ⟨hx.notRepeated.confirmed, fun frame hframe => ?_, fun hbusy => absurd hbusy (hidle rfl)⟩
    simpa [ne_of_gt hframe] using hx.future frame hframe

/-- In every run in which no confirmation comes too early, a confirmed frame is not handed over
again. -/
theorem confirmed_not_repeated {t : Driver} {x : Exchange}
    (hpath : Path Exchange.step NotEarly (.begin t) x) : NotRepeated x.history := by
  have hbegin : Settled (.begin t) :=
    ⟨fun newer older frame hsplit => by simp [begin] at hsplit,
      fun _ _ => by simp [begin], fun _ _ => by simp [begin]⟩
  exact (hpath.invariant Settled hbegin
    fun _ _ _ hx hallowed hstep => hx.step hallowed hstep).notRepeated

theorem confirmed_not_repeated_once : ∃ x,
    Path Exchange.step NotEarly (.begin { kind := .emi1 }) x ∧
      x.history = [.confirmed 1, .handed 1 shortBytes, .handed 1 shortBytes] ∧
      NotRepeated x.history :=
  exists_path_of [.sendLData shortTelegram, .sendNext, .timeout, .sendNext, .recvData [0x4E]]
    (by decide +kernel) fun _ hpath hhistory => ⟨hhistory, confirmed_not_repeated hpath⟩

/-- A confirmation that overtakes the answer of the driver below is dropped, and the frame is
handed over again when the timer expires. -/
theorem early_confirmation_lost : ∃ x,
    Path Exchange.step Transition.anyEvent (.begin { kind := .emi1 }) x ∧
      x.history = [.handed 1 shortBytes, .confirmed 1, .handed 1 shortBytes] :=
  exists_path [.started, .sendNext, .sendNext, .sendLData shortTelegram, .recvData [0x4E],
    .sendNext, .timeout] (by decide +kernel)

end Knxd.LowLevel
