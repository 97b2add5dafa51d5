import Knxd.LowLevel.TPUART

/-!
# Frames taken while the chip is offline

The driver takes a frame in any state.  While the chip is offline, or is being reset, it keeps the
frame in `out`, to be sent when the chip is online.  But when the chip comes online `setstate`
calls `send_again` with the old state still stored, so that nothing is sent, and then `out` is
cleared and the next frame is asked for.
-/

namespace Knxd.TPUART

open Memory LPDU List TPUARTwrap
open Transition (Path anyEvent exists_path_of)

/-- The frames that were taken while the chip was not online, and since then were not passed to the
chip, with no error or stop reported. -/
def owed : List Call → List CArray
  | [] => []
  | .accepted frame state :: older => if state ≤ .isOnline then frame :: owed older else owed older
  | .sendData bytes :: older => (owed older).filter fun frame => bytes ≠ services frame
  | .errored :: _ | .stopped :: _ => []
  | .ifaceStop :: older | .sendNext :: older | .started :: older | .recvLData _ :: older
  | .recvLBusmonitor _ :: older => owed older

/-- A frame that is owed is still there, and the chip is not online yet. -/
def Kept (t : TPUARTwrap) : Prop :=
  ∀ frame ∈ owed t.log, t.out = frame ∧ t.state ≤ .isOnline

/-- The step takes the state indication with which the chip comes online. -/
def ComesOnline (t : TPUARTwrap) : Event → Prop
  | .byte _ => t.state = .inGetstate ∧ t.inBuf = [] ∧ t.skipChar = false ∧
      t.reading.head?.map classify = some .stateIndication
  | _ => False

instance (t : TPUARTwrap) (event : Event) : Decidable (ComesOnline t event) := by
  unfold ComesOnline
  cases event <;> infer_instance

def Undisturbed (t : TPUARTwrap) (event : Event) : Prop :=
  ComesOnline t event → owed t.log = []
  deriving Decidable

/-! ## What the functions leave alone -/

section Quiet

/-- The chip does not come online, what was taken stays as long as it is offline, and nothing else
is taken. -/
structure Quiet (t next : TPUARTwrap) : Prop where
  log : ∃ calls, next.log = calls ++ t.log ∧ ∀ frame state, .accepted frame state ∉ calls
  offline : t.state < .isOnline → next.state < .isOnline ∧ next.out = t.out
  stored : t.state ≠ .isOnline → next.state ≠ .isOnline

variable {cfg : Config} {t next middle : TPUARTwrap}
variable {answers : Answers} {ext : ℕ}

theorem Quiet.refl (t : TPUARTwrap) : Quiet t t :=
  ⟨⟨[], rfl, by simp⟩, fun hoffline => ⟨hoffline, rfl⟩, id⟩

theorem Quiet.trans (hfirst : Quiet t middle) (hsecond : Quiet middle next) : Quiet t next := by
  obtain ⟨⟨first, hfirstLog, hfirstCalls⟩, hfirstOffline, hfirstStored⟩ := hfirst
  obtain ⟨⟨second, hsecondLog, hsecondCalls⟩, hsecondOffline, hsecondStored⟩ := hsecond
  refine ⟨⟨second ++ first, by rw [hsecondLog, hfirstLog, append_assoc], ?_⟩, ?_,
    hsecondStored ∘ hfirstStored⟩
  · intro frame state
    simp [hfirstCalls, hsecondCalls]
  · intro hoffline
    obtain ⟨hmiddle, hout⟩ := hfirstOffline hoffline
    obtain ⟨hnext, hout'⟩ := hsecondOffline hmiddle
    exact ⟨hnext, hout'.trans hout⟩

/-- Fields that do not matter here. -/
theorem quiet_of_fields (hlog : next.log = t.log) (hstate : next.state = t.state)
    (hout : next.out = t.out) : Quiet t next :=
  ⟨⟨[], hlog, by simp⟩, fun hoffline => ⟨hstate ▸ hoffline, hout⟩, fun h => hstate ▸ h⟩

theorem quiet_call {c : Call} (hc : ∀ frame state, c ≠ .accepted frame state) :
    Quiet t (t.call c) := by
  refine ⟨⟨[c], rfl, fun frame state => ?_⟩, fun hoffline => ⟨hoffline, rfl⟩, id⟩
  simpa using (hc frame state).symm

/-- A new state: the chip goes offline, or was online and stays so. -/
theorem quiet_of_state (calls : List Call) (hlog : next.log = calls ++ t.log)
    (hcalls : ∀ frame state, .accepted frame state ∉ calls) (hout : next.out = t.out)
    (hstate : next.state < .isOnline ∨ .isOnline < t.state ∧ next.state ≠ .isOnline) :
    Quiet t next := by
  refine ⟨⟨calls, hlog, hcalls⟩, fun hoffline => ⟨?_, hout⟩, fun _ honline => ?_⟩
  · rcases hstate with hstate | ⟨honline, -⟩
    · exact hstate
    · exact absurd hoffline (lt_asymm honline)
  · rcases hstate with hstate | ⟨-, hne⟩
    · rw [honline] at hstate
      exact absurd hstate (by decide)
    · exact hne honline

theorem quiet_sendAgain : Quiet t t.sendAgain := by
  unfold sendAgain
  split
  · next hsending =>
    split
    · exact quiet_of_fields rfl rfl rfl
    · refine ⟨⟨[.sendData (services t.out)], rfl, by simp⟩, fun hoffline => ?_, id⟩
      exact absurd hoffline (lt_asymm hsending.2.1)
  · exact .refl t

/-- Every use of `setstate` but the one that brings the chip online. -/
theorem quiet_setstate {state : TState}
    (hstate : state < .isOnline ∨ .isOnline < t.state ∧ state ≠ .isOnline) :
    Quiet t (t.setstate cfg state) := by
  have hreport : t.reportOnline cfg state = (t, state) := by
    refine if_neg fun hcomes => ?_
    rcases hstate with hstate | ⟨honline, -⟩
    · exact absurd hcomes.2 (not_le.2 hstate)
    · exact absurd hcomes.1 (lt_asymm honline)
  rw [setstate, hreport]
  have hinReset : TState.inReset < .isOnline := by decide
  have hinGetstate : TState.inGetstate < .isOnline := by decide
  cases state with
  | new | error | wait | waitMore => exact quiet_of_state [] rfl (by simp) rfl hstate
  | start | inReset => exact quiet_of_state [.sendData [1]] rfl (by simp) rfl (.inl hinReset)
  | inSetaddr =>
    dsimp only [enterState]
    split
    · exact quiet_of_state [.sendData [2], .sendData [0x28, _, _]] rfl (by simp) rfl
        (.inl hinGetstate)
    · exact quiet_of_state [.sendData [2]] rfl (by simp) rfl (.inl hinGetstate)
  | inGetstate | waitKeepalive => exact quiet_of_state [.sendData [2]] rfl (by simp) rfl hstate
  | isOnline => simp at hstate
  | busmonitor => exact quiet_of_state [.sendData [5]] rfl (by simp) rfl hstate

theorem quiet_timerCb : Quiet t (t.timerCb cfg) := by
  unfold timerCb
  split
  · exact quiet_call (by simp)
  · split
    · exact quiet_setstate (.inl (by decide))
    · exact quiet_setstate (.inl (by decide))
  · split
    · exact (quiet_call (by simp)).trans (quiet_setstate (.inl (by decide)))
    · exact quiet_setstate (.inl (by decide))
  · exact (quiet_call (by simp)).trans (quiet_setstate (.inl (by decide)))
  · next hstate => exact quiet_setstate (.inr ⟨by rw [hstate]; decide, by decide⟩)
  · next hstate =>
    have hcleared : Quiet t { t with inBuf := [] } := quiet_of_fields rfl rfl rfl
    refine hcleared.trans (quiet_setstate (.inr ⟨?_, by decide⟩))
    rw [hstate]
    decide
  · next hstate =>
    split
    · exact quiet_setstate (.inl (by decide))
    · exact quiet_setstate (.inr ⟨by rw [hstate]; decide, by decide⟩)
  all_goals exact .refl t

theorem quiet_sendtimerCb : Quiet t (t.sendtimerCb cfg) := by
  have hcounted : Quiet t { t with sendRetry := t.sendRetry + 1 } := quiet_of_fields rfl rfl rfl
  unfold sendtimerCb
  dsimp only
  split
  · exact hcounted.trans (quiet_setstate (.inl (by decide)))
  · exact hcounted.trans quiet_sendAgain

theorem quiet_doSendNext : Quiet t t.doSendNext := by
  unfold doSendNext
  dsimp only
  split
  · have hfree : Quiet t { t with nextFree := true, sendWait := false } :=
      quiet_of_fields rfl rfl rfl
    exact hfree.trans quiet_sendAgain
  · exact quiet_of_fields rfl rfl rfl

theorem quiet_recvLPDU {data : CArray} (hnext : t.recvLPDU data = .ok next) : Quiet t next := by
  unfold recvLPDU at hnext
  split at hnext
  · cases hnext
    exact quiet_call (by simp)
  · split at hnext
    · obtain ⟨packet, -, hnext⟩ := bind_eq_ok_iff.1 hnext
      cases packet with
      | none =>
        cases hnext
        exact .refl t
      | some =>
        cases hnext
        split
        · exact quiet_call (by simp)
        · exact .refl t
    · cases hnext
      exact .refl t

theorem quiet_acknowledge (hnext : t.acknowledge cfg answers ext = .ok next) : Quiet t next := by
  unfold acknowledge at hnext
  split at hnext
  · obtain ⟨_, -, hnext⟩ := bind_eq_ok_iff.1 hnext
    split at hnext
    · cases hnext
      exact quiet_of_fields rfl rfl rfl
    · obtain ⟨c, -, hnext⟩ := bind_eq_ok_iff.1 hnext
      cases hnext
      exact (quiet_call (c := .sendData [c]) (by simp)).trans (quiet_of_fields rfl rfl rfl)
  · cases hnext
    exact .refl t

theorem quiet_passFrame (hnext : t.passFrame = .ok next) : Quiet t next := by
  unfold passFrame at hnext
  split at hnext
  · cases hnext
    exact .refl t
  · exact quiet_recvLPDU hnext

theorem quiet_complete (hnext : t.complete ext = .ok next) : Quiet t next := by
  obtain ⟨_, -, hnext⟩ := bind_eq_ok_iff.1 hnext
  split at hnext
  · obtain ⟨_, hpassed, hnext⟩ := bind_eq_ok_iff.1 hnext
    cases hnext
    exact (quiet_passFrame hpassed).trans (quiet_of_fields rfl rfl rfl)
  · cases hnext
    exact .refl t

theorem quiet_checkFrame (hnext : t.checkFrame cfg answers ext = .ok next) : Quiet t next := by
  unfold checkFrame at hnext
  split at hnext
  · obtain ⟨_, hacknowledged, hnext⟩ := bind_eq_ok_iff.1 hnext
    exact (quiet_acknowledge hacknowledged).trans (quiet_complete hnext)
  · cases hnext
    exact .refl t

theorem quiet_awaitMore : Quiet t (t.awaitMore cfg) := by
  unfold awaitMore
  split
  · next hwaiting =>
    split
    · exact quiet_setstate (.inr ⟨hwaiting.1, by decide⟩)
    · exact quiet_setstate (.inr ⟨hwaiting.1, by decide⟩)
  · exact .refl t

theorem quiet_inCheck (hnext : t.inCheck cfg answers = .ok next) : Quiet t next := by
  obtain ⟨_, -, hnext⟩ := bind_eq_ok_iff.1 hnext
  obtain ⟨_, hchecked, hnext⟩ := bind_eq_ok_iff.1 hnext
  cases hnext
  exact (quiet_checkFrame hchecked).trans quiet_awaitMore

theorem quiet_stateIndication (hstate : t.state ≠ .inGetstate) :
    Quiet t (t.stateIndication cfg) := by
  unfold stateIndication
  split
  · next hkeepalive => exact quiet_setstate (.inr ⟨by rw [hkeepalive]; decide, by decide⟩)
  · exact quiet_setstate (.inl (by decide))
  · next hgetstate => exact absurd hgetstate hstate
  · exact .refl t

theorem quiet_frameDone (honline : ¬ t.state < .isOnline) : Quiet t t.frameDone :=
  ⟨⟨[.sendNext], rfl, by simp⟩, fun hoffline => absurd hoffline honline, id⟩

/-- A byte that does not bring the chip online. -/
theorem quiet_recvByte {c : Byte} (hnext : t.recvByte cfg answers c = .ok next)
    (hstate : t.state = .inGetstate → t.inBuf = [] → t.skipChar = false →
      classify c ≠ .stateIndication) : Quiet t next := by
  unfold recvByte at hnext
  split at hnext
  · have happended : Quiet t { t with inBuf := t.inBuf ++ [c] } := quiet_of_fields rfl rfl rfl
    exact happended.trans (quiet_inCheck hnext)
  next hinBuf =>
  have hempty : t.inBuf = [] := by simpa using hinBuf
  split at hnext
  · cases hnext
    exact quiet_of_fields rfl rfl rfl
  next hskipChar =>
  cases hservice : classify c with
  | resetAck =>
    rw [hservice] at hnext
    cases hnext
    split
    · exact quiet_setstate (.inl (by decide))
    · exact .refl t
  | confirmation =>
    rw [hservice] at hnext
    cases hnext
    split
    · exact .refl t
    · next hsending => exact quiet_frameDone fun hoffline => hsending (.inr hoffline)
  | ncnIndication =>
    rw [hservice] at hnext
    cases hnext
    exact .refl t
  | stateIndication =>
    rw [hservice] at hnext
    cases hnext
    refine quiet_stateIndication fun hgetstate => ?_
    exact hstate hgetstate hempty (by simpa using hskipChar) hservice
  | busAck =>
    rw [hservice] at hnext
    obtain ⟨_, -, hnext⟩ := bind_eq_ok_iff.1 hnext
    exact quiet_recvLPDU hnext
  | frameStart =>
    rw [hservice] at hnext
    obtain ⟨-, -, hnext⟩ := bind_eq_ok_iff.1 hnext
    cases hnext
    exact quiet_of_fields rfl rfl rfl
  | unknown =>
    rw [hservice] at hnext
    cases hnext
    exact quiet_of_fields rfl rfl rfl

end Quiet

/-! ## What a step does -/

variable {cfg : Config} {t next : TPUARTwrap} {event : Event}

inductive Moves (t : TPUARTwrap) (event : Event) (next : TPUARTwrap) : Prop
  | quiet : ¬ ComesOnline t event → Quiet t next → Moves t event next
  | kept {frame : CArray} : ¬ ComesOnline t event → t.out = [] → frame ≠ [] → next.out = frame →
      next.state = t.state → t.state ≤ .isOnline →
      next.log = .accepted frame t.state :: t.log → Moves t event next
  | taken {frame : CArray} {calls : List Call} :
      ¬ ComesOnline t event → next.state = t.state → .isOnline < t.state →
      next.log = calls ++ .accepted frame t.state :: t.log →
      (∀ frame state, .accepted frame state ∉ calls) → Moves t event next
  | online : ComesOnline t event → .isOnline < next.state →
      (next.log = .sendNext :: .started :: t.log ∨
        next.log = .sendData [0x05] :: .started :: t.log) → Moves t event next

theorem sendAgain_of_offline (hoffline : ¬ .isOnline < t.state) : t.sendAgain = t :=
  if_neg fun hsending => hoffline hsending.2.1

/-- The old state is stored when `send_again` is called: nothing is sent. -/
theorem setstate_isOnline (cfg : Config) (hstate : t.state = .inGetstate) :
    .isOnline < (t.setstate cfg .isOnline).state ∧
      ((t.setstate cfg .isOnline).log = .sendNext :: .started :: t.log ∨
        (t.setstate cfg .isOnline).log = .sendData [0x05] :: .started :: t.log) := by
  have hcomes : t.state < .isOnline ∧ TState.isOnline ≤ .isOnline := by
    rw [hstate]
    decide
  cases hmonitor : cfg.monitor with
  | true =>
    have hreport : t.reportOnline cfg .isOnline = (t.call .started, .busmonitor) := by
      simp [reportOnline, hcomes, hmonitor]
    have hmonitoring : TState.isOnline < .busmonitor := by decide
    rw [setstate, hreport]
    exact ⟨hmonitoring, .inr rfl⟩
  | false =>
    have hbelow : TState.isOnline < .busmonitor := by decide
    have hnothing : (t.call .started).sendAgain = t.call .started :=
      sendAgain_of_offline (lt_asymm hcomes.1)
    have hreport : t.reportOnline cfg .isOnline = (t.call .started, .isOnline) := by
      simp [reportOnline, hcomes, hmonitor, hbelow, hnothing]
    have hwaiting : TState.isOnline < .wait := by decide
    rw [setstate, hreport]
    exact ⟨hwaiting, .inl rfl⟩

theorem toPacket_ne_nil {l : LDataPDU} {frame : CArray} (hframe : l.toPacket = .ok frame) :
    frame ≠ [] := by
  obtain ⟨-, -, hframe⟩ := bind_eq_ok_iff.1 hframe
  obtain ⟨-, -, hframe⟩ := bind_eq_ok_iff.1 hframe
  obtain ⟨-, -, hframe⟩ := bind_eq_ok_iff.1 hframe
  cases hframe
  simp

theorem state_sendAgain (t : TPUARTwrap) : t.sendAgain.state = t.state := by
  unfold sendAgain
  repeat' split
  all_goals rfl

theorem moves_sendLData {l : LDataPDU} (hnext : t.sendLData l = .ok next) :
    Moves t (.sendLData l) next := by
  obtain ⟨_, hrequire, hnext⟩ := bind_eq_ok_iff.1 hnext
  obtain ⟨frame, hframe, hnext⟩ := bind_eq_ok_iff.1 hnext
  cases hnext
  by_cases honline : .isOnline < t.state
  · obtain ⟨_, hlog, hcalls⟩ :=
      (quiet_sendAgain (t := { t with out := frame }.call (.accepted frame t.state))).log
    exact .taken id (state_sendAgain _) honline hlog hcalls
  · have hout : t.out = [] := length_eq_zero_iff.1 (of_require hrequire)
    have hsame := sendAgain_of_offline
      (t := { t with out := frame }.call (.accepted frame t.state)) honline
    rw [hsame]
    exact .kept id hout (toPacket_ne_nil hframe) rfl rfl (not_lt.1 honline) rfl

/-- The next byte of a call of `recv_Data`. -/
theorem moves_recvByte {answers : Answers} {c : Byte} {rest : CArray}
    (hreading : t.reading = c :: rest)
    (hnext : { t with reading := rest }.recvByte cfg answers c = .ok next) :
    Moves t (.byte answers) next := by
  by_cases hcomes : ComesOnline t (.byte answers)
  · obtain ⟨hstate, hinBuf, hskipChar, hservice⟩ := hcomes
    have hclass : classify c = .stateIndication := by simpa [hreading] using hservice
    have hbyte : { t with reading := rest }.recvByte cfg answers c =
        .ok ({ t with reading := rest }.setstate cfg .isOnline) := by
      simp [recvByte, stateIndication, hinBuf, hskipChar, hclass, hstate]
    obtain rfl := Except.ok.inj (hbyte.symm.trans hnext)
    obtain ⟨honline, hlog⟩ := setstate_isOnline (t := { t with reading := rest }) cfg hstate
    exact .online ⟨hstate, hinBuf, hskipChar, hservice⟩ honline hlog
  · have hread : Quiet t { t with reading := rest } := quiet_of_fields rfl rfl rfl
    refine .quiet hcomes (hread.trans (quiet_recvByte hnext ?_))
    intro hstate hinBuf hskipChar hclass
    exact hcomes ⟨hstate, hinBuf, hskipChar, by simp [hreading, hclass]⟩

/-- Inversion of `step`. -/
theorem moves_of_step (hstep : step cfg t event = some next) : Moves t event next := by
  unfold step at hstep
  split at hstep
  case h_2 c rest hreading =>
    cases event with
    | byte => exact moves_recvByte hreading (toOption_eq_some_iff.1 hstep)
    | _ => cases hstep
  cases event with
  | byte => cases hstep
  | recvData =>
    cases hstep
    refine .quiet id ?_
    unfold recvData
    split
    · exact .refl t
    · exact quiet_of_fields rfl rfl rfl
  | sendNext =>
    cases hstep
    exact .quiet id quiet_doSendNext
  | started =>
    cases hstep
    have hreset : Quiet t (t.setstate cfg .new) := quiet_setstate (.inl (by decide))
    exact .quiet id (hreset.trans (quiet_setstate (.inl (by decide))))
  | stopped =>
    cases hstep
    exact .quiet id ((quiet_setstate (.inl (by decide))).trans (quiet_call (by simp)))
  | errored =>
    cases hstep
    exact .quiet id (quiet_call (by simp))
  | sendLData => exact moves_sendLData (toOption_eq_some_iff.1 hstep)
  | timer =>
    obtain ⟨-, rfl⟩ := Option.ite_some_none_eq_some.1 hstep
    have hexpired : Quiet t { t with timer := false } := quiet_of_fields rfl rfl rfl
    exact .quiet id (hexpired.trans quiet_timerCb)
  | sendtimer =>
    obtain ⟨-, rfl⟩ := Option.ite_some_none_eq_some.1 hstep
    have hexpired : Quiet t { t with sendtimer := false } := quiet_of_fields rfl rfl rfl
    exact .quiet id (hexpired.trans quiet_sendtimerCb)

/-! ## Frames owed -/

/-- Only a frame that is taken is added. -/
theorem mem_owed_of_append {calls older : List Call} {frame : CArray}
    (hcalls : ∀ frame state, .accepted frame state ∉ calls)
    (hframe : frame ∈ owed (calls ++ older)) : frame ∈ owed older := by
  induction calls with
  | nil => exact hframe
  | cons c calls ih =>
    have hrest : ∀ frame state, .accepted frame state ∉ calls :=
      fun frame state hmem => hcalls frame state (mem_cons_of_mem c hmem)
    cases c with
    | accepted taken state => exact absurd mem_cons_self (hcalls taken state)
    | sendData => exact ih hrest (mem_of_mem_filter hframe)
    | errored | stopped => simp [owed] at hframe
    | ifaceStop | sendNext | started | recvLData | recvLBusmonitor => exact ih hrest hframe

/-- No command of one byte is a frame. -/
theorem length_services (out : CArray) : (services out).length = 2 * out.length := by
  simp [services, length_flatMap, Nat.mul_comm]

/-- What is logged when the chip comes online does not pass a frame to it. -/
theorem mem_owed_online {log older : List Call} {frame : CArray}
    (hlog : log = .sendNext :: .started :: older ∨ log = .sendData [0x05] :: .started :: older)
    (hframe : frame ∈ owed older) : frame ∈ owed log := by
  rcases hlog with rfl | rfl
  · exact hframe
  · refine mem_filter.2 ⟨hframe, decide_eq_true fun hservices => ?_⟩
    have hlength := congrArg length hservices
    rw [length_services] at hlength
    simp at hlength
    omega

/-- What is owed is not empty, is still there, and the chip is not online. -/
structure Holding (t : TPUARTwrap) : Prop where
  stored : t.state ≠ .isOnline
  held : ∀ frame ∈ owed t.log, frame ≠ [] ∧ t.out = frame ∧ t.state < .isOnline

theorem Holding.kept (hholding : Holding t) : Kept t := by
  intro frame hframe
  obtain ⟨-, hout, hoffline⟩ := hholding.held frame hframe
  exact ⟨hout, le_of_lt hoffline⟩

/-- One step keeps what is owed, unless it brings the chip online. -/
theorem Holding.step (hholding : Holding t) (hundisturbed : Undisturbed t event)
    (hstep : step cfg t event = some next) : Holding next := by
  obtain ⟨hstored, howed⟩ := hholding
  cases moves_of_step hstep with
  | quiet _ hquiet =>
    refine ⟨hquiet.stored hstored, fun frame hframe => ?_⟩
    obtain ⟨_, hlog, hcalls⟩ := hquiet.log
    rw [hlog] at hframe
    obtain ⟨hne, hout, hoffline⟩ := howed frame (mem_owed_of_append hcalls hframe)
    obtain ⟨hnext, hsame⟩ := hquiet.offline hoffline
    exact ⟨hne, hsame.trans hout, hnext⟩
  | kept _ hempty hne hout hstate hoffline hlog =>
    refine ⟨hstate ▸ hstored, fun frame hframe => ?_⟩
    rw [hlog, owed, if_pos hoffline] at hframe
    rcases mem_cons.1 hframe with rfl | holder
    · exact ⟨hne, hout, hstate ▸ lt_of_le_of_ne hoffline hstored⟩
    · -- `out` was empty, so no other frame was owed
      obtain ⟨hold, hsame, -⟩ := howed frame holder
      exact absurd (hsame.symm.trans hempty) hold
  | taken _ hstate honline hlog hcalls =>
    refine ⟨hstate ▸ hstored, fun frame hframe => ?_⟩
    rw [hlog] at hframe
    have holder := mem_owed_of_append hcalls hframe
    rw [owed, if_neg (not_le.2 honline)] at holder
    exact absurd (howed frame holder).2.2 (lt_asymm honline)
  | online hcomes honline hlog =>
    have hnothing := hundisturbed hcomes
    refine ⟨fun hstate => ?_, fun frame hframe => ?_⟩
    · rw [hstate] at honline
      exact absurd honline (by decide)
    · rcases hlog with hlog | hlog
      · simp [hlog, owed, hnothing] at hframe
      · simp [hlog, owed, hnothing] at hframe

/-- A frame that is owed when the chip comes online is not passed to it. -/
theorem not_kept_of_online {frame : CArray} (hcomes : ComesOnline t event)
    (hframe : frame ∈ owed t.log) (hstep : step cfg t event = some next) : ¬ Kept next := by
  intro hkept
  cases moves_of_step hstep with
  | quiet hoffline | kept hoffline | taken hoffline => exact hoffline hcomes
  | online _ honline hlog =>
    obtain ⟨-, hle⟩ := hkept frame (mem_owed_online hlog hframe)
    exact absurd hle (not_le.2 honline)

/-- In a run in which the chip never comes online while a frame is owed, every frame that is owed is
kept; in the first step that brings it online with such a frame, the frame is lost. -/
theorem offline_frame_kept_iff (hpath : Path (step cfg) Undisturbed boot t) :
    Kept t ∧ ∀ event next, step cfg t event = some next → (Kept next ↔ Undisturbed t event) := by
  refine hpath.invariant_iff Holding Kept ⟨by decide, by simp [boot, owed]⟩ ?_ ?_ ?_
  · exact fun _ _ _ hholding hundisturbed hstep => hholding.step hundisturbed hstep
  · exact fun _ hholding => hholding.kept
  · intro state event next _ hstep hkept hcomes
    by_contra howed
    obtain ⟨_, hframe⟩ := exists_mem_of_ne_nil _ howed
    exact not_kept_of_online hcomes hframe hstep hkept

/-- Switching on a lamp. -/
def telegram : LDataPDU :=
  { source := 0x1101, dest := 0x0801, addrType := .groupAddress, data := [0x00, 0x81] }

/-- The bytes of `telegram` on the bus. -/
def telegramBytes : CArray := [0xBC, 0x11, 0x01, 0x08, 0x01, 0xE1, 0x00, 0x81, 0x3A]

/-- During the first reset a frame is taken and kept. -/
theorem offline_frame_kept_reset : ∃ t : TPUARTwrap, Path (step {}) Undisturbed boot t ∧
    owed t.log = [telegramBytes] ∧ t.state = .inReset ∧ Kept t :=
  exists_path_of (D := fun t => owed t.log = [telegramBytes] ∧ t.state = .inReset)
    [.started, .sendLData telegram] (by decide +kernel) fun _ hpath hfields =>
      ⟨hfields.1, hfields.2, (offline_frame_kept_iff hpath).1⟩

/-- The chip comes up, does not answer a state request, and is reset; a frame is taken; the chip is
online again, the next frame is asked for, and the frame is gone and was not passed to the chip. -/
theorem frame_discarded_by_reset : ∃ t : TPUARTwrap, Path (step {}) anyEvent boot t ∧
    t.state = .wait ∧ t.out = [] ∧ t.log.head? = some .sendNext ∧
      .sendData (services telegramBytes) ∉ t.log ∧ owed t.log = [telegramBytes] ∧ ¬ Kept t := by
  refine exists_path_of (D := fun t => t.state = .wait ∧ t.out = [] ∧
      t.log.head? = some .sendNext ∧ .sendData (services telegramBytes) ∉ t.log ∧
      owed t.log = [telegramBytes])
    [.started, .recvData [0x03], .byte {}, .recvData [0x07], .byte {}, .timer, .timer,
      .sendLData telegram, .recvData [0x03], .byte {}, .recvData [0x07], .byte {}]
    (by decide +kernel) fun t _ hfields => ?_
  obtain ⟨hstate, hout, hlast, hnever, howed⟩ := hfields
  refine ⟨hstate, hout, hlast, hnever, howed, fun hkept => ?_⟩
  obtain ⟨hheld, -⟩ := hkept telegramBytes (by simp [howed])
  rw [hout] at hheld
  exact absurd hheld (by decide)

end Knxd.TPUART
