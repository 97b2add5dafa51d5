import Knxd.LowLevel.EMIDriver

/-!
# A stack that stopped has closed its device

When the top of a stack reports `stopped`, the router may start it again, and that
starts the driver below; so by then that driver must have been stopped.  EMI1 and EMI2
see to this when their closing command is completed, but not when a local command times
out: then they report `stopped` with the driver below still running.  cEMI has no closing
command and reports `stopped` at once.
-/

namespace Knxd.Closing

open Memory LPDU LowLevel Driver Option
open Transition (Path)

/-- The upper layer starts a stack only when it is down, and nothing makes the stack
report `stopped` while the driver below is open: no timeout of a local command, and for
cEMI neither `stop` nor the acknowledged reset of a bus monitor. -/
def ClosesFirst (t : Driver) : Event → Prop
  | .start => t.down
  | .stop => t.kind = .cemi → t.lowerOpen = false
  | .localTimeout => t.lowerOpen = false
  | .sendNext => t.kind = .cemi → t.resetWait → t.monitor → t.lowerOpen = false
  | _ => True

instance (t : Driver) : (event : Event) → Decidable (ClosesFirst t event)
  | .start | .localTimeout => inferInstanceAs (Decidable (_ = _))
  | .stop => inferInstanceAs (Decidable (_ → _))
  | .sendNext => inferInstanceAs (Decidable (_ → _ → _ → _))
  | .sendLData _ | .started | .stopped | .errored | .recvData _ | .resetTimer | .timeout =>
    inferInstanceAs (Decidable True)

/-- A stack that is down has closed its device, and none was started twice. -/
structure Closed (t : Driver) : Prop where
  closed : t.down → t.lowerOpen = false
  reopened : t.reopened = false
  /-- Each local command says what comes next. -/
  pending : t.isLocal → t.sendLocalDoneNext ≠ .nBad
  /-- A `CEMIDriver` has no local commands, unlike a `FT12CEMIDriver`. -/
  plain : t.kind = .cemi → t.isLocal = false

section Steps

variable {t next : Driver}
variable (hclosed : Closed t)
include hclosed

theorem Closed.congr (hsame : SameControl t next) : Closed next where
  closed := by rw [hsame.down, hsame.lowerOpen]; exact hclosed.closed
  reopened := hsame.reopened.trans hclosed.reopened
  pending := by rw [hsame.isLocal, hsame.sendLocalDoneNext]; exact hclosed.pending
  plain := by rw [hsame.kind, hsame.isLocal]; exact hclosed.plain

theorem Closed.stopped (hlower : t.lowerOpen = false) : Closed t.stopped :=
  { hclosed with closed := fun _ => hlower }

theorem Closed.ifaceStop : Closed t.ifaceStop :=
  { hclosed with closed := fun _ => rfl }

theorem Closed.command {after : DoneNext} (hafter : after ≠ .nBad)
    (hkind : t.kind ≠ .cemi) (d : CArray) : Closed (t.command after d) := by
  unfold Driver.command Driver.sendLocal
  split
  · exact { hclosed with pending := fun _ => hafter }
  · exact ⟨hclosed.closed, hclosed.reopened, fun _ => hafter, fun hcemi => absurd hcemi hkind⟩

theorem Closed.errored_stopped (hlower : t.lowerOpen = false) : Closed (t.call .errored).stopped :=
  (hclosed.congr (sameControl_call _)).stopped hlower

/-- A command that waits for a confirmation is not sent. -/
theorem Closed.postpone {after : DoneNext} (hafter : after ≠ .nBad) :
    Closed { t with sendLocalDoneNext := after } :=
  { hclosed with pending := fun _ => hafter }

theorem Closed.cmdEnterMonitor
    (hcemi : t.kind = .cemi → t.lowerOpen = false) : Closed t.cmdEnterMonitor := by
  unfold Driver.cmdEnterMonitor
  split
  · next hkind => exact hclosed.command (by decide) (by simp [hkind]) _
  · next hkind => exact hclosed.command (by decide) (by simp [hkind]) _
  · next hkind => exact hclosed.errored_stopped (hcemi hkind)

theorem Closed.cmdLeaveMonitor
    (hcemi : t.kind = .cemi → t.lowerOpen = false) : Closed t.cmdLeaveMonitor := by
  unfold Driver.cmdLeaveMonitor
  split
  · next hkind => exact hclosed.command (by decide) (by simp [hkind]) _
  · next hkind =>
    split
    · exact hclosed.postpone (by decide)
    · exact hclosed.command (by decide) (by simp [hkind]) _
  · next hkind => exact hclosed.errored_stopped (hcemi hkind)

theorem Closed.cmdOpen : Closed t.cmdOpen := by
  unfold Driver.cmdOpen
  split
  · next hkind => exact hclosed.command (by decide) (by simp [hkind]) _
  · next hkind => exact hclosed.command (by decide) (by simp [hkind]) _
  · exact hclosed.congr (sameControl_call _)

theorem Closed.cmdClose (hcemi : t.kind = .cemi → t.lowerOpen = false) : Closed t.cmdClose := by
  unfold Driver.cmdClose
  split
  · next hkind =>
    split
    · exact hclosed.postpone (by decide)
    · exact hclosed.command (by decide) (by simp [hkind]) _
  · next hkind =>
    split
    · exact hclosed.postpone (by decide)
    · exact hclosed.command (by decide) (by simp [hkind]) _
  · next hkind => exact hclosed.stopped (hcemi hkind)

theorem Closed.commonStarted
    (hcemi : t.kind = .cemi → t.monitor → t.lowerOpen = false) : Closed t.commonStarted := by
  unfold Driver.commonStarted
  split
  · next hmonitor => exact hclosed.cmdEnterMonitor fun hkind => hcemi hkind hmonitor
  · exact hclosed.cmdOpen

/-- The completed command of EMI1 or EMI2. -/
theorem Closed.sendLocalDoneCb (hkind : t.kind ≠ .cemi)
    (hnext : t.sendLocalDoneNext ≠ .nBad) : Closed (t.sendLocalDoneCb true) := by
  unfold Driver.sendLocalDoneCb
  rw [if_neg (by simp [hnext])]
  split
  · next hcemi _ => exact absurd hcemi hkind
  · exact hclosed.ifaceStop
  · exact hclosed.congr (sameControl_call _)
  · exact hclosed.command (by decide) hkind _
  · exact hclosed.command (by decide) hkind _
  · exact hclosed.command (by decide) hkind _
  · next hcemi _ => exact absurd hcemi hkind
  · exact hclosed

/-- Without a local command on its way, `send_Next` may be the acknowledged reset. -/
theorem Closed.doSendNext (hcemi : t.kind = .cemi → t.resetWait → t.monitor → t.lowerOpen = false) :
    Closed t.doSendNext := by
  have hnot : ∀ {kind}, t.kind = kind → kind ≠ .cemi → t.kind = .cemi → t.lowerOpen = false :=
    fun hkind hne hcemi => absurd (hkind.symm.trans hcemi) hne
  unfold Driver.doSendNext
  split
  · next hkind =>
    split
    · exact Closed.cmdClose { hclosed with } (hnot hkind (by decide))
    · exact hclosed.congr sameControl_commonSendNext
  · next hkind =>
    split
    · exact Closed.commonStarted
        { hclosed with }
        fun hcemi _ => hnot hkind (by decide) hcemi
    split
    · exact Closed.cmdClose { hclosed with } (hnot hkind (by decide))
    split
    · exact Closed.cmdLeaveMonitor
        { hclosed with }
        (hnot hkind (by decide))
    · exact hclosed.congr sameControl_commonSendNext
  · next hkind =>
    split
    · next hreset =>
      exact Closed.commonStarted
        { hclosed with }
        fun _ => hcemi hkind hreset
    · exact hclosed.congr sameControl_commonSendNext

theorem Closed.step {event : Event} (hfirst : ClosesFirst t event)
    (hstep : step t event = some next) : Closed next := by
  rw [LowLevel.step.eq_def] at hstep
  split at hstep
  · cases hstep
  cases event with
  | start =>
    cases hstep
    refine ⟨fun hdown => absurd hdown Bool.false_ne_true, ?_, hclosed.pending, hclosed.plain⟩
    have hlower := hclosed.closed hfirst
    simp [start, ifaceStart, hclosed.reopened, hlower]
  | stop =>
    cases hstep
    unfold stop
    split
    · exact hclosed.cmdLeaveMonitor hfirst
    · exact hclosed.cmdClose hfirst
  | sendLData l =>
    cases hstep
    exact hclosed.congr (sameControl_sendLData l)
  | started =>
    cases hstep
    have hanswered : Closed { t with starting := false } :=
      { hclosed with }
    unfold started
    split
    · next hkind =>
      exact hanswered.commonStarted fun hcemi _ => absurd (hkind.symm.trans hcemi) (by decide)
    · exact { hclosed with }
    · exact { hclosed with }
  | stopped =>
    cases hstep
    exact { hclosed with closed := fun _ => rfl }
  | errored =>
    cases hstep
    exact hclosed.congr (sameControl_call _)
  | sendNext =>
    cases hstep
    unfold sendNext
    split
    · next hlocal =>
      have hkind : t.kind ≠ .cemi := fun hcemi => by simp [hclosed.plain hcemi] at hlocal
      exact Closed.sendLocalDoneCb ⟨hclosed.closed, hclosed.reopened,
        fun hfalse => absurd hfalse Bool.false_ne_true, fun _ => rfl⟩ hkind
        (hclosed.pending hlocal)
    · exact hclosed.doSendNext hfirst
  | recvData c =>
    cases hstep
    exact hclosed.congr (sameControl_recvData c)
  | localTimeout =>
    obtain ⟨-, ⟨⟩⟩ := ite_none_right_eq_some.1 hstep
    have hidle : Closed { t with isLocal := false } :=
      ⟨hclosed.closed, hclosed.reopened, fun hfalse => absurd hfalse Bool.false_ne_true,
        fun _ => rfl⟩
    unfold Driver.localTimeoutCb Driver.sendLocalDoneCb
    rw [if_pos (.inl rfl)]
    exact hidle.errored_stopped hfirst
  | resetTimer =>
    obtain ⟨-, ⟨⟩⟩ := ite_none_right_eq_some.1 hstep
    exact hclosed.congr sameControl_resetTimerCb
  | timeout =>
    obtain ⟨-, ⟨⟩⟩ := ite_none_right_eq_some.1 hstep
    exact hclosed.congr sameControl_timeoutCb

end Steps

/-- In every run in which the stack is not made to report `stopped` over an open driver,
a stack that is down has closed its device, and no driver is started twice. -/
theorem stopped_stack_closed {kind : Kind} {monitor : Bool} {maxRetries : ℤ}
    {stackBytes : CArray} {t : Driver}
    (hpath : Path step ClosesFirst { kind, monitor, maxRetries, stackBytes } t) :
    (t.down → t.lowerOpen = false) ∧ t.reopened = false := by
  have hclosed := hpath.invariant Closed
    ⟨fun _ => rfl, rfl, fun hlocal => absurd hlocal Bool.false_ne_true, fun _ => rfl⟩
    fun _ _ _ hclosed hfirst hstep => hclosed.step hfirst hstep
  exact ⟨hclosed.closed, hclosed.reopened⟩

/-- An EMI1 device is opened and closed. -/
def openClose : List Event :=
  [.start, .started, .sendNext, .sendNext, .stop, .sendNext, .stopped]

/-- After that the stack is down and its device closed. -/
theorem stopped_stack_closed_emi1 : ∃ t,
    Transition.runAllowed step ClosesFirst { kind := .emi1 } openClose = some t ∧
    t.down = true ∧ t.lowerOpen = false :=
  Transition.exists_state (by decide) fun _ ht hdown =>
    ⟨hdown, (stopped_stack_closed (Transition.path_of_runAllowed ht)).1 hdown⟩

/-- A local command times out while an EMI1 device is opened, and the device is started a
second time; a cEMI stack reports `stopped` without having stopped anything. -/
theorem stopped_stack_open :
    (∃ t, Transition.run step { kind := .emi1 } [.start, .started, .localTimeout, .start] = some t ∧
      t.reopened = true) ∧
    ∃ t, Transition.run step { kind := .cemi } [.start, .started, .sendNext, .stop] = some t ∧
      t.down = true ∧ t.lowerOpen = true := by
  refine ⟨⟨_, rfl, ?_⟩, ⟨_, rfl, ?_, ?_⟩⟩ <;> decide

end Knxd.Closing
