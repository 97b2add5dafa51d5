import Knxd.LowLevel.EMIDriver

/-!
# One local command at a time

`send_Local` asserts that no other local command is on its way.  The chain of opening
commands keeps to this, since each one is sent when the one before is completed.  The
upper layer does not: `stop` sends the closing command at once, also while an opening
command is unanswered.
-/

namespace Knxd.LocalCommands

open Memory LPDU LowLevel Option
open Transition (Path)

/-- `stop` is called only when no local command is unanswered; cEMI has none.  For EMI1,
whose opening commands start with the answer of the driver below, that answer comes once
for each `start`, it comes before `stop`, and `start` is not called over an unanswered
command either. -/
def OneAtATime (t : Driver) : Event → Prop
  | .start => t.kind = .emi1 → t.isLocal = false
  | .stop => t.kind ≠ .cemi → t.isLocal = false ∧ (t.kind = .emi1 → t.starting = false)
  | .started => t.kind = .emi1 → t.starting
  | _ => True

instance (t : Driver) : (event : Event) → Decidable (OneAtATime t event)
  | .start | .started => inferInstanceAs (Decidable (_ → _))
  | .stop => inferInstanceAs (Decidable (_ → _ ∧ (_ → _)))
  | .sendLData _ | .stopped | .errored | .sendNext | .recvData _ | .localTimeout | .resetTimer
  | .timeout => inferInstanceAs (Decidable True)

/-- No assertion has failed, and none is about to. -/
structure InTurn (t : Driver) : Prop where
  overlap : t.overlap = false
  /-- While the driver below starts, EMI1 has sent nothing. -/
  starting : t.kind = .emi1 → t.starting → t.isLocal = false
  /-- Nothing ever waits for a confirmation. -/
  waitConfirmLow : t.waitConfirmLow = false
  wantClose : t.sendLocalDoneNext ≠ .nWantClose
  wantLeave : t.sendLocalDoneNext ≠ .nWantLeave

section Steps

variable {t next : Driver}
variable (hturn : InTurn t)
include hturn

theorem InTurn.congr (hsame : SameControl t next) : InTurn next where
  overlap := hsame.overlap.trans hturn.overlap
  starting := by rw [hsame.kind, hsame.starting, hsame.isLocal]; exact hturn.starting
  waitConfirmLow := hsame.waitConfirmLow.trans hturn.waitConfirmLow
  wantClose := by rw [hsame.sendLocalDoneNext]; exact hturn.wantClose
  wantLeave := by rw [hsame.sendLocalDoneNext]; exact hturn.wantLeave

/-- A command that is sent when none is on its way. -/
theorem InTurn.command (hlocal : t.isLocal = false)
    (hstarting : t.kind = .emi1 → t.starting = false) {after : DoneNext}
    (hafter : after ≠ .nWantClose ∧ after ≠ .nWantLeave) (d : CArray) :
    InTurn (t.command after d) := by
  have hsent : t.command after d =
      { { t with sendLocalDoneNext := after }.call (.ifaceSendLocal d) with isLocal := true } := by
    rw [Driver.command, Driver.sendLocal, if_neg (by simp [hlocal])]
  rw [hsent]
  refine ⟨hturn.overlap, fun hkind htrue => ?_, hturn.waitConfirmLow, hafter.1, hafter.2⟩
  have hfalse := hstarting hkind
  exact absurd (htrue.symm.trans hfalse) (by decide)

theorem InTurn.stopped : InTurn t.stopped :=
  { hturn with }

theorem InTurn.errored_stopped : InTurn (t.call .errored).stopped :=
  (hturn.congr (sameControl_call _)).stopped

theorem InTurn.commonStarted (hlocal : t.isLocal = false)
    (hstarting : t.kind = .emi1 → t.starting = false) : InTurn t.commonStarted := by
  unfold Driver.commonStarted Driver.cmdEnterMonitor Driver.cmdOpen
  split <;> split
  · exact hturn.command hlocal hstarting (by decide) _
  · exact hturn.command hlocal hstarting (by decide) _
  · exact hturn.errored_stopped
  · exact hturn.command hlocal hstarting (by decide) _
  · exact hturn.command hlocal hstarting (by decide) _
  · exact hturn.congr (sameControl_call _)

theorem InTurn.stop (hone : OneAtATime t .stop) : InTurn t.stop := by
  unfold Driver.stop Driver.cmdLeaveMonitor Driver.cmdClose
  simp only [hturn.waitConfirmLow, Bool.false_eq_true, if_false]
  cases hkind : t.kind with
  | emi1 | emi2 =>
    obtain ⟨hlocal, hstarting⟩ := hone (by simp [hkind])
    split <;> exact hturn.command hlocal hstarting (by decide) _
  | cemi =>
    split
    · exact hturn.errored_stopped
    · exact hturn.stopped

/-- A completed command makes room for the next one. -/
theorem InTurn.sendLocalDoneCb (hlocal : t.isLocal = false)
    (hstarting : t.kind = .emi1 → t.starting = false) (success : Bool) :
    InTurn (t.sendLocalDoneCb success) := by
  unfold Driver.sendLocalDoneCb
  split
  · exact hturn.errored_stopped
  split
  · exact hturn.stopped
  · exact { hturn with starting := fun _ hfalse => absurd hfalse Bool.false_ne_true }
  · exact hturn.congr (sameControl_call _)
  · exact hturn.command hlocal hstarting (by decide) _
  · exact hturn.command hlocal hstarting (by decide) _
  · exact hturn.command hlocal hstarting (by decide) _
  · exact hturn.commonStarted hlocal hstarting
  · exact hturn

/-- Without a local command on its way, `send_Next` is an acknowledged reset or concerns
a frame. -/
theorem InTurn.doSendNext (hlocal : t.isLocal = false) : InTurn t.doSendNext := by
  have hreset : ∀ kind, t.kind = kind → kind ≠ .emi1 →
      InTurn { t with resetWait := false, resetTimer := false }.commonStarted := by
    intro kind hkind hne
    exact InTurn.commonStarted { hturn with } hlocal fun hemi1 =>
      absurd (hkind.symm.trans hemi1) hne
  unfold Driver.doSendNext
  split
  · rw [if_neg hturn.wantClose]
    exact hturn.congr sameControl_commonSendNext
  · next hkind =>
    rw [if_neg hturn.wantClose, if_neg hturn.wantLeave]
    split
    · exact hreset _ hkind (by decide)
    · exact hturn.congr sameControl_commonSendNext
  · next hkind =>
    split
    · exact hreset _ hkind (by decide)
    · exact hturn.congr sameControl_commonSendNext

/-- The command on its way is completed or times out. -/
theorem InTurn.completed (hlocal : t.isLocal = true) (success : Bool) :
    InTurn ({ t with isLocal := false }.sendLocalDoneCb success) := by
  have hidle : InTurn { t with isLocal := false } :=
    { hturn with starting := fun _ _ => rfl }
  refine hidle.sendLocalDoneCb rfl (fun hkind => ?_) success
  by_contra hstarting
  have hfalse := hturn.starting hkind (by simpa using hstarting)
  exact absurd (hlocal.symm.trans hfalse) (by decide)

theorem InTurn.step {event : Event} (hone : OneAtATime t event)
    (hstep : step t event = some next) : InTurn next := by
  rw [LowLevel.step.eq_def] at hstep
  split at hstep
  · cases hstep
  cases event with
  | start =>
    cases hstep
    exact { hturn with starting := fun hkind _ => hone hkind }
  | stop =>
    cases hstep
    exact hturn.stop hone
  | sendLData l =>
    cases hstep
    exact hturn.congr (sameControl_sendLData l)
  | started =>
    cases hstep
    have hanswered : InTurn { t with starting := false } :=
      { hturn with starting := fun _ hfalse => absurd hfalse Bool.false_ne_true }
    unfold Driver.started
    split
    · next hkind => exact hanswered.commonStarted (hturn.starting hkind (hone hkind)) fun _ => rfl
    · exact { hturn with starting := hanswered.starting }
    · exact { hturn with starting := hanswered.starting }
  | stopped =>
    cases hstep
    exact { hturn with starting := fun _ hfalse => absurd hfalse Bool.false_ne_true }
  | errored =>
    cases hstep
    exact hturn.congr (sameControl_call _)
  | sendNext =>
    cases hstep
    unfold Driver.sendNext
    split
    · next hlocal => exact hturn.completed hlocal true
    · next hlocal => exact hturn.doSendNext (by simpa using hlocal)
  | recvData c =>
    cases hstep
    exact hturn.congr (sameControl_recvData c)
  | localTimeout =>
    obtain ⟨hlocal, ⟨⟩⟩ := ite_none_right_eq_some.1 hstep
    exact hturn.completed hlocal false
  | resetTimer =>
    obtain ⟨-, ⟨⟩⟩ := ite_none_right_eq_some.1 hstep
    exact hturn.congr sameControl_resetTimerCb
  | timeout =>
    obtain ⟨-, ⟨⟩⟩ := ite_none_right_eq_some.1 hstep
    exact hturn.congr sameControl_timeoutCb

end Steps

/-- In every run in which `stop` waits for unanswered local commands, no `send_Local` is
called while another one is outstanding. -/
theorem sendLocal_never_overlaps {kind : Kind} {monitor : Bool} {maxRetries : ℤ}
    {stackBytes : CArray} {t : Driver}
    (hpath : Path step OneAtATime { kind, monitor, maxRetries, stackBytes } t) :
    t.overlap = false := by
  have hturn := hpath.invariant InTurn
    ⟨rfl, fun _ hfalse => absurd hfalse Bool.false_ne_true, rfl, by simp, by simp⟩
    fun _ _ _ hturn hone hstep => hturn.step hone hstep
  exact hturn.overlap

/-- An EMI2 device is opened and closed. -/
theorem sendLocal_never_overlaps_emi2 : ∃ t, Transition.runAllowed step OneAtATime { kind := .emi2 }
      [.start, .started, .sendNext, .sendNext, .sendNext, .stop, .sendNext, .stopped] = some t ∧
    t.down = true ∧ t.overlap = false :=
  Transition.exists_state (by decide) fun _ ht hdown =>
    ⟨hdown, sendLocal_never_overlaps (Transition.path_of_runAllowed ht)⟩

/-- `stop` comes while the first opening command is unanswered. -/
theorem sendLocal_overlaps :
    (∃ t, Transition.run step { kind := .emi1 } [.start, .started, .stop] = some t ∧
      t.overlap = true ∧ t.fault = some .assertion) ∧
    ∃ t, Transition.run step { kind := .emi2 } [.start, .started, .sendNext, .stop] = some t ∧
      t.overlap = true ∧ t.fault = some .assertion := by
  refine ⟨⟨_, rfl, ?_⟩, ⟨_, rfl, ?_⟩⟩ <;> decide

end Knxd.LocalCommands
