import Knxd.LowLevel.FT12

/-!
# Acknowledged frames on an FT1.2 link

Two promises of an acknowledged link are looked at here.  In the direction of the device,
a frame that waits for its acknowledgement is sent again when a timer expires; the timer
for this, `sendtimer`, is never started.  In the other direction, a frame that was
acknowledged was delivered, or is a repetition of the one delivered before; a frame that
carries the number of the one before, but another payload, is acknowledged and dropped.
-/

namespace Knxd.FT12

open Memory FT12wrap Option
open Transition (Path anyEvent exists_path_of)

/-- The frame at the head of the receive buffer, in a step that treats it. -/
def headFrame (t : FT12wrap) : Event → Option Frame
  | .resume =>
    match t.stack with
    | .loop _ :: _ =>
      if t.akt ≠ [] ∧ t.nextFree then
        match examine t.akt with
        | .ok (.frame frame _) => some frame
        | _ => none
      else none
    | _ => none
  | _ => none

/-- `trigger_cb` has transmitted a frame and goes on. -/
def Transmits (t : FT12wrap) (event : Event) : Prop :=
  event = .resume ∧ t.stack.head? = some .transmitted
  deriving Decidable

def Call.concernsFrame : Call → Bool
  | .answer (some _) | .recvFrame _ => true
  | _ => false

open Call (concernsFrame)

def frameCalls (recvflag : Bool) (frame : Frame) : List Call :=
  if frame.control = FT12wrap.expected recvflag then [.recvFrame frame, .answer (some frame)]
  else [.answer (some frame)]

/-- Nothing begins to wait, no timer is started for it, and no frame is treated. -/
structure Calm (t next : FT12wrap) : Prop where
  sendWait : next.sendWait → t.sendWait
  sendtimer : next.sendtimer → t.sendtimer
  log : ∃ calls, next.log = calls ++ t.log ∧ ∀ c ∈ calls, c.concernsFrame = false

inductive Moves (t : FT12wrap) (event : Event) (next : FT12wrap) : Prop
  | calm : headFrame t event = none → ¬ Transmits t event → Calm t next → Moves t event next
  | frame {frame : Frame} :
      headFrame t event = some frame → ¬ Transmits t event → next.sendWait = t.sendWait →
      next.sendtimer = t.sendtimer → next.log = frameCalls t.recvflag frame ++ t.log →
      Moves t event next
  | sent :
      headFrame t event = none → Transmits t event → next.sendWait → next.sendtimer = t.sendtimer →
      next.log = t.log → Moves t event next

variable {t next : FT12wrap}

theorem calm_of_fields (hsendWait : next.sendWait → t.sendWait)
    (hsendtimer : next.sendtimer → t.sendtimer) (hlog : next.log = t.log) : Calm t next :=
  ⟨hsendWait, hsendtimer, [], hlog, by simp⟩

theorem calm_processRead (isTimeout : Bool) : Calm t (t.processRead isTimeout) := by
  unfold processRead
  split
  · exact calm_of_fields id id rfl
  · exact calm_of_fields id id rfl

theorem calm_doSendLocal (l : CArray) (raw : Bool) : Calm t (t.doSendLocal l raw) := by
  unfold doSendLocal
  cases raw <;> (dsimp only; repeat' split) <;> exact calm_of_fields id id rfl

theorem calm_triggerCb : Calm t t.triggerCb := by
  unfold triggerCb
  split
  · exact calm_of_fields id id rfl
  split
  · exact calm_of_fields id id rfl
  · exact ⟨id, id, [.transmit t.out], rfl, by simp [concernsFrame]⟩

theorem calm_sendNextTail : Calm t t.sendNextTail := by
  unfold sendNextTail
  split
  · exact calm_of_fields (by simp [sendTrigger]) id rfl
  · exact calm_of_fields id id rfl

theorem calm_doSendNext : Calm t t.doSendNext := by
  unfold doSendNext
  dsimp only
  split
  · obtain ⟨hsendWait, hsendtimer, hlog⟩ := calm_sendNextTail (t := { t with nextFree := true })
    exact ⟨hsendWait, hsendtimer, hlog⟩
  · obtain ⟨hsendWait, hsendtimer, hlog⟩ :=
      calm_processRead (t := { t with nextFree := true, stack := .sendNextTail :: t.stack }) false
    exact ⟨hsendWait, hsendtimer, hlog⟩

theorem calm_onFixed (control : Byte) : Calm t (t.onFixed control) := by
  unfold onFixed
  dsimp only
  repeat' split
  · exact ⟨id, id, [.recvReset, .answer none], rfl, by simp [concernsFrame]⟩
  · exact ⟨id, id, [.recvReset, .answer none], rfl, by simp [concernsFrame]⟩
  · exact ⟨id, id, [.answer none], rfl, by simp [concernsFrame]⟩
  · exact ⟨id, id, [.answer none], rfl, by simp [concernsFrame]⟩

/-- The two numbers are different. -/
theorem repeated_ne_expected (recvflag : Bool) :
    FT12wrap.repeated recvflag ≠ expected recvflag := by
  cases recvflag <;> decide

theorem onFrame_spec (t : FT12wrap) (frame : Frame) :
    (t.onFrame frame).sendWait = t.sendWait ∧ (t.onFrame frame).sendtimer = t.sendtimer ∧
      (t.onFrame frame).log = frameCalls t.recvflag frame ++ t.log := by
  unfold onFrame frameCalls
  by_cases hexpected : frame.control = expected t.recvflag
  · have hnew : frame.control ≠ repeated t.recvflag := by
      rw [hexpected]
      exact (repeated_ne_expected t.recvflag).symm
    simp only [if_pos hexpected, if_neg hnew]
    exact ⟨rfl, rfl, rfl⟩
  · simp only [if_neg hexpected]
    split
    · split <;> exact ⟨rfl, rfl, rfl⟩
    · exact ⟨rfl, rfl, rfl⟩

/-- A pass of the loop. -/
theorem moves_readLoop {isTimeout : Bool} {rest : List Pending}
    (hstack : t.stack = .loop isTimeout :: rest) :
    Moves t .resume ({ t with stack := rest }.readLoop isTimeout) := by
  have hsent : ¬ Transmits t .resume := by
    simp [Transmits, hstack]
  unfold readLoop
  dsimp only
  split
  · next hready =>
    split
    · next fault hexamine =>
      exact .calm (by simp [headFrame, hstack, hready, hexamine]) hsent (calm_of_fields id id rfl)
    · next verdict hexamine =>
      have hhead : headFrame t .resume = (match verdict with
          | .frame frame _ => some frame
          | _ => none) := by
        cases verdict <;> simp [headFrame, hstack, hready, hexamine]
      cases verdict with
      | incomplete | drop => exact .calm hhead hsent (calm_of_fields id id rfl)
      | acknowledgement =>
        refine .calm hhead hsent ?_
        unfold treat
        dsimp only
        split
        · exact ⟨by simp [frameArrived, call, push], by simp [frameArrived, call, push],
            [.sendNext], rfl, by simp [concernsFrame]⟩
        · exact calm_of_fields id id rfl
      | fixed control =>
        obtain ⟨hsendWait, hsendtimer, hlog⟩ := calm_onFixed
          (t := { t with stack := .remove 4 isTimeout :: rest }) control
        exact .calm hhead hsent ⟨hsendWait, hsendtimer, hlog⟩
      | frame frame length =>
        obtain ⟨hsendWait, hsendtimer, hlog⟩ := onFrame_spec
          { t with stack := .remove length isTimeout :: rest } frame
        exact .frame hhead hsent hsendWait hsendtimer hlog
      | broken =>
        refine .calm hhead hsent ?_
        unfold treat
        dsimp only
        split <;> exact calm_of_fields id id rfl
  · next hidle =>
    refine .calm ?_ hsent (calm_of_fields id id rfl)
    simp [headFrame, hstack, hidle]

/-- The function on top of the stack goes on. -/
theorem moves_resume {pending : Pending} {rest : List Pending}
    (hstack : t.stack = pending :: rest) :
    Moves t .resume ({ t with stack := rest }.resume pending) := by
  cases pending with
  | loop => exact moves_readLoop hstack
  | acknowledged | remove =>
    exact .calm (by simp [headFrame, hstack]) (by simp [Transmits, hstack])
      (calm_of_fields id id rfl)
  | sendNextTail =>
    obtain ⟨hsendWait, hsendtimer, hlog⟩ := calm_sendNextTail (t := { t with stack := rest })
    exact .calm (by simp [headFrame, hstack]) (by simp [Transmits, hstack])
      ⟨hsendWait, hsendtimer, hlog⟩
  | transmitted => exact .sent (by simp [headFrame, hstack]) ⟨rfl, by simp [hstack]⟩ rfl rfl rfl

/-- Every other event treats no frame and transmits none. -/
theorem Moves.of_calm {event : Event} (hother : event ≠ .resume) (hcalm : Calm t next) :
    Moves t event next := by
  refine .calm ?_ (fun hsent => hother hsent.1) hcalm
  cases event with
  | resume => exact absurd rfl hother
  | _ => rfl

/-- Inversion of `step`. -/
theorem moves_of_step {event : Event} (hstep : step t event = some next) : Moves t event next := by
  rw [step.eq_def] at hstep
  obtain ⟨-, hstep⟩ := ite_none_left_eq_some.1 hstep
  cases event with
  | resume =>
    cases hstack : t.stack with
    | nil =>
      rw [hstack] at hstep
      cases hstep
    | cons =>
      rw [hstack] at hstep
      cases hstep
      exact moves_resume hstack
  | start =>
    obtain ⟨-, rfl⟩ := ite_some_none_eq_some.1 hstep
    exact .of_calm (by simp) ⟨by simp [start, call], id, [.ifaceStart], rfl,
      by simp [concernsFrame]⟩
  | stop =>
    obtain ⟨-, rfl⟩ := ite_some_none_eq_some.1 hstep
    exact .of_calm (by simp) ⟨id, by simp [stop, call], [.ifaceStop], rfl, by simp [concernsFrame]⟩
  | sendData l =>
    obtain ⟨-, rfl⟩ := ite_some_none_eq_some.1 hstep
    exact .of_calm (by simp) (calm_doSendLocal l false)
  | sendReset =>
    obtain ⟨-, rfl⟩ := ite_some_none_eq_some.1 hstep
    exact .of_calm (by simp) (calm_doSendLocal _ true)
  | sendLocal l raw =>
    obtain ⟨-, rfl⟩ := ite_some_none_eq_some.1 hstep
    exact .of_calm (by simp) (calm_doSendLocal l raw)
  | sendNext =>
    obtain ⟨-, rfl⟩ := ite_some_none_eq_some.1 hstep
    exact .of_calm (by simp) calm_doSendNext
  | recvData c =>
    obtain ⟨-, rfl⟩ := ite_some_none_eq_some.1 hstep
    obtain ⟨hsendWait, hsendtimer, hlog⟩ :=
      calm_processRead (t := { t with akt := t.akt ++ c }) false
    exact .of_calm (by simp) ⟨hsendWait, hsendtimer, hlog⟩
  | timer =>
    obtain ⟨-, rfl⟩ := ite_some_none_eq_some.1 hstep
    obtain ⟨hsendWait, hsendtimer, hlog⟩ := calm_processRead (t := { t with timer := false }) true
    exact .of_calm (by simp) ⟨hsendWait, hsendtimer, hlog⟩
  | sendtimer =>
    obtain ⟨-, rfl⟩ := ite_some_none_eq_some.1 hstep
    refine .of_calm (by simp) (calm_of_fields ?_ ?_ rfl)
    · simp [sendtimerCb, sendTrigger]
    · simp [sendtimerCb, sendTrigger]
  | trigger =>
    obtain ⟨-, rfl⟩ := ite_some_none_eq_some.1 hstep
    obtain ⟨hsendWait, hsendtimer, hlog⟩ := calm_triggerCb (t := { t with trigger := false })
    exact .of_calm (by simp) ⟨hsendWait, hsendtimer, hlog⟩

/-- A frame that waits for its acknowledgement is sent again when `sendtimer` expires. -/
def Retransmits (t : FT12wrap) : Prop :=
  t.sendWait → t.sendtimer

variable {t next : FT12wrap} {event : Event}

/-- No step starts `sendtimer`. -/
theorem sendtimer_step (hstep : step t event = some next) (hstopped : t.sendtimer = false) :
    next.sendtimer = false := by
  cases moves_of_step hstep with
  | calm _ _ hcalm =>
    by_contra hstarted
    have hsendtimer := hcalm.sendtimer (by simpa using hstarted)
    simp [hstopped] at hsendtimer
  | frame _ _ _ hsendtimer | sent _ _ _ hsendtimer => exact hsendtimer.trans hstopped

/-- Nothing waits for an acknowledgement, and `sendtimer` is stopped. -/
def NothingSent (t : FT12wrap) : Prop :=
  t.sendWait = false ∧ t.sendtimer = false

theorem NothingSent.step (hquiet : NothingSent t) (hsilent : ¬ Transmits t event)
    (hstep : step t event = some next) : NothingSent next := by
  obtain ⟨hsendWait, hsendtimer⟩ := hquiet
  refine ⟨?_, sendtimer_step hstep hsendtimer⟩
  cases moves_of_step hstep with
  | calm _ _ hcalm =>
    by_contra hwaits
    have hbefore := hcalm.sendWait (by simpa using hwaits)
    simp [hsendWait] at hbefore
  | frame _ _ hkept => exact hkept.trans hsendWait
  | sent _ hsent => exact absurd hsent hsilent

theorem NothingSent.retransmits (hquiet : NothingSent t) : Retransmits t := by
  intro hwaits
  simp [hquiet.1] at hwaits

/-- A transmitted frame waits, and no timer runs for it. -/
theorem not_retransmits_of_transmits (hstep : step t event = some next)
    (hstopped : t.sendtimer = false) (hsent : Transmits t event) : ¬ Retransmits next := by
  intro hretransmits
  cases moves_of_step hstep with
  | calm _ hsilent | frame _ hsilent => exact hsilent hsent
  | sent _ _ hwaits =>
    have hrunning := hretransmits hwaits
    simp [sendtimer_step hstep hstopped] at hrunning

/-- The timer runs for every frame that waits for its acknowledgement as long as no frame was
transmitted, and no longer: the first frame waits without it. -/
theorem retransmits_iff {t : FT12wrap}
    (hpath : Path step (fun state event => ¬ Transmits state event) boot t) :
    Retransmits t ∧ ∀ event next, step t event = some next →
      (Retransmits next ↔ ¬ Transmits t event) := by
  refine hpath.invariant_iff NothingSent Retransmits ⟨rfl, rfl⟩ ?_ ?_ ?_
  · exact fun _ _ _ hquiet hsilent hstep => hquiet.step hsilent hstep
  · exact fun _ hquiet => hquiet.retransmits
  · intro state event next hquiet hstep hretransmits hsent
    exact not_retransmits_of_transmits hstep hquiet.2 hsent hretransmits

/-- A received frame is acknowledged, and nothing waits. -/
theorem retransmits_received : ∃ t : FT12wrap,
    Path step (fun state event => ¬ Transmits state event) boot t ∧
      .answer (some ⟨0xF3, [1]⟩) ∈ t.log ∧ Retransmits t :=
  exists_path_of [.recvData [0x68, 2, 2, 0x68, 0xF3, 1, 0xF4, 0x16], .resume, .resume]
    (by decide +kernel) fun _ hpath hlog => ⟨hlog, (retransmits_iff hpath).1⟩

/-- A message is packed and transmitted: it waits, and nothing will send it again. -/
theorem transmitted_without_timer : ∃ t : FT12wrap, Path step anyEvent boot t ∧
    t.out = [0x68, 2, 2, 0x68, 0x73, 1, 0x74, 0x16] ∧ t.sendWait ∧ ¬ Retransmits t :=
  exists_path_of (D := fun t => t.out = [0x68, 2, 2, 0x68, 0x73, 1, 0x74, 0x16] ∧ t.sendWait ∧
      ¬ t.sendtimer) [.sendData [1], .trigger, .resume] (by decide +kernel) fun _ _ hfields =>
    ⟨hfields.1, hfields.2.1, fun hretransmits => hfields.2.2 (hretransmits hfields.2.1)⟩

/-- The frame that was delivered last, in the calls made, newest first. -/
def lastDelivered : List Call → Option Frame
  | [] => none
  | .recvFrame frame :: _ => some frame
  | _ :: older => lastDelivered older

/-- Every data frame that was answered was delivered next, and once, or is the frame that had been
delivered last. -/
def NoneLost : List Call → Prop
  | [] => True
  | .recvFrame frame :: .answer (some answered) :: older => answered = frame ∧ NoneLost older
  | .recvFrame _ :: _ => False
  | .answer (some frame) :: older =>
    (frame.isData → lastDelivered older = some frame) ∧ NoneLost older
  | _ :: older => NoneLost older

/-- A data frame that is treated is the next one or repeats the last one. -/
def InSequence (t : FT12wrap) (event : Event) : Prop :=
  ∀ frame ∈ headFrame t event, frame.isData →
    frame.control = FT12wrap.expected t.recvflag ∨ lastDelivered t.log = some frame
  deriving Decidable

theorem noneLost_append {calls older : List Call} (hcalls : ∀ c ∈ calls, c.concernsFrame = false) :
    NoneLost (calls ++ older) ↔ NoneLost older := by
  induction calls with
  | nil => rfl
  | cons c _ ih =>
    have hc := hcalls c List.mem_cons_self
    rw [List.cons_append, ← ih fun later hlater => hcalls later (List.mem_cons_of_mem _ hlater)]
    cases c with
    | answer frame =>
      cases frame with
      | none => rfl
      | some => simp [concernsFrame] at hc
    | recvFrame => simp [concernsFrame] at hc
    | recvReset | sendNext | transmit | ifaceStart | ifaceStop => rfl

/-- A treated frame is lost if it is neither the expected one nor the one delivered last. -/
theorem noneLost_frameCalls {recvflag : Bool} {frame : Frame} {older : List Call}
    (holder : NoneLost older) :
    NoneLost (frameCalls recvflag frame ++ older) ↔
      (frame.isData → frame.control = expected recvflag ∨ lastDelivered older = some frame) := by
  unfold frameCalls
  split
  · next hexpected => simp [NoneLost, holder, hexpected]
  · next hother => simp [NoneLost, holder, hother]

/-- One step keeps the promise exactly if the frame that it treats is in sequence. -/
theorem noneLost_step (hkept : NoneLost t.log) (hstep : step t event = some next) :
    NoneLost next.log ↔ InSequence t event := by
  cases moves_of_step hstep with
  | calm hhead _ hcalm =>
    obtain ⟨_, hlog, hcalls⟩ := hcalm.log
    rw [hlog, noneLost_append hcalls]
    simp [InSequence, hhead, hkept]
  | frame hhead _ _ _ hlog =>
    rw [hlog, noneLost_frameCalls hkept]
    simp [InSequence, hhead]
  | sent hhead _ _ _ hlog => simp [InSequence, hhead, hlog, hkept]

/-- No acknowledged frame is lost in a run whose frames are all in sequence; the first one that is
not is lost. -/
theorem acknowledged_not_lost {t : FT12wrap} (hpath : Path step InSequence boot t) :
    NoneLost t.log ∧ ∀ event next, step t event = some next →
      (NoneLost next.log ↔ InSequence t event) := by
  refine hpath.invariant_iff (fun state : FT12wrap => NoneLost state.log)
    (fun state : FT12wrap => NoneLost state.log) trivial ?_ (fun _ => id) ?_
  · exact fun _ _ _ hkept hallowed hstep => (noneLost_step hkept hstep).2 hallowed
  · exact fun _ _ _ hkept hstep => (noneLost_step hkept hstep).1

/-- A frame arrives twice and is delivered once. -/
theorem acknowledged_not_lost_repeated : ∃ t : FT12wrap, Path step InSequence boot t ∧
    t.log = [.answer (some ⟨0xF3, [1]⟩), .recvFrame ⟨0xF3, [1]⟩, .answer (some ⟨0xF3, [1]⟩),
      .ifaceStart] ∧ NoneLost t.log :=
  exists_path_of [.recvData [0x68, 2, 2, 0x68, 0xF3, 1, 0xF4, 0x16], .resume, .resume, .resume,
      .recvData [0x68, 2, 2, 0x68, 0xF3, 1, 0xF4, 0x16], .resume, .resume] (by decide +kernel)
    fun _ hpath hlog => ⟨hlog, (acknowledged_not_lost hpath).1⟩

/-- The second frame has the number of the first one and another payload: it is acknowledged, and
it is not delivered. -/
theorem sequence_jump_lost : ∃ t : FT12wrap, Path step anyEvent boot t ∧
    t.log = [.answer (some ⟨0xF3, [2]⟩), .recvFrame ⟨0xF3, [1]⟩, .answer (some ⟨0xF3, [1]⟩),
      .ifaceStart] ∧ ¬ NoneLost t.log := by
  refine exists_path_of [.recvData [0x68, 2, 2, 0x68, 0xF3, 1, 0xF4, 0x16], .resume, .resume,
      .resume, .recvData [0x68, 2, 2, 0x68, 0xF3, 2, 0xF5, 0x16], .resume, .resume]
    (by decide +kernel) fun t _ hlog => ⟨hlog, ?_⟩
  rw [hlog]
  rintro ⟨hrepeated, -⟩
  exact absurd (hrepeated (.inr rfl)) (by decide)

end Knxd.FT12
