import Knxd.Routing.Traffic

/-!
# The router's queue

Accepted frames wait in `buf` until `trigger_cb` passes them to the router's low end, one at a
time: `low_send_more` is cleared for each and set again by `send_Next`.  What is below the low end,
a chain of filters and then the links, is left open here.  It may answer with `send_Next` before
`send_L_Data` has returned, or later from the event loop, and it may do so at any time; frames
arrive and the flags of the state machine change meanwhile.

Each pass of the loop of `trigger_cb` is a step, and so is the return from the call in it.  Beside
the router's fields the state holds the frames that were queued, what became of each, the time of
the clock when it was read last, and the number of frames that were passed down without an answer.
-/

namespace Knxd.Dispatch

open Memory LPDU Traffic Option BitVec
open Transition (Path anyEvent exists_path_of)

/-- The settings of the router that `trigger_cb` reads. -/
structure Config where
  addr : Addr := 0
  forceBroadcast : Bool := false

/-- Where `trigger_cb` is. -/
inductive Phase
  | idle
  | loop
  /-- In the call of `r_low->send_L_Data`. -/
  | below
  deriving DecidableEq, Repr

/-- What became of a frame: when it was taken from the queue, and what was passed down for it. -/
structure Fate where
  frame : LDataPDU
  time : ℕ
  sent : Option LDataPDU
  deriving DecidableEq, Repr

/-- The router as `trigger_cb` sees it; `fates` has the newest first. -/
structure Dispatcher where
  wantUp : Bool := false
  someRunning : Bool := false
  allRunning : Bool := false
  runningSignal : Bool := false
  lowSendMore : Bool := false
  buf : List LDataPDU := []
  ignore : List IgnoreInfo := []
  /-- `trigger` was sent and its callback has not run yet. -/
  trigger : Bool := false
  phase : Phase := .idle
  queued : List LDataPDU := []
  fates : List Fate := []
  clock : ℕ := 0
  outstanding : ℕ := 0
  deriving DecidableEq, Repr

namespace Dispatcher

def queueLData (t : Dispatcher) (l : LDataPDU) : Dispatcher :=
  if t.someRunning || t.wantUp then
    { t with
      buf := t.buf ++ [l]
      trigger := t.trigger || t.runningSignal
      queued := t.queued ++ [l] }
  else t

/-- `RouterLow::send_Next`, an answer to the frame passed down last. -/
def sendNext (t : Dispatcher) : Dispatcher :=
  { t with lowSendMore := true, trigger := true, outstanding := t.outstanding - 1 }

def started (t : Dispatcher) : Dispatcher :=
  { t with
    lowSendMore := true
    trigger := true
    runningSignal := t.runningSignal || t.allRunning }

def take (t : Dispatcher) (buf : List LDataPDU) (fate : Fate) (ignore : List IgnoreInfo) :
    Dispatcher :=
  { t with buf, ignore, fates := fate :: t.fates, clock := fate.time }

/-- A pass of the loop of `trigger_cb`. -/
def pass (cfg : Config) (t : Dispatcher) (now : ℕ) : Option Dispatcher :=
  match t.buf with
  | [] => none
  | l :: rest =>
    match triggerFrame cfg.forceBroadcast cfg.addr now t.ignore l with
    | .error _ => none
    | .ok (none, ignore) => some (t.take rest ⟨l, now, none⟩ ignore)
    | .ok (some sent, ignore) =>
      some { t.take rest ⟨l, now, some sent⟩ ignore with
        lowSendMore := false, phase := .below, outstanding := t.outstanding + 1 }

/-- The end of `trigger_cb`. -/
def leave (t : Dispatcher) (now : ℕ) : Dispatcher :=
  { t with ignore := expire now t.ignore, clock := now, phase := .idle }

end Dispatcher

open Dispatcher

inductive Event
  | flags (wantUp someRunning allRunning : Bool)
  | started
  | queue (l : LDataPDU)
  | sendNext
  /-- The event loop calls `trigger_cb`. -/
  | trigger
  | pass (now : ℕ)
  | ret
  | leave (now : ℕ)
  deriving DecidableEq, Repr

/-- One step; none if the event cannot happen or ends the process. -/
def step (cfg : Config) (t : Dispatcher) : Event → Option Dispatcher
  | .flags wantUp someRunning allRunning =>
    if t.phase ≠ .loop then some { t with wantUp, someRunning, allRunning } else none
  | .started => if t.phase ≠ .loop then some t.started else none
  | .queue l => if t.phase ≠ .loop then some (t.queueLData l) else none
  | .sendNext => if t.phase ≠ .loop then some t.sendNext else none
  | .trigger =>
    if t.phase = .idle ∧ t.trigger then some { t with trigger := false, phase := .loop }
    else none
  | .pass now => if t.phase = .loop ∧ t.lowSendMore then t.pass cfg now else none
  | .ret => if t.phase = .below then some { t with phase := .loop } else none
  | .leave now =>
    if t.phase = .loop ∧ (t.buf = [] ∨ t.lowSendMore = false) then some (t.leave now) else none

def boot : Dispatcher := {}

/-- Frames that are equal apart from the repeat flag, and from what was noted about the checksum and
the length when they were read. -/
def SameFrame (l l' : LDataPDU) : Prop :=
  { l with
    repeated := l'.repeated, validChecksum := l'.validChecksum
    validLength := l'.validLength } = l'
  deriving Decidable

def remembered (cfg : Config) (l : LDataPDU) : Run CArray :=
  { l with hopcount := decreased cfg.forceBroadcast l.hopcount, repeated := true }.toPacket

section Pass

variable {cfg : Config} {ignore ignored : List IgnoreInfo} {now : ℕ} {l : LDataPDU}

/-- The hop counts of frames that go on stay apart. -/
theorem decreased_injective {forceBroadcast : Bool} {left right : Byte} (hleft : left ≠ 0)
    (hright : right ≠ 0) (hequal : decreased forceBroadcast left = decreased forceBroadcast right) :
    left = right := by
  have hpos : ∀ hopcount : Byte, hopcount ≠ 0 → (hopcount - 1).toNat = hopcount.toNat - 1 := by
    decide
  have hleftPos : left.toNat ≠ 0 := fun hzero => hleft (eq_of_toNat_eq hzero)
  have hrightPos : right.toNat ≠ 0 := fun hzero => hright (eq_of_toNat_eq hzero)
  have hnat := congrArg BitVec.toNat hequal
  unfold decreased at hnat
  apply eq_of_toNat_eq
  split at hnat <;> split at hnat
  · rw [hpos left hleft, hpos right hright] at hnat
    omega
  · rw [hpos left hleft] at hnat
    grind
  · rw [hpos right hright] at hnat
    grind
  · exact hnat

/-- Two frames that go on have the same bytes exactly if they are the same. -/
theorem remembered_eq_iff {l' : LDataPDU} {data : CArray} (hhop : l.hopcount ≠ 0)
    (hhop' : l'.hopcount ≠ 0) (hdata : remembered cfg l = .ok data) :
    remembered cfg l' = .ok data ↔ SameFrame l l' := by
  rw [remembered, toPacket_eq_iff hdata, decodedForm_eq_iff, SameFrame]
  obtain ⟨_, _, _, _, _, _, _, hopcount, _⟩ := l
  obtain ⟨_, _, _, _, _, _, _, hopcount', _⟩ := l'
  have hdecreased : decreased cfg.forceBroadcast hopcount =
      decreased cfg.forceBroadcast hopcount' ↔ hopcount = hopcount' :=
    ⟨decreased_injective hhop hhop', fun hequal => by rw [hequal]⟩
  simp [hdecreased]

theorem isRepetition_eq_ok {seen : Bool}
    (hseen : isRepetition ignore { l with hopcount := decreased cfg.forceBroadcast l.hopcount } =
      .ok seen) : seen = true ↔ l.repeated ∧ ∃ info ∈ ignore, remembered cfg l = .ok info.data := by
  unfold isRepetition at hseen
  cases hrepeated : l.repeated with
  | false =>
    simp only [hrepeated, Bool.false_eq_true, if_false] at hseen
    cases hseen
    simp
  | true =>
    simp only [hrepeated, if_true] at hseen
    obtain ⟨data, hdata, hany⟩ := bind_eq_ok_iff.1 hseen
    have hsame : remembered cfg l = .ok data := hdata
    cases hany
    simp only [hsame, List.any_eq_true, beq_iff_eq, Except.ok.injEq, eq_comm (a := data), true_and]

/-- A frame is skipped because of its hop count or because its bytes are remembered. -/
theorem triggerFrame_none (hnone : triggerFrame cfg.forceBroadcast cfg.addr now ignore l =
      .ok (none, ignored)) :
    ignored = ignore ∧ (l.hopcount = 0 ∨ l.hopcount ≠ 0 ∧ l.repeated ∧
      ∃ info ∈ ignore, remembered cfg l = .ok info.data) := by
  unfold triggerFrame at hnone
  split at hnone
  · next hzero =>
    cases hnone
    exact ⟨rfl, .inl hzero⟩
  · next hhop =>
    obtain ⟨_, hseen, hrest⟩ := bind_eq_ok_iff.1 hnone
    split at hrest
    · next hrepetition =>
      cases hrest
      exact ⟨rfl, .inr ⟨hhop, (isRepetition_eq_ok hseen).1 hrepetition⟩⟩
    · obtain ⟨_, -, hdone⟩ := bind_eq_ok_iff.1 hrest
      cases hdone

/-- A frame that is passed down is remembered; it was not before, if it is a repetition. -/
theorem triggerFrame_some {sent : LDataPDU}
    (hsome : triggerFrame cfg.forceBroadcast cfg.addr now ignore l = .ok (some sent, ignored)) :
    l.hopcount ≠ 0 ∧ ∃ data, remembered cfg l = .ok data ∧
      ignored = ignore ++ [⟨data, now + 1000000⟩] ∧
      (l.repeated → ∀ info ∈ ignore, remembered cfg l ≠ .ok info.data) := by
  unfold triggerFrame at hsome
  split at hsome
  · cases hsome
  · next hhop =>
    obtain ⟨_, hseen, hrest⟩ := bind_eq_ok_iff.1 hsome
    split at hrest
    · cases hrest
    · next hnew =>
      obtain ⟨data, hdata, hdone⟩ := bind_eq_ok_iff.1 hrest
      cases hdone
      refine ⟨hhop, data, hdata, rfl, fun hrepeated info hinfo hsame => ?_⟩
      exact hnew ((isRepetition_eq_ok hseen).2 ⟨hrepeated, info, hinfo, hsame⟩)

end Pass

/-- The frame that is passed down for a queued one. -/
def passedDown (cfg : Config) (l : LDataPDU) : LDataPDU :=
  { l with
    hopcount := decreased cfg.forceBroadcast l.hopcount
    repeated := false
    dest := if l.addrType = .individualAddress ∧ l.dest = cfg.addr then 0 else l.dest }

/-- The steps, one case for each event that can happen, and two for a frame that arrives and for a
pass of the loop. -/
inductive Steps (cfg : Config) (t : Dispatcher) : Event → Dispatcher → Prop
  | flags {wantUp someRunning allRunning : Bool} : t.phase ≠ .loop →
      Steps cfg t (.flags wantUp someRunning allRunning) { t with wantUp, someRunning, allRunning }
  | started : t.phase ≠ .loop → Steps cfg t .started t.started
  | queue {l : LDataPDU} : t.phase ≠ .loop → Steps cfg t (.queue l)
        { t with
          buf := t.buf ++ [l]
          trigger := t.trigger || t.runningSignal
          queued := t.queued ++ [l] }
  | discard {l : LDataPDU} : t.phase ≠ .loop → Steps cfg t (.queue l) t
  | sendNext : t.phase ≠ .loop → Steps cfg t .sendNext t.sendNext
  | trigger : t.phase = .idle → t.trigger →
      Steps cfg t .trigger { t with trigger := false, phase := .loop }
  | skip {now : ℕ} {l : LDataPDU} {rest : List LDataPDU} : t.phase = .loop → t.buf = l :: rest →
      (l.hopcount = 0 ∨ l.hopcount ≠ 0 ∧ l.repeated ∧
        ∃ info ∈ t.ignore, remembered cfg l = .ok info.data) →
      Steps cfg t (.pass now) (t.take rest ⟨l, now, none⟩ t.ignore)
  | forward {now : ℕ} {l : LDataPDU} {rest : List LDataPDU} {data : CArray} :
      t.lowSendMore → t.buf = l :: rest → l.hopcount ≠ 0 → remembered cfg l = .ok data →
      (l.repeated → ∀ info ∈ t.ignore, remembered cfg l ≠ .ok info.data) →
      Steps cfg t (.pass now)
        { t.take rest ⟨l, now, some (passedDown cfg l)⟩ (t.ignore ++ [⟨data, now + 1000000⟩]) with
          lowSendMore := false, phase := .below, outstanding := t.outstanding + 1 }
  | ret : t.phase = .below → Steps cfg t .ret { t with phase := .loop }
  | leave {now : ℕ} : t.buf = [] ∨ t.lowSendMore = false → Steps cfg t (.leave now) (t.leave now)

/-- Inversion of `step`. -/
theorem steps_of_step {cfg : Config} {t next : Dispatcher} {event : Event}
    (hstep : step cfg t event = some next) : Steps cfg t event next := by
  cases event with
  | flags =>
    obtain ⟨hphase, rfl⟩ := ite_some_none_eq_some.1 hstep
    exact .flags hphase
  | started =>
    obtain ⟨hphase, rfl⟩ := ite_some_none_eq_some.1 hstep
    exact .started hphase
  | queue =>
    obtain ⟨hphase, rfl⟩ := ite_some_none_eq_some.1 hstep
    unfold queueLData
    split
    · exact .queue hphase
    · exact .discard hphase
  | sendNext =>
    obtain ⟨hphase, rfl⟩ := ite_some_none_eq_some.1 hstep
    exact .sendNext hphase
  | trigger =>
    obtain ⟨⟨hphase, htrigger⟩, rfl⟩ := ite_some_none_eq_some.1 hstep
    exact .trigger hphase htrigger
  | pass =>
    rw [step] at hstep
    split at hstep
    case isFalse => cases hstep
    next hloop =>
    unfold Dispatcher.pass at hstep
    split at hstep
    · cases hstep
    next l rest hbuf =>
    split at hstep
    · cases hstep
    · next htrigger =>
      cases hstep
      obtain ⟨rfl, hreason⟩ := triggerFrame_none htrigger
      exact .skip hloop.1 hbuf hreason
    · next htrigger =>
      cases hstep
      obtain ⟨hhop, _, hdata, rfl, hnew⟩ := triggerFrame_some htrigger
      obtain ⟨-, rfl⟩ := eq_of_triggerFrame htrigger
      exact .forward hloop.2 hbuf hhop hdata hnew
  | ret =>
    obtain ⟨hphase, rfl⟩ := ite_some_none_eq_some.1 hstep
    exact .ret hphase
  | leave =>
    obtain ⟨⟨-, hdone⟩, rfl⟩ := ite_some_none_eq_some.1 hstep
    exact .leave hdone

/-- The frames that were taken from the queue, in the order in which they were taken. -/
def taken (fates : List Fate) : List LDataPDU :=
  (fates.map (·.frame)).reverse

/-- Every frame that was skipped had no hops left, or was a repetition of a frame that had been
passed down. -/
def SkipsJustified : List Fate → Prop
  | [] => True
  | fate :: older =>
    (fate.sent = none → fate.frame.hopcount = 0 ∨ fate.frame.repeated ∧
      ∃ earlier ∈ older, earlier.sent.isSome ∧ SameFrame earlier.frame fate.frame) ∧
    SkipsJustified older

structure Lawful (cfg : Config) (t : Dispatcher) : Prop where
  order : taken t.fates ++ t.buf = t.queued
  passed : ∀ fate ∈ t.fates, ∀ sent ∈ fate.sent, sent = passedDown cfg fate.frame
  skips : SkipsJustified t.fates
  credit : t.runningSignal →
    t.outstanding ≤ 1 ∧ (t.outstanding = 1 → t.lowSendMore = false)
  wakeup : t.runningSignal → t.buf ≠ [] → t.lowSendMore → t.trigger ∨ t.phase ≠ .idle

/-- All links are up for the first time, or once more, and no frame is below. -/
def StartsFree (t : Dispatcher) (event : Event) : Prop :=
  event = .started → (t.runningSignal ∨ t.allRunning) → t.outstanding = 0
  deriving Decidable

def Remembers (cfg : Config) (t : Dispatcher) : Prop :=
  ∀ info ∈ t.ignore, ∃ fate ∈ t.fates, fate.sent.isSome ∧ fate.frame.hopcount ≠ 0 ∧
    remembered cfg fate.frame = .ok info.data ∧ info.endTime = fate.time + 1000000

section Invariant

variable {cfg : Config} {t next : Dispatcher} {event : Event}

theorem mem_of_mem_expire {now : ℕ} {ignore : List IgnoreInfo} {info : IgnoreInfo}
    (hinfo : info ∈ expire now ignore) : info ∈ ignore := by
  unfold expire at hinfo
  split at hinfo
  · exact (List.dropWhile_sublist _).subset hinfo
  · exact hinfo

theorem Remembers.step (hremembers : Remembers cfg t) (hstep : step cfg t event = some next) :
    Remembers cfg next := by
  cases steps_of_step hstep with
  | flags | started | queue | discard | sendNext | trigger | ret => exact hremembers
  | skip =>
    intro info hinfo
    obtain ⟨fate, hfate, hrest⟩ := hremembers info hinfo
    exact ⟨fate, List.mem_cons_of_mem _ hfate, hrest⟩
  | forward _ _ hhop hdata =>
    intro info hinfo
    rcases List.mem_append.1 hinfo with hold | hnew
    · obtain ⟨fate, hfate, hrest⟩ := hremembers info hold
      exact ⟨fate, List.mem_cons_of_mem _ hfate, hrest⟩
    · obtain rfl := List.mem_singleton.1 hnew
      exact ⟨_, List.mem_cons_self, rfl, hhop, hdata, rfl⟩
  | leave => exact fun info hinfo => hremembers info (mem_of_mem_expire hinfo)

theorem order_step (horder : taken t.fates ++ t.buf = t.queued)
    (hstep : step cfg t event = some next) : taken next.fates ++ next.buf = next.queued := by
  cases steps_of_step hstep with
  | flags | started | discard | sendNext | trigger | ret | leave => exact horder
  | queue => simp [← horder]
  | skip _ hbuf | forward _ hbuf =>
    rw [hbuf] at horder
    simpa [taken, take] using horder

theorem passed_step
    (hpassed : ∀ fate ∈ t.fates, ∀ sent ∈ fate.sent, sent = passedDown cfg fate.frame)
    (hstep : step cfg t event = some next) :
    ∀ fate ∈ next.fates, ∀ sent ∈ fate.sent, sent = passedDown cfg fate.frame := by
  cases steps_of_step hstep with
  | flags | started | queue | discard | sendNext | trigger | ret | leave => exact hpassed
  | skip | forward =>
    intro fate hfate
    rcases List.mem_cons.1 hfate with rfl | hold
    · simp
    · exact hpassed fate hold

/-- A skipped frame had no hops left, or its bytes were remembered from a frame passed down. -/
theorem skips_step (hremembers : Remembers cfg t) (hskips : SkipsJustified t.fates)
    (hstep : step cfg t event = some next) : SkipsJustified next.fates := by
  cases steps_of_step hstep with
  | flags | started | queue | discard | sendNext | trigger | ret | leave => exact hskips
  | skip _ _ hreason =>
    refine ⟨fun _ => ?_, hskips⟩
    rcases hreason with hzero | ⟨hhop, hrepeated, info, hinfo, hdata⟩
    · exact .inl hzero
    · obtain ⟨fate, hfate, hsent, hfateHop, hfateData, -⟩ := hremembers info hinfo
      exact .inr ⟨hrepeated, fate, hfate, hsent,
        (remembered_eq_iff hfateHop hhop hfateData).1 hdata⟩
  | forward => exact ⟨by simp, hskips⟩

theorem credit_step
    (hcredit : t.runningSignal → t.outstanding ≤ 1 ∧ (t.outstanding = 1 → t.lowSendMore = false))
    (hfree : StartsFree t event) (hstep : step cfg t event = some next)
    (hrunning : next.runningSignal) :
    next.outstanding ≤ 1 ∧ (next.outstanding = 1 → next.lowSendMore = false) := by
  cases steps_of_step hstep with
  | flags | queue | discard | trigger | skip | ret | leave => exact hcredit hrunning
  | started =>
    have hnone : t.outstanding = 0 := hfree rfl (by simpa [started] using hrunning)
    simp [started, hnone]
  | sendNext =>
    obtain ⟨hone, -⟩ := hcredit hrunning
    refine ⟨(Nat.sub_le _ _).trans hone, fun hleft => ?_⟩
    have hbefore : t.outstanding - 1 = 1 := hleft
    omega
  | forward hmore =>
    obtain ⟨hone, hbusy⟩ := hcredit hrunning
    have hnone : t.outstanding ≠ 1 := fun hbelow => by simp [hbusy hbelow] at hmore
    refine ⟨?_, fun _ => rfl⟩
    change t.outstanding + 1 ≤ 1
    omega

theorem wakeup_step
    (hwakeup : t.runningSignal → t.buf ≠ [] → t.lowSendMore → t.trigger ∨ t.phase ≠ .idle)
    (hstep : step cfg t event = some next) (hrunning : next.runningSignal) (hbuf : next.buf ≠ [])
    (hmore : next.lowSendMore) : next.trigger ∨ next.phase ≠ .idle := by
  cases steps_of_step hstep with
  | flags | discard => exact hwakeup hrunning hbuf hmore
  | started | sendNext => exact .inl rfl
  | queue =>
    have hsignal : t.runningSignal = true := hrunning
    exact .inl (by simp [hsignal])
  | trigger | ret => exact .inr (by simp)
  | skip hphase => exact .inr (by simp [take, hphase])
  | forward => simp at hmore
  | leave hdone =>
    rcases hdone with hempty | hbusy
    · exact absurd hempty hbuf
    · exact absurd hmore (by simp [leave, hbusy])

/-- One step keeps the promise exactly if it does not set `low_send_more` with a frame below. -/
theorem lawful_step (hremembers : Remembers cfg t) (hlawful : Lawful cfg t)
    (hstep : step cfg t event = some next) : Lawful cfg next ↔ StartsFree t event := by
  obtain ⟨horder, hpassed, hskips, hcredit, hwakeup⟩ := hlawful
  constructor
  · rintro hnext rfl hsignal
    cases steps_of_step hstep with
    | started =>
      obtain ⟨hone, hbusy⟩ := hnext.credit (by simpa [started] using hsignal)
      by_contra hbelow
      have hstill : t.outstanding = 1 := by
        change t.outstanding ≤ 1 at hone
        omega
      cases hbusy hstill
  · intro hfree
    exact ⟨order_step horder hstep, passed_step hpassed hstep, skips_step hremembers hskips hstep,
      credit_step hcredit hfree hstep, wakeup_step hwakeup hstep⟩

theorem remembers_of_path {allowed : Dispatcher → Event → Prop}
    (hpath : Path (step cfg) allowed boot t) : Remembers cfg t :=
  hpath.invariant (Remembers cfg) (by simp [Remembers, boot]) fun _ _ _ hremembers _ hstep =>
    hremembers.step hstep

/-- The queue keeps its promise in every run in which `started` finds no frame below; the first time
that it finds one, the promise is broken. -/
theorem queue_lawful_iff (hpath : Path (step cfg) StartsFree boot t) :
    Lawful cfg t ∧ ∀ event next, step cfg t event = some next →
      (Lawful cfg next ↔ StartsFree t event) := by
  refine hpath.invariant_iff (fun state => Remembers cfg state ∧ Lawful cfg state) (Lawful cfg)
    ⟨?_, ?_⟩ ?_ (fun _ => And.right) ?_
  · simp [Remembers, boot]
  · exact ⟨rfl, by simp [boot], trivial, by simp [boot], by simp [boot]⟩
  · rintro state event next ⟨hremembers, hlawful⟩ hfree hstep
    exact ⟨hremembers.step hstep, (lawful_step hremembers hlawful hstep).2 hfree⟩
  · rintro state event next ⟨hremembers, hlawful⟩ hstep
    exact (lawful_step hremembers hlawful hstep).1

end Invariant

/-- A group telegram. -/
def telegram (value : Byte) : LDataPDU :=
  { source := 0x1101, dest := 0x0801, addrType := .groupAddress, data := [0x00, value] }

/-- A frame waits for the links, is passed down when they are up, and is answered before the call
has returned. -/
theorem queue_lawful_answered : ∃ t : Dispatcher, Path (step {}) StartsFree boot t ∧
    t.runningSignal ∧ t.fates = [⟨telegram 0x81, 5, some (passedDown {} (telegram 0x81))⟩] ∧
      Lawful {} t :=
  exists_path_of (D := fun t => t.runningSignal ∧
      t.fates = [⟨telegram 0x81, 5, some (passedDown {} (telegram 0x81))⟩])
    [.flags true true false, .queue (telegram 0x81), .flags true true true, .started, .trigger,
      .pass 5, .sendNext, .ret, .leave 6] (by decide +kernel) fun _ hpath hfields =>
    ⟨hfields.1, hfields.2, (queue_lawful_iff hpath).1⟩

/-- A link that is up asks for a frame before the last link is up.  The frame is not answered when
`started` sets `low_send_more`, and a second one is passed down. -/
theorem second_frame_below : ∃ t : Dispatcher, Path (step {}) anyEvent boot t ∧
    t.runningSignal ∧ t.outstanding = 2 ∧
      t.fates = [⟨telegram 0x80, 1, some (passedDown {} (telegram 0x80))⟩,
        ⟨telegram 0x81, 0, some (passedDown {} (telegram 0x81))⟩] ∧ ¬ Lawful {} t := by
  refine exists_path_of (D := fun t => t.runningSignal ∧ t.outstanding = 2 ∧
      t.fates = [⟨telegram 0x80, 1, some (passedDown {} (telegram 0x80))⟩,
        ⟨telegram 0x81, 0, some (passedDown {} (telegram 0x81))⟩])
    [.flags true true false, .sendNext, .queue (telegram 0x81), .trigger, .pass 0, .ret, .leave 0,
      .queue (telegram 0x80), .flags true true true, .started, .trigger, .pass 1]
    (by decide +kernel) fun t _ hfields =>
      ⟨hfields.1, hfields.2.1, hfields.2.2, fun hlawful => ?_⟩
  have hone := (hlawful.credit hfields.1).1
  omega

end Knxd.Dispatch
