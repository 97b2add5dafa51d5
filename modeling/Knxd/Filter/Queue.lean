import Knxd.Codec.LPDU
import Knxd.Core.Transition

/-!
# The queue filter

`QueueFilter` stands between the router and a driver that may be slow.  It takes
every frame at once, asks the router for the next one, and passes the frames on one
by one: the next frame goes to the driver after the driver has called `send_Next` for
the one before.

The driver may do that from inside the `send_L_Data` with which it gets the frame, so
`trigger_cb` may find the filter idle again when that call returns, and then goes on
with its loop.  Both neighbours may call any function of the filter while one of its
own functions is inside a call of theirs; the calls that have not returned are part of
the state.  Only the event loop calls `trigger_cb`, when nothing else is running.

The notes of a session, from `started` to `stopped`, are read by no function.
-/

namespace Knxd.Queue

open LPDU Transition List

inductive QState
  | down
  | idle
  | busy
  | sending
  deriving DecidableEq, Repr

inductive Call
  | triggerCb
  | sendLData
  | started
  | stopped
  deriving DecidableEq, Repr

inductive Note
  | submitted (l : LDataPDU)
  | answered
  | passed (l : LDataPDU)
  | next
  deriving DecidableEq, Repr

structure QueueFilter where
  state : QState := .down
  buf : List LDataPDU := []
  trigger : Bool := false
  calls : List Call := []
  log : List Note := []
  deriving DecidableEq, Repr

namespace QueueFilter

/-- `started`, up to the call of the router's side. -/
def started (q : QueueFilter) : QueueFilter :=
  { q with
    state := if q.state = .down then .idle else q.state
    calls := .started :: q.calls }

/-- `stopped`, up to the call of the router's side. -/
def stopped (q : QueueFilter) : QueueFilter :=
  { q with buf := [], state := .down, calls := .stopped :: q.calls, log := [] }

def sendNext (q : QueueFilter) : QueueFilter :=
  match q.state with
  | .down | .idle => q
  | .busy => { q with trigger := true, state := .idle, log := q.log ++ [.next] }
  | .sending => { q with state := .idle, log := q.log ++ [.next] }

/-- The frame is put into the buffer and the router's side is asked for another one. -/
def accept (q : QueueFilter) (l : LDataPDU) : QueueFilter :=
  { q with
    buf := q.buf ++ [l]
    calls := .sendLData :: q.calls
    log := q.log ++ [.submitted l] ++ [.answered] }

def sendLData (q : QueueFilter) (l : LDataPDU) : QueueFilter :=
  match q.state with
  | .idle => { q with trigger := true }.accept l
  | .busy | .sending => q.accept l
  | .down => q

/-- The end of `trigger_cb`, after the loop. -/
def leave (q : QueueFilter) : QueueFilter :=
  { q with state := if q.state = .sending then .busy else q.state }

/-- `trigger_cb` from the head of its loop on, up to the next call of the driver's side. -/
def loop (q : QueueFilter) : QueueFilter :=
  match q.buf with
  | [] => q.leave
  | l :: rest =>
    if q.state = .idle then
      { q with
        state := .sending
        buf := rest
        calls := .triggerCb :: q.calls
        log := q.log ++ [.passed l] }
    else q.leave

def resume (q : QueueFilter) : Option QueueFilter :=
  match q.calls with
  | [] => none
  | .triggerCb :: rest => some { q with calls := rest }.loop
  | .sendLData :: rest | .started :: rest | .stopped :: rest => some { q with calls := rest }

end QueueFilter

inductive Event
  | started
  | stopped
  | sendNext
  | sendLData (l : LDataPDU)
  | trigger
  | resume
  deriving DecidableEq, Repr

def step (q : QueueFilter) : Event → Option QueueFilter
  | .started => some q.started
  | .stopped => some q.stopped
  | .sendNext => some q.sendNext
  | .sendLData l => some (q.sendLData l)
  | .trigger => if q.trigger ∧ q.calls = [] then some { q with trigger := false }.loop else none
  | .resume => q.resume

def submissions (log : List Note) : List LDataPDU :=
  log.filterMap fun | .submitted l => some l | _ => none

def passes (log : List Note) : List LDataPDU :=
  log.filterMap fun | .passed l => some l | _ => none

/-- The driver was given a frame and has not called `send_Next` since. -/
def inFlight (log : List Note) : Bool :=
  log.foldl (fun flying note =>
    match note with
    | .passed _ => true
    | .next => false
    | .submitted _ | .answered => flying) false

/-- Between two frames the driver calls `send_Next`. -/
def OneAtATime (log : List Note) : Prop :=
  ∀ before between after first second,
    log = before ++ (.passed first :: (between ++ (.passed second :: after))) → .next ∈ between

section Log

variable {log : List Note} {note : Note}

theorem inFlight_concat (log : List Note) (note : Note) : inFlight (log ++ [note]) =
      match note with
      | .passed _ => true
      | .next => false
      | .submitted _ | .answered => inFlight log := by
  rw [inFlight, foldl_concat]
  cases note <;> rfl

/-- A frame that is not in flight any more was answered by the driver. -/
theorem next_mem_of_not_inFlight {before between : List Note} {l : LDataPDU}
    (hidle : inFlight (before ++ .passed l :: between) = false) : .next ∈ between := by
  induction between using reverseRecOn with
  | nil =>
    rw [inFlight_concat] at hidle
    cases hidle
  | append_singleton between note ih =>
    rw [← cons_append, ← append_assoc, inFlight_concat] at hidle
    cases note with
    | passed => cases hidle
    | next => exact mem_append_right between (mem_singleton.2 rfl)
    | submitted | answered => exact mem_append_left _ (ih hidle)

/-- A frame may be passed when none is in flight; all other notes may follow at any time. -/
theorem OneAtATime.concat (hlog : OneAtATime log)
    (hpass : ∀ l, note = .passed l → inFlight log = false) : OneAtATime (log ++ [note]) := by
  intro before between after first second hsplit
  obtain rfl | ⟨rest, last, rfl⟩ := eq_nil_or_concat after
  · -- the second frame is the one that is passed now
    have hsame : log ++ [note] = before ++ .passed first :: between ++ [.passed second] := by
      rw [hsplit, append_assoc]
      rfl
    obtain ⟨hbefore, hnote⟩ := append_inj' hsame rfl
    apply next_mem_of_not_inFlight
    rw [← hbefore]
    exact hpass second (singleton_inj.1 hnote)
  · have hsame : log ++ [note] =
        before ++ (.passed first :: (between ++ (.passed second :: rest))) ++ [last] := by
      rw [hsplit]
      simp
    obtain ⟨hbefore, -⟩ := append_inj' hsame rfl
    exact hlog before between rest first second hbefore

end Log

/-- A lossless queue with at most one frame in flight. -/
structure Lossless (q : QueueFilter) : Prop where
  fifo : submissions q.log = passes q.log ++ q.buf
  single : OneAtATime q.log
  answered : q.log.count .answered = (submissions q.log).length
  /-- While `trigger_cb` is running no trigger is needed: its loop goes on when the call of the
  driver's side returns. -/
  woken : q.state = .idle → q.buf ≠ [] → .triggerCb ∉ q.calls → q.trigger = true

/-- The notes fit the buffer and the state. -/
structure Noted (q : QueueFilter) : Prop where
  fifo : submissions q.log = passes q.log ++ q.buf
  single : OneAtATime q.log
  answered : q.log.count .answered = (submissions q.log).length
  flying : inFlight q.log = true ↔ q.state = .busy ∨ q.state = .sending
  down : q.state = .down → q.buf = [] ∧ q.log = []

structure Valid (q : QueueFilter) : Prop extends Noted q where
  woken : q.state = .idle → q.buf ≠ [] → .triggerCb ∉ q.calls → q.trigger = true
  /-- A frame that is being passed is in the hands of `trigger_cb`. -/
  sending : q.state = .sending → .triggerCb ∈ q.calls

section Steps

variable {q next : QueueFilter}

theorem Valid.lossless (hq : Valid q) : Lossless q :=
  { hq with }

/-- The notes have nothing to do with the trigger and the calls. -/
theorem Noted.congr (hq : Noted q) (hstate : next.state = q.state) (hbuf : next.buf = q.buf)
    (hlog : next.log = q.log) : Noted next := by
  obtain ⟨hfifo, hsingle, hanswered, hflying, hdown⟩ := hq
  rw [← hlog] at hfifo hsingle hanswered hflying hdown
  rw [← hbuf] at hfifo hdown
  rw [← hstate] at hflying hdown
  exact ⟨hfifo, hsingle, hanswered, hflying, hdown⟩

theorem noted_down {trigger : Bool} {calls : List Call} : Noted { trigger, calls } where
  fifo := rfl
  single := by
    intro before between after first second hsplit
    exact absurd hsplit.symm (by simp)
  answered := rfl
  flying := by simp [inFlight]
  down := fun _ => ⟨rfl, rfl⟩

theorem Noted.inFlight_eq_false (hq : Noted q) (hbusy : q.state ≠ .busy)
    (hsending : q.state ≠ .sending) : inFlight q.log = false := by
  rw [← Bool.not_eq_true, hq.flying, not_or]
  exact ⟨hbusy, hsending⟩

/-- The driver's `send_Next` for the frame in flight. -/
theorem Noted.driverNext (hq : Noted q) (trigger : Bool) :
    Noted { q with trigger, state := .idle, log := q.log ++ [.next] } where
  fifo := by simpa [submissions, passes] using hq.fifo
  single := hq.single.concat fun l hnote => by cases hnote
  answered := by simpa [submissions] using hq.answered
  flying := by
    rw [inFlight_concat]
    simp
  down := fun hdown => by cases hdown

theorem Valid.sendNext (hq : Valid q) : Valid q.sendNext := by
  unfold QueueFilter.sendNext
  split
  · exact hq
  · exact hq
  · next hbusy =>
    refine ⟨hq.toNoted.driverNext true, fun _ _ _ => rfl, fun hsending => ?_⟩
    cases hsending
  · next hsent =>
    refine ⟨hq.toNoted.driverNext q.trigger, fun _ _ hcalls => ?_, fun hsending => ?_⟩
    · exact absurd (hq.sending hsent) hcalls
    · cases hsending

theorem Noted.accept (hq : Noted q) (hup : q.state ≠ .down) (l : LDataPDU) :
    Noted (q.accept l) where
  fifo := by
    have hfifo := hq.fifo
    simp only [submissions, passes, QueueFilter.accept, filterMap_append] at hfifo ⊢
    simp [hfifo]
  single := by
    refine OneAtATime.concat (hq.single.concat fun l hnote => ?_) fun l hnote => ?_
    · cases hnote
    · cases hnote
  answered := by
    have hanswered := hq.answered
    simp only [submissions, QueueFilter.accept, filterMap_append] at hanswered ⊢
    simp [hanswered]
  flying := by
    unfold QueueFilter.accept
    rw [inFlight_concat, inFlight_concat]
    exact hq.flying
  down := fun hdown => absurd hdown hup

theorem Valid.sendLData (hq : Valid q) (l : LDataPDU) : Valid (q.sendLData l) := by
  unfold QueueFilter.sendLData
  split
  · next hstate =>
    have hnoted : Noted { q with trigger := true } := hq.toNoted.congr rfl rfl rfl
    refine ⟨hnoted.accept (by simp [hstate]) l, fun _ _ _ => rfl, fun hsending => ?_⟩
    exact absurd (hstate.symm.trans hsending) (by simp)
  · next hstate =>
    refine ⟨hq.toNoted.accept (by simp [hstate]) l, fun hidle => ?_, fun hsending => ?_⟩
    · exact absurd (hstate.symm.trans hidle) (by simp)
    · exact absurd (hstate.symm.trans hsending) (by simp)
  · next hstate =>
    refine ⟨hq.toNoted.accept (by simp [hstate]) l, fun hidle => ?_, fun _ => ?_⟩
    · exact absurd (hstate.symm.trans hidle) (by simp)
    · exact mem_cons_of_mem _ (hq.sending hstate)
  · exact hq

/-- `trigger_cb` leaves its loop when the buffer is empty or a frame is in flight. -/
theorem Noted.leave (hq : Noted q) (hdone : q.state = .idle → q.buf = []) : Valid q.leave := by
  unfold QueueFilter.leave
  split
  · next hsending =>
    refine ⟨⟨hq.fifo, hq.single, hq.answered, ?_, fun hdown => ?_⟩, fun hidle => ?_,
      fun hsending => ?_⟩
    · exact iff_of_true (hq.flying.2 (.inr hsending)) (.inl rfl)
    · cases hdown
    · cases hidle
    · cases hsending
  · next hsending =>
    exact ⟨hq.congr rfl rfl rfl, fun hidle hbuf => absurd (hdone hidle) hbuf,
      fun hstate => absurd hstate hsending⟩

/-- The head of the buffer is passed. -/
theorem Noted.pass (hq : Noted q) (hidle : q.state = .idle) {l : LDataPDU} {rest : List LDataPDU}
    (hbuf : q.buf = l :: rest) (calls : List Call) :
    Noted { q with state := .sending, buf := rest, calls, log := q.log ++ [.passed l] } where
  fifo := by
    have hfifo := hq.fifo
    rw [hbuf] at hfifo
    simp only [submissions, passes, filterMap_append] at hfifo ⊢
    simp [hfifo]
  single := hq.single.concat fun _ _ =>
    hq.inFlight_eq_false (by simp [hidle]) (by simp [hidle])
  answered := by
    have hanswered := hq.answered
    simp only [submissions, filterMap_append] at hanswered ⊢
    simpa using hanswered
  flying := by
    rw [inFlight_concat]
    simp
  down := fun hdown => by cases hdown

theorem Noted.loop (hq : Noted q) : Valid q.loop := by
  unfold QueueFilter.loop
  split
  · next hbuf => exact hq.leave fun _ => hbuf
  · next l rest hbuf =>
    split
    · next hidle =>
      refine ⟨hq.pass hidle hbuf _, fun hstate => ?_, fun _ => mem_cons_self⟩
      cases hstate
    · next hidle => exact hq.leave fun hstate => absurd hstate hidle

/-- A call other than that of `trigger_cb` returns. -/
theorem Valid.returned (hq : Valid q) {call : Call} {rest : List Call}
    (hcalls : q.calls = call :: rest) (hother : call ≠ .triggerCb) :
    Valid { q with calls := rest } := by
  have hmem : .triggerCb ∈ q.calls ↔ .triggerCb ∈ rest := by
    rw [hcalls, mem_cons]
    exact or_iff_right hother.symm
  refine ⟨hq.toNoted.congr rfl rfl rfl, fun hidle hbuf hrest => ?_, fun hsending => ?_⟩
  · exact hq.woken hidle hbuf fun hin => hrest (hmem.1 hin)
  · exact hmem.1 (hq.sending hsending)

theorem Valid.resume (hq : Valid q) (hresume : q.resume = some next) : Valid next := by
  unfold QueueFilter.resume at hresume
  split at hresume
  · cases hresume
  · cases hresume
    exact Noted.loop (hq.toNoted.congr rfl rfl rfl)
  all_goals next rest hcalls =>
      cases hresume
      exact hq.returned hcalls (by simp)

theorem Valid.started (hq : Valid q) : Valid q.started := by
  unfold QueueFilter.started
  by_cases hdown : q.state = .down
  · obtain ⟨hbuf, hlog⟩ := hq.down hdown
    rw [if_pos hdown]
    refine ⟨⟨hq.fifo, hq.single, hq.answered, ?_, fun hstate => ?_⟩, fun _ hnonempty => ?_,
      fun hstate => ?_⟩
    · rw [hlog]
      simp [inFlight]
    · cases hstate
    · exact absurd hbuf hnonempty
    · cases hstate
  · rw [if_neg hdown]
    refine ⟨hq.toNoted.congr rfl rfl rfl, fun hidle hbuf hcalls => ?_, fun hsending => ?_⟩
    · exact hq.woken hidle hbuf fun hin => hcalls (mem_cons_of_mem _ hin)
    · exact mem_cons_of_mem _ (hq.sending hsending)

/-- Without a session there is nothing to keep. -/
theorem valid_down (trigger : Bool) (calls : List Call) : Valid { trigger, calls } := by
  refine ⟨noted_down, fun hidle => ?_, fun hsending => ?_⟩
  · cases hidle
  · cases hsending

theorem Valid.step {event : Event} (hq : Valid q) (hstep : step q event = some next) :
    Valid next := by
  cases event with
  | started =>
    cases hstep
    exact hq.started
  | stopped =>
    cases hstep
    exact valid_down _ _
  | sendNext =>
    cases hstep
    exact hq.sendNext
  | sendLData l =>
    cases hstep
    exact hq.sendLData l
  | trigger =>
    obtain ⟨-, ⟨⟩⟩ := Option.ite_none_right_eq_some.1 hstep
    exact Noted.loop (hq.toNoted.congr rfl rfl rfl)
  | resume => exact hq.resume hstep

end Steps

/-- The loop passes the head of the buffer on. -/
theorem passes_loop {q : QueueFilter} (hidle : q.state = .idle) {l : LDataPDU}
    {rest : List LDataPDU} (hbuf : q.buf = l :: rest) :
    passes q.loop.log = passes q.log ++ [l] := by
  simp only [QueueFilter.loop, hbuf, if_pos hidle, passes, filterMap_append]
  rfl

/-- In every run, with calls of the neighbours at any time, the frames of a session are passed
to the driver in the order of their submission, each of them once, and a second one only after
`send_Next` for the first; each submission is answered once.  An idle filter with frames in its
buffer has a trigger pending, or is inside `trigger_cb`, where the loop that is running stands for
the trigger: either way its next turn passes the first of them on. -/
theorem queue_lossless {q : QueueFilter} (hreached : Path step anyEvent {} q) :
    Lossless q ∧ ∀ l rest, q.state = .idle → q.buf = l :: rest →
      (q.calls = [] → ∃ next, step q .trigger = some next ∧
        passes next.log = passes q.log ++ [l]) ∧
      ∀ calls, q.calls = .triggerCb :: calls → ∃ next, step q .resume = some next ∧
        passes next.log = passes q.log ++ [l] := by
  have hvalid : Valid q := hreached.invariant Valid (valid_down false [])
    fun _ _ _ hq _ hstep => hq.step hstep
  refine ⟨hvalid.lossless, fun l rest hidle hbuf => ⟨fun hcalls => ?_, fun calls hcalls => ?_⟩⟩
  · have htrigger : q.trigger = true := hvalid.woken hidle (by simp [hbuf]) (by simp [hcalls])
    exact ⟨_, if_pos ⟨htrigger, hcalls⟩, passes_loop (q := { q with trigger := false }) hidle hbuf⟩
  · refine ⟨{ q with calls }.loop, ?_, passes_loop (q := { q with calls }) hidle hbuf⟩
    simp only [step, QueueFilter.resume, hcalls]

/-- A second frame waits until the driver calls `send_Next` for the first; then the trigger that
was sent passes it on. -/
theorem queue_lossless_two_frames : ∃ q,
    run step {} [.started, .resume, .sendLData { dest := 1 }, .resume, .trigger, .resume,
      .sendLData { dest := 2 }, .resume, .sendNext] = some q ∧ Lossless q ∧
    ∃ next, step q .trigger = some next ∧ passes next.log = passes q.log ++ [{ dest := 2 }] := by
  refine exists_state (D := fun q => q.state = .idle ∧ q.buf = [{ dest := 2 }] ∧ q.calls = [])
    (by decide +kernel) fun q hq hfields => ?_
  obtain ⟨hlossless, hproceeds⟩ := queue_lossless (path_of_run hq)
  exact ⟨hlossless, (hproceeds _ [] hfields.1 hfields.2.1).1 hfields.2.2⟩

end Knxd.Queue
