import Knxd.Codec.LPDU
import Knxd.Core.Transition

/-!
# The pace filter

`PaceFilter` delays the driver's `send_Next`: after a frame was sent it waits for the
time that the frame takes on the bus, and after that for the frames that came in
meanwhile.  It counts those in `nr_in` and is to add up their sizes in `size_in`.

`recv_L_Data` does not add the size of a frame to `size_in` but assigns it, so that the
second frame already makes the sum wrong unless the first one was empty.

The two counters are not initialised before the first `start`.  The times are rational
numbers here; the source computes them as `float`.  The list of the frames received since
the last reset is read by no function.
-/

namespace Knxd.Pace

open LPDU Transition Option BitVec List

inductive PState
  | down
  | idle
  | busy
  deriving DecidableEq, Repr

structure PaceFilter where
  delay : ℚ
  byteDelay : ℚ
  factorIn : ℚ
  wantNext : Bool := false
  /-- An `int`. -/
  nrIn : BitVec 32
  /-- An `int`. -/
  sizeIn : BitVec 32
  lastLen : ℕ
  state : PState := .down
  timer : Option ℚ := none
  /-- How many calls of `started` are waiting for the router's side to return. -/
  starting : ℕ := 0
  /-- The sizes of the frames received since the counters were reset, if they ever were. -/
  since : Option (List ℕ) := none
  deriving DecidableEq, Repr

/-- A filter after `setup`: the memory of the counters is not initialised. -/
def PaceFilter.Fresh (p : PaceFilter) : Prop :=
  p.since = none

namespace PaceFilter

def reset (p : PaceFilter) : PaceFilter :=
  { p with nrIn := 0, sizeIn := 0, since := some [] }

def start (p : PaceFilter) : PaceFilter :=
  p.reset

/-- `started`; the call of the router's `send_Next` comes before the change of the state. -/
def started (p : PaceFilter) : PaceFilter :=
  if p.state = .down then
    if p.wantNext then { p with starting := p.starting + 1 } else { p with state := .idle }
  else p

/-- The router's `send_Next` returns to `started`. -/
def resume (p : PaceFilter) : PaceFilter :=
  { p with starting := p.starting - 1, state := .idle }

def stopped (p : PaceFilter) : PaceFilter :=
  { p with state := .down, wantNext := false, timer := none }

def sendNext (p : PaceFilter) : PaceFilter :=
  match p.state with
  | .down => { p with wantNext := true }
  | .idle => { p with state := .busy, timer := some (p.lastLen * p.byteDelay + p.delay) }
  | .busy => p

def timerCb (p : PaceFilter) : PaceFilter :=
  let fired := { p with timer := none }
  if p.state = .busy then
    if 0 < p.factorIn ∧ 0 < p.nrIn.toInt then
      { fired.reset with
        timer := some ((p.sizeIn.toInt * p.byteDelay + p.nrIn.toInt * p.delay) * p.factorIn) }
    else { fired with state := .idle }
  else fired

def sendLData (p : PaceFilter) (l : LDataPDU) : PaceFilter :=
  { p with lastLen := l.data.length }

def recvLData (p : PaceFilter) (l : LDataPDU) : PaceFilter :=
  { p with
    nrIn := p.nrIn + 1
    sizeIn := BitVec.ofNat 32 l.data.length
    since := p.since.map (· ++ [l.data.length]) }

end PaceFilter

open PaceFilter

inductive Event
  | start
  | started
  | resume
  | stopped
  | sendNext
  | timer
  | sendLData (l : LDataPDU)
  | recvLData (l : LDataPDU)
  deriving DecidableEq, Repr

def step (p : PaceFilter) : Event → Option PaceFilter
  | .start => some p.start
  | .started => some p.started
  | .resume => if p.starting = 0 then none else some p.resume
  | .stopped => some p.stopped
  | .sendNext => some p.sendNext
  | .timer => if p.timer.isSome then some p.timerCb else none
  | .sendLData l => some (p.sendLData l)
  | .recvLData l => some (p.recvLData l)

/-- The counters hold the number and the total size of the frames received since they were
reset. -/
def Accounts (p : PaceFilter) : Prop :=
  ∀ sizes, p.since = some sizes → p.nrIn.toInt = sizes.length ∧ p.sizeIn.toInt = sizes.sum

/-- A frame is received when those before it were empty, and the two numbers fit their
types. -/
def Countable (p : PaceFilter) : Event → Prop
  | .recvLData l => ∀ sizes, p.since = some sizes →
      sizes.sum = 0 ∧ sizes.length + 1 < 2 ^ 31 ∧ l.data.length < 2 ^ 31
  | _ => True

/-- The extra delay that `timer_cb` is to add for a number of frames. -/
def extraDelay (p : PaceFilter) (sizes : List ℕ) : ℚ :=
  (sizes.sum * p.byteDelay + sizes.length * p.delay) * p.factorIn

section Steps

variable {p next : PaceFilter} {event : Event}

inductive Counts (p : PaceFilter) : Event → PaceFilter → Prop
  | same {event : Event} {next : PaceFilter} : (∀ l, event ≠ .recvLData l) →
      next.nrIn = p.nrIn → next.sizeIn = p.sizeIn → next.since = p.since → Counts p event next
  | reset {event : Event} {next : PaceFilter} : (∀ l, event ≠ .recvLData l) →
      next.nrIn = 0 → next.sizeIn = 0 → next.since = some [] → Counts p event next
  | received (l : LDataPDU) : Counts p (.recvLData l) (p.recvLData l)

theorem counts_of_step (hstep : step p event = some next) : Counts p event next := by
  cases event with
  | start =>
    cases hstep
    exact .reset (by simp) rfl rfl rfl
  | started =>
    cases hstep
    unfold started
    split
    · split <;> exact .same (by simp) rfl rfl rfl
    · exact .same (by simp) rfl rfl rfl
  | resume =>
    obtain ⟨-, ⟨⟩⟩ := ite_none_left_eq_some.1 hstep
    exact .same (by simp) rfl rfl rfl
  | stopped | sendLData =>
    cases hstep
    exact .same (by simp) rfl rfl rfl
  | sendNext =>
    cases hstep
    unfold sendNext
    split <;> exact .same (by simp) rfl rfl rfl
  | timer =>
    obtain ⟨-, ⟨⟩⟩ := ite_none_right_eq_some.1 hstep
    unfold timerCb
    dsimp only
    split
    · split
      · exact .reset (by simp) rfl rfl rfl
      · exact .same (by simp) rfl rfl rfl
    · exact .same (by simp) rfl rfl rfl
  | recvLData l =>
    cases hstep
    exact .received l

theorem countable_of_ne (hother : ∀ l, event ≠ .recvLData l) : Countable p event := by
  cases event with
  | recvLData l => exact absurd rfl (hother l)
  | _ => trivial

/-- A number is stored in an `int` if it fits. -/
theorem toInt_ofNat_eq_iff {number value : ℕ} (hvalue : number ≤ value) :
    (BitVec.ofNat 32 number).toInt = value ↔ value = number ∧ number < 2 ^ 31 := by
  rw [toInt_eq_toNat_bmod, toNat_ofNat, Int.bmod_def]
  push_cast
  split <;> omega

/-- The account after one more frame. -/
theorem accounts_recvLData_iff (hp : Accounts p) (l : LDataPDU) :
    Accounts (p.recvLData l) ↔ Countable p (.recvLData l) := by
  cases hsince : p.since with
  | none => simp [Accounts, Countable, recvLData, hsince]
  | some sizes =>
    obtain ⟨hnr, -⟩ := hp sizes hsince
    have hadd : p.nrIn + 1 = BitVec.ofNat 32 (sizes.length + 1) := by
      rw [← ofInt_toInt (x := p.nrIn), hnr, ofNat_add, ofInt_natCast]
      rfl
    have hcount : (p.nrIn + 1).toInt = (sizes.length + 1 : ℕ) ↔ sizes.length + 1 < 2 ^ 31 := by
      rw [hadd, toInt_ofNat_eq_iff le_rfl, eq_self_iff_true, true_and]
    have hsize : (BitVec.ofNat 32 l.data.length).toInt = (sizes.sum + l.data.length : ℕ) ↔
        sizes.sum = 0 ∧ l.data.length < 2 ^ 31 := by
      rw [toInt_ofNat_eq_iff (Nat.le_add_left _ _), Nat.add_eq_right]
    have haccounts : Accounts (p.recvLData l) ↔ (p.nrIn + 1).toInt = (sizes.length + 1 : ℕ) ∧
          (BitVec.ofNat 32 l.data.length).toInt = (sizes.sum + l.data.length : ℕ) := by
      simp only [Accounts, recvLData, hsince, map_some, some.injEq,
        forall_eq', length_append, length_singleton, sum_append,
        sum_singleton]
    have hcountable : Countable p (.recvLData l) ↔
        sizes.sum = 0 ∧ sizes.length + 1 < 2 ^ 31 ∧ l.data.length < 2 ^ 31 := by
      simp only [Countable, hsince, some.injEq, forall_eq']
    rw [haccounts, hcountable, hcount, hsize]
    exact and_left_comm

/-- Every other event keeps the account. -/
theorem accounts_step_iff (hp : Accounts p) (hstep : step p event = some next) :
    Accounts next ↔ Countable p event := by
  cases counts_of_step hstep with
  | same hother hnr hsize hsince =>
    refine iff_of_true (fun sizes hsizes => ?_) (countable_of_ne hother)
    rw [hnr, hsize]
    exact hp sizes (hsince ▸ hsizes)
  | reset hother hnr hsize hsince =>
    refine iff_of_true (fun sizes hsizes => ?_) (countable_of_ne hother)
    obtain rfl := some.inj (hsince.symm.trans hsizes)
    rw [hnr, hsize]
    exact ⟨rfl, rfl⟩
  | received l => exact accounts_recvLData_iff hp l

/-- With a correct account `timer_cb` waits for the frames that were received. -/
theorem timer_timerCb (hp : Accounts p) (hbusy : p.state = .busy) (hfactor : 0 < p.factorIn)
    {sizes : List ℕ} (hsince : p.since = some sizes) (hsome : sizes ≠ []) :
    p.timerCb.timer = some (extraDelay p sizes) := by
  obtain ⟨hnr, hsize⟩ := hp sizes hsince
  have hpos : 0 < p.nrIn.toInt := by
    rw [hnr]
    exact_mod_cast length_pos_iff.2 hsome
  have htimer : p.timerCb.timer =
      some ((p.sizeIn.toInt * p.byteDelay + p.nrIn.toInt * p.delay) * p.factorIn) := by
    simp only [timerCb, if_pos hbusy, if_pos (And.intro hfactor hpos)]
  rw [htimer, hnr, hsize, extraDelay, Int.cast_natCast, Int.cast_natCast]

end Steps

/-- In every run in which frames are received only after empty ones, since the counters were last
reset, and in which the two numbers fit their types, the counters hold the number and the total
size of the frames received, and the extra delay is the one for these frames.  The first frame
that does not meet the condition makes the account wrong. -/
theorem pace_accounts_iff {start p : PaceFilter} (hstart : start.Fresh)
    (hpath : Path step Countable start p) :
    (Accounts p ∧ ∀ event next, step p event = some next →
      (Accounts next ↔ Countable p event)) ∧
    ∀ sizes next, p.since = some sizes → sizes ≠ [] → p.state = .busy → 0 < p.factorIn →
      step p .timer = some next → next.timer = some (extraDelay p sizes) := by
  have haccounts : Accounts start := by
    intro sizes hsizes
    cases hstart.symm.trans hsizes
  have hinv := hpath.invariant_iff Accounts Accounts haccounts
    (fun state event next hstate hallowed hstep => (accounts_step_iff hstate hstep).2 hallowed)
    (fun _ hstate => hstate)
    (fun state event next hstate hstep hnext => (accounts_step_iff hstate hstep).1 hnext)
  refine ⟨hinv, fun sizes next hsince hsome hbusy hfactor htimer => ?_⟩
  obtain ⟨-, ⟨⟩⟩ := Option.ite_none_right_eq_some.1 htimer
  exact timer_timerCb hinv.1 hbusy hfactor hsince hsome

/-- A filter with the default settings. -/
def defaultPace : PaceFilter :=
  { delay := 15 / 1000, byteDelay := 1 / 1000, factorIn := 3 / 4, nrIn := 0, sizeIn := 0,
    lastLen := 0 }

/-- One frame is counted. -/
theorem pace_accounts_one : ∃ p,
    run step defaultPace [.start, .started, .recvLData { data := [0, 0x80] }] = some p ∧
    Accounts p ∧ p.since = some [2] := by
  refine ⟨_, rfl, ?_, rfl⟩
  have hpath : Path step Countable defaultPace
      ((defaultPace.start.started).recvLData { data := [0, 0x80] }) := by
    have hstart : step defaultPace .start = some defaultPace.start := rfl
    have hstarted : step defaultPace.start .started = some defaultPace.start.started := rfl
    have hrecv : step defaultPace.start.started (.recvLData { data := [0, 0x80] }) =
        some (defaultPace.start.started.recvLData { data := [0, 0x80] }) := rfl
    refine .step (.step (.step .refl ?_ hstart) ?_ hstarted) ?_ hrecv
    · trivial
    · trivial
    intro sizes hsizes
    cases hsizes
    decide
  have hfresh : defaultPace.Fresh := rfl
  exact (pace_accounts_iff hfresh hpath).1.1

/-- Two frames of two bytes are counted as two bytes. -/
theorem pace_not_accounts : ∃ p,
    run step defaultPace [.start, .started, .recvLData { data := [0, 0x80] },
      .recvLData { data := [0, 0x81] }] = some p ∧
    p.since = some [2, 2] ∧ p.nrIn.toInt = 2 ∧ p.sizeIn.toInt = 2 ∧ ¬ Accounts p := by
  refine ⟨_, rfl, rfl, rfl, rfl, fun haccounts => ?_⟩
  have hsize := (haccounts [2, 2] rfl).2
  exact absurd hsize (by decide)

end Knxd.Pace
