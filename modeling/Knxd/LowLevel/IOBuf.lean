import Knxd.Core.Memory
import Knxd.Core.Transition

/-!
# Receive buffers

`RecvBuf` collects the bytes of a descriptor and offers them to its owner.  Three pieces of
state decide whether it reads: the flag `running`, the watcher of the event loop, and the
descriptor.  The owner answers from inside the callbacks `on_read` and `on_error`, and may
call the buffer from there, so that an owner is a pair of functions of the callbacks made
so far.
-/

namespace Knxd.IOBuf

open Memory List

inductive Call
  | onRead (buf : CArray)
  | onError
  deriving DecidableEq, Repr

inductive Op
  | init (fd : ℤ)
  | start
  | stop (clear : Bool)
  deriving DecidableEq, Repr

/-- What `read` returns once there is nothing to read: an error that passes, the end of
the stream, or an error that stays. -/
inductive ReadEnd
  | again
  | eof
  | failed
  deriving DecidableEq, Repr

/-- The owner of a buffer: `on_read` returns how much it took, and both callbacks may call
the buffer. -/
structure Owner where
  onRead : List Call → CArray → ℕ × List Op
  onError : List Call → List Op

structure RecvBuf where
  quick : Bool := false
  running : Bool := false
  fd : ℤ := -1
  /-- The descriptor for which the watcher waits. -/
  io : Option ℤ := none
  /-- The first `recvpos` bytes of the buffer. -/
  recvbuf : CArray := []
  /-- The bytes that have arrived on the descriptor and are not read yet. -/
  input : CArray := []
  fault : Option Fault := none
  log : List Call := []
  /-- The owner called `start`, and has not called `stop` since. -/
  active : Bool := false
  /-- The owner was told of an error since then. -/
  failed : Bool := false
  /-- `on_read` was called while the buffer was stopped. -/
  late : Bool := false
  deriving DecidableEq

/-- `sizeof(recvbuf)`. -/
def bufSize : ℕ := 1024

namespace RecvBuf

def init (t : RecvBuf) (fd : ℤ) : RecvBuf :=
  if t.fd = -1 ∧ 0 ≤ fd then { t with fd := fd, input := [] }
  else { t with fault := some .assertion }

/-- `RecvBuf::stop`; the test of `running` is the source's. -/
def stop (t : RecvBuf) (clear : Bool) : RecvBuf :=
  { t with
    running := if !t.running then false else t.running
    io := none
    fd := if clear then -1 else t.fd
    input := if clear then [] else t.input
    active := false
    failed := false }

/-- A call from inside a callback.  Callbacks are made with `running` set, so that `start`
returns at once. -/
def nested (t : RecvBuf) : Op → RecvBuf
  | .init fd => t.init fd
  | .start => { t with active := true }
  | .stop clear => t.stop clear

def onError (owner : Owner) (t : RecvBuf) : RecvBuf :=
  (owner.onError t.log).foldl nested { t with log := .onError :: t.log, failed := true }

/-- `on_read(recvbuf,recvpos)`. -/
def onRead (owner : Owner) (t : RecvBuf) : RecvBuf :=
  (owner.onRead t.log t.recvbuf).2.foldl nested
    { t with log := .onRead t.recvbuf :: t.log, late := t.late || !t.active }

/-- What `on_read` returns. -/
def taken (owner : Owner) (t : RecvBuf) : ℕ :=
  (owner.onRead t.log t.recvbuf).1

/-- A round in which the owner takes something: the rest moves to the front. -/
def consume (owner : Owner) (t : RecvBuf) : RecvBuf :=
  { t.onRead owner with recvbuf := t.recvbuf.drop (t.taken owner) }

/-- The loop of `feed_out`, for at most the given number of rounds. -/
def feedLoop (owner : Owner) : ℕ → RecvBuf → RecvBuf
  | 0, t => t
  | rounds + 1, t =>
    if t.running ∧ t.recvbuf ≠ [] ∧ t.fault = none then
      if t.taken owner = 0 then
        if t.recvbuf.length = bufSize then ({ t.onRead owner with io := none }).onError owner
        else t.onRead owner
      -- `recvpos` would wrap around
      else if t.recvbuf.length < t.taken owner then
        { t.onRead owner with fault := some .outOfBounds }
      else feedLoop owner rounds (t.consume owner)
    else t

/-- `RecvBuf::feed_out`; a round that is not the last takes a byte. -/
def feedOut (owner : Owner) (t : RecvBuf) : RecvBuf :=
  feedLoop owner t.recvbuf.length t

/-- `RecvBuf::start`; the event loop refuses to watch a negative descriptor. -/
def start (owner : Owner) (t : RecvBuf) : RecvBuf :=
  if t.running then { t with active := true }
  else if t.fd < 0 then { t with running := true, fault := some .assertion }
  else feedOut owner
    { t with running := true, io := some t.fd, active := true, failed := false }

def lowLatency (t : RecvBuf) : RecvBuf :=
  { t with quick := true }

/-- `count` bytes are read. -/
def take (t : RecvBuf) (count : ℕ) : RecvBuf :=
  { t with recvbuf := t.recvbuf ++ t.input.take count, input := t.input.drop count }

/-- The reads of `io_cb` when `avail` bytes can be read before `read` fails; `any` is the
source's `some`. -/
def readLoop (owner : Owner) (ending : ReadEnd) : ℕ → Bool → RecvBuf → RecvBuf
  | 0, any, t =>
    if t.recvbuf.length < bufSize ∧ any = false ∧ ending ≠ .again then
      ({ t with io := none }).onError owner
    else t
  | avail + 1, _, t =>
    if t.recvbuf.length < bufSize then
      if t.quick then readLoop owner ending avail true (t.take 1)
      else t.take (min (avail + 1) (bufSize - t.recvbuf.length))
    else t

def ioCb (owner : Owner) (avail : ℕ) (ending : ReadEnd) (t : RecvBuf) : RecvBuf :=
  feedOut owner (readLoop owner ending (min avail t.input.length) false t)

end RecvBuf

open RecvBuf

inductive Event
  | call (op : Op)
  | lowLatency
  | arrive (data : CArray)
  | io (avail : ℕ) (ending : ReadEnd)
  deriving DecidableEq, Repr

def step (owner : Owner) (t : RecvBuf) (event : Event) : Option RecvBuf :=
  if t.fault.isSome then none
  else
    match event with
    | .call (.init fd) => some (t.init fd)
    | .call .start => some (t.start owner)
    | .call (.stop clear) => some (t.stop clear)
    | .lowLatency => some t.lowLatency
    | .arrive data => if 0 ≤ t.fd then some { t with input := t.input ++ data } else none
    | .io avail ending => if t.io.isSome then some (t.ioCb owner avail ending) else none

/-- What the owner can do to the buffer from inside a callback, apart from the descriptor:
stop the watcher. -/
structure Framed (t next : RecvBuf) : Prop where
  running : next.running = t.running
  recvbuf : next.recvbuf = t.recvbuf
  log : next.log = t.log
  late : next.late = t.late
  io : next.io = t.io ∨ next.io = none

section Frame

variable {t next last : RecvBuf} {owner : Owner}

theorem Framed.refl (t : RecvBuf) : Framed t t := ⟨rfl, rfl, rfl, rfl, .inl rfl⟩

theorem Framed.trans (hfirst : Framed t next) (hsecond : Framed next last) : Framed t last where
  running := hsecond.running.trans hfirst.running
  recvbuf := hsecond.recvbuf.trans hfirst.recvbuf
  log := hsecond.log.trans hfirst.log
  late := hsecond.late.trans hfirst.late
  io := by
    rcases hsecond.io with hio | hio
    · rw [hio]
      exact hfirst.io
    · exact .inr hio

/-- `stop` never clears `running`. -/
theorem running_stop (t : RecvBuf) (clear : Bool) : (t.stop clear).running = t.running := by
  cases hrunning : t.running <;> simp [stop, hrunning]

theorem framed_init (t : RecvBuf) (fd : ℤ) : Framed t (t.init fd) := by
  unfold init
  split <;> exact ⟨rfl, rfl, rfl, rfl, .inl rfl⟩

theorem framed_stop (t : RecvBuf) (clear : Bool) : Framed t (t.stop clear) :=
  ⟨running_stop t clear, rfl, rfl, rfl, .inr rfl⟩

theorem framed_nested (t : RecvBuf) : (op : Op) → Framed t (t.nested op)
  | .init fd => framed_init t fd
  | .start => ⟨rfl, rfl, rfl, rfl, .inl rfl⟩
  | .stop clear => framed_stop t clear

theorem framed_calls (ops : List Op) (t : RecvBuf) : Framed t (ops.foldl RecvBuf.nested t) := by
  induction ops generalizing t with
  | nil => exact .refl t
  | cons op _ ih => exact (framed_nested t op).trans (ih (t.nested op))

theorem log_onRead (owner : Owner) (t : RecvBuf) :
    (t.onRead owner).log = .onRead t.recvbuf :: t.log :=
  (framed_calls _ _).log

theorem log_onError (owner : Owner) (t : RecvBuf) : (t.onError owner).log = .onError :: t.log :=
  (framed_calls _ _).log

theorem recvbuf_onRead (owner : Owner) (t : RecvBuf) : (t.onRead owner).recvbuf = t.recvbuf :=
  (framed_calls _ _).recvbuf

end Frame

section Loops

variable {t : RecvBuf} {owner : Owner}

/-- Rounds beyond one for each byte are not used. -/
theorem feedLoop_of_le {rounds : ℕ} (hrounds : t.recvbuf.length ≤ rounds) :
    t.feedLoop owner rounds = t.feedOut owner := by
  induction rounds using Nat.strong_induction_on generalizing t with
  | _ rounds ih =>
    rw [feedOut]
    rcases hlength : t.recvbuf.length with _ | length
    · have hnil : t.recvbuf = [] := length_eq_zero_iff.1 hlength
      cases rounds with
      | zero => rfl
      | succ => simp [feedLoop, hnil]
    · obtain ⟨rounds, rfl⟩ : ∃ fewer, rounds = fewer + 1 := ⟨rounds - 1, by omega⟩
      simp only [feedLoop]
      split_ifs with hrun hzero
      · rfl
      · rfl
      · rfl
      · -- both sides go on with fewer bytes than rounds
        have hshorter : (t.consume owner).recvbuf.length ≤ length := by
          rw [consume, length_drop]
          omega
        rw [ih rounds (by omega) (hshorter.trans (by omega)), ih length (by omega) hshorter]
      · rfl

/-- `feed_out` as the source has it. -/
theorem feedOut_eq (owner : Owner) (t : RecvBuf) : t.feedOut owner =
      if t.running ∧ t.recvbuf ≠ [] ∧ t.fault = none then
        if t.taken owner = 0 then
          if t.recvbuf.length = bufSize then ({ t.onRead owner with io := none }).onError owner
          else t.onRead owner
        else if t.recvbuf.length < t.taken owner then
          { t.onRead owner with fault := some .outOfBounds }
        else (t.consume owner).feedOut owner
      else t := by
  rw [← feedLoop_of_le (Nat.le_succ t.recvbuf.length), feedLoop]
  split_ifs with hrun hzero
  · rfl
  · rfl
  · rfl
  · exact feedLoop_of_le (by simp [consume])
  · rfl

/-- Callbacks are added to those before. -/
theorem log_feedLoop (owner : Owner) (rounds : ℕ) (t : RecvBuf) :
    t.log <:+ (t.feedLoop owner rounds).log := by
  induction rounds generalizing t with
  | zero => exact suffix_refl _
  | succ _ ih =>
    have hread : t.log <:+ (t.onRead owner).log := by
      rw [log_onRead]
      exact suffix_cons _ _
    rw [feedLoop]
    split_ifs with hrun hzero
    · rw [log_onError]
      exact hread.trans (suffix_cons _ _)
    · exact hread
    · exact hread
    · exact hread.trans (ih (t.consume owner))
    · exact suffix_refl _

/-- Bytes in the buffer are offered at once. -/
theorem offered_feedOut (hrunning : t.running = true) (hbytes : t.recvbuf ≠ [])
    (hfault : t.fault = none) : .onRead t.recvbuf :: t.log <:+ (t.feedOut owner).log := by
  rw [feedOut_eq, if_pos ⟨hrunning, hbytes, hfault⟩, ← log_onRead owner]
  split_ifs
  · rw [log_onError]
    exact suffix_cons _ _
  · exact suffix_refl _
  · exact suffix_refl _
  · exact log_feedLoop owner _ (t.consume owner)

theorem take_take (t : RecvBuf) (first second : ℕ) :
    (t.take first).take second = t.take (first + second) := by
  simp [RecvBuf.take, take_add, drop_drop]

theorem take_zero (t : RecvBuf) : t.take 0 = t := by
  simp [RecvBuf.take]

/-- Bytes that can be read are read, as far as there is room; byte by byte or at once. -/
theorem readLoop_eq_take {ending : ReadEnd} {avail : ℕ} {any : Bool}
    (hany : 0 < avail ∨ any = true) (havail : avail ≤ t.input.length) :
    t.readLoop owner ending avail any = t.take (min avail (bufSize - t.recvbuf.length)) := by
  induction avail generalizing t any with
  | zero =>
    obtain rfl : any = true := hany.resolve_left (lt_irrefl 0)
    simp [RecvBuf.readLoop, take_zero]
  | succ _ ih =>
    have hlength : (t.take 1).recvbuf.length = t.recvbuf.length + 1 := by
      simp only [RecvBuf.take, length_append, length_take]
      omega
    have hinput : (t.take 1).input.length = t.input.length - 1 := by
      simp [RecvBuf.take]
    rw [RecvBuf.readLoop]
    split_ifs with hroom hquick
    · rw [ih (.inr rfl) (by omega), take_take, hlength]
      congr 1
      omega
    · rfl
    · rw [Nat.sub_eq_zero_of_le (not_lt.1 hroom), Nat.min_zero, take_zero]

end Loops

end Knxd.IOBuf
