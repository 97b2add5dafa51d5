import Knxd.LowLevel.IOBuf

/-!
# Stopping and restarting a receive buffer

After `stop`, no bytes are to be offered until the next `start`, and after that `start`
the buffer is to read again.  Both rest on `running`, which `stop` does not clear: the loop
of `feed_out` goes on when a callback stops the buffer, and a second `start` returns before
it reaches the watcher.  What remains true is stated for buffers that are not started a
second time and for owners that leave no bytes behind when they stop.
-/

namespace Knxd.Restart

open Memory IOBuf List RecvBuf Option
open Transition (Path)

def NoStop (ops : List Op) : Prop :=
  ∀ clear, Op.stop clear ∉ ops
  deriving Decidable

/-- An owner that stops the buffer from inside `on_read` takes all bytes or none, and it
does not start the buffer again from inside the callback in which it stopped it. -/
structure Tidy (owner : Owner) : Prop where
  onRead : ∀ log buf, NoStop (owner.onRead log buf).2 ∨
    Op.start ∉ (owner.onRead log buf).2 ∧
      ((owner.onRead log buf).1 = 0 ∨ (owner.onRead log buf).1 = buf.length)
  onError : ∀ log, NoStop (owner.onError log) ∨ Op.start ∉ owner.onError log

/-- The buffer is not started again once it was stopped, and a failing read is not answered
with `stop` while the buffer still holds bytes. -/
def StartedOnce (owner : Owner) (t : RecvBuf) : Event → Prop
  | .call .start => t.running → t.active
  | .io avail ending =>
    t.recvbuf = [] ∨ (0 < avail ∧ t.input ≠ []) ∨ ending = .again ∨ NoStop (owner.onError t.log)
  | _ => True

instance (owner : Owner) (t : RecvBuf) : (event : Event) → Decidable (StartedOnce owner t event)
  | .call .start => inferInstanceAs (Decidable (_ → _))
  | .io _ _ => inferInstanceAs (Decidable (_ ∨ (_ ∧ _) ∨ _ ∨ _))
  | .call (.init _) | .call (.stop _) | .lowLatency | .arrive _ => inferInstanceAs (Decidable True)

/-- What holds at all times, also between two rounds of a loop. -/
structure Sound (t : RecvBuf) : Prop where
  late : t.late = false
  io_fd : ∀ fd, t.io = some fd → fd = t.fd ∧ 0 ≤ t.fd
  io_active : t.io.isSome → t.active ∧ t.running
  reads : t.active → t.failed = false → t.io.isSome

/-- What holds between two events: a buffer that is watched has room. -/
structure Ready (t : RecvBuf) : Prop extends Sound t where
  length_le : t.recvbuf.length ≤ bufSize
  room : t.fault = none → t.io.isSome → t.recvbuf.length < bufSize

variable {t next : RecvBuf} {owner : Owner}

theorem Sound.init (hsound : Sound t) (fd : ℤ) : Sound (t.init fd) := by
  unfold RecvBuf.init
  split
  · next hclosed =>
    -- a watcher would be on a descriptor that is open
    have hio : t.io = none := by
      rw [eq_none_iff_forall_not_mem]
      intro watched hwatched
      have := (hsound.io_fd watched hwatched).2
      omega
    exact { hsound with io_fd := fun _ hwatched => absurd (hio.symm.trans hwatched) (by simp) }
  · exact { hsound with }

/-- A buffer that is not watched is stopped or has failed. -/
theorem Sound.unwatched (hlate : t.late = false) (hio : t.io = none)
    (hstopped : t.active = false ∨ t.failed = true) : Sound t where
  late := hlate
  io_fd fd hwatched := absurd (hio.symm.trans hwatched) (by simp)
  io_active hwatched := by simp [hio] at hwatched
  reads hactive hfailed := by
    rcases hstopped with hfalse | htrue
    · exact absurd (hactive.symm.trans hfalse) (by decide)
    · exact absurd (htrue.symm.trans hfailed) (by decide)

theorem Sound.stop (hsound : Sound t) (clear : Bool) : Sound (t.stop clear) :=
  .unwatched hsound.late rfl (.inl rfl)

/-- A `start` that returns at once. -/
theorem Sound.restart (hsound : Sound t) (hstarted : t.active ∨ t.failed) :
    Sound { t with active := true } where
  late := hsound.late
  io_fd := hsound.io_fd
  io_active hio := ⟨rfl, (hsound.io_active hio).2⟩
  reads _ hfailed := by
    rcases hstarted with hactive | htrue
    · exact hsound.reads hactive hfailed
    · exact absurd (htrue.symm.trans hfailed) (by decide)

/-- Calls without `stop`, by an owner that started the buffer or was told of an error. -/
theorem Sound.calls_noStop {ops : List Op} (hsound : Sound t) (hops : NoStop ops)
    (hstarted : t.active ∨ t.failed) : Sound (ops.foldl nested t) ∧
      (t.active → (ops.foldl nested t).active) := by
  induction ops generalizing t with
  | nil => exact ⟨hsound, id⟩
  | cons op ops ih =>
    have hrest : NoStop ops := fun clear hmem => hops clear (mem_cons_of_mem _ hmem)
    cases op with
    | init fd =>
      have hkept : (t.init fd).active = t.active ∧ (t.init fd).failed = t.failed := by
        unfold RecvBuf.init
        split <;> exact ⟨rfl, rfl⟩
      have hnext := ih (hsound.init fd) hrest (by rwa [hkept.1, hkept.2])
      exact ⟨hnext.1, fun hactive => hnext.2 (hkept.1.trans hactive)⟩
    | start =>
      have hnext := ih (hsound.restart hstarted) hrest (.inl rfl)
      exact ⟨hnext.1, fun _ => hnext.2 rfl⟩
    | stop clear => exact absurd mem_cons_self (hops clear)

theorem Sound.calls_noStart {ops : List Op} (hsound : Sound t) (hops : Op.start ∉ ops) :
    Sound (ops.foldl nested t) := by
  induction ops generalizing t with
  | nil => exact hsound
  | cons op ops ih =>
    have hrest : Op.start ∉ ops := fun hmem => hops (mem_cons_of_mem _ hmem)
    cases op with
    | init fd => exact ih (hsound.init fd) hrest
    | start => exact absurd mem_cons_self hops
    | stop clear => exact ih (hsound.stop clear) hrest

/-- An error stops the watcher before the owner is told. -/
theorem Sound.fail (howner : Tidy owner) (hlate : t.late = false) :
    Sound (({ t with io := none }).onError owner) ∧ (NoStop (owner.onError t.log) → t.active →
        (({ t with io := none }).onError owner).active) := by
  have htold : Sound { t with io := none, log := .onError :: t.log, failed := true } :=
    .unwatched hlate rfl (.inr rfl)
  refine ⟨?_, fun hops hactive => (htold.calls_noStop hops (.inr rfl)).2 hactive⟩
  rcases howner.onError t.log with hops | hops
  · exact (htold.calls_noStop hops (.inr rfl)).1
  · exact htold.calls_noStart hops

/-- Bytes are offered while the buffer is started. -/
theorem Sound.onRead (howner : Tidy owner) (hsound : Sound t) (hactive : t.active) :
    Sound (t.onRead owner) ∧
      (NoStop (owner.onRead t.log t.recvbuf).2 → (t.onRead owner).active) := by
  have hoffered : Sound { t with
      log := .onRead t.recvbuf :: t.log, late := t.late || !t.active } :=
    { hsound with late := by simp [hsound.late, hactive] }
  refine ⟨?_, fun hops => (hoffered.calls_noStop hops (.inl hactive)).2 hactive⟩
  rcases howner.onRead t.log t.recvbuf with hops | ⟨hops, -⟩
  · exact (hoffered.calls_noStop hops (.inl hactive)).1
  · exact hoffered.calls_noStart hops

/-- After a round that took something, bytes are left only to a buffer still started. -/
theorem active_consume (howner : Tidy owner) (hsound : Sound t) (hactive : t.active)
    (htaken : t.taken owner ≠ 0) (hleft : (t.consume owner).recvbuf ≠ []) :
    (t.consume owner).active := by
  rcases howner.onRead t.log t.recvbuf with hops | ⟨-, hnone | hall⟩
  · exact (hsound.onRead howner hactive).2 hops
  · exact absurd hnone htaken
  · refine absurd ?_ hleft
    rw [consume, drop_eq_nil_iff]
    exact hall.ge

theorem io_onError (hio : t.io = none) : (t.onError owner).io = none := by
  have hframed := (framed_calls (owner.onError t.log)
    { t with log := .onError :: t.log, failed := true }).io
  rw [or_iff_right_of_imp fun hsame => hsame.trans hio] at hframed
  exact hframed

theorem recvbuf_onError : (t.onError owner).recvbuf = t.recvbuf := (framed_calls _ _).recvbuf

/-- The loop keeps what holds at all times, and leaves room or no watcher. -/
theorem Sound.feedLoop (howner : Tidy owner) {rounds : ℕ} (hsound : Sound t)
    (hactive : t.recvbuf ≠ [] → t.active) (hlength : t.recvbuf.length ≤ bufSize)
    (hrounds : t.recvbuf.length ≤ rounds) : Ready (t.feedLoop owner rounds) := by
  induction rounds generalizing t with
  | zero => exact ⟨hsound, hlength, fun _ _ => hrounds.trans_lt (by decide)⟩
  | succ _ ih =>
    rw [feedLoop]
    split_ifs with hrun hzero hfull hwrap
    · refine ⟨(Sound.fail howner (hsound.onRead howner (hactive hrun.2.1)).1.late).1, ?_, ?_⟩
      · rw [recvbuf_onError]
        exact (recvbuf_onRead owner t).symm ▸ hlength
      · rw [io_onError rfl]
        exact fun _ hio => absurd hio (by simp)
    · refine ⟨(hsound.onRead howner (hactive hrun.2.1)).1, ?_, fun _ _ => ?_⟩
      · rwa [recvbuf_onRead]
      · rw [recvbuf_onRead]
        exact lt_of_le_of_ne hlength hfull
    · have hread := (hsound.onRead howner (hactive hrun.2.1)).1
      refine ⟨{ hread with }, ?_, fun hfault => ?_⟩
      · exact (recvbuf_onRead owner t).symm ▸ hlength
      · cases hfault
    · have hread := (hsound.onRead howner (hactive hrun.2.1)).1
      have hshorter : (t.consume owner).recvbuf.length ≤ t.recvbuf.length - 1 := by
        rw [consume, length_drop]
        omega
      exact ih { hread with } (active_consume howner hsound (hactive hrun.2.1) hzero)
        (by omega) (by omega)
    · refine ⟨hsound, hlength, fun hfault hio => ?_⟩
      -- the buffer is running, so the loop has ended because it is empty
      have hnil : t.recvbuf = [] := by
        by_contra hbytes
        exact hrun ⟨(hsound.io_active hio).2, hbytes, hfault⟩
      simp [hnil, bufSize]

theorem Sound.feedOut (howner : Tidy owner) (hsound : Sound t)
    (hactive : t.recvbuf ≠ [] → t.active) (hlength : t.recvbuf.length ≤ bufSize) :
    Ready (t.feedOut owner) :=
  hsound.feedLoop howner hactive hlength le_rfl

theorem Ready.start (howner : Tidy owner) (hready : Ready t)
    (honce : t.running → t.active) : Ready (t.start owner) := by
  unfold RecvBuf.start
  split_ifs with hrunning hfd
  · exact ⟨hready.toSound.restart (.inl (honce hrunning)), hready.length_le, hready.room⟩
  · refine ⟨⟨hready.late, hready.io_fd, fun hio => ⟨(hready.io_active hio).1, rfl⟩, hready.reads⟩,
      hready.length_le, fun hfault => ?_⟩
    cases hfault
  · refine Sound.feedOut howner ⟨hready.late, ?_, fun _ => ⟨rfl, rfl⟩, fun _ _ => rfl⟩
      (fun _ => rfl) hready.length_le
    intro fd hwatched
    exact ⟨(some.inj hwatched).symm, not_lt.1 hfd⟩

theorem Sound.take (hsound : Sound t) (count : ℕ) : Sound (t.take count) :=
  { hsound with }

theorem length_take_le (hlength : t.recvbuf.length ≤ bufSize) (avail : ℕ) :
    (t.take (min avail (bufSize - t.recvbuf.length))).recvbuf.length ≤ bufSize := by
  simp only [RecvBuf.take, length_append, length_take]
  omega

theorem Ready.ioCb (howner : Tidy owner) (hready : Ready t) (hio : t.io.isSome) {avail : ℕ}
    {ending : ReadEnd} (honce : StartedOnce owner t (.io avail ending)) :
    Ready (t.ioCb owner avail ending) := by
  have hactive := (hready.io_active hio).1
  unfold RecvBuf.ioCb
  rcases Nat.eq_zero_or_pos (min avail t.input.length) with hnone | hsome
  · rw [hnone, readLoop]
    split_ifs with hfails
    · have hfailed := Sound.fail howner hready.late
      refine hfailed.1.feedOut howner (fun hbytes => ?_) ?_
      · -- the owner was told of the error with bytes in the buffer, and has not stopped it
        rw [recvbuf_onError] at hbytes
        rcases honce with hnil | ⟨havail, hinput⟩ | hagain | hops
        · exact absurd hnil hbytes
        · have := length_pos_of_ne_nil hinput
          omega
        · exact absurd hagain hfails.2.2
        · exact hfailed.2 hops hactive
      · rw [recvbuf_onError]
        exact hready.length_le
    · exact hready.toSound.feedOut howner (fun _ => hactive) hready.length_le
  · rw [readLoop_eq_take (.inl hsome) (min_le_right _ _)]
    exact (hready.toSound.take _).feedOut howner (fun _ => hactive)
      (length_take_le hready.length_le _)

theorem Ready.step (howner : Tidy owner) (hready : Ready t) {event : Event}
    (honce : StartedOnce owner t event) (hstep : step owner t event = some next) : Ready next := by
  rw [IOBuf.step.eq_def] at hstep
  split at hstep
  · cases hstep
  cases event with
  | call op =>
    cases op with
    | init fd =>
      cases hstep
      have hframed := framed_init t fd
      refine ⟨hready.toSound.init fd, hframed.recvbuf ▸ hready.length_le, ?_⟩
      unfold init
      split
      · exact hready.room
      · exact fun hfault => by cases hfault
    | start =>
      cases hstep
      exact hready.start howner honce
    | stop clear =>
      cases hstep
      exact ⟨hready.toSound.stop clear, hready.length_le, fun _ hio => by cases hio⟩
  | lowLatency =>
    cases hstep
    exact ⟨{ hready with }, hready.length_le, hready.room⟩
  | arrive =>
    obtain ⟨-, ⟨⟩⟩ := ite_none_right_eq_some.1 hstep
    exact ⟨{ hready with }, hready.length_le, hready.room⟩
  | io =>
    obtain ⟨hio, ⟨⟩⟩ := ite_none_right_eq_some.1 hstep
    exact hready.ioCb howner hio honce

/-- A buffer that is watched offers what arrives on its descriptor. -/
theorem Ready.offers (hready : Ready t) (hfault : t.fault = none) (hio : t.io.isSome)
    {avail : ℕ} (havail : 0 < avail) (hinput : t.input ≠ []) (ending : ReadEnd) :
    ∃ count next, 0 < count ∧ IOBuf.step owner t (.io avail ending) = some next ∧
      Call.onRead (t.recvbuf ++ t.input.take count) :: t.log <:+ next.log := by
  have hlength := length_pos_of_ne_nil hinput
  have hroom := hready.room hfault hio
  refine ⟨min (min avail t.input.length) (bufSize - t.recvbuf.length), _, by omega,
    by rw [IOBuf.step, hfault, if_neg (by simp)]; exact if_pos hio, ?_⟩
  rw [RecvBuf.ioCb, readLoop_eq_take (.inl (by omega)) (min_le_right _ _)]
  have hbytes : (t.take (min (min avail t.input.length)
      (bufSize - t.recvbuf.length))).recvbuf ≠ [] := by
    rw [← length_pos_iff]
    simp only [RecvBuf.take, length_append, length_take]
    omega
  have hrunning : (t.take (min (min avail t.input.length)
      (bufSize - t.recvbuf.length))).running = true := (hready.io_active hio).2
  exact offered_feedOut hrunning hbytes hfault

theorem ready_new : Ready {} :=
  ⟨.unwatched rfl rfl (.inl rfl), by decide, fun _ _ => by decide⟩

/-- In every run of a buffer that is not started a second time, for an owner that leaves no
bytes behind when it stops: nothing is offered while the buffer is stopped, and after
`start`, until an error is reported, the buffer watches its descriptor and offers what
arrives there. -/
theorem recvBuf_started_once {owner : Owner} (howner : Tidy owner) {t : RecvBuf}
    (hpath : Path (step owner) (StartedOnce owner) {} t) :
    t.late = false ∧
    (t.active → t.failed = false →
      t.io = some t.fd ∧
      (t.fault = none → ∀ avail ending, 0 < avail → t.input ≠ [] →
        ∃ count next, 0 < count ∧ step owner t (.io avail ending) = some next ∧
          Call.onRead (t.recvbuf ++ t.input.take count) :: t.log <:+ next.log)) := by
  have hready := hpath.invariant Ready ready_new
    fun _ _ _ hready honce hstep => hready.step howner honce hstep
  refine ⟨hready.late, fun hactive hfailed => ?_⟩
  have hio := hready.reads hactive hfailed
  refine ⟨?_, fun hfault avail ending havail hinput =>
    hready.offers hfault hio havail hinput ending⟩
  obtain ⟨fd, hfd⟩ := Option.isSome_iff_exists.1 hio
  rw [hfd, (hready.io_fd fd hfd).1]

/-- `FDdriver::read_cb`, which takes everything, when nothing above it calls the buffer. -/
def readCb : Owner where
  onRead _ buf := (buf.length, [])
  onError _ := []

theorem tidy_readCb : Tidy readCb :=
  ⟨fun _ _ => .inl fun _ => not_mem_nil, fun _ => .inl fun _ => not_mem_nil⟩

/-- A driver is started, and bytes arrive. -/
theorem recvBuf_started_once_readCb : ∃ t,
    Transition.runAllowed (step readCb) (StartedOnce readCb) {}
      [.call (.init 5), .lowLatency, .call .start, .arrive [0x11, 0x22]] = some t ∧
    t.active = true ∧ t.failed = false ∧ t.late = false ∧ t.io = some t.fd := by
  refine Transition.exists_state (D := fun t => t.active = true ∧ t.failed = false) (by decide)
    fun t ht hstate => ?_
  have hresult := recvBuf_started_once tidy_readCb (Transition.path_of_runAllowed ht)
  exact ⟨hstate.1, hstate.2, hresult.1, (hresult.2 hstate.1 hstate.2).1⟩

/-- Takes one byte and stops the buffer. -/
def stopsEarly : Owner where
  onRead _ _ := (1, [.stop false])
  onError _ := []

/-- A driver that was stopped and is started again on a new descriptor does not watch it,
and the loop goes on when `on_read` stops the buffer. -/
theorem recvBuf_not_restarted : (∃ t, Transition.run (step readCb) {}
        [.call (.init 5), .lowLatency, .call .start, .arrive [0x11], .io 1 .again,
          .call (.stop true), .call (.init 6), .lowLatency, .call .start, .arrive [0x22]] = some t ∧
      t.active = true ∧ t.failed = false ∧ t.fd = 6 ∧ t.input = [0x22] ∧ t.io = none ∧
      ∀ avail ending, step readCb t (.io avail ending) = none) ∧
    ∃ t, Transition.run (step stopsEarly) {}
        [.call (.init 5), .call .start, .arrive [0x11, 0x22], .io 2 .again] = some t ∧
      t.late = true ∧ t.log = [.onRead [0x22], .onRead [0x11, 0x22]] :=
  ⟨⟨_, rfl, rfl, rfl, rfl, rfl, rfl, fun _ _ => rfl⟩, ⟨_, rfl, rfl, rfl⟩⟩

end Knxd.Restart
