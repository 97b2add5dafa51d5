import Knxd.Routing.Traffic

/-!
# What a step does to the frames

The events of the router, sorted by what they can do to the frames on their way and
to the links these come from: nothing, one link gets a copy, a frame is queued, a
frame leaves the queue to be distributed, or the links themselves change.
-/

namespace Knxd.Frames

open Memory LPDU Link Routing Traffic Option

structure PortFits (port : Port) (book : Addr → Bool) : Prop where
  isLocal : port.isLocal → port.kind = .cache
  cache : port.kind = .cache → port.addr = 0
  single : port.kind = .single → book port.addr

/-- The steps of the program, seen from the frames and the links they come from. -/
inductive Effect (t : Relay) : Traffic.Event → Relay → Prop
  | quiet {event : Traffic.Event} {next : Relay} :
      KeepsBooks t.router next.router → next.port = t.port → next.buf.Sublist t.buf →
      next.sending = t.sending → next.forceBroadcast = t.forceBroadcast → Effect t event next
  | passes {event : Traffic.Event} {next : Relay} {frame : LDataPDU} {key : ℕ} :
      frame ∈ inFlight t.router.stack → Passes t.router next.router frame key →
      next.port = t.port → next.buf = t.buf → next.sending = t.sending →
      next.forceBroadcast = t.forceBroadcast → Effect t event next
  | receives {key : ℕ} {l : LDataPDU} {link : LinkConnect} :
      t.router.object key = some link → t.sends key l →
      Effect t (.receive key l) (t.recvLData key l)
  | registers {event : Traffic.Event} {next : Relay} {key : ℕ} {port : Port} {book : Addr → Bool} :
      Registers t.router next.router key book → next.port = Function.update t.port key port →
      PortFits port book → next.buf = t.buf → next.sending = t.sending →
      next.forceBroadcast = t.forceBroadcast →
      Effect t event next
  | addresses {key : ℕ} {addr : Addr} : (t.port key).kind = .bus → Effect t (.setAddress key addr)
        { t with port := Function.update t.port key { t.port key with addr } }
  | distributes {event : Traffic.Event} {next : Relay} {queued : Queued} {l : LDataPDU} {now : ℕ}
      {ignored : List IgnoreInfo} :
      t.buf = queued :: next.buf →
      triggerFrame t.forceBroadcast t.router.addr now t.ignore queued.frame =
        .ok (some l, ignored) →
      SameBooks t.router next.router →
      Routing.sends next.router.log = Routing.sends t.router.log →
      (∀ frame ∈ inFlight next.router.stack, frame = l) →
      (∀ weight, load weight next.router.stack ≤ t.router.links.length * weight l) →
      next.port = t.port → next.sending = queued.origin →
      next.forceBroadcast = t.forceBroadcast → Effect t event next

structure SameFrames (t next : Relay) : Prop where
  router : next.router = t.router
  port : next.port = t.port
  buf : next.buf = t.buf
  sending : next.sending = t.sending
  forceBroadcast : next.forceBroadcast = t.forceBroadcast

/-- The link of the group cache answers for address 0 only, and accepts no individual
destination. -/
def Screened (port : Port) (link : LinkConnect) : Prop :=
  port.kind = .cache → link.hasAddress = (fun other => other == 0) ∧
    link.checkAddress = fun _ => false

/-- The steps of the program, seen from the router: at most one event of the router's
own machine, and what happens to the fields around it. -/
inductive Calls (t : Relay) : Traffic.Event → Relay → Prop
  | aside {event : Traffic.Event} {next : Relay} : SameFrames t next → Calls t event next
  | aborts {event : Traffic.Event} {next : Relay} {fault : Fault} :
      SameFrames { t with router := { t.router with fault := some fault } } next →
      Calls t event next
  | drops {event : Traffic.Event} {next : Relay} {queued : Queued} {buf : List Queued} :
      t.buf = queued :: buf → SameFrames { t with buf } next → Calls t event next
  | asks {event : Traffic.Event} {next : Relay} {request : Routing.Event} {router : Router} :
      request.internal → Routing.step t.router request = some router →
      SameFrames { t with router } next → Calls t event next
  | receives {key : ℕ} {l : LDataPDU} {link : LinkConnect} :
      t.router.object key = some link → t.sends key l →
      Calls t (.receive key l) (t.recvLData key l)
  | registers {event : Traffic.Event} {next : Relay} {key : ℕ} {port : Port}
      {config : LinkConnect} {transient : Bool} {router : Router} :
      Routing.step t.router (.registerLink key config transient) = some router →
      PortFits port config.hasAddress → Screened port config →
      SameFrames { t with router, port := Function.update t.port key port } next →
      Calls t event next
  | addresses {key : ℕ} {addr : Addr} : (t.port key).kind = .bus → Calls t (.setAddress key addr)
        { t with port := Function.update t.port key { t.port key with addr } }
  | distributes {event : Traffic.Event} {next : Relay} {queued : Queued} {buf : List Queued}
      {l : LDataPDU} {now : ℕ} {ignored : List IgnoreInfo} {router : Router} :
      t.buf = queued :: buf →
      triggerFrame t.forceBroadcast t.router.addr now t.ignore queued.frame =
        .ok (some l, ignored) →
      Routing.step { t.router with lowSendMore := false } (.sendLData l) = some router →
      SameFrames { t with router, buf, sending := queued.origin } next → Calls t event next

section Calls

variable {t base next : Relay} {event : Traffic.Event}
variable {key id : ℕ} {book : Addr → Bool} {config : LinkConnect} {client : Client}

theorem Calls.register {port : Port} {transient : Bool}
    (hregister : base.register key port book config transient = some next)
    (hsame : SameFrames t base) (hfits : PortFits port book)
    (hscreened : Screened port { config with hasAddress := book }) : Calls t event next := by
  obtain ⟨router, hstep, rfl⟩ := map_eq_some_iff.1 hregister
  refine .registers (hsame.router ▸ hstep) hfits hscreened { hsame with
      router := rfl, port := ?_ }
  rw [← hsame.port]

/-- A registration with a new record of a client. -/
theorem Calls.registerClient {port : Port} {transient : Bool} (hsame : SameFrames t base)
    (hadd : ((base.register key port book config transient).map
      fun registered => registered.setClient id client) = some next) (hfits : PortFits port book)
    (hkind : port.kind ≠ .cache) : Calls t event next := by
  obtain ⟨_, hregister, rfl⟩ := map_eq_some_iff.1 hadd
  obtain ⟨router, hstep, rfl⟩ := map_eq_some_iff.1 hregister
  refine .registers (hsame.router ▸ hstep) hfits (fun hcache => absurd hcache hkind) { hsame with
      router := rfl, port := ?_ }
  rw [← hsame.port]
  rfl

theorem Calls.closeLink (hsame : SameFrames t base) (hclose : base.closeLink id client = some next)
    : Calls t event next := by
  obtain ⟨_, hunregister, rfl⟩ := map_eq_some_iff.1 hclose
  obtain ⟨rfl, -⟩ | ⟨_, router, -, hstep, rfl⟩ := unregister_cases hunregister
  · exact .aside { hsame with }
  · rw [hsame.router] at hstep
    exact .asks rfl hstep { hsame with router := rfl }

theorem Calls.trigger {now : ℕ} (htrigger : t.trigger now = some next) : Calls t event next := by
  cases passes_of_trigger htrigger with
  | aborts => exact .aborts ⟨rfl, rfl, rfl, rfl, rfl⟩
  | drops _ hbuf => exact .drops hbuf ⟨rfl, rfl, rfl, rfl, rfl⟩
  | distributes hbuf hframe hstep => exact .distributes hbuf hframe hstep ⟨rfl, rfl, rfl, rfl, rfl⟩

theorem portFits_bus {addr : Addr} : PortFits { given := addr } book :=
  ⟨by simp, by simp, by simp⟩

theorem portFits_single {addr : Addr} :
    PortFits { kind := .single, addr, given := addr } fun other => other == addr :=
  ⟨by simp, by simp, by simp⟩

theorem sameFrames_getClientAddr (t : Relay) : SameFrames t t.getClientAddr.2 :=
  ⟨rfl, rfl, rfl, rfl, rfl⟩

theorem sameFrames_releaseClient (t : Relay) (id : ℕ) (client : Client) :
    SameFrames t (t.releaseClient id client) := by
  unfold Relay.releaseClient Relay.release
  split <;> exact ⟨rfl, rfl, rfl, rfl, rfl⟩

theorem Calls.openConn (hopen : t.openConn id key client config = some next) :
    Calls t event next := by
  cases opens_of_openConn hopen with
  | full => exact .aside (sameFrames_getClientAddr t)
  | allotted _ _ hregister =>
    exact .registerClient (sameFrames_getClientAddr t) hregister portFits_single (by simp)
  | kept _ hregister =>
    exact .registerClient ⟨rfl, rfl, rfl, rfl, rfl⟩ hregister portFits_single (by simp)

/-- Inversion of a step. -/
theorem calls_of_step (hstep : Traffic.step t event = some next) : Calls t event next := by
  rw [Traffic.step.eq_def] at hstep
  split at hstep
  · cases hstep
  cases event with
  | router =>
    obtain ⟨hinternal, hon⟩ := ite_none_right_eq_some.1 hstep
    obtain ⟨router, hrouter, rfl⟩ := map_eq_some_iff.1 hon
    exact .asks hinternal hrouter ⟨rfl, rfl, rfl, rfl, rfl⟩
  | receive =>
    obtain ⟨⟨-, hsome, hsends⟩, ⟨⟩⟩ := ite_none_right_eq_some.1 hstep
    obtain ⟨_, hobject⟩ := isSome_iff_exists.1 hsome
    exact .receives hobject hsends
  | setAddress =>
    obtain ⟨hbus, ⟨⟩⟩ := ite_none_right_eq_some.1 hstep
    exact .addresses hbus
  | registerBus =>
    exact .register hstep ⟨rfl, rfl, rfl, rfl, rfl⟩ portFits_bus (by simp [Screened])
  | registerServer =>
    exact .register hstep ⟨rfl, rfl, rfl, rfl, rfl⟩ ⟨by simp, by simp, by simp⟩ (by simp [Screened])
  | registerCache =>
    obtain ⟨-, hregister⟩ := ite_none_right_eq_some.1 hstep
    exact .register hregister ⟨rfl, rfl, rfl, rfl, rfl⟩ ⟨by simp, by simp, by simp⟩
      fun _ => ⟨rfl, rfl⟩
  | clientConnection =>
    obtain ⟨-, ⟨⟩⟩ := ite_none_right_eq_some.1 hstep
    exact .aside ⟨rfl, rfl, rfl, rfl, rfl⟩
  | openConn =>
    obtain ⟨client, -, hopen⟩ := bind_eq_some_iff.1 hstep
    exact .openConn (ite_none_right_eq_some.1 hopen).2
  | exitConn | dropConn =>
    obtain ⟨client, -, hclose⟩ := bind_eq_some_iff.1 hstep
    exact .closeLink ⟨rfl, rfl, rfl, rfl, rfl⟩ hclose
  | clientStop id =>
    obtain ⟨client, -, hclose⟩ := bind_eq_some_iff.1 hstep
    exact .closeLink (sameFrames_releaseClient t id client) hclose
  | addTunnel =>
    obtain ⟨-, hadd⟩ := ite_none_right_eq_some.1 hstep
    unfold Relay.addTunnel at hadd
    dsimp only at hadd
    split at hadd
    · cases hadd
      exact .aside (sameFrames_getClientAddr t)
    · exact .registerClient (sameFrames_getClientAddr t) hadd portFits_bus (by simp)
  | addConfig =>
    obtain ⟨-, hadd⟩ := ite_none_right_eq_some.1 hstep
    exact .registerClient ⟨rfl, rfl, rfl, rfl, rfl⟩ hadd portFits_bus (by simp)
  | connStop id =>
    obtain ⟨client, -, rfl⟩ := map_eq_some_iff.1 hstep
    exact .aside (sameFrames_releaseClient t id client)
  | trigger => exact .trigger (ite_none_right_eq_some.1 hstep).2
  | expire =>
    cases hstep
    exact .aside ⟨rfl, rfl, rfl, rfl, rfl⟩

end Calls

/-- What a step does to the frames follows from what it asks of the router. -/
theorem effect_of_step {t next : Relay} {event : Traffic.Event}
    (hstep : Traffic.step t event = some next) : Effect t event next := by
  cases calls_of_step hstep with
  | aside hsame =>
    exact .quiet (hsame.router ▸ .refl _) hsame.port (by rw [hsame.buf]) hsame.sending
      hsame.forceBroadcast
  | aborts hsame =>
    exact .quiet (hsame.router ▸ .of_fields rfl rfl rfl rfl rfl) hsame.port (by rw [hsame.buf])
      hsame.sending hsame.forceBroadcast
  | @drops _ _ queued buf hbuf hsame =>
    refine .quiet (hsame.router ▸ .refl _) hsame.port ?_ hsame.sending hsame.forceBroadcast
    rw [hsame.buf, hbuf]
    exact List.sublist_cons_self queued buf
  | asks hinternal hrouter hsame =>
    obtain ⟨hnext, hport, hbuf, hsending, hforce⟩ := hsame
    obtain rfl := hnext
    obtain hkeeps | ⟨frame, hframe, key, hpasses⟩ := step_books hinternal hrouter
    · exact .quiet hkeeps hport (by rw [hbuf]) hsending hforce
    · exact .passes hframe hpasses hport hbuf hsending hforce
  | receives hobject hsends => exact .receives hobject hsends
  | registers hrouter hfits _ hsame =>
    obtain ⟨hnext, hport, hbuf, hsending, hforce⟩ := hsame
    obtain rfl := hnext
    exact .registers (registers_of_step hrouter) hport hfits hbuf hsending hforce
  | addresses hbus => exact .addresses hbus
  | distributes hbuf htrigger hrouter hsame =>
    obtain ⟨hnext, hport, hrest, hsending, hforce⟩ := hsame
    obtain rfl := hnext
    obtain ⟨⟨haddr, hbook, hlinks, hnodup⟩, hsends, hflight, hload⟩ := sendLData_books hrouter
    exact .distributes (hrest ▸ hbuf) htrigger ⟨haddr, hbook, hlinks, hnodup⟩ hsends hflight
      hload hport hsending hforce

/-- The frames that a step passed to links. -/
def newSends (before after : Relay) : List (ℕ × LDataPDU) :=
  let sent := Routing.sends after.router.log
  sent.take (sent.length - (Routing.sends before.router.log).length)

section Traffic

variable {t next : Relay}

theorem newSends_eq_nil (hsends : Routing.sends next.router.log = Routing.sends t.router.log) :
    newSends t next = [] := by
  rw [newSends, hsends, Nat.sub_self, List.take_zero]

theorem newSends_eq_singleton {entry : ℕ × LDataPDU}
    (hsends : Routing.sends next.router.log = entry :: Routing.sends t.router.log) :
    newSends t next = [entry] := by
  simp [newSends, hsends]

/-- The frame of a receipt joins the queue, or nothing does. -/
theorem buf_recvLData (t : Relay) (key : ℕ) (received : LDataPDU) :
    (t.recvLData key received).buf = t.buf ∨
      (t.recvLData key received).buf = t.buf ++ [⟨t.accepted key received, key⟩] := by
  have hqueue : ∀ u : Relay, u.buf = t.buf →
      (u.queueLData key (t.accepted key received)).buf = t.buf ∨
      (u.queueLData key (t.accepted key received)).buf =
        t.buf ++ [⟨t.accepted key received, key⟩] := by
    intro u hbuf
    unfold Relay.queueLData
    split
    · exact .inr (by rw [hbuf])
    · exact .inl hbuf
  obtain hsame | ⟨hrecv, -⟩ | ⟨hrecv, -⟩ := recvLData_cases t key received
  · exact .inl (by rw [hsame])
  · rw [hrecv]
    exact hqueue t rfl
  · rw [hrecv]
    apply hqueue
    obtain ⟨link, -, -, hadd⟩ | ⟨hadd, -⟩ | hadd :=
      addAddress_cases t key (t.sourceOf key received) <;> rw [hadd]

/-- Receiving does not touch what is being distributed, nor the settings. -/
theorem recvLData_frame (t : Relay) (key : ℕ) (received : LDataPDU) :
    (t.recvLData key received).router.stack = t.router.stack ∧
      (t.recvLData key received).router.addr = t.router.addr ∧
      (t.recvLData key received).forceBroadcast = t.forceBroadcast := by
  apply recvLData_preserves (P := fun next => next.router.stack = t.router.stack ∧
    next.router.addr = t.router.addr ∧ next.forceBroadcast = t.forceBroadcast)
  · exact ⟨rfl, rfl, rfl⟩
  · exact fun _ _ => id
  · exact fun _ _ _ _ => ⟨rfl, rfl, rfl⟩
  · exact ⟨rfl, rfl, rfl⟩

end Traffic

end Knxd.Frames
