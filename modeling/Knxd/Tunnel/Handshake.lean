import Knxd.Tunnel.Endpoint

/-!
# The handshake of the tunnel client

Once the client has left its connection it waits for a new one: until a connection
response has been accepted, `mod` stays 0 and no tunnel request is sent or taken.
The flag `connected` beside the driver is raised by an accepted response and lowered
whenever the source assigns 0 to `mod`, so that `mod` can be compared with it.

The source breaks this in one place.  When a request has been sent five times without
an answer, `timeout_cb` calls `restart` and then sets `mod` to 1.  In every run in
which the timer does not expire so often, the client is connected only through a
handshake.
-/

namespace Knxd.Handshake

open Memory LPDU EMI Packet Client Transition Endpoint EIBNetIPTunnel Option

/-- The call processes a connection response without an error and with the right
connection data. -/
def Established (d : TunnelDriver) (event : Event) : Prop :=
  ∃ p1 cresp, d.receives event = some p1 ∧ parseConnectResponse p1 = some cresp ∧
    cresp.status = 0 ∧ cresp.crd.length = 3

/-- The call assigns 0 to `mod`, in `restart` or for a packet that disconnects. -/
def clears (d : TunnelDriver) : Event → Bool
  | .stop => d.client.mod ≠ 0
  | .packet p1 =>
    d.client.mod ≠ 0 ∧ d.receives (.packet p1) = some p1 ∧
      reaction d.client p1 ∈ [.restarted, .asked, .left]
  | .timeout => d.overdue .timeout
  | .conntimeout => d.client.mod ≠ 0 ∧ d.client.heartbeatLimit ≤ d.client.heartbeat
  | _ => false

/-- The driver, and whether a connection has been made and not left since. -/
structure Session where
  driver : TunnelDriver := {}
  connected : Bool := false
  deriving DecidableEq, Repr

def step (s : Session) (event : Event) : Option Session :=
  (s.driver.perform event).map fun (driver, _) =>
    { driver
      connected := s.driver.handshakes event || (s.connected && !clears s.driver event) }

variable {event : Event} {d : TunnelDriver} {result : TunnelDriver × List Output}

theorem established_of_handshakes (hevent : d.handshakes event = true) : Established d event := by
  obtain ⟨p1, hreceives, hconnected⟩ := (any_eq_true _ _).1 hevent
  obtain ⟨cresp, hparse, hstatus, hcrd⟩ := reaction_connected hconnected
  exact ⟨p1, cresp, hreceives, hparse, hstatus, hcrd⟩

/-- Without a connection, a call that does not make one neither sends nor takes a
tunnel request. -/
theorem perform_closed (hmod : d.client.mod = 0) (hevent : d.handshakes event = false)
    (hperform : d.perform event = some result) : ∀ output ∈ result.2, tunnels output = false := by
  cases TunnelDriver.calls_of_perform hperform with
  | @start opening =>
    cases opening with
    | none => simp [TunnelDriver.start, tunnels]
    | some => simp [TunnelDriver.start, tunnels, connectRequest, ServiceType.code]
  | stop => simp [TunnelDriver.stop, stop, restart_closed hmod, tunnels]
  | drop | sendLData => simp
  | read _ hreceives hread =>
    rw [TunnelDriver.handshakes, hreceives, any_some] at hevent
    exact (readCb_closed hmod hevent hread).2
  | trigger => simp [TunnelDriver.triggerCb, TunnelDriver.triggerCb_closed hmod]
  | timeout => simp [TunnelDriver.timeoutCb, timeoutCb, hmod]
  | conntimeout => simp [TunnelDriver.conntimeoutCb, conntimeoutCb, hmod, tunnels]
  | error => simp [tunnels]

theorem perform_closed_mod (hmod : d.client.mod = 0) (hevent : d.handshakes event = false)
    (hperform : d.perform event = some result) : result.1.client.mod = 0 := by
  cases TunnelDriver.change_of_perform hperform with
  | connects hhandshake => exact absurd (hevent.symm.trans hhandshake) (by decide)
  | without hclosed => exact hclosed
  | opens _ hopen | keeps hopen | repeats hopen => exact absurd hmod hopen
  | overdue hlate => simp [TunnelDriver.overdue, hmod] at hlate

/-- A call that assigns 0 to `mod` leaves it at 0, unless it is the retransmission
timer. -/
theorem clears_perform (hclears : clears d event = true) (htime : d.overdue event = false)
    (hperform : d.perform event = some result) : result.1.client.mod = 0 := by
  cases TunnelDriver.calls_of_perform hperform with
  | start | sendLData | trigger | error => cases hclears
  | timeout => exact absurd (htime.symm.trans hclears) (by decide)
  | stop => exact restart_mod d.client
  | drop hdropped =>
    obtain ⟨-, hreceives, -⟩ := of_decide_eq_true hclears
    exact absurd (hdropped.symm.trans hreceives) (by simp)
  | read _ _ hread =>
    obtain ⟨-, -, hreaction⟩ := of_decide_eq_true hclears
    exact readCb_leaves hreaction hread
  | conntimeout =>
    obtain ⟨hmod, hlimit⟩ := of_decide_eq_true hclears
    simp only [TunnelDriver.conntimeoutCb, conntimeoutCb, if_pos hmod, if_neg (not_lt.2 hlimit)]
    exact restart_mod _

/-- The retransmission timer does not expire for a request that has been sent five
times. -/
def inTime (s : Session) (event : Event) : Prop :=
  s.driver.overdue event = false
  deriving Decidable

def Handshaken (s : Session) : Prop :=
  s.driver.client.mod ≠ 0 → s.connected = true

theorem handshaken_step {s next : Session} (h : Handshaken s) (htime : inTime s event)
    (hstep : step s event = some next) : Handshaken next := by
  obtain ⟨⟨driver, _⟩, hperform, rfl⟩ := map_eq_some_iff.1 hstep
  intro hmod
  have hclears : clears s.driver event = false := by
    by_contra hclears
    exact hmod (clears_perform (Bool.not_eq_false _ ▸ hclears) htime hperform)
  cases TunnelDriver.change_of_perform hperform with
  | connects hevent => simp [hevent]
  | without hclosed => exact absurd hclosed hmod
  | opens _ hopen | keeps hopen | repeats hopen => simp [hclears, h hopen]
  | overdue hevent => exact absurd (htime.symm.trans hevent) (by decide)

/-- In every run in which the retransmission timer does not expire for a request that
has been sent five times: while no connection has been made since the last one was
left, `mod` is 0, and a call that does not process a good connection response keeps
it at 0 and neither sends nor takes a tunnel request. -/
theorem connected_by_handshake (monitor : Bool) (heartbeatTime heartbeatLimit : ℕ)
    (dataport : BitVec 16) {s : Session}
    (hpath : Path step inTime
      { driver := configured monitor heartbeatTime heartbeatLimit dataport } s)
    (hleft : s.connected = false) :
    s.driver.client.mod = 0 ∧
      ∀ event next outputs, s.driver.perform event = some (next, outputs) →
        ¬ Established s.driver event →
          next.client.mod = 0 ∧ ∀ output ∈ outputs, tunnels output = false := by
  have hinvariant : Handshaken s :=
    hpath.invariant Handshaken (fun hmod => absurd rfl hmod)
      (fun _ _ _ h htime hstep => handshaken_step h htime hstep)
  have hmod : s.driver.client.mod = 0 := by
    by_contra hopen
    exact absurd (hleft.symm.trans (hinvariant hopen)) (by decide)
  refine ⟨hmod, fun event next outputs hperform hnot => ?_⟩
  have hevent : s.driver.handshakes event = false :=
    Bool.eq_false_iff.2 fun hevent => hnot (established_of_handshakes hevent)
  exact ⟨perform_closed_mod hmod hevent hperform, perform_closed hmod hevent hperform⟩

/-- The server ends the connection on channel 7. -/
def ending : EIBNetIPPacket :=
  { disconnectRequestToPacket { channel := 7, caddr := controlAddr } with src := controlAddr }

theorem connected_by_handshake_ended :
    ∃ s, runAllowed step inTime { driver := configured false 30 3 0 }
        [.start (some opening), .packet accepting, .packet ending] = some s ∧
      s.connected = false ∧ s.driver.client.channel = some 7 ∧ s.driver.client.mod = 0 ∧
      ∀ event next outputs, s.driver.perform event = some (next, outputs) →
        ¬ Established s.driver event →
          next.client.mod = 0 ∧ ∀ output ∈ outputs, tunnels output = false :=
  exists_state (D := fun s => s.connected = false ∧ s.driver.client.channel = some 7)
    (by decide +kernel) fun _ hs hleft =>
      ⟨hleft.1, hleft.2, connected_by_handshake false 30 3 0 (path_of_runAllowed hs) hleft.1⟩

/-- A request is sent five times without an answer.  The client tells the server that
it disconnects, but then sets `mod` to 1: it takes a request of the server on the
channel it has left. -/
theorem unconnected_reached :
    ∃ s outputs next, Path step anyEvent { driver := configured false 30 3 0 } s ∧
      s.connected = false ∧ s.driver.client.mod = 1 ∧
      s.driver.perform (.packet (telegramFrom controlAddr)) = some (next, outputs) ∧
      outputs.all tunnels = true ∧ outputs.length = 2 := by
  obtain ⟨s, hs, hleft, hmod, ⟨next, outputs⟩, hperform, hvalues⟩ : ∃ s,
      run step { driver := configured false 30 3 0 }
        [.start (some opening), .packet accepting, .sendLData { data := [0x00, 0x81] }, .trigger,
          .timeout, .trigger, .timeout, .trigger, .timeout, .trigger, .timeout, .trigger,
          .timeout] = some s ∧ s.connected = false ∧ s.driver.client.mod = 1 ∧
      ∃ result, s.driver.perform (.packet (telegramFrom controlAddr)) = some result ∧
        result.2.all tunnels = true ∧ result.2.length = 2 := by decide +kernel
  exact ⟨s, outputs, next, path_of_run hs, hleft, hmod, hperform, hvalues⟩

end Knxd.Handshake
