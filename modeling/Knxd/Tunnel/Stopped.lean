import Knxd.Tunnel.Channels

/-!
# Stopped connections

A connection that was stopped stays in the list of the server until the drop queue
is processed, and requests are passed to it as before: it hands their frames to the
router and acknowledges them.  Every stopped connection in the list is in the drop
queue, and the processing of the queue removes them all, for good.  So a stopped
connection gets no request that arrives when no connection in the drop queue has
its channel.
-/

namespace Knxd.Stopped

open Memory LPDU Packet Connection Server ServerChanges List EIBnetServer Option
open Channels Transition
open Acknowledge (groupWrite)
open Conservation (smallServer tunnelConnect quietEnv)

variable {result : ConnState × List Output}

/-- The packet is a `TUNNEL_REQUEST` or a `DEVICE_CONFIGURATION_REQUEST`. -/
def isRequest (p1 : EIBNetIPPacket) : Prop :=
  ServiceType.ofCode p1.service = some .tunnelRequest ∨
    ServiceType.ofCode p1.service = some .deviceConfigurationRequest

def passTo (s : EIBnetServer) (parsed : Option EIBnetRequest)
    (handle : ConnState → EIBnetRequest → Run (ConnState × List Output)) :
    Option (Conn × ConnState × List Output) := do
  let r1 ← parsed
  let conn ← s.findChannel r1.channel
  let result ← (handle conn.state r1).toOption
  some (conn, result)

/-- The connection to which `handle_packet` passes a request, and what comes of it. -/
def passedOn (s : EIBnetServer) (p1 : EIBNetIPPacket) : Option (Conn × ConnState × List Output) :=
  match ServiceType.ofCode p1.service with
  | some .tunnelRequest =>
    if s.tunnel then passTo s (parseTunnelRequest p1) ConnState.tunnelRequest else none
  | some .deviceConfigurationRequest => passTo s (parseConfigRequest p1) ConnState.configRequest
  | _ => none

variable {s next : EIBnetServer} {p1 : EIBNetIPPacket} {env : Env} {sent : List EIBNetIPPacket}
variable {event : Event} {conn : Conn} {ident : ℕ}

  {conn : Conn} {result : ConnState × List Output} {parsed : Option EIBnetRequest}
  {handle : ConnState → EIBnetRequest → Run (ConnState × List Output)}

theorem passTo_eq_some_iff : passTo s parsed handle = some (conn, result) ↔
    ∃ r1, parsed = some r1 ∧ s.findChannel r1.channel = some conn ∧
      handle conn.state r1 = .ok result := by
  simp only [passTo, bind_eq_bind, bind_eq_some_iff, some.injEq, Prod.mk.injEq]
  constructor
  · rintro ⟨r1, hparsed, _, hfound, _, houtcome, rfl, rfl⟩
    exact ⟨r1, hparsed, hfound, toOption_eq_some_iff.1 houtcome⟩
  · rintro ⟨r1, hparsed, hfound, houtcome⟩
    exact ⟨r1, hparsed, conn, hfound, result, toOption_eq_some_iff.2 houtcome, rfl, rfl⟩

/-- `handle_packet` does with a request what the connection does, and nothing when
there is none. -/
theorem dispatch_passTo
    (hrun : s.dispatch parsed (·.channel) handle (fun _ => []) = .ok (next, sent)) :
    (∃ conn result, passTo s parsed handle = some (conn, result) ∧
        next = s.update conn.ident result ∧ sent = sentPackets result.2) ∨
      passTo s parsed handle = none ∧ next = s ∧ sent = [] := by
  unfold dispatch at hrun
  split at hrun
  · cases hrun
    exact .inr ⟨rfl, rfl, rfl⟩
  · next r1 =>
    split at hrun
    · next hnone =>
      cases hrun
      exact .inr ⟨by simp [passTo, hnone], rfl, rfl⟩
    · next conn hfind =>
      obtain ⟨outcome, houtcome, hrun⟩ := bind_eq_ok_iff.1 hrun
      cases hrun
      exact .inl ⟨conn, outcome, passTo_eq_some_iff.2 ⟨r1, rfl, hfind, houtcome⟩, rfl, rfl⟩

theorem handlePacket_request (hrequest : isRequest p1)
    (hrun : s.handlePacket p1 env = .ok (next, sent)) :
    (∃ conn result, passedOn s p1 = some (conn, result) ∧
        next = s.update conn.ident result ∧ sent = sentPackets result.2) ∨
      passedOn s p1 = none ∧ next = s ∧ sent = [] := by
  unfold passedOn
  unfold handlePacket at hrun
  rcases hrequest with hservice | hservice
  · rw [hservice] at hrun ⊢
    dsimp only at hrun ⊢
    split
    · next htunnel =>
      rw [if_pos htunnel] at hrun
      exact dispatch_passTo hrun
    · next htunnel =>
      rw [if_neg htunnel] at hrun
      cases hrun
      exact .inr ⟨rfl, rfl, rfl⟩
  · rw [hservice] at hrun ⊢
    exact dispatch_passTo hrun

/-- A request goes to a connection in the list that has its channel. -/
theorem passedOn_channel (hpassed : passedOn s p1 = some (conn, result)) :
    ∃ r1, (parseTunnelRequest p1 = some r1 ∨ parseConfigRequest p1 = some r1) ∧
      conn ∈ s.connections ∧ conn.state.channel = r1.channel := by
  have hfound : ∀ {r1 : EIBnetRequest}, s.findChannel r1.channel = some conn →
      conn ∈ s.connections ∧ conn.state.channel = r1.channel := by
    intro r1 hfind
    exact ⟨mem_of_find?_eq_some hfind, by simpa using find?_some hfind⟩
  unfold passedOn at hpassed
  split at hpassed
  · split at hpassed
    · obtain ⟨r1, hparsed, hfind, -⟩ := passTo_eq_some_iff.1 hpassed
      exact ⟨r1, .inl hparsed, hfound hfind⟩
    · cases hpassed
  · obtain ⟨r1, hparsed, hfind, -⟩ := passTo_eq_some_iff.1 hpassed
    exact ⟨r1, .inr hparsed, hfound hfind⟩
  · cases hpassed

/-- Every stopped connection in the list waits to be dropped. -/
structure Queued (s : EIBnetServer) : Prop where
  numbered : Numbered s
  stopped : ∀ conn ∈ s.connections, conn.state.active = false → conn.ident ∈ s.dropQ

/-- A connection after an update is another one as it was, or the one updated. -/
theorem mem_update_cases {ident : ℕ} (hconn : conn ∈ (s.update ident result).connections) :
    conn ∈ s.connections ∧ conn.ident ≠ ident ∨ conn.ident = ident ∧ conn.state = result.1 := by
  obtain ⟨other, hother, rfl⟩ := mem_map.1 hconn
  by_cases heq : other.ident = ident
  · rw [if_pos heq]
    exact .inr ⟨heq, rfl⟩
  · rw [if_neg heq]
    exact .inl ⟨hother, heq⟩

theorem Queued.update (h : Queued s) (hconn : conn ∈ s.connections)
    (houtcome : Outcome conn.state result) : Queued (s.update conn.ident result) := by
  refine ⟨h.numbered.update hconn houtcome.channel, fun other hother hstopped => ?_⟩
  rcases mem_update_cases hother with ⟨hold, -⟩ | ⟨hident, hstate⟩
  · exact mem_append_left _ (h.stopped other hold hstopped)
  · rw [hstate] at hstopped
    rw [hident]
    cases houtcome with
    | stays _ _ hactive => exact mem_append_left _ (h.stopped conn hconn (hactive ▸ hstopped))
    | stops _ _ _ _ hdrop =>
      apply mem_append_right
      rw [if_pos hdrop]
      exact mem_singleton_self _

theorem Queued.connectRequest (h : Queued s) (r1 : EIBnetConnectRequest) (env : Env) :
    Queued (s.connectRequest r1 env).1 := by
  refine ⟨h.numbered.connectRequest r1 env, ?_⟩
  rcases answered_connectRequest s r1 env with ⟨pool, addr, type, -, hnext, -⟩ | ⟨pool, hnext, -⟩
  · rw [hnext]
    intro conn hconn hstopped
    rcases mem_append.1 hconn with hold | hnew
    · exact h.stopped conn hold hstopped
    · obtain rfl := mem_singleton.1 hnew
      cases hstopped
  · rw [hnext]
    exact h.stopped

theorem ident_ne_of_mem_eraseP {connections : List Conn} {ident : ℕ}
    (hidents : (connections.map (·.ident)).Nodup)
    (hconn : conn ∈ connections.eraseP (·.ident = ident)) : conn.ident ≠ ident := by
  induction connections with
  | nil => cases hconn
  | cons first _ ih =>
    rw [map_cons, nodup_cons] at hidents
    by_cases heq : first.ident = ident
    · rw [eraseP_cons_of_pos (by simpa using heq)] at hconn
      rintro rfl
      exact hidents.1 (heq ▸ mem_map_of_mem hconn)
    · rw [eraseP_cons_of_neg (by simpa using heq)] at hconn
      rcases mem_cons.1 hconn with rfl | hrest
      · exact heq
      · exact ih hidents.2 hrest

/-- `drop_trigger_cb` removes everything in the drop queue. -/
theorem not_mem_dropQ_of_mem (hidents : (s.connections.map (·.ident)).Nodup)
    (hconn : conn ∈ s.dropTriggerCb.connections) : conn.ident ∉ s.dropQ := by
  have hloop : ∀ (idents : List ℕ) (connections : List Conn), (connections.map (·.ident)).Nodup →
      conn ∈ idents.foldl (fun connections ident => connections.eraseP (·.ident = ident))
        connections → conn.ident ∉ idents ∧ conn ∈ connections := by
    intro idents
    induction idents with
    | nil => exact fun connections _ hmem => ⟨not_mem_nil, hmem⟩
    | cons ident _ ih =>
      intro connections hnodup hmem
      have hsublist : (connections.eraseP (·.ident = ident)).Sublist connections := eraseP_sublist
      obtain ⟨hlater, hkept⟩ := ih _ (hnodup.sublist (hsublist.map _)) hmem
      refine ⟨?_, hsublist.subset hkept⟩
      rw [mem_cons, not_or]
      exact ⟨ident_ne_of_mem_eraseP hnodup hkept, hlater⟩
  exact (hloop s.dropQ s.connections hidents hconn).1

/-- After that, no stopped connection is left. -/
theorem Queued.active_of_mem_dropTriggerCb (h : Queued s)
    (hconn : conn ∈ s.dropTriggerCb.connections) : conn.state.active = true := by
  by_contra hstopped
  have hmem := (dropTriggerCb_sublist s).subset hconn
  exact not_mem_dropQ_of_mem h.numbered.idents_nodup hconn
    (h.stopped conn hmem (Bool.eq_false_iff.2 hstopped))

theorem Queued.step (h : Queued s) (hstep : s.step event = some next) : Queued next := by
  have hnumbered := h.numbered.step hstep
  cases change_of_step hstep with
  | quiet => exact h
  | updates _ hconn _ houtcome => exact h.update hconn houtcome
  | connects _ env r1 => exact h.connectRequest r1 env
  | stopsAll =>
    exact stopAll_rule h.numbered.idents_nodup h fun _ conn hbefore hconn =>
      hbefore.update hconn (outcome_stop conn.state)
  | drops =>
    refine ⟨hnumbered, fun conn hconn hstopped => ?_⟩
    rw [h.active_of_mem_dropTriggerCb hconn] at hstopped
    cases hstopped
  | allocates | releases => exact ⟨hnumbered, h.stopped⟩

/-- The connection object was created, and it is stopped or no longer in the list. -/
structure Retired (ident : ℕ) (s : EIBnetServer) : Prop where
  created : ident < s.created
  stopped : ∀ conn ∈ s.connections, conn.ident = ident → conn.state.active = false

theorem Retired.update (h : Retired ident s) (hconn : conn ∈ s.connections)
    (houtcome : Outcome conn.state result) : Retired ident (s.update conn.ident result) := by
  refine ⟨h.created, fun other hother hident => ?_⟩
  rcases mem_update_cases hother with ⟨hold, -⟩ | ⟨hsame, hstate⟩
  · exact h.stopped other hold hident
  · rw [hstate]
    exact houtcome.stopped (h.stopped conn hconn (hsame.symm.trans hident))

theorem Retired.connectRequest (h : Retired ident s) (r1 : EIBnetConnectRequest) (env : Env) :
    Retired ident (s.connectRequest r1 env).1 := by
  rcases answered_connectRequest s r1 env with ⟨pool, addr, type, -, hnext, -⟩ | ⟨pool, hnext, -⟩
  · rw [hnext]
    refine ⟨h.created.trans (Nat.lt_succ_self _), fun conn hconn hident => ?_⟩
    rcases mem_append.1 hconn with hold | hnew
    · exact h.stopped conn hold hident
    · obtain rfl := mem_singleton.1 hnew
      exact absurd hident h.created.ne'
  · rw [hnext]
    exact ⟨h.created, h.stopped⟩

theorem Retired.step (h : Retired ident s) (hnumbered : Numbered s)
    (hstep : s.step event = some next) : Retired ident next := by
  cases change_of_step hstep with
  | quiet => exact h
  | updates _ hconn _ houtcome => exact h.update hconn houtcome
  | connects _ env r1 => exact h.connectRequest r1 env
  | stopsAll =>
    exact stopAll_rule hnumbered.idents_nodup h fun _ conn hbefore hconn =>
      hbefore.update hconn (outcome_stop conn.state)
  | drops =>
    exact ⟨h.created, fun conn hconn => h.stopped conn ((dropTriggerCb_sublist s).subset hconn)⟩
  | allocates | releases => exact ⟨h.created, h.stopped⟩

def droppedFirst (s : EIBnetServer) (p1 : EIBNetIPPacket) : Prop :=
  ∀ r1, parseTunnelRequest p1 = some r1 ∨ parseConfigRequest p1 = some r1 →
    ∀ conn ∈ s.connections, conn.ident ∈ s.dropQ → conn.state.channel ≠ r1.channel

theorem queued_of_path {start s : EIBnetServer} (hstart : start.connections = [])
    (hpath : Path EIBnetServer.step anyEvent start s) : Queued s := by
  have hfirst : Queued start := ⟨numbered_of_path hstart .refl, by simp [hstart]⟩
  exact hpath.invariant Queued hfirst fun _ _ _ hbefore _ hstep => hbefore.step hstep

theorem retired_of_path {ident : ℕ} {start s : EIBnetServer} (hqueued : Queued start)
    (hretired : Retired ident start) (hpath : Path EIBnetServer.step anyEvent start s) :
    Retired ident s := by
  have hboth := hpath.invariant (fun s => Queued s ∧ Retired ident s) ⟨hqueued, hretired⟩ (by
    intro before event after hbefore _ hstep
    exact ⟨hbefore.1.step hstep, hbefore.2.step hbefore.1.numbered hstep⟩)
  exact hboth.2

/-- At any time after a connection was stopped, a request that arrives when no
connection in the drop queue has its channel is passed to another connection,
which is running, or has no effect at all; and the processing of the drop queue
leaves no stopped connection behind. -/
theorem stopped_accepts_nothing {start before s : EIBnetServer} {stopped : Conn}
    (hstart : start.connections = []) (hpath : Path EIBnetServer.step anyEvent start before)
    (hmem : stopped ∈ before.connections) (hstopped : stopped.state.active = false)
    (hlater : Path EIBnetServer.step anyEvent before s) :
    (∀ p1, droppedFirst s p1 → ∀ conn result, passedOn s p1 = some (conn, result) →
        conn.ident ≠ stopped.ident ∧ conn.state.active = true) ∧
      (∀ p1 env next sent, isRequest p1 → passedOn s p1 = none →
        s.handlePacket p1 env = .ok (next, sent) → next = s ∧ sent = []) ∧
      ∀ conn ∈ s.dropTriggerCb.connections,
        conn.ident ≠ stopped.ident ∧ conn.state.active = true := by
  have hbefore := queued_of_path hstart hpath
  have hqueued := queued_of_path hstart (hpath.trans hlater)
  have hretired : Retired stopped.ident before := by
    refine ⟨hbefore.numbered.idents_lt stopped hmem, fun conn hconn hident => ?_⟩
    obtain rfl : conn = stopped :=
      inj_on_of_nodup_map hbefore.numbered.idents_nodup hconn hmem hident
    exact hstopped
  have hgone := retired_of_path hbefore hretired hlater
  -- a running connection is not the one that was stopped
  have hother : ∀ conn ∈ s.connections, conn.state.active = true →
      conn.ident ≠ stopped.ident ∧ conn.state.active = true := by
    intro conn hconn hactive
    refine ⟨fun hident => ?_, hactive⟩
    rw [hgone.stopped conn hconn hident] at hactive
    cases hactive
  refine ⟨?_, ?_, ?_⟩
  · intro p1 hfirst conn result hpassed
    obtain ⟨r1, hparsed, hconn, hchannel⟩ := passedOn_channel hpassed
    apply hother conn hconn
    by_contra hinactive
    have hdropping := hqueued.stopped conn hconn (Bool.eq_false_iff.2 hinactive)
    exact hfirst r1 hparsed conn hconn hdropping hchannel
  · intro p1 env next sent hrequest hnone hrun
    rcases handlePacket_request hrequest hrun with ⟨conn, result, hpassed, -⟩ | ⟨-, hresult⟩
    · rw [hnone] at hpassed
      cases hpassed
    · exact hresult
  · intro conn hconn
    exact hother conn ((dropTriggerCb_sublist s).subset hconn)
      (hqueued.active_of_mem_dropTriggerCb hconn)

/-- A client connects and disconnects. -/
def disconnect : List Event :=
  [.packet (tunnelConnect 0x02) (quietEnv true),
    .packet (disconnectRequestToPacket { channel := 1 }) (quietEnv true)]

/-- Once the drop queue was processed, a request on the channel has no effect. -/
theorem stopped_accepts_nothing_dropped :
    ∃ before stopped, run EIBnetServer.step smallServer disconnect = some before ∧
      stopped ∈ before.connections ∧ stopped.state.active = false ∧
      ∀ next sent, before.dropTriggerCb.handlePacket groupWrite (quietEnv true) =
        .ok (next, sent) → next = before.dropTriggerCb ∧ sent = [] := by
  have hrun : (run step smallServer disconnect).map
      (fun s => (s.connections.map (·.state.active),
        (passedOn s.dropTriggerCb groupWrite).isNone)) = some ([false], true) := by
    decide +kernel
  obtain ⟨before, hbefore, hvalues⟩ := Option.map_eq_some_iff.1 hrun
  obtain ⟨hactive, hnone⟩ := Prod.mk.inj hvalues
  obtain ⟨stopped, hconnections, hstopped⟩ := map_eq_singleton_iff.1 hactive
  have hmem : stopped ∈ before.connections := hconnections ▸ mem_singleton_self stopped
  have hlater : Path step anyEvent before before.dropTriggerCb :=
    .step .refl trivial (show before.step .dropTrigger = _ from rfl)
  obtain ⟨-, hignored, -⟩ := stopped_accepts_nothing rfl (path_of_run hbefore) hmem hstopped hlater
  exact ⟨before, stopped, hbefore, hmem, hstopped, fun next sent =>
    hignored groupWrite _ next sent (.inl (by decide)) (Option.isNone_iff_eq_none.1 hnone)⟩

/-- Before that, the stopped connection hands the frame of a request to the router,
acknowledges the request and queues a confirmation. -/
theorem stopped_still_accepts :
    ((run EIBnetServer.step smallServer disconnect).bind (passedOn · groupWrite)).map
        (fun (conn, result) => (conn.state.active, (receivedFrames result.2).length,
          (sentPackets result.2).length, result.1.out.length)) = some (false, 1, 1, 1) := by
  decide +kernel

end Knxd.Stopped
