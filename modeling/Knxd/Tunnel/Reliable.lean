import Knxd.Tunnel.ClientSteps
import Knxd.Tunnel.ServerSteps

/-!
# Tunnelled frames arrive in order

Each event of a tunnel keeps its invariant until one side leaves the
connection.  So what each side takes is a prefix of what the other queued, the
frames handed up are the decoding of a prefix of the frames submitted, and
`send_Next` is never ahead of the peer.
-/

namespace Knxd.Reliable

open Memory LPDU EMI Packet Client Connection StopAndWait List Option
open Knxd.Composition Transition

variable {addr : Addr} {channel : Byte} {s next : System}
variable {decode : CArray → Option LDataPDU} {taken : List CArray}

/-- Losing and duplicating datagrams keeps the invariant. -/
theorem Connected.perturb (h : Connected addr channel s) {toServer toClient : List Datagram}
    (hserver : Perturbs s.toServer toServer) (hclient : Perturbs s.toClient toClient) :
    Connected addr channel { s with toServer, toClient } where
  client := h.client
  server := h.server
  toServer datagram hmem := h.toServer datagram (hserver.mem hmem)
  toClient datagram hmem := h.toClient datagram (hclient.mem hmem)
  valid := h.valid.perturb (hserver.filterMap item) (hclient.filterMap item)

/-- A connection once left stays left, and until then every event keeps the
invariant. -/
def Keeps (addr : Addr) (channel : Byte) (s next : System) : Prop :=
  next.disconnected = false →
    s.disconnected = false ∧ (Connected addr channel s → Connected addr channel next)

theorem keeps_of_connected (hsame : next.disconnected = s.disconnected)
    (hkeep : Connected addr channel s → Connected addr channel next) :
    Keeps addr channel s next := fun hstay => ⟨hsame ▸ hstay, hkeep⟩

theorem keeps_clientActs {rest : List Datagram} {arrived : Option EIBNetIPPacket}
    {result : EIBNetIPTunnel × List Output}
    (hkeep : Connected addr channel s →
      (clientActs { s with toClient := rest } arrived result).disconnected = false →
      Connected addr channel (clientActs { s with toClient := rest } arrived result)) :
    Keeps addr channel s (clientActs { s with toClient := rest } arrived result) :=
  fun hstay => ⟨(Bool.or_eq_false_iff.1 hstay).1, fun h => hkeep h hstay⟩

theorem keeps_serverActs {rest : List Datagram} {arrived : Option EIBNetIPPacket}
    {result : ConnState × List Output}
    (hkeep : Connected addr channel s →
      (serverActs { s with toServer := rest } arrived result).disconnected = false →
      Connected addr channel (serverActs { s with toServer := rest } arrived result)) :
    Keeps addr channel s (serverActs { s with toServer := rest } arrived result) :=
  fun hstay => ⟨(Bool.or_eq_false_iff.1 hstay).1, fun h => hkeep h hstay⟩

theorem keeps_deliverToClient (hstep : step s .deliverToClient = some next) :
    Keeps addr channel s next := by
  simp only [step] at hstep
  split at hstep
  · cases hstep
  · next datagram rest hwire =>
    have hrest : Perturbs s.toClient rest := .lose (hwire ▸ sublist_cons_self _ _)
    split at hstep
    · cases hstep
      exact keeps_of_connected rfl fun h => h.perturb (Perturbs.refl _) hrest
    · next p1 hrecv =>
      split at hstep
      · next result hrun =>
        cases hstep
        refine keeps_clientActs fun h _ => ?_
        have htagged := h.toClient datagram (hwire ▸ mem_cons_self)
        obtain hnone | hsome := htagged.recv_cases s.serverSrc
        · rw [hnone] at hrecv
          cases hrecv
        · obtain rfl := Option.some.inj (hsome.symm.trans hrecv)
          exact h.readCb hwire hrun
      · cases hstep

theorem keeps_deliverToServer (hstep : step s .deliverToServer = some next) :
    Keeps addr channel s next := by
  simp only [step] at hstep
  split at hstep
  · cases hstep
  · next datagram rest hwire =>
    have hrest : Perturbs s.toServer rest := .lose (hwire ▸ sublist_cons_self _ _)
    split at hstep
    · cases hstep
      exact keeps_of_connected rfl fun h => h.perturb hrest (Perturbs.refl _)
    · next p1 hrecv =>
      split at hstep
      · next result hrun =>
        cases hstep
        refine keeps_serverActs fun h _ => ?_
        have htagged := h.toServer datagram (hwire ▸ mem_cons_self)
        obtain hnone | hsome := htagged.recv_cases s.clientSrc
        · rw [hnone] at hrecv
          cases hrecv
        · obtain rfl := Option.some.inj (hsome.symm.trans hrecv)
          exact h.handlePacket hwire hrun
      · cases hstep

/-- The step lemma of the tunnel, one case per event. -/
theorem keeps_step {event : Event} (hstep : step s event = some next) :
    Keeps addr channel s next := by
  cases event with
  | clientSubmit =>
    simp only [step] at hstep
    split at hstep
    · split at hstep
      · next hsend hcemi =>
        cases hstep
        exact keeps_of_connected rfl fun h => h.client_submit hsend hcemi
      · cases hstep
    · cases hstep
  | serverSubmit =>
    simp only [step] at hstep
    split at hstep
    · split at hstep
      · next hsend hcemi =>
        cases hstep
        exact keeps_of_connected rfl fun h => h.server_submit hsend hcemi
      · cases hstep
    · cases hstep
  | clientTrigger =>
    obtain ⟨-, ⟨⟩⟩ := ite_none_right_eq_some.1 hstep
    exact keeps_clientActs fun h _ => h.triggerCb
  | clientTimeout =>
    obtain ⟨-, ⟨⟩⟩ := ite_none_right_eq_some.1 hstep
    exact keeps_clientActs fun h hstay => h.timeoutCb hstay
  | clientConntimeout =>
    obtain ⟨-, ⟨⟩⟩ := ite_none_right_eq_some.1 hstep
    exact keeps_clientActs fun h hstay => h.conntimeoutCb hstay
  | clientStop =>
    cases hstep
    exact keeps_clientActs fun h hstay => (h.not_clientStop hstay).elim
  | serverTrigger =>
    obtain ⟨-, ⟨⟩⟩ := ite_none_right_eq_some.1 hstep
    exact keeps_serverActs fun h _ => h.sendTriggerCb
  | serverSendtimeout =>
    simp only [step] at hstep
    split at hstep
    · next harmed =>
      split at hstep
      · next result hrun =>
        cases hstep
        exact keeps_serverActs fun h hstay => h.sendtimeoutCb harmed hrun hstay
      · cases hstep
    · cases hstep
  | serverTimeout =>
    obtain ⟨-, ⟨⟩⟩ := ite_none_right_eq_some.1 hstep
    exact keeps_serverActs fun _ hstay => (Connected.not_serverTimeout hstay).elim
  | serverStop =>
    cases hstep
    exact keeps_serverActs fun _ hstay => (Connected.not_serverStop hstay).elim
  | deliverToServer => exact keeps_deliverToServer hstep
  | deliverToClient => exact keeps_deliverToClient hstep
  | loseToServer index =>
    cases hstep
    exact keeps_of_connected rfl fun h => h.perturb (perturbs_lose index _) (.refl _)
  | loseToClient index =>
    cases hstep
    exact keeps_of_connected rfl fun h => h.perturb (.refl _) (perturbs_lose index _)
  | duplicateToServer index =>
    cases hstep
    exact keeps_of_connected rfl fun h => h.perturb (perturbs_duplicate index _) (.refl _)
  | duplicateToClient index =>
    cases hstep
    exact keeps_of_connected rfl fun h => h.perturb (.refl _) (perturbs_duplicate index _)

/-- The run lemma of the tunnel. -/
theorem connected_of_path {start : System} (hstart : Established start)
    (hpath : Path step anyEvent start s) (hstay : s.disconnected = false) :
    Connected start.server.addr start.server.channel s := by
  refine Path.invariant (fun state => state.disconnected = false →
    Connected start.server.addr start.server.channel state) hpath ?_ ?_ hstay
  · exact fun _ => connected_of_established hstart
  · intro state event after hbefore _ hstep hafter
    obtain ⟨hstay, hkeep⟩ := keeps_step hstep hafter
    exact hkeep (hbefore hstay)

/-- The frames handed up on one side are what the first of the messages
submitted on the other side decode to, one frame for each message. -/
def DecodesPrefix (decode : CArray → Option LDataPDU) (submitted : List CArray)
    (delivered : List LDataPDU) : Prop :=
  delivered.map some = (submitted.take delivered.length).map decode

theorem map_some_filterMap (hsome : ∀ cemi ∈ taken, (decode cemi).isSome) :
    (taken.filterMap decode).map some = taken.map decode := by
  induction taken with
  | nil => rfl
  | cons cemi _ ih =>
    obtain ⟨_, hframe⟩ := isSome_iff_exists.1 (hsome cemi mem_cons_self)
    rw [filterMap_cons_some hframe, map_cons, map_cons, hframe,
      ih fun other hother => hsome other (mem_cons_of_mem _ hother)]

theorem length_filterMap_of_isSome (hsome : ∀ cemi ∈ taken, (decode cemi).isSome) :
    (taken.filterMap decode).length = taken.length := by
  simpa using congrArg length (map_some_filterMap hsome)

theorem decodesPrefix_of_prefix {taken submitted : List CArray} (htaken : taken <+: submitted)
    (hsome : ∀ cemi ∈ taken, (decode cemi).isSome) :
    DecodesPrefix decode submitted (taken.filterMap decode) := by
  rw [DecodesPrefix, length_filterMap_of_isSome hsome, ← prefix_iff_eq_take.1 htaken,
    map_some_filterMap hsome]

section Delivery

variable (h : Connected addr channel s)
include h

/-- The messages that the server connection took are the first ones submitted at
the client. -/
theorem Connected.server_taken_prefix : s.serverHistory.taken <+: s.clientHistory.submitted := by
  rw [h.client.stream]
  exact h.valid.toRight.taken_prefix

/-- The indications that the client took are the first frames submitted at the
server. -/
theorem Connected.client_taken_prefix :
    s.clientHistory.taken.filter isIndication <+: s.serverHistory.submitted := by
  rw [h.server.stream]
  exact h.valid.toLeft.taken_prefix.filter isIndication

theorem Connected.client_delivered :
    s.clientHistory.delivered = (s.clientHistory.taken.filter isIndication).filterMap decoded := by
  rw [h.client.delivered_eq, filterMap_filter]
  rfl

theorem Connected.server_taken_isSome {cemi : CArray} (hcemi : cemi ∈ s.serverHistory.taken) :
    (serverFrame addr cemi).isSome := by
  rw [serverFrame, isSome_map]
  exact decoded_isSome (h.client.messages cemi (h.server_taken_prefix.subset hcemi))

theorem Connected.client_taken_isSome {cemi : CArray}
    (hcemi : cemi ∈ s.clientHistory.taken.filter isIndication) : (decoded cemi).isSome := by
  have htaken := h.valid.toLeft.taken_prefix.subset (mem_of_mem_filter hcemi)
  exact decoded_isSome (h.server.messages cemi htaken)

/-- The client signals `send_Next` once for every message acknowledged to it, and
the server took those. -/
theorem Connected.client_nexts_le : s.clientHistory.nexts ≤ s.serverHistory.delivered.length := by
  rw [h.server.delivered_eq, length_filterMap_of_isSome fun _ => h.server_taken_isSome,
    h.client.nexts_eq]
  exact h.valid.acked_prefix.length_le

/-- The server signals `send_Next` when its queue is empty, so that the frame it
is for was acknowledged. -/
theorem Connected.server_nexts_le : s.serverHistory.nexts ≤ s.clientHistory.delivered.length := by
  rw [h.client_delivered, length_filterMap_of_isSome fun _ => h.client_taken_isSome]
  exact le_trans h.server.nexts_le (h.valid.swap.acked_prefix.filter isIndication).length_le

end Delivery

/-- In every run from an established channel in which neither side has left the
connection, the server hands up the decoding of a prefix of the messages submitted
at the client, with an empty source replaced by the client's address, the client
hands up the decoding of a prefix of those submitted at the server, and neither
upper layer was woken for a frame that the peer has not taken. -/
theorem tunnel_reliable (start s : System) (hstart : Established start)
    (hpath : Path step anyEvent start s) (hstay : s.disconnected = false) :
    DecodesPrefix (fun cemi => (decoded cemi).map (withSource start.server.addr))
        s.clientHistory.submitted s.serverHistory.delivered ∧
      DecodesPrefix decoded s.serverHistory.submitted s.clientHistory.delivered ∧
      s.clientHistory.nexts ≤ s.serverHistory.delivered.length ∧
      s.serverHistory.nexts ≤ s.clientHistory.delivered.length := by
  have hconnected := connected_of_path hstart hpath hstay
  refine ⟨?_, ?_, hconnected.client_nexts_le, hconnected.server_nexts_le⟩
  · rw [hconnected.server.delivered_eq]
    exact decodesPrefix_of_prefix hconnected.server_taken_prefix
      fun _ => hconnected.server_taken_isSome
  · rw [hconnected.client_delivered]
    exact decodesPrefix_of_prefix hconnected.client_taken_prefix
      fun _ => hconnected.client_taken_isSome

/-- A channel between a client and the server connection with address 1.1.10. -/
def freshTunnel : System where
  client := { channel := some 1, mod := 1 }
  server := { addr := 0x110a, channel := 1, type := .standard }

/-- A frame from the client is transmitted twice, the server takes one copy and
queues a frame of its own, and the first acknowledgement is lost. -/
def exchange : List Event :=
  [.clientSubmit { data := [0x00, 0x81] }, .clientTrigger, .duplicateToServer 0,
    .deliverToServer, .serverSubmit { data := [0x00, 0x80] }, .deliverToServer,
    .serverTrigger, .loseToClient 0, .deliverToClient, .deliverToClient, .deliverToServer,
    .serverTrigger, .deliverToClient, .deliverToServer]

theorem tunnel_reliable_exchange :
    ∃ s, run step freshTunnel exchange = some s ∧ s.disconnected = false ∧
      s.clientHistory.nexts = 1 ∧ s.serverHistory.nexts = 1 ∧
      s.clientHistory.nexts ≤ s.serverHistory.delivered.length ∧
      DecodesPrefix decoded s.serverHistory.submitted s.clientHistory.delivered := by
  have hstart : Established freshTunnel := by
    constructor <;> first | rfl | exact ⟨rfl, rfl⟩
  refine exists_state (D := fun s => s.disconnected = false ∧ s.clientHistory.nexts = 1 ∧
    s.serverHistory.nexts = 1) (by decide +kernel) fun s hs hvalues => ?_
  have hreliable := tunnel_reliable freshTunnel s hstart (path_of_run hs) hvalues.1
  exact ⟨hvalues.1, hvalues.2.1, hvalues.2.2, hreliable.2.2.1, hreliable.2.1⟩

end Knxd.Reliable
