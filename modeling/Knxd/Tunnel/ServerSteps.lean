import Knxd.Tunnel.Invariant

/-!
# Steps of the server connection

Every handler of the server connection keeps the invariant of the tunnel, as
steps of the right endpoint of the stop-and-wait protocol, unless it leaves the
connection.  Taking a request also queues its confirmation, which shares the
queue with the indications for the client.
-/

namespace Knxd.Reliable

open Memory LPDU EMI Packet Client Connection StopAndWait List ConnState Option
open Knxd.Composition
open BitVec (ofNat toNat_ofNat)

variable {addr : Addr} {channel : Byte} {s : System}
variable {cemi confirmation : CArray} {rest : List Datagram} {c next : ConnState}
variable {arrived : Option EIBNetIPPacket} {result : ConnState × List Output} {number : ℕ}
variable {history : History} {packet : EIBNetIPPacket}

/-- The invariant depends on the timers only through the count of attempts. -/
theorem ServerInv.update (h : ServerInv addr channel c history) {retries : ℕ}
    {timeout sendtimeout sendTrigger active : Bool} (hout : retries ≠ 0 → c.out ≠ [])
    (harmed : sendtimeout = true → retries ≠ 0) :
    ServerInv addr channel { c with retries, timeout, sendtimeout, sendTrigger, active } history :=
  { h with retries_out := hout, sendtimeout_retries := harmed }

theorem serverActs_of_quiet (s : System) (arrived : Option EIBNetIPPacket) {outputs : List Output}
    (hsno : next.sno = s.server.sno) (hrno : next.rno = s.server.rno)
    (hframes : receivedFrames outputs = []) (hnexts : outputs.count .sendNext = 0) :
    serverActs s arrived (next, outputs) =
      { s with
        server := next
        toClient := s.toClient ++ (sentPackets outputs).map s.serverHistory.datagram
        disconnected := s.disconnected || leaves outputs } := by
  have hrecord : s.serverHistory.record none none outputs = s.serverHistory := by
    simp [History.record, hframes, hnexts]
  simp [serverActs, hsno, hrno, hrecord]

section

variable (h : Connected addr channel s)
include h

/-- Timers change, connection control is sent and datagrams are dropped. -/
theorem Connected.server_idle {outputs : List Output}
    (hserver : ServerInv addr channel next s.serverHistory) (hsno : next.sno = s.server.sno)
    (hrno : next.rno = s.server.rno) (hout : next.out = s.server.out)
    (hframes : receivedFrames outputs = []) (hnexts : outputs.count .sendNext = 0)
    (hcontrol : ∀ packet ∈ sentPackets outputs, ∀ number,
      Tagged serverCodes channel ⟨packet, number⟩ ∧ item ⟨packet, number⟩ = none)
    (hrest : rest.Sublist s.toServer) :
    Connected addr channel (serverActs { s with toServer := rest } arrived (next, outputs)) := by
  rw [serverActs_of_quiet { s with toServer := rest } arrived hsno hrno hframes hnexts]
  refine ⟨h.client, hserver, fun datagram hmem => h.toServer _ (hrest.subset hmem), ?_, ?_⟩
  · intro datagram hmem
    rcases mem_append.1 hmem with hmem | hmem
    · exact h.toClient datagram hmem
    · obtain ⟨packet, hpacket, rfl⟩ := mem_map.1 hmem
      exact (hcontrol packet hpacket _).1
  · have hnone : ((sentPackets outputs).map s.serverHistory.datagram).filterMap item = [] := by
      refine filterMap_eq_nil_iff.2 fun datagram hmem => ?_
      obtain ⟨packet, hpacket, rfl⟩ := mem_map.1 hmem
      exact (hcontrol packet hpacket _).2
    have hvalid := h.valid.perturb (.lose (hrest.filterMap item)) (Perturbs.refl _)
    simpa only [link, hout, filterMap_append, hnone, append_nil] using hvalid

theorem Connected.server_ignore (hrest : rest.Sublist s.toServer) :
    Connected addr channel (serverActs { s with toServer := rest } arrived (s.server, [])) :=
  h.server_idle h.server rfl rfl rfl rfl rfl (by simp [sentPackets]) hrest

theorem Connected.server_transmit {queue : List CArray}
    (hqueue : s.server.out = cemi :: queue) (hserver : ServerInv addr channel next s.serverHistory)
    (hsno : next.sno = s.server.sno) (hrno : next.rno = s.server.rno)
    (hout : next.out = s.server.out) :
    Connected addr channel (serverActs s none (next,
      [.send (requestPacket channel s.serverHistory.acked.length cemi)])) := by
  have hmessage : Message serverCodes cemi := h.server.messages _ (by simp [hqueue])
  rw [serverActs_of_quiet s none hsno hrno rfl rfl]
  refine ⟨h.client, hserver, h.toServer, ?_, ?_⟩
  · exact tagged_concat h.toClient (.request _ _ hmessage)
  · have hvalid := (h.valid.swap.leftStep (.transmit (link s).swap cemi queue hqueue)).swap
    simpa [link, Link.swap, hout, sentPackets, datagram_requestPacket,
      item_requestPacket _ hmessage] using hvalid

theorem Connected.sendTriggerCb :
    Connected addr channel (serverActs s none s.server.sendTriggerCb) := by
  unfold ConnState.sendTriggerCb
  split
  · exact h.server_idle (h.server.update h.server.retries_out h.server.sendtimeout_retries)
      rfl rfl rfl rfl rfl (by simp [sentPackets]) (List.Sublist.refl _)
  · next cemi queue hqueue =>
    have hne : s.server.out ≠ [] := by simp [hqueue]
    have hrequest : tunnelRequestToPacket ⟨s.server.channel, s.server.sno, cemi⟩ =
        requestPacket channel s.serverHistory.acked.length cemi := by
      rw [requestPacket, h.server.channel_eq, h.server.sno_eq]
    have htype : s.server.type ≠ .config := by simp [h.server.type_eq]
    dsimp only
    rw [if_neg htype, hrequest]
    exact h.server_transmit hqueue
      (h.server.update (fun _ => hne) (fun _ => Nat.succ_ne_zero _)) rfl rfl rfl

end

theorem not_leaves_of_serverActs (hstay : (serverActs s arrived result).disconnected = false) :
    leaves result.2 = false :=
  (Bool.or_eq_false_iff.1 hstay).2

theorem leaves_stop (c : ConnState) : leaves c.stop.2 = true := by
  simp [stop, leaves]

theorem Connected.sendtimeoutCb (h : Connected addr channel s)
    (harmed : s.server.sendtimeout = true) (hrun : s.server.sendtimeoutCb = .ok result)
    (hstay : (serverActs s none result).disconnected = false) :
    Connected addr channel (serverActs s none result) := by
  have hout := h.server.retries_out (h.server.sendtimeout_retries harmed)
  unfold ConnState.sendtimeoutCb at hrun
  split at hrun
  · cases hrun
    exact h.server_idle (h.server.update (fun _ => hout) (by simp)) rfl rfl rfl rfl rfl
      (by simp [sentPackets]) (List.Sublist.refl _)
  · split at hrun
    · next hnil => exact absurd hnil hout
    · cases hrun
      have hleaves := not_leaves_of_serverActs hstay
      rw [leaves_stop] at hleaves
      cases hleaves

theorem Connected.not_serverStop
    (hstay : (serverActs s none s.server.stop).disconnected = false) : False := by
  have hleaves := not_leaves_of_serverActs hstay
  rw [leaves_stop] at hleaves
  cases hleaves

theorem Connected.not_serverTimeout {source : Option SockAddr}
    (hstay : (serverActs s none (s.server.timeoutCb source)).disconnected = false) : False := by
  have hleaves := not_leaves_of_serverActs hstay
  have hstop := leaves_stop { s.server with timeout := false }
  have htimeout : leaves (s.server.timeoutCb source).2 = true := by
    unfold ConnState.timeoutCb
    cases source with
    | none => exact hstop
    | some =>
      dsimp only
      split
      · rfl
      · exact hstop
  rw [htimeout] at hleaves
  cases hleaves

theorem Connected.server_submit (h : Connected addr channel s) {l : LDataPDU} {server : ConnState}
    (hsend : s.server.sendLData l = .ok server) (hcemi : lDataToCEMI 0x29 l = .ok cemi) :
    Connected addr channel { s with
      server
      serverHistory := { s.serverHistory with
        submitted := s.serverHistory.submitted ++ [cemi] } } := by
  rw [sendLData, if_pos h.server.type_eq] at hsend
  have hnext : s.server.doSendNext = false := by
    have hreturns : Returns (require (s.server.doSendNext = false) >>= _) := ⟨server, hsend⟩
    exact (returns_require_bind_iff _).1 hreturns |>.1
  rw [require_of hnext, ok_bind, hcemi, ok_bind, put_eq] at hsend
  cases hsend
  have hindication : isIndication cemi = true := by
    simp [isIndication, (message_spec hcemi).2.1]
  have hlength := h.server.submitted_length
  rw [hnext] at hlength
  refine ⟨h.client, { h.server with
      retries_out := fun _ => by simp, stream := ?_, messages := ?_, submitted_length := ?_ },
    h.toServer, h.toClient, ?_⟩
  · rw [← append_assoc, filter_append, ← h.server.stream]
    simp [hindication]
  · intro message hmem
    rw [← append_assoc, mem_append] at hmem
    rcases hmem with hmem | hmem
    · exact h.server.messages message hmem
    · rw [mem_singleton.1 hmem]
      exact ⟨0x29, by simp, l, hcemi⟩
  · simpa using hlength
  · have hvalid := (h.valid.swap.leftStep (.submit (link s).swap cemi)).swap
    simpa [link, Link.swap] using hvalid

/-- What the server connection makes of a message of the client. -/
theorem takeTunnelCEMI_message (htype : c.type = .standard) (hmessage : Message clientCodes cemi) :
    ∃ confirmation frame, lDataToCEMI 0x2E frame = .ok confirmation ∧ c.takeTunnelCEMI cemi =
        .ok (c.put confirmation, frameOutputs (serverFrame c.addr cemi), 0) := by
  obtain ⟨_, hcode, l, hcemi⟩ := hmessage
  obtain rfl := mem_singleton.1 hcode
  obtain ⟨hread, -, -, -, frame, hframe, hagain⟩ := message_spec hcemi
  obtain ⟨confirmation, hconfirmation⟩ := hagain 0x2E
  refine ⟨confirmation, frame, hconfirmation, ?_⟩
  have hdecoded : serverFrame c.addr cemi = some (withSource c.addr frame) := by
    simp [serverFrame, decoded, hframe]
  rw [takeTunnelCEMI, if_pos htype, hframe, ok_bind]
  dsimp only
  rw [hread, ok_bind, confirm, if_pos rfl, hconfirmation, ok_bind, hdecoded]
  rfl

theorem Connected.server_again (h : Connected addr channel s)
    (hlink : (link s).toRight = .request number cemi :: rest.filterMap item)
    (hrest : rest.Sublist s.toServer) (hlast : number + 1 = s.serverHistory.taken.length) :
    Connected addr channel (serverActs { s with toServer := rest } arrived
      (s.server, [.send (ackPacket channel number)])) := by
  rw [serverActs_of_quiet { s with toServer := rest } arrived rfl rfl rfl rfl]
  refine ⟨h.client, h.server, fun datagram hmem => h.toServer _ (hrest.subset hmem), ?_, ?_⟩
  · refine tagged_concat h.toClient ?_
    rw [datagram_ackPacket hlast]
    exact .ack number
  · have hvalid := (h.valid.swap.leftStep (.again (link s).swap number cemi _ hlink hlast)).swap
    simpa [link, Link.swap, sentPackets, datagram_ackPacket hlast] using hvalid

theorem byte_succ_ne (byte : Byte) : byte + 1 ≠ byte := by
  bv_omega

theorem ofNat_succ (number : ℕ) : ofNat 8 (number + 1) = ofNat 8 number + 1 := by
  apply BitVec.eq_of_toNat_eq
  simp

/-- A confirmation joins the queue without being a frame for the upper layer of the
client. -/
theorem ServerInv.take (h : ServerInv addr channel c history) (cemi : CArray) {frame : LDataPDU}
    (hconfirmation : lDataToCEMI 0x2E frame = .ok confirmation) :
    ServerInv addr channel { c.put confirmation with rno := c.rno + 1 }
      { history with
        taken := history.taken ++ [cemi]
        delivered := history.delivered ++ (serverFrame addr cemi).toList } := by
  have hother : isIndication confirmation = false := by
    simp [isIndication, (message_spec hconfirmation).2.1]
  rw [put_eq]
  refine { h with
      rno_eq := ?_, retries_out := fun _ => by simp, stream := ?_, messages := ?_
      delivered_eq := ?_ }
  · rw [h.rno_eq, length_append, length_singleton, ofNat_succ]
  · rw [← append_assoc, filter_append, ← h.stream]
    simp [hother]
  · intro message hmem
    rw [← append_assoc, mem_append] at hmem
    rcases hmem with hmem | hmem
    · exact h.messages message hmem
    · rw [mem_singleton.1 hmem]
      exact ⟨0x2E, by simp, frame, hconfirmation⟩
  · rw [filterMap_append, ← h.delivered_eq]
    cases hframe : serverFrame addr cemi <;> simp [hframe]

/-- The upper layer is woken when the queue is empty, so everything it submitted was
acknowledged. -/
theorem ServerInv.confirm (h : ServerInv addr channel c history) {queue : List CArray}
    {wakes : Bool} (sendTrigger : Bool) (hqueue : c.out = cemi :: queue)
    (hwakes : wakes = true → queue = [] ∧ c.doSendNext = true) :
    ServerInv addr channel
      { c with
        sno := c.sno + 1, out := queue, sendtimeout := false, retries := 0
        sendTrigger, doSendNext := c.doSendNext && !wakes }
      { history with acked := history.acked ++ [cemi], nexts := history.nexts + wakes.toNat } := by
  have hstream := h.stream
  have hlength := h.submitted_length
  have hmessages := h.messages
  rw [hqueue, append_cons] at hstream hmessages
  refine { h with
      sno_eq := ?_, retries_out := fun hne => absurd rfl hne, sendtimeout_retries := by simp
      stream := hstream, messages := hmessages, submitted_length := ?_, nexts_le := ?_ }
  · rw [h.sno_eq, length_append, length_singleton, ofNat_succ]
  · rw [hlength]
    cases wakes with
    | false => simp
    | true => simp [(hwakes rfl).2]
  · cases wakes with
    | false =>
      have hbefore := h.nexts_le
      rw [filter_append, length_append]
      dsimp only [Bool.toNat_false]
      omega
    | true =>
      obtain ⟨rfl, hnext⟩ := hwakes rfl
      rw [append_nil] at hstream
      rw [← hstream, hlength, hnext]

/-- What the system records when the server connection takes a message. -/
theorem serverActs_take (s : System) (hmessage : messageOf packet = some cemi) :
    serverActs s (some packet) ({ s.server.put confirmation with rno := s.server.rno + 1 },
        frameOutputs (serverFrame addr cemi) ++
          [.send (ackPacket channel s.serverHistory.taken.length)]) =
      { s with
        server := { s.server.put confirmation with rno := s.server.rno + 1 }
        serverHistory := { s.serverHistory with
          taken := s.serverHistory.taken ++ [cemi]
          delivered := s.serverHistory.delivered ++ (serverFrame addr cemi).toList }
        toClient := s.toClient ++ [⟨ackPacket channel s.serverHistory.taken.length,
          s.serverHistory.taken.length⟩] } := by
  obtain ⟨hframes, hsent, hnexts, hleaves⟩ := frameOutputs_spec (serverFrame addr cemi)
  have hsno : (s.server.put confirmation).sno = s.server.sno := by rw [put_eq]
  simp only [serverActs, History.record, hsno, if_true, if_neg (byte_succ_ne s.server.rno),
    bind_some, hmessage, toList_none, toList_some, append_nil,
    receivedFrames_append, receivedFrames_send, hframes, sentPackets_append, sentPackets_send,
    hsent, nil_append, map_cons, map_nil, leaves_append, leaves_ack, hleaves,
    outputs_nil, Bool.or_false, count_append, count_sendNext_send, hnexts, count_nil,
    Nat.add_zero]
  rw [datagram_ackPacket (by simp)]

section

variable (h : Connected addr channel s)
include h

/-- The next message is taken and handed up, its confirmation is queued, and it
is acknowledged. -/
theorem Connected.server_take {frame : LDataPDU}
    (hlink : (link s).toRight = .request number cemi :: rest.filterMap item)
    (hrest : rest.Sublist s.toServer) (hnext : number = s.serverHistory.taken.length)
    (hmessage : messageOf packet = some cemi)
    (hconfirmation : lDataToCEMI 0x2E frame = .ok confirmation) :
    Connected addr channel (serverActs { s with toServer := rest } (some packet)
      ({ s.server.put confirmation with rno := s.server.rno + 1 },
        frameOutputs (serverFrame addr cemi) ++ [.send (ackPacket channel number)])) := by
  subst hnext
  rw [serverActs_take { s with toServer := rest } hmessage]
  refine ⟨h.client, h.server.take cemi hconfirmation,
    fun datagram hmem => h.toServer _ (hrest.subset hmem), tagged_concat h.toClient (.ack _), ?_⟩
  have htaken := h.valid.swap.leftStep (.take (link s).swap cemi _ hlink)
  have hvalid := (htaken.leftStep (.submit _ confirmation)).swap
  rw [put_eq]
  simpa [link, Link.swap] using hvalid

theorem Connected.server_confirm
    (hlink : (link s).toRight = .ack s.serverHistory.acked.length :: rest.filterMap item)
    (hrest : rest.Sublist s.toServer) (hrun : s.server.acknowledged = .ok result) :
    Connected addr channel (serverActs { s with toServer := rest } arrived result) := by
  obtain ⟨cemi, queue, sendTrigger, wakes, hqueue, hwakes, rfl⟩ := acknowledged_cases hrun
  have hacts : serverActs { s with toServer := rest } arrived ({ s.server with
          sno := s.server.sno + 1, out := queue, sendtimeout := false, retries := 0
          sendTrigger, doSendNext := s.server.doSendNext && !wakes },
        if wakes then [.sendNext] else []) =
      { s with
        server := { s.server with
          sno := s.server.sno + 1, out := queue, sendtimeout := false, retries := 0
          sendTrigger, doSendNext := s.server.doSendNext && !wakes }
        serverHistory := { s.serverHistory with
          acked := s.serverHistory.acked ++ [cemi]
          nexts := s.serverHistory.nexts + wakes.toNat }
        toServer := rest } := by
    cases wakes <;> simp [serverActs, History.record, hqueue, receivedFrames, sentPackets, leaves]
  rw [hacts]
  refine ⟨h.client, h.server.confirm sendTrigger hqueue hwakes.1,
    fun datagram hmem => h.toServer _ (hrest.subset hmem), h.toClient, ?_⟩
  have hvalid := (h.valid.swap.leftStep (.confirm (link s).swap cemi queue _ hlink hqueue)).swap
  simpa [link, Link.swap] using hvalid

theorem Connected.server_request
    (hmessage : Message clientCodes cemi) (hpacket : messageOf packet = some cemi)
    (hwire : s.toServer = ⟨requestPacket channel number cemi, number⟩ :: rest)
    (hrun : s.server.tunnelRequest ⟨channel, ofNat 8 number, cemi⟩ = .ok result) :
    Connected addr channel (serverActs { s with toServer := rest } (some packet) result) := by
  have hrest : rest.Sublist s.toServer := hwire ▸ sublist_cons_self _ _
  have hlink : (link s).toRight = .request number cemi :: rest.filterMap item := by
    simp [link, hwire, item_requestPacket _ hmessage]
  obtain ⟨hnext, hcopy, -⟩ := h.valid.swap.arriving hlink (show 1 < 256 by norm_num)
  rw [show (link s).swap.left.taken = s.serverHistory.taken from rfl] at hnext hcopy
  have hseqno : (ofNat 8 number).toNat = number % 256 := toNat_ofNat _ _
  have hrno : s.server.rno.toNat = s.serverHistory.taken.length % 256 := by
    rw [h.server.rno_eq, toNat_ofNat]
  obtain ⟨hmod, rfl⟩ | rfl | ⟨hexpected, connection, outputs, status, htaken, rfl⟩ :=
    request_cases hrun
  · rw [hrno, hseqno, Nat.mod_add_mod] at hmod
    exact h.server_again hlink hrest (hcopy.1 hmod.symm)
  · exact h.server_ignore hrest
  · have hnumber : number = s.serverHistory.taken.length := by
      apply hnext.1
      rw [← hrno, ← hseqno, hexpected]
    obtain ⟨confirmation, _, hconfirmation, htake⟩ :=
      takeTunnelCEMI_message h.server.type_eq hmessage
    obtain ⟨rfl, rfl, rfl⟩ : s.server.put confirmation = connection ∧
        frameOutputs (serverFrame s.server.addr cemi) = outputs ∧ 0 = status := by
      simpa using Except.ok.inj (htake.symm.trans htaken)
    rw [h.server.addr_eq]
    exact h.server_take hlink hrest hnumber hpacket hconfirmation

theorem Connected.server_ack (hwire : s.toServer = ⟨ackPacket channel number, number⟩ :: rest)
    (hrun : s.server.tunnelResponse ⟨channel, ofNat 8 number, 0⟩ = .ok result) :
    Connected addr channel (serverActs { s with toServer := rest } arrived result) := by
  have hrest : rest.Sublist s.toServer := hwire ▸ sublist_cons_self _ _
  have hlink : (link s).toRight = .ack number :: rest.filterMap item := by
    simp [link, hwire]
  have hmatch := h.valid.swap.confirming hlink (show 1 < 256 by norm_num)
  obtain rfl | ⟨hsno, -, hrun⟩ := response_cases hrun
  · exact h.server_ignore hrest
  · have hmod : number % 256 = s.serverHistory.acked.length % 256 := by
      have hbytes := congrArg BitVec.toNat hsno
      rw [h.server.sno_eq, toNat_ofNat, toNat_ofNat] at hbytes
      exact hbytes.symm
    exact h.server_confirm ((hmatch.1 hmod) ▸ hlink) hrest hrun

end

/-- How the server dispatches what the client sends. -/
theorem handlePacket_request {codes : List Byte} (hchannel : c.channel = channel) (src : SockAddr)
    (hmessage : Message codes cemi) :
    c.handlePacket { requestPacket channel number cemi with src } =
      c.tunnelRequest ⟨channel, ofNat 8 number, cemi⟩ := by
  have hparse := parseRequest_toPacket .tunnelRequest ⟨channel, ofNat 8 number, cemi⟩ src
    (le_trans (by norm_num) hmessage.length_bounds.1)
  simp only [handlePacket, onChannel, requestPacket, tunnelRequestToPacket,
    parseTunnelRequest, hparse, hchannel, if_true]
  rfl

theorem handlePacket_ack (hchannel : c.channel = channel) (src : SockAddr) :
    c.handlePacket { ackPacket channel number with src } =
      c.tunnelResponse ⟨channel, ofNat 8 number, 0⟩ := by
  have hparse := parseACK_toPacket .tunnelResponse ⟨channel, ofNat 8 number, 0⟩ src
  simp only [handlePacket, onChannel, ackPacket, tunnelACKToPacket,
    parseTunnelACK, hparse, hchannel, if_true]
  rfl

theorem handlePacket_stateRequest (hchannel : c.channel = channel) (caddr : SockAddr) (nat : Bool)
    (src : SockAddr) :
    c.handlePacket { connectionStateRequestToPacket ⟨channel, caddr, nat⟩ with src } =
      .ok (c, [.send (connectionStateResponseToPacket ⟨channel, 0⟩)]) := by
  obtain ⟨_, _, hparse⟩ :=
    parseControlRequest_toPacket .connectionStateRequest ⟨channel, caddr, nat⟩ src
  simp only [handlePacket, onChannel, connectionStateRequestToPacket,
    parseConnectionStateRequest, hparse, hchannel, if_true]
  rfl

/-- Whatever arrives from the client, the server connection handles it as an
endpoint of the protocol. -/
theorem Connected.handlePacket (h : Connected addr channel s) {datagram : Datagram} {src : SockAddr}
    (hwire : s.toServer = datagram :: rest)
    (hrun : s.server.handlePacket { datagram.packet with src } = .ok result) :
    Connected addr channel (serverActs { s with toServer := rest }
      (some { datagram.packet with src }) result) := by
  have hrest : rest.Sublist s.toServer := hwire ▸ sublist_cons_self _ _
  cases h.toServer datagram (hwire ▸ mem_cons_self) with
  | request number _ hmessage =>
    rw [handlePacket_request h.server.channel_eq src hmessage] at hrun
    exact h.server_request hmessage (messageOf_requestPacket channel number src hmessage) hwire hrun
  | ack =>
    rw [handlePacket_ack h.server.channel_eq src] at hrun
    exact h.server_ack hwire hrun
  | stateRequest number caddr nat =>
    rw [handlePacket_stateRequest h.server.channel_eq caddr nat src] at hrun
    cases hrun
    refine h.server_idle h.server rfl rfl rfl rfl rfl ?_ hrest
    intro packet hpacket number
    obtain rfl := mem_singleton.1 hpacket
    exact ⟨.stateResponse number, rfl⟩
  | stateResponse =>
    cases hrun
    exact h.server_ignore hrest

end Knxd.Reliable
