import Knxd.Tunnel.Invariant

/-!
# Steps of the tunnel client

Every handler of the client keeps the invariant of the tunnel, as a step of the
left endpoint of the stop-and-wait protocol, unless it leaves the connection.
-/

namespace Knxd.Reliable

open Memory LPDU EMI Packet Client Connection StopAndWait List EIBNetIPTunnel Option
open Knxd.Composition
open BitVec (ofNat)

variable {addr : Addr} {channel : Byte} {s : System}
variable {c next : EIBNetIPTunnel} {history : History} {rest : List Datagram} {cemi : CArray}
variable {arrived : Option EIBNetIPPacket} {number : ℕ} {result : EIBNetIPTunnel × List Output}
variable {packet : EIBNetIPPacket}

/-- Nothing in the invariant is about the timers and their counts. -/
theorem ClientInv.update (h : ClientInv channel c history) {mod heartbeat retry : ℕ}
    {trigger timeout conntimeout : Bool} (hmod : mod = 1 ∨ mod = 2 ∧ c.out ≠ []) :
    ClientInv channel { c with mod, heartbeat, retry, trigger, timeout, conntimeout } history :=
  { h with mod_cases := hmod }

theorem ClientInv.channelByte (h : ClientInv channel c history) : c.channelByte = channel := by
  simp [EIBNetIPTunnel.channelByte, h.channel_eq]

/-- A handler that moves no counter leaves the history as it is. -/
theorem clientActs_of_quiet (s : System) (arrived : Option EIBNetIPPacket) {outputs : List Output}
    (hsno : next.sno = s.client.sno) (hrno : next.rno = s.client.rno)
    (hframes : receivedFrames outputs = []) (hnexts : outputs.count .sendNext = 0) :
    clientActs s arrived (next, outputs) =
      { s with
        client := next
        toServer := s.toServer ++ (sentPackets outputs).map s.clientHistory.datagram
        disconnected := s.disconnected || leaves outputs } := by
  have hrecord : s.clientHistory.record none none outputs = s.clientHistory := by
    simp [History.record, hframes, hnexts]
  simp [clientActs, hsno, hrno, hrecord]

/-- Timers change, connection control is sent and datagrams are dropped. -/
theorem Connected.client_idle (h : Connected addr channel s) {outputs : List Output}
    (hclient : ClientInv channel next s.clientHistory) (hsno : next.sno = s.client.sno)
    (hrno : next.rno = s.client.rno) (hout : next.out = s.client.out)
    (hframes : receivedFrames outputs = []) (hnexts : outputs.count .sendNext = 0)
    (hcontrol : ∀ packet ∈ sentPackets outputs, ∀ number,
      Tagged clientCodes channel ⟨packet, number⟩ ∧ item ⟨packet, number⟩ = none)
    (hrest : rest.Sublist s.toClient) :
    Connected addr channel (clientActs { s with toClient := rest } arrived (next, outputs)) := by
  rw [clientActs_of_quiet { s with toClient := rest } arrived hsno hrno hframes hnexts]
  refine ⟨hclient, h.server, ?_, fun datagram hmem => h.toClient _ (hrest.subset hmem), ?_⟩
  · intro datagram hmem
    rcases mem_append.1 hmem with hmem | hmem
    · exact h.toServer datagram hmem
    · obtain ⟨packet, hpacket, rfl⟩ := mem_map.1 hmem
      exact (hcontrol packet hpacket _).1
  · have hnone : ((sentPackets outputs).map s.clientHistory.datagram).filterMap item = [] := by
      refine filterMap_eq_nil_iff.2 fun datagram hmem => ?_
      obtain ⟨packet, hpacket, rfl⟩ := mem_map.1 hmem
      exact (hcontrol packet hpacket _).2
    have hvalid := h.valid.perturb (Perturbs.refl _) (.lose (hrest.filterMap item))
    simpa only [link, clientQueue, hout, filterMap_append, hnone, append_nil] using hvalid

theorem Connected.client_transmit (h : Connected addr channel s) (hpending : s.client.out ≠ [])
    (hclient : ClientInv channel next s.clientHistory) (hsno : next.sno = s.client.sno)
    (hrno : next.rno = s.client.rno) (hout : next.out = s.client.out) :
    Connected addr channel (clientActs s none (next,
      [.send (requestPacket channel s.clientHistory.acked.length s.client.out)])) := by
  have hqueue : clientQueue s.client = [s.client.out] := by simp [clientQueue, hpending]
  have hmessage : Message clientCodes s.client.out :=
    h.client.messages _ (by rw [h.client.stream, hqueue]; simp)
  rw [clientActs_of_quiet s none hsno hrno rfl rfl]
  refine ⟨hclient, h.server, ?_, h.toClient, ?_⟩
  · exact tagged_concat h.toServer (.request _ _ hmessage)
  · have hvalid := h.valid.leftStep (.transmit (link s) s.client.out [] hqueue)
    simpa [link, clientQueue, hout, sentPackets, datagram_requestPacket,
      item_requestPacket _ hmessage] using hvalid

theorem Connected.triggerCb (h : Connected addr channel s) :
    Connected addr channel (clientActs s none s.client.triggerCb) := by
  unfold EIBNetIPTunnel.triggerCb
  split
  · exact h.client_idle (h.client.update h.client.mod_cases) rfl rfl rfl rfl rfl
      (by simp [sentPackets]) (List.Sublist.refl _)
  · next hready =>
    push Not at hready
    have hpending : s.client.out ≠ [] := fun hnil => hready.2 (by simp [hnil])
    have hrequest : tunnelRequestToPacket
        ⟨s.client.channelByte, ofNat 8 s.client.sno, s.client.out⟩ =
        requestPacket channel s.clientHistory.acked.length s.client.out := by
      rw [requestPacket, h.client.channelByte, h.client.sno_eq, ofNat_mod_eq]
    rw [hrequest]
    exact h.client_transmit hpending (h.client.update (.inr ⟨rfl, hpending⟩)) rfl rfl rfl

theorem not_restart (hleaves : leaves c.restart.2 = false) (hchannel : c.channel = some channel)
    (hmod : c.mod ≠ 0) : False := by
  simp [restart, hmod, hchannel, leaves, disconnectRequestToPacket,
    EIBnetControlRequest.toPacket] at hleaves

theorem ClientInv.mod_ne_zero (h : ClientInv channel c history) : c.mod ≠ 0 ∧ c.mod ≠ 3 := by
  rcases h.mod_cases with hmod | ⟨hmod, -⟩ <;> simp [hmod]

/-- A handler that leaves the connection ends the part of the run in which
nobody did. -/
theorem not_leaves_of_clientActs (hstay : (clientActs s arrived result).disconnected = false) :
    leaves result.2 = false :=
  (Bool.or_eq_false_iff.1 hstay).2

section

variable (h : Connected addr channel s)
include h

theorem Connected.timeoutCb (hstay : (clientActs s none s.client.timeoutCb).disconnected = false) :
    Connected addr channel (clientActs s none s.client.timeoutCb) := by
  have hleaves := not_leaves_of_clientActs hstay
  unfold EIBNetIPTunnel.timeoutCb at hleaves ⊢
  by_cases hmod : s.client.mod = 2
  · by_cases hretry : s.client.retry > 3
    · simp only [hmod, ne_eq, not_true_eq_false, if_false, hretry, if_true] at hleaves
      exact (not_restart hleaves h.client.channel_eq (by simp)).elim
    · simp only [hmod, ne_eq, not_true_eq_false, if_false, hretry]
      exact h.client_idle (h.client.update (.inl rfl)) rfl rfl rfl rfl rfl
        (by simp [sentPackets]) (List.Sublist.refl _)
  · simp only [ne_eq, hmod, not_false_eq_true, if_true]
    exact h.client_idle (h.client.update h.client.mod_cases) rfl rfl rfl rfl rfl
      (by simp [sentPackets]) (List.Sublist.refl _)

theorem Connected.conntimeoutCb
    (hstay : (clientActs s none s.client.conntimeoutCb).disconnected = false) :
    Connected addr channel (clientActs s none s.client.conntimeoutCb) := by
  have hleaves := not_leaves_of_clientActs hstay
  have hmod := h.client.mod_ne_zero.1
  unfold EIBNetIPTunnel.conntimeoutCb at hleaves ⊢
  by_cases hlimit : s.client.heartbeat < s.client.heartbeatLimit
  · simp only [ne_eq, hmod, not_false_eq_true, if_true, hlimit]
    refine h.client_idle (h.client.update h.client.mod_cases) rfl rfl rfl rfl rfl ?_
      (List.Sublist.refl _)
    intro packet hpacket number
    obtain rfl := mem_singleton.1 hpacket
    rw [h.client.channelByte]
    exact ⟨.stateRequest number _ _, rfl⟩
  · simp only [ne_eq, hmod, not_false_eq_true, if_true, hlimit, if_false] at hleaves
    exact (not_restart hleaves h.client.channel_eq hmod).elim

theorem Connected.not_clientStop
    (hstay : (clientActs s none s.client.stop).disconnected = false) : False := by
  have hleaves := not_leaves_of_clientActs hstay
  rw [stop, leaves, any_append, Bool.or_eq_false_iff] at hleaves
  exact not_restart hleaves.1 h.client.channel_eq h.client.mod_ne_zero.1

theorem Connected.client_submit {l : LDataPDU}
    {client : EIBNetIPTunnel} (hsend : s.client.sendLData l = .ok client)
    (hcemi : lDataToCEMI 0x11 l = .ok cemi) :
    Connected addr channel { s with
      client
      clientHistory := { s.clientHistory with
        submitted := s.clientHistory.submitted ++ [cemi] } } := by
  have hempty : s.client.out = [] := by
    have hreturns : Returns (s.client.sendLData l) := ⟨client, hsend⟩
    simp only [sendLData, returns_require_bind_iff] at hreturns
    exact length_eq_zero_iff.1 hreturns.1
  have hmessage : Message clientCodes cemi := ⟨0x11, by simp, l, hcemi⟩
  have hne : cemi ≠ [] := by
    have hbound := hmessage.length_bounds.1
    rintro rfl
    simp at hbound
  obtain rfl : { s.client with out := cemi, trigger := true } = client := by
    rw [sendLData, require_of (by simp [hempty]), ok_bind, hcemi, ok_bind] at hsend
    exact Except.ok.inj hsend
  have hqueue : clientQueue s.client = [] := by simp [clientQueue, hempty]
  have hstream := h.client.stream
  rw [hqueue, append_nil] at hstream
  have hmod : s.client.mod = 1 := by
    rcases h.client.mod_cases with hmod | ⟨-, hout⟩
    · exact hmod
    · exact absurd hempty hout
  refine ⟨{ h.client with mod_cases := .inl hmod, stream := ?_, messages := ?_ }, h.server,
    h.toServer, h.toClient, ?_⟩
  · simp [hstream, clientQueue, hne]
  · intro message hmem
    rcases mem_append.1 hmem with hmem | hmem
    · exact h.client.messages message hmem
    · rw [mem_singleton.1 hmem]
      exact hmessage
  · have hvalid := h.valid.leftStep (.submit (link s) cemi)
    simpa [link, clientQueue, hempty, hne] using hvalid

end

/-- What the client makes of a message of the server. -/
theorem takeCEMI_message (hmonitor : c.monitor = false) (hmod : c.mod ≠ 3)
    (hmessage : Message serverCodes cemi) :
    c.takeCEMI cemi = .ok (c, frameOutputs (clientFrame cemi)) := by
  obtain ⟨_, hcode, l, hcemi⟩ := hmessage
  obtain ⟨hread, hhead, -, -, frame, hframe, -⟩ := message_spec hcemi
  rw [takeCEMI, hread, ok_bind]
  rcases mem_cons.1 hcode with rfl | hcode
  · have hdecoded : clientFrame cemi = some frame := by
      simp [clientFrame, isIndication, hhead, decoded, hframe]
    rw [if_neg (by decide), if_neg (by decide), if_neg (by decide), hframe, ok_bind, hdecoded]
    simp [hmonitor, frameOutputs]
  · obtain rfl := mem_singleton.1 hcode
    have hdecoded : clientFrame cemi = none := by
      simp [clientFrame, isIndication, hhead]
    rw [if_pos rfl, if_neg hmod, hdecoded]
    rfl

/-- The server's copy of a message that the client took before is acknowledged
again. -/
theorem Connected.client_again (h : Connected addr channel s)
    (hlink : (link s).toLeft = .request number cemi :: rest.filterMap item)
    (hrest : rest.Sublist s.toClient) (hlast : number + 1 = s.clientHistory.taken.length) :
    Connected addr channel (clientActs { s with toClient := rest } arrived
      (s.client, [.send (ackPacket channel number)])) := by
  rw [clientActs_of_quiet { s with toClient := rest } arrived rfl rfl rfl rfl]
  refine ⟨h.client, h.server, ?_, fun datagram hmem => h.toClient _ (hrest.subset hmem), ?_⟩
  · refine tagged_concat h.toServer ?_
    rw [datagram_ackPacket hlast]
    exact .ack number
  · have hvalid := h.valid.leftStep (.again (link s) number cemi _ hlink hlast)
    simpa [link, sentPackets, datagram_ackPacket hlast] using hvalid

theorem nextNumber_ne (number : ℕ) : nextNumber number ≠ number := by
  unfold nextNumber
  split <;> omega

theorem ClientInv.take (h : ClientInv channel c history) (cemi : CArray) :
    ClientInv channel { c with rno := nextNumber c.rno }
      { history with
        taken := history.taken ++ [cemi]
        delivered := history.delivered ++ (clientFrame cemi).toList } := by
  refine { h with rno_eq := ?_, delivered_eq := ?_ }
  · rw [h.rno_eq, nextNumber_mod, length_append, length_singleton]
  · rw [filterMap_append, ← h.delivered_eq]
    cases hframe : clientFrame cemi <;> simp [hframe]

theorem ClientInv.confirm (h : ClientInv channel c history) (hqueue : clientQueue c = [c.out]) :
    ClientInv channel
      { c with sno := nextNumber c.sno, out := [], mod := 1, trigger := true, retry := 0 }
      { history with acked := history.acked ++ [c.out], nexts := history.nexts + 1 } := by
  refine { h with mod_cases := .inl rfl, sno_eq := ?_, stream := ?_, nexts_eq := ?_ }
  · rw [h.sno_eq, nextNumber_mod, length_append, length_singleton]
  · rw [h.stream, hqueue]
    simp [clientQueue]
  · rw [h.nexts_eq, length_append, length_singleton]

/-- What the system records when the client takes a message. -/
theorem clientActs_take (s : System) (hmessage : messageOf packet = some cemi) :
    clientActs s (some packet) ({ s.client with rno := nextNumber s.client.rno },
        .send (ackPacket channel s.clientHistory.taken.length) :: frameOutputs (clientFrame cemi)) =
      { s with
        client := { s.client with rno := nextNumber s.client.rno }
        clientHistory := { s.clientHistory with
          taken := s.clientHistory.taken ++ [cemi]
          delivered := s.clientHistory.delivered ++ (clientFrame cemi).toList }
        toServer := s.toServer ++ [⟨ackPacket channel s.clientHistory.taken.length,
          s.clientHistory.taken.length⟩] } := by
  obtain ⟨hframes, hsent, hnexts, hleaves⟩ := frameOutputs_spec (clientFrame cemi)
  simp only [clientActs, History.record, if_true, if_neg (nextNumber_ne s.client.rno),
    bind_some, hmessage, toList_none, toList_some, append_nil,
    receivedFrames_send, hframes, sentPackets_send, hsent, map_cons, map_nil,
    leaves_ack, hleaves, Bool.or_false, count_sendNext_send, hnexts, Nat.add_zero]
  rw [datagram_ackPacket (by simp)]

section

variable (h : Connected addr channel s)
include h

/-- The next message is taken, acknowledged, and handed up if it is a frame. -/
theorem Connected.client_take
    (hlink : (link s).toLeft = .request number cemi :: rest.filterMap item)
    (hrest : rest.Sublist s.toClient) (hnext : number = s.clientHistory.taken.length)
    (hmessage : messageOf packet = some cemi) :
    Connected addr channel (clientActs { s with toClient := rest } (some packet)
      ({ s.client with rno := nextNumber s.client.rno },
        .send (ackPacket channel number) :: frameOutputs (clientFrame cemi))) := by
  subst hnext
  rw [clientActs_take { s with toClient := rest } hmessage]
  refine ⟨h.client.take cemi, h.server, tagged_concat h.toServer (.ack _),
    fun datagram hmem => h.toClient _ (hrest.subset hmem), ?_⟩
  have hvalid := h.valid.leftStep (.take (link s) cemi _ hlink)
  simpa [link, clientQueue] using hvalid

/-- The acknowledgement of the outstanding message wakes the upper layer. -/
theorem Connected.client_confirm (hmod : s.client.mod = 2)
    (hlink : (link s).toLeft = .ack s.clientHistory.acked.length :: rest.filterMap item)
    (hrest : rest.Sublist s.toClient) :
    Connected addr channel (clientActs { s with toClient := rest } arrived ({ s.client with
          sno := nextNumber s.client.sno, out := [], mod := 1, trigger := true, retry := 0 },
        [.sendNext])) := by
  have hpending : s.client.out ≠ [] := by
    rcases h.client.mod_cases with hone | ⟨-, hout⟩
    · omega
    · exact hout
  have hqueue : clientQueue s.client = [s.client.out] := by simp [clientQueue, hpending]
  have hacts : clientActs { s with toClient := rest } arrived ({ s.client with
          sno := nextNumber s.client.sno, out := [], mod := 1, trigger := true, retry := 0 },
        [.sendNext]) =
      { s with
        client := { s.client with
          sno := nextNumber s.client.sno, out := [], mod := 1, trigger := true, retry := 0 }
        clientHistory := { s.clientHistory with
          acked := s.clientHistory.acked ++ [s.client.out]
          nexts := s.clientHistory.nexts + 1 }
        toClient := rest } := by
    simp [clientActs, History.record, nextNumber_ne, hqueue, receivedFrames, sentPackets, leaves]
  rw [hacts]
  refine ⟨h.client.confirm hqueue, h.server, h.toServer,
    fun datagram hmem => h.toClient _ (hrest.subset hmem), ?_⟩
  have hvalid := h.valid.leftStep (.confirm (link s) s.client.out [] _ hlink hqueue)
  simpa [link, clientQueue] using hvalid

/-- A datagram for the client that changes nothing but is used up. -/
theorem Connected.client_ignore (hrest : rest.Sublist s.toClient) :
    Connected addr channel (clientActs { s with toClient := rest } arrived (s.client, [])) :=
  h.client_idle h.client rfl rfl rfl rfl rfl (by simp [sentPackets]) hrest

theorem Connected.client_request
    (hmessage : Message serverCodes cemi) (hpacket : messageOf packet = some cemi)
    (hwire : s.toClient = ⟨requestPacket channel number cemi, number⟩ :: rest)
    (hrun : s.client.tunnelRequest ⟨channel, ofNat 8 number, cemi⟩ = .ok result) :
    Connected addr channel (clientActs { s with toClient := rest } (some packet) result) := by
  have hrest : rest.Sublist s.toClient := hwire ▸ sublist_cons_self _ _
  have hlink : (link s).toLeft = .request number cemi :: rest.filterMap item := by
    simp [link, hwire, item_requestPacket _ hmessage]
  obtain ⟨hnext, hcopy, hcases⟩ := h.valid.arriving hlink (show 1 < 256 by norm_num)
  rw [show (link s).left.taken = s.clientHistory.taken from rfl] at hnext hcopy hcases
  have hseqno : (ofNat 8 number).toNat = number % 256 := BitVec.toNat_ofNat _ _
  have hack : tunnelACKToPacket ⟨s.client.channelByte, ofNat 8 number, 0⟩ =
      ackPacket channel number := by rw [h.client.channelByte]; rfl
  simp only [tunnelRequest, hseqno, h.client.rno_eq, Nat.mod_add_mod, hack] at hrun
  split at hrun
  · next hmod =>
    cases hrun
    exact h.client_again hlink hrest (hcopy.1 hmod)
  · next hmod =>
    have hnumber : number = s.clientHistory.taken.length := by
      rcases hcases with heq | heq
      · exact heq
      · exact absurd (hcopy.2 heq) hmod
    have htake : { s.client with rno := nextNumber s.client.rno }.takeCEMI cemi =
        .ok ({ s.client with rno := nextNumber s.client.rno }, frameOutputs (clientFrame cemi)) :=
      takeCEMI_message h.client.monitor_eq h.client.mod_ne_zero.2 hmessage
    rw [if_neg (not_not.2 (hnext.2 hnumber)), ← h.client.rno_eq, htake, ok_bind] at hrun
    cases hrun
    exact h.client_take hlink hrest hnumber hpacket

theorem Connected.client_ack (hwire : s.toClient = ⟨ackPacket channel number, number⟩ :: rest) :
    Connected addr channel (clientActs { s with toClient := rest } arrived
      (s.client.tunnelResponse ⟨channel, ofNat 8 number, 0⟩)) := by
  have hrest : rest.Sublist s.toClient := hwire ▸ sublist_cons_self _ _
  have hlink : (link s).toLeft = .ack number :: rest.filterMap item := by
    simp [link, hwire]
  have hmatch := h.valid.confirming hlink (show 1 < 256 by norm_num)
  have hseqno : (ofNat 8 number).toNat = number % 256 := BitVec.toNat_ofNat _ _
  unfold tunnelResponse
  split
  · exact h.client_ignore hrest
  · next hsno =>
    rw [not_not, hseqno, h.client.sno_eq] at hsno
    rw [if_neg (by simp)]
    split
    · next hmod => exact h.client_confirm hmod ((hmatch.1 hsno) ▸ hlink) hrest
    · exact h.client_ignore hrest

end

/-- How the client dispatches what the server sends. -/
theorem readCb_request (h : ClientInv channel c history) {codes : List Byte} (src : SockAddr)
    (hmessage : Message codes cemi) :
    c.readCb { requestPacket channel number cemi with src } =
      c.tunnelRequest ⟨channel, ofNat 8 number, cemi⟩ := by
  have hparse := parseRequest_toPacket .tunnelRequest ⟨channel, ofNat 8 number, cemi⟩ src
    (le_trans (by norm_num) hmessage.length_bounds.1)
  simp only [readCb, requestPacket, tunnelRequestToPacket, parseTunnelRequest,
    hparse, if_neg h.mod_ne_zero.1, h.channel_eq, ne_eq, not_true_eq_false, if_false]
  rfl

theorem readCb_ack (h : ClientInv channel c history) (src : SockAddr) :
    c.readCb { ackPacket channel number with src } =
      .ok (c.tunnelResponse ⟨channel, ofNat 8 number, 0⟩) := by
  have hparse := parseACK_toPacket .tunnelResponse ⟨channel, ofNat 8 number, 0⟩ src
  simp only [readCb, ackPacket, tunnelACKToPacket, parseTunnelACK,
    hparse, if_neg h.mod_ne_zero.1, h.channel_eq, ne_eq, not_true_eq_false, if_false]
  rfl

theorem readCb_stateResponse (h : ClientInv channel c history) (src : SockAddr) :
    c.readCb { connectionStateResponseToPacket ⟨channel, 0⟩ with src } =
      .ok (c.connectionStateResponse ⟨channel, 0⟩) := by
  have hparse := parseControlResponse_toPacket .connectionStateResponse ⟨channel, 0⟩ src
  simp only [readCb, connectionStateResponseToPacket,
    parseConnectionStateResponse, hparse, h.channel_eq, ne_eq, not_true_eq_false, if_false]
  rfl

/-- Whatever arrives from the server, the client handles it as an endpoint of the
protocol. -/
theorem Connected.readCb (h : Connected addr channel s) {datagram : Datagram} {src : SockAddr}
    (hwire : s.toClient = datagram :: rest)
    (hrun : s.client.readCb { datagram.packet with src } = .ok result) :
    Connected addr channel (clientActs { s with toClient := rest }
      (some { datagram.packet with src }) result) := by
  have hrest : rest.Sublist s.toClient := hwire ▸ sublist_cons_self _ _
  cases h.toClient datagram (hwire ▸ mem_cons_self) with
  | request number _ hmessage =>
    rw [readCb_request h.client src hmessage] at hrun
    exact h.client_request hmessage (messageOf_requestPacket channel number src hmessage) hwire hrun
  | ack =>
    rw [readCb_ack h.client src] at hrun
    cases hrun
    exact h.client_ack hwire
  | stateRequest =>
    cases hrun
    exact h.client_ignore hrest
  | stateResponse =>
    rw [readCb_stateResponse h.client src] at hrun
    cases hrun
    exact h.client_idle (h.client.update h.client.mod_cases) rfl rfl rfl rfl rfl
      (by simp [sentPackets]) hrest

end Knxd.Reliable
