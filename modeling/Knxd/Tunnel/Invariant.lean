import Knxd.Tunnel.Composition

/-!
# The invariant of a tunnel

While neither side leaves the connection, the client and the server connection
are two endpoints of the stop-and-wait protocol: their 8-bit counters are the
protocol's numbers modulo 256, everything on the channels was sent by one of
them, and the frames handed up are what the messages taken decode to.
-/

namespace Knxd.Reliable

open Memory LPDU EMI Packet Client Connection StopAndWait List
open Knxd.Composition
open BitVec (ofNat)

variable {cemi : CArray}

def decoded (cemi : CArray) : Option LDataPDU :=
  match cemiToLData cemi with
  | .ok frame => frame
  | .error _ => none

def withSource (addr : Addr) (l : LDataPDU) : LDataPDU :=
  if l.source = 0 then { l with source := addr } else l

def isIndication (cemi : CArray) : Bool :=
  cemi.head? = some 0x29

def clientFrame (cemi : CArray) : Option LDataPDU :=
  if isIndication cemi then decoded cemi else none

def serverFrame (addr : Addr) (cemi : CArray) : Option LDataPDU :=
  (decoded cemi).map (withSource addr)

def Message (codes : List Byte) (cemi : CArray) : Prop :=
  ∃ code ∈ codes, ∃ l, lDataToCEMI code l = .ok cemi

abbrev clientCodes : List Byte := [0x11]

abbrev serverCodes : List Byte := [0x29, 0x2E]

/-- A message starts with its code, has a bounded length and can be decoded; the
frame in it can be encoded again. -/
theorem message_spec {code : Byte} {l : LDataPDU} (h : lDataToCEMI code l = .ok cemi) :
    readAt cemi 0 = .ok code ∧ cemi.head? = some code ∧ 10 ≤ cemi.length ∧ cemi.length < 264 ∧
      ∃ frame, cemiToLData cemi = .ok (some frame) ∧
        ∀ other, ∃ confirmation, lDataToCEMI other frame = .ok confirmation := by
  obtain ⟨rfl, hpos, hmax, hhop⟩ := of_lDataToCEMI_eq_ok h
  have hlength : (cemiMessage code l).length = l.data.length + 9 := by
    simp [cemiMessage]
  refine ⟨rfl, rfl, by omega, by omega, _,
    cemiToLData_cemiMessage code hpos (by omega) hhop, fun other => ?_⟩
  exact ⟨_, lDataToCEMI_of_bounds (l := { l.decodedForm with repeated := _ }) other hpos hmax hhop⟩

theorem Message.length_bounds {codes : List Byte} (h : Message codes cemi) :
    10 ≤ cemi.length ∧ cemi.length < 264 := by
  obtain ⟨_, -, l, hmessage⟩ := h
  exact ⟨(message_spec hmessage).2.2.1, (message_spec hmessage).2.2.2.1⟩

theorem decoded_isSome {codes : List Byte} (h : Message codes cemi) : (decoded cemi).isSome := by
  obtain ⟨_, -, l, hmessage⟩ := h
  obtain ⟨-, -, -, -, _, hframe, -⟩ := message_spec hmessage
  simp [decoded, hframe]

/-- The request with a number, which is sent modulo 256. -/
def requestPacket (channel : Byte) (number : ℕ) (cemi : CArray) : EIBNetIPPacket :=
  tunnelRequestToPacket { channel, seqno := BitVec.ofNat 8 number, cemi }

def ackPacket (channel : Byte) (number : ℕ) : EIBNetIPPacket :=
  tunnelACKToPacket { channel, seqno := BitVec.ofNat 8 number }

/-- The datagrams on a channel whose sender sends messages with these codes. -/
inductive Tagged (codes : List Byte) (channel : Byte) : Datagram → Prop
  | request (number : ℕ) (cemi : CArray) (hmessage : Message codes cemi) :
      Tagged codes channel ⟨requestPacket channel number cemi, number⟩
  | ack (number : ℕ) : Tagged codes channel ⟨ackPacket channel number, number⟩
  | stateRequest (number : ℕ) (caddr : SockAddr) (nat : Bool) :
      Tagged codes channel ⟨connectionStateRequestToPacket ⟨channel, caddr, nat⟩, number⟩
  | stateResponse (number : ℕ) :
      Tagged codes channel ⟨connectionStateResponseToPacket ⟨channel, 0⟩, number⟩

section Datagrams

variable {codes : List Byte} {channel : Byte}

theorem messageOf_requestPacket (channel : Byte) (number : ℕ) (src : SockAddr)
    (hmessage : Message codes cemi) :
    messageOf { requestPacket channel number cemi with src } = some cemi := by
  have hlength : 2 ≤ cemi.length := le_trans (by norm_num) hmessage.length_bounds.1
  have hparse := parseRequest_toPacket .tunnelRequest
    ⟨channel, ofNat 8 number, cemi⟩ src hlength
  simp only [messageOf, parseTunnelRequest, requestPacket, tunnelRequestToPacket, hparse,
    Option.map_some]

theorem item_requestPacket (number : ℕ) (hmessage : Message codes cemi) :
    item ⟨requestPacket channel number cemi, number⟩ = some (.request number cemi) := by
  have hmessage := messageOf_requestPacket channel number {} hmessage
  simp only [item]
  rw [show messageOf (requestPacket channel number cemi) = some cemi from hmessage]

@[simp]
theorem item_ackPacket (number : ℕ) :
    item ⟨ackPacket channel number, number⟩ = some (.ack number) := by
  have hack := parseACK_toPacket .tunnelResponse ⟨channel, ofNat 8 number, 0⟩ {}
  have hnone : messageOf (ackPacket channel number) = none := rfl
  simp only [item, hnone]
  rw [show parseTunnelACK (ackPacket channel number) =
    some ⟨channel, ofNat 8 number, 0⟩ from hack]

theorem datagram_requestPacket (history : History) (number : ℕ) (cemi : CArray) :
    history.datagram (requestPacket channel number cemi) =
      ⟨requestPacket channel number cemi, history.acked.length⟩ := rfl

theorem datagram_ackPacket {history : History} {number : ℕ}
    (hlast : number + 1 = history.taken.length) :
    history.datagram (ackPacket channel number) = ⟨ackPacket channel number, number⟩ := by
  have hservice : (ackPacket channel number).service = ServiceType.tunnelResponse.code := rfl
  rw [History.datagram, if_pos hservice, ← hlast, Nat.add_sub_cancel]

/-- A datagram of the channel is received unchanged or not at all. -/
theorem Tagged.recv_cases {datagram : Datagram} (h : Tagged codes channel datagram)
    (src : SockAddr) :
    recv datagram.packet.toPacket src = none ∨
      recv datagram.packet.toPacket src = some { datagram.packet with src } := by
  have hlong : datagram.packet.data.length + 6 < 2 ^ 16 := by
    cases h with
    | request _ _ hmessage =>
      have hbound := hmessage.length_bounds
      simp only [requestPacket, tunnelRequestToPacket, EIBnetRequest.toPacket,
        length_append, length_cons, length_nil]
      omega
    | ack => simp [ackPacket, tunnelACKToPacket, EIBnetACK.toPacket]
    | stateRequest =>
      simp [connectionStateRequestToPacket, EIBnetControlRequest.toPacket]
    | stateResponse => simp [connectionStateResponseToPacket, EIBnetControlResponse.toPacket]
  rw [recv_toPacket datagram.packet src hlong]
  split
  · exact .inr rfl
  · exact .inl rfl

/-- What is sent joins what is already on the channel. -/
theorem tagged_concat {wire : List Datagram} {datagram : Datagram}
    (hwire : ∀ other ∈ wire, Tagged codes channel other) (hlast : Tagged codes channel datagram) :
    ∀ other ∈ wire ++ [datagram], Tagged codes channel other := by
  intro other hmem
  rcases mem_append.1 hmem with hmem | hmem
  · exact hwire other hmem
  · rw [mem_singleton.1 hmem]
    exact hlast

end Datagrams

/-- The client while nobody leaves the connection. -/
structure ClientInv (channel : Byte) (c : EIBNetIPTunnel) (history : History) : Prop where
  channel_eq : c.channel = some channel
  monitor_eq : c.monitor = false
  mod_cases : c.mod = 1 ∨ c.mod = 2 ∧ c.out ≠ []
  sno_eq : c.sno = history.acked.length % 256
  rno_eq : c.rno = history.taken.length % 256
  stream : history.submitted = history.acked ++ clientQueue c
  messages : ∀ cemi ∈ history.submitted, Message clientCodes cemi
  nexts_eq : history.nexts = history.acked.length
  delivered_eq : history.delivered = history.taken.filterMap clientFrame

structure ServerInv (addr : Addr) (channel : Byte) (c : ConnState) (history : History) :
    Prop where
  addr_eq : c.addr = addr
  channel_eq : c.channel = channel
  type_eq : c.type = .standard
  sno_eq : c.sno = BitVec.ofNat 8 history.acked.length
  rno_eq : c.rno = BitVec.ofNat 8 history.taken.length
  retries_out : c.retries ≠ 0 → c.out ≠ []
  sendtimeout_retries : c.sendtimeout = true → c.retries ≠ 0
  stream : history.submitted = (history.acked ++ c.out).filter isIndication
  messages : ∀ cemi ∈ history.acked ++ c.out, Message serverCodes cemi
  submitted_length : history.submitted.length = history.nexts + c.doSendNext.toNat
  nexts_le : history.nexts ≤ (history.acked.filter isIndication).length
  delivered_eq : history.delivered = history.taken.filterMap (serverFrame addr)

structure Connected (addr : Addr) (channel : Byte) (s : System) : Prop where
  client : ClientInv channel s.client s.clientHistory
  server : ServerInv addr channel s.server s.serverHistory
  toServer : ∀ datagram ∈ s.toServer, Tagged clientCodes channel datagram
  toClient : ∀ datagram ∈ s.toClient, Tagged serverCodes channel datagram
  valid : (link s).Valid

theorem connected_of_established {s : System} (h : Established s) :
    Connected s.server.addr s.server.channel s where
  client := by
    obtain ⟨hsno, hrno⟩ := h.client_numbers
    rw [h.histories.1]
    constructor <;> simp [h.client_channel, h.client_monitor, h.client_mod, hsno, hrno,
      clientQueue, h.client_out]
  server := by
    obtain ⟨hsno, hrno⟩ := h.server_numbers
    rw [h.histories.2]
    constructor <;> simp [h.server_type, hsno, hrno, h.server_retries, h.server_out,
      h.server_sendtimeout, h.server_doSendNext]
  toServer := by simp [h.channels.1]
  toClient := by simp [h.channels.2]
  valid := by
    apply Link.valid_of_unsent <;>
      simp [link, h.histories.1, h.histories.2, h.channels.1, h.channels.2]

theorem ofNat_mod_eq (number : ℕ) : ofNat 8 (number % 256) = ofNat 8 number := by
  apply BitVec.eq_of_toNat_eq
  simp

def frameOutputs (frame : Option LDataPDU) : List Output :=
  (frame.map Output.recvLData).toList

theorem frameOutputs_spec (frame : Option LDataPDU) :
    receivedFrames (frameOutputs frame) = frame.toList ∧ sentPackets (frameOutputs frame) = [] ∧
      (frameOutputs frame).count .sendNext = 0 ∧ leaves (frameOutputs frame) = false := by
  cases frame <;> simp [frameOutputs, receivedFrames, sentPackets, leaves]

theorem outputs_nil : receivedFrames [] = [] ∧ sentPackets [] = [] ∧ leaves [] = false :=
  ⟨rfl, rfl, rfl⟩

theorem leaves_append (first second : List Output) :
    leaves (first ++ second) = (leaves first || leaves second) :=
  any_append

theorem receivedFrames_send (p : EIBNetIPPacket) (outputs : List Output) :
    receivedFrames (.send p :: outputs) = receivedFrames outputs := rfl

theorem sentPackets_send (p : EIBNetIPPacket) (outputs : List Output) :
    sentPackets (.send p :: outputs) = p :: sentPackets outputs := rfl

theorem count_sendNext_send (p : EIBNetIPPacket) (outputs : List Output) :
    (Output.send p :: outputs).count .sendNext = outputs.count .sendNext := by
  simp

theorem leaves_ack (channel : Byte) (number : ℕ) (outputs : List Output) :
    leaves (.send (ackPacket channel number) :: outputs) = leaves outputs := rfl

end Knxd.Reliable
