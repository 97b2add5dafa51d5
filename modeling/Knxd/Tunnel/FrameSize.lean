import Knxd.Codec.EMI
import Knxd.Tunnel.Packet

/-!
# How long a frame may be on an IP link

A frame travels between two daemons as a cEMI message, alone in the packet of a
`ROUTING_INDICATION` or behind the four bytes of a connection header in a
`TUNNEL_REQUEST`.  The encoder of the message accepts payloads of up to 254 bytes.
The buffer of `io_recv_cb` has room for 255 bytes of a datagram, headers included,
so the longest payloads do not fit into it.
-/

namespace Knxd.Packet

open Memory LPDU EMI

/-- `ROUTING_INDICATION`. -/
def routingIndicationCode : BitVec 16 := 0x0530

/-- The packet that `EIBNetIPRouter::send_L_Data` builds around a cEMI message. -/
def routingIndication (cemi : CArray) : EIBNetIPPacket :=
  { service := routingIndicationCode, data := cemi }

/-- The message arrives in a `ROUTING_INDICATION`. -/
def ArrivesRouted (src : SockAddr) (cemi : CArray) : Prop :=
  ∃ p, recv (routingIndication cemi).toPacket src = some p ∧
    p.service = routingIndicationCode ∧ p.data = cemi

/-- The message arrives in a `TUNNEL_REQUEST`, on its channel and with its number. -/
def ArrivesTunnelled (src : SockAddr) (r : EIBnetRequest) : Prop :=
  ∃ p, recv (tunnelRequestToPacket r).toPacket src = some p ∧ parseTunnelRequest p = some r

/-- A packet that exceeds the buffer is not received at all. -/
theorem recv_eq_none {p : EIBNetIPPacket} (src : SockAddr) (hlong : p.data.length + 6 < 2 ^ 16)
    (hlarge : recvBufferSize < p.data.length + 6) : recv p.toPacket src = none := by
  rw [recv_toPacket p src hlong, if_neg (by omega)]

section Arrival

variable {cemi : CArray} (src : SockAddr)

theorem arrivesRouted_iff (hlong : cemi.length + 6 < 2 ^ 16) :
    ArrivesRouted src cemi ↔ cemi.length + 6 ≤ recvBufferSize := by
  constructor
  · rintro ⟨p, hrecv, -⟩
    by_contra hlarge
    rw [recv_eq_none src hlong (not_le.1 hlarge)] at hrecv
    cases hrecv
  · intro hfits
    refine ⟨{ routingIndication cemi with src }, ?_, rfl, rfl⟩
    rw [recv_toPacket _ src hlong]
    exact if_pos hfits

theorem arrivesTunnelled_iff (channel seqno : Byte) (hshort : 2 ≤ cemi.length)
    (hlong : cemi.length + 10 < 2 ^ 16) :
    ArrivesTunnelled src ⟨channel, seqno, cemi⟩ ↔ cemi.length + 10 ≤ recvBufferSize := by
  have hsize : (tunnelRequestToPacket ⟨channel, seqno, cemi⟩).data.length + 6 =
      cemi.length + 10 := by
    simp [tunnelRequestToPacket, EIBnetRequest.toPacket]
  constructor
  · rintro ⟨p, hrecv, -⟩
    by_contra hlarge
    rw [recv_eq_none src (by omega) (by omega)] at hrecv
    cases hrecv
  · intro hfits
    refine ⟨{ tunnelRequestToPacket ⟨channel, seqno, cemi⟩ with src }, ?_, ?_⟩
    · rw [recv_toPacket _ src (by omega), hsize]
      exact if_pos hfits
    · exact parseRequest_toPacket .tunnelRequest _ src hshort

end Arrival

theorem length_cemiMessage (code : Byte) (l : LDataPDU) :
    (cemiMessage code l).length = l.data.length + 9 := by
  simp [cemiMessage]

/-- A frame reaches the other daemon both ways exactly if its payload has at most 236 bytes:
the cEMI header takes nine bytes, the connection header four, the packet header six. -/
theorem frame_arrives_iff {code : Byte} {l : LDataPDU} {cemi : CArray}
    (hcemi : lDataToCEMI code l = .ok cemi) (channel seqno : Byte) (src : SockAddr) :
    ArrivesRouted src cemi ∧ ArrivesTunnelled src ⟨channel, seqno, cemi⟩ ↔ l.data.length ≤ 236 := by
  obtain ⟨rfl, _, _, -⟩ := of_lDataToCEMI_eq_ok hcemi
  have hlength := length_cemiMessage code l
  rw [arrivesRouted_iff src (by omega), arrivesTunnelled_iff src channel seqno (by omega)
    (by omega), hlength, recvBufferSize]
  omega

/-- A group telegram whose payload has a given length. -/
def telegramOfLength (length : ℕ) : LDataPDU :=
  { addrType := .groupAddress, source := 0x1101, dest := 0x0901
    data := List.replicate length 0 }

theorem length_telegramOfLength (length : ℕ) : (telegramOfLength length).data.length = length :=
  List.length_replicate

theorem lDataToCEMI_telegramOfLength (length : ℕ) (hpos : 1 ≤ length) (hmax : length < 255) :
    lDataToCEMI 0x29 (telegramOfLength length) =
      .ok (cemiMessage 0x29 (telegramOfLength length)) := by
  have hlength := length_telegramOfLength length
  have hhop : (6 : Byte).toNat < 8 := by decide
  exact lDataToCEMI_of_bounds 0x29 (by omega) (by omega) hhop

theorem frame_arrives_longest :
    lDataToCEMI 0x29 (telegramOfLength 236) = .ok (cemiMessage 0x29 (telegramOfLength 236)) ∧
      ArrivesRouted {} (cemiMessage 0x29 (telegramOfLength 236)) ∧
      ArrivesTunnelled {} ⟨1, 0, cemiMessage 0x29 (telegramOfLength 236)⟩ := by
  have hcemi := lDataToCEMI_telegramOfLength 236 (by omega) (by omega)
  exact ⟨hcemi, (frame_arrives_iff hcemi 1 0 {}).2 (length_telegramOfLength 236).le⟩

/-- A payload of 241 bytes is encoded, but neither packet gets through. -/
theorem long_frame_lost :
    lDataToCEMI 0x29 (telegramOfLength 241) = .ok (cemiMessage 0x29 (telegramOfLength 241)) ∧
      ¬ ArrivesRouted {} (cemiMessage 0x29 (telegramOfLength 241)) ∧
      ¬ ArrivesTunnelled {} ⟨1, 0, cemiMessage 0x29 (telegramOfLength 241)⟩ := by
  have hlength : (cemiMessage 0x29 (telegramOfLength 241)).length = 250 := by
    rw [length_cemiMessage, length_telegramOfLength]
  refine ⟨lDataToCEMI_telegramOfLength 241 (by omega) (by omega), ?_, ?_⟩
  · rw [arrivesRouted_iff {} (by omega), hlength, recvBufferSize]
    omega
  · rw [arrivesTunnelled_iff {} 1 0 (by omega) (by omega), hlength, recvBufferSize]
    omega

end Knxd.Packet
