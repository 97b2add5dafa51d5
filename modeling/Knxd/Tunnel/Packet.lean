import Knxd.Codec.LPDU

/-!
# EIBnet/IP packets

The packets that a tunnel client and the server exchange, down to their bytes.
Every packet class of the source has a `ToPacket` method and a parser that
checks the service code and the sizes before it reads.  Classes with the same
layout share one definition here and keep their own names for its instances.
A datagram is received into a fixed buffer, so that a longer one is cut off and
then refused by the length check of `fromPacket`.
-/

namespace Knxd.Packet

open Memory LPDU List

inductive ServiceType
  | connectionRequest
  | connectionResponse
  | connectionStateRequest
  | connectionStateResponse
  | disconnectRequest
  | disconnectResponse
  | deviceConfigurationRequest
  | deviceConfigurationAck
  | tunnelRequest
  | tunnelResponse
  deriving DecidableEq, Repr

def ServiceType.code : ServiceType → BitVec 16
  | .connectionRequest => 0x0205
  | .connectionResponse => 0x0206
  | .connectionStateRequest => 0x0207
  | .connectionStateResponse => 0x0208
  | .disconnectRequest => 0x0209
  | .disconnectResponse => 0x020A
  | .deviceConfigurationRequest => 0x0310
  | .deviceConfigurationAck => 0x0311
  | .tunnelRequest => 0x0420
  | .tunnelResponse => 0x0421

/-- The `switch (p1->service)` of the packet handlers; `none` is its default. -/
def ServiceType.ofCode (service : BitVec 16) : Option ServiceType :=
  [connectionRequest, connectionResponse, connectionStateRequest, connectionStateResponse,
    disconnectRequest, disconnectResponse, deviceConfigurationRequest, deviceConfigurationAck,
    tunnelRequest, tunnelResponse].find? (·.code = service)

@[simp]
theorem ServiceType.ofCode_code (service : ServiceType) :
    ServiceType.ofCode service.code = some service := by
  cases service <;> rfl

/-- The parts of `sockaddr_in` that the packets carry. -/
structure SockAddr where
  ip : BitVec 32 := 0
  port : BitVec 16 := 0
  deriving DecidableEq, Repr

structure EIBNetIPPacket where
  service : BitVec 16
  data : CArray
  src : SockAddr := {}
  deriving DecidableEq, Repr

def EIBNetIPPacket.toPacket (p : EIBNetIPPacket) : CArray :=
  [0x06, 0x10, highByte p.service, lowByte p.service,
    highByte (BitVec.ofNat 16 (p.data.length + 6)),
    lowByte (BitVec.ofNat 16 (p.data.length + 6))] ++ p.data

/-- `EIBNetIPPacket::fromPacket`; `none` is the null pointer. -/
def fromPacket (c : CArray) (src : SockAddr) : Option EIBNetIPPacket :=
  if c.length < 6 then none
  else if byteAt c 0 ≠ 0x06 ∨ byteAt c 1 ≠ 0x10 then none
  else if (joinBytes (byteAt c 4) (byteAt c 5)).toNat ≠ c.length then none
  else some { service := joinBytes (byteAt c 2) (byteAt c 3), data := c.drop 6, src }

/-- The size of the buffer in `EIBNetIPSocket::io_recv_cb`. -/
def recvBufferSize : ℕ := 255

/-- What `EIBNetIPSocket::io_recv_cb` hands on for a datagram that its address
filter lets through. -/
def recv (datagram : CArray) (src : SockAddr) : Option EIBNetIPPacket :=
  fromPacket (datagram.take recvBufferSize) src

/-- A packet is received unchanged, or not at all if it exceeds the buffer. -/
theorem recv_toPacket (p : EIBNetIPPacket) (src : SockAddr) (hlong : p.data.length + 6 < 2 ^ 16) :
    recv p.toPacket src =
      if p.data.length + 6 ≤ recvBufferSize then some { p with src } else none := by
  have hlength : p.toPacket.length = p.data.length + 6 := by
    simp [EIBNetIPPacket.toPacket]
  have htotal : (BitVec.ofNat 16 (p.data.length + 6)).toNat = p.data.length + 6 := by
    rw [BitVec.toNat_ofNat, Nat.mod_eq_of_lt hlong]
  have hhead : ∀ count, (p.toPacket.take (count + 6)) =
      [0x06, 0x10, highByte p.service, lowByte p.service,
        highByte (BitVec.ofNat 16 (p.data.length + 6)),
        lowByte (BitVec.ofNat 16 (p.data.length + 6))] ++ p.data.take count := by
    intro count
    simp [EIBNetIPPacket.toPacket]
  have hsize : (p.toPacket.take (249 + 6)).length = min (249 + 6) (p.data.length + 6) := by
    rw [length_take, hlength]
  rw [recv, fromPacket, show recvBufferSize = 249 + 6 from rfl, hsize, if_neg (by omega), hhead]
  simp only [byteAt, cons_append, nil_append, getD_cons_zero,
    getD_cons_succ, ne_eq, not_true_eq_false, or_self, if_false,
    joinBytes_highByte_lowByte, htotal]
  by_cases hfits : p.data.length + 6 ≤ 249 + 6
  · rw [if_neg (by omega), if_pos hfits]
    simp [take_of_length_le (show p.data.length ≤ 249 by omega)]
  · rw [if_pos (by omega), if_neg hfits]

def ipToEIBNetIP (a : SockAddr) (nat : Bool) : CArray :=
  if nat then [0x08, 0x01, 0, 0, 0, 0, 0, 0]
  else [0x08, 0x01, (a.ip >>> 24).setWidth 8, (a.ip >>> 16).setWidth 8,
    (a.ip >>> 8).setWidth 8, a.ip.setWidth 8, highByte a.port, lowByte a.port]

/-- `EIBnettoIP` on an array of eight bytes.  An empty address stands for the
sender of the packet; `none` is the failure result. -/
def eibnetToIP (buf : CArray) (src : SockAddr) (nat : Bool) : Option (SockAddr × Bool) :=
  if byteAt buf 0 ≠ 0x08 ∨ byteAt buf 1 ≠ 0x01 then none
  else
    let ip : BitVec 32 := byteAt buf 2 ++ byteAt buf 3 ++ byteAt buf 4 ++ byteAt buf 5
    let port := joinBytes (byteAt buf 6) (byteAt buf 7)
    some (⟨if ip = 0 then src.ip else ip, if port = 0 then src.port else port⟩,
      nat || decide (ip = 0))

@[simp]
theorem length_ipToEIBNetIP (a : SockAddr) (nat : Bool) : (ipToEIBNetIP a nat).length = 8 := by
  cases nat <;> rfl

theorem eibnetToIP_ipToEIBNetIP (a src : SockAddr) (nat natBefore : Bool) :
    (eibnetToIP (ipToEIBNetIP a nat) src natBefore).isSome := by
  cases nat <;> rfl

/-- The fields of `EIBnet_TunnelRequest` and of `EIBnet_ConfigRequest`. -/
structure EIBnetRequest where
  channel : Byte
  seqno : Byte
  cemi : CArray
  deriving DecidableEq, Repr

/-- The fields of `EIBnet_TunnelACK` and of `EIBnet_ConfigACK`, with the status
that their constructors set. -/
structure EIBnetACK where
  channel : Byte
  seqno : Byte
  status : Byte := 0
  deriving DecidableEq, Repr

def EIBnetRequest.toPacket (service : ServiceType) (r : EIBnetRequest) : EIBNetIPPacket :=
  { service := service.code, data := [4, r.channel, r.seqno, 0] ++ r.cemi }

def parseRequest (service : ServiceType) (p : EIBNetIPPacket) : Option EIBnetRequest :=
  if p.service ≠ service.code then none
  else if p.data.length < 6 then none
  else if byteAt p.data 0 ≠ 4 then none
  else some ⟨byteAt p.data 1, byteAt p.data 2, p.data.drop 4⟩

def EIBnetACK.toPacket (service : ServiceType) (r : EIBnetACK) : EIBNetIPPacket :=
  { service := service.code, data := [4, r.channel, r.seqno, r.status] }

def parseACK (service : ServiceType) (p : EIBNetIPPacket) : Option EIBnetACK :=
  if p.service ≠ service.code then none
  else if p.data.length ≠ 4 then none
  else if byteAt p.data 0 ≠ 4 then none
  else some ⟨byteAt p.data 1, byteAt p.data 2, byteAt p.data 3⟩

/-- `EIBnet_TunnelRequest::ToPacket`. -/
def tunnelRequestToPacket : EIBnetRequest → EIBNetIPPacket :=
  EIBnetRequest.toPacket .tunnelRequest

/-- `parseEIBnet_TunnelRequest`. -/
def parseTunnelRequest : EIBNetIPPacket → Option EIBnetRequest :=
  parseRequest .tunnelRequest

/-- `EIBnet_ConfigRequest::ToPacket`. -/
def configRequestToPacket : EIBnetRequest → EIBNetIPPacket :=
  EIBnetRequest.toPacket .deviceConfigurationRequest

/-- `parseEIBnet_ConfigRequest`. -/
def parseConfigRequest : EIBNetIPPacket → Option EIBnetRequest :=
  parseRequest .deviceConfigurationRequest

/-- `EIBnet_TunnelACK::ToPacket`. -/
def tunnelACKToPacket : EIBnetACK → EIBNetIPPacket :=
  EIBnetACK.toPacket .tunnelResponse

/-- `parseEIBnet_TunnelACK`. -/
def parseTunnelACK : EIBNetIPPacket → Option EIBnetACK :=
  parseACK .tunnelResponse

/-- `EIBnet_ConfigACK::ToPacket`. -/
def configACKToPacket : EIBnetACK → EIBNetIPPacket :=
  EIBnetACK.toPacket .deviceConfigurationAck

/-- `parseEIBnet_ConfigACK`. -/
def parseConfigACK : EIBNetIPPacket → Option EIBnetACK :=
  parseACK .deviceConfigurationAck

theorem service_of_parseRequest {service : ServiceType} {p : EIBNetIPPacket} {r : EIBnetRequest}
    (h : parseRequest service p = some r) : p.service = service.code := by
  by_contra hother
  rw [parseRequest, if_pos hother] at h
  cases h

/-- A request with a cEMI message of at least two bytes is parsed back. -/
theorem parseRequest_toPacket (service : ServiceType) (r : EIBnetRequest) (src : SockAddr)
    (hcemi : 2 ≤ r.cemi.length) :
    parseRequest service { r.toPacket service with src } = some r := by
  have hlength : ¬ r.cemi.length + 4 < 6 := by omega
  simp [parseRequest, EIBnetRequest.toPacket, byteAt, hlength]

theorem parseACK_toPacket (service : ServiceType) (r : EIBnetACK) (src : SockAddr) :
    parseACK service { r.toPacket service with src } = some r := by
  simp [parseACK, EIBnetACK.toPacket, byteAt]

/-- The fields of `EIBnet_ConnectionStateRequest` and of
`EIBnet_DisconnectRequest`. -/
structure EIBnetControlRequest where
  channel : Byte
  caddr : SockAddr := {}
  nat : Bool := false
  deriving DecidableEq, Repr

/-- The fields of `EIBnet_ConnectionStateResponse` and of
`EIBnet_DisconnectResponse`. -/
structure EIBnetControlResponse where
  channel : Byte
  status : Byte := 0
  deriving DecidableEq, Repr

def EIBnetControlRequest.toPacket (service : ServiceType) (r : EIBnetControlRequest) :
    EIBNetIPPacket :=
  { service := service.code, data := [r.channel, 0] ++ ipToEIBNetIP r.caddr r.nat }

def parseControlRequest (service : ServiceType) (p : EIBNetIPPacket) :
    Option EIBnetControlRequest :=
  if p.service ≠ service.code then none
  else if p.data.length ≠ 10 then none
  else
    (eibnetToIP (p.data.drop 2) p.src false).map fun (caddr, nat) =>
      ⟨byteAt p.data 0, caddr, nat⟩

def EIBnetControlResponse.toPacket (service : ServiceType) (r : EIBnetControlResponse) :
    EIBNetIPPacket :=
  { service := service.code, data := [r.channel, r.status] }

def parseControlResponse (service : ServiceType) (p : EIBNetIPPacket) :
    Option EIBnetControlResponse :=
  if p.service ≠ service.code then none
  else if p.data.length ≠ 2 then none
  else some ⟨byteAt p.data 0, byteAt p.data 1⟩

/-- `EIBnet_ConnectionStateRequest::ToPacket`. -/
def connectionStateRequestToPacket : EIBnetControlRequest → EIBNetIPPacket :=
  EIBnetControlRequest.toPacket .connectionStateRequest

/-- `parseEIBnet_ConnectionStateRequest`. -/
def parseConnectionStateRequest : EIBNetIPPacket → Option EIBnetControlRequest :=
  parseControlRequest .connectionStateRequest

/-- `EIBnet_DisconnectRequest::ToPacket`. -/
def disconnectRequestToPacket : EIBnetControlRequest → EIBNetIPPacket :=
  EIBnetControlRequest.toPacket .disconnectRequest

/-- `parseEIBnet_DisconnectRequest`. -/
def parseDisconnectRequest : EIBNetIPPacket → Option EIBnetControlRequest :=
  parseControlRequest .disconnectRequest

/-- `EIBnet_ConnectionStateResponse::ToPacket`. -/
def connectionStateResponseToPacket : EIBnetControlResponse → EIBNetIPPacket :=
  EIBnetControlResponse.toPacket .connectionStateResponse

/-- `parseEIBnet_ConnectionStateResponse`. -/
def parseConnectionStateResponse : EIBNetIPPacket → Option EIBnetControlResponse :=
  parseControlResponse .connectionStateResponse

/-- `EIBnet_DisconnectResponse::ToPacket`. -/
def disconnectResponseToPacket : EIBnetControlResponse → EIBNetIPPacket :=
  EIBnetControlResponse.toPacket .disconnectResponse

/-- `parseEIBnet_DisconnectResponse`. -/
def parseDisconnectResponse : EIBNetIPPacket → Option EIBnetControlResponse :=
  parseControlResponse .disconnectResponse

theorem parseControlResponse_toPacket (service : ServiceType) (r : EIBnetControlResponse)
    (src : SockAddr) : parseControlResponse service { r.toPacket service with src } = some r := by
  simp [parseControlResponse, EIBnetControlResponse.toPacket, byteAt]

/-- A control request arrives with its channel; the address in it may have been
completed from the sender's. -/
theorem parseControlRequest_toPacket (service : ServiceType) (r : EIBnetControlRequest)
    (src : SockAddr) :
    ∃ caddr nat, parseControlRequest service { r.toPacket service with src } =
      some ⟨r.channel, caddr, nat⟩ := by
  obtain ⟨⟨caddr, nat⟩, hread⟩ :=
    Option.isSome_iff_exists.1 (eibnetToIP_ipToEIBNetIP r.caddr src r.nat false)
  refine ⟨caddr, nat, ?_⟩
  simp [parseControlRequest, EIBnetControlRequest.toPacket, byteAt, hread]

structure EIBnetConnectRequest where
  caddr : SockAddr
  daddr : SockAddr
  nat : Bool
  cri : CArray
  deriving DecidableEq, Repr

def EIBnetConnectRequest.toPacket (r : EIBnetConnectRequest) : EIBNetIPPacket :=
  { service := ServiceType.connectionRequest.code
    data := ipToEIBNetIP r.caddr r.nat ++ ipToEIBNetIP r.daddr r.nat ++
      [BitVec.ofNat 8 (r.cri.length + 1)] ++ r.cri }

/-- `parseEIBnet_ConnectRequest`. -/
def parseConnectRequest (p : EIBNetIPPacket) : Option EIBnetConnectRequest :=
  if p.service ≠ ServiceType.connectionRequest.code then none
  else if p.data.length < 18 then none
  else do
    let (caddr, nat) ← eibnetToIP (p.data.take 8) p.src false
    let (daddr, nat) ← eibnetToIP ((p.data.drop 8).take 8) p.src nat
    if p.data.length - 16 ≠ (byteAt p.data 16).toNat then none
    else some { caddr, daddr, nat, cri := p.data.drop 17 }

/-- `EIBnet_ConnectResponse`, with the values that its constructor sets. -/
structure EIBnetConnectResponse where
  daddr : SockAddr := {}
  nat : Bool := false
  channel : Byte := 0
  status : Byte := 0
  crd : CArray := []
  deriving DecidableEq, Repr

def EIBnetConnectResponse.toPacket (r : EIBnetConnectResponse) : EIBNetIPPacket :=
  { service := ServiceType.connectionResponse.code
    data :=
      if r.status ≠ 0 then [r.channel, r.status]
      else [r.channel, r.status] ++ ipToEIBNetIP r.daddr r.nat ++
        [BitVec.ofNat 8 (r.crd.length + 1)] ++ r.crd }

/-- `parseEIBnet_ConnectResponse`. -/
def parseConnectResponse (p : EIBNetIPPacket) : Option EIBnetConnectResponse :=
  if p.service ≠ ServiceType.connectionResponse.code then none
  else if p.data.length < 2 then none
  else if byteAt p.data 1 ≠ 0 then
    if p.data.length ≠ 2 then none
    else some { channel := byteAt p.data 0, status := byteAt p.data 1 }
  else if p.data.length < 12 then none
  else do
    let (daddr, nat) ← eibnetToIP ((p.data.drop 2).take 8) p.src false
    if p.data.length - 10 ≠ (byteAt p.data 10).toNat then none
    else some { daddr, nat, channel := byteAt p.data 0, status := byteAt p.data 1,
                crd := p.data.drop 11 }

/-- What a handler of the tunnel client or of a server connection does to its
surroundings, in the order in which it does so. -/
inductive Output
  | send (p : EIBNetIPPacket)
  | recvLData (l : LDataPDU)
  | recvLBusmonitor (pdu : CArray)
  /-- A busmonitor indication, still as the message `CEMI_to_Busmonitor` reads. -/
  | recvBusmonitorCEMI (cemi : CArray)
  | sendNext
  | setAddress (addr : Addr)
  | driverStart
  | driverStop
  | errored
  | dropConnection
  | releaseClientAddr (addr : Addr)
  | deregisterVBusmonitor
  deriving DecidableEq, Repr

/-- The packets sent. -/
def sentPackets (outputs : List Output) : List EIBNetIPPacket :=
  outputs.filterMap fun | .send p => some p | _ => none

def receivedFrames (outputs : List Output) : List LDataPDU :=
  outputs.filterMap fun | .recvLData l => some l | _ => none

theorem receivedFrames_append (first second : List Output) :
    receivedFrames (first ++ second) = receivedFrames first ++ receivedFrames second :=
  filterMap_append

theorem sentPackets_append (first second : List Output) :
    sentPackets (first ++ second) = sentPackets first ++ sentPackets second :=
  filterMap_append

end Knxd.Packet
