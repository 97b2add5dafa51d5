import Knxd.Tunnel.RoundTrip

/-!
# EIBnet/IP messages over IPv6

The classes for IPv6 were copied from those for IPv4.  An endpoint now takes eighteen
bytes, with the port written over two bytes of the address, but the parse functions still
cut out eight bytes for each endpoint and check the sizes of the IPv4 packets.  `EIBnettoIP`
reads all eighteen bytes of what it is given.

The two responses that describe a device differ from their IPv4 versions in the multicast
address only: it has sixteen bytes, of which the first four are sent.
-/

namespace Knxd.Packet6

open Memory LPDU Packet List Option Except

/-- The parts of `sockaddr_in6` that the packets carry; a new object is filled with zeros. -/
structure SockAddr6 where
  addr : Block 16 := ⟨List.replicate 16 0, rfl⟩
  port : BitVec 16 := 0
  deriving DecidableEq, Repr

structure EIBNet6IPPacket where
  service : BitVec 16
  data : CArray
  src : SockAddr6 := {}
  deriving DecidableEq, Repr

/-! ## Endpoints -/

def ipToEIBNetIP (a : SockAddr6) (nat : Bool) : CArray :=
  if nat then [0x08, 0x01] ++ List.replicate 16 0
  else (([0x08, 0x01] ++ a.addr.1.reverse).set 6 (highByte a.port)).set 7 (lowByte a.port)

/-- The address in the order of `s6_addr`. -/
def reversed (bytes : Block 16) : Block 16 :=
  ⟨bytes.1.reverse, by rw [List.length_reverse, bytes.2]⟩

/-- `EIBnettoIP`; `none` is the failure result. -/
def eibnetToIP (buf : CArray) (src : SockAddr6) (nat : Bool) : Run (Option (SockAddr6 × Bool)) := do
  let size ← readAt buf 0
  if size ≠ 0x08 then pure none
  else
    let type ← readAt buf 1
    if type ≠ 0x01 then pure none
    else
      let bytes ← readBlock buf 2 16
      let portHigh ← readAt buf 6
      let portLow ← readAt buf 7
      let port := joinBytes portHigh portLow
      let empty := bytes.1.all (· == 0)
      pure (some (⟨if empty then src.addr else reversed bytes, if port = 0 then src.port else port⟩,
        nat || empty))

@[simp]
theorem length_ipToEIBNetIP (a : SockAddr6) (nat : Bool) : (ipToEIBNetIP a nat).length = 18 := by
  cases nat with
  | false => simp [ipToEIBNetIP, a.addr.2]
  | true => rfl

/-- Every endpoint starts with its size and type. -/
theorem ipToEIBNetIP_eq (a : SockAddr6) (nat : Bool) :
    ∃ rest, ipToEIBNetIP a nat = 0x08 :: 0x01 :: rest ∧ rest.length = 16 := by
  cases nat with
  | false =>
    refine ⟨(a.addr.1.reverse.set 4 (highByte a.port)).set 5 (lowByte a.port), rfl, ?_⟩
    rw [length_set, length_set, length_reverse, a.addr.2]
  | true => exact ⟨replicate 16 0, rfl, rfl⟩

/-- Eight bytes that start like an endpoint are read past their end. -/
theorem eibnetToIP_cut (a : SockAddr6) (addrNat : Bool) (src : SockAddr6) (nat : Bool) :
    eibnetToIP ((ipToEIBNetIP a addrNat).take 8) src nat = .error .outOfBounds := by
  obtain ⟨rest, hbytes, _⟩ := ipToEIBNetIP_eq a addrNat
  have hcut : ¬ 2 + 16 ≤ ((0x08 : Byte) :: 0x01 :: rest.take 6).length := by
    simp only [length_cons, length_take]
    omega
  have hblock : readBlock (0x08 :: 0x01 :: rest.take 6) 2 16 = .error .outOfBounds := dif_neg hcut
  rw [hbytes]
  change eibnetToIP (0x08 :: 0x01 :: rest.take 6) src nat = _
  rw [eibnetToIP, readAt_cons_zero, ok_bind, if_neg (by simp), readAt_cons_succ, readAt_cons_zero,
    ok_bind, if_neg (by simp), hblock]
  rfl

/-! ## Connecting -/

structure EIBnet6ConnectRequest where
  caddr : SockAddr6 := {}
  daddr : SockAddr6 := {}
  nat : Bool := false
  cri : CArray := []
  deriving DecidableEq, Repr

def EIBnet6ConnectRequest.toPacket (r : EIBnet6ConnectRequest) : EIBNet6IPPacket :=
  { service := ServiceType.connectionRequest.code
    data := ipToEIBNetIP r.caddr r.nat ++ (ipToEIBNetIP r.daddr r.nat ++
      ([BitVec.ofNat 8 (r.cri.length + 1)] ++ r.cri)) }

/-- `parseEIBnet6_ConnectRequest`. -/
def parseConnectRequest (p : EIBNet6IPPacket) : Run (Option EIBnet6ConnectRequest) :=
  if p.service ≠ ServiceType.connectionRequest.code then pure none
  else if p.data.length < 18 then pure none
  else do
    let ca ← readPart p.data 0 8
    match ← eibnetToIP ca p.src false with
    | none => pure none
    | some (caddr, nat) =>
      let da ← readPart p.data 8 8
      match ← eibnetToIP da p.src nat with
      | none => pure none
      | some (daddr, nat) =>
        let size ← readAt p.data 16
        if p.data.length - 16 ≠ size.toNat then pure none
        else
          let cri ← readPart p.data 17 (p.data.length - 17)
          pure (some { caddr, daddr, nat, cri })

structure EIBnet6ConnectResponse where
  daddr : SockAddr6 := {}
  nat : Bool := false
  channel : Byte := 0
  status : Byte := 0
  crd : CArray := []
  deriving DecidableEq, Repr

def EIBnet6ConnectResponse.toPacket (r : EIBnet6ConnectResponse) : EIBNet6IPPacket :=
  { service := ServiceType.connectionResponse.code
    data :=
      if r.status ≠ 0 then [r.channel, r.status]
      else [r.channel, r.status] ++ (ipToEIBNetIP r.daddr r.nat ++
        ([BitVec.ofNat 8 (r.crd.length + 1)] ++ r.crd)) }

/-- `parseEIBnet6_ConnectResponse`. -/
def parseConnectResponse (p : EIBNet6IPPacket) : Run (Option EIBnet6ConnectResponse) :=
  if p.service ≠ ServiceType.connectionResponse.code then pure none
  else if p.data.length < 2 then pure none
  else do
    let channel ← readAt p.data 0
    let status ← readAt p.data 1
    if status ≠ 0 then
      if p.data.length ≠ 2 then pure none else pure (some { channel, status })
    else if p.data.length < 12 then pure none
    else
      let da ← readPart p.data 2 8
      match ← eibnetToIP da p.src false with
      | none => pure none
      | some (daddr, nat) =>
        let size ← readAt p.data 10
        if p.data.length - 10 ≠ size.toNat then pure none
        else
          let crd ← readPart p.data 11 (p.data.length - 11)
          pure (some { daddr, nat, channel, status, crd })

/-! ## Control of a connection -/

/-- The fields of `EIBnet6_ConnectionStateRequest` and of `EIBnet6_DisconnectRequest`. -/
structure EIBnet6ControlRequest where
  channel : Byte := 0
  caddr : SockAddr6 := {}
  nat : Bool := false
  deriving DecidableEq, Repr

def EIBnet6ControlRequest.toPacket (service : ServiceType) (r : EIBnet6ControlRequest) :
    EIBNet6IPPacket :=
  { service := service.code, data := [r.channel, 0] ++ ipToEIBNetIP r.caddr r.nat }

def parseControlRequest (service : ServiceType) (p : EIBNet6IPPacket) :
    Run (Option EIBnet6ControlRequest) :=
  if p.service ≠ service.code then pure none
  else if p.data.length ≠ 10 then pure none
  else do
    let ca ← readPart p.data 2 8
    match ← eibnetToIP ca p.src false with
    | none => pure none
    | some (caddr, nat) =>
      let channel ← readAt p.data 0
      pure (some { channel, caddr, nat })

/-- `EIBnet6_ConnectionStateRequest::ToPacket`. -/
def connectionStateRequestToPacket : EIBnet6ControlRequest → EIBNet6IPPacket :=
  EIBnet6ControlRequest.toPacket .connectionStateRequest

/-- `parseEIBnet6_ConnectionStateRequest`. -/
def parseConnectionStateRequest : EIBNet6IPPacket → Run (Option EIBnet6ControlRequest) :=
  parseControlRequest .connectionStateRequest

/-- `EIBnet6_DisconnectRequest::ToPacket`. -/
def disconnectRequestToPacket : EIBnet6ControlRequest → EIBNet6IPPacket :=
  EIBnet6ControlRequest.toPacket .disconnectRequest

/-- `parseEIBnet6_DisconnectRequest`. -/
def parseDisconnectRequest : EIBNet6IPPacket → Run (Option EIBnet6ControlRequest) :=
  parseControlRequest .disconnectRequest

def controlResponseToPacket (service : ServiceType) (r : EIBnetControlResponse) :
    EIBNet6IPPacket :=
  { service := service.code, data := [r.channel, r.status] }

def parseControlResponse (service : ServiceType) (p : EIBNet6IPPacket) :
    Run (Option EIBnetControlResponse) :=
  if p.service ≠ service.code then pure none
  else if p.data.length ≠ 2 then pure none
  else do
    let channel ← readAt p.data 0
    let status ← readAt p.data 1
    pure (some { channel, status })

/-- `EIBnet6_ConnectionStateResponse::ToPacket`. -/
def connectionStateResponseToPacket : EIBnetControlResponse → EIBNet6IPPacket :=
  controlResponseToPacket .connectionStateResponse

/-- `parseEIBnet6_ConnectionStateResponse`. -/
def parseConnectionStateResponse : EIBNet6IPPacket → Run (Option EIBnetControlResponse) :=
  parseControlResponse .connectionStateResponse

/-- `EIBnet6_DisconnectResponse::ToPacket`. -/
def disconnectResponseToPacket : EIBnetControlResponse → EIBNet6IPPacket :=
  controlResponseToPacket .disconnectResponse

/-- `parseEIBnet6_DisconnectResponse`. -/
def parseDisconnectResponse : EIBNet6IPPacket → Run (Option EIBnetControlResponse) :=
  parseControlResponse .disconnectResponse

/-! ## Search and description -/

/-- The fields of `EIBnet6_SearchRequest` and of `EIBnet6_DescriptionRequest`. -/
structure EIBnet6DiscoveryRequest where
  caddr : SockAddr6 := {}
  nat : Bool := false
  deriving DecidableEq, Repr

def EIBnet6DiscoveryRequest.toPacket (service : DiscoveryType) (r : EIBnet6DiscoveryRequest) :
    EIBNet6IPPacket :=
  { service := service.code, data := ipToEIBNetIP r.caddr r.nat }

def parseDiscoveryRequest (service : DiscoveryType) (p : EIBNet6IPPacket) :
    Run (Option EIBnet6DiscoveryRequest) :=
  if p.service ≠ service.code then pure none
  else if p.data.length ≠ 8 then pure none
  else do
    match ← eibnetToIP p.data p.src false with
    | none => pure none
    | some (caddr, nat) => pure (some { caddr, nat })

/-- `EIBnet6_SearchRequest::ToPacket`. -/
def searchRequestToPacket : EIBnet6DiscoveryRequest → EIBNet6IPPacket :=
  EIBnet6DiscoveryRequest.toPacket .searchRequest

/-- `parseEIBnet6_SearchRequest`. -/
def parseSearchRequest : EIBNet6IPPacket → Run (Option EIBnet6DiscoveryRequest) :=
  parseDiscoveryRequest .searchRequest

/-- `EIBnet6_DescriptionRequest::ToPacket`. -/
def descriptionRequestToPacket : EIBnet6DiscoveryRequest → EIBNet6IPPacket :=
  EIBnet6DiscoveryRequest.toPacket .descriptionRequest

/-- `parseEIBnet6_DescriptionRequest`. -/
def parseDescriptionRequest : EIBNet6IPPacket → Run (Option EIBnet6DiscoveryRequest) :=
  parseDiscoveryRequest .descriptionRequest

/-- What the constructor writes into the last twelve bytes of the multicast address. -/
def noMulticast : Block 12 := ⟨List.replicate 12 0, rfl⟩

/-- `EIBnet6_DescriptionResponse`.  Its multicast address is the one of `device`, four bytes,
and twelve more. -/
structure EIBnet6DescriptionResponse where
  device : DeviceInfo
  multicastRest : Block 12 := noMulticast
  optional : CArray := []
  deriving DecidableEq, Repr

def EIBnet6DescriptionResponse.toPacket (r : EIBnet6DescriptionResponse) : EIBNet6IPPacket :=
  { service := DiscoveryType.descriptionResponse.code, data := r.device.bytes ++ r.optional }

/-- `parseEIBnet6_DescriptionResponse`: the IPv4 function, on the larger object. -/
def parseDescriptionResponse (p : EIBNet6IPPacket) : Run (Option EIBnet6DescriptionResponse) := do
  match ← Packet.parseDescriptionResponse { service := p.service, data := p.data } with
  | none => pure none
  | some r => pure (some { device := r.device, optional := r.optional })

structure EIBnet6SearchResponse where
  device : DeviceInfo
  multicastRest : Block 12 := noMulticast
  caddr : SockAddr6 := {}
  nat : Bool := false
  deriving DecidableEq, Repr

/-- `EIBnet6_SearchResponse::ToPacket`.  The blocks are written from index 8 on, over the last
ten bytes of the endpoint. -/
def EIBnet6SearchResponse.toPacket (r : EIBnet6SearchResponse) : EIBNet6IPPacket :=
  { service := DiscoveryType.searchResponse.code
    data := (ipToEIBNetIP r.caddr r.nat).take 8 ++ r.device.bytes }

/-- `parseEIBnet6_SearchResponse`. -/
def parseSearchResponse (p : EIBNet6IPPacket) : Run (Option EIBnet6SearchResponse) :=
  if p.service ≠ DiscoveryType.searchResponse.code then pure none
  else if p.data.length < 64 then pure none
  else do
    let ca ← readPart p.data 0 8
    match ← eibnetToIP ca p.src false with
    | none => pure none
    | some (caddr, nat) =>
      match ← readDeviceInfo p.data 8 with
      | none => pure none
      | some device => pure (some { device, caddr, nat })

/-! ## Messages -/

inductive Message
  | connectRequest (r : EIBnet6ConnectRequest)
  | connectResponse (r : EIBnet6ConnectResponse)
  | connectionStateRequest (r : EIBnet6ControlRequest)
  | connectionStateResponse (r : EIBnetControlResponse)
  | disconnectRequest (r : EIBnet6ControlRequest)
  | disconnectResponse (r : EIBnetControlResponse)
  | searchRequest (r : EIBnet6DiscoveryRequest)
  | searchResponse (r : EIBnet6SearchResponse)
  | descriptionRequest (r : EIBnet6DiscoveryRequest)
  | descriptionResponse (r : EIBnet6DescriptionResponse)
  deriving DecidableEq, Repr

namespace Message

/-- `ToPacket` of each class. -/
def toPacket : Message → EIBNet6IPPacket
  | connectRequest r => r.toPacket
  | connectResponse r => r.toPacket
  | connectionStateRequest r => connectionStateRequestToPacket r
  | connectionStateResponse r => connectionStateResponseToPacket r
  | disconnectRequest r => disconnectRequestToPacket r
  | disconnectResponse r => disconnectResponseToPacket r
  | searchRequest r => searchRequestToPacket r
  | searchResponse r => r.toPacket
  | descriptionRequest r => descriptionRequestToPacket r
  | descriptionResponse r => r.toPacket

def parse (m : Message) (p : EIBNet6IPPacket) : Run (Option Message) :=
  match m with
  | connectRequest _ => Option.map connectRequest <$> parseConnectRequest p
  | connectResponse _ => Option.map connectResponse <$> parseConnectResponse p
  | connectionStateRequest _ => Option.map connectionStateRequest <$> parseConnectionStateRequest p
  | connectionStateResponse _ =>
    Option.map connectionStateResponse <$> parseConnectionStateResponse p
  | disconnectRequest _ => Option.map disconnectRequest <$> parseDisconnectRequest p
  | disconnectResponse _ => Option.map disconnectResponse <$> parseDisconnectResponse p
  | searchRequest _ => Option.map searchRequest <$> parseSearchRequest p
  | searchResponse _ => Option.map searchResponse <$> parseSearchResponse p
  | descriptionRequest _ => Option.map descriptionRequest <$> parseDescriptionRequest p
  | descriptionResponse _ => Option.map descriptionResponse <$> parseDescriptionResponse p

def RoundTrips (m : Message) (src : SockAddr6) : Prop :=
  m.parse { m.toPacket with src } = .ok (some m)

/-- Nothing in the packet is an endpoint, and nothing in the object is left out of it. -/
def WithoutEndpoint : Message → Prop
  | connectionStateResponse _ | disconnectResponse _ => True
  | connectResponse r => r.status ≠ 0 ∧ r = { channel := r.channel, status := r.status }
  | descriptionResponse r => r.device.Fits ∧ r.multicastRest = noMulticast
  | _ => False

end Message

/-! ## What the parse functions make of the packets -/

section Device

/-- A description is returned with the blocks at the start of the packet. -/
theorem device_of_parseDescriptionResponse {p : EIBNetIPPacket} {r : EIBnetDescriptionResponse}
    (hparse : Packet.parseDescriptionResponse p = .ok (some r)) :
    readDeviceInfo p.data 0 = .ok (some r.device) := by
  unfold Packet.parseDescriptionResponse at hparse
  split at hparse
  · cases hparse
  split at hparse
  · cases hparse
  obtain ⟨result, hresult, hdone⟩ := bind_eq_ok_iff.1 hparse
  cases result with
  | none => cases hdone
  | some =>
    obtain ⟨_, _, hdone⟩ := bind_eq_ok_iff.1 hdone
    obtain ⟨_, _, hdone⟩ := bind_eq_ok_iff.1 hdone
    obtain rfl := some.inj (ok.inj hdone)
    exact hresult

/-- Only blocks that fit are read back: the size of the second one is cut to a byte. -/
theorem fits_of_readDeviceInfo {d : DeviceInfo} {rest : CArray}
    (hread : readDeviceInfo (d.bytes ++ rest) 0 = .ok (some d)) : d.Fits := by
  obtain ⟨hname, size, hsize, hservices⟩ := of_readDeviceInfo hread
  have hwritten : readAt (d.bytes ++ rest) 54 =
      .ok (BitVec.ofNat 8 (d.services.length * 2 + 2)) := readAt_services d rest 0
  obtain rfl : size = BitVec.ofNat 8 (d.services.length * 2 + 2) :=
    ok.inj (hsize.symm.trans hwritten)
  have hlength := length_of_readServices hservices
  rw [BitVec.toNat_ofNat] at hlength
  exact ⟨by omega, hname⟩

end Device

section Classes

variable (src : SockAddr6)

/-- Cutting eight bytes out of a packet at an endpoint. -/
theorem readPart_endpoint (a : SockAddr6) (nat : Bool) (head rest : CArray) :
    readPart (head ++ (ipToEIBNetIP a nat ++ rest)) head.length 8 =
      .ok ((ipToEIBNetIP a nat).take 8) := by
  have hlength := length_ipToEIBNetIP a nat
  rw [readPart_of_le (by rw [length_append, length_append]; omega), drop_left,
    take_append_of_le_length (by omega)]

theorem parseConnectRequest_toPacket (r : EIBnet6ConnectRequest) :
    parseConnectRequest { r.toPacket with src } = .error .outOfBounds := by
  have hpart := readPart_endpoint r.caddr r.nat []
    (ipToEIBNetIP r.daddr r.nat ++ ([BitVec.ofNat 8 (r.cri.length + 1)] ++ r.cri))
  rw [EIBnet6ConnectRequest.toPacket, parseConnectRequest, if_neg (by simp), if_neg (by simp)]
  dsimp only
  rw [← nil_append (ipToEIBNetIP r.caddr r.nat ++ _), ← length_nil, hpart, ok_bind, eibnetToIP_cut]
  rfl

theorem parseConnectResponse_refused {r : EIBnet6ConnectResponse} (hstatus : r.status ≠ 0) :
    parseConnectResponse { r.toPacket with src } =
      .ok (some { channel := r.channel, status := r.status }) := by
  rw [EIBnet6ConnectResponse.toPacket, if_pos hstatus, parseConnectResponse, if_neg (by simp),
    if_neg (by simp)]
  dsimp only
  rw [readAt_cons_zero, ok_bind, readAt_cons_succ, readAt_cons_zero, ok_bind, if_pos hstatus,
    if_neg (by simp), pure_eq_ok]

theorem parseConnectResponse_accepted {r : EIBnet6ConnectResponse} (hstatus : r.status = 0) :
    parseConnectResponse { r.toPacket with src } = .error .outOfBounds := by
  let data : CArray := [r.channel, r.status] ++ (ipToEIBNetIP r.daddr r.nat ++
    ([BitVec.ofNat 8 (r.crd.length + 1)] ++ r.crd))
  have hlength : data.length = r.crd.length + 21 := by
    simp [data]
    omega
  have hchannel : readAt data 0 = .ok r.channel := rfl
  have hsecond : readAt data 1 = .ok r.status := rfl
  have hpart : readPart data 2 8 = .ok ((ipToEIBNetIP r.daddr r.nat).take 8) :=
    readPart_endpoint r.daddr r.nat [r.channel, r.status] _
  rw [EIBnet6ConnectResponse.toPacket, if_neg (not_not.2 hstatus)]
  change parseConnectResponse ⟨ServiceType.connectionResponse.code, data, src⟩ = _
  rw [parseConnectResponse, if_neg (by simp), if_neg (by rw [hlength]; omega)]
  dsimp only
  rw [hchannel, ok_bind, hsecond, ok_bind, if_neg (not_not.2 hstatus),
    if_neg (by rw [hlength]; omega), hpart, ok_bind, eibnetToIP_cut]
  rfl

theorem parseControlRequest_toPacket (service : ServiceType) (r : EIBnet6ControlRequest) :
    parseControlRequest service { r.toPacket service with src } = .ok none := by
  rw [EIBnet6ControlRequest.toPacket, parseControlRequest, if_neg (by simp), if_pos (by simp),
    pure_eq_ok]

theorem parseControlResponse_toPacket (service : ServiceType) (r : EIBnetControlResponse) :
    parseControlResponse service { controlResponseToPacket service r with src } = .ok (some r) := by
  rw [controlResponseToPacket, parseControlResponse, if_neg (by simp), if_neg (by simp)]
  rfl

theorem parseDiscoveryRequest_toPacket (service : DiscoveryType) (r : EIBnet6DiscoveryRequest) :
    parseDiscoveryRequest service { r.toPacket service with src } = .ok none := by
  rw [EIBnet6DiscoveryRequest.toPacket, parseDiscoveryRequest, if_neg (by simp),
    if_pos (by simp), pure_eq_ok]

theorem parseSearchResponse_toPacket (r : EIBnet6SearchResponse) :
    parseSearchResponse { r.toPacket with src } = .error .outOfBounds := by
  have hlength : ((ipToEIBNetIP r.caddr r.nat).take 8).length = 8 := by
    rw [length_take, length_ipToEIBNetIP]
    rfl
  have hpart := readPart_append_left ((ipToEIBNetIP r.caddr r.nat).take 8) r.device.bytes
  rw [hlength] at hpart
  rw [EIBnet6SearchResponse.toPacket, parseSearchResponse, if_neg (by simp),
    if_neg (by simp; omega)]
  dsimp only
  rw [hpart, ok_bind, eibnetToIP_cut]
  rfl

/-- The description of a device is parsed back if the number of its services fits, its name
ends in a zero, and the part of the multicast address that is not sent is empty. -/
theorem parseDescriptionResponse_toPacket_iff (r : EIBnet6DescriptionResponse) :
    parseDescriptionResponse { r.toPacket with src } = .ok (some r) ↔
      r.device.Fits ∧ r.multicastRest = noMulticast := by
  obtain ⟨device, _, optional⟩ := r
  let p : EIBNetIPPacket := EIBnetDescriptionResponse.toPacket ⟨device, optional⟩
  constructor
  · intro hparse
    obtain ⟨result, hresult, hdone⟩ := bind_eq_ok_iff.1 hparse
    cases result with
    | none => cases hdone
    | some =>
      obtain ⟨hdevice, hrest, -⟩ := EIBnet6DescriptionResponse.mk.inj (some.inj (ok.inj hdone))
      have hread := device_of_parseDescriptionResponse hresult
      rw [hdevice] at hread
      exact ⟨fits_of_readDeviceInfo hread, hrest.symm⟩
  · rintro ⟨hfits, rfl⟩
    have hparse : Packet.parseDescriptionResponse p = .ok (some ⟨device, optional⟩) :=
      parseDescriptionResponse_fits {} hfits
    exact bind_eq_ok_iff.2 ⟨_, hparse, rfl⟩

end Classes

/-- A message is returned exactly if its class returns the object. -/
theorem map_eq_some_iff {α β : Type} {wrap : α → β} (hwrap : Function.Injective wrap)
    {program : Run (Option α)} {value : α} :
    Option.map wrap <$> program = .ok (some (wrap value)) ↔ program = .ok (some value) := by
  cases program with
  | error => exact ⟨nofun, nofun⟩
  | ok result =>
    change ok (result.map wrap) = .ok (some (wrap value)) ↔ _
    rw [ok.injEq, ok.injEq, ← map_some, (map_injective hwrap).eq_iff]

theorem map_ne_some {α β : Type} {wrap : α → β} {program : Run (Option α)} {m : β}
    (hprogram : program = .ok none ∨ program = .error .outOfBounds) :
    ¬ Option.map wrap <$> program = .ok (some m) := by
  obtain rfl | rfl := hprogram
  · nofun
  · nofun

/-- A message of any class is parsed back exactly if it has no endpoint: every packet with one is
refused for its size, or read past the end of the eight bytes that were cut out. -/
theorem message_roundTrips_iff (m : Message) (src : SockAddr6) :
    m.RoundTrips src ↔ m.WithoutEndpoint := by
  cases m with
  | connectRequest r =>
    exact iff_of_false (map_ne_some (.inr (parseConnectRequest_toPacket src r))) id
  | connectResponse r =>
    by_cases hstatus : r.status = 0
    · refine iff_of_false (map_ne_some (.inr (parseConnectResponse_accepted src hstatus))) ?_
      exact fun hrefused => hrefused.1 hstatus
    · refine (map_eq_some_iff fun _ _ => Message.connectResponse.inj).trans ?_
      have hparse := parseConnectResponse_refused src hstatus
      constructor
      · intro hreturned
        have hsame := Option.some.inj (Except.ok.inj (hparse.symm.trans hreturned))
        exact ⟨hstatus, hsame.symm⟩
      · rintro ⟨-, hsame⟩
        exact hparse.trans (congrArg (fun object => Except.ok (some object)) hsame.symm)
  | connectionStateRequest r | disconnectRequest r =>
    exact iff_of_false (map_ne_some (.inl (parseControlRequest_toPacket src _ r))) id
  | connectionStateResponse r =>
    refine (map_eq_some_iff fun _ _ => Message.connectionStateResponse.inj).trans ?_
    exact iff_of_true (parseControlResponse_toPacket src .connectionStateResponse r) trivial
  | disconnectResponse r =>
    refine (map_eq_some_iff fun _ _ => Message.disconnectResponse.inj).trans ?_
    exact iff_of_true (parseControlResponse_toPacket src .disconnectResponse r) trivial
  | searchRequest r | descriptionRequest r =>
    exact iff_of_false (map_ne_some (.inl (parseDiscoveryRequest_toPacket src _ r))) id
  | searchResponse r =>
    exact iff_of_false (map_ne_some (.inr (parseSearchResponse_toPacket src r))) id
  | descriptionResponse r =>
    refine (map_eq_some_iff fun _ _ => Message.descriptionResponse.inj).trans ?_
    exact parseDescriptionResponse_toPacket_iff src r

/-- An endpoint in the network of a client. -/
def clientEndpoint : SockAddr6 where
  addr := ⟨[0xfe, 0x80, 0, 0, 0, 0, 0, 0, 0x02, 0x11, 0x22, 0xff, 0xfe, 0x33, 0x44, 0x55], rfl⟩
  port := 3671

def openTunnel : Message :=
  .connectRequest { caddr := clientEndpoint, daddr := clientEndpoint, cri := [0x04, 0x02, 0x00] }

def closeTunnel : Message :=
  .disconnectRequest { channel := 1, caddr := clientEndpoint }

/-- The first is read past the end of its endpoint, the second is refused. -/
theorem endpoints_not_parsed :
    openTunnel.parse { openTunnel.toPacket with src := clientEndpoint } = .error .outOfBounds ∧
      closeTunnel.parse { closeTunnel.toPacket with src := clientEndpoint } = .ok none := by
  decide

end Knxd.Packet6
