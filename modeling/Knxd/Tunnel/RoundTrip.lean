import Knxd.Tunnel.Discovery

/-!
# EIBnet/IP messages survive the wire

Every message class is written into a packet, the packet into bytes, and both are read
again by the matching functions.  What comes back is the message, up to what it does not
carry: a refused connection has only its channel and its status, and whether the address in
a search response is one to be replaced is not sent with it.
-/

namespace Knxd.Packet

open Memory LPDU List Nat Option
open BitVec (ofNat toNat_ofNat)
open DeviceInfo (bytes)

/-! ## Packets -/

theorem fromPacket_toPacket (p : EIBNetIPPacket) (src : SockAddr)
    (hlength : p.data.length + 6 < 2 ^ 16) : fromPacket p.toPacket src = some { p with src } := by
  have htotal : (ofNat 16 (p.data.length + 6)).toNat = p.data.length + 6 := by
    rw [toNat_ofNat, mod_eq_of_lt hlength]
  have hsize : p.toPacket.length = p.data.length + 6 := by
    simp [EIBNetIPPacket.toPacket]
  rw [fromPacket, hsize, if_neg (by omega), EIBNetIPPacket.toPacket]
  simp only [byteAt, cons_append, nil_append, getD_cons_zero, getD_cons_succ,
    ne_eq, not_true_eq_false, or_self_iff, if_false, joinBytes_highByte_lowByte, htotal]
  rfl

/-! ## Endpoints -/

def SockAddr.Public (a : SockAddr) : Prop :=
  a.ip ≠ 0 ∧ a.port ≠ 0

theorem toNat_joined {width : ℕ} (high : BitVec width) (low : Byte) :
    (high ++ low).toNat = low.toNat + 256 * high.toNat := by
  have hlow := low.isLt
  have hor := shiftLeft_add_eq_or_of_lt hlow high.toNat
  rw [BitVec.toNat_append, ← hor]
  omega

theorem join_ip (ip : BitVec 32) :
    (ip >>> 24).setWidth 8 ++ (ip >>> 16).setWidth 8 ++ (ip >>> 8).setWidth 8 ++ ip.setWidth 8 =
      ip := by
  apply BitVec.eq_of_toNat_eq
  rw [toNat_joined, toNat_joined, toNat_joined]
  simp only [BitVec.toNat_setWidth, BitVec.toNat_ushiftRight, shiftRight_eq_div_pow]
  omega

/-- An endpoint is read back, and nothing is taken from the sender of the packet. -/
theorem eibnetToIP_public {a : SockAddr} (ha : a.Public) (src : SockAddr) (nat : Bool)
    (rest : CArray) :
    eibnetToIP ((ipToEIBNetIP a false ++ rest).take 8) src nat = some (a, nat) := by
  have htake : (ipToEIBNetIP a false ++ rest).take 8 = ipToEIBNetIP a false :=
    take_left' (length_ipToEIBNetIP a false)
  have hread : eibnetToIP (ipToEIBNetIP a false) src nat =
      some (⟨if a.ip = 0 then src.ip else a.ip, if a.port = 0 then src.port else a.port⟩,
        nat || decide (a.ip = 0)) := by
    have hip := join_ip a.ip
    have hport := joinBytes_highByte_lowByte a.port
    simp only [eibnetToIP, ipToEIBNetIP, byteAt, Bool.false_eq_true, if_false, getD_cons_zero,
      getD_cons_succ, ne_eq, not_true_eq_false, or_self_iff, hip, hport]
  rw [htake, hread, if_neg ha.1, if_neg ha.2, decide_eq_false ha.1, Bool.or_false]

/-! ## The two blocks -/

section Blocks

theorem readServices_append (services : List DIBServiceEntry) (head rest : CArray) :
    readServices (head ++ (serviceBytes services ++ rest)) head.length services.length =
      .ok services := by
  induction services generalizing head with
  | nil => rfl
  | cons entry services ih =>
    have hrest := ih (head ++ [entry.family, entry.version])
    have hdata : head ++ (serviceBytes (entry :: services) ++ rest) =
        head ++ [entry.family, entry.version] ++ (serviceBytes services ++ rest) := by
      simp [serviceBytes]
    have hfamily := readAt_append_right
      ([entry.family, entry.version] ++ (serviceBytes services ++ rest)) head 0
    have hversion := readAt_append_right
      ([entry.family, entry.version] ++ (serviceBytes services ++ rest)) head 1
    rw [← append_assoc] at hfamily hversion
    rw [length_append] at hrest
    rw [hdata, length_cons, readServices]
    exact bind_eq_ok_iff.2 ⟨_, hfamily, bind_eq_ok_iff.2 ⟨_, hversion,
      bind_eq_ok_iff.2 ⟨_, hrest, rfl⟩⟩⟩

@[simp]
theorem length_serviceBytes (services : List DIBServiceEntry) :
    (serviceBytes services).length = services.length * 2 := by
  induction services with
  | nil => rfl
  | cons _ _ ih =>
    rw [serviceBytes, flatMap_cons, length_append, ← serviceBytes, ih, length_cons]
    simp only [length_cons, length_nil]
    omega

@[simp]
theorem DeviceInfo.length_bytes (d : DeviceInfo) : d.bytes.length = 56 + d.services.length * 2 := by
  simp only [bytes, length_append, length_cons, length_nil,
    length_serviceBytes, d.serial.2, d.multicastaddr.2, d.mac.2, (terminated d.name).2]
  omega

/-- The list of services fits the size of its block, and the name ends in a zero. -/
def DeviceInfo.Fits (d : DeviceInfo) : Prop :=
  d.services.length * 2 + 2 < 256 ∧ byteAt d.name.1 29 = 0

theorem terminated_eq {name : Block 30} (hname : byteAt name.1 29 = 0) :
    terminated name = name := by
  have hindex : 29 < name.1.length := by
    rw [name.2]
    norm_num
  rw [byteAt, getD_eq_getElem _ _ hindex] at hname
  apply Subtype.ext
  change name.1.set 29 0 = name.1
  rw [← hname, set_getElem_self]

theorem byteAt_terminated (name : Block 30) : byteAt (terminated name).1 29 = 0 := by
  have hindex : 29 < (name.1.set 29 0).length := by
    rw [length_set, name.2]
    norm_num
  change (name.1.set 29 0).getD 29 0 = 0
  rw [getD_eq_getElem _ _ hindex, getElem_set_self]

theorem length_of_readServices {data : CArray} {start count : ℕ}
    {services : List DIBServiceEntry} (hread : readServices data start count = .ok services) :
    services.length = count := by
  induction count generalizing start services with
  | zero =>
    cases hread
    rfl
  | succ _ ih =>
    obtain ⟨_, -, hversion⟩ := bind_eq_ok_iff.1 hread
    obtain ⟨_, -, hentries⟩ := bind_eq_ok_iff.1 hversion
    obtain ⟨_, hrest, hdone⟩ := bind_eq_ok_iff.1 hentries
    cases hdone
    rw [length_cons, ih hrest]

/-- The blocks that are returned: the name ends in a zero, and the size of the second block
gives the number of services. -/
theorem of_readDeviceInfo {data : CArray} {base : ℕ} {d : DeviceInfo}
    (hread : readDeviceInfo data base = .ok (some d)) :
    byteAt d.name.1 29 = 0 ∧ ∃ size, readAt data (base + 54) = .ok size ∧
      readServices data (base + 56) (size.toNat / 2 - 1) = .ok d.services := by
  unfold readDeviceInfo at hread
  obtain ⟨_, _, htype⟩ := bind_eq_ok_iff.1 hread
  split at htype
  · cases htype
  obtain ⟨_, _, hfields⟩ := bind_eq_ok_iff.1 htype
  split at hfields
  · cases hfields
  -- the ten fields of the first block
  simp only [bind_eq_ok_iff] at hfields
  obtain ⟨_, _, _, _, _, _, _, _, _, _, _, _, _, _, _, _, _, _, name, _, _, _, hlist⟩ := hfields
  split at hlist
  · cases hlist
  obtain ⟨size, hsize, hlist⟩ := bind_eq_ok_iff.1 hlist
  split at hlist
  · cases hlist
  split at hlist
  · cases hlist
  split at hlist
  · cases hlist
  obtain ⟨_, hservices, hdone⟩ := bind_eq_ok_iff.1 hlist
  obtain rfl := some.inj (Except.ok.inj hdone)
  exact ⟨byteAt_terminated name, size, hsize, hservices⟩

/-- The block of services starts at its fixed index. -/
theorem readAt_services (d : DeviceInfo) (rest : CArray) (index : ℕ) :
    readAt (d.bytes ++ rest) (54 + index) =
      readAt ([ofNat 8 (d.services.length * 2 + 2), 2] ++ (serviceBytes d.services ++ rest))
        index := by
  let fixed : CArray := [54, 1, d.knxMedium, d.devicestatus, highByte d.individualAddr,
    lowByte d.individualAddr, highByte d.installid, lowByte d.installid]
  have hindex : 54 + index = fixed.length + (6 + (4 + (6 + (30 + index)))) := by
    simp [fixed]
    omega
  rw [bytes, hindex]
  simp only [append_assoc]
  rw [readAt_append_right, readAt_skip, readAt_skip, readAt_skip, readAt_skip]

theorem readDeviceInfo_bytes {d : DeviceInfo} (hd : d.Fits) (head rest : CArray) :
    readDeviceInfo (head ++ (d.bytes ++ rest)) head.length = .ok (some d) := by
  obtain ⟨hservices, hname⟩ := hd
  obtain ⟨knxMedium, devicestatus, individualAddr, installid, serial, multicastaddr, mac, name,
    services⟩ := d
  dsimp only at hservices hname
  have hsize : (ofNat 8 (services.length * 2 + 2)).toNat = services.length * 2 + 2 := by
    rw [toNat_ofNat, mod_eq_of_lt hservices]
  -- the fixed bytes, the four arrays, and the block of services
  let fixed : CArray := [54, 1, knxMedium, devicestatus, highByte individualAddr,
    lowByte individualAddr, highByte installid, lowByte installid]
  let last : CArray := [ofNat 8 (services.length * 2 + 2), 2] ++ (serviceBytes services ++ rest)
  let data : CArray := head ++ (fixed ++ (serial.1 ++ (multicastaddr.1 ++ (mac.1 ++
    (name.1 ++ last)))))
  have hdata : head ++ (bytes ⟨knxMedium, devicestatus, individualAddr, installid,
      serial, multicastaddr, mac, name, services⟩ ++ rest) = data := by
    simp [bytes, data, fixed, last, terminated_eq hname]
  have hfixed (index : ℕ) (byte : Byte) (hbyte : readAt fixed index = .ok byte) :
      readAt data (head.length + index) = .ok byte := by
    rw [readAt_append_right, readAt_append_left _ (lt_of_readAt hbyte)]
    exact hbyte
  have hserial : readBlock data (head.length + (fixed.length + 0)) 6 = .ok serial := by
    rw [readBlock_append_right, readBlock_append_right, readBlock_first]
  have hmulticast : readBlock data (head.length + (fixed.length + (6 + 0))) 4 =
      .ok multicastaddr := by
    rw [readBlock_append_right, readBlock_append_right, readBlock_skip, readBlock_first]
  have hmac : readBlock data (head.length + (fixed.length + (6 + (4 + 0)))) 6 = .ok mac := by
    rw [readBlock_append_right, readBlock_append_right, readBlock_skip, readBlock_skip,
      readBlock_first]
  have hnameBlock : readBlock data (head.length + (fixed.length + (6 + (4 + (6 + 0))))) 30 =
      .ok name := by
    rw [readBlock_append_right, readBlock_append_right, readBlock_skip, readBlock_skip,
      readBlock_skip, readBlock_first]
  have hlast (index : ℕ) : readAt data (head.length + (54 + index)) = readAt last index := by
    rw [← hdata, readAt_append_right]
    exact readAt_services _ rest index
  have hentries : readServices data (head.length + 56) services.length = .ok services := by
    have hread := readServices_append services (head ++ (fixed ++ (serial.1 ++ (multicastaddr.1 ++
      (mac.1 ++ (name.1 ++ [ofNat 8 (services.length * 2 + 2), 2])))))) rest
    simpa [data, last, fixed, serial.2, multicastaddr.2, mac.2, name.2] using hread
  have hlength : data.length = head.length + (56 + services.length * 2) + rest.length := by
    simp [data, last, fixed, serial.2, multicastaddr.2, mac.2, name.2]
    omega
  rw [hdata]
  unfold readDeviceInfo
  refine bind_eq_ok_iff.2 ⟨54, hfixed 0 54 rfl, ?_⟩
  rw [if_neg (by simp)]
  refine bind_eq_ok_iff.2 ⟨1, hfixed 1 1 rfl, ?_⟩
  rw [if_neg (by simp)]
  refine bind_eq_ok_iff.2 ⟨_, hfixed 2 _ rfl, bind_eq_ok_iff.2 ⟨_, hfixed 3 _ rfl,
    bind_eq_ok_iff.2 ⟨_, hfixed 4 _ rfl, bind_eq_ok_iff.2 ⟨_, hfixed 5 _ rfl,
    bind_eq_ok_iff.2 ⟨_, hfixed 6 _ rfl, bind_eq_ok_iff.2 ⟨_, hfixed 7 _ rfl,
    bind_eq_ok_iff.2 ⟨_, hserial, bind_eq_ok_iff.2 ⟨_, hmulticast,
    bind_eq_ok_iff.2 ⟨_, hmac, bind_eq_ok_iff.2 ⟨_, hnameBlock,
    bind_eq_ok_iff.2 ⟨2, hlast 1, ?_⟩⟩⟩⟩⟩⟩⟩⟩⟩⟩⟩
  rw [if_neg (by simp)]
  refine bind_eq_ok_iff.2 ⟨_, hlast 0, ?_⟩
  rw [hsize, if_neg (by omega), if_neg (by omega), if_neg (by omega)]
  refine bind_eq_ok_iff.2 ⟨services, ?_, ?_⟩
  · rw [show (services.length * 2 + 2) / 2 - 1 = services.length by omega]
    exact hentries
  · rw [joinBytes_highByte_lowByte, joinBytes_highByte_lowByte, terminated_eq hname, pure_eq_ok]

end Blocks

/-! ## Messages -/

/-- The messages of all services. -/
inductive Message
  | connectRequest (r : EIBnetConnectRequest)
  | connectResponse (r : EIBnetConnectResponse)
  | connectionStateRequest (r : EIBnetControlRequest)
  | connectionStateResponse (r : EIBnetControlResponse)
  | disconnectRequest (r : EIBnetControlRequest)
  | disconnectResponse (r : EIBnetControlResponse)
  | tunnelRequest (r : EIBnetRequest)
  | tunnelACK (r : EIBnetACK)
  | configRequest (r : EIBnetRequest)
  | configACK (r : EIBnetACK)
  | searchRequest (r : EIBnetDiscoveryRequest)
  | searchResponse (r : EIBnetSearchResponse)
  | descriptionRequest (r : EIBnetDiscoveryRequest)
  | descriptionResponse (r : EIBnetDescriptionResponse)
  deriving DecidableEq, Repr

namespace Message

/-- `ToPacket` of each class. -/
def toPacket : Message → EIBNetIPPacket
  | connectRequest r => r.toPacket
  | connectResponse r => r.toPacket
  | connectionStateRequest r => connectionStateRequestToPacket r
  | connectionStateResponse r => connectionStateResponseToPacket r
  | disconnectRequest r => disconnectRequestToPacket r
  | disconnectResponse r => disconnectResponseToPacket r
  | tunnelRequest r => tunnelRequestToPacket r
  | tunnelACK r => tunnelACKToPacket r
  | configRequest r => configRequestToPacket r
  | configACK r => configACKToPacket r
  | searchRequest r => searchRequestToPacket r
  | searchResponse r => r.toPacket
  | descriptionRequest r => descriptionRequestToPacket r
  | descriptionResponse r => r.toPacket

/-- The parse function of the class of a message; `nat` is what an object that is not
initialised holds. -/
def parse (m : Message) (nat : Bool) (p : EIBNetIPPacket) : Run (Option Message) :=
  match m with
  | connectRequest _ => pure ((parseConnectRequest p).map connectRequest)
  | connectResponse _ => pure ((parseConnectResponse p).map connectResponse)
  | connectionStateRequest _ => pure ((parseConnectionStateRequest p).map connectionStateRequest)
  | connectionStateResponse _ => pure ((parseConnectionStateResponse p).map connectionStateResponse)
  | disconnectRequest _ => pure ((parseDisconnectRequest p).map disconnectRequest)
  | disconnectResponse _ => pure ((parseDisconnectResponse p).map disconnectResponse)
  | tunnelRequest _ => pure ((parseTunnelRequest p).map tunnelRequest)
  | tunnelACK _ => pure ((parseTunnelACK p).map tunnelACK)
  | configRequest _ => pure ((parseConfigRequest p).map configRequest)
  | configACK _ => pure ((parseConfigACK p).map configACK)
  | searchRequest _ => pure ((parseSearchRequest p).map searchRequest)
  | searchResponse _ => (Option.map searchResponse) <$> parseSearchResponse nat p
  | descriptionRequest _ => pure ((parseDescriptionRequest p).map descriptionRequest)
  | descriptionResponse _ => (Option.map descriptionResponse) <$> parseDescriptionResponse p

def carried (nat : Bool) : Message → Message
  | connectResponse r =>
    if r.status ≠ 0 then connectResponse { channel := r.channel, status := r.status }
    else connectResponse r
  | searchResponse r => searchResponse { r with nat }
  | m => m

/-- The endpoints are not to be replaced and have an address and a port, every variable part
fits its length field and has the least size that is parsed, and names end in a zero. -/
def WellFormed : Message → Prop
  | connectRequest r => r.nat = false ∧ r.caddr.Public ∧ r.daddr.Public ∧
      1 ≤ r.cri.length ∧ r.cri.length + 1 < 2 ^ 8
  | connectResponse r => r.status = 0 → r.nat = false ∧ r.daddr.Public ∧
      1 ≤ r.crd.length ∧ r.crd.length + 1 < 2 ^ 8
  | connectionStateRequest r | disconnectRequest r => r.nat = false ∧ r.caddr.Public
  | tunnelRequest r | configRequest r => 2 ≤ r.cemi.length ∧ r.cemi.length + 10 < 2 ^ 16
  | searchRequest r | descriptionRequest r => r.nat = false ∧ r.caddr.Public
  | searchResponse r => r.nat = false ∧ r.caddr.Public ∧ r.device.Fits
  | descriptionResponse r => r.device.Fits ∧
      r.device.services.length * 2 + r.optional.length + 62 < 2 ^ 16
  | _ => True

end Message

open Message

section Classes

variable (src : SockAddr)

theorem eibnetToIP_ipToEIBNetIP_public {a : SockAddr} (ha : a.Public) :
    eibnetToIP (ipToEIBNetIP a false) src false = some (a, false) := by
  have hread := eibnetToIP_public ha src false []
  rwa [append_nil, take_of_length_le (by simp)] at hread

theorem parseControlRequest_public (service : ServiceType) {r : EIBnetControlRequest}
    (hnat : r.nat = false) (hcaddr : r.caddr.Public) :
    parseControlRequest service { r.toPacket service with src } = some r := by
  obtain ⟨_, _, _⟩ := r
  dsimp only at hnat hcaddr
  subst hnat
  have hread := eibnetToIP_ipToEIBNetIP_public src hcaddr
  simp [parseControlRequest, EIBnetControlRequest.toPacket, byteAt, hread]

theorem parseDiscoveryRequest_public (service : DiscoveryType) {r : EIBnetDiscoveryRequest}
    (hnat : r.nat = false) (hcaddr : r.caddr.Public) :
    parseDiscoveryRequest service { r.toPacket service with src } = some r := by
  obtain ⟨_, _⟩ := r
  dsimp only at hnat hcaddr
  subst hnat
  have hread := eibnetToIP_ipToEIBNetIP_public src hcaddr
  simp [parseDiscoveryRequest, EIBnetDiscoveryRequest.toPacket, hread]

theorem parseConnectRequest_public {r : EIBnetConnectRequest} (hnat : r.nat = false)
    (hcaddr : r.caddr.Public) (hdaddr : r.daddr.Public) (hpos : 1 ≤ r.cri.length)
    (hmax : r.cri.length + 1 < 2 ^ 8) : parseConnectRequest { r.toPacket with src } = some r := by
  obtain ⟨caddr, daddr, _, cri⟩ := r
  dsimp only at hnat hcaddr hdaddr hpos hmax
  subst hnat
  let len : Byte := ofNat 8 (cri.length + 1)
  let data : CArray := ipToEIBNetIP caddr false ++ ipToEIBNetIP daddr false ++ [len] ++ cri
  have hlength : data.length = cri.length + 17 := by
    simp [data]
    omega
  have hlen : (byteAt data 16).toNat = cri.length + 1 := by
    change len.toNat = _
    rw [toNat_ofNat, mod_eq_of_lt hmax]
  have hfirst : eibnetToIP (data.take 8) src false = some (caddr, false) := by
    have hread := eibnetToIP_public hcaddr src false (ipToEIBNetIP daddr false ++ ([len] ++ cri))
    rwa [← append_assoc, ← append_assoc] at hread
  have hsecond : eibnetToIP ((data.drop 8).take 8) src false = some (daddr, false) :=
    eibnetToIP_public hdaddr src false ([len] ++ cri)
  have hsize : ¬ data.length - 16 ≠ (byteAt data 16).toNat := by
    rw [hlength, hlen]
    omega
  change parseConnectRequest ⟨ServiceType.connectionRequest.code, data, src⟩ = _
  rw [parseConnectRequest, if_neg (by simp), if_neg (by rw [hlength]; omega)]
  simp only [hfirst, hsecond, bind_eq_bind, bind_some]
  rw [if_neg hsize]
  rfl

theorem parseConnectResponse_refused {r : EIBnetConnectResponse} (hstatus : r.status ≠ 0) :
    parseConnectResponse { r.toPacket with src } =
      some { channel := r.channel, status := r.status } := by
  rw [EIBnetConnectResponse.toPacket, if_pos hstatus]
  change parseConnectResponse ⟨ServiceType.connectionResponse.code, [r.channel, r.status], src⟩ = _
  simpa [parseConnectResponse, byteAt] using hstatus

theorem parseConnectResponse_public {r : EIBnetConnectResponse} (hstatus : r.status = 0)
    (hnat : r.nat = false) (hdaddr : r.daddr.Public) (hpos : 1 ≤ r.crd.length)
    (hmax : r.crd.length + 1 < 2 ^ 8) : parseConnectResponse { r.toPacket with src } = some r := by
  obtain ⟨daddr, _, channel, _, crd⟩ := r
  dsimp only at hstatus hnat hdaddr hpos hmax
  subst hstatus hnat
  let len : Byte := ofNat 8 (crd.length + 1)
  let data : CArray := [channel, 0] ++ ipToEIBNetIP daddr false ++ [len] ++ crd
  have hlength : data.length = crd.length + 11 := by
    simp [data]
    omega
  have hlen : (byteAt data 10).toNat = crd.length + 1 := by
    change len.toNat = _
    rw [toNat_ofNat, mod_eq_of_lt hmax]
  have hendpoint : eibnetToIP ((data.drop 2).take 8) src false = some (daddr, false) :=
    eibnetToIP_public hdaddr src false ([len] ++ crd)
  have hsize : ¬ data.length - 10 ≠ (byteAt data 10).toNat := by
    rw [hlength, hlen]
    omega
  change parseConnectResponse ⟨ServiceType.connectionResponse.code, data, src⟩ = _
  rw [parseConnectResponse, if_neg (by simp), if_neg (by rw [hlength]; omega),
    if_neg (by simp [data, byteAt]), if_neg (by rw [hlength]; omega)]
  simp only [hendpoint, bind_eq_bind, bind_some]
  rw [if_neg hsize]
  rfl

theorem parseDescriptionResponse_fits {r : EIBnetDescriptionResponse} (hdevice : r.device.Fits) :
    parseDescriptionResponse { r.toPacket with src } = .ok (some r) := by
  obtain ⟨device, optional⟩ := r
  dsimp only at hdevice
  have hread : readDeviceInfo (device.bytes ++ optional) 0 = .ok (some device) :=
    readDeviceInfo_bytes hdevice [] optional
  have hlength : (device.bytes ++ optional).length =
      56 + device.services.length * 2 + optional.length := by
    rw [length_append, DeviceInfo.length_bytes]
  have hsize : readAt (device.bytes ++ optional) 54 =
      .ok (ofNat 8 (device.services.length * 2 + 2)) :=
    readAt_services device optional 0
  have hnumber : (ofNat 8 (device.services.length * 2 + 2)).toNat =
      device.services.length * 2 + 2 := by
    rw [toNat_ofNat, mod_eq_of_lt hdevice.1]
  have hoptional : readPart (device.bytes ++ optional) (device.services.length * 2 + 2 + 54)
      ((device.bytes ++ optional).length - (device.services.length * 2 + 2) - 54) =
        .ok optional := by
    have hend : device.services.length * 2 + 2 + 54 = device.bytes.length := by
      rw [DeviceInfo.length_bytes]
      omega
    rw [Nat.sub_sub, hend]
    exact readPart_tail device.bytes optional
  rw [EIBnetDescriptionResponse.toPacket, parseDescriptionResponse, if_neg (by simp),
    if_neg (by rw [hlength]; omega)]
  dsimp only
  rw [hread, ok_bind]
  dsimp only
  rw [hsize, ok_bind, hnumber, hoptional, ok_bind, pure_eq_ok]

theorem parseSearchResponse_public {r : EIBnetSearchResponse} (hnat : r.nat = false)
    (hcaddr : r.caddr.Public) (hdevice : r.device.Fits) (nat : Bool) :
    parseSearchResponse nat { r.toPacket with src } = .ok (some { r with nat }) := by
  obtain ⟨device, caddr, _⟩ := r
  dsimp only at hnat hcaddr hdevice
  subst hnat
  have hread := readDeviceInfo_bytes hdevice (ipToEIBNetIP caddr false) []
  rw [append_nil, length_ipToEIBNetIP] at hread
  have hendpoint := eibnetToIP_public hcaddr src nat device.bytes
  rw [EIBnetSearchResponse.toPacket, parseSearchResponse, if_neg (by simp), if_neg (by simp; omega)]
  dsimp only
  rw [hendpoint]
  dsimp only
  rw [hread, ok_bind]
  rfl

end Classes

theorem Message.length_toPacket {m : Message} (hm : m.WellFormed) :
    m.toPacket.data.length + 6 < 2 ^ 16 := by
  cases m with
  | connectRequest =>
    obtain ⟨-, -, -, -, hmax⟩ := hm
    simp [toPacket, EIBnetConnectRequest.toPacket]
    omega
  | connectResponse =>
    simp only [toPacket, EIBnetConnectResponse.toPacket]
    split
    · simp
    · next hstatus =>
      obtain ⟨-, -, -, hmax⟩ := hm (not_not.1 hstatus)
      simp
      omega
  | connectionStateRequest | disconnectRequest =>
    simp [toPacket, connectionStateRequestToPacket, disconnectRequestToPacket,
      EIBnetControlRequest.toPacket]
  | connectionStateResponse | disconnectResponse => exact (by decide : 2 + 6 < 2 ^ 16)
  | tunnelACK | configACK => exact (by decide : 4 + 6 < 2 ^ 16)
  | tunnelRequest | configRequest =>
    have hlength := hm.2
    simp [toPacket, tunnelRequestToPacket, configRequestToPacket, EIBnetRequest.toPacket]
    omega
  | searchRequest | descriptionRequest =>
    simp [toPacket, searchRequestToPacket, descriptionRequestToPacket,
      EIBnetDiscoveryRequest.toPacket]
  | searchResponse =>
    have hservices := hm.2.2.1
    simp [toPacket, EIBnetSearchResponse.toPacket]
    omega
  | descriptionResponse =>
    have hlength := hm.2
    simp [toPacket, EIBnetDescriptionResponse.toPacket]
    omega

theorem Message.parsed {α : Type} (make : α → Message) {parse : Option α} {r : α}
    (hparse : parse = some r) : (pure (parse.map make) : Run (Option Message)) = .ok (make r) := by
  rw [hparse]
  rfl

theorem Message.parse_toPacket {m : Message} (hm : m.WellFormed) (src : SockAddr) (nat : Bool) :
    m.parse nat { m.toPacket with src } = .ok (some (m.carried nat)) := by
  cases m with
  | connectRequest =>
    obtain ⟨hnat, hcaddr, hdaddr, hpos, hmax⟩ := hm
    exact parsed connectRequest (parseConnectRequest_public src hnat hcaddr hdaddr hpos hmax)
  | connectResponse r =>
    by_cases hstatus : r.status = 0
    · obtain ⟨hnat, hdaddr, hpos, hmax⟩ := hm hstatus
      have hparse := parseConnectResponse_public src hstatus hnat hdaddr hpos hmax
      rw [parse, toPacket, hparse, carried, if_neg (not_not.2 hstatus)]
      rfl
    · have hparse := parseConnectResponse_refused src hstatus
      rw [parse, toPacket, hparse, carried, if_pos hstatus]
      rfl
  | connectionStateRequest =>
    exact parsed connectionStateRequest
      (parseControlRequest_public src .connectionStateRequest hm.1 hm.2)
  | connectionStateResponse r =>
    exact parsed connectionStateResponse
      (parseControlResponse_toPacket .connectionStateResponse r src)
  | disconnectRequest =>
    exact parsed disconnectRequest (parseControlRequest_public src .disconnectRequest hm.1 hm.2)
  | disconnectResponse r =>
    exact parsed disconnectResponse (parseControlResponse_toPacket .disconnectResponse r src)
  | tunnelRequest r =>
    exact parsed tunnelRequest (parseRequest_toPacket .tunnelRequest r src hm.1)
  | tunnelACK r =>
    exact parsed tunnelACK (parseACK_toPacket .tunnelResponse r src)
  | configRequest r =>
    exact parsed configRequest (parseRequest_toPacket .deviceConfigurationRequest r src hm.1)
  | configACK r =>
    exact parsed configACK (parseACK_toPacket .deviceConfigurationAck r src)
  | searchRequest =>
    exact parsed searchRequest (parseDiscoveryRequest_public src .searchRequest hm.1 hm.2)
  | searchResponse =>
    have hparse := parseSearchResponse_public src hm.1 hm.2.1 hm.2.2 nat
    rw [parse, toPacket, hparse]
    rfl
  | descriptionRequest =>
    exact parsed descriptionRequest (parseDiscoveryRequest_public src .descriptionRequest hm.1 hm.2)
  | descriptionResponse =>
    have hparse := parseDescriptionResponse_fits src hm.1
    rw [parse, toPacket, hparse]
    rfl

/-- A message of any service is written and read back, whoever sends the packet. -/
theorem message_roundTrip {m : Message} (hm : m.WellFormed) (src : SockAddr) (nat : Bool) :
    ∃ p, fromPacket m.toPacket.toPacket src = some p ∧ m.parse nat p = .ok (some (m.carried nat)) :=
  ⟨_, fromPacket_toPacket _ src (length_toPacket hm), parse_toPacket hm src nat⟩

/-- The answer of a server that routes and tunnels. -/
def serverFound : EIBnetSearchResponse where
  device :=
    { knxMedium := 0x02, devicestatus := 0, individualAddr := 0x1101, installid := 0
      serial := ⟨[1, 2, 3, 4, 5, 6], rfl⟩
      multicastaddr := ⟨[224, 0, 23, 12], rfl⟩
      mac := ⟨[2, 0, 0, 0, 0, 1], rfl⟩
      name := ⟨[0x6b, 0x6e, 0x78, 0x64] ++ List.replicate 26 0, rfl⟩
      services := [⟨2, 1⟩, ⟨4, 1⟩, ⟨5, 1⟩] }
  caddr := ⟨0xC0A80002, 3671⟩
  nat := false

theorem message_roundTrip_serverFound : (Message.searchResponse serverFound).WellFormed ∧
      ∃ p, fromPacket (Message.searchResponse serverFound).toPacket.toPacket {} = some p ∧
        (Message.searchResponse serverFound).parse true p =
          .ok (some ((Message.searchResponse serverFound).carried true)) := by
  have hfound : (searchResponse serverFound).WellFormed :=
    ⟨rfl, ⟨by decide, by decide⟩, by decide, rfl⟩
  exact ⟨hfound, message_roundTrip hfound {} true⟩

end Knxd.Packet
