import Knxd.Tunnel.Packet

/-!
# Search and description

A client looks for servers with a search request and asks one of them for its description.
Both responses contain the same two blocks, one with the data of the device and one with the
services that it supports; the blocks start with their size and their type.
-/

namespace Knxd.Packet

open Memory LPDU

/-- The service types of `SEARCH` and `DESCRIPTION`. -/
inductive DiscoveryType
  | searchRequest
  | searchResponse
  | descriptionRequest
  | descriptionResponse
  deriving DecidableEq, Repr

def DiscoveryType.code : DiscoveryType → BitVec 16
  | .searchRequest => 0x0201
  | .searchResponse => 0x0202
  | .descriptionRequest => 0x0203
  | .descriptionResponse => 0x0204

/-- The fields of `EIBnet_SearchRequest` and of `EIBnet_DescriptionRequest`. -/
structure EIBnetDiscoveryRequest where
  caddr : SockAddr := {}
  nat : Bool := false
  deriving DecidableEq, Repr

def EIBnetDiscoveryRequest.toPacket (service : DiscoveryType) (r : EIBnetDiscoveryRequest) :
    EIBNetIPPacket :=
  { service := service.code, data := ipToEIBNetIP r.caddr r.nat }

def parseDiscoveryRequest (service : DiscoveryType) (p : EIBNetIPPacket) :
    Option EIBnetDiscoveryRequest :=
  if p.service ≠ service.code then none
  else if p.data.length ≠ 8 then none
  else (eibnetToIP p.data p.src false).map fun (caddr, nat) => ⟨caddr, nat⟩

/-- `EIBnet_SearchRequest::ToPacket`. -/
def searchRequestToPacket : EIBnetDiscoveryRequest → EIBNetIPPacket :=
  EIBnetDiscoveryRequest.toPacket .searchRequest

/-- `parseEIBnet_SearchRequest`. -/
def parseSearchRequest : EIBNetIPPacket → Option EIBnetDiscoveryRequest :=
  parseDiscoveryRequest .searchRequest

/-- `EIBnet_DescriptionRequest::ToPacket`. -/
def descriptionRequestToPacket : EIBnetDiscoveryRequest → EIBNetIPPacket :=
  EIBnetDiscoveryRequest.toPacket .descriptionRequest

/-- `parseEIBnet_DescriptionRequest`. -/
def parseDescriptionRequest : EIBNetIPPacket → Option EIBnetDiscoveryRequest :=
  parseDiscoveryRequest .descriptionRequest

structure DIBServiceEntry where
  family : Byte
  version : Byte
  deriving DecidableEq, Repr

/-- The fields that `EIBnet_DescriptionResponse` and `EIBnet_SearchResponse` share. -/
structure DeviceInfo where
  knxMedium : Byte
  devicestatus : Byte
  individualAddr : Addr
  installid : BitVec 16
  serial : Block 6
  multicastaddr : Block 4
  mac : Block 6
  name : Block 30
  services : List DIBServiceEntry
  deriving DecidableEq, Repr

/-- `name[29] = 0`. -/
def terminated (name : Block 30) : Block 30 :=
  ⟨name.1.set 29 0, by rw [List.length_set, name.2]⟩

def serviceBytes (services : List DIBServiceEntry) : CArray :=
  services.flatMap fun entry => [entry.family, entry.version]

/-- The two blocks as `ToPacket` writes them. -/
def DeviceInfo.bytes (d : DeviceInfo) : CArray :=
  [54, 1, d.knxMedium, d.devicestatus, highByte d.individualAddr, lowByte d.individualAddr,
    highByte d.installid, lowByte d.installid] ++
  (d.serial.1 ++ (d.multicastaddr.1 ++ (d.mac.1 ++ ((terminated d.name).1 ++
    ([BitVec.ofNat 8 (d.services.length * 2 + 2), 2] ++ serviceBytes d.services)))))

def readServices (data : CArray) (start : ℕ) : ℕ → Run (List DIBServiceEntry)
  | 0 => pure []
  | count + 1 => do
      let family ← readAt data start
      let version ← readAt data (start + 1)
      let rest ← readServices data (start + 2) count
      pure (⟨family, version⟩ :: rest)

/-- Reading the two blocks from an index on.  A block of services of size 0 asks for a list of
length -1, which ends the process. -/
def readDeviceInfo (data : CArray) (base : ℕ) : Run (Option DeviceInfo) := do
  let size ← readAt data base
  if size ≠ 54 then pure none
  else
    let type ← readAt data (base + 1)
    if type ≠ 1 then pure none
    else
      let knxMedium ← readAt data (base + 2)
      let devicestatus ← readAt data (base + 3)
      let addrHigh ← readAt data (base + 4)
      let addrLow ← readAt data (base + 5)
      let installHigh ← readAt data (base + 6)
      let installLow ← readAt data (base + 7)
      let serial ← readBlock data (base + 8) 6
      let multicastaddr ← readBlock data (base + 14) 4
      let mac ← readBlock data (base + 18) 6
      let name ← readBlock data (base + 24) 30
      let type ← readAt data (base + 55)
      if type ≠ 2 then pure none
      else
        let size ← readAt data (base + 54)
        if size.toNat % 2 ≠ 0 then pure none
        else if size.toNat + (base + 54) > data.length then pure none
        else if size.toNat = 0 then .error .abort
        else
          let services ← readServices data (base + 56) (size.toNat / 2 - 1)
          pure (some {
            knxMedium, devicestatus
            individualAddr := joinBytes addrHigh addrLow
            installid := joinBytes installHigh installLow
            serial, multicastaddr, mac
            name := terminated name
            services })

structure EIBnetDescriptionResponse where
  device : DeviceInfo
  optional : CArray
  deriving DecidableEq, Repr

/-- `EIBnet_DescriptionResponse::ToPacket`; `setpart` extends the array by the last part. -/
def EIBnetDescriptionResponse.toPacket (r : EIBnetDescriptionResponse) : EIBNetIPPacket :=
  { service := DiscoveryType.descriptionResponse.code, data := r.device.bytes ++ r.optional }

/-- `parseEIBnet_DescriptionResponse`. -/
def parseDescriptionResponse (p : EIBNetIPPacket) : Run (Option EIBnetDescriptionResponse) :=
  if p.service ≠ DiscoveryType.descriptionResponse.code then pure none
  else if p.data.length < 56 then pure none
  else do
    match ← readDeviceInfo p.data 0 with
    | none => pure none
    | some device =>
      let size ← readAt p.data 54
      let optional ← readPart p.data (size.toNat + 54) (p.data.length - size.toNat - 54)
      pure (some { device, optional })

structure EIBnetSearchResponse where
  device : DeviceInfo
  caddr : SockAddr
  nat : Bool
  deriving DecidableEq, Repr

def EIBnetSearchResponse.toPacket (r : EIBnetSearchResponse) : EIBNetIPPacket :=
  { service := DiscoveryType.searchResponse.code
    data := ipToEIBNetIP r.caddr r.nat ++ r.device.bytes }

/-- `parseEIBnet_SearchResponse`.  The `nat` of the object is an argument: `false` in a new
one, and otherwise what it held before. -/
def parseSearchResponse (nat : Bool) (p : EIBNetIPPacket) : Run (Option EIBnetSearchResponse) :=
  if p.service ≠ DiscoveryType.searchResponse.code then pure none
  else if p.data.length < 64 then pure none
  else
    match eibnetToIP (p.data.take 8) p.src nat with
    | none => pure none
    | some (caddr, nat) => do
        match ← readDeviceInfo p.data 8 with
        | none => pure none
        | some device => pure (some { device, caddr, nat })

end Knxd.Packet
