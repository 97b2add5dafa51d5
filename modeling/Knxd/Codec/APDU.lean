import Knxd.Codec.LPDU

/-!
# Application-layer messages

`APDU::fromPacket` chooses one of thirty-eight classes from the first two bytes of
a message and lets `init` of that class read the rest; what no class accepts becomes
an `A_Unknown_PDU`.  Every class writes itself with `ToPacket` and describes itself
with `Decode`, both guarded by assertions on its fields.

Classes with the same layout share the function that reads or writes it, and keep
their own line with their own codes and texts.
-/

namespace Knxd.Application

open Memory LPDU

/-! ## Classes and fields -/

/-- `serialnumber_t`. -/
abbrev SerialNumber := Block 6

/-- The fields of `A_GroupValue_Response_PDU` and `A_GroupValue_Write_PDU`: six bits
in the second byte of the message, or whole bytes behind it. -/
structure GroupValue where
  issmall : Bool
  data : CArray
  deriving DecidableEq, Repr

/-- The elements of a property that the `A_PropertyValue` messages are about. -/
structure PropertyValue where
  obj : Byte
  prop : Byte
  count : Byte
  start : BitVec 16
  deriving DecidableEq, Repr

structure MemoryRange where
  count : Byte
  addr : BitVec 16
  deriving DecidableEq, Repr

structure UserMemoryRange where
  addrExtension : Byte
  count : Byte
  addr : BitVec 16
  deriving DecidableEq, Repr

inductive APDU
  | unknown (pdu : CArray)
  | groupValueRead
  | groupValueResponse (value : GroupValue)
  | groupValueWrite (value : GroupValue)
  | individualAddressRead
  | individualAddressResponse
  | individualAddressWrite (addr : Addr)
  | individualAddressSerialNumberRead (serno : SerialNumber)
  | individualAddressSerialNumberResponse (serno : SerialNumber) (addr : BitVec 16)
  | individualAddressSerialNumberWrite (serno : SerialNumber) (addr : Addr)
  | serviceInformationIndicationWrite (verifyMode duplicateAddress applStopped : Bool)
  | domainAddressWrite (addr : BitVec 16)
  | domainAddressRead
  | domainAddressResponse (addr : BitVec 16)
  | domainAddressSelectiveRead (domainaddr : BitVec 16) (addr : Addr) (range : Byte)
  | propertyValueRead (value : PropertyValue)
  | propertyValueResponse (value : PropertyValue) (data : CArray)
  | propertyValueWrite (value : PropertyValue) (data : CArray)
  | propertyDescriptionRead (obj prop propertyIndex : Byte)
  | propertyDescriptionResponse (obj prop propertyIndex type : Byte) (count : BitVec 16)
      (access : Byte)
  | deviceDescriptorRead (type : Byte)
  | deviceDescriptorResponse (type : Byte) (descriptor : BitVec 16)
  | adcRead (channel count : Byte)
  | adcResponse (channel count : Byte) (val : BitVec 16)
  | memoryRead (range : MemoryRange)
  | memoryResponse (range : MemoryRange) (data : CArray)
  | memoryWrite (range : MemoryRange) (data : CArray)
  | memoryBitWrite (range : MemoryRange) (andmask xormask : CArray)
  | userMemoryRead (range : UserMemoryRange)
  | userMemoryResponse (range : UserMemoryRange) (data : CArray)
  | userMemoryWrite (range : UserMemoryRange) (data : CArray)
  | userMemoryBitWrite (range : UserMemoryRange) (andmask xormask : CArray)
  | userManufacturerInfoRead
  | userManufacturerInfoResponse (manufacturerid : Byte) (data : BitVec 16)
  | restart
  | authorizeRequest (key : BitVec 32)
  | authorizeResponse (level : Byte)
  | keyWrite (level : Byte) (key : BitVec 32)
  | keyResponse (level : Byte)
  deriving DecidableEq, Repr

/-- The classes that `fromPacket` can choose. -/
inductive APDUType
  | groupValueRead
  | groupValueResponse
  | groupValueWrite
  | individualAddressRead
  | individualAddressResponse
  | individualAddressWrite
  | individualAddressSerialNumberRead
  | individualAddressSerialNumberResponse
  | individualAddressSerialNumberWrite
  | serviceInformationIndicationWrite
  | domainAddressWrite
  | domainAddressRead
  | domainAddressResponse
  | domainAddressSelectiveRead
  | propertyValueRead
  | propertyValueResponse
  | propertyValueWrite
  | propertyDescriptionRead
  | propertyDescriptionResponse
  | deviceDescriptorRead
  | deviceDescriptorResponse
  | adcRead
  | adcResponse
  | memoryRead
  | memoryResponse
  | memoryWrite
  | memoryBitWrite
  | userMemoryRead
  | userMemoryResponse
  | userMemoryWrite
  | userMemoryBitWrite
  | userManufacturerInfoRead
  | userManufacturerInfoResponse
  | restart
  | authorizeRequest
  | authorizeResponse
  | keyWrite
  | keyResponse
  deriving DecidableEq, Repr

/-- `getType`; `none` is `A_Unknown`. -/
def APDU.getType : APDU → Option APDUType
  | unknown _ => none
  | groupValueRead => some .groupValueRead
  | groupValueResponse .. => some .groupValueResponse
  | groupValueWrite .. => some .groupValueWrite
  | individualAddressRead => some .individualAddressRead
  | individualAddressResponse => some .individualAddressResponse
  | individualAddressWrite .. => some .individualAddressWrite
  | individualAddressSerialNumberRead .. => some .individualAddressSerialNumberRead
  | individualAddressSerialNumberResponse .. => some .individualAddressSerialNumberResponse
  | individualAddressSerialNumberWrite .. => some .individualAddressSerialNumberWrite
  | serviceInformationIndicationWrite .. => some .serviceInformationIndicationWrite
  | domainAddressWrite .. => some .domainAddressWrite
  | domainAddressRead => some .domainAddressRead
  | domainAddressResponse .. => some .domainAddressResponse
  | domainAddressSelectiveRead .. => some .domainAddressSelectiveRead
  | propertyValueRead .. => some .propertyValueRead
  | propertyValueResponse .. => some .propertyValueResponse
  | propertyValueWrite .. => some .propertyValueWrite
  | propertyDescriptionRead .. => some .propertyDescriptionRead
  | propertyDescriptionResponse .. => some .propertyDescriptionResponse
  | deviceDescriptorRead .. => some .deviceDescriptorRead
  | deviceDescriptorResponse .. => some .deviceDescriptorResponse
  | adcRead .. => some .adcRead
  | adcResponse .. => some .adcResponse
  | memoryRead .. => some .memoryRead
  | memoryResponse .. => some .memoryResponse
  | memoryWrite .. => some .memoryWrite
  | memoryBitWrite .. => some .memoryBitWrite
  | userMemoryRead .. => some .userMemoryRead
  | userMemoryResponse .. => some .userMemoryResponse
  | userMemoryWrite .. => some .userMemoryWrite
  | userMemoryBitWrite .. => some .userMemoryBitWrite
  | userManufacturerInfoRead => some .userManufacturerInfoRead
  | userManufacturerInfoResponse .. => some .userManufacturerInfoResponse
  | restart => some .restart
  | authorizeRequest .. => some .authorizeRequest
  | authorizeResponse .. => some .authorizeResponse
  | keyWrite .. => some .keyWrite
  | keyResponse .. => some .keyResponse

/-- The nested `switch` of `APDU::fromPacket`; `none` leaves the pointer empty. -/
def select (c0 c1 : Byte) : Option APDUType :=
  match (c0 &&& 0x03).toNat, (c1 &&& 0xC0).toNat with
  | 0, 0x00 => some .groupValueRead
  | 0, 0x40 => some .groupValueResponse
  | 0, 0x80 => some .groupValueWrite
  | 0, 0xC0 => some .individualAddressWrite
  | 1, 0x00 => some .individualAddressRead
  | 1, 0x40 => some .individualAddressResponse
  | 1, 0x80 => some .adcRead
  | 1, 0xC0 => some .adcResponse
  | 2, 0x00 => some .memoryRead
  | 2, 0x40 => some .memoryResponse
  | 2, 0x80 => some .memoryWrite
  | 2, 0xC0 =>
    match c1.toNat with
    | 0xC0 => some .userMemoryRead
    | 0xC1 => some .userMemoryResponse
    | 0xC2 => some .userMemoryWrite
    | 0xC4 => some .userMemoryBitWrite
    | 0xC5 => some .userManufacturerInfoRead
    | 0xC6 => some .userManufacturerInfoResponse
    | _ => none
  | 3, 0x00 => some .deviceDescriptorRead
  | 3, 0x40 => some .deviceDescriptorResponse
  | 3, 0x80 => some .restart
  | 3, 0xC0 =>
    match c1.toNat with
    | 0xD0 => some .memoryBitWrite
    | 0xD1 => some .authorizeRequest
    | 0xD2 => some .authorizeResponse
    | 0xD3 => some .keyWrite
    | 0xD4 => some .keyResponse
    | 0xD5 => some .propertyValueRead
    | 0xD6 => some .propertyValueResponse
    | 0xD7 => some .propertyValueWrite
    | 0xD8 => some .propertyDescriptionRead
    | 0xD9 => some .propertyDescriptionResponse
    | 0xDC => some .individualAddressSerialNumberRead
    | 0xDD => some .individualAddressSerialNumberResponse
    | 0xDE => some .individualAddressSerialNumberWrite
    | 0xDF => some .serviceInformationIndicationWrite
    | 0xE0 => some .domainAddressWrite
    | 0xE1 => some .domainAddressRead
    | 0xE2 => some .domainAddressResponse
    | 0xE3 => some .domainAddressSelectiveRead
    | _ => none
  | _, _ => none

/-! ## Reading -/

/-- `(c[index] << 8) | c[index + 1]`. -/
def readWord (c : CArray) (index : ℕ) : Run (BitVec 16) := do
  let high ← readAt c index
  let low ← readAt c (index + 1)
  pure (joinBytes high low)

/-- The four bytes of an `eibkey_type`. -/
def readKey (c : CArray) (index : ℕ) : Run (BitVec 32) := do
  let high ← readWord c index
  let low ← readWord c (index + 2)
  pure ((high.setWidth 32 <<< 16) ||| low.setWidth 32)

/-- `init` of the classes that have no fields. -/
def initEmpty (a : APDU) (c : CArray) : Run (Option APDU) :=
  if c.length ≠ 2 then pure none else pure (some a)

/-- `init` of the `A_GroupValue` classes. -/
def initGroupValue (make : GroupValue → APDU) (c : CArray) : Run (Option APDU) :=
  if c.length < 2 then pure none
  else if c.length = 2 then do
    let c1 ← readAt c 1
    pure (some (make ⟨true, [c1 &&& 0x3f]⟩))
  else do
    let data ← readPart c 2 (c.length - 2)
    pure (some (make ⟨false, data⟩))

/-- `init` of the classes with one address. -/
def initAddr (make : BitVec 16 → APDU) (c : CArray) : Run (Option APDU) :=
  if c.length ≠ 4 then pure none
  else do
    let addr ← readWord c 2
    pure (some (make addr))

/-- `init` of the classes with one byte. -/
def initLevel (make : Byte → APDU) (c : CArray) : Run (Option APDU) :=
  if c.length ≠ 3 then pure none
  else do
    let level ← readAt c 2
    pure (some (make level))

/-- `init` of the `A_IndividualAddressSerialNumber` classes with an address. -/
def initSerialNumberAddr (size : ℕ) (make : SerialNumber → BitVec 16 → APDU) (c : CArray) :
    Run (Option APDU) :=
  if c.length ≠ size then pure none
  else do
    let serno ← readBlock c 2 6
    let addr ← readWord c 8
    pure (some (make serno addr))

def readPropertyValue (c : CArray) : Run PropertyValue := do
  let obj ← readAt c 2
  let prop ← readAt c 3
  let c4 ← readAt c 4
  let c5 ← readAt c 5
  pure ⟨obj, prop, (c4 >>> 4) &&& 0x0f, joinBytes (c4 &&& 0x0f) c5⟩

/-- `init` of the `A_PropertyValue` classes with data. -/
def initPropertyData (make : PropertyValue → CArray → APDU) (c : CArray) : Run (Option APDU) :=
  if c.length < 6 then pure none
  else do
    let value ← readPropertyValue c
    let data ← readPart c 6 (c.length - 6)
    pure (some (make value data))

/-- The range of an `A_Memory` message, its length in the second byte. -/
def readMemoryRange (c : CArray) : Run MemoryRange := do
  let c1 ← readAt c 1
  let addr ← readWord c 2
  pure ⟨c1 &&& 0x0f, addr⟩

/-- `init` of the `A_Memory` classes with data. -/
def initMemoryData (make : MemoryRange → CArray → APDU) (c : CArray) : Run (Option APDU) :=
  if c.length < 4 then pure none
  else do
    let range ← readMemoryRange c
    let data ← readPart c 4 (c.length - 4)
    if data.length ≠ range.count.toNat then pure none else pure (some (make range data))

/-- The range of an `A_UserMemory` message. -/
def readUserMemoryRange (c : CArray) : Run UserMemoryRange := do
  let c2 ← readAt c 2
  let addr ← readWord c 3
  pure ⟨(c2 >>> 4) &&& 0x0f, c2 &&& 0x0f, addr⟩

/-- `init` of the `A_UserMemory` classes with data. -/
def initUserMemoryData (make : UserMemoryRange → CArray → APDU) (c : CArray) :
    Run (Option APDU) :=
  if c.length < 5 then pure none
  else do
    let range ← readUserMemoryRange c
    let data ← readPart c 5 (c.length - 5)
    if data.length ≠ range.count.toNat then pure none else pure (some (make range data))

/-- `init` of the classes with two masks. -/
def initMasks (make : MemoryRange → CArray → CArray → APDU) (c : CArray) : Run (Option APDU) :=
  if c.length < 5 then pure none
  else do
    let count ← readAt c 2
    let addr ← readWord c 3
    if c.length - 5 ≠ count.toNat * 2 then pure none
    else do
      let andmask ← readPart c 5 count.toNat
      let xormask ← readPart c (5 + count.toNat) count.toNat
      pure (some (make ⟨count, addr⟩ andmask xormask))

/-- `A_ServiceInformation_Indication_Write_PDU::init`; the duplicate flag is looked for
in another byte than the two others. -/
def initServiceInformation (c : CArray) : Run (Option APDU) :=
  if c.length ≠ 5 then pure none
  else do
    let c2 ← readAt c 2
    let c3 ← readAt c 3
    pure (some (.serviceInformationIndicationWrite
      (c2 &&& 0x04 ≠ 0) (c3 &&& 0x02 ≠ 0) (c2 &&& 0x01 ≠ 0)))

/-- `A_DomainAddressSelective_Read_PDU::init`. -/
def initDomainAddressSelectiveRead (c : CArray) : Run (Option APDU) :=
  if c.length ≠ 7 then pure none
  else do
    let domainaddr ← readWord c 2
    let addr ← readWord c 4
    let range ← readAt c 6
    pure (some (.domainAddressSelectiveRead domainaddr addr range))

/-- `A_PropertyDescription_Read_PDU::init`. -/
def initPropertyDescriptionRead (c : CArray) : Run (Option APDU) :=
  if c.length ≠ 5 then pure none
  else do
    let obj ← readAt c 2
    let prop ← readAt c 3
    let propertyIndex ← readAt c 4
    pure (some (.propertyDescriptionRead obj prop propertyIndex))

/-- `A_PropertyDescription_Response_PDU::init`. -/
def initPropertyDescriptionResponse (c : CArray) : Run (Option APDU) :=
  if c.length ≠ 9 then pure none
  else do
    let obj ← readAt c 2
    let prop ← readAt c 3
    let propertyIndex ← readAt c 4
    let type ← readAt c 5
    let count ← readWord c 6
    let access ← readAt c 8
    pure (some (.propertyDescriptionResponse obj prop propertyIndex type count access))

/-- `A_DeviceDescriptor_Read_PDU::init`. -/
def initDeviceDescriptorRead (c : CArray) : Run (Option APDU) :=
  if c.length ≠ 2 then pure none
  else do
    let c1 ← readAt c 1
    pure (some (.deviceDescriptorRead (c1 &&& 0x3f)))

/-- `A_DeviceDescriptor_Response_PDU::init`. -/
def initDeviceDescriptorResponse (c : CArray) : Run (Option APDU) :=
  if c.length ≠ 4 then pure none
  else do
    let c1 ← readAt c 1
    let descriptor ← readWord c 2
    pure (some (.deviceDescriptorResponse (c1 &&& 0x3f) descriptor))

/-- `A_ADC_Read_PDU::init`. -/
def initADCRead (c : CArray) : Run (Option APDU) :=
  if c.length ≠ 3 then pure none
  else do
    let c1 ← readAt c 1
    let count ← readAt c 2
    pure (some (.adcRead (c1 &&& 0x3f) count))

/-- `A_ADC_Response_PDU::init`. -/
def initADCResponse (c : CArray) : Run (Option APDU) :=
  if c.length ≠ 5 then pure none
  else do
    let c1 ← readAt c 1
    let count ← readAt c 2
    let val ← readWord c 3
    pure (some (.adcResponse (c1 &&& 0x3f) count val))

/-- `A_UserManufacturerInfo_Response_PDU::init`. -/
def initUserManufacturerInfoResponse (c : CArray) : Run (Option APDU) :=
  if c.length ≠ 5 then pure none
  else do
    let manufacturerid ← readAt c 2
    let data ← readWord c 3
    pure (some (.userManufacturerInfoResponse manufacturerid data))

/-- `A_Authorize_Request_PDU::init`. -/
def initAuthorizeRequest (c : CArray) : Run (Option APDU) :=
  if c.length ≠ 7 then pure none
  else do
    let key ← readKey c 3
    pure (some (.authorizeRequest key))

/-- `A_Key_Write_PDU::init`. -/
def initKeyWrite (c : CArray) : Run (Option APDU) :=
  if c.length ≠ 7 then pure none
  else do
    let level ← readAt c 2
    let key ← readKey c 3
    pure (some (.keyWrite level key))

/-- `init` of each class; `none` is the return value `false`. -/
def init : APDUType → CArray → Run (Option APDU)
  | .groupValueRead => initEmpty .groupValueRead
  | .groupValueResponse => initGroupValue .groupValueResponse
  | .groupValueWrite => initGroupValue .groupValueWrite
  | .individualAddressRead => initEmpty .individualAddressRead
  | .individualAddressResponse => initEmpty .individualAddressResponse
  | .individualAddressWrite => initAddr .individualAddressWrite
  | .individualAddressSerialNumberRead => fun c =>
    if c.length ≠ 8 then pure none
    else do
      let serno ← readBlock c 2 6
      pure (some (.individualAddressSerialNumberRead serno))
  | .individualAddressSerialNumberResponse =>
    initSerialNumberAddr 12 .individualAddressSerialNumberResponse
  | .individualAddressSerialNumberWrite =>
    initSerialNumberAddr 14 .individualAddressSerialNumberWrite
  | .serviceInformationIndicationWrite => initServiceInformation
  | .domainAddressWrite => initAddr .domainAddressWrite
  | .domainAddressRead => initEmpty .domainAddressRead
  | .domainAddressResponse => initAddr .domainAddressResponse
  | .domainAddressSelectiveRead => initDomainAddressSelectiveRead
  | .propertyValueRead => fun c =>
    if c.length ≠ 6 then pure none
    else do
      let value ← readPropertyValue c
      pure (some (.propertyValueRead value))
  | .propertyValueResponse => initPropertyData .propertyValueResponse
  | .propertyValueWrite => initPropertyData .propertyValueWrite
  | .propertyDescriptionRead => initPropertyDescriptionRead
  | .propertyDescriptionResponse => initPropertyDescriptionResponse
  | .deviceDescriptorRead => initDeviceDescriptorRead
  | .deviceDescriptorResponse => initDeviceDescriptorResponse
  | .adcRead => initADCRead
  | .adcResponse => initADCResponse
  | .memoryRead => fun c =>
    if c.length ≠ 4 then pure none
    else do
      let range ← readMemoryRange c
      pure (some (.memoryRead range))
  | .memoryResponse => initMemoryData .memoryResponse
  | .memoryWrite => initMemoryData .memoryWrite
  | .memoryBitWrite => initMasks .memoryBitWrite
  | .userMemoryRead => fun c =>
    if c.length ≠ 5 then pure none
    else do
      let range ← readUserMemoryRange c
      pure (some (.userMemoryRead range))
  | .userMemoryResponse => initUserMemoryData .userMemoryResponse
  | .userMemoryWrite => initUserMemoryData .userMemoryWrite
  -- the constructor sets the extension to 0 and `init` leaves it
  | .userMemoryBitWrite => initMasks fun range => .userMemoryBitWrite ⟨0, range.count, range.addr⟩
  | .userManufacturerInfoRead => initEmpty .userManufacturerInfoRead
  | .userManufacturerInfoResponse => initUserManufacturerInfoResponse
  | .restart => initEmpty .restart
  | .authorizeRequest => initAuthorizeRequest
  | .authorizeResponse => initLevel .authorizeResponse
  | .keyWrite => initKeyWrite
  | .keyResponse => initLevel .keyResponse

def fromPacket (c : CArray) : Run APDU :=
  if 2 ≤ c.length then do
    let c0 ← readAt c 0
    let c1 ← readAt c 1
    match select c0 c1 with
    | none => pure (.unknown c)
    | some type =>
      match ← init type c with
      | some a => pure a
      | none => pure (.unknown c)
  else pure (.unknown c)

/-! ## Writing -/

def keyBytes (key : BitVec 32) : CArray :=
  [(key >>> 24).setWidth 8, (key >>> 16).setWidth 8, (key >>> 8).setWidth 8, key.setWidth 8]

/-- The assertion of the `A_GroupValue` classes. -/
def GroupValue.Fits (value : GroupValue) : Prop :=
  value.issmall = false ∨ value.data.length = 1 ∧ byteAt value.data 0 &&& 0xC0 = 0
  deriving Decidable

/-- `ToPacket` of the `A_GroupValue` classes. -/
def groupValueToPacket (code : Byte) (value : GroupValue) : Run CArray := do
  require value.Fits
  if value.issmall then do
    let small ← readAt value.data 0
    pure [0x00, code ||| (small &&& 0x3f)]
  else pure ([0x00, code] ++ value.data)

def PropertyValue.bytes (value : PropertyValue) : CArray :=
  [value.obj, value.prop,
    ((value.count &&& 0x0f) <<< 4) ||| (highByte value.start &&& 0x0f), lowByte value.start]

/-- `ToPacket` of the `A_PropertyValue` classes. -/
def propertyValueToPacket (code : Byte) (value : PropertyValue) (data : CArray) :
    Run CArray := do
  require (value.count &&& 0xf0 = 0)
  require (value.start &&& 0xf000 = 0)
  pure ([0x03, code] ++ value.bytes ++ data)

/-- `ToPacket` of the `A_Memory` classes with data. -/
def memoryDataToPacket (code : Byte) (range : MemoryRange) (data : CArray) : Run CArray := do
  require (range.count &&& 0xf0 = 0)
  require (data.length = range.count.toNat)
  pure ([0x02, code ||| (range.count &&& 0x0f), highByte range.addr, lowByte range.addr] ++ data)

def UserMemoryRange.bytes (range : UserMemoryRange) : CArray :=
  [((range.addrExtension &&& 0x0f) <<< 4) ||| (range.count &&& 0x0f),
    highByte range.addr, lowByte range.addr]

/-- `ToPacket` of the `A_UserMemory` classes with data. -/
def userMemoryDataToPacket (code : Byte) (range : UserMemoryRange) (data : CArray) :
    Run CArray := do
  require (range.count &&& 0xf0 = 0)
  require (range.addrExtension &&& 0xf0 = 0)
  require (data.length = range.count.toNat)
  pure ([0x02, code] ++ range.bytes ++ data)

/-- `ToPacket` of the classes with two masks. -/
def masksToPacket (c0 c1 : Byte) (count : Byte) (addr : BitVec 16) (andmask xormask : CArray) :
    Run CArray := do
  require (andmask.length = count.toNat)
  require (xormask.length = count.toNat)
  let first ← readPart andmask 0 count.toNat
  let second ← readPart xormask 0 count.toNat
  pure ([c0, c1, count, highByte addr, lowByte addr] ++ first ++ second)

/-- `ToPacket` of each class. -/
def APDU.toPacket : APDU → Run CArray
  | unknown pdu => pure pdu
  | groupValueRead => pure [0x00, 0x00]
  | groupValueResponse value => groupValueToPacket 0x40 value
  | groupValueWrite value => groupValueToPacket 0x80 value
  | individualAddressRead => pure [0x01, 0x00]
  | individualAddressResponse => pure [0x01, 0x40]
  | individualAddressWrite addr => pure [0x00, 0xC0, highByte addr, lowByte addr]
  | individualAddressSerialNumberRead serno => pure ([0x03, 0xDC] ++ serno.1)
  | individualAddressSerialNumberResponse serno addr =>
    pure ([0x03, 0xDD] ++ serno.1 ++ [highByte addr, lowByte addr, 0, 0])
  -- the code of the response
  | individualAddressSerialNumberWrite serno addr =>
    pure ([0x03, 0xDD] ++ serno.1 ++ [highByte addr, lowByte addr, 0, 0, 0, 0])
  | serviceInformationIndicationWrite verifyMode duplicateAddress applStopped =>
    pure [0x03, 0xDF,
      (if verifyMode then 0x04 else 0x00) ||| (if duplicateAddress then 0x02 else 0x00) |||
        (if applStopped then 0x01 else 0x00),
      0x00, 0x00]
  | domainAddressWrite addr => pure [0x03, 0xE0, highByte addr, lowByte addr]
  | domainAddressRead => pure [0x03, 0xE1]
  | domainAddressResponse addr => pure [0x03, 0xE2, highByte addr, lowByte addr]
  -- the code of the response; the address is written over the domain address
  | domainAddressSelectiveRead _ addr range =>
    pure [0x03, 0xE2, highByte addr, lowByte addr, 0, 0, range]
  | propertyValueRead value => propertyValueToPacket 0xD5 value []
  | propertyValueResponse value data => propertyValueToPacket 0xD6 value data
  | propertyValueWrite value data => propertyValueToPacket 0xD7 value data
  | propertyDescriptionRead obj prop propertyIndex => pure [0x03, 0xD8, obj, prop, propertyIndex]
  | propertyDescriptionResponse obj prop propertyIndex type count access =>
    pure [0x03, 0xD9, obj, prop, propertyIndex, type, highByte count, lowByte count, access]
  | deviceDescriptorRead type => do
      require (type &&& 0xC0 = 0)
      pure [0x03, 0x00 ||| (type &&& 0x3f)]
  -- the code of a read request with the lowest bit set
  | deviceDescriptorResponse type descriptor => do
      require (type &&& 0xC0 = 0)
      pure [0x03, 0x01 ||| (type &&& 0x3f), highByte descriptor, lowByte descriptor]
  | adcRead channel count => do
      require (channel &&& 0xC0 = 0)
      pure [0x01, 0x80 ||| (channel &&& 0x3f), count]
  | adcResponse channel count val => do
      require (channel &&& 0xC0 = 0)
      pure [0x01, 0xC0 ||| (channel &&& 0x3f), count, highByte val, lowByte val]
  | memoryRead range => do
      require (range.count &&& 0xf0 = 0)
      pure [0x02, 0x00 ||| (range.count &&& 0x0f), highByte range.addr, lowByte range.addr]
  | memoryResponse range data => memoryDataToPacket 0x40 range data
  | memoryWrite range data => memoryDataToPacket 0x80 range data
  | memoryBitWrite range andmask xormask =>
    masksToPacket 0x03 0xD0 range.count range.addr andmask xormask
  | userMemoryRead range => do
      require (range.count &&& 0xf0 = 0)
      require (range.addrExtension &&& 0xf0 = 0)
      pure ([0x02, 0xC0] ++ range.bytes)
  | userMemoryResponse range data => userMemoryDataToPacket 0xC1 range data
  | userMemoryWrite range data => userMemoryDataToPacket 0xC2 range data
  | userMemoryBitWrite range andmask xormask =>
    masksToPacket 0x02 0xC4 range.count range.addr andmask xormask
  | userManufacturerInfoRead => pure [0x02, 0xC5]
  | userManufacturerInfoResponse manufacturerid data =>
    pure [0x02, 0xC6, manufacturerid, highByte data, lowByte data]
  | restart => pure [0x03, 0x80]
  | authorizeRequest key => pure ([0x03, 0xD1, 0x00] ++ keyBytes key)
  | authorizeResponse level => pure [0x03, 0xD2, level]
  | keyWrite level key => pure ([0x03, 0xD3, level] ++ keyBytes key)
  | keyResponse level => pure [0x03, 0xD4, level]

/-! ## The trace text -/

/-- Upper-case hexadecimal digits, as many as `width`. -/
def hexDigits (width value : ℕ) : String :=
  String.ofList <| (List.range width).reverse.map fun place =>
    "0123456789ABCDEF".toList.getD (value / 16 ^ place % 16) '0'

def add16Hex (text : String) (c : BitVec 16) : String :=
  text ++ hexDigits 4 c.toNat ++ " "

def formatDomainAddr (addr : BitVec 16) : String :=
  hexDigits 4 addr.toNat

def formatEIBKey (key : BitVec 32) : String :=
  hexDigits 8 key.toNat

/-- `addHex` for every byte. -/
def addAllHex (text : String) (data : CArray) : String :=
  data.foldl addHex text

/-- The six calls of `addHex` for a serial number. -/
def addSerialNumber (text : String) (serno : SerialNumber) : Run String := do
  let b0 ← readAt serno.1 0
  let b1 ← readAt serno.1 1
  let b2 ← readAt serno.1 2
  let b3 ← readAt serno.1 3
  let b4 ← readAt serno.1 4
  let b5 ← readAt serno.1 5
  pure (addAllHex text [b0, b1, b2, b3, b4, b5])

/-- `Decode` of the `A_GroupValue` classes. -/
def groupValueText (title : String) (value : GroupValue) : Run String := do
  require value.Fits
  pure (addAllHex (title ++ if value.issmall then "(small) " else "") value.data)

/-- `Decode` of the `A_PropertyValue` classes; `addHex` takes the low byte of `start`. -/
def propertyValueText (title : String) (value : PropertyValue) : Run String := do
  require (value.count &&& 0xf0 = 0)
  require (value.start &&& 0xf000 = 0)
  let s := addHex title value.obj
  let s := addHex (s ++ " Prop: ") value.prop
  let s := addHex (s ++ " start: ") (lowByte value.start)
  pure (addHex (s ++ " max_nr: ") value.count)

/-- `Decode` of the `A_PropertyValue` classes with data. -/
def propertyDataText (title : String) (value : PropertyValue) (data : CArray) : Run String := do
  let s ← propertyValueText title value
  pure (addAllHex (s ++ "data: ") data)

/-- `Decode` of the `A_Memory` classes with data. -/
def memoryDataText (title : String) (range : MemoryRange) (data : CArray) : Run String := do
  require (range.count &&& 0xf0 = 0)
  require (data.length = range.count.toNat)
  let s := add16Hex (addHex title range.count ++ " Addr: ") range.addr
  pure (addAllHex (s ++ "Data: ") data)

def userMemoryText (title : String) (range : UserMemoryRange) : Run String := do
  require (range.count &&& 0xf0 = 0)
  require (range.addrExtension &&& 0xf0 = 0)
  let s := addHex (addHex title range.addrExtension ++ " Len: ") range.count
  pure (add16Hex (s ++ " Addr: ") range.addr)

/-- `Decode` of the `A_UserMemory` classes with data. -/
def userMemoryDataText (title : String) (range : UserMemoryRange) (data : CArray) :
    Run String := do
  let s ← userMemoryText title range
  require (data.length = range.count.toNat)
  pure (addAllHex (s ++ " Data: ") data)

/-- `Decode` of the classes with two masks. -/
def masksText (title : String) (count : Byte) (addr : BitVec 16) (andmask xormask : CArray) :
    Run String := do
  require (andmask.length = count.toNat)
  require (xormask.length = count.toNat)
  let s := add16Hex (addHex title count ++ "Addr: ") addr
  pure (addAllHex (addAllHex (s ++ "And: ") andmask ++ "xor: ") xormask)

/-- `Decode` of each class. -/
def APDU.decode : APDU → Run String
  | unknown pdu =>
    if pdu.length = 0 then pure "empty APDU"
    else do
      let first ← readAt pdu 0
      pure (addAllHex (addHex "Unknown APDU: " (first &&& 0x03)) pdu)
  | groupValueRead => pure "A_GroupValue_Read"
  | groupValueResponse value => groupValueText "A_GroupValue_Response " value
  | groupValueWrite value => groupValueText "A_GroupValue_Write " value
  | individualAddressRead => pure "A_IndividualAddress_Read"
  | individualAddressResponse => pure "A_IndividualAddress_Response"
  | individualAddressWrite addr => pure ("A_IndividualAddress_Write " ++ formatEIBAddr addr)
  | individualAddressSerialNumberRead serno =>
    addSerialNumber "A_IndividualAddressSerialNumber_Read " serno
  | individualAddressSerialNumberResponse serno addr => do
      let s ← addSerialNumber "A_IndividualAddressSerialNumber_Response " serno
      pure (add16Hex (s ++ "Addr: ") addr)
  | individualAddressSerialNumberWrite serno addr => do
      let s ← addSerialNumber "A_IndividualAddressSerialNumber_Write " serno
      pure (s ++ "Addr: " ++ formatEIBAddr addr)
  | serviceInformationIndicationWrite verifyMode duplicateAddress applStopped =>
    pure ("A_ServiceInformation_Indication_Write " ++ (if verifyMode then "verify " else "") ++
      (if duplicateAddress then "dupplicate_address " else "") ++
      (if applStopped then "appl_stopped " else ""))
  | domainAddressWrite addr => pure ("A_DomainAddress_Write " ++ formatDomainAddr addr)
  | domainAddressRead => pure "A_DomainAddress_Read"
  | domainAddressResponse addr => pure ("A_DomainAddress_Response" ++ formatDomainAddr addr)
  | domainAddressSelectiveRead domainaddr addr range =>
    pure (addHex ("A_DomainAddressSelective_Read " ++ formatDomainAddr domainaddr ++ " " ++
      formatEIBAddr addr ++ " ") range)
  | propertyValueRead value => propertyValueText "A_PropertyValue_Read Obj:" value
  | propertyValueResponse value data => propertyDataText "A_PropertyValue_Response Obj:" value data
  | propertyValueWrite value data => propertyDataText "A_PropertyValue_Write Obj:" value data
  | propertyDescriptionRead obj prop propertyIndex =>
    let s := addHex (addHex "A_PropertyDescription_Read Obj: " obj ++ " Property: ") prop
    pure (addHex (s ++ " Property_index: ") propertyIndex)
  | propertyDescriptionResponse obj prop propertyIndex type count access =>
    let s := addHex (addHex "A_PropertyDescription_Response Obj:" obj ++ " Property: ") prop
    let s := addHex (s ++ " Property_index: ") propertyIndex
    let s := add16Hex (addHex (s ++ " Type: ") type ++ "max_elements: ") count
    pure (addHex (s ++ " acces: ") access)
  | deviceDescriptorRead type => do
      require (type &&& 0xC0 = 0)
      pure (addHex "A_DeviceDescriptor_Read Type:" type)
  | deviceDescriptorResponse type descriptor => do
      require (type &&& 0xC0 = 0)
      pure (add16Hex (addHex "A_DeviceDescriptor_Response Type:" type ++ " Descriptor: ")
        descriptor)
  | adcRead channel count => do
      require (channel &&& 0xC0 = 0)
      pure (addHex (addHex "A_ADC_Read Channel:" channel ++ " Count: ") count)
  | adcResponse channel count val => do
      require (channel &&& 0xC0 = 0)
      let s := addHex (addHex "A_ADC_Response Channel:" channel ++ " Count: ") count
      pure (addHex (s ++ "Value: ") (lowByte val))
  | memoryRead range => do
      require (range.count &&& 0xf0 = 0)
      pure (add16Hex (addHex "A_Memory_Read Len: " range.count ++ " Addr: ") range.addr)
  | memoryResponse range data => memoryDataText "A_Memory_Response Len:" range data
  | memoryWrite range data => memoryDataText "A_Memory_Write Len:" range data
  | memoryBitWrite range andmask xormask =>
    masksText "A_MemoryBit_Write Len:" range.count range.addr andmask xormask
  | userMemoryRead range => userMemoryText "A_UserMemory_Read Addr_ext:" range
  | userMemoryResponse range data => userMemoryDataText "A_UserMemory_Response Addr_ext:" range data
  | userMemoryWrite range data => userMemoryDataText "A_UserMemory_Write Addr_ext:" range data
  | userMemoryBitWrite range andmask xormask =>
    masksText "A_UserMemoryBit_Write Len:" range.count range.addr andmask xormask
  | userManufacturerInfoRead => pure "A_UserManufacturerInfo_Read"
  | userManufacturerInfoResponse manufacturerid data =>
    pure (add16Hex (addHex "A_UserManufactueerInfo_Response Manufacturer:" manufacturerid ++
      " data: ") data)
  | restart => pure "A_Restart"
  | authorizeRequest key => pure ("A_Authorize_Request Key:" ++ formatEIBKey key)
  | authorizeResponse level => pure (addHex "A_Authorize_Response Level:" level)
  | keyWrite level key => pure (addHex "A_Key_Write Level:" level ++ " Key: " ++ formatEIBKey key)
  | keyResponse level => pure (addHex "A_Key_Response Level:" level)

end Knxd.Application
