import Knxd.Core.Memory

/-!
# Layer-2 frames

`L_Data_PDU` is the structured form in which the router handles a telegram.
`toPacket` writes the frame that travels on a twisted-pair bus and `init` reads
one back.  Frames with up to 16 payload bytes use the standard layout, longer
ones the extended layout; both end in a checksum byte.
-/

namespace Knxd.LPDU

open Memory BitVec

abbrev Addr := BitVec 16

inductive EIBPriority
  | low
  | normal
  | urgent
  | system
  deriving DecidableEq, Repr

inductive EIBAddrType
  | groupAddress
  | individualAddress
  deriving DecidableEq, Repr

/-- `L_Data_PDU`, with the defaults its constructor sets. -/
structure LDataPDU where
  prio : EIBPriority := .low
  repeated : Bool := false
  validChecksum : Bool := true
  validLength : Bool := true
  addrType : EIBAddrType := .individualAddress
  source : Addr := 0
  dest : Addr := 0
  hopcount : Byte := 6
  data : CArray := []
  deriving DecidableEq, Repr

open LDataPDU

/-- The `switch (prio)` with which every encoder starts. -/
def EIBPriority.toBits : EIBPriority → Byte
  | .low => 0x3
  | .normal => 0x1
  | .urgent => 0x2
  | .system => 0x0

/-- The `switch ((control >> 2) & 0x3)` of every decoder. -/
def priorityOfControl (control : Byte) : EIBPriority :=
  match ((control >>> 2) &&& 0x3).toNat with
  | 0 => .system
  | 1 => .urgent
  | 2 => .normal
  | _ => .low

def highByte (addr : Addr) : Byte :=
  ((addr >>> 8) &&& 0xff).setWidth 8

def lowByte (addr : Addr) : Byte :=
  (addr &&& 0xff).setWidth 8

/-- `(high << 8) | low`. -/
def joinBytes (high low : Byte) : Addr :=
  (high.setWidth 16 <<< 8) ||| low.setWidth 16

/-- The address-type flag, bit 7 of the byte that also holds the hop count. -/
def EIBAddrType.flag : EIBAddrType → Byte
  | .groupAddress => 0x80
  | .individualAddress => 0x00

def addrTypeOfFlags (flags : Byte) : EIBAddrType :=
  if flags &&& 0x80 ≠ 0 then .groupAddress else .individualAddress

/-- The repeat flag is inverted on the wire: a cleared bit means a repetition. -/
def repeatFlag (repeated : Bool) : Byte :=
  if repeated then 0x00 else 0x20

def repeatedOfControl (control : Byte) : Bool :=
  if control &&& 0x20 ≠ 0 then false else true

/-- The control byte; bit 7 tells a standard frame from an extended one. -/
def controlByte (standard : Bool) (prio : EIBPriority) (repeated : Bool) : Byte :=
  (if standard then 0x90#8 else 0x10#8) ||| (prio.toBits <<< 2) ||| repeatFlag repeated

def flagsByte (hopcount nibble : Byte) (addrType : EIBAddrType) : Byte :=
  ((hopcount &&& 0x07) <<< 4) ||| (nibble &&& 0x0f) ||| addrType.flag

def hopcountOfFlags (flags : Byte) : Byte :=
  (flags >>> 4) &&& 0x07

/-- What a decoder recovers from a priority that an encoder has written: the
two tables disagree on the codes 1 and 2. -/
def EIBPriority.decoded : EIBPriority → EIBPriority
  | .low => .low
  | .normal => .urgent
  | .urgent => .normal
  | .system => .system

theorem EIBPriority.decoded_eq_self_iff (prio : EIBPriority) :
    prio.decoded = prio ↔ prio = .low ∨ prio = .system := by
  cases prio <;> simp [decoded]

theorem EIBPriority.decoded_injective : Function.Injective EIBPriority.decoded := by
  intro left right hdecoded
  cases left <;> cases right <;> simp [decoded] at hdecoded ⊢

theorem joinBytes_highByte_lowByte (addr : Addr) :
    joinBytes (highByte addr) (lowByte addr) = addr := by
  have hmask : ∀ index < 16, (0xff#16).getLsbD index = decide (index < 8) := by
    decide
  apply eq_of_getLsbD_eq
  intro index hindex
  by_cases hlow : index < 8
  · simp [joinBytes, highByte, lowByte, hmask index hindex, hlow, hindex]
  · have hhigh : index - 8 < 8 := by omega
    simp [joinBytes, highByte, lowByte, hmask (index - 8) (by omega), hlow, hhigh,
      hindex, show index - 8 < 16 by omega, show 8 + (index - 8) = index by omega]

/-- Every control byte an encoder writes is recognised as L_Data and gives the
format, the repeat flag and the decoded priority back. -/
theorem controlByte_spec (standard : Bool) (prio : EIBPriority) (repeated : Bool) :
    controlByte standard prio repeated &&& 0x53 = 0x10 ∧
      (controlByte standard prio repeated &&& 0x80 ≠ 0 ↔ standard = true) ∧
      repeatedOfControl (controlByte standard prio repeated) = repeated ∧
      priorityOfControl (controlByte standard prio repeated) = prio.decoded := by
  cases prio <;> cases repeated <;> cases standard <;> decide

private theorem flagsByte_fin (hop : Fin 8) (nibble : Fin 16)
    (addrType : EIBAddrType) :
    let flags := flagsByte (BitVec.ofNat 8 hop) (BitVec.ofNat 8 nibble) addrType
    hopcountOfFlags flags = BitVec.ofNat 8 hop ∧ (flags &&& 0x0f).toNat = nibble ∧
      addrTypeOfFlags flags = addrType := by
  cases addrType <;> revert hop nibble <;> decide

theorem flagsByte_spec {hopcount : Byte} (hhop : hopcount.toNat < 8) {nibble : ℕ}
    (hnibble : nibble < 16) (addrType : EIBAddrType) :
    let flags := flagsByte hopcount (BitVec.ofNat 8 nibble) addrType
    hopcountOfFlags flags = hopcount ∧ (flags &&& 0x0f).toNat = nibble ∧
      addrTypeOfFlags flags = addrType := by
  have hfin := flagsByte_fin ⟨hopcount.toNat, hhop⟩ ⟨nibble, hnibble⟩ addrType
  simpa using hfin

theorem hopcountOfFlags_lt (flags : Byte) : (hopcountOfFlags flags).toNat < 8 := by
  revert flags
  decide

theorem hopcount_mask_iff (hopcount : Byte) : hopcount &&& 0xf8 = 0 ↔ hopcount.toNat < 8 := by
  revert hopcount
  decide

theorem nibble_mask {nibble : ℕ} (hnibble : nibble < 16) :
    ((BitVec.ofNat 8 nibble : Byte) &&& 0x0f).toNat = nibble := by
  have hfin : ∀ value : Fin 16, ((BitVec.ofNat 8 value : Byte) &&& 0x0f).toNat = value := by
    decide
  exact hfin ⟨nibble, hnibble⟩

/-- The length octet of the source, `data.size() - 1` cut to a byte. -/
theorem lengthOctet {length : ℕ} (hpos : 1 ≤ length) :
    (BitVec.ofNat 8 length - 1 : Byte) = BitVec.ofNat 8 (length - 1) := by
  apply BitVec.eq_of_toNat_eq
  have hone : BitVec.toNat (1 : Byte) = 1 := rfl
  simp only [BitVec.toNat_sub, BitVec.toNat_ofNat, hone]
  omega

/-- The bytes that `L_Data_PDU::ToPacket` lays out in front of the checksum. -/
def LDataPDU.frameBody (l : LDataPDU) : CArray :=
  let length : Byte := BitVec.ofNat 8 l.data.length - 1
  if l.data.length - 1 ≤ 0x0f then
    [controlByte true l.prio l.repeated,
      highByte l.source, lowByte l.source, highByte l.dest, lowByte l.dest,
      flagsByte l.hopcount length l.addrType] ++
    l.data.take (1 + (length &&& 0x0f).toNat)
  else
    [controlByte false l.prio l.repeated, flagsByte l.hopcount 0#8 l.addrType,
      highByte l.source, lowByte l.source, highByte l.dest, lowByte l.dest,
      length] ++
    l.data.take (1 + length.toNat)

def LDataPDU.toPacket (l : LDataPDU) : Run CArray := do
  require (1 ≤ l.data.length)
  require (l.data.length ≤ 0xff)
  require (l.hopcount &&& 0xf8 = 0)
  pure (l.frameBody ++ [~~~ xorAll l.frameBody])

def formatEIBAddr (addr : Addr) : String :=
  toString ((addr >>> 12) &&& 0xf).toNat ++ "." ++ toString ((addr >>> 8) &&& 0xf).toNat ++ "." ++
    toString (addr &&& 0xff).toNat

def formatGroupAddr (addr : Addr) : String :=
  toString ((addr >>> 11) &&& 0x1f).toNat ++ "/" ++ toString ((addr >>> 8) &&& 0x7).toNat ++ "/" ++
    toString (addr &&& 0xff).toNat

/-- `addHex`: two upper-case hexadecimal digits and a blank. -/
def addHex (text : String) (c : Byte) : String :=
  let digit (value : ℕ) : Char := "0123456789ABCDEF".toList.getD value '0'
  text ++ String.ofList [digit (c.toNat / 16), digit (c.toNat % 16), ' ']

def EIBPriority.text : EIBPriority → String
  | .low => " low"
  | .normal => " normal"
  | .urgent => " urgent"
  | .system => " system"

/-- `L_Data_PDU::Decode`.  The transport-layer text that it appends is the
argument `tpduText`. -/
def LDataPDU.decode (tpduText : CArray → String) (l : LDataPDU) : Run String := do
  require (1 ≤ l.data.length)
  require (l.data.length ≤ 0xff)
  require (l.hopcount &&& 0xf8 = 0)
  let s := "L_Data" ++
    (if l.validLength then "" else " (incomplete)") ++
    (if l.repeated then " (repeated)" else "") ++ l.prio.text ++
    (if l.validChecksum then "" else " INVALID CHECKSUM") ++
    " from " ++ formatEIBAddr l.source ++ " to " ++
    (if l.addrType = .groupAddress then formatGroupAddr l.dest
      else formatEIBAddr l.dest) ++ " hops: "
  pure (addHex s l.hopcount ++ tpduText l.data)

/-- The last lines of `L_Data_PDU::init`: a wrong checksum is recorded, not
rejected. -/
def verifyChecksum (c : CArray) (l : LDataPDU) : Run (Option LDataPDU) := do
  let sum := ~~~ xorAll (c.take (c.length - 1))
  let last ← readAt c (c.length - 1)
  pure (some { l with validChecksum := last = sum })

/-- The standard-frame branch of `L_Data_PDU::init`. -/
def initStandard (c : CArray) (c0 : Byte) : Run (Option LDataPDU) := do
  let c1 ← readAt c 1
  let c2 ← readAt c 2
  let c3 ← readAt c 3
  let c4 ← readAt c 4
  let c5 ← readAt c 5
  let len := (c5 &&& 0x0f).toNat + 1
  if len + 7 ≠ c.length then pure none else
    let data ← readPart c 6 len
    verifyChecksum c
      { prio := priorityOfControl c0, repeated := repeatedOfControl c0
        validLength := true, addrType := addrTypeOfFlags c5
        source := joinBytes c1 c2, dest := joinBytes c3 c4
        hopcount := hopcountOfFlags c5, data := data }

/-- The extended-frame branch of `L_Data_PDU::init`.  A 23-byte frame with a
wrong length field is kept as an incomplete frame with 8 payload bytes. -/
def initExtended (c : CArray) (c0 : Byte) : Run (Option LDataPDU) := do
  let c1 ← readAt c 1
  if c1 &&& 0x0f ≠ 0 then pure none else
  if c.length < 7 then pure none else
    let c2 ← readAt c 2
    let c3 ← readAt c 3
    let c4 ← readAt c 4
    let c5 ← readAt c 5
    let c6 ← readAt c 6
    let len := c6.toNat + 1
    let header : LDataPDU :=
      { prio := priorityOfControl c0, repeated := repeatedOfControl c0
        addrType := addrTypeOfFlags c1
        source := joinBytes c2 c3, dest := joinBytes c4 c5
        hopcount := hopcountOfFlags c1 }
    if len + 8 ≠ c.length then
      if c.length = 23 then
        let data ← readPart c 7 8
        verifyChecksum c { header with validLength := false, data := data }
      else pure none
    else
      let data ← readPart c 7 len
      verifyChecksum c { header with validLength := true, data := data }

/-- `L_Data_PDU::init`; `none` is the return value `false`. -/
def init (c : CArray) : Run (Option LDataPDU) :=
  if c.length < 6 then pure none else do
    let c0 ← readAt c 0
    if c0 &&& 0x53 ≠ 0x10 then pure none else
    if c0 &&& 0x80 ≠ 0 then initStandard c c0 else initExtended c c0

def LDataPDU.decodedForm (l : LDataPDU) : LDataPDU :=
  { l with prio := l.prio.decoded, validChecksum := true, validLength := true }

theorem verifyChecksum_append (pdu : CArray) (l : LDataPDU) :
    verifyChecksum (pdu ++ [~~~ xorAll pdu]) l = .ok (some { l with validChecksum := true }) := by
  have hlast : readAt (pdu ++ [~~~ xorAll pdu]) pdu.length = .ok (~~~ xorAll pdu) := by
    simp [readAt]
  simp [verifyChecksum, hlast]

section Parsing

variable {c0 c1 c2 c3 c4 c5 c6 sum : Byte} {payload : CArray}

theorem init_standard (hkind : c0 &&& 0x53 = 0x10) (hformat : c0 &&& 0x80 ≠ 0)
    (hlength : (c5 &&& 0x0f).toNat + 1 = payload.length) :
    init ([c0, c1, c2, c3, c4, c5] ++ payload ++ [sum]) =
      verifyChecksum ([c0, c1, c2, c3, c4, c5] ++ payload ++ [sum])
        { prio := priorityOfControl c0, repeated := repeatedOfControl c0
          addrType := addrTypeOfFlags c5
          source := joinBytes c1 c2, dest := joinBytes c3 c4
          hopcount := hopcountOfFlags c5, data := payload } := by
  have hsize : ([c0, c1, c2, c3, c4, c5] ++ payload ++ [sum]).length = payload.length + 7 := by
    simp
  have hpart : readPart ([c0, c1, c2, c3, c4, c5] ++ payload ++ [sum]) 6
      payload.length = .ok payload := by
    simpa using readPart_append_left payload [sum]
  rw [init, if_neg (by omega)]
  simp only [List.cons_append, readAt_cons_zero, ok_bind]
  rw [if_neg (not_not.mpr hkind), if_pos hformat]
  simp only [initStandard, readAt_cons_zero, readAt_cons_succ, ok_bind]
  simp only [List.cons_append] at hsize hpart
  rw [hlength, if_neg (by omega), hpart, ok_bind]

theorem init_extended (hkind : c0 &&& 0x53 = 0x10) (hformat : c0 &&& 0x80 = 0)
    (hnibble : c1 &&& 0x0f = 0) (hlength : c6.toNat + 1 = payload.length) :
    init ([c0, c1, c2, c3, c4, c5, c6] ++ payload ++ [sum]) =
      verifyChecksum ([c0, c1, c2, c3, c4, c5, c6] ++ payload ++ [sum])
        { prio := priorityOfControl c0, repeated := repeatedOfControl c0
          addrType := addrTypeOfFlags c1
          source := joinBytes c2 c3, dest := joinBytes c4 c5
          hopcount := hopcountOfFlags c1, data := payload } := by
  have hsize : ([c0, c1, c2, c3, c4, c5, c6] ++ payload ++ [sum]).length = payload.length + 8 := by
    simp
  have hpart : readPart ([c0, c1, c2, c3, c4, c5, c6] ++ payload ++ [sum]) 7
      payload.length = .ok payload := by
    simpa using readPart_append_left payload [sum]
  rw [init, if_neg (by omega)]
  simp only [List.cons_append, readAt_cons_zero, ok_bind]
  rw [if_neg (not_not.mpr hkind), if_neg (not_not.mpr hformat)]
  simp only [initExtended, readAt_cons_zero, readAt_cons_succ, ok_bind]
  simp only [List.cons_append] at hsize hpart
  rw [if_neg (not_not.mpr hnibble), if_neg (by omega), hlength, if_neg (by omega), hpart, ok_bind]

end Parsing

section RoundTrip

variable {l : LDataPDU}

theorem frameBody_standard (hpos : 1 ≤ l.data.length) (hshort : l.data.length ≤ 16) : l.frameBody =
      [controlByte true l.prio l.repeated,
        highByte l.source, lowByte l.source, highByte l.dest, lowByte l.dest,
        flagsByte l.hopcount (BitVec.ofNat 8 (l.data.length - 1)) l.addrType] ++ l.data := by
  have htake : l.data.take (1 + (l.data.length - 1)) = l.data := List.take_of_length_le (by omega)
  rw [frameBody, if_pos (by omega), lengthOctet hpos, nibble_mask (by omega), htake]

theorem frameBody_extended (hlong : 16 < l.data.length) (hmax : l.data.length ≤ 255) : l.frameBody =
      [controlByte false l.prio l.repeated, flagsByte l.hopcount 0#8 l.addrType,
        highByte l.source, lowByte l.source, highByte l.dest, lowByte l.dest,
        BitVec.ofNat 8 (l.data.length - 1)] ++ l.data := by
  have hoctet : (BitVec.ofNat 8 (l.data.length - 1) : Byte).toNat = l.data.length - 1 := by
    rw [toNat_ofNat]
    omega
  have htake : l.data.take (1 + (l.data.length - 1)) = l.data := List.take_of_length_le (by omega)
  rw [frameBody, if_neg (by omega), lengthOctet (by omega), hoctet, htake]

theorem init_frameBody_standard (hpos : 1 ≤ l.data.length)
    (hshort : l.data.length ≤ 16) (hhop : l.hopcount.toNat < 8) :
    init (l.frameBody ++ [~~~ xorAll l.frameBody]) = .ok (some l.decodedForm) := by
  obtain ⟨hkind, hformat, hrepeated, hprio⟩ := controlByte_spec true l.prio l.repeated
  obtain ⟨hhops, hlength, htype⟩ :=
    flagsByte_spec hhop (show l.data.length - 1 < 16 by omega) l.addrType
  have hverify := verifyChecksum_append l.frameBody
  generalize ~~~ xorAll l.frameBody = sum at hverify ⊢
  rw [frameBody_standard hpos hshort] at hverify ⊢
  rw [init_standard hkind (hformat.mpr rfl) (by rw [hlength]; omega), hverify,
    hrepeated, hprio, hhops, htype]
  simp only [joinBytes_highByte_lowByte, decodedForm]

theorem init_frameBody_extended (hlong : 16 < l.data.length)
    (hmax : l.data.length ≤ 255) (hhop : l.hopcount.toNat < 8) :
    init (l.frameBody ++ [~~~ xorAll l.frameBody]) = .ok (some l.decodedForm) := by
  obtain ⟨hkind, hformat, hrepeated, hprio⟩ := controlByte_spec false l.prio l.repeated
  obtain ⟨hhops, hnibble, htype⟩ := flagsByte_spec hhop (show 0 < 16 by omega) l.addrType
  have hoctet : (BitVec.ofNat 8 (l.data.length - 1) : Byte).toNat + 1 = l.data.length := by
    rw [toNat_ofNat]
    omega
  have hverify := verifyChecksum_append l.frameBody
  generalize ~~~ xorAll l.frameBody = sum at hverify ⊢
  rw [frameBody_extended hlong hmax] at hverify ⊢
  rw [init_extended hkind (by simpa using hformat) (eq_of_toNat_eq hnibble) hoctet,
    hverify, hrepeated, hprio, hhops, htype]
  simp only [joinBytes_highByte_lowByte, decodedForm]

theorem toPacket_of_bounds (hpos : 1 ≤ l.data.length) (hmax : l.data.length ≤ 255)
    (hhop : l.hopcount.toNat < 8) : l.toPacket = .ok (l.frameBody ++ [~~~ xorAll l.frameBody]) := by
  rw [toPacket, require_of hpos, ok_bind, require_of hmax, ok_bind,
    require_of ((hopcount_mask_iff _).mpr hhop), ok_bind, pure_eq_ok]

theorem init_frameBody (hpos : 1 ≤ l.data.length) (hmax : l.data.length ≤ 255)
    (hhop : l.hopcount.toNat < 8) :
    init (l.frameBody ++ [~~~ xorAll l.frameBody]) = .ok (some l.decodedForm) := by
  by_cases hshort : l.data.length ≤ 16
  · exact init_frameBody_standard hpos hshort hhop
  · exact init_frameBody_extended (by omega) hmax hhop

/-- What was encoded is decoded. -/
theorem init_of_toPacket {packet : CArray} (hpacket : l.toPacket = .ok packet) :
    init packet = .ok (some l.decodedForm) := by
  obtain ⟨_, hpos, hrest⟩ := bind_eq_ok_iff.1 hpacket
  obtain ⟨_, hmax, hrest⟩ := bind_eq_ok_iff.1 hrest
  obtain ⟨_, hhop, hrest⟩ := bind_eq_ok_iff.1 hrest
  cases hrest
  exact init_frameBody (of_require hpos) (of_require hmax)
    ((hopcount_mask_iff _).1 (of_require hhop))

/-- Two frames have the same bytes if they differ in the validity flags only. -/
theorem decodedForm_eq_iff {l' : LDataPDU} : l.decodedForm = l'.decodedForm ↔
    { l with validChecksum := l'.validChecksum, validLength := l'.validLength } = l' := by
  cases l
  cases l'
  simp [decodedForm, EIBPriority.decoded_injective.eq_iff]

theorem toPacket_eq_iff {l' : LDataPDU} {packet : CArray} (hpacket : l.toPacket = .ok packet) :
    l'.toPacket = .ok packet ↔ l.decodedForm = l'.decodedForm := by
  constructor
  · intro hpacket'
    have hinit := (init_of_toPacket hpacket).symm.trans (init_of_toPacket hpacket')
    simpa using hinit
  · intro hform
    rw [decodedForm_eq_iff] at hform
    rw [← hpacket, ← hform]
    rfl

/-- Encoding a frame and decoding the result gives the frame back, with both
validity flags set. -/
def RoundTrips (l : LDataPDU) : Prop :=
  ∃ packet, l.toPacket = .ok packet ∧
    init packet = .ok (some { l with validChecksum := true, validLength := true })

theorem roundTrips_iff_decoded (hpos : 1 ≤ l.data.length)
    (hmax : l.data.length ≤ 255) (hhop : l.hopcount.toNat < 8) :
    RoundTrips l ↔ l.prio.decoded = l.prio := by
  have hpacket := toPacket_of_bounds hpos hmax hhop
  have hinit := init_frameBody hpos hmax hhop
  constructor
  · rintro ⟨_, hpacket', hinit'⟩
    rw [hpacket] at hpacket'
    cases hpacket'
    rw [hinit] at hinit'
    simpa [decodedForm] using hinit'
  · intro hprio
    exact ⟨_, hpacket, by rw [hinit, decodedForm, hprio]⟩

end RoundTrip

/-- The bus-frame codec loses nothing but the priority: a frame survives
encoding and decoding exactly when its priority is low or system. -/
theorem busFrame_roundTrip_iff (l : LDataPDU) (hpos : 1 ≤ l.data.length)
    (hmax : l.data.length ≤ 255) (hhop : l.hopcount.toNat < 8) :
    RoundTrips l ↔ l.prio = .low ∨ l.prio = .system := by
  rw [roundTrips_iff_decoded hpos hmax hhop, EIBPriority.decoded_eq_self_iff]

theorem busFrame_roundTrip_low :
    RoundTrips { addrType := .groupAddress, dest := 0x0901, data := [0x00, 0x81] } :=
  (busFrame_roundTrip_iff _ (by decide) (by decide) (by decide)).mpr (Or.inl rfl)

/-- A normal-priority frame comes back as urgent. -/
theorem busFrame_roundTrip_normal_fails :
    ¬ ∀ l : LDataPDU, 1 ≤ l.data.length → l.data.length ≤ 255 →
      l.hopcount.toNat < 8 → RoundTrips l := by
  intro hall
  have hnormal := hall { prio := .normal, data := [0x00] } (by decide) (by decide) (by decide)
  rw [roundTrips_iff_decoded (by decide) (by decide) (by decide)] at hnormal
  cases hnormal

end Knxd.LPDU
