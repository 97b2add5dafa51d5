import Knxd.Codec.APDU

/-!
# Application-layer messages are read safely and mostly written back

The values that `init` of a class can produce are those that satisfy the assertions of
the class, so that decoding any byte array, describing the result and encoding it again
never faults.  Encoding such a value and decoding it once more gives the value back for
every class but four: three write the code of another class, and one writes a flag where
it is not looked for.
-/

namespace Knxd.Application

open Memory LPDU List APDU Nat
open BitVec hiding ofNat cons_append

variable {make : SerialNumber → BitVec 16 → APDU} {addr : BitVec 16} {size : ℕ}

/-! ## Bits of the fields -/

theorem six_bits (byte : Byte) : (byte &&& 0x3f) &&& 0xC0 = 0 := by
  revert byte
  decide

theorem six_bits_kept {byte : Byte} (hbyte : byte &&& 0xC0 = 0) : byte &&& 0x3f = byte := by
  revert byte
  decide

theorem low_nibble (byte : Byte) : (byte &&& 0x0f) &&& 0xf0 = 0 := by
  revert byte
  decide

theorem low_nibble_kept {byte : Byte} (hbyte : byte &&& 0xf0 = 0) : byte &&& 0x0f = byte := by
  revert byte
  decide

theorem toNat_lt_of_nibble {byte : Byte} (hbyte : byte &&& 0xf0 = 0) : byte.toNat < 16 := by
  revert byte
  decide

theorem twelve_bits (high low : Byte) : joinBytes (high &&& 0x0f) low &&& 0xf000 = 0 := by
  have hmask : ∀ index < 16, (0xf000#16).getLsbD index = decide (12 ≤ index) := by decide
  have hlow : ∀ index < 16, (0x0f#16).getLsbD index = decide (index < 4) := by decide
  apply eq_of_getLsbD_eq
  intro index hindex
  by_cases hhigh : 12 ≤ index
  · simp [joinBytes, hlow (index - 8) (by omega), getLsbD_of_ge low index (by omega),
      show ¬ index - 8 < 4 by omega]
  · simp [hmask index hindex, hhigh]

/-- The high byte of a twelve-bit number is a nibble. -/
theorem highByte_nibble {start : BitVec 16} (hstart : start &&& 0xf000 = 0) :
    highByte start &&& 0xf0 = 0 := by
  have hmask : ∀ index < 16, (0xf000#16).getLsbD index = decide (12 ≤ index) := by decide
  have hhigh : ∀ index < 8, (0xf0#8).getLsbD index = decide (4 ≤ index) := by decide
  apply eq_of_getLsbD_eq
  intro index hindex
  have hbit := congrArg (getLsbD · (index + 8)) hstart
  simp only [getLsbD_and] at hbit
  by_cases hfour : 4 ≤ index
  · have hset := hmask (index + 8) (by omega)
    simp only [show 12 ≤ index + 8 by omega, decide_true] at hset
    have hclear : start.getLsbD (index + 8) = false := by simpa [hset] using hbit
    simp [highByte, add_comm 8 index, hclear]
  · simp [hhigh index hindex, hfour]

private theorem nibbles_fin (high low : Fin 16) :
    let byte : Byte := ((BitVec.ofNat 8 high &&& 0x0f) <<< 4) ||| (BitVec.ofNat 8 low &&& 0x0f)
    (byte >>> 4) &&& 0x0f = BitVec.ofNat 8 high ∧ byte &&& 0x0f = BitVec.ofNat 8 low := by
  revert high low
  decide

/-- Two nibbles in one byte are read back. -/
theorem nibbles {high low : Byte} (hhigh : high &&& 0xf0 = 0) (hlow : low &&& 0xf0 = 0) :
    let byte := ((high &&& 0x0f) <<< 4) ||| (low &&& 0x0f)
    (byte >>> 4) &&& 0x0f = high ∧ byte &&& 0x0f = low := by
  have hfin := nibbles_fin ⟨high.toNat, toNat_lt_of_nibble hhigh⟩
    ⟨low.toNat, toNat_lt_of_nibble hlow⟩
  simpa using hfin

theorem toNat_joinBytes (high low : Byte) :
    (joinBytes high low).toNat = high.toNat * 256 + low.toNat := by
  have hhigh := high.isLt
  have hlow := low.isLt
  have hor := shiftLeft_add_eq_or_of_lt hlow high.toNat
  simp only [joinBytes, toNat_or, toNat_shiftLeft, toNat_setWidth]
  rw [mod_eq_of_lt (by omega), mod_eq_of_lt (by omega), mod_eq_of_lt (by omega), ← hor]
  omega

theorem toNat_joinWords (high low : BitVec 16) :
    ((high.setWidth 32 <<< 16) ||| low.setWidth 32 : BitVec 32).toNat =
      high.toNat * 65536 + low.toNat := by
  have hhigh := high.isLt
  have hlow := low.isLt
  have hor := shiftLeft_add_eq_or_of_lt hlow high.toNat
  simp only [toNat_or, toNat_shiftLeft, toNat_setWidth]
  rw [mod_eq_of_lt (by omega), mod_eq_of_lt (by omega), mod_eq_of_lt (by omega), ← hor]
  omega

/-- A key is the join of its four bytes. -/
theorem join_keyBytes (key : BitVec 32) :
    (joinBytes ((key >>> 24).setWidth 8) ((key >>> 16).setWidth 8)).setWidth 32 <<< 16 |||
      (joinBytes ((key >>> 8).setWidth 8) (key.setWidth 8)).setWidth 32 = key := by
  apply eq_of_toNat_eq
  rw [toNat_joinWords, toNat_joinBytes, toNat_joinBytes]
  simp only [toNat_setWidth, toNat_ushiftRight, shiftRight_eq_div_pow]
  omega

/-! ## What `init` produces -/

/-- The values whose assertions hold.  A group value with whole bytes has at least one, and
nothing sets the extension of `A_UserMemoryBit_Write_PDU`. -/
def APDU.WellFormed : APDU → Prop
  | groupValueResponse value | groupValueWrite value =>
    value.Fits ∧ (value.issmall = false → value.data ≠ [])
  | propertyValueRead value | propertyValueResponse value _ | propertyValueWrite value _ =>
    value.count &&& 0xf0 = 0 ∧ value.start &&& 0xf000 = 0
  | deviceDescriptorRead type | deviceDescriptorResponse type _ => type &&& 0xC0 = 0
  | adcRead channel _ | adcResponse channel _ _ => channel &&& 0xC0 = 0
  | memoryRead range => range.count &&& 0xf0 = 0
  | memoryResponse range data | memoryWrite range data =>
    range.count &&& 0xf0 = 0 ∧ data.length = range.count.toNat
  | memoryBitWrite range andmask xormask =>
    andmask.length = range.count.toNat ∧ xormask.length = range.count.toNat
  | userMemoryRead range => range.count &&& 0xf0 = 0 ∧ range.addrExtension &&& 0xf0 = 0
  | userMemoryResponse range data | userMemoryWrite range data =>
    range.count &&& 0xf0 = 0 ∧ range.addrExtension &&& 0xf0 = 0 ∧
      data.length = range.count.toNat
  | userMemoryBitWrite range andmask xormask =>
    range.addrExtension = 0 ∧ andmask.length = range.count.toNat ∧
      xormask.length = range.count.toNat
  | _ => True

def APDU.Of (type : APDUType) (a : APDU) : Prop :=
  a.WellFormed ∧ a.getType = some type

/-- The computation returns, and a value it returns is a well-formed one of the class. -/
def Sound (type : APDUType) (program : Run (Option APDU)) : Prop :=
  ∃ result, program = .ok result ∧ ∀ a, result = some a → a.Of type

section Sound

variable {type : APDUType} {c : CArray} {index : ℕ}

theorem sound_none : Sound type (.ok none) :=
  ⟨none, rfl, fun _ h => by cases h⟩

theorem sound_some {a : APDU} (ha : a.Of type) : Sound type (.ok (some a)) :=
  ⟨some a, rfl, fun _ h => Option.some.inj h ▸ ha⟩

theorem readWord_of_lt (hindex : index + 1 < c.length) :
    readWord c index = .ok (joinBytes (byteAt c index) (byteAt c (index + 1))) := by
  rw [readWord, readAt_of_lt (by omega), readAt_of_lt hindex]
  rfl

theorem returns_readBlock (c : CArray) (index size : ℕ) (hindex : index + size ≤ c.length) :
    ∃ block, readBlock c index size = .ok block :=
  ⟨_, dif_pos hindex⟩

theorem readPropertyValue_of_le (hlength : 6 ≤ c.length) :
    ∃ value, readPropertyValue c = .ok value ∧ value.count &&& 0xf0 = 0 ∧
      value.start &&& 0xf000 = 0 := by
  simp (disch := omega) only [readPropertyValue, readAt_of_lt, ok_bind, pure_eq_ok]
  exact ⟨_, rfl, low_nibble _, twelve_bits _ _⟩

theorem readMemoryRange_of_le (hlength : 4 ≤ c.length) :
    ∃ range, readMemoryRange c = .ok range ∧ range.count &&& 0xf0 = 0 := by
  simp (disch := omega) only [readMemoryRange, readAt_of_lt, readWord_of_lt, ok_bind, pure_eq_ok]
  exact ⟨_, rfl, low_nibble _⟩

theorem readUserMemoryRange_of_le (hlength : 5 ≤ c.length) :
    ∃ range, readUserMemoryRange c = .ok range ∧ range.count &&& 0xf0 = 0 ∧
      range.addrExtension &&& 0xf0 = 0 := by
  simp (disch := omega) only [readUserMemoryRange, readAt_of_lt, readWord_of_lt, ok_bind,
    pure_eq_ok]
  exact ⟨_, rfl, low_nibble _, low_nibble _⟩

/-- A class of fixed size. -/
theorem sound_fixed {program : Run (Option APDU)}
    (hprogram : c.length = size → Sound type program) :
    Sound type (if c.length ≠ size then pure none else program) := by
  split
  · exact sound_none
  · next hlength => exact hprogram (not_not.1 hlength)

theorem sound_initEmpty {a : APDU} (ha : a.Of type) : Sound type (initEmpty a c) := by
  unfold initEmpty
  split
  · exact sound_none
  · exact sound_some ha

theorem sound_initGroupValue {make : GroupValue → APDU}
    (hmake : ∀ value : GroupValue, value.Fits → (value.issmall = false → value.data ≠ []) →
      (make value).Of type) : Sound type (initGroupValue make c) := by
  unfold initGroupValue
  split
  · exact sound_none
  split
  · simp (disch := omega) only [readAt_of_lt, ok_bind, pure_eq_ok]
    exact sound_some (hmake _ (.inr ⟨rfl, six_bits _⟩) nofun)
  · next hshort hsmall =>
    rw [readPart_of_le (by omega), ok_bind]
    refine sound_some (hmake _ (.inl rfl) fun _ => ?_)
    rw [← length_pos_iff_ne_nil, length_take, length_drop]
    omega

theorem sound_initSerialNumberAddr (hsize : 10 ≤ size)
    (hmake : ∀ serno addr, (make serno addr).Of type) :
    Sound type (initSerialNumberAddr size make c) := by
  refine sound_fixed fun hlength => ?_
  obtain ⟨_, hserno⟩ := returns_readBlock c 2 6 (by omega)
  simp (disch := omega) only [hserno, readWord_of_lt, ok_bind, pure_eq_ok]
  exact sound_some (hmake _ _)

theorem sound_initPropertyData {make : PropertyValue → CArray → APDU}
    (hmake : ∀ value data, value.count &&& 0xf0 = 0 → value.start &&& 0xf000 = 0 →
      (make value data).Of type) : Sound type (initPropertyData make c) := by
  unfold initPropertyData
  split
  · exact sound_none
  · next hlength =>
    obtain ⟨_, hvalue, hcount, hstart⟩ := readPropertyValue_of_le (c := c) (by omega)
    rw [hvalue, ok_bind, readPart_of_le (by omega), ok_bind]
    exact sound_some (hmake _ _ hcount hstart)

theorem sound_initMemoryData {make : MemoryRange → CArray → APDU}
    (hmake : ∀ range data, range.count &&& 0xf0 = 0 → data.length = range.count.toNat →
      (make range data).Of type) : Sound type (initMemoryData make c) := by
  unfold initMemoryData
  split
  · exact sound_none
  · next hlength =>
    obtain ⟨_, hrange, hcount⟩ := readMemoryRange_of_le (c := c) (by omega)
    rw [hrange, ok_bind, readPart_of_le (by omega), ok_bind]
    split
    · exact sound_none
    · next hdata => exact sound_some (hmake _ _ hcount (not_not.1 hdata))

theorem sound_initUserMemoryData {make : UserMemoryRange → CArray → APDU}
    (hmake : ∀ range data, range.count &&& 0xf0 = 0 → range.addrExtension &&& 0xf0 = 0 →
      data.length = range.count.toNat → (make range data).Of type) :
    Sound type (initUserMemoryData make c) := by
  unfold initUserMemoryData
  split
  · exact sound_none
  · next hlength =>
    obtain ⟨_, hrange, hcount, hext⟩ := readUserMemoryRange_of_le (c := c) (by omega)
    rw [hrange, ok_bind, readPart_of_le (by omega), ok_bind]
    split
    · exact sound_none
    · next hdata => exact sound_some (hmake _ _ hcount hext (not_not.1 hdata))

theorem sound_initMasks {make : MemoryRange → CArray → CArray → APDU}
    (hmake : ∀ range andmask xormask, andmask.length = range.count.toNat →
      xormask.length = range.count.toNat → (make range andmask xormask).Of type) :
    Sound type (initMasks make c) := by
  unfold initMasks
  split
  · exact sound_none
  simp (disch := omega) only [readAt_of_lt, readWord_of_lt, ok_bind]
  split
  · exact sound_none
  · rw [readPart_of_le (by omega), ok_bind, readPart_of_le (by omega), ok_bind]
    refine sound_some (hmake _ _ _ ?_ ?_) <;> rw [length_take, length_drop] <;> dsimp only <;> omega

/-- Whatever the class, `init` reads inside the array, and what it accepts is well formed. -/
theorem sound_init (type : APDUType) (c : CArray) : Sound type (init type c) := by
  cases type with
  | groupValueRead | individualAddressRead | individualAddressResponse | domainAddressRead
  | userManufacturerInfoRead | restart => exact sound_initEmpty ⟨trivial, rfl⟩
  | groupValueResponse | groupValueWrite =>
    exact sound_initGroupValue fun _ hfits hdata => ⟨⟨hfits, hdata⟩, rfl⟩
  | individualAddressWrite | domainAddressWrite | domainAddressResponse
  | serviceInformationIndicationWrite | domainAddressSelectiveRead | propertyDescriptionRead
  | propertyDescriptionResponse | userManufacturerInfoResponse | authorizeRequest
  | authorizeResponse | keyWrite | keyResponse =>
    refine sound_fixed fun hlength => ?_
    simp (disch := omega) only [readKey, readAt_of_lt, readWord_of_lt, ok_bind, pure_eq_ok]
    exact sound_some ⟨trivial, rfl⟩
  | individualAddressSerialNumberRead =>
    refine sound_fixed fun hlength => ?_
    obtain ⟨_, hserno⟩ := returns_readBlock c 2 6 (by omega)
    rw [hserno, ok_bind]
    exact sound_some ⟨trivial, rfl⟩
  | individualAddressSerialNumberResponse | individualAddressSerialNumberWrite =>
    exact sound_initSerialNumberAddr (by norm_num) fun _ _ => ⟨trivial, rfl⟩
  | propertyValueRead =>
    refine sound_fixed fun hlength => ?_
    obtain ⟨_, hvalue, hcount, hstart⟩ := readPropertyValue_of_le (c := c) (by omega)
    rw [hvalue, ok_bind]
    exact sound_some ⟨⟨hcount, hstart⟩, rfl⟩
  | propertyValueResponse | propertyValueWrite =>
    exact sound_initPropertyData fun _ _ hcount hstart => ⟨⟨hcount, hstart⟩, rfl⟩
  | deviceDescriptorRead | deviceDescriptorResponse | adcRead | adcResponse =>
    refine sound_fixed fun hlength => ?_
    simp (disch := omega) only [readAt_of_lt, readWord_of_lt, ok_bind, pure_eq_ok]
    exact sound_some ⟨six_bits _, rfl⟩
  | memoryRead =>
    refine sound_fixed fun hlength => ?_
    obtain ⟨range, hrange, hcount⟩ := readMemoryRange_of_le (c := c) (by omega)
    rw [hrange, ok_bind]
    exact sound_some ⟨hcount, rfl⟩
  | memoryResponse | memoryWrite =>
    exact sound_initMemoryData fun _ _ hcount hdata => ⟨⟨hcount, hdata⟩, rfl⟩
  | memoryBitWrite => exact sound_initMasks fun _ _ _ hand hxor => ⟨⟨hand, hxor⟩, rfl⟩
  | userMemoryRead =>
    refine sound_fixed fun hlength => ?_
    obtain ⟨range, hrange, hcount, hext⟩ := readUserMemoryRange_of_le (c := c) (by omega)
    rw [hrange, ok_bind]
    exact sound_some ⟨⟨hcount, hext⟩, rfl⟩
  | userMemoryResponse | userMemoryWrite =>
    exact sound_initUserMemoryData fun _ _ hcount hext hdata => ⟨⟨hcount, hext, hdata⟩, rfl⟩
  | userMemoryBitWrite =>
    change Sound .userMemoryBitWrite
      (initMasks (fun range => .userMemoryBitWrite ⟨0, range.count, range.addr⟩) c)
    exact sound_initMasks fun _ _ _ hand hxor => ⟨⟨rfl, hand, hxor⟩, rfl⟩

end Sound

/-- Decoding returns: what no class accepts is kept as it came, and anything else is a
well-formed value of the class that its first two bytes choose. -/
theorem fromPacket_cases (c : CArray) :
    fromPacket c = .ok (.unknown c) ∨ ∃ type a, select (byteAt c 0) (byteAt c 1) = some type ∧
      init type c = .ok (some a) ∧ fromPacket c = .ok a ∧ a.Of type := by
  unfold fromPacket
  split
  · simp (disch := omega) only [readAt_of_lt, ok_bind]
    cases htype : select (byteAt c 0) (byteAt c 1) with
    | none => exact .inl rfl
    | some type =>
      obtain ⟨result, hresult, hof⟩ := sound_init type c
      simp only [hresult, ok_bind]
      cases result with
      | none => exact .inl rfl
      | some a => exact .inr ⟨type, a, rfl, hresult, rfl, hof a rfl⟩
  · exact .inl rfl

/-! ## Assertions -/

theorem returns_addSerialNumber (text : String) (serno : SerialNumber) :
    Returns (addSerialNumber text serno) := by
  have hlength := serno.2
  simp (disch := omega) only [addSerialNumber, readAt_of_lt, ok_bind, pure_eq_ok]
  exact returns_ok _

theorem GroupValue.Fits.returns_toPacket {value : GroupValue} (hfits : value.Fits) (code : Byte) :
    Returns (groupValueToPacket code value) := by
  rw [groupValueToPacket, returns_require_bind_iff]
  refine ⟨hfits, ?_⟩
  split
  · next hsmall =>
    obtain hlarge | ⟨hlength, -⟩ := hfits
    · rw [hlarge] at hsmall
      cases hsmall
    · rw [readAt_of_lt (by omega), ok_bind]
      exact returns_ok _
  · exact returns_ok _

theorem returns_masksToPacket {c0 c1 count : Byte} {andmask xormask : CArray}
    (hand : andmask.length = count.toNat) (hxor : xormask.length = count.toNat) :
    Returns (masksToPacket c0 c1 count addr andmask xormask) := by
  rw [masksToPacket, returns_require_bind_iff, returns_require_bind_iff,
    readPart_of_le (by omega), ok_bind, readPart_of_le (by omega), ok_bind]
  exact ⟨hand, hxor, returns_ok _⟩

/-- No assertion of `ToPacket` fails for a well-formed value. -/
theorem APDU.WellFormed.returns_toPacket {a : APDU} (ha : a.WellFormed) : Returns a.toPacket := by
  cases a with
  | groupValueResponse | groupValueWrite => exact ha.1.returns_toPacket _
  | memoryBitWrite => exact returns_masksToPacket ha.1 ha.2
  | userMemoryBitWrite => exact returns_masksToPacket ha.2.1 ha.2.2
  | propertyValueRead | propertyValueResponse | propertyValueWrite =>
    simpa [toPacket, propertyValueToPacket, WellFormed] using ha
  | memoryResponse | memoryWrite =>
    simpa [toPacket, memoryDataToPacket, WellFormed] using ha
  | userMemoryResponse | userMemoryWrite =>
    simpa [toPacket, userMemoryDataToPacket, WellFormed] using ha
  | deviceDescriptorRead | deviceDescriptorResponse | adcRead | adcResponse | memoryRead
  | userMemoryRead => simpa [toPacket, WellFormed] using ha
  | _ => exact returns_ok _

/-- No assertion of `Decode` fails for a well-formed value. -/
theorem APDU.WellFormed.returns_decode {a : APDU} (ha : a.WellFormed) : Returns a.decode := by
  cases a with
  | unknown =>
    rw [decode]
    split
    · exact returns_ok _
    · rw [readAt_of_lt (by omega), ok_bind]
      exact returns_ok _
  | groupValueResponse | groupValueWrite =>
    simpa [decode, groupValueText] using ha.1
  | individualAddressSerialNumberRead => exact returns_addSerialNumber _ _
  | individualAddressSerialNumberResponse serno | individualAddressSerialNumberWrite serno =>
    obtain ⟨_, htext⟩ := returns_addSerialNumber _ serno
    rw [decode, htext]
    exact returns_ok _
  | propertyValueRead => simpa [decode, propertyValueText, WellFormed] using ha
  | propertyValueResponse | propertyValueWrite =>
    simpa [decode, propertyDataText, propertyValueText, bind_assoc, WellFormed] using ha
  | memoryResponse | memoryWrite =>
    simpa [decode, memoryDataText, WellFormed] using ha
  | memoryBitWrite => simpa [decode, masksText, WellFormed] using ha
  | userMemoryRead => simpa [decode, userMemoryText, WellFormed] using ha
  | userMemoryResponse | userMemoryWrite =>
    simpa [decode, userMemoryDataText, userMemoryText, bind_assoc, WellFormed] using ha
  | userMemoryBitWrite => simpa [decode, masksText] using And.right ha
  | deviceDescriptorRead | deviceDescriptorResponse | adcRead | adcResponse | memoryRead =>
    simpa [decode, WellFormed] using ha
  | _ => exact returns_ok _

/-- Every byte array is read, into a well-formed value. -/
theorem fromPacket_wellFormed (c : CArray) : ∃ a, fromPacket c = .ok a ∧ a.WellFormed := by
  obtain hunknown | ⟨-, a, -, -, ha, hwellFormed, -⟩ := fromPacket_cases c
  · exact ⟨_, hunknown, trivial⟩
  · exact ⟨a, ha, hwellFormed⟩

/-- Hostile input is harmless: any byte array is decoded without a read outside it, and
encoding and describing the result fails no assertion and reads inside its fields. -/
theorem apdu_total (c : CArray) :
    ∃ a, fromPacket c = .ok a ∧ Returns a.toPacket ∧ Returns a.decode := by
  obtain ⟨a, ha, hwellFormed⟩ := fromPacket_wellFormed c
  exact ⟨a, ha, hwellFormed.returns_toPacket, hwellFormed.returns_decode⟩

/-! ## Encoding and decoding again -/

/-- The value is encoded, and decoded again to itself. -/
def APDU.Reencodes (a : APDU) : Prop :=
  ∃ packet, a.toPacket = .ok packet ∧ fromPacket packet = .ok a

section Reencode

variable {a : APDU}
variable {code c0 c1 : Byte} {data : CArray}

theorem fromPacket_of_select (type : APDUType) {rest : CArray} {result : Option APDU}
    (htype : select c0 c1 = some type) (hinit : init type (c0 :: c1 :: rest) = .ok result) :
    fromPacket (c0 :: c1 :: rest) = .ok (result.getD (.unknown (c0 :: c1 :: rest))) := by
  rw [fromPacket, if_pos (by simp), readAt_cons_zero, ok_bind, readAt_cons_succ, readAt_cons_zero,
    ok_bind, htype]
  simp only [hinit, ok_bind]
  cases result <;> rfl

/-- The class reads what it wrote. -/
theorem reencodes_of_init (type : APDUType) {rest : CArray}
    (hpacket : a.toPacket = .ok (c0 :: c1 :: rest)) (htype : select c0 c1 = some type)
    (hinit : init type (c0 :: c1 :: rest) = .ok (some a)) : a.Reencodes :=
  ⟨_, hpacket, fromPacket_of_select type htype hinit⟩

theorem readWord_split (word : BitVec 16) (rest : CArray) :
    readWord (highByte word :: lowByte word :: rest) 0 = .ok word := by
  rw [readWord, readAt_cons_zero, ok_bind, readAt_cons_succ, readAt_cons_zero, ok_bind,
    joinBytes_highByte_lowByte]
  rfl

theorem readWord_cons_succ (byte : Byte) (rest : CArray) (index : ℕ) :
    readWord (byte :: rest) (index + 1) = readWord rest index := rfl

theorem readKey_keyBytes (key : BitVec 32) (c0 c1 c2 : Byte) :
    readKey (c0 :: c1 :: c2 :: keyBytes key) 3 = .ok key := by
  have hkey := join_keyBytes key
  simp only [readKey, readWord, keyBytes, readAt_cons_zero, readAt_cons_succ, ok_bind, pure_eq_ok,
    hkey]

/-- The second byte of the class has a field in the bits of the mask, beside its code. -/
abbrev CarriesBits (c0 code mask : Byte) (type : APDUType) : Prop :=
  ∀ field : Byte, select c0 (code ||| (field &&& mask)) = some type ∧
    (code ||| (field &&& mask)) &&& mask = field &&& mask

/-- A group value in a class with its own code. -/
theorem groupValue_back (type : APDUType) {make : GroupValue → APDU} {value : GroupValue}
    (hcode : CarriesBits 0x00 code 0x3f type) (hinit : init type = initGroupValue make)
    (hpacket : (make value).toPacket = groupValueToPacket code value) (hfits : value.Fits)
    (hdata : value.issmall = false → value.data ≠ []) : (make value).Reencodes := by
  rw [groupValueToPacket, require_of hfits, ok_bind] at hpacket
  obtain ⟨issmall, data⟩ := value
  cases issmall with
  | false =>
    have hselect := (hcode 0).1
    rw [show code ||| ((0 : Byte) &&& 0x3f) = code by simp] at hselect
    refine reencodes_of_init _ hpacket hselect ?_
    rw [hinit, initGroupValue, if_neg (by simp), if_neg (by simp [hdata])]
    exact bind_eq_ok_iff.2 ⟨data, readPart_tail [0x00, code] data, rfl⟩
  | true =>
    obtain ⟨hlength, hsmall⟩ := hfits.resolve_left nofun
    obtain ⟨small, rfl⟩ := length_eq_one_iff.1 hlength
    obtain ⟨hselect, hbits⟩ := hcode small
    refine reencodes_of_init _ hpacket hselect ?_
    have hread : initGroupValue make [0x00, code ||| (small &&& 0x3f)] =
        .ok (some (make ⟨true, [(code ||| (small &&& 0x3f)) &&& 0x3f]⟩)) := rfl
    rw [hinit, hread, hbits, show small &&& 0x3f = small from six_bits_kept hsmall]

theorem readPropertyValue_bytes {value : PropertyValue} (hcount : value.count &&& 0xf0 = 0)
    (hstart : value.start &&& 0xf000 = 0) (c0 c1 : Byte) (data : CArray) :
    readPropertyValue (c0 :: c1 :: (value.bytes ++ data)) = .ok value := by
  obtain ⟨hhigh, hlow⟩ := nibbles hcount (highByte_nibble hstart)
  simp only [readPropertyValue, PropertyValue.bytes, cons_append, nil_append,
    readAt_cons_zero, readAt_cons_succ, ok_bind, pure_eq_ok, hhigh, hlow,
    joinBytes_highByte_lowByte]

/-- A property with its elements in a class with its own code. -/
theorem propertyData_back (type : APDUType) {make : PropertyValue → CArray → APDU}
    {value : PropertyValue} (hselect : select 0x03 code = some type)
    (hinit : init type = initPropertyData make)
    (hpacket : (make value data).toPacket = propertyValueToPacket code value data)
    (hcount : value.count &&& 0xf0 = 0) (hstart : value.start &&& 0xf000 = 0) :
    (make value data).Reencodes := by
  rw [propertyValueToPacket, require_of hcount, ok_bind, require_of hstart, ok_bind] at hpacket
  refine reencodes_of_init _ hpacket hselect ?_
  rw [hinit, initPropertyData, if_neg (by simp [PropertyValue.bytes])]
  exact bind_eq_ok_iff.2 ⟨value, readPropertyValue_bytes hcount hstart _ _ _,
    bind_eq_ok_iff.2 ⟨data, readPart_tail ([0x03, code] ++ value.bytes) data, rfl⟩⟩

/-- The count of an `A_Memory` message, in the low bits of its second byte. -/
theorem readMemoryRange_bytes {range : MemoryRange}
    (hcode : (code ||| (range.count &&& 0x0f)) &&& 0x0f = range.count &&& 0x0f)
    (hcount : range.count &&& 0xf0 = 0) (c0 : Byte) (data : CArray) :
    readMemoryRange (c0 :: (code ||| (range.count &&& 0x0f)) :: highByte range.addr ::
      lowByte range.addr :: data) = .ok range := by
  have hkept := low_nibble_kept hcount
  rw [hkept] at hcode
  simp only [readMemoryRange, readAt_cons_zero, readAt_cons_succ, ok_bind, pure_eq_ok,
    readWord_cons_succ, readWord_split, hkept, hcode]

theorem memoryData_back (type : APDUType) {make : MemoryRange → CArray → APDU} {range : MemoryRange}
    (hcode : CarriesBits 0x02 code 0x0f type) (hinit : init type = initMemoryData make)
    (hpacket : (make range data).toPacket = memoryDataToPacket code range data)
    (hcount : range.count &&& 0xf0 = 0) (hdata : data.length = range.count.toNat) :
    (make range data).Reencodes := by
  obtain ⟨hselect, hbits⟩ := hcode range.count
  rw [memoryDataToPacket, require_of hcount, ok_bind, require_of hdata, ok_bind] at hpacket
  refine reencodes_of_init _ hpacket hselect ?_
  rw [hinit, initMemoryData, if_neg (by simp)]
  refine bind_eq_ok_iff.2 ⟨range, readMemoryRange_bytes hbits hcount _ _,
    bind_eq_ok_iff.2 ⟨data, readPart_tail [_, _, _, _] data, ?_⟩⟩
  rw [if_neg (not_not.2 hdata), pure_eq_ok]

theorem readUserMemoryRange_bytes {range : UserMemoryRange} (hcount : range.count &&& 0xf0 = 0)
    (hext : range.addrExtension &&& 0xf0 = 0) (c0 c1 : Byte) (data : CArray) :
    readUserMemoryRange (c0 :: c1 :: (range.bytes ++ data)) = .ok range := by
  obtain ⟨hhigh, hlow⟩ := nibbles hext hcount
  simp only [readUserMemoryRange, UserMemoryRange.bytes, cons_append, nil_append,
    readAt_cons_zero, readAt_cons_succ, ok_bind, pure_eq_ok, readWord_cons_succ, readWord_split,
    hhigh, hlow]

theorem userMemoryData_back (type : APDUType) {make : UserMemoryRange → CArray → APDU}
    {range : UserMemoryRange} (hselect : select 0x02 code = some type)
    (hinit : init type = initUserMemoryData make)
    (hpacket : (make range data).toPacket = userMemoryDataToPacket code range data)
    (hcount : range.count &&& 0xf0 = 0) (hext : range.addrExtension &&& 0xf0 = 0)
    (hdata : data.length = range.count.toNat) : (make range data).Reencodes := by
  rw [userMemoryDataToPacket, require_of hcount, ok_bind, require_of hext, ok_bind,
    require_of hdata, ok_bind] at hpacket
  refine reencodes_of_init _ hpacket hselect ?_
  rw [hinit, initUserMemoryData, if_neg (by simp [UserMemoryRange.bytes])]
  refine bind_eq_ok_iff.2 ⟨range, readUserMemoryRange_bytes hcount hext _ _ _,
    bind_eq_ok_iff.2 ⟨data, readPart_tail ([0x02, code] ++ range.bytes) data, ?_⟩⟩
  rw [if_neg (not_not.2 hdata), pure_eq_ok]

theorem require_bind_of {condition : Prop} [Decidable condition] {α : Type} (hcondition : condition)
    (value : α) : (do require condition; pure value) = Except.ok value := by
  rw [require_of hcondition, ok_bind, pure_eq_ok]

theorem masks_back (type : APDUType) (make : MemoryRange → CArray → CArray → APDU)
    {c0 c1 count : Byte} {andmask xormask : CArray} (hselect : select c0 c1 = some type)
    (hinit : init type = initMasks make) (hpacket : (make ⟨count, addr⟩ andmask xormask).toPacket =
      masksToPacket c0 c1 count addr andmask xormask)
    (hand : andmask.length = count.toNat) (hxor : xormask.length = count.toNat) :
    (make ⟨count, addr⟩ andmask xormask).Reencodes := by
  have hfirst : readPart andmask 0 count.toNat = .ok andmask := by simp [readPart, ← hand]
  have hsecond : readPart xormask 0 count.toNat = .ok xormask := by simp [readPart, ← hxor]
  rw [masksToPacket, require_of hand, ok_bind, require_of hxor, ok_bind, hfirst, ok_bind, hsecond,
    ok_bind] at hpacket
  refine reencodes_of_init _ hpacket hselect ?_
  let head : CArray := [c0, c1, count, highByte addr, lowByte addr]
  have hsize : (head ++ andmask ++ xormask).length - 5 = count.toNat * 2 := by
    simp only [head, length_append, length_cons, length_nil, hand, hxor]
    omega
  have hpartAnd : readPart (head ++ andmask ++ xormask) 5 count.toNat = .ok andmask := by
    rw [← hand]
    exact readPart_middle head andmask xormask
  have hpartXor : readPart (head ++ andmask ++ xormask) (5 + count.toNat) count.toNat =
      .ok xormask := by
    have hpart := readPart_middle (head ++ andmask) xormask []
    rw [append_nil, length_append, hand, hxor] at hpart
    exact hpart
  change init type (head ++ andmask ++ xormask) = _
  rw [hinit, initMasks, if_neg (by simp [head])]
  refine bind_eq_ok_iff.2 ⟨count, rfl,
    bind_eq_ok_iff.2 ⟨addr, readWord_split addr (andmask ++ xormask), ?_⟩⟩
  rw [if_neg (not_not.2 hsize), hpartAnd, ok_bind, hpartXor, ok_bind, pure_eq_ok]

theorem readWord_append (head : CArray) (word : BitVec 16) (rest : CArray) :
    readWord (head ++ highByte word :: lowByte word :: rest) head.length = .ok word := by
  induction head with
  | nil => exact readWord_split word rest
  | cons _ _ ih => exact ih

theorem initSerialNumberAddr_back {serno : SerialNumber} :
    initSerialNumberAddr 12 make (c0 :: c1 :: (serno.1 ++ [highByte addr, lowByte addr, 0, 0])) =
      .ok (some (make serno addr)) := by
  have hserno := serno.2
  have haddr := readWord_append ([c0, c1] ++ serno.1) addr [0, 0]
  rw [length_append, hserno] at haddr
  rw [initSerialNumberAddr, if_neg (by simp [hserno])]
  exact bind_eq_ok_iff.2 ⟨serno, readBlock_append [c0, c1] serno _,
    bind_eq_ok_iff.2 ⟨addr, haddr, rfl⟩⟩

/-- A value of one of the classes that write their own code, and no flag that is looked for
elsewhere. -/
def APDU.Consistent : APDU → Prop
  | unknown _ => False
  | individualAddressSerialNumberWrite .. => False
  | domainAddressSelectiveRead .. => False
  | deviceDescriptorResponse .. => False
  | serviceInformationIndicationWrite _ duplicateAddress _ => duplicateAddress = false
  | _ => True

theorem APDU.WellFormed.reencodes (ha : a.WellFormed) (hconsistent : a.Consistent) :
    a.Reencodes := by
  cases a with
  | unknown | individualAddressSerialNumberWrite | domainAddressSelectiveRead
  | deviceDescriptorResponse =>
    exact hconsistent.elim
  | groupValueRead | individualAddressRead | individualAddressResponse | domainAddressRead
  | propertyDescriptionRead | userManufacturerInfoRead | restart | authorizeResponse
  | keyResponse => exact reencodes_of_init _ rfl rfl rfl
  | groupValueResponse =>
    exact groupValue_back .groupValueResponse (by decide) rfl rfl ha.1 ha.2
  | groupValueWrite => exact groupValue_back .groupValueWrite (by decide) rfl rfl ha.1 ha.2
  | individualAddressWrite addr | domainAddressWrite addr | domainAddressResponse addr =>
    refine reencodes_of_init _ rfl rfl ?_
    exact bind_eq_ok_iff.2 ⟨addr, readWord_split addr [], rfl⟩
  | individualAddressSerialNumberRead serno =>
    refine reencodes_of_init .individualAddressSerialNumberRead rfl rfl ?_
    have hblock := readBlock_append [0x03, 0xDC] serno []
    rw [append_nil] at hblock
    exact (if_neg (by simp [serno.2])).trans (bind_eq_ok_iff.2 ⟨serno, hblock, rfl⟩)
  | individualAddressSerialNumberResponse =>
    refine reencodes_of_init .individualAddressSerialNumberResponse rfl rfl ?_
    exact initSerialNumberAddr_back
  | serviceInformationIndicationWrite verifyMode _ applStopped =>
    cases hconsistent
    refine reencodes_of_init .serviceInformationIndicationWrite rfl rfl ?_
    cases verifyMode <;> cases applStopped <;> rfl
  | propertyValueRead value =>
    obtain ⟨hcount, hstart⟩ := ha
    have hpacket : (propertyValueRead value).toPacket =
        .ok (0x03 :: 0xD5 :: (value.bytes ++ [])) := by
      rw [toPacket, propertyValueToPacket, require_of hcount, ok_bind, require_of hstart]
      rfl
    refine reencodes_of_init .propertyValueRead hpacket rfl ?_
    exact bind_eq_ok_iff.2 ⟨value, readPropertyValue_bytes hcount hstart 0x03 0xD5 [], rfl⟩
  | propertyValueResponse =>
    exact propertyData_back .propertyValueResponse rfl rfl rfl ha.1 ha.2
  | propertyValueWrite =>
    exact propertyData_back .propertyValueWrite rfl rfl rfl ha.1 ha.2
  | propertyDescriptionResponse =>
    refine reencodes_of_init .propertyDescriptionResponse rfl rfl ?_
    rw [init, initPropertyDescriptionResponse, if_neg (by simp)]
    simp only [readAt_cons_zero, readAt_cons_succ, readWord_cons_succ, readWord_split, ok_bind,
      pure_eq_ok]
  | deviceDescriptorRead type =>
    have hcode : CarriesBits 0x03 0x00 0x3f .deviceDescriptorRead := by decide
    obtain ⟨hselect, hbits⟩ := hcode type
    have htype : type &&& 0xC0 = 0 := ha
    refine reencodes_of_init _ (require_bind_of htype _) hselect ?_
    rw [init, initDeviceDescriptorRead, if_neg (by simp), readAt_cons_succ, readAt_cons_zero,
      ok_bind, hbits, six_bits_kept htype, pure_eq_ok]
  | adcRead channel =>
    have hcode : CarriesBits 0x01 0x80 0x3f .adcRead := by decide
    obtain ⟨hselect, hbits⟩ := hcode channel
    have hchannel : channel &&& 0xC0 = 0 := ha
    refine reencodes_of_init _ (require_bind_of hchannel _) hselect ?_
    rw [init, initADCRead, if_neg (by simp), readAt_cons_succ, readAt_cons_zero, ok_bind,
      hbits, six_bits_kept hchannel]
    rfl
  | adcResponse channel count val =>
    have hcode : CarriesBits 0x01 0xC0 0x3f .adcResponse := by decide
    obtain ⟨hselect, hbits⟩ := hcode channel
    have hchannel : channel &&& 0xC0 = 0 := ha
    refine reencodes_of_init _ (require_bind_of hchannel _) hselect ?_
    rw [init, initADCResponse, if_neg (by simp), readAt_cons_succ, readAt_cons_zero, ok_bind,
      hbits, six_bits_kept hchannel]
    exact bind_eq_ok_iff.2 ⟨count, rfl, bind_eq_ok_iff.2 ⟨val, readWord_split val [], rfl⟩⟩
  | memoryRead range =>
    have hcode : CarriesBits 0x02 0x00 0x0f .memoryRead := by decide
    obtain ⟨hselect, hbits⟩ := hcode range.count
    have hcount : range.count &&& 0xf0 = 0 := ha
    refine reencodes_of_init _ (require_bind_of hcount _) hselect ?_
    exact bind_eq_ok_iff.2 ⟨range, readMemoryRange_bytes hbits hcount _ _, rfl⟩
  | memoryResponse => exact memoryData_back .memoryResponse (by decide) rfl rfl ha.1 ha.2
  | memoryWrite => exact memoryData_back .memoryWrite (by decide) rfl rfl ha.1 ha.2
  | memoryBitWrite =>
    exact masks_back .memoryBitWrite .memoryBitWrite rfl rfl rfl ha.1 ha.2
  | userMemoryRead range =>
    obtain ⟨hcount, hext⟩ := ha
    have hpacket : (userMemoryRead range).toPacket = .ok (0x02 :: 0xC0 :: (range.bytes ++ [])) := by
      rw [toPacket, require_of hcount, ok_bind, require_of hext]
      rfl
    refine reencodes_of_init .userMemoryRead hpacket rfl ?_
    exact bind_eq_ok_iff.2 ⟨range, readUserMemoryRange_bytes hcount hext 0x02 0xC0 [], rfl⟩
  | userMemoryResponse =>
    exact userMemoryData_back .userMemoryResponse rfl rfl rfl ha.1 ha.2.1 ha.2.2
  | userMemoryWrite =>
    exact userMemoryData_back .userMemoryWrite rfl rfl rfl ha.1 ha.2.1 ha.2.2
  | userMemoryBitWrite range =>
    obtain ⟨_, count, addr⟩ := range
    obtain ⟨rfl, hand, hxor⟩ := ha
    exact masks_back .userMemoryBitWrite
      (fun range => .userMemoryBitWrite ⟨0, range.count, range.addr⟩) rfl rfl rfl hand hxor
  | userManufacturerInfoResponse manufacturerid data =>
    refine reencodes_of_init .userManufacturerInfoResponse rfl rfl ?_
    exact bind_eq_ok_iff.2 ⟨manufacturerid, rfl,
      bind_eq_ok_iff.2 ⟨data, readWord_split data [], rfl⟩⟩
  | authorizeRequest key =>
    refine reencodes_of_init .authorizeRequest rfl rfl ?_
    exact bind_eq_ok_iff.2 ⟨key, readKey_keyBytes key _ _ _, rfl⟩
  | keyWrite level key =>
    refine reencodes_of_init .keyWrite rfl rfl ?_
    exact bind_eq_ok_iff.2 ⟨level, rfl,
      bind_eq_ok_iff.2 ⟨key, readKey_keyBytes key 0x03 0xD3 level, rfl⟩⟩

/-- A value that is decoded again to another one. -/
theorem not_reencodes_of {b : APDU} {packet : CArray} (hpacket : a.toPacket = .ok packet)
    (hback : fromPacket packet = .ok b) (hne : b ≠ a) : ¬ a.Reencodes := by
  rintro ⟨_, hpacket', hagain⟩
  cases hpacket.symm.trans hpacket'
  exact hne (Except.ok.inj (hback.symm.trans hagain))

theorem APDU.WellFormed.not_reencodes (ha : a.WellFormed) (hclass : a.getType ≠ none)
    (hconsistent : ¬ a.Consistent) : ¬ a.Reencodes := by
  cases a with
  | unknown => exact (hclass rfl).elim
  | individualAddressSerialNumberWrite serno addr =>
    -- the response has twelve bytes, not fourteen
    have hback := fromPacket_of_select .individualAddressSerialNumberResponse rfl
      (if_pos (by simp [serno.2]) : init .individualAddressSerialNumberResponse (0x03 :: 0xDD ::
        (serno.1 ++ [highByte addr, lowByte addr, 0, 0, 0, 0])) = .ok none)
    exact not_reencodes_of rfl hback nofun
  | domainAddressSelectiveRead _ addr range =>
    -- the response has four bytes, not seven
    have hback := fromPacket_of_select .domainAddressResponse rfl (rfl : init .domainAddressResponse
        [0x03, 0xE2, highByte addr, lowByte addr, 0, 0, range] = .ok none)
    exact not_reencodes_of rfl hback nofun
  | deviceDescriptorResponse type descriptor =>
    -- a read request has two bytes, not four
    have hcode : ∀ type : Byte, select 0x03 (0x01 ||| (type &&& 0x3f)) =
      some .deviceDescriptorRead := by decide
    have htype : type &&& 0xC0 = 0 := ha
    have hback := fromPacket_of_select .deviceDescriptorRead (hcode type)
      (rfl : init .deviceDescriptorRead
        [0x03, 0x01 ||| (type &&& 0x3f), highByte descriptor, lowByte descriptor] = .ok none)
    exact not_reencodes_of (require_bind_of htype _) hback nofun
  | serviceInformationIndicationWrite verifyMode duplicateAddress applStopped =>
    have hduplicate : duplicateAddress = true := by simpa [APDU.Consistent] using hconsistent
    have hback := fromPacket_of_select .serviceInformationIndicationWrite rfl
      (rfl : init .serviceInformationIndicationWrite [0x03, 0xDF,
        (if verifyMode then 0x04 else 0x00) ||| (if duplicateAddress then 0x02 else 0x00) |||
          (if applStopped then 0x01 else 0x00), 0x00, 0x00] = _)
    refine not_reencodes_of rfl hback ?_
    simp [hduplicate]
  | _ => exact (hconsistent trivial).elim

end Reencode

/-! ## Which arrays are stable -/

/-- Decoding, encoding and decoding again gives the value of the first decoding. -/
def Stable (c : CArray) : Prop :=
  ∃ a, fromPacket c = .ok a ∧ a.Reencodes

/-- The arrays of the four classes that are not written as they are read: by size and code a
serial-number write, a selective read of a domain address or a response with a device
descriptor, or a service information with the bit of the duplicate flag. -/
def Mismatched (c : CArray) : Prop :=
  byteAt c 0 &&& 0x03 = 0x03 ∧
    (c.length = 14 ∧ byteAt c 1 = 0xDE ∨ c.length = 7 ∧ byteAt c 1 = 0xE3 ∨
      c.length = 4 ∧ byteAt c 1 &&& 0xC0 = 0x40 ∨
      c.length = 5 ∧ byteAt c 1 = 0xDF ∧ byteAt c 3 &&& 0x02 ≠ 0)

/-- The codes that `select` takes for the four classes. -/
def CodeOf (type : APDUType) (c0 c1 : Byte) : Prop :=
  match type with
  | .individualAddressSerialNumberWrite => c0 &&& 0x03 = 0x03 ∧ c1 = 0xDE
  | .domainAddressSelectiveRead => c0 &&& 0x03 = 0x03 ∧ c1 = 0xE3
  | .deviceDescriptorResponse => c0 &&& 0x03 = 0x03 ∧ c1 &&& 0xC0 = 0x40
  | .serviceInformationIndicationWrite => c0 &&& 0x03 = 0x03 ∧ c1 = 0xDF
  | _ => True

theorem codeOf_select {type : APDUType} {c0 c1 : Byte} (htype : select c0 c1 = some type) :
    CodeOf type c0 c1 := by
  unfold select at htype
  split at htype <;> try split at htype
  all_goals
    cases htype
    try exact trivial
  all_goals
    refine ⟨eq_of_toNat_eq ?_, eq_of_toNat_eq ?_⟩ <;> assumption

section Arrays

variable {c : CArray} {a : APDU}

theorem fromPacket_of_init (type : APDUType) (hlength : 2 ≤ c.length)
    (htype : select (byteAt c 0) (byteAt c 1) = some type) (hinit : init type c = .ok (some a)) :
    fromPacket c = .ok a := by
  rw [fromPacket, if_pos hlength, readAt_of_lt (by omega), ok_bind, readAt_of_lt (by omega),
    ok_bind, htype]
  simp only [hinit, ok_bind, pure_eq_ok]

theorem length_of_fixed {program : Run (Option APDU)}
    (hinit : (if c.length ≠ size then pure none else program) = .ok (some a)) :
    c.length = size := by
  by_contra hlength
  rw [if_pos hlength] at hinit
  cases hinit

theorem initServiceInformation_eq (hlength : c.length = 5) :
    init .serviceInformationIndicationWrite c =
      .ok (some (.serviceInformationIndicationWrite (byteAt c 2 &&& 0x04 ≠ 0)
        (byteAt c 3 &&& 0x02 ≠ 0) (byteAt c 2 &&& 0x01 ≠ 0))) := by
  rw [init, initServiceInformation, if_neg (not_not.2 hlength), readAt_of_lt (by omega), ok_bind,
    readAt_of_lt (by omega), ok_bind, pure_eq_ok]

/-- What the four classes decode from such an array. -/
theorem Mismatched.fromPacket (hc : Mismatched c) :
    ∃ a, fromPacket c = .ok a ∧ a.WellFormed ∧ a.getType ≠ none ∧ ¬ a.Consistent := by
  obtain ⟨hc0, ⟨hlength, hc1⟩ | ⟨hlength, hc1⟩ | ⟨hlength, hc1⟩ | ⟨hlength, hc1, hflag⟩⟩ := hc
  · obtain ⟨serno, hserno⟩ := returns_readBlock c 2 6 (by omega)
    refine ⟨.individualAddressSerialNumberWrite serno (joinBytes (byteAt c 8) (byteAt c 9)),
      fromPacket_of_init .individualAddressSerialNumberWrite (by omega) ?_ ?_,
      trivial, nofun, id⟩
    · rw [select, hc0, hc1]
      rfl
    · rw [init, initSerialNumberAddr, if_neg (not_not.2 hlength), hserno, ok_bind,
        readWord_of_lt (by omega), ok_bind, pure_eq_ok]
  · refine ⟨.domainAddressSelectiveRead (joinBytes (byteAt c 2) (byteAt c 3))
      (joinBytes (byteAt c 4) (byteAt c 5)) (byteAt c 6),
      fromPacket_of_init .domainAddressSelectiveRead (by omega) ?_ ?_,
      trivial, nofun, id⟩
    · rw [select, hc0, hc1]
      rfl
    · rw [init, initDomainAddressSelectiveRead, if_neg (not_not.2 hlength)]
      simp (disch := omega) only [readAt_of_lt, readWord_of_lt, ok_bind, pure_eq_ok]
  · refine ⟨.deviceDescriptorResponse (byteAt c 1 &&& 0x3f) (joinBytes (byteAt c 2) (byteAt c 3)),
      fromPacket_of_init .deviceDescriptorResponse (by omega) ?_ ?_,
      six_bits _, nofun, id⟩
    · rw [select, hc0, hc1]
      rfl
    · rw [init, initDeviceDescriptorResponse, if_neg (not_not.2 hlength)]
      simp (disch := omega) only [readAt_of_lt, readWord_of_lt, ok_bind, pure_eq_ok]
  · refine ⟨_, fromPacket_of_init .serviceInformationIndicationWrite (by omega) ?_
        (initServiceInformation_eq hlength),
      trivial, nofun, ?_⟩
    · rw [select, hc0, hc1]
      rfl
    · simpa [APDU.Consistent] using hflag

/-- For every byte array, encoding and decoding again gives the same class with the same
fields, but for the arrays of the four mismatched classes. -/
theorem apdu_stable (c : CArray) : Stable c ↔ ¬ Mismatched c := by
  constructor
  · rintro ⟨a, ha, hreencodes⟩ hc
    obtain ⟨b, hb, hwellFormed, hclass, hconsistent⟩ := hc.fromPacket
    cases ha.symm.trans hb
    exact hwellFormed.not_reencodes hclass hconsistent hreencodes
  · intro hc
    obtain hunknown | ⟨type, a, htype, hinit, ha, hwellFormed, hclass⟩ := fromPacket_cases c
    · exact ⟨_, hunknown, c, rfl, hunknown⟩
    refine ⟨a, ha, hwellFormed.reencodes ?_⟩
    by_contra hconsistent
    apply hc
    have hcode := codeOf_select htype
    cases a with
    | unknown => cases hclass
    | individualAddressSerialNumberWrite =>
      cases hclass
      exact ⟨hcode.1, .inl ⟨length_of_fixed hinit, hcode.2⟩⟩
    | domainAddressSelectiveRead =>
      cases hclass
      exact ⟨hcode.1, .inr (.inl ⟨length_of_fixed hinit, hcode.2⟩)⟩
    | deviceDescriptorResponse =>
      cases hclass
      exact ⟨hcode.1, .inr (.inr (.inl ⟨length_of_fixed hinit, hcode.2⟩))⟩
    | serviceInformationIndicationWrite =>
      cases hclass
      have hlength := length_of_fixed hinit
      cases (initServiceInformation_eq hlength).symm.trans hinit
      refine ⟨hcode.1, .inr (.inr (.inr ⟨hlength, hcode.2, ?_⟩))⟩
      simpa [APDU.Consistent] using hconsistent
    | _ => exact (hconsistent trivial).elim

/-- A selective read of a domain address comes back as an unknown message. -/
theorem domainAddressSelectiveRead_unstable :
    ¬ Stable [0x03, 0xE3, 0x12, 0x34, 0x11, 0x01, 0x05] ∧
      (fromPacket [0x03, 0xE3, 0x12, 0x34, 0x11, 0x01, 0x05] =
        .ok (.domainAddressSelectiveRead 0x1234 0x1101 0x05) ∧
      (APDU.domainAddressSelectiveRead 0x1234 0x1101 0x05).toPacket =
        .ok [0x03, 0xE2, 0x11, 0x01, 0x00, 0x00, 0x05] ∧
      fromPacket [0x03, 0xE2, 0x11, 0x01, 0x00, 0x00, 0x05] =
        .ok (.unknown [0x03, 0xE2, 0x11, 0x01, 0x00, 0x00, 0x05])) := by
  have hfirst : fromPacket [0x03, 0xE3, 0x12, 0x34, 0x11, 0x01, 0x05] =
      .ok (.domainAddressSelectiveRead 0x1234 0x1101 0x05) := rfl
  have hwellFormed : (domainAddressSelectiveRead 0x1234 0x1101 0x05).WellFormed := trivial
  refine ⟨?_, hfirst, rfl, rfl⟩
  rintro ⟨a, ha, hreencodes⟩
  cases hfirst.symm.trans ha
  exact hwellFormed.not_reencodes nofun id hreencodes

end Arrays

end Knxd.Application
