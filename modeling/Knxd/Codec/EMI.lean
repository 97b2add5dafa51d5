import Knxd.Codec.LPDU

/-!
# cEMI and EMI1/EMI2 frames

The same telegram travels in other clothes on other media: as a cEMI message
inside EIBnet/IP packets and towards cEMI devices, and as an EMI1 or EMI2
message towards serial and USB interfaces.  Each form has its own layout, its
own length field and its own limit on the payload.
-/

namespace Knxd.EMI

open Memory BitVec
open LPDU

/-- The first control byte of `L_Data_ToCEMI`.  Only an indication carries the
repeat flag of the frame. -/
def cemiControl (code : Byte) (l1 : LDataPDU) : Byte :=
  (0x10#8 ||| (l1.prio.toBits <<< 2) |||
    (if l1.data.length - 1 ≤ 0x0f then 0x80#8 else 0x00#8)) |||
  (if code = 0x29 then repeatFlag l1.repeated else 0x20#8)

/-- The message that `L_Data_ToCEMI` builds once its assertions have passed. -/
def cemiMessage (code : Byte) (l1 : LDataPDU) : CArray :=
  [code, 0x00, cemiControl code l1, flagsByte l1.hopcount 0#8 l1.addrType,
    highByte l1.source, lowByte l1.source, highByte l1.dest, lowByte l1.dest,
    BitVec.ofNat 8 l1.data.length - 1] ++ l1.data

def lDataToCEMI (code : Byte) (l1 : LDataPDU) : Run CArray := do
  require (1 ≤ l1.data.length)
  require (l1.data.length < 0xff)
  require (l1.hopcount &&& 0xf8 = 0)
  pure (cemiMessage code l1)

/-- `CEMI_to_L_Data`; `none` is the null pointer. -/
def cemiToLData (data : CArray) : Run (Option LDataPDU) :=
  if data.length < 2 then pure none else do
    let addInfoLength ← readAt data 1
    let start := addInfoLength.toNat + 2
    if data.length < 7 + start then pure none else
      let len ← readAt data (6 + start)
      if data.length < 7 + start + len.toNat + 1 then pure none else
        let sourceHigh ← readAt data (start + 2)
        let sourceLow ← readAt data (start + 3)
        let destHigh ← readAt data (start + 4)
        let destLow ← readAt data (start + 5)
        let payload ← readPart data (start + 7) (len.toNat + 1)
        let code ← readAt data 0
        let control ← readAt data start
        let flags ← readAt data (start + 1)
        if control &&& 0x80 = 0 ∧ flags &&& 0x0f ≠ 0 then pure none else
          pure (some
            { prio := priorityOfControl control
              repeated := if code = 0x29 then repeatedOfControl control else false
              addrType := addrTypeOfFlags flags
              source := joinBytes sourceHigh sourceLow
              dest := joinBytes destHigh destLow
              hopcount := hopcountOfFlags flags, data := payload })

/-- `CEMI_to_Busmonitor`, with the frame from the bus as its bytes; `none` is the null pointer. -/
def cemiToBusmonitor (data : CArray) : Run (Option CArray) :=
  if data.length < 2 then pure none else do
    let addInfoLength ← readAt data 1
    let start := addInfoLength.toNat + 2
    if data.length < 1 + start then pure none else
      let pdu ← readPart data start (data.length - start)
      pure (some pdu)

/-- `L_Data_ToEMI`.  The source address is left for the device to fill in. -/
def lDataToEMI (code : Byte) (l1 : LDataPDU) : CArray :=
  [code, l1.prio.toBits <<< 2, 0, 0, highByte l1.dest, lowByte l1.dest,
    flagsByte l1.hopcount (BitVec.ofNat 8 l1.data.length - 1) l1.addrType] ++ l1.data

/-- `EMI_to_L_Data`; `none` is the null pointer. -/
def emiToLData (data : CArray) : Run (Option LDataPDU) :=
  if data.length < 8 then pure none else do
    let sourceHigh ← readAt data 2
    let sourceLow ← readAt data 3
    let destHigh ← readAt data 4
    let destLow ← readAt data 5
    let control ← readAt data 1
    let flags ← readAt data 6
    let announced := (flags &&& 0x0f).toNat + 1
    let len := if announced > data.length - 7 then data.length - 7 else announced
    let payload ← readPart data 7 len
    pure (some
      { prio := priorityOfControl control, addrType := addrTypeOfFlags flags
        source := joinBytes sourceHigh sourceLow
        dest := joinBytes destHigh destLow
        hopcount := hopcountOfFlags flags, data := payload })

/-- A message is decoded if something follows its additional information. -/
theorem cemiToBusmonitor_eq (data : CArray) : cemiToBusmonitor data = .ok
      (if data.length < 2 ∨ data.length < (byteAt data 1).toNat + 3 then none
      else some (data.drop ((byteAt data 1).toNat + 2))) := by
  unfold cemiToBusmonitor
  by_cases hshort : data.length < 2
  · rw [if_pos hshort, if_pos (.inl hshort), pure_eq_ok]
  rw [if_neg hshort, readAt_of_lt (by omega), ok_bind]
  dsimp only
  by_cases hnothing : data.length < 1 + ((byteAt data 1).toNat + 2)
  · rw [if_pos hnothing, if_pos (.inr (by omega)), pure_eq_ok]
  · rw [if_neg hnothing, readPart_of_le (by omega), ok_bind, pure_eq_ok, if_neg (by omega),
      List.take_of_length_le (by rw [List.length_drop])]

section RoundTrip

variable {l : LDataPDU}

private theorem cemiControl_bits (prio : EIBPriority)
    (standard indication repeated : Bool) :
    (0x10#8 ||| (prio.toBits <<< 2) ||| (if standard then 0x80#8 else 0x00#8)) |||
        (if indication then repeatFlag repeated else 0x20#8) =
      controlByte standard prio (indication && repeated) := by
  cases prio <;> cases standard <;> cases indication <;> cases repeated <;> decide

theorem cemiControl_eq_controlByte (code : Byte) (l : LDataPDU) : cemiControl code l =
      controlByte (decide (l.data.length - 1 ≤ 0x0f)) l.prio
        (decide (code = 0x29) && l.repeated) := by
  rw [← cemiControl_bits]
  simp [cemiControl]

theorem lDataToCEMI_of_bounds (code : Byte) (hpos : 1 ≤ l.data.length)
    (hmax : l.data.length < 255) (hhop : l.hopcount.toNat < 8) :
    lDataToCEMI code l = .ok (cemiMessage code l) := by
  rw [lDataToCEMI, require_of hpos, ok_bind, require_of hmax, ok_bind,
    require_of ((hopcount_mask_iff _).mpr hhop), ok_bind, pure_eq_ok]

/-- The encoder returns only for a frame that meets its assertions. -/
theorem of_lDataToCEMI_eq_ok {code : Byte} {cemi : CArray} (h : lDataToCEMI code l = .ok cemi) :
    cemi = cemiMessage code l ∧ 1 ≤ l.data.length ∧ l.data.length < 255 ∧ l.hopcount.toNat < 8 := by
  have hreturns : Returns (lDataToCEMI code l) := ⟨cemi, h⟩
  simp only [lDataToCEMI, returns_require_bind_iff] at hreturns
  obtain ⟨hpos, hmax, hmask, -⟩ := hreturns
  have hhop := (hopcount_mask_iff _).mp hmask
  rw [lDataToCEMI_of_bounds code hpos hmax hhop] at h
  exact ⟨(Except.ok.inj h).symm, hpos, hmax, hhop⟩

/-- A cEMI message keeps every field but the priority; the repeat flag travels
in indications only. -/
theorem cemiToLData_cemiMessage (code : Byte) (hpos : 1 ≤ l.data.length)
    (hmax : l.data.length ≤ 256) (hhop : l.hopcount.toNat < 8) :
    cemiToLData (cemiMessage code l) = .ok (some { l.decodedForm with
        repeated := decide (code = 0x29) && l.repeated }) := by
  obtain ⟨-, hformat, hrepeated, hprio⟩ :=
    controlByte_spec (decide (l.data.length - 1 ≤ 0x0f)) l.prio (decide (code = 0x29) && l.repeated)
  obtain ⟨hhops, hnibble, htype⟩ := flagsByte_spec hhop (show 0 < 16 by omega) l.addrType
  rw [← cemiControl_eq_controlByte] at hformat hrepeated hprio
  have hoctet : (BitVec.ofNat 8 l.data.length - 1 : Byte).toNat + 1 = l.data.length := by
    rw [lengthOctet hpos, toNat_ofNat]
    omega
  have hsize : (cemiMessage code l).length = l.data.length + 9 := by
    simp [cemiMessage]
  have hpart : readPart (cemiMessage code l) 9 l.data.length = .ok l.data := by
    simpa [cemiMessage] using readPart_append_left l.data []
  rw [cemiToLData, if_neg (by omega)]
  have hhead : cemiMessage code l = code :: 0x00#8 :: cemiControl code l ::
      flagsByte l.hopcount 0#8 l.addrType :: highByte l.source :: lowByte l.source ::
      highByte l.dest :: lowByte l.dest :: (BitVec.ofNat 8 l.data.length - 1) :: l.data := rfl
  rw [hhead] at hsize hpart ⊢
  simp only [readAt_cons_succ, readAt_cons_zero, ok_bind, toNat_ofNat, Nat.zero_mod,
    Nat.zero_add, Nat.reduceAdd, Nat.reducePow]
  have hlow : flagsByte l.hopcount 0#8 l.addrType &&& 0x0f = 0 := eq_of_toNat_eq hnibble
  rw [if_neg (by omega), if_neg (by omega), hoctet, hpart, ok_bind,
    if_neg (fun hbad => hbad.2 hlow), hprio, hrepeated, hhops, htype]
  by_cases hcode : code = 0x29 <;> simp [hcode, joinBytes_highByte_lowByte, LDataPDU.decodedForm]

theorem priorityOfControl_shift (prio : EIBPriority) :
    priorityOfControl (prio.toBits <<< 2) = prio.decoded := by
  cases prio <;> decide

/-- EMI1/EMI2 keeps the destination, the hop count and up to 16 payload bytes,
and drops the source and the repeat flag. -/
theorem emiToLData_lDataToEMI (code : Byte) (hpos : 1 ≤ l.data.length)
    (hmax : l.data.length ≤ 16) (hhop : l.hopcount.toNat < 8) :
    emiToLData (lDataToEMI code l) =
      .ok (some { l.decodedForm with source := 0, repeated := false }) := by
  obtain ⟨hhops, hlength, htype⟩ :=
    flagsByte_spec hhop (show l.data.length - 1 < 16 by omega) l.addrType
  rw [← lengthOctet hpos] at hhops hlength htype
  have hsize : (lDataToEMI code l).length = l.data.length + 7 := by
    simp [lDataToEMI]
  have hpart : readPart (lDataToEMI code l) 7 l.data.length = .ok l.data := by
    simpa [lDataToEMI] using readPart_append_left l.data []
  have hannounced : l.data.length - 1 + 1 = l.data.length := by omega
  rw [emiToLData, if_neg (by omega)]
  have hhead : lDataToEMI code l = code :: (l.prio.toBits <<< 2) :: 0 :: 0 ::
      highByte l.dest :: lowByte l.dest ::
      flagsByte l.hopcount (BitVec.ofNat 8 l.data.length - 1) l.addrType ::
      l.data := rfl
  rw [hhead] at hsize hpart ⊢
  simp only [readAt_cons_succ, readAt_cons_zero, ok_bind]
  rw [hlength, hannounced, if_neg (by omega), hpart, ok_bind, hhops, htype,
    priorityOfControl_shift, joinBytes_highByte_lowByte, show joinBytes 0 0 = 0 by decide]
  rfl

end RoundTrip

/-- One frame, three media.  The bus frame and the cEMI indication of a frame
decode to the same `L_Data_PDU`, and its EMI1/EMI2 form agrees with them on all
that EMI transmits. -/
theorem codecs_interchangeable (l : LDataPDU) (code : Byte)
    (hpos : 1 ≤ l.data.length) (hmax : l.data.length ≤ 254) (hhop : l.hopcount.toNat < 8) :
    ∃ packet message decoded, l.toPacket = .ok packet ∧ init packet = .ok (some decoded) ∧
      lDataToCEMI 0x29 l = .ok message ∧ cemiToLData message = .ok (some decoded) ∧
      (l.data.length ≤ 16 → ∃ emi, emiToLData (lDataToEMI code l) = .ok (some emi) ∧
        emi.dest = decoded.dest ∧ emi.addrType = decoded.addrType ∧
        emi.hopcount = decoded.hopcount ∧ emi.prio = decoded.prio ∧ emi.data = decoded.data) := by
  refine ⟨_, _, l.decodedForm, toPacket_of_bounds hpos (by omega) hhop,
    init_frameBody hpos (by omega) hhop, lDataToCEMI_of_bounds 0x29 hpos (by omega) hhop,
    ?_, ?_⟩
  · rw [cemiToLData_cemiMessage 0x29 hpos (by omega) hhop]
    simp [LDataPDU.decodedForm]
  · intro hshort
    exact ⟨_, emiToLData_lDataToEMI code hpos hshort hhop, rfl, rfl, rfl, rfl, rfl⟩

theorem codecs_interchangeable_urgent : ∃ packet message decoded,
      (LDataPDU.toPacket { prio := .urgent, repeated := true, data := [0x00, 0x80] }) =
        .ok packet ∧ init packet = .ok (some decoded) ∧
      lDataToCEMI 0x29 { prio := .urgent, repeated := true, data := [0x00, 0x80] } =
        .ok message ∧ cemiToLData message = .ok (some decoded) := by
  obtain ⟨packet, message, decoded, hpacket, hinit, hmessage, hcemi, -⟩ :=
    codecs_interchangeable { prio := .urgent, repeated := true, data := [0x00, 0x80] } 0x11
      (by decide) (by decide) (by decide)
  exact ⟨packet, message, decoded, hpacket, hinit, hmessage, hcemi⟩

end Knxd.EMI
