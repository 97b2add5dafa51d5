import Knxd.Codec.EMI

/-!
# What the decoders let in

The router, the bus monitors and the IP links pass received frames to
`L_Data_PDU::ToPacket`, `L_Data_PDU::Decode` and `L_Data_ToCEMI` without looking
at them again.  This file relates what each decoder accepts, over arbitrary
bytes, to the assertions of these encoders.  The decoders never read outside
their input; the bus-frame and the cEMI decoder let payloads of 255 and 256
bytes through, which the encoders refuse.
-/

namespace Knxd.Acceptance

open Memory List
open LPDU
open EMI

inductive Decoder
  | busFrame
  | cemi
  | emi
  deriving DecidableEq, Repr

def Decoder.decode : Decoder → CArray → Run (Option LDataPDU)
  | .busFrame => init
  | .cemi => cemiToLData
  | .emi => emiToLData

open Decoder (decode)

structure Encodable (l : LDataPDU) : Prop where
  toPacket : Returns l.toPacket
  decode : ∀ tpduText, Returns (l.decode tpduText)
  toCEMI : ∀ code, Returns (lDataToCEMI code l)

theorem encodable_iff (l : LDataPDU) : Encodable l ↔
      1 ≤ l.data.length ∧ l.data.length ≤ 254 ∧ l.hopcount.toNat < 8 := by
  constructor
  · intro hencodable
    have hcemi := hencodable.toCEMI 0x29
    simp only [lDataToCEMI, returns_require_bind_iff, hopcount_mask_iff] at hcemi
    obtain ⟨hpos, hmax, hhop, -⟩ := hcemi
    exact ⟨hpos, by omega, hhop⟩
  · rintro ⟨hpos, hmax, hhop⟩
    refine ⟨?_, ?_, ?_⟩
    · simp only [LDataPDU.toPacket, returns_require_bind_iff, hopcount_mask_iff]
      exact ⟨hpos, by omega, hhop, _, rfl⟩
    · intro tpduText
      simp only [LDataPDU.decode, returns_require_bind_iff, hopcount_mask_iff]
      exact ⟨hpos, by omega, hhop, _, rfl⟩
    · intro code
      simp only [lDataToCEMI, returns_require_bind_iff, hopcount_mask_iff]
      exact ⟨hpos, by omega, hhop, _, rfl⟩

/-- Receiving `bytes` is safe: all reads are inside, and what is accepted can
be encoded again. -/
def SafelyReceived (decoder : Decoder) (bytes : CArray) : Prop :=
  Returns (decoder.decode bytes) ∧ ∀ l, decoder.decode bytes = .ok (some l) → Encodable l

def overlongBusFrame (c : CArray) : Prop :=
  byteAt c 0 &&& 0x53 = 0x10 ∧ byteAt c 0 &&& 0x80 = 0 ∧ byteAt c 1 &&& 0x0f = 0 ∧
    c.length = (byteAt c 6).toNat + 9 ∧ 254 ≤ (byteAt c 6).toNat

/-- A complete cEMI message whose length octet is 254 or 255 and whose format
bits are consistent. -/
def overlongCEMI (data : CArray) : Prop :=
  let start := (byteAt data 1).toNat + 2
  7 + start + (byteAt data (6 + start)).toNat + 1 ≤ data.length ∧
    254 ≤ (byteAt data (6 + start)).toNat ∧
    (byteAt data start &&& 0x80 ≠ 0 ∨ byteAt data (start + 1) &&& 0x0f = 0)

/-- The inputs on which a decoder accepts more than the encoders take. -/
def Decoder.Overlong : Decoder → CArray → Prop
  | .busFrame, bytes => overlongBusFrame bytes
  | .cemi, bytes => overlongCEMI bytes
  | .emi, _ => False

/-- Everything a decoder can do on `bytes`: reject them, or accept a frame
whose payload is too long for the encoders only if the input is overlong. -/
def Decides (decoder : Decoder) (bytes : CArray) : Prop :=
  decoder.decode bytes = .ok none ∧ ¬ decoder.Overlong bytes ∨
    ∃ l, decoder.decode bytes = .ok (some l) ∧ l.hopcount.toNat < 8 ∧
      1 ≤ l.data.length ∧ (254 < l.data.length ↔ decoder.Overlong bytes)

theorem safelyReceived_iff_of_decides {decoder : Decoder} {bytes : CArray}
    (hdecides : Decides decoder bytes) :
    SafelyReceived decoder bytes ↔ ¬ decoder.Overlong bytes := by
  rcases hdecides with ⟨hreject, hshort⟩ | ⟨l, haccept, hhop, hpos, hlong⟩
  · simp [SafelyReceived, hreject, hshort]
  · simp only [SafelyReceived, haccept, returns_ok, true_and, Except.ok.injEq,
      Option.some.injEq, forall_eq', encodable_iff, ← hlong]
    constructor
    · rintro ⟨-, hmax, -⟩
      omega
    · intro hmax
      exact ⟨hpos, by omega, hhop⟩

theorem verifyChecksum_of_pos {c : CArray} (hpos : 1 ≤ c.length) (l : LDataPDU) :
    ∃ valid, verifyChecksum c l = .ok (some { l with validChecksum := valid }) := by
  rw [verifyChecksum, readAt_of_lt (by omega)]
  exact ⟨_, rfl⟩

theorem init_standard_decides {c : CArray} (hsize : 6 ≤ c.length)
    (hformat : byteAt c 0 &&& 0x80 ≠ 0) (hinit : init c = initStandard c (byteAt c 0)) :
    Decides .busFrame c := by
  have hnot : ¬ overlongBusFrame c := fun hover => hformat hover.2.1
  have hnibble : ((byteAt c 5) &&& 0x0f).toNat < 16 := by
    have hall : ∀ byte : Byte, (byte &&& 0x0f).toNat < 16 := by decide
    exact hall _
  unfold Decides
  simp only [decode, Decoder.Overlong, hinit, hnot, not_false_eq_true, and_true, iff_false, not_lt]
  rw [initStandard]
  simp (disch := omega) only [readAt_of_lt, ok_bind]
  by_cases hlength : (byteAt c 5 &&& 0x0f).toNat + 1 + 7 = c.length
  · rw [if_neg (not_not.mpr hlength), readPart_of_le (by omega), ok_bind]
    obtain ⟨_, hvalid⟩ := verifyChecksum_of_pos (c := c) (by omega) _
    refine Or.inr ⟨_, hvalid, hopcountOfFlags_lt _, ?_, ?_⟩
    · simp only [length_take, length_drop]
      omega
    · simp only [length_take, length_drop]
      omega
  · rw [if_pos hlength]
    exact Or.inl rfl

theorem init_extended_decides {c : CArray} (hsize : 6 ≤ c.length)
    (hkind : byteAt c 0 &&& 0x53 = 0x10) (hformat : byteAt c 0 &&& 0x80 = 0)
    (hinit : init c = initExtended c (byteAt c 0)) : Decides .busFrame c := by
  have hover : overlongBusFrame c ↔ byteAt c 1 &&& 0x0f = 0 ∧
      c.length = (byteAt c 6).toNat + 9 ∧ 254 ≤ (byteAt c 6).toNat := by
    constructor
    · rintro ⟨-, -, hlong⟩
      exact hlong
    · intro hlong
      exact ⟨hkind, hformat, hlong⟩
  unfold Decides
  simp only [decode, Decoder.Overlong, hinit, hover]
  rw [initExtended, readAt_of_lt (by omega), ok_bind]
  by_cases hnibble : byteAt c 1 &&& 0x0f = 0
  swap
  · rw [if_pos hnibble]
    exact Or.inl ⟨rfl, fun hbad => hnibble hbad.1⟩
  rw [if_neg (not_not.mpr hnibble)]
  by_cases hseven : c.length < 7
  · rw [if_pos hseven]
    exact Or.inl ⟨rfl, by omega⟩
  rw [if_neg hseven]
  simp (disch := omega) only [readAt_of_lt, ok_bind]
  by_cases hlength : (byteAt c 6).toNat + 1 + 8 = c.length
  · rw [if_neg (not_not.mpr hlength), readPart_of_le (by omega), ok_bind]
    obtain ⟨valid, hvalid⟩ := verifyChecksum_of_pos (c := c) (by omega) _
    refine Or.inr ⟨_, hvalid, hopcountOfFlags_lt _, ?_, ?_⟩
    · simp only [length_take, length_drop]
      omega
    · simp only [length_take, length_drop, hnibble, true_and]
      omega
  rw [if_pos hlength]
  by_cases hpartial : c.length = 23
  · rw [if_pos hpartial, readPart_of_le (by omega), ok_bind]
    obtain ⟨valid, hvalid⟩ := verifyChecksum_of_pos (c := c) (by omega) _
    refine Or.inr ⟨_, hvalid, hopcountOfFlags_lt _, ?_, ?_⟩
    · simp only [length_take, length_drop]
      omega
    · simp only [length_take, length_drop, hnibble, true_and]
      omega
  · rw [if_neg hpartial]
    exact Or.inl ⟨rfl, by omega⟩

theorem init_decides (c : CArray) : Decides .busFrame c := by
  by_cases hsize : c.length < 6
  · refine Or.inl ⟨?_, ?_⟩
    · rw [decode, init, if_pos hsize, pure_eq_ok]
    · rintro ⟨-, -, -, _, -⟩
      omega
  have hread : init c =
      if byteAt c 0 &&& 0x53 ≠ 0x10 then pure none else
      if byteAt c 0 &&& 0x80 ≠ 0 then initStandard c (byteAt c 0)
      else initExtended c (byteAt c 0) := by
    rw [init, if_neg hsize, readAt_of_lt (by omega), ok_bind]
  by_cases hkind : byteAt c 0 &&& 0x53 = 0x10
  swap
  · refine Or.inl ⟨?_, fun hover => hkind hover.1⟩
    rw [decode, hread, if_pos hkind, pure_eq_ok]
  by_cases hformat : byteAt c 0 &&& 0x80 = 0
  · refine init_extended_decides (by omega) hkind hformat ?_
    rw [hread, if_neg (not_not.mpr hkind), if_neg (not_not.mpr hformat)]
  · refine init_standard_decides (by omega) hformat ?_
    rw [hread, if_neg (not_not.mpr hkind), if_pos hformat]

theorem cemiToLData_decides (data : CArray) : Decides .cemi data := by
  unfold Decides
  simp only [decode, Decoder.Overlong, overlongCEMI, cemiToLData]
  by_cases htwo : data.length < 2
  · rw [if_pos htwo]
    exact Or.inl ⟨rfl, by omega⟩
  rw [if_neg htwo, readAt_of_lt (by omega), ok_bind]
  generalize (byteAt data 1).toNat + 2 = start
  by_cases hstart : data.length < 7 + start
  · rw [if_pos hstart]
    exact Or.inl ⟨rfl, by omega⟩
  rw [if_neg hstart, readAt_of_lt (by omega), ok_bind]
  by_cases hlength : data.length < 7 + start + (byteAt data (6 + start)).toNat + 1
  · rw [if_pos hlength]
    exact Or.inl ⟨rfl, by omega⟩
  rw [if_neg hlength]
  simp (disch := omega) only [readAt_of_lt, readPart_of_le, ok_bind]
  by_cases hformat : byteAt data start &&& 0x80 = 0 ∧ byteAt data (start + 1) &&& 0x0f ≠ 0
  · rw [if_pos hformat]
    refine Or.inl ⟨rfl, ?_⟩
    rintro ⟨-, -, hstandard | hnibble⟩
    · exact hstandard hformat.1
    · exact hformat.2 hnibble
  · rw [if_neg hformat]
    have hconsistent : byteAt data start &&& 0x80 ≠ 0 ∨ byteAt data (start + 1) &&& 0x0f = 0 := by
      by_contra hbad
      push Not at hbad
      exact hformat hbad
    refine Or.inr ⟨_, rfl, hopcountOfFlags_lt _, ?_, ?_⟩
    · simp only [length_take, length_drop]
      omega
    · simp only [length_take, length_drop, hconsistent, and_true]
      omega

theorem emiToLData_decides (data : CArray) : Decides .emi data := by
  unfold Decides
  simp only [decode, Decoder.Overlong, emiToLData]
  by_cases height : data.length < 8
  · rw [if_pos height]
    exact Or.inl ⟨rfl, not_false⟩
  rw [if_neg height]
  simp (disch := omega) only [readAt_of_lt, ok_bind]
  have hnibble : (byteAt data 6 &&& 0x0f).toNat < 16 := by
    have hall : ∀ byte : Byte, (byte &&& 0x0f).toNat < 16 := by decide
    exact hall _
  generalize (byteAt data 6 &&& 0x0f).toNat = nibble at hnibble ⊢
  have hcut : (if nibble + 1 > data.length - 7 then data.length - 7 else nibble + 1) ≤
      data.length - 7 := by
    split <;> omega
  have hpos : 1 ≤ if nibble + 1 > data.length - 7 then data.length - 7 else nibble + 1 := by
    split <;> omega
  have hmax : (if nibble + 1 > data.length - 7 then data.length - 7 else nibble + 1) ≤ 16 := by
    split <;> omega
  generalize (if nibble + 1 > data.length - 7 then data.length - 7 else nibble + 1) = len
    at hcut hpos hmax ⊢
  rw [readPart_of_le (by omega), ok_bind]
  refine Or.inr ⟨_, rfl, hopcountOfFlags_lt _, ?_, ?_⟩
  · simp only [length_take, length_drop]
    omega
  · simp only [length_take, length_drop, iff_false]
    omega

theorem decoder_decides (decoder : Decoder) (bytes : CArray) : Decides decoder bytes := by
  cases decoder
  · exact init_decides bytes
  · exact cemiToLData_decides bytes
  · exact emiToLData_decides bytes

/-- Whatever arrives, no decoder reads outside it; and what a decoder accepts
passes every assertion of the encoders exactly when the input does not announce
a payload of 255 or 256 bytes. -/
theorem safelyReceived_iff (decoder : Decoder) (bytes : CArray) :
    SafelyReceived decoder bytes ↔ ¬ decoder.Overlong bytes :=
  safelyReceived_iff_of_decides (decoder_decides decoder bytes)

/-- An extended bus frame with 256 payload bytes, as `in_check` of a TPUART passes it on. -/
def overlongFrame : CArray :=
  [0x3c, 0xe0, 0x11, 0x01, 0x09, 0x01, 0xff] ++ List.replicate 256 0x00 ++ [0xc4]

/-- The frame is accepted and then trips an encoder assertion. -/
theorem safelyReceived_fails_overlong :
    ¬ ∀ (decoder : Decoder) (bytes : CArray), SafelyReceived decoder bytes := by
  intro hall
  have hsafe := hall .busFrame overlongFrame
  rw [safelyReceived_iff_of_decides (init_decides _)] at hsafe
  refine hsafe ⟨by decide, by decide, by decide, ?_, by decide⟩
  rw [overlongFrame, length_append, length_append, length_replicate]
  rfl

end Knxd.Acceptance
