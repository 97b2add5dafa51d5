import Knxd.LowLevel.EMIDriver

/-!
# The USB converter

`USBConverterInterface` lies between an EMI driver and the device.  It puts each message into a
report of sixty-four bytes and takes it out again.  The sender cuts a message at fifty-three bytes,
the receiver refuses a report for more than forty-eight, and the cEMI driver sends up to fifty-nine.
-/

namespace Knxd.USB

open Memory LPDU LowLevel List
open LowLevel.Driver (lData2EMI maxPacketLen)

inductive EMIVer
  | error
  | emi1
  | emi2
  | cemi
  | raw
  | unknown
  | discovery
  | timeout
  deriving DecidableEq, Repr

/-- The version of a driver above; `make_EMI` makes the driver for the version. -/
def version : Kind → EMIVer
  | .emi1 => .emi1
  | .emi2 => .emi2
  | .cemi => .cemi

def EMIVer.code : EMIVer → Option Byte
  | .emi1 => some 1
  | .emi2 => some 2
  | .cemi => some 3
  | _ => none

def report (code : Byte) (l : CArray) : CArray :=
  let l1 := if l.length + 11 > 64 then 64 - 11 else l.length
  [0x01, 0x13, BitVec.ofNat 8 (l1 + 8), 0x00, 0x08, 0x00, BitVec.ofNat 8 l1, 0x01, code, 0, 0] ++
    l.take l1 ++ List.replicate (53 - l1) 0

/-- `send_Data`: what the driver below gets. -/
def sendData (version : EMIVer) (l : CArray) : Option CArray :=
  if version = .raw then some l else version.code.map fun code => report code l

/-- `recv_Data`: what the layer above gets.  Sixty-four bytes cover every read. -/
def recvData (version : EMIVer) (res : CArray) : Option CArray :=
  if version = .raw then some res
  else if res.length ≠ 64 ∨ byteAt res 0 ≠ 0x01 ∨ byteAt res 1 &&& 0x0f ≠ 3 ∨
      (byteAt res 2).toNat > 64 - 8 ∨ byteAt res 3 ≠ 0 ∨ byteAt res 4 ≠ 8 ∨ byteAt res 5 ≠ 0 ∨
      (byteAt res 6).toNat + 11 > 64 ∨ byteAt res 7 ≠ 1 ∨ version.code ≠ some (byteAt res 8) then
    none
  else some ((res.drop 11).take (byteAt res 6).toNat)

section Lossless

variable {version : EMIVer} {code : Byte} {l : CArray}

/-- The receiver has two checks for one length. -/
theorem recvData_of_size (hcode : version.code = some code) {size : ℕ} (hsize : size ≤ 53)
    {rest : CArray} (hrest : rest.length = 53) :
    recvData version ([0x01, 0x13, BitVec.ofNat 8 (size + 8), 0x00, 0x08, 0x00, BitVec.ofNat 8 size,
      0x01, code, 0, 0] ++ rest) = if size ≤ 48 then some (rest.take size) else none := by
  have hraw : version ≠ .raw := by
    rintro rfl
    cases hcode
  have hfirst : (BitVec.ofNat 8 (size + 8)).toNat = size + 8 := Nat.mod_eq_of_lt (by omega)
  have hsecond : (BitVec.ofNat 8 size).toNat = size := Nat.mod_eq_of_lt (by omega)
  rw [recvData, if_neg hraw]
  by_cases hfits : size ≤ 48
  · rw [if_pos hfits, if_neg (by simp [byteAt, hrest, hfirst, hsecond, hcode]; omega)]
    simp [byteAt, hsecond]
  · rw [if_neg hfits, if_pos (by simp [byteAt, hfirst]; omega)]

/-- What arrives of a message, and what the report has of it. -/
theorem recvData_report (hcode : version.code = some code) :
    (recvData version (report code l) = some l ↔ l.length ≤ 48) ∧
      (l <+: (report code l).drop 11 ↔ l.length ≤ 53) := by
  unfold report
  by_cases hlength : l.length ≤ 53
  · rw [if_neg (by omega), append_assoc, take_length]
    refine ⟨?_, iff_of_true (prefix_append l _) hlength⟩
    rw [recvData_of_size hcode hlength (by simp; omega), take_left]
    split <;> simp [*]
  · rw [if_pos (by omega), append_assoc]
    refine ⟨?_, iff_of_false (fun hprefix => ?_) hlength⟩
    · rw [recvData_of_size hcode (by omega) (by simp; omega)]
      simp
      omega
    · have hle := hprefix.length_le
      simp at hle
      omega

end Lossless

/-- What the EMI driver passes down arrives unless it is longer than forty-eight bytes, which is so
for the longest frames of cEMI; the report has the first fifty-three bytes. -/
theorem usb_lossless_iff {kind : Kind} {l : LDataPDU} {pdu : CArray}
    (hmax : l.data.length ≤ maxPacketLen kind) (hpdu : lData2EMI kind 0x11 l = .ok pdu) :
    ∃ sent, sendData (version kind) pdu = some sent ∧ sent.length = 64 ∧
      (recvData (version kind) sent = some pdu ↔ (kind = .cemi → l.data.length ≤ 39)) ∧
      (pdu <+: sent.drop 11 ↔ (kind = .cemi → l.data.length ≤ 44)) := by
  have hlength : pdu.length = l.data.length + if kind = .cemi then 9 else 7 := by
    cases kind with
    | emi1 | emi2 =>
      cases hpdu
      rfl
    | cemi =>
      rw [(EMI.of_lDataToCEMI_eq_ok hpdu).1]
      rfl
  obtain ⟨code, hcode⟩ : ∃ code, (version kind).code = some code := by
    cases kind <;> exact ⟨_, rfl⟩
  have hraw : version kind ≠ .raw := by cases kind <;> decide
  obtain ⟨hreceived, hcarried⟩ := recvData_report (l := pdu) hcode
  refine ⟨report code pdu, ?_, ?_, hreceived.trans ?_, hcarried.trans ?_⟩
  · rw [sendData, if_neg hraw, hcode, Option.map_some]
  · unfold report
    split <;> simp <;> omega
  all_goals
    rw [hlength]
    cases kind <;> simp [maxPacketLen] at hmax ⊢ <;> omega

theorem usb_lossless_telegram : ∃ pdu, lData2EMI .cemi 0x11 { data := [0x00, 0x81] } = .ok pdu ∧
    ∃ sent, sendData .cemi pdu = some sent ∧ sent.length = 64 ∧
      (recvData .cemi sent = some pdu ↔ (Kind.cemi = .cemi → 2 ≤ 39)) ∧
      (pdu <+: sent.drop 11 ↔ (Kind.cemi = .cemi → 2 ≤ 44)) :=
  ⟨_, rfl, @usb_lossless_iff .cemi { data := [0x00, 0x81] } _ (by decide) rfl⟩

/-- Fifty bytes are allowed, and the report ends six bytes before the message. -/
theorem cemi_frame_cut : ∃ pdu sent,
    lData2EMI .cemi 0x11 { data := List.replicate 50 0x81 } = .ok pdu ∧ 50 ≤ maxPacketLen .cemi ∧
    sendData .cemi pdu = some sent ∧ pdu.length = 59 ∧
    sent.drop 11 = pdu.take 53 ∧ recvData .cemi sent = none := by
  refine ⟨_, _, rfl, by decide, rfl, rfl, ?_⟩
  decide +kernel

end Knxd.USB
