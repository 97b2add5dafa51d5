import Knxd.Codec.Reencoding

/-!
# Transport-layer messages

The first byte of a telegram's payload tells what it is to the transport layer: data
without a connection, numbered data on a connection, or one of the control messages
that open, acknowledge and close one.  The six high bits of that byte belong to the
transport layer, the two low ones already to the application message behind it.
-/

namespace Knxd.Transport

open Memory LPDU Application
open BitVec (ofNat)

inductive TPDU
  | unknown (pdu : CArray)
  | dataXXXReq (data : CArray)
  | dataConnectedReq (serno : Byte) (data : CArray)
  | connectReq
  | disconnectReq
  | ack (serno : Byte)
  | nack (serno : Byte)
  deriving DecidableEq, Repr

open TPDU

/-- `init` of the classes of one byte. -/
def initControl (t : TPDU) (c : CArray) : Option TPDU :=
  if c.length ≠ 1 then none else some t

/-- `init` of the classes with data, which keep the transport bits in it. -/
def initData (make : CArray → TPDU) (c : CArray) : Option TPDU :=
  if c.length < 1 then none else some (make c)

def sernoOf (c0 : Byte) : Byte :=
  (c0 >>> 2) &&& 0x0f

/-- The class chosen by the first byte, and its `init`. -/
def initFirst (c0 : Byte) (c : CArray) : Option TPDU :=
  if c0 &&& 0xfc = 0 then initData .dataXXXReq c
  else if c0 = 0x80 then initControl .connectReq c
  else if c0 = 0x81 then initControl .disconnectReq c
  else if c0 &&& 0xC3 = 0xC2 then initControl (.ack (sernoOf c0)) c
  else if c0 &&& 0xC3 = 0xC3 then initControl (.nack (sernoOf c0)) c
  else if c0 &&& 0xC0 = 0x40 then initData (.dataConnectedReq (sernoOf c0)) c
  else none

def fromPacket (c : CArray) : Run TPDU :=
  if 1 ≤ c.length then do
    let c0 ← readAt c 0
    pure ((initFirst c0 c).getD (.unknown c))
  else pure (.unknown c)

/-- `ToPacket` of each class. -/
def TPDU.toPacket : TPDU → Run CArray
  | unknown pdu => pure pdu
  | dataXXXReq data => do
      require (0 < data.length)
      let first ← readAt data 0
      pure (data.set 0 (first &&& 0x3))
  | dataConnectedReq serno data => do
      require (0 < data.length)
      require (serno &&& 0xf0 = 0)
      let first ← readAt data 0
      pure (data.set 0 ((first &&& 0x3) ||| 0x40 ||| ((serno &&& 0x0f) <<< 2)))
  | connectReq => pure [0x80]
  | disconnectReq => pure [0x81]
  | ack serno => do
      require (serno &&& 0xf0 = 0)
      pure [0xC2 ||| ((serno &&& 0x0f) <<< 2)]
  | nack serno => do
      require (serno &&& 0xf0 = 0)
      pure [0xC3 ||| ((serno &&& 0x0f) <<< 2)]

/-- `Decode` of each class. -/
def TPDU.decode : TPDU → Run String
  | unknown pdu =>
    if pdu.length = 0 then pure "empty TPDU"
    else pure (Application.addAllHex "Unknown TPDU: " pdu)
  | dataXXXReq data => do
      let a ← Application.fromPacket data
      let text ← a.decode
      pure ("T_DATA_XXX_REQ " ++ text)
  | dataConnectedReq serno data => do
      require (serno &&& 0xf0 = 0)
      let a ← Application.fromPacket data
      let text ← a.decode
      pure (addHex "T_DATA_CONNECTED_REQ serno:" serno ++ text)
  | connectReq => pure "T_CONNECT_REQ"
  | disconnectReq => pure "T_DISCONNECT_REQ"
  | ack serno => do
      require (serno &&& 0xf0 = 0)
      pure (addHex "T_ACK Serno:" serno)
  | nack serno => do
      require (serno &&& 0xf0 = 0)
      pure (addHex "T_NACK Serno:" serno)

theorem sernoOf_nibble (c0 : Byte) : sernoOf c0 &&& 0xf0 = 0 := low_nibble _

/-- A serial number that fits and, for data, at least one byte. -/
def TPDU.WellFormed : TPDU → Prop
  | dataXXXReq data => 0 < data.length
  | dataConnectedReq serno data => 0 < data.length ∧ serno &&& 0xf0 = 0
  | ack serno | nack serno => serno &&& 0xf0 = 0
  | _ => True

variable {t : TPDU} {c : CArray} {serno : Byte}

theorem wellFormed_of_initControl {t t' : TPDU} (hinit : initControl t c = some t')
    (ht : t.WellFormed) : t'.WellFormed := by
  unfold initControl at hinit
  split at hinit
  · cases hinit
  · cases hinit
    exact ht

theorem wellFormed_of_initData {make : CArray → TPDU} (hinit : initData make c = some t)
    (hmake : 0 < c.length → (make c).WellFormed) : t.WellFormed := by
  unfold initData at hinit
  split at hinit
  · cases hinit
  · next hlength =>
    cases hinit
    exact hmake (not_lt.1 hlength)

theorem wellFormed_of_initFirst {c0 : Byte} (hinit : initFirst c0 c = some t) : t.WellFormed := by
  unfold initFirst at hinit
  split_ifs at hinit
  · exact wellFormed_of_initData hinit id
  · exact wellFormed_of_initControl hinit trivial
  · exact wellFormed_of_initControl hinit trivial
  · exact wellFormed_of_initControl hinit (sernoOf_nibble c0)
  · exact wellFormed_of_initControl hinit (sernoOf_nibble c0)
  · exact wellFormed_of_initData hinit fun hlength => ⟨hlength, sernoOf_nibble c0⟩

/-- Every byte array is read, into a value whose assertions hold. -/
theorem fromPacket_wellFormed (c : CArray) : ∃ t, fromPacket c = .ok t ∧ t.WellFormed := by
  unfold fromPacket
  split
  · rw [readAt_of_lt (by omega), ok_bind]
    refine ⟨_, rfl, ?_⟩
    cases hinit : initFirst (byteAt c 0) c with
    | none => trivial
    | some => exact wellFormed_of_initFirst hinit
  · exact ⟨_, rfl, trivial⟩

theorem TPDU.WellFormed.returns_decode (ht : t.WellFormed) : Returns t.decode := by
  cases t with
  | unknown =>
    rw [decode]
    split <;> exact returns_ok _
  | dataXXXReq data =>
    obtain ⟨a, ha, hwellFormed⟩ := Application.fromPacket_wellFormed data
    obtain ⟨text, htext⟩ := hwellFormed.returns_decode
    rw [decode, ha, ok_bind, htext, ok_bind]
    exact returns_ok _
  | dataConnectedReq _ data =>
    obtain ⟨a, ha, hwellFormed⟩ := Application.fromPacket_wellFormed data
    obtain ⟨text, htext⟩ := hwellFormed.returns_decode
    rw [decode, require_of ht.2, ok_bind, ha, ok_bind, htext, ok_bind]
    exact returns_ok _
  | connectReq | disconnectReq => exact returns_ok _
  | ack | nack =>
    rw [decode, returns_require_bind_iff]
    exact ⟨ht, returns_ok _⟩

/-- The payload without its transport bits. -/
def masked (data : CArray) : CArray :=
  data.set 0 (byteAt data 0 &&& 0x03)

def dataByte (serno first : Byte) : Byte :=
  (first &&& 0x3) ||| 0x40 ||| ((serno &&& 0x0f) <<< 2)

private theorem dataByte_fin (serno : Fin 16) (low : Fin 4) :
    let byte := dataByte (ofNat 8 serno) (ofNat 8 low)
    byte &&& 0xfc ≠ 0 ∧ byte ≠ 0x80 ∧ byte ≠ 0x81 ∧ byte &&& 0xC3 ≠ 0xC2 ∧ byte &&& 0xC3 ≠ 0xC3 ∧
      byte &&& 0xC0 = 0x40 ∧ sernoOf byte = ofNat 8 serno ∧
      byte &&& 0x03 = ofNat 8 low := by
  revert serno low
  decide

theorem low_bits (first : Byte) : ∃ low : Fin 4, first &&& 0x3 = ofNat 8 low := by
  revert first
  decide

theorem dataByte_spec (hserno : serno &&& 0xf0 = 0) (first : Byte) :
    let byte := dataByte serno first
    byte &&& 0xfc ≠ 0 ∧ byte ≠ 0x80 ∧ byte ≠ 0x81 ∧ byte &&& 0xC3 ≠ 0xC2 ∧ byte &&& 0xC3 ≠ 0xC3 ∧
      byte &&& 0xC0 = 0x40 ∧ sernoOf byte = serno ∧ byte &&& 0x03 = first &&& 0x03 := by
  obtain ⟨low, hlow⟩ := low_bits first
  have hfin := dataByte_fin ⟨serno.toNat, toNat_lt_of_nibble hserno⟩ low
  have hbyte : dataByte serno (ofNat 8 low) = dataByte serno first := by
    rw [dataByte, dataByte, ← hlow, BitVec.and_assoc]
    rfl
  simp only [BitVec.ofNat_toNat, BitVec.setWidth_eq, hbyte] at hfin
  rwa [← hlow] at hfin

/-- Data on a connection is read with its number, and without the transport bits it is
what was written. -/
theorem fromPacket_of_data {data packet : CArray}
    (hpacket : (TPDU.dataConnectedReq serno data).toPacket = .ok packet) :
    fromPacket packet = .ok (.dataConnectedReq serno packet) ∧ masked packet = masked data ∧
      data ≠ [] := by
  rw [toPacket] at hpacket
  cases data with
  | nil => cases hpacket
  | cons first rest =>
    obtain ⟨-, -, hrest⟩ := bind_eq_ok_iff.1 hpacket
    by_cases hserno : serno &&& 0xf0 = 0
    · rw [require_of hserno] at hrest
      cases hrest
      obtain ⟨hxxx, hconnect, hdisconnect, hack, hnack, hdata, hnumber, hlow⟩ :=
        dataByte_spec hserno first
      refine ⟨?_, ?_, by simp⟩
      · change fromPacket (dataByte serno first :: rest) = _
        rw [fromPacket, if_pos (by simp), readAt_cons_zero, ok_bind, initFirst, if_neg hxxx,
          if_neg hconnect, if_neg hdisconnect, if_neg hack, if_neg hnack, if_pos hdata, initData,
          if_neg (by simp), hnumber]
        rfl
      · change (dataByte serno first &&& 0x03) :: rest = (first &&& 0x03) :: rest
        rw [hlow]
    · rw [require_of_not hserno] at hrest
      cases hrest

/-- An acknowledgement is read with its number. -/
theorem fromPacket_of_ack {packet : CArray} (hpacket : (TPDU.ack serno).toPacket = .ok packet) :
    fromPacket packet = .ok (.ack serno) := by
  have hread : ∀ number : Fin 16, fromPacket [0xC2 ||| ((ofNat 8 number &&& 0x0f) <<< 2)] =
      .ok (.ack (ofNat 8 number)) := by
    decide
  by_cases hserno : serno &&& 0xf0 = 0
  · rw [toPacket, require_of hserno] at hpacket
    cases hpacket
    simpa using hread ⟨serno.toNat, toNat_lt_of_nibble hserno⟩
  · rw [toPacket, require_of_not hserno] at hpacket
    cases hpacket

/-- Data on a connection has at least the byte with the transport bits. -/
theorem masked_ne_nil {c data : CArray} (hread : fromPacket c = .ok (.dataConnectedReq serno data))
    : masked data ≠ [] := by
  obtain ⟨t, ht, hwellFormed⟩ := fromPacket_wellFormed c
  cases hread.symm.trans ht
  rw [← List.length_pos_iff_ne_nil, masked, List.length_set]
  exact hwellFormed.1

section Exact

variable {first : Byte} {rest c : CArray} {t : TPDU}

/-- Each class writes the first byte that it was chosen for. -/
theorem first_byte_kept (first : Byte) : (first &&& 0xfc = 0 → first &&& 0x3 = first) ∧
      (first &&& 0xC3 = 0xC2 → 0xC2 ||| ((sernoOf first &&& 0x0f) <<< 2) = first) ∧
      (first &&& 0xC3 = 0xC3 → 0xC3 ||| ((sernoOf first &&& 0x0f) <<< 2) = first) ∧
      (first &&& 0xC0 = 0x40 → dataByte (sernoOf first) first = first) := by
  revert first
  decide

theorem toPacket_of_initControl {control : TPDU} (hinit : initControl control c = some t)
    {byte : Byte} (hpacket : control.toPacket = .ok [byte]) (hbyte : c.head? = some byte) :
    t.toPacket = .ok c := by
  unfold initControl at hinit
  split at hinit
  · cases hinit
  · next hlength =>
    obtain ⟨_, rfl⟩ := List.length_eq_one_iff.1 (not_not.1 hlength)
    cases hinit
    cases hbyte
    exact hpacket

theorem toPacket_of_initFirst (hinit : initFirst first (first :: rest) = some t) :
    t.toPacket = .ok (first :: rest) := by
  obtain ⟨hxxx, hack, hnack, hdata⟩ := first_byte_kept first
  have hserno := sernoOf_nibble first
  unfold initFirst at hinit
  split_ifs at hinit with hkind hconnect hdisconnect hackKind hnackKind hdataKind
  · cases hinit
    rw [toPacket, require_of (by simp), ok_bind, readAt_cons_zero, ok_bind, hxxx hkind]
    rfl
  · exact toPacket_of_initControl hinit rfl (by rw [hconnect]; rfl)
  · exact toPacket_of_initControl hinit rfl (by rw [hdisconnect]; rfl)
  · refine toPacket_of_initControl hinit ?_ rfl
    rw [toPacket, require_of hserno, ok_bind, hack hackKind, pure_eq_ok]
  · refine toPacket_of_initControl hinit ?_ rfl
    rw [toPacket, require_of hserno, ok_bind, hnack hnackKind, pure_eq_ok]
  · cases hinit
    rw [toPacket, require_of (by simp), ok_bind, require_of hserno, ok_bind, readAt_cons_zero,
      ok_bind]
    exact congrArg (fun byte => Except.ok (byte :: rest)) (hdata hdataKind)

/-- Every byte array is read, and what was read is written as the same bytes. -/
theorem tpdu_codec_exact (c : CArray) : ∃ t, fromPacket c = .ok t ∧ t.toPacket = .ok c := by
  cases c with
  | nil => exact ⟨.unknown [], rfl, rfl⟩
  | cons first rest =>
    refine ⟨_, by rw [fromPacket, if_pos (by simp), readAt_cons_zero, ok_bind]; rfl, ?_⟩
    cases hinit : initFirst first (first :: rest) with
    | none => rfl
    | some => exact toPacket_of_initFirst hinit

end Exact

end Knxd.Transport
