import Knxd.Codec.TPDU
import Knxd.Core.Transition

/-!
# Connection-oriented transport

`T_Connection` is the client's end of a transport connection to a device.  It numbers
its data modulo 16, keeps one message outstanding until it is acknowledged, repeats it
on a timeout or on a negative acknowledgement, and acknowledges what it takes.

Everything a method can do is said once, by the relation `Acts`; what holds of whole
runs is then proved by its cases.
-/

namespace Knxd.Transport

open Memory LPDU Transition Option

/-- `mode`, from 0 to 2. -/
inductive Mode
  | closed
  | idle
  | ackWait
  deriving DecidableEq, Repr

structure TConnection where
  dest : Addr
  /-- `in`. -/
  input : List CArray := []
  current : CArray := []
  recvno : ℕ := 0
  sendno : ℕ := 0
  mode : Mode := .closed
  repcount : ℕ
  timer : Bool := false
  deriving DecidableEq, Repr

/-- What a method does to the outside: it hands a frame to the router, gives data to the
application, or asks for the next frame. -/
inductive Output
  | recvLData (l : LDataPDU)
  | send (data : CArray)
  | sendNext
  deriving DecidableEq, Repr

/-- The constructor, which leaves `repcount` as it is in memory. -/
def TConnection.create (dest : Addr) (repcount : ℕ) : TConnection :=
  { dest, repcount }

/-- The number before a number, `(number - 1) & 0x0f`. -/
def previous (number : ℕ) : ℕ :=
  (number + 15) % 16

def peerFrame (dest : Addr) (prio : EIBPriority) (data : CArray) : LDataPDU :=
  { source := 0, dest, addrType := .individualAddress, data, prio }

namespace TConnection

variable (c : TConnection)

def sendConnect : Run (TConnection × List Output) := do
  let data ← TPDU.connectReq.toPacket
  pure ({ c with mode := .idle, sendno := 0, recvno := 0, repcount := 0 },
    [.recvLData (peerFrame c.dest .system data)])

def sendDisconnect : Run (List Output) := do
  let data ← TPDU.disconnectReq.toPacket
  pure [.recvLData (peerFrame c.dest .system data)]

def sendAck (serno : ℕ) : Run (List Output) := do
  let data ← (TPDU.ack (BitVec.ofNat 8 serno)).toPacket
  pure [.recvLData (peerFrame c.dest .low data)]

/-- `SendData`, with the text that is made of the message when it is traced. -/
def sendData (serno : ℕ) (data : CArray) : Run (List Output) := do
  let p := TPDU.dataConnectedReq (BitVec.ofNat 8 serno) data
  let _ ← p.decode
  let data ← p.toPacket
  pure [.recvLData (peerFrame c.dest .low data)]

def stop : Run (TConnection × List Output) := do
  let out ← c.sendDisconnect
  pure ({ c with mode := .closed, timer := false }, out ++ [.send []])

def sendCheck : Run (TConnection × List Output) :=
  if c.mode ≠ .idle then pure (c, [])
  else
    match c.input with
    | [] => pure ({ c with repcount := 0 }, [])
    | current :: input => do
        let out ← c.sendData c.sendno current
        pure ({ c with repcount := 0, input, current, mode := .ackWait, timer := true }, out)

def recvData (data : CArray) : Run (TConnection × List Output) :=
  sendCheck { c with input := c.input ++ [data] }

def timerCb : Run (TConnection × List Output) :=
  if c.mode = .ackWait ∧ c.repcount < 3 then do
    let out ← c.sendData c.sendno c.current
    pure ({ c with repcount := c.repcount + 1, timer := true }, out)
  else c.stop

/-- The `switch` of `send_L_Data`. -/
def handle : TPDU → Run (TConnection × List Output)
  | .disconnectReq => c.stop
  | .connectReq => c.stop
  | .dataConnectedReq serno data =>
    if serno.toNat ≠ c.recvno ∧ serno.toNat ≠ previous c.recvno then c.stop
    else if serno.toNat = c.recvno then do
      let first ← readAt data 0
      let out ← c.sendAck c.recvno
      pure ({ c with recvno := (c.recvno + 1) % 16 },
        .send (data.set 0 (first &&& 0x03)) :: out)
    else do
      let out ← c.sendAck serno.toNat
      pure (c, out)
  | .nack serno =>
    if serno.toNat ≠ c.sendno then c.stop
    else if 3 ≤ c.repcount ∨ c.mode ≠ .ackWait then c.stop
    else do
      let out ← c.sendData c.sendno c.current
      pure ({ c with repcount := c.repcount + 1 }, out)
  | .ack serno =>
    if serno.toNat ≠ c.sendno then c.stop
    else if c.mode ≠ .ackWait then c.stop
    else sendCheck { c with mode := .idle, timer := false, sendno := (c.sendno + 1) % 16 }
  | _ => pure (c, [])

/-- `send_L_Data`, a frame from the peer. -/
def sendLData (l : LDataPDU) : Run (TConnection × List Output) := do
  let t ← fromPacket l.data
  let (c', out) ← c.handle t
  pure (c', out ++ [.sendNext])

end TConnection

/-- The calls of the methods.  `SendConnect` is private and nothing calls it. -/
inductive Event
  | sendConnect
  | sendLData (l : LDataPDU)
  | recvData (data : CArray)
  | timerCb
  | stop
  deriving DecidableEq, Repr

def Event.payload : Event → List CArray
  | .recvData data => [data]
  | _ => []

def TConnection.act (c : TConnection) : Event → Option (Run (TConnection × List Output))
  | .sendConnect => some c.sendConnect
  | .sendLData l => some (c.sendLData l)
  | .recvData data => some (c.recvData data)
  | .timerCb => if c.timer then some c.timerCb else none
  | .stop => some c.stop

/-- The frame that `SendData` sends. -/
def DataFrame (c : TConnection) (data : CArray) (l : LDataPDU) : Prop :=
  ∃ packet, (TPDU.dataConnectedReq (BitVec.ofNat 8 c.sendno) data).toPacket = .ok packet ∧
    l = peerFrame c.dest .low packet

/-- The frame that `SendAck` sends. -/
def AckFrame (c : TConnection) (serno : ℕ) (l : LDataPDU) : Prop :=
  ∃ packet, (TPDU.ack (BitVec.ofNat 8 serno)).toPacket = .ok packet ∧
    l = peerFrame c.dest .low packet

def connectFrame (dest : Addr) : LDataPDU :=
  peerFrame dest .system [0x80]

def disconnectFrame (dest : Addr) : LDataPDU :=
  peerFrame dest .system [0x81]

inductive Acts (c : TConnection) : Event → TConnection → List Output → Prop
  | connects : Acts c .sendConnect
      { c with mode := .idle, sendno := 0, recvno := 0, repcount := 0 }
      [.recvLData (connectFrame c.dest)]
  | stops (event : Event) (next : List Output) (hevent : event.payload = [])
      (hnext : ∀ output ∈ next, output = .sendNext) :
      Acts c event { c with mode := .closed, timer := false }
        (.recvLData (disconnectFrame c.dest) :: .send [] :: next)
  | ignores (l : LDataPDU) : Acts c (.sendLData l) c [.sendNext]
  | queues (data : CArray) (hmode : c.mode ≠ .idle) :
      Acts c (.recvData data) { c with input := c.input ++ [data] } []
  | starts (data current : CArray) (input : List CArray) (l : LDataPDU) (hmode : c.mode = .idle)
      (hinput : c.input ++ [data] = current :: input) (hframe : DataFrame c current l) :
      Acts c (.recvData data)
        { c with repcount := 0, input, current, mode := .ackWait, timer := true } [.recvLData l]
  | repeats (event : Event) (timer : Bool) (next : List Output) (l : LDataPDU)
      (hevent : event.payload = []) (hmode : c.mode = .ackWait)
      (hcount : c.repcount < 3) (hframe : DataFrame c c.current l)
      (hnext : ∀ output ∈ next, output = .sendNext) :
      Acts c event { c with repcount := c.repcount + 1, timer } (.recvLData l :: next)
  | takes (l ack : LDataPDU) (data : CArray) (serno : Byte)
      (htpdu : fromPacket l.data = .ok (.dataConnectedReq serno data))
      (hserno : serno.toNat = c.recvno) (hack : AckFrame c c.recvno ack) :
      Acts c (.sendLData l) { c with recvno := (c.recvno + 1) % 16 }
        [.send (masked data), .recvLData ack, .sendNext]
  | takesAgain (l ack : LDataPDU) (data : CArray) (serno : Byte)
      (htpdu : fromPacket l.data = .ok (.dataConnectedReq serno data))
      (hserno : serno.toNat = previous c.recvno) (hnew : serno.toNat ≠ c.recvno)
      (hack : AckFrame c (previous c.recvno) ack) :
      Acts c (.sendLData l) c [.recvLData ack, .sendNext]
  | finishes (l : LDataPDU) (serno : Byte) (htpdu : fromPacket l.data = .ok (.ack serno))
      (hserno : serno.toNat = c.sendno) (hmode : c.mode = .ackWait) (hinput : c.input = []) :
      Acts c (.sendLData l)
        { c with mode := .idle, timer := false, sendno := (c.sendno + 1) % 16, repcount := 0 }
        [.sendNext]
  | advances (l next : LDataPDU) (serno : Byte) (current : CArray) (input : List CArray)
      (htpdu : fromPacket l.data = .ok (.ack serno)) (hserno : serno.toNat = c.sendno)
      (hmode : c.mode = .ackWait) (hinput : c.input = current :: input)
      (hframe : DataFrame { c with sendno := (c.sendno + 1) % 16 } current next) :
      Acts c (.sendLData l)
        { c with
          mode := .ackWait, timer := true, sendno := (c.sendno + 1) % 16, repcount := 0
          input, current }
        [.recvLData next, .sendNext]

section Inversion

variable {c c' : TConnection} {out : List Output}

theorem of_sendData {serno : ℕ} {data : CArray} (h : c.sendData serno data = .ok out) :
    ∃ packet, (TPDU.dataConnectedReq (BitVec.ofNat 8 serno) data).toPacket = .ok packet ∧
      out = [.recvLData (peerFrame c.dest .low packet)] := by
  obtain ⟨-, -, hrest⟩ := bind_eq_ok_iff.1 h
  obtain ⟨packet, hpacket, hout⟩ := bind_eq_ok_iff.1 hrest
  exact ⟨packet, hpacket, (Except.ok.inj hout).symm⟩

theorem of_sendAck {serno : ℕ} (h : c.sendAck serno = .ok out) :
    ∃ l, AckFrame c serno l ∧ out = [.recvLData l] := by
  obtain ⟨packet, hpacket, hout⟩ := bind_eq_ok_iff.1 h
  exact ⟨_, ⟨packet, hpacket, rfl⟩, (Except.ok.inj hout).symm⟩

theorem of_sendCheck (h : c.sendCheck = .ok (c', out)) : c.mode ≠ .idle ∧ c' = c ∧ out = [] ∨
      c.mode = .idle ∧ c.input = [] ∧ c' = { c with repcount := 0 } ∧ out = [] ∨
      ∃ current input l, c.mode = .idle ∧ c.input = current :: input ∧ DataFrame c current l ∧
        c' = { c with repcount := 0, input, current, mode := .ackWait, timer := true } ∧
        out = [.recvLData l] := by
  unfold TConnection.sendCheck at h
  split at h
  · next hmode =>
    cases h
    exact .inl ⟨hmode, rfl, rfl⟩
  · next hmode =>
    have hmode := not_not.1 hmode
    split at h
    · next hinput =>
      cases h
      exact .inr (.inl ⟨hmode, hinput, rfl, rfl⟩)
    · next current input hinput =>
      obtain ⟨_, hsent, hrest⟩ := bind_eq_ok_iff.1 h
      obtain ⟨packet, hpacket, rfl⟩ := of_sendData hsent
      cases hrest
      exact .inr (.inr ⟨current, input, _, hmode, hinput, ⟨packet, hpacket, rfl⟩, rfl, rfl⟩)

theorem acts_of_recvData {data : CArray} (h : c.recvData data = .ok (c', out)) :
    Acts c (.recvData data) c' out := by
  obtain ⟨hmode, rfl, rfl⟩ | ⟨-, hinput, -⟩ |
    ⟨current, input, l, hmode, hinput, hframe, rfl, rfl⟩ := of_sendCheck h
  · exact .queues data hmode
  · simp at hinput
  · exact .starts data current input l hmode hinput hframe

theorem acts_of_timerCb (h : c.timerCb = .ok (c', out)) : Acts c .timerCb c' out := by
  unfold TConnection.timerCb at h
  split at h
  · next hrepeat =>
    obtain ⟨_, hsent, hrest⟩ := bind_eq_ok_iff.1 h
    obtain ⟨packet, hpacket, rfl⟩ := of_sendData hsent
    cases hrest
    exact .repeats _ true [] _ rfl hrepeat.1 hrepeat.2 ⟨packet, hpacket, rfl⟩ (by simp)
  · cases h
    exact .stops _ [] rfl (by simp)

theorem masked_eq {data : CArray} {first : Byte} (hfirst : readAt data 0 = .ok first) :
    masked data = data.set 0 (first &&& 0x03) := by
  cases data with
  | nil => cases hfirst
  | cons =>
    cases hfirst
    rfl

theorem acts_of_handle {l : LDataPDU} {t : TPDU} (ht : fromPacket l.data = .ok t)
    (h : c.handle t = .ok (c', out)) : Acts c (.sendLData l) c' (out ++ [.sendNext]) := by
  have hstop : c.stop = .ok (c', out) → Acts c (.sendLData l) c' (out ++ [.sendNext]) := by
    intro hstop
    cases hstop
    exact .stops _ [.sendNext] rfl (by simp)
  unfold TConnection.handle at h
  cases t with
  | disconnectReq | connectReq => exact hstop h
  | dataConnectedReq serno data =>
    dsimp only at h
    split_ifs at h with hfar hnew
    · exact hstop h
    · obtain ⟨_, hfirst, hrest⟩ := bind_eq_ok_iff.1 h
      obtain ⟨sent, hsent, hrest⟩ := bind_eq_ok_iff.1 hrest
      obtain ⟨ack, hack, rfl⟩ := of_sendAck hsent
      cases hrest
      rw [← masked_eq hfirst]
      exact .takes l ack data serno ht hnew hack
    · obtain ⟨sent, hsent, hrest⟩ := bind_eq_ok_iff.1 h
      have hprevious : serno.toNat = previous c.recvno := by
        by_contra hne
        exact hfar ⟨hnew, hne⟩
      rw [hprevious] at hsent
      obtain ⟨ack, hack, rfl⟩ := of_sendAck hsent
      cases hrest
      exact .takesAgain l ack data serno ht hprevious hnew hack
  | nack =>
    dsimp only at h
    split_ifs at h with hnumber hrepeat
    · exact hstop h
    · exact hstop h
    · obtain ⟨sent, hsent, hrest⟩ := bind_eq_ok_iff.1 h
      obtain ⟨packet, hpacket, rfl⟩ := of_sendData hsent
      cases hrest
      obtain ⟨hcount, hmode⟩ := not_or.1 hrepeat
      exact .repeats _ c.timer [.sendNext] _ rfl (not_not.1 hmode) (not_le.1 hcount)
        ⟨packet, hpacket, rfl⟩ (by simp)
  | ack serno =>
    dsimp only at h
    split_ifs at h with hnumber hmode
    · exact hstop h
    · exact hstop h
    · have hmode := not_not.1 hmode
      have hnumber := not_not.1 hnumber
      obtain ⟨hidle, -⟩ | ⟨-, hinput, rfl, rfl⟩ |
        ⟨current, input, next, -, hinput, hframe, rfl, rfl⟩ := of_sendCheck h
      · exact (hidle rfl).elim
      · exact .finishes l serno ht hnumber hmode hinput
      · exact .advances l next serno current input ht hnumber hmode hinput hframe
  | unknown | dataXXXReq =>
    cases h
    exact .ignores l

theorem acts_of_act {event : Event} (h : c.act event = some (.ok (c', out))) :
    Acts c event c' out := by
  cases event with
  | sendConnect =>
    cases some.inj h
    exact .connects
  | sendLData =>
    obtain ⟨t, ht, hrest⟩ := bind_eq_ok_iff.1 (some.inj h)
    obtain ⟨⟨_, _⟩, hhandle, hrest⟩ := bind_eq_ok_iff.1 hrest
    cases hrest
    exact acts_of_handle ht hhandle
  | recvData => exact acts_of_recvData (some.inj h)
  | timerCb =>
    rw [TConnection.act] at h
    split at h
    · exact acts_of_timerCb (some.inj h)
    · cases h
  | stop =>
    cases some.inj h
    exact .stops _ [] rfl (by simp)

end Inversion

end Knxd.Transport
