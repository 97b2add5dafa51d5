import Knxd.Codec.EMI
import Knxd.Tunnel.Packet

/-!
# A connection of the EIBnet/IP server

`ConnState` is the server's end of one tunnel or configuration channel.  It
queues the messages for its client in `out` and keeps the first of them
outstanding; `retries` is 0 when nothing is outstanding.  `rno` is the number of
the next request it takes.  Every callback of the source is a function to the
next state and the effects it has, in their order.

The flags `timeout`, `sendtimeout` and `sendTrigger` say which callbacks the
event loop may call, and `active` that the connection was not stopped: a stopped
trigger can no longer be sent.  Restarting the running alive timer
(`reset_timer`) changes none of them.
-/

namespace Knxd.Connection

open Memory LPDU EMI Packet Except

inductive ConnType
  | standard
  | busmonitor
  | config
  deriving DecidableEq, Repr

/-- `ConnState`, with the values that its constructor and `addClient` set. -/
structure ConnState where
  addr : Addr
  channel : Byte
  type : ConnType
  sno : Byte := 0
  rno : Byte := 0
  retries : ℕ := 0
  no : ℕ := 1
  nat : Bool := false
  caddr : SockAddr := {}
  daddr : SockAddr := {}
  doSendNext : Bool := false
  out : List CArray := []
  active : Bool := true
  timeout : Bool := true
  sendtimeout : Bool := false
  sendTrigger : Bool := false
  deriving DecidableEq, Repr

/-- `E_DATA_CONNECTION`. -/
def dataConnectionError : Byte := 0x26

/-- `E_TUNNELING_LAYER`, also written 0x29 in the source. -/
def tunnelingLayerError : Byte := 0x29

namespace ConnState

/-- `send_trigger.send()`. -/
def trigger (s : ConnState) : ConnState :=
  { s with sendTrigger := s.active }

def put (s : ConnState) (cemi : CArray) : ConnState :=
  let queued := { s with out := s.out ++ [cemi] }
  if s.retries = 0 then queued.trigger else queued

theorem put_eq (s : ConnState) (cemi : CArray) :
    s.put cemi = { s with
      out := s.out ++ [cemi]
      sendTrigger := if s.retries = 0 then s.active else s.sendTrigger } := by
  unfold put trigger
  split <;> simp

def sendLData (s : ConnState) (l : LDataPDU) : Run ConnState :=
  if s.type = .standard then do
    require (s.doSendNext = false)
    let cemi ← lDataToCEMI 0x29 l
    pure ({ s with doSendNext := true }.put cemi)
  else pure s

variable {s next : ConnState} {result : ConnState × List Output}

theorem sendLData_cases {l : LDataPDU} (hrun : s.sendLData l = .ok next) :
    next = s ∨ ∃ cemi, next = { s with doSendNext := true }.put cemi := by
  unfold sendLData at hrun
  split at hrun
  · obtain ⟨-, -, hrun⟩ := bind_eq_ok_iff.1 hrun
    obtain ⟨cemi, -, hrun⟩ := bind_eq_ok_iff.1 hrun
    exact .inr ⟨cemi, (ok.inj hrun).symm⟩
  · exact .inl (ok.inj hrun).symm

def busmonitorToCEMI (code : Byte) (pdu : CArray) (timestamp : BitVec 32) (no : ℕ) : CArray :=
  [code, 7, 0x03, 1, BitVec.ofNat 8 no &&& 0x7, 0x04, 2, (timestamp >>> 8).setWidth 8,
    timestamp.setWidth 8] ++ pdu

/-- A frame for the bus monitor is read back from its message unless it is empty.  Of any other
message, what follows the additional information is read, and nothing if nothing follows it. -/
theorem busmonitor_frames_survive :
    (∀ code pdu timestamp no, cemiToBusmonitor (busmonitorToCEMI code pdu timestamp no) =
      .ok (if pdu = [] then none else some pdu)) ∧
    ∀ data, cemiToBusmonitor data = .ok none ∨
      2 + (byteAt data 1).toNat < data.length ∧
        cemiToBusmonitor data = .ok (some (data.drop (2 + (byteAt data 1).toNat))) := by
  constructor
  · intro code pdu timestamp no
    have hinfo : (byteAt (busmonitorToCEMI code pdu timestamp no) 1).toNat = 7 := rfl
    have hlength : (busmonitorToCEMI code pdu timestamp no).length = 9 + pdu.length := by
      simp [busmonitorToCEMI]
      omega
    rw [cemiToBusmonitor_eq, hinfo, hlength]
    refine congrArg Except.ok (if_congr ?_ rfl rfl)
    rw [← List.length_eq_zero_iff]
    omega
  · intro data
    rw [cemiToBusmonitor_eq, Nat.add_comm 2]
    split
    · exact .inl rfl
    · exact .inr ⟨by omega, rfl⟩

def sendLBusmonitor (s : ConnState) (pdu : CArray) (timestamp : BitVec 32) : ConnState :=
  if s.type = .busmonitor then
    { s with no := s.no + 1 }.put (busmonitorToCEMI 0x2B pdu timestamp s.no)
  else s

def sendTriggerCb (s : ConnState) : ConnState × List Output :=
  match s.out with
  | [] => ({ s with sendTrigger := false }, [])
  | cemi :: _ =>
    let request : EIBnetRequest := { channel := s.channel, seqno := s.sno, cemi }
    ({ s with sendTrigger := false, retries := s.retries + 1, sendtimeout := true },
      [.send (if s.type = .config then configRequestToPacket request
        else tunnelRequestToPacket request)])

/-- `stop`: stops all watchers, asks the server to drop the connection and gives
the client's address back. -/
def stop (s : ConnState) : ConnState × List Output :=
  ({ s with timeout := false, sendtimeout := false, sendTrigger := false, active := false
            retries := 0, addr := 0 },
    (if s.type = .busmonitor then [.deregisterVBusmonitor] else []) ++ [.dropConnection] ++
      (if s.addr ≠ 0 then [.releaseClientAddr s.addr] else []) ++ [.driverStop])

def sendtimeoutCb (s : ConnState) : Run (ConnState × List Output) :=
  let fired := { s with sendtimeout := false, retries := s.retries + 1 }
  if s.retries + 1 ≤ 2 then pure (fired.trigger, [])
  else
    match s.out with
    | [] => .error .outOfBounds
    | _ :: rest => pure { fired with out := rest }.stop

/-- `timeout_cb`; `source` is what `GetSourceAddress` finds. -/
def timeoutCb (s : ConnState) (source : Option SockAddr) : ConnState × List Output :=
  let (stopped, outputs) := { s with timeout := false }.stop
  match source with
  | some caddr =>
    if 0 < s.channel.toNat then
      (stopped,
        .send (disconnectRequestToPacket { channel := s.channel, caddr, nat := s.nat }) ::
          outputs)
    else (stopped, outputs)
  | none => (stopped, outputs)

/-- Queues the confirmation of an `L_Data.req`. -/
def confirm (s : ConnState) (code : Byte) (c : LDataPDU) : Run ConnState :=
  if code = 0x11 then do
    let confirmation ← lDataToCEMI 0x2E c
    pure (s.put confirmation)
  else pure s

/-- What `tunnel_request` does with the message of a request that it takes: the
next state, the effects, and the status of the acknowledgement. -/
def takeTunnelCEMI (s : ConnState) (cemi : CArray) : Run (ConnState × List Output × Byte) :=
  if s.type = .standard then do
    match ← cemiToLData cemi with
    | none => pure (s, [], tunnelingLayerError)
    | some c =>
      let code ← readAt cemi 0
      let confirmed ← s.confirm code c
      let c := if c.source = 0 then { c with source := s.addr } else c
      pure (confirmed, if code = 0x11 ∨ code = 0x29 then [.recvLData c] else [], 0)
  else pure (s, [], tunnelingLayerError)

/-- The reply to `M_PropRead.req` that `config_request` builds from a message of
seven bytes. -/
def propReadReply (cemi : CArray) : CArray :=
  let known := byteAt cemi 1 = 0 ∧ byteAt cemi 2 = 0 ∧ byteAt cemi 3 = 0 ∧ byteAt cemi 4 = 0
  let count : Byte := if known then (byteAt cemi 5 >>> 4) &&& 0x0f else 0
  let start : Byte := if known then 0 else (byteAt cemi 5 &&& 0x0f) ||| byteAt cemi 6
  [0xFB, byteAt cemi 1, byteAt cemi 2, byteAt cemi 3, byteAt cemi 4, (count &&& 0x0f) <<< 4,
    start] ++ if known then [0, 0] else [0]

/-- What `config_request` does with the message of a request that it takes. -/
def takeConfigCEMI (s : ConnState) (cemi : CArray) : Run (ConnState × List Output × Byte) :=
  if s.type = .config ∧ cemi.length > 1 then do
    let code ← readAt cemi 0
    if code = 0xFC ∧ cemi.length = 7 then pure (s.put (propReadReply cemi), [], 0)
    else pure (s, [], dataConnectionError)
  else pure (s, [], tunnelingLayerError)

/-- The sequence check that `tunnel_request` and `config_request` share.  A
request that was taken before is acknowledged again, with the status that the
constructor of the acknowledgement sets; another unexpected one is ignored. -/
def request (service : ServiceType)
    (take : ConnState → CArray → Run (ConnState × List Output × Byte))
    (s : ConnState) (r1 : EIBnetRequest) : Run (ConnState × List Output) :=
  let r2 : EIBnetACK := { channel := r1.channel, seqno := r1.seqno }
  if s.rno.toNat = (r1.seqno.toNat + 1) % 256 then pure (s, [.send (r2.toPacket service)])
  else if s.rno ≠ r1.seqno then pure (s, [])
  else do
    let (next, outputs, status) ← take s r1.cemi
    pure ({ next with rno := s.rno + 1 }, outputs ++ [.send ({ r2 with status }.toPacket service)])

/-- A request repeats the last one taken, is ignored, or is taken. -/
theorem request_cases {service : ServiceType}
    {take : ConnState → CArray → Run (ConnState × List Output × Byte)} {r1 : EIBnetRequest}
    (hrun : s.request service take r1 = .ok result) :
    (s.rno.toNat = (r1.seqno.toNat + 1) % 256 ∧
        result = (s, [.send (EIBnetACK.toPacket service ⟨r1.channel, r1.seqno, 0⟩)])) ∨
      result = (s, []) ∨
      s.rno = r1.seqno ∧ ∃ next outputs status, take s r1.cemi = .ok (next, outputs, status) ∧
        result = ({ next with rno := s.rno + 1 },
          outputs ++ [.send (EIBnetACK.toPacket service ⟨r1.channel, r1.seqno, status⟩)]) := by
  unfold request at hrun
  dsimp only at hrun
  split at hrun
  · next hcopy => exact .inl ⟨hcopy, (ok.inj hrun).symm⟩
  · split at hrun
    · exact .inr (.inl (ok.inj hrun).symm)
    · next hseqno =>
      obtain ⟨⟨next, outputs, status⟩, htaken, hrun⟩ := bind_eq_ok_iff.1 hrun
      exact .inr (.inr ⟨not_not.1 hseqno, next, outputs, status, htaken, (ok.inj hrun).symm⟩)

/-- Taking a message queues at most one reply and hands up at most one frame. -/
def Takes (s next : ConnState) (outputs : List Output) : Prop :=
  (next = s ∨ ∃ reply, next = s.put reply) ∧ (outputs = [] ∨ ∃ l, outputs = [.recvLData l])

theorem takes_takeTunnelCEMI {cemi : CArray} {outputs : List Output} {status : Byte}
    (hrun : s.takeTunnelCEMI cemi = .ok (next, outputs, status)) : Takes s next outputs := by
  unfold takeTunnelCEMI at hrun
  split at hrun
  · obtain ⟨frame, -, hrun⟩ := bind_eq_ok_iff.1 hrun
    cases frame with
    | none =>
      cases hrun
      exact ⟨.inl rfl, .inl rfl⟩
    | some =>
      obtain ⟨_, -, hrun⟩ := bind_eq_ok_iff.1 hrun
      obtain ⟨_, hconfirm, hrun⟩ := bind_eq_ok_iff.1 hrun
      cases hrun
      constructor
      · unfold confirm at hconfirm
        split at hconfirm
        · obtain ⟨confirmation, -, hconfirm⟩ := bind_eq_ok_iff.1 hconfirm
          exact .inr ⟨confirmation, (ok.inj hconfirm).symm⟩
        · exact .inl (ok.inj hconfirm).symm
      · split
        · exact .inr ⟨_, rfl⟩
        · exact .inl rfl
  · cases hrun
    exact ⟨.inl rfl, .inl rfl⟩

theorem takes_takeConfigCEMI {cemi : CArray} {outputs : List Output} {status : Byte}
    (hrun : s.takeConfigCEMI cemi = .ok (next, outputs, status)) : Takes s next outputs := by
  unfold takeConfigCEMI at hrun
  split at hrun
  · obtain ⟨_, -, hrun⟩ := bind_eq_ok_iff.1 hrun
    split at hrun
    · cases hrun
      exact ⟨.inr ⟨_, rfl⟩, .inl rfl⟩
    · cases hrun
      exact ⟨.inl rfl, .inl rfl⟩
  · cases hrun
    exact ⟨.inl rfl, .inl rfl⟩

def tunnelRequest : ConnState → EIBnetRequest → Run (ConnState × List Output) :=
  request .tunnelResponse takeTunnelCEMI

def configRequest : ConnState → EIBnetRequest → Run (ConnState × List Output) :=
  request .deviceConfigurationAck takeConfigCEMI

/-- The outstanding message was acknowledged: the end of `tunnel_response` and of
`config_response`. -/
def acknowledged (s : ConnState) : Run (ConnState × List Output) :=
  match s.out with
  | [] => .error .outOfBounds
  | _ :: rest =>
    let next := { s with sno := s.sno + 1, out := rest, sendtimeout := false, retries := 0 }
    if rest ≠ [] then pure (next.trigger, [])
    else if s.doSendNext then pure ({ next with doSendNext := false }, [.sendNext])
    else pure (next, [])

/-- The state after the outstanding message was acknowledged.  The upper layer
is woken only when the queue is empty. -/
theorem acknowledged_cases (hrun : s.acknowledged = .ok result) :
    ∃ cemi queue sendTrigger, ∃ wakes : Bool, s.out = cemi :: queue ∧
      (wakes = true ↔ queue = [] ∧ s.doSendNext = true) ∧
      result =
        ({ s with sno := s.sno + 1, out := queue, sendtimeout := false, retries := 0
                  sendTrigger, doSendNext := s.doSendNext && !wakes },
          if wakes then [.sendNext] else []) := by
  unfold acknowledged at hrun
  split at hrun
  · cases hrun
  · next cemi queue hqueue =>
    dsimp only at hrun
    split at hrun
    · next hmore =>
      cases hrun
      exact ⟨cemi, queue, s.active, false, hqueue, by simp [hmore], by simp [trigger]⟩
    · next hempty =>
      split at hrun
      · next hnext =>
        cases hrun
        exact ⟨cemi, queue, s.sendTrigger, true, hqueue,
          iff_of_true rfl ⟨not_not.1 hempty, hnext⟩, by simp⟩
      · next hnext =>
        cases hrun
        exact ⟨cemi, queue, s.sendTrigger, false, hqueue, by simp [hnext], by simp⟩

/-- The checks that `tunnel_response` and `config_response` share; `accepts` is
the one on the connection type. -/
def response (accepts : ConnType → Bool) (s : ConnState) (r1 : EIBnetACK) :
    Run (ConnState × List Output) :=
  if s.sno ≠ r1.seqno then pure (s, [])
  else if r1.status ≠ 0 then pure (s, [])
  else if s.retries = 0 then pure (s, [])
  else if accepts s.type = false then pure (s, [])
  else s.acknowledged

/-- An acknowledgement is ignored or accepted. -/
theorem response_cases {accepts : ConnType → Bool} {r1 : EIBnetACK}
    (hrun : s.response accepts r1 = .ok result) :
    result = (s, []) ∨ s.sno = r1.seqno ∧ s.retries ≠ 0 ∧ s.acknowledged = .ok result := by
  unfold response at hrun
  split at hrun
  · exact .inl (ok.inj hrun).symm
  · next hsno =>
    split at hrun
    · exact .inl (ok.inj hrun).symm
    · split at hrun
      · exact .inl (ok.inj hrun).symm
      · next hretries =>
        split at hrun
        · exact .inl (ok.inj hrun).symm
        · exact .inr ⟨not_not.1 hsno, hretries, hrun⟩

def tunnelResponse : ConnState → EIBnetACK → Run (ConnState × List Output) :=
  response fun type => type = .standard ∨ type = .busmonitor

def configResponse : ConnState → EIBnetACK → Run (ConnState × List Output) :=
  response fun type => type = .config

def onChannel {R : Type} (s : ConnState) (parsed : Option R) (channel : R → Byte)
    (handle : R → Run (ConnState × List Output)) : Run (ConnState × List Output) :=
  match parsed with
  | some r1 => if s.channel = channel r1 then handle r1 else pure (s, [])
  | none => pure (s, [])

/-- The answer to a `CONNECTIONSTATE_REQUEST` for this connection. -/
def connectionStateRequest (s : ConnState) (r1 : EIBnetControlRequest) :
    ConnState × List Output :=
  (s, [.send (connectionStateResponseToPacket { channel := r1.channel })])

/-- The answer to a `DISCONNECT_REQUEST` for this connection. -/
def disconnectRequest (s : ConnState) (r1 : EIBnetControlRequest) : ConnState × List Output :=
  (s.stop.1, s.stop.2 ++ [.send (disconnectResponseToPacket { channel := r1.channel })])

/-- The part of `EIBnetServer::handle_packet` about a packet for this
connection's channel. -/
def handlePacket (s : ConnState) (p1 : EIBNetIPPacket) : Run (ConnState × List Output) :=
  match ServiceType.ofCode p1.service with
  | some .connectionStateRequest =>
    s.onChannel (parseConnectionStateRequest p1) (·.channel) fun r1 =>
      pure (s.connectionStateRequest r1)
  | some .disconnectRequest =>
    s.onChannel (parseDisconnectRequest p1) (·.channel) fun r1 => pure (s.disconnectRequest r1)
  | some .tunnelRequest => s.onChannel (parseTunnelRequest p1) (·.channel) s.tunnelRequest
  | some .tunnelResponse => s.onChannel (parseTunnelACK p1) (·.channel) s.tunnelResponse
  | some .deviceConfigurationRequest =>
    s.onChannel (parseConfigRequest p1) (·.channel) s.configRequest
  | some .deviceConfigurationAck => s.onChannel (parseConfigACK p1) (·.channel) s.configResponse
  | _ => pure (s, [])

theorem onChannel_cases {R : Type} {parsed : Option R} {channel : R → Byte}
    {handle : R → Run (ConnState × List Output)}
    (hrun : s.onChannel parsed channel handle = .ok result) :
    result = (s, []) ∨
      ∃ r1, parsed = some r1 ∧ s.channel = channel r1 ∧ handle r1 = .ok result := by
  unfold onChannel at hrun
  split at hrun
  · next r1 =>
    split at hrun
    · next hchannel => exact .inr ⟨r1, rfl, hchannel, hrun⟩
    · exact .inl (ok.inj hrun).symm
  · exact .inl (ok.inj hrun).symm

end ConnState

end Knxd.Connection
