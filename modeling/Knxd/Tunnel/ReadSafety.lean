import Knxd.Codec.Acceptance
import Knxd.Tunnel.Endpoint

/-!
# The tunnel client and arbitrary packets

`read_cb` takes packets as they come from the network.  To see that it reads inside them,
every index is checked here: `checkedReadCb` is `read_cb` with the parsers that it calls,
where each read can fail, and it returns what `readCb` returns.

What `read_cb` hands to the upper layer is a pointer.  `CEMI_to_L_Data` may return a null
pointer and is tested for that; `CEMI_to_Busmonitor` may as well, and is not.
-/

namespace Knxd.ReadSafety

open Memory LPDU EMI Packet Client Endpoint List EIBNetIPTunnel LDataPDU Option

/-! ## Parsers with checked indices -/

/-- `EIBnettoIP`. -/
def checkedToIP (buf : CArray) (src : SockAddr) (nat : Bool) :
    Run (Option (SockAddr × Bool)) := do
  let size ← readAt buf 0
  if size ≠ 0x08 then pure none
  else
    let protocol ← readAt buf 1
    if protocol ≠ 0x01 then pure none
    else
      let ip1 ← readAt buf 2
      let ip2 ← readAt buf 3
      let ip3 ← readAt buf 4
      let ip4 ← readAt buf 5
      let portHigh ← readAt buf 6
      let portLow ← readAt buf 7
      let ip : BitVec 32 := ip1 ++ ip2 ++ ip3 ++ ip4
      let port := joinBytes portHigh portLow
      pure (some (⟨if ip = 0 then src.ip else ip, if port = 0 then src.port else port⟩,
        nat || decide (ip = 0)))

/-- `parseEIBnet_ConnectResponse`. -/
def checkedConnectResponse (p : EIBNetIPPacket) : Run (Option EIBnetConnectResponse) :=
  if p.service ≠ ServiceType.connectionResponse.code then pure none
  else if p.data.length < 2 then pure none
  else do
    let status ← readAt p.data 1
    if status ≠ 0 then
      if p.data.length ≠ 2 then pure none
      else
        let channel ← readAt p.data 0
        pure (some { channel, status })
    else if p.data.length < 12 then pure none
    else
      let buf ← readPart p.data 2 8
      match ← checkedToIP buf p.src false with
      | none => pure none
      | some (daddr, nat) =>
        let size ← readAt p.data 10
        if p.data.length - 10 ≠ size.toNat then pure none
        else
          let channel ← readAt p.data 0
          let crd ← readPart p.data 11 (p.data.length - 11)
          pure (some { daddr, nat, channel, status, crd })

/-- `parseEIBnet_TunnelRequest`. -/
def checkedTunnelRequest (p : EIBNetIPPacket) : Run (Option EIBnetRequest) :=
  if p.service ≠ ServiceType.tunnelRequest.code then pure none
  else if p.data.length < 6 then pure none
  else do
    let size ← readAt p.data 0
    if size ≠ 4 then pure none
    else
      let channel ← readAt p.data 1
      let seqno ← readAt p.data 2
      let cemi ← readPart p.data 4 (p.data.length - 4)
      pure (some { channel, seqno, cemi })

/-- `parseEIBnet_TunnelACK`. -/
def checkedTunnelACK (p : EIBNetIPPacket) : Run (Option EIBnetACK) :=
  if p.service ≠ ServiceType.tunnelResponse.code then pure none
  else if p.data.length ≠ 4 then pure none
  else do
    let size ← readAt p.data 0
    if size ≠ 4 then pure none
    else
      let channel ← readAt p.data 1
      let seqno ← readAt p.data 2
      let status ← readAt p.data 3
      pure (some { channel, seqno, status })

def checkedControlResponse (service : ServiceType) (p : EIBNetIPPacket) :
    Run (Option EIBnetControlResponse) :=
  if p.service ≠ service.code then pure none
  else if p.data.length ≠ 2 then pure none
  else do
    let channel ← readAt p.data 0
    let status ← readAt p.data 1
    pure (some { channel, status })

/-- `parseEIBnet_ConnectionStateResponse`. -/
def checkedConnectionStateResponse : EIBNetIPPacket → Run (Option EIBnetControlResponse) :=
  checkedControlResponse .connectionStateResponse

/-- `parseEIBnet_DisconnectResponse`. -/
def checkedDisconnectResponse : EIBNetIPPacket → Run (Option EIBnetControlResponse) :=
  checkedControlResponse .disconnectResponse

/-- `parseEIBnet_DisconnectRequest`. -/
def checkedDisconnectRequest (p : EIBNetIPPacket) : Run (Option EIBnetControlRequest) :=
  if p.service ≠ ServiceType.disconnectRequest.code then pure none
  else if p.data.length ≠ 10 then pure none
  else do
    let buf ← readPart p.data 2 8
    match ← checkedToIP buf p.src false with
    | none => pure none
    | some (caddr, nat) =>
      let channel ← readAt p.data 0
      pure (some { channel, caddr, nat })

/-! ## `read_cb` with checked indices -/

/-- What the `CONNECTION_RESPONSE` case does with a response. -/
def checkedConnect (c : EIBNetIPTunnel) (cresp : EIBnetConnectResponse) :
    Run (EIBNetIPTunnel × List Output) :=
  if cresp.status ≠ 0 then
    pure (if cresp.status = 0x23 ∧ c.supportBusmonitor ∧ c.monitor then c.restart else (c, []))
  else if cresp.crd.length ≠ 3 then pure (c, [])
  else do
    let high ← readAt cresp.crd 1
    let low ← readAt cresp.crd 2
    pure ({ c with
        channel := some cresp.channel, mod := 1, trigger := true, sno := 0, rno := 0
        conntimeout := c.conntimeout || decide (c.heartbeatTime ≠ 0), heartbeat := 0 },
      [.setAddress (joinBytes high low), .driverStart])

/-- A case of `read_cb` that parses the packet and looks at the channel. -/
def checkedForChannel {R : Type} (c : EIBNetIPTunnel) (parse : Run (Option R))
    (channel : R → Byte) (handle : R → Run (EIBNetIPTunnel × List Output)) :
    Run (EIBNetIPTunnel × List Output) := do
  match ← parse with
  | none => pure (c, [])
  | some r => if some (channel r) ≠ c.channel then pure (c, []) else handle r

/-- `read_cb`. -/
def checkedReadCb (c : EIBNetIPTunnel) (p1 : EIBNetIPPacket) :
    Run (EIBNetIPTunnel × List Output) :=
  match ServiceType.ofCode p1.service with
  | some .connectionResponse =>
    if c.mod ≠ 0 then pure (c, [])
    else do
      match ← checkedConnectResponse p1 with
      | none => pure (c, [])
      | some cresp => checkedConnect c cresp
  | some .tunnelRequest =>
    if c.mod = 0 then pure (c, [])
    else checkedForChannel c (checkedTunnelRequest p1) (·.channel) c.tunnelRequest
  | some .tunnelResponse =>
    if c.mod = 0 then pure (c, [])
    else checkedForChannel c (checkedTunnelACK p1) (·.channel) fun tresp =>
      pure (c.tunnelResponse tresp)
  | some .connectionStateResponse =>
    checkedForChannel c (checkedConnectionStateResponse p1) (·.channel) fun csresp =>
      pure (c.connectionStateResponse csresp)
  | some .disconnectRequest =>
    if c.mod = 0 then pure (c, [])
    else checkedForChannel c (checkedDisconnectRequest p1) (·.channel) fun _ =>
      pure c.disconnectRequest
  | some .disconnectResponse =>
    if c.mod = 0 then pure (c, [])
    else checkedForChannel c (checkedDisconnectResponse p1) (·.channel) fun _ =>
      pure c.disconnectResponse
  | _ => pure (c, [])

/-! ## No parser reads outside its packet -/

section Parsers

variable (p : EIBNetIPPacket)

theorem checkedToIP_eq {buf : CArray} (hlength : buf.length = 8) (src : SockAddr) (nat : Bool) :
    checkedToIP buf src nat = .ok (eibnetToIP buf src nat) := by
  have hread : ∀ index, index < 8 → readAt buf index = .ok (byteAt buf index) :=
    fun index hindex => readAt_of_lt (by omega)
  unfold checkedToIP eibnetToIP
  rw [hread 0 (by omega), ok_bind]
  by_cases hsize : byteAt buf 0 ≠ 0x08
  · rw [if_pos hsize, if_pos (.inl hsize), pure_eq_ok]
  rw [if_neg hsize, hread 1 (by omega), ok_bind]
  by_cases hprotocol : byteAt buf 1 ≠ 0x01
  · rw [if_pos hprotocol, if_pos (.inr hprotocol), pure_eq_ok]
  rw [if_neg hprotocol, if_neg (not_or.2 ⟨hsize, hprotocol⟩), hread 2 (by omega), ok_bind,
    hread 3 (by omega), ok_bind, hread 4 (by omega), ok_bind, hread 5 (by omega), ok_bind,
    hread 6 (by omega), ok_bind, hread 7 (by omega), ok_bind, pure_eq_ok]

/-- A test that both sides make first. -/
theorem guard_eq_ok {R : Type} {condition : Prop} [Decidable condition] {parse : Run (Option R)}
    {parsed : Option R} (hparse : ¬ condition → parse = .ok parsed) :
    (if condition then pure none else parse) = .ok (if condition then none else parsed) := by
  split
  · rfl
  · next hnot => exact hparse hnot

theorem checkedTunnelRequest_eq : checkedTunnelRequest p = .ok (parseTunnelRequest p) := by
  refine guard_eq_ok fun _ => guard_eq_ok fun hlength => ?_
  rw [readAt_of_lt (by omega), ok_bind]
  refine guard_eq_ok fun _ => ?_
  simp (disch := omega) only [readAt_of_lt, readPart_of_le, ok_bind, pure_eq_ok]
  rw [take_of_length_le (by rw [length_drop])]

theorem checkedTunnelACK_eq : checkedTunnelACK p = .ok (parseTunnelACK p) := by
  refine guard_eq_ok fun _ => guard_eq_ok fun hlength => ?_
  rw [readAt_of_lt (by omega), ok_bind]
  refine guard_eq_ok fun _ => ?_
  simp (disch := omega) only [readAt_of_lt, ok_bind, pure_eq_ok]

theorem checkedControlResponse_eq (service : ServiceType) :
    checkedControlResponse service p = .ok (parseControlResponse service p) := by
  refine guard_eq_ok fun _ => guard_eq_ok fun hlength => ?_
  simp (disch := omega) only [readAt_of_lt, ok_bind, pure_eq_ok]

theorem checkedDisconnectRequest_eq :
    checkedDisconnectRequest p = .ok (parseDisconnectRequest p) := by
  refine guard_eq_ok fun _ => guard_eq_ok fun hlength => ?_
  have hbuf : (p.data.drop 2).take 8 = p.data.drop 2 :=
    take_of_length_le (by rw [length_drop]; omega)
  rw [readPart_of_le (by omega), ok_bind, hbuf,
    checkedToIP_eq (by rw [length_drop]; omega), ok_bind]
  cases eibnetToIP (p.data.drop 2) p.src false with
  | none => rfl
  | some =>
    dsimp only
    rw [readAt_of_lt (by omega), ok_bind]
    rfl

theorem checkedConnectResponse_eq : checkedConnectResponse p = .ok (parseConnectResponse p) := by
  refine guard_eq_ok fun _ => guard_eq_ok fun hlength => ?_
  rw [readAt_of_lt (by omega), ok_bind]
  by_cases hstatus : byteAt p.data 1 ≠ 0
  · rw [if_pos hstatus, if_pos hstatus]
    refine guard_eq_ok fun _ => ?_
    rw [readAt_of_lt (by omega), ok_bind, pure_eq_ok]
  rw [if_neg hstatus, if_neg hstatus]
  refine guard_eq_ok fun hlong => ?_
  rw [readPart_of_le (by omega), ok_bind,
    checkedToIP_eq (by rw [length_take, length_drop]; omega), ok_bind]
  cases eibnetToIP ((p.data.drop 2).take 8) p.src false with
  | none => rfl
  | some =>
    dsimp only
    rw [bind_eq_bind, bind_some, readAt_of_lt (by omega), ok_bind]
    refine guard_eq_ok fun _ => ?_
    rw [readAt_of_lt (by omega), ok_bind, readPart_of_le (by omega), ok_bind, pure_eq_ok,
      take_of_length_le (by rw [length_drop])]

end Parsers

section Reading

/-- The address is read from an array of three bytes. -/
theorem checkedConnect_eq (c : EIBNetIPTunnel) (cresp : EIBnetConnectResponse) :
    checkedConnect c cresp = react c (connectReaction c cresp) := by
  unfold checkedConnect connectReaction
  by_cases hstatus : cresp.status ≠ 0
  · rw [if_pos hstatus, if_pos hstatus]
    split <;> rfl
  by_cases hlength : cresp.crd.length ≠ 3
  · rw [if_neg hstatus, if_neg hstatus, if_pos hlength, if_pos hlength]
    rfl
  rw [if_neg hstatus, if_neg hstatus, if_neg hlength, if_neg hlength]
  simp (disch := omega) only [readAt_of_lt, ok_bind]
  rfl

theorem checkedForChannel_eq {R : Type} (c : EIBNetIPTunnel) (parsed : Option R)
    (channel : R → Byte) (reacts : R → Reaction) :
    checkedForChannel c (.ok parsed) channel (fun r => react c (reacts r)) =
      react c (forChannel c parsed channel reacts) := by
  rw [react_forChannel]
  cases parsed <;> rfl

/-- Checking the indices makes no difference. -/
theorem checkedReadCb_eq (c : EIBNetIPTunnel) (p : EIBNetIPPacket) :
    checkedReadCb c p = c.readCb p := by
  rw [readCb_eq, checkedReadCb, reaction]
  cases ServiceType.ofCode p.service with
  | none => rfl
  | some service =>
    cases service with
    | connectionResponse =>
      dsimp only
      split
      · rfl
      · rw [checkedConnectResponse_eq, ok_bind]
        cases parseConnectResponse p with
        | none => rfl
        | some cresp => exact checkedConnect_eq c cresp
    | tunnelRequest =>
      dsimp only
      split
      · rfl
      · rw [checkedTunnelRequest_eq, ← checkedForChannel_eq]
        exact congrArg (checkedForChannel c _ _) (funext (tunnelRequest_eq c))
    | tunnelResponse =>
      dsimp only
      split
      · rfl
      · rw [checkedTunnelACK_eq, ← checkedForChannel_eq]
        simp only [tunnelResponse_eq]
    | connectionStateResponse =>
      dsimp only
      rw [checkedConnectionStateResponse, checkedControlResponse_eq, ← checkedForChannel_eq]
      simp only [connectionStateResponse_eq]
      rfl
    | disconnectRequest =>
      dsimp only
      split
      · rfl
      · rw [checkedDisconnectRequest_eq, ← checkedForChannel_eq]
        rfl
    | disconnectResponse =>
      dsimp only
      split
      · rfl
      · rw [checkedDisconnectResponse, checkedControlResponse_eq, ← checkedForChannel_eq]
        rfl
    | _ => rfl

end Reading

/-! ## What is handed to the upper layer -/

/-- The argument of `recv_L_Data` or of `recv_L_Busmonitor`; `none` is the null pointer. -/
inductive Upward
  | lData (l : Option LDataPDU)
  | busmonitor (pdu : Option CArray)
  deriving DecidableEq, Repr

def Upward.isDecoded : Upward → Bool
  | .lData l => l.isSome
  | .busmonitor pdu => pdu.isSome

/-- The call of the upper layer that an output stands for, if any. -/
def upward : Output → Run (Option Upward)
  | .recvLData l => pure (some (.lData (some l)))
  | .recvLBusmonitor pdu => pure (some (.busmonitor (some pdu)))
  | .recvBusmonitorCEMI cemi => do
      let l2 ← cemiToBusmonitor cemi
      pure (some (.busmonitor l2))
  | _ => pure none

def Decoded (output : Output) : Prop :=
  ∃ argument, upward output = .ok argument ∧ ∀ frame, argument = some frame → frame.isDecoded

/-- No index is outside its array, and what is handed up are decoded frames. -/
def Harmless (program : Run (EIBNetIPTunnel × List Output)) : Prop :=
  program ≠ .error .outOfBounds ∧
    ∀ next outputs, program = .ok (next, outputs) → ∀ output ∈ outputs, Decoded output

/-- `read_cb` handles a packet safely. -/
def Safe (c : EIBNetIPTunnel) (p : EIBNetIPPacket) : Prop :=
  Harmless (checkedReadCb c p)

/-- A busmonitor indication that is taken has something behind its additional information. -/
def Monitorable (c : EIBNetIPTunnel) (p : EIBNetIPPacket) : Prop :=
  ∀ treq, c.mod ≠ 0 → parseTunnelRequest p = some treq → some treq.channel = c.channel →
    treq.seqno.toNat = c.rno → byteAt treq.cemi 0 = 0x2B →
      (byteAt treq.cemi 1).toNat + 3 ≤ treq.cemi.length

section Outputs

variable {c : EIBNetIPTunnel} {p : EIBNetIPPacket} {treq : EIBnetRequest}

theorem harmless_ok_iff {next : EIBNetIPTunnel} {outputs : List Output} :
    Harmless (.ok (next, outputs)) ↔ ∀ output ∈ outputs, Decoded output := by
  constructor
  · intro hharmless
    exact hharmless.2 next outputs rfl
  · intro hdecoded
    refine ⟨by simp, fun _ _ hresult => ?_⟩
    cases hresult
    exact hdecoded

theorem decoded_of_upward_none {output : Output} (hnone : upward output = .ok none) :
    Decoded output := by
  refine ⟨none, hnone, fun frame hframe => ?_⟩
  cases hframe

theorem decoded_recvLData (l : LDataPDU) : Decoded (.recvLData l) := by
  refine ⟨_, rfl, fun frame hframe => ?_⟩
  cases hframe
  rfl

theorem decoded_recvLBusmonitor (pdu : CArray) : Decoded (.recvLBusmonitor pdu) := by
  refine ⟨_, rfl, fun frame hframe => ?_⟩
  cases hframe
  rfl

theorem decoded_recvBusmonitorCEMI_iff {cemi : CArray} (hlength : 2 ≤ cemi.length) :
    Decoded (.recvBusmonitorCEMI cemi) ↔ (byteAt cemi 1).toNat + 3 ≤ cemi.length := by
  have hupward : upward (.recvBusmonitorCEMI cemi) = .ok (some (.busmonitor
      (if cemi.length < 2 ∨ cemi.length < (byteAt cemi 1).toNat + 3 then none
      else some (cemi.drop ((byteAt cemi 1).toNat + 2))))) := by
    rw [upward, cemiToBusmonitor_eq]
    rfl
  constructor
  · rintro ⟨_, hargument, hdecoded⟩
    obtain rfl := Except.ok.inj (hupward.symm.trans hargument)
    by_contra hshort
    have hframe := hdecoded _ rfl
    rw [if_pos (.inr (by omega))] at hframe
    cases hframe
  · intro hlong
    refine ⟨_, hupward, fun frame hframe => ?_⟩
    cases hframe
    rw [if_neg (by omega)]
    rfl

inductive Takes (c : EIBNetIPTunnel) (cemi : CArray) : Run (EIBNetIPTunnel × List Output) → Prop
  | quiet {next : EIBNetIPTunnel} : byteAt cemi 0 ≠ 0x2B → Takes c cemi (.ok (next, []))
  | monitored : byteAt cemi 0 = 0x2B → Takes c cemi (.ok (c, [.recvBusmonitorCEMI cemi]))
  | received (l : LDataPDU) : byteAt cemi 0 ≠ 0x2B → Takes c cemi (.ok (c, [.recvLData l]))
  | copied (pdu : CArray) : byteAt cemi 0 ≠ 0x2B → Takes c cemi (.ok (c, [.recvLBusmonitor pdu]))
  /-- A frame for the bus monitor that is too long for `L_Data_PDU::ToPacket`. -/
  | refused : byteAt cemi 0 ≠ 0x2B → Takes c cemi (.error .assertion)

theorem toPacket_cases (l : LDataPDU) :
    (∃ pdu, l.toPacket = .ok pdu) ∨ l.toPacket = .error .assertion := by
  by_cases hpos : 1 ≤ l.data.length
  · by_cases hmax : l.data.length ≤ 0xff
    · by_cases hhop : l.hopcount &&& 0xf8 = 0
      · exact .inl ⟨_, by rw [toPacket, require_of hpos, require_of hmax, require_of hhop]; rfl⟩
      · exact .inr (by rw [toPacket, require_of hpos, require_of hmax, require_of_not hhop]; rfl)
    · exact .inr (by rw [toPacket, require_of hpos, require_of_not hmax]; rfl)
  · exact .inr (by rw [toPacket, require_of_not hpos]; rfl)

theorem takes_takeCEMI (c : EIBNetIPTunnel) {cemi : CArray} (hlength : 2 ≤ cemi.length) :
    Takes c cemi (c.takeCEMI cemi) := by
  unfold takeCEMI
  rw [readAt_of_lt (by omega), ok_bind]
  by_cases hconfirmation : byteAt cemi 0 = 0x2E
  · rw [if_pos hconfirmation]
    exact .quiet (by rw [hconfirmation]; decide)
  by_cases hbusmonitor : byteAt cemi 0 = 0x2B
  · rw [if_neg hconfirmation, if_pos hbusmonitor]
    exact .monitored hbusmonitor
  by_cases hother : byteAt cemi 0 ≠ 0x29
  · rw [if_neg hconfirmation, if_neg hbusmonitor, if_pos hother]
    exact .quiet hbusmonitor
  rw [if_neg hconfirmation, if_neg hbusmonitor, if_neg hother]
  obtain ⟨hnull, -⟩ | ⟨l, hdecode, -⟩ := Acceptance.cemiToLData_decides cemi
  · rw [show cemiToLData cemi = .ok none from hnull, ok_bind]
    exact .quiet hbusmonitor
  rw [show cemiToLData cemi = .ok (some l) from hdecode, ok_bind]
  dsimp only
  split
  · obtain ⟨pdu, hpdu⟩ | hrefused := toPacket_cases l
    · rw [hpdu, ok_bind]
      exact .copied pdu hbusmonitor
    · rw [hrefused, error_bind]
      exact .refused hbusmonitor
  · exact .received l hbusmonitor

theorem length_of_parseTunnelRequest (hparse : parseTunnelRequest p = some treq) :
    2 ≤ treq.cemi.length := by
  unfold parseTunnelRequest parseRequest at hparse
  obtain ⟨-, hparse⟩ := ite_none_left_eq_some.1 hparse
  obtain ⟨_, hparse⟩ := ite_none_left_eq_some.1 hparse
  obtain ⟨-, hparse⟩ := ite_none_left_eq_some.1 hparse
  cases hparse
  rw [length_drop]
  omega

/-- The requests that are taken. -/
theorem reaction_eq_taken_iff : reaction c p = .taken treq ↔
    c.mod ≠ 0 ∧ parseTunnelRequest p = some treq ∧ some treq.channel = c.channel ∧
      treq.seqno.toNat = c.rno := by
  constructor
  · intro htaken
    have horigin := origin_reaction c p
    rw [htaken] at horigin
    generalize hreacted : Reaction.taken treq = reacted at horigin
    cases horigin with
    | ignored | asked | left => cases hreacted
    | response =>
      unfold connectReaction at hreacted
      split_ifs at hreacted
    | @request hmod _ hparse hchannel =>
      unfold requestReaction at hreacted
      split_ifs at hreacted with hprevious hnumber
      · cases hreacted
        exact ⟨hmod, hparse, hchannel, not_not.1 hnumber⟩
    | ack =>
      unfold ackReaction at hreacted
      split_ifs at hreacted
    | state =>
      unfold stateReaction at hreacted
      split_ifs at hreacted
  · rintro ⟨hmod, hparse, hchannel, hnumber⟩
    have hprevious : (treq.seqno.toNat + 1) % 256 ≠ c.rno := by
      have hbyte := treq.seqno.isLt
      omega
    have hservice : p.service = ServiceType.tunnelRequest.code := service_of_parseRequest hparse
    have hrequest : requestReaction c treq = .taken treq := by
      rw [requestReaction, if_neg hprevious, if_neg (not_not.2 hnumber)]
    simp only [reaction, hservice, ServiceType.ofCode_code, if_neg hmod, hparse, forChannel,
      ne_eq, hchannel, not_true_eq_false, if_false, hrequest]

/-- Every other reaction hands nothing up. -/
theorem react_of_not_taken {reaction : Reaction} (hother : ∀ treq, reaction ≠ .taken treq) :
    ∃ result, react c reaction = .ok result ∧ ∀ output ∈ result.2, upward output = .ok none := by
  cases reaction with
  | taken treq => exact absurd rfl (hother treq)
  | connected =>
    refine ⟨_, rfl, fun output houtput => ?_⟩
    simp only [mem_cons, not_mem_nil, or_false] at houtput
    obtain rfl | rfl := houtput <;> rfl
  | restarted =>
    refine ⟨_, rfl, fun output houtput => ?_⟩
    unfold restart at houtput
    split at houtput
    · cases houtput
    · split at houtput
      · cases houtput
      · rw [mem_singleton.1 houtput]
        rfl
  | ignored | alive | left =>
    refine ⟨_, rfl, fun output houtput => ?_⟩
    cases houtput
  | repeated | confirmed | failed | asked =>
    refine ⟨_, rfl, fun output houtput => ?_⟩
    rw [mem_singleton.1 houtput]
    rfl

end Outputs

/-- A request that is taken: only a busmonitor indication can be handed up undecoded. -/
theorem harmless_react_taken_iff (c : EIBNetIPTunnel) {treq : EIBnetRequest}
    (hlength : 2 ≤ treq.cemi.length) :
    Harmless (react c (.taken treq)) ↔
      (byteAt treq.cemi 0 = 0x2B → (byteAt treq.cemi 1).toNat + 3 ≤ treq.cemi.length) := by
  have hack : Decoded (ackOutput c treq) := decoded_of_upward_none rfl
  have htakes := takes_takeCEMI { c with rno := nextNumber c.rno } hlength
  rw [react]
  generalize takeCEMI _ treq.cemi = taken at htakes ⊢
  cases htakes with
  | quiet hcode =>
    refine iff_of_true (harmless_ok_iff.2 ?_) fun hmonitor => absurd hmonitor hcode
    exact forall_mem_singleton.2 hack
  | monitored hcode =>
    rw [ok_bind]
    refine harmless_ok_iff.trans ?_
    rw [forall_mem_cons, forall_mem_singleton, decoded_recvBusmonitorCEMI_iff hlength]
    exact ⟨fun h _ => h.2, fun h => ⟨hack, h hcode⟩⟩
  | received l hcode =>
    refine iff_of_true (harmless_ok_iff.2 ?_) fun hmonitor => absurd hmonitor hcode
    exact forall_mem_cons.2 ⟨hack, forall_mem_singleton.2 (decoded_recvLData l)⟩
  | copied pdu hcode =>
    refine iff_of_true (harmless_ok_iff.2 ?_) fun hmonitor => absurd hmonitor hcode
    exact forall_mem_cons.2 ⟨hack, forall_mem_singleton.2 (decoded_recvLBusmonitor pdu)⟩
  | refused hcode =>
    refine iff_of_true ⟨by simp, fun _ _ hresult => ?_⟩ fun hmonitor => absurd hmonitor hcode
    cases hresult

/-- One packet is handled safely exactly if it is not a busmonitor indication without a frame. -/
theorem safe_iff (c : EIBNetIPTunnel) (p : EIBNetIPPacket) : Safe c p ↔ Monitorable c p := by
  rw [Safe, checkedReadCb_eq, readCb_eq]
  by_cases htaken : ∃ treq, reaction c p = .taken treq
  · obtain ⟨treq, htaken⟩ := htaken
    obtain ⟨hmod, hparse, hchannel, hnumber⟩ := reaction_eq_taken_iff.1 htaken
    rw [htaken, harmless_react_taken_iff c (length_of_parseTunnelRequest hparse)]
    constructor
    · intro h other _ hother _ _
      obtain rfl := some.inj (hparse.symm.trans hother)
      exact h
    · exact fun h => h treq hmod hparse hchannel hnumber
  · push Not at htaken
    obtain ⟨_, hreact, hquiet⟩ := react_of_not_taken (c := c) htaken
    rw [hreact]
    refine iff_of_true (harmless_ok_iff.2 fun output houtput => ?_) ?_
    · exact decoded_of_upward_none (hquiet output houtput)
    · intro treq hmod hparse hchannel hnumber
      exact absurd (reaction_eq_taken_iff.2 ⟨hmod, hparse, hchannel, hnumber⟩) (htaken treq)

/-! ## Sequences of packets -/

/-- A property of every packet of a sequence, in the state in which it arrives. -/
def AllPackets (property : EIBNetIPTunnel → EIBNetIPPacket → Prop) (c : EIBNetIPTunnel) :
    List EIBNetIPPacket → Prop
  | [] => True
  | p :: packets =>
    property c p ∧ ∀ next outputs, c.readCb p = .ok (next, outputs) →
      AllPackets property next packets

/-- For every state of the client and every sequence of packets, of any service and with any
contents, `read_cb` reads inside the packets and hands up decoded frames only, exactly if each
busmonitor indication that it takes has something behind its additional information. -/
theorem readCb_safe_iff (c : EIBNetIPTunnel) (packets : List EIBNetIPPacket) :
    AllPackets Safe c packets ↔ AllPackets Monitorable c packets := by
  induction packets generalizing c with
  | nil => exact Iff.rfl
  | cons p _ ih =>
    refine and_congr (safe_iff c p) (forall_congr' fun next => forall_congr' fun outputs => ?_)
    exact imp_congr_right fun _ => ih next

/-- A busmonitor indication of two bytes: a null pointer is handed up. -/
theorem readCb_not_safe : checkedReadCb { channel := some 1, mod := 1 }
      { service := ServiceType.tunnelRequest.code, data := [4, 1, 0, 0, 0x2B, 0] } =
        .ok ({ channel := some 1, mod := 1, rno := 1 },
          [.send { service := ServiceType.tunnelResponse.code, data := [4, 1, 0, 0] },
            .recvBusmonitorCEMI [0x2B, 0]]) ∧
    upward (.recvBusmonitorCEMI [0x2B, 0]) = .ok (some (.busmonitor none)) :=
  ⟨rfl, rfl⟩

end Knxd.ReadSafety
