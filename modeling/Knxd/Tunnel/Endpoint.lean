import Knxd.Core.Transition
import Knxd.Tunnel.Client

/-!
# The tunnel client and its socket

The tunnel client knows two endpoints of its peer: control packets come from
`caddr`, and data packets from the address `daddr` that the connection response
names.  Its socket drops what comes from elsewhere.  The field `recvall` of the
socket decides whether `recvaddr2`, the data endpoint, is let through; the client
sets it to 3 when it is connected and to 0 when it leaves the connection.

`reaction` says what `read_cb` makes of a packet.  The effect of `read_cb` on the
driver, on the socket and on the state of the connection are then each a function
of the reaction.

`start` is only called on a driver whose socket is closed: the link calls it when
it is down or waits for a retry, and the driver reports that it has stopped only
after `is_stopped` has closed the socket.
-/

namespace Knxd.Endpoint

open Memory LPDU EMI Packet Client Transition EIBNetIPTunnel Option Except List

variable {result : TunnelDriver × List Output}

/-! ## The socket -/

/-- The part of `EIBNetIPSocket` that decides which packets are received. -/
structure Socket where
  recvaddr : SockAddr
  recvaddr2 : SockAddr := {}
  localaddr : SockAddr := {}
  recvall : ℕ := 0
  deriving DecidableEq, Repr

namespace Socket

/-- The test of `io_recv_cb` on the sender of a datagram. -/
def accepts (sock : Socket) (r : SockAddr) : Bool :=
  sock.recvall = 1 ∨ r = sock.recvaddr ∨ (sock.recvall = 2 ∧ r ≠ sock.localaddr) ∨
    (sock.recvall = 3 ∧ r = sock.recvaddr2)

/-- What `restart` does to the socket. -/
def restart (sock : Socket) (c : EIBNetIPTunnel) : Socket :=
  if c.mod = 0 then sock else { sock with recvall := 0 }

end Socket

/-! ## What the client makes of a packet -/

/-- The outcomes of the tests in `read_cb`. -/
inductive Reaction
  | ignored
  | connected (cresp : EIBnetConnectResponse)
  | repeated (treq : EIBnetRequest)
  | taken (treq : EIBnetRequest)
  | confirmed
  | alive
  | failed
  | restarted
  | asked
  | left
  deriving DecidableEq, Repr

def Reaction.isConnected : Reaction → Bool
  | .connected _ => true
  | _ => false

def Reaction.isRepeated : Reaction → Bool
  | .repeated _ => true
  | _ => false

def forChannel {R : Type} (c : EIBNetIPTunnel) (parsed : Option R) (channel : R → Byte)
    (react : R → Reaction) : Reaction :=
  match parsed with
  | none => .ignored
  | some r => if some (channel r) ≠ c.channel then .ignored else react r

/-- The `CONNECTION_RESPONSE` case of `read_cb`. -/
def connectReaction (c : EIBNetIPTunnel) (cresp : EIBnetConnectResponse) : Reaction :=
  if cresp.status ≠ 0 then
    if cresp.status = 0x23 ∧ c.supportBusmonitor ∧ c.monitor then .restarted else .ignored
  else if cresp.crd.length ≠ 3 then .ignored
  else .connected cresp

/-- The `TUNNEL_REQUEST` case of `read_cb`. -/
def requestReaction (c : EIBNetIPTunnel) (treq : EIBnetRequest) : Reaction :=
  if (treq.seqno.toNat + 1) % 256 = c.rno then .repeated treq
  else if treq.seqno.toNat ≠ c.rno then
    if treq.seqno.toNat ≥ c.rno + 5 then .restarted else .ignored
  else .taken treq

/-- The `TUNNEL_RESPONSE` case of `read_cb`. -/
def ackReaction (c : EIBNetIPTunnel) (tresp : EIBnetACK) : Reaction :=
  if tresp.seqno.toNat ≠ c.sno then .ignored
  else if tresp.status ≠ 0 then .ignored
  else if c.mod = 2 then .confirmed
  else .ignored

/-- The `CONNECTIONSTATE_RESPONSE` case of `read_cb`. -/
def stateReaction (csresp : EIBnetControlResponse) : Reaction :=
  if csresp.status = 0 then .alive else if csresp.status = 0x21 then .restarted else .failed

/-- What `read_cb` makes of a packet. -/
def reaction (c : EIBNetIPTunnel) (p1 : EIBNetIPPacket) : Reaction :=
  match ServiceType.ofCode p1.service with
  | some .connectionResponse =>
    if c.mod ≠ 0 then .ignored
    else
      match parseConnectResponse p1 with
      | none => .ignored
      | some cresp => connectReaction c cresp
  | some .tunnelRequest =>
    if c.mod = 0 then .ignored
    else forChannel c (parseTunnelRequest p1) (·.channel) (requestReaction c)
  | some .tunnelResponse =>
    if c.mod = 0 then .ignored
    else forChannel c (parseTunnelACK p1) (·.channel) (ackReaction c)
  | some .connectionStateResponse =>
    forChannel c (parseConnectionStateResponse p1) (·.channel) stateReaction
  | some .disconnectRequest =>
    if c.mod = 0 then .ignored
    else forChannel c (parseDisconnectRequest p1) (·.channel) fun _ => .asked
  | some .disconnectResponse =>
    if c.mod = 0 then .ignored
    else forChannel c (parseDisconnectResponse p1) (·.channel) fun _ => .left
  | _ => .ignored

def ackOutput (c : EIBNetIPTunnel) (treq : EIBnetRequest) : Output :=
  .send (tunnelACKToPacket { channel := c.channelByte, seqno := treq.seqno })

def react (c : EIBNetIPTunnel) : Reaction → Run (EIBNetIPTunnel × List Output)
  | .ignored => pure (c, [])
  | .connected cresp =>
    pure ({ c with
        channel := some cresp.channel, mod := 1, trigger := true, sno := 0, rno := 0
        conntimeout := c.conntimeout || decide (c.heartbeatTime ≠ 0), heartbeat := 0 },
      [.setAddress (joinBytes (byteAt cresp.crd 1) (byteAt cresp.crd 2)), .driverStart])
  | .repeated treq => pure (c, [ackOutput c treq])
  | .taken treq => do
      let (next, outputs) ← { c with rno := nextNumber c.rno }.takeCEMI treq.cemi
      pure (next, ackOutput c treq :: outputs)
  | .confirmed =>
    pure ({ c with sno := nextNumber c.sno, out := [], mod := 1, trigger := true, retry := 0 },
      [.sendNext])
  | .alive => pure ({ c with heartbeat := 0 }, [])
  | .failed => pure (c, [.errored])
  | .restarted => pure c.restart
  | .asked => pure c.disconnectRequest
  | .left => pure c.disconnectResponse

section

variable (c : EIBNetIPTunnel)
include c

theorem tunnelRequest_eq (treq : EIBnetRequest) :
    c.tunnelRequest treq = react c (requestReaction c treq) := by
  unfold tunnelRequest requestReaction
  dsimp only
  split_ifs <;> rfl

theorem tunnelResponse_eq (tresp : EIBnetACK) :
    pure (c.tunnelResponse tresp) = react c (ackReaction c tresp) := by
  unfold tunnelResponse ackReaction
  split_ifs <;> rfl

theorem connectionStateResponse_eq (csresp : EIBnetControlResponse) :
    pure (c.connectionStateResponse csresp) = react c (stateReaction csresp) := by
  unfold connectionStateResponse stateReaction
  split_ifs <;> rfl

theorem connectionResponse_eq (p1 : EIBNetIPPacket)
    (hservice : ServiceType.ofCode p1.service = some .connectionResponse) :
    pure (c.connectionResponse p1) = react c (reaction c p1) := by
  simp only [reaction, hservice, connectionResponse]
  split
  · rfl
  · cases hparsed : parseConnectResponse p1 with
    | none => rfl
    | some =>
      dsimp only [connectReaction]
      split_ifs <;> rfl

theorem react_forChannel {R : Type} (parsed : Option R)
    (channel : R → Byte) (reacts : R → Reaction) :
    react c (forChannel c parsed channel reacts) =
      match parsed with
      | none => pure (c, [])
      | some r => if some (channel r) ≠ c.channel then pure (c, []) else react c (reacts r) := by
  cases parsed with
  | none => rfl
  | some => exact apply_ite (react c) _ _ _

/-- `read_cb` does what its reaction says. -/
theorem readCb_eq (p1 : EIBNetIPPacket) : c.readCb p1 = react c (reaction c p1) := by
  unfold readCb
  split
  case h_1 hservice => exact connectionResponse_eq c p1 hservice
  case h_2 hservice =>
    simp only [reaction, hservice, apply_ite (react c), react_forChannel, tunnelRequest_eq]
    cases parseTunnelRequest p1 <;> rfl
  case h_3 hservice =>
    simp only [reaction, hservice, apply_ite (react c), react_forChannel, apply_ite pure,
      tunnelResponse_eq]
    cases parseTunnelACK p1 <;> rfl
  case h_4 hservice =>
    simp only [reaction, hservice, react_forChannel, apply_ite pure, connectionStateResponse_eq]
    cases parseConnectionStateResponse p1 <;> rfl
  case h_5 hservice =>
    simp only [reaction, hservice, apply_ite (react c), react_forChannel, apply_ite pure]
    cases parseDisconnectRequest p1 <;> rfl
  case h_6 hservice =>
    simp only [reaction, hservice, apply_ite (react c), react_forChannel, apply_ite pure]
    cases parseDisconnectResponse p1 <;> rfl
  case h_7 =>
    unfold reaction
    split <;> first | rfl | contradiction

end

/-! ## The driver with its socket -/

/-- `EIBNetIPTunnel` with its socket and the endpoints of its peer. -/
structure TunnelDriver where
  client : EIBNetIPTunnel := {}
  sock : Option Socket := none
  caddr : SockAddr := {}
  daddr : SockAddr := {}
  nat : Bool := false
  dataport : BitVec 16 := 0
  deriving DecidableEq, Repr

/-- The driver after `setup`. -/
def configured (monitor : Bool) (heartbeatTime heartbeatLimit : ℕ) (dataport : BitVec 16) :
    TunnelDriver :=
  { client := { monitor, heartbeatTime, heartbeatLimit }, dataport }

/-- What `start` finds out from the system: the addresses of the server and of the
socket, and the address that `nat-ip` names. -/
structure Opening where
  caddr : SockAddr
  raddr : SockAddr
  srcip : Option SockAddr := none
  deriving DecidableEq, Repr

inductive Event
  | start (opening : Option Opening)
  | stop
  | packet (p1 : EIBNetIPPacket)
  | sendLData (l : LDataPDU)
  | trigger
  | timeout
  | conntimeout
  | error
  deriving DecidableEq, Repr

/-- The packet of `get_creq`. -/
def connectRequest (saddr : SockAddr) : EIBNetIPPacket :=
  let cri : CArray := [0x04, 0x02, 0x00]
  let nat := decide (saddr.ip = 0)
  { service := ServiceType.connectionRequest.code
    data := ipToEIBNetIP saddr nat ++ ipToEIBNetIP saddr nat ++
      [BitVec.ofNat 8 (cri.length + 1)] ++ cri }

namespace TunnelDriver

/-- `start`; without an opening one of its system calls fails. -/
def start (d : TunnelDriver) : Option Opening → TunnelDriver × List Output
  | none => ({ d with client := d.client.isStopped, sock := none }, [.driverStop])
  | some opening =>
    let saddr := opening.srcip.getD opening.raddr
    ({ d with
        client := { d.client with
          saddr, supportBusmonitor := true, conntimeout := true, out := [] }
        sock := some { recvaddr := opening.caddr }
        caddr := opening.caddr, nat := opening.srcip.isSome },
      [.send (connectRequest saddr)])

def stop (d : TunnelDriver) : TunnelDriver × List Output :=
  let (client, outputs) := d.client.stop
  ({ d with client, sock := none }, outputs)

/-- The data endpoint that `read_cb` takes from a connection response. -/
def dataAddr (d : TunnelDriver) (cresp : EIBnetConnectResponse) : SockAddr :=
  if !cresp.nat ∧ d.nat then
    { ip := d.caddr.ip, port := if d.dataport ≠ 0 then d.dataport else cresp.daddr.port }
  else cresp.daddr

def listen (d : TunnelDriver) (sock : Socket) : Reaction → TunnelDriver
  | .connected cresp =>
    let daddr := d.dataAddr cresp
    { d with daddr, sock := some { sock with recvaddr2 := daddr, recvall := 3 } }
  | .repeated _ | .asked | .left => { d with sock := some { sock with recvall := 0 } }
  | .restarted => { d with sock := some (sock.restart d.client) }
  | _ => d

/-- `io_recv_cb` with the call of `read_cb`. -/
def ioRecvCb (d : TunnelDriver) (sock : Socket) (p1 : EIBNetIPPacket) :
    Run (TunnelDriver × List Output) :=
  if sock.accepts p1.src then do
    let (client, outputs) ← d.client.readCb p1
    pure ({ d.listen sock (reaction d.client p1) with client }, outputs)
  else pure (d, [])

def triggerCb (d : TunnelDriver) : TunnelDriver × List Output :=
  let (client, outputs) := d.client.triggerCb
  ({ d with client }, outputs)

def conntimeoutCb (d : TunnelDriver) : TunnelDriver × List Output :=
  let (client, outputs) := d.client.conntimeoutCb
  let sock :=
    if d.client.mod ≠ 0 then
      if d.client.heartbeat < d.client.heartbeatLimit then d.sock
      else d.sock.map (·.restart d.client)
    else none
  ({ d with client, sock }, outputs)

def timeoutCb (d : TunnelDriver) : TunnelDriver × List Output :=
  let (client, outputs) := d.client.timeoutCb
  let sock :=
    if d.client.mod = 2 ∧ d.client.retry > 3 then d.sock.map (·.restart d.client) else d.sock
  ({ d with client, sock }, outputs)

/-- One call; `none` when it cannot occur or the source would fault in it. -/
def perform (d : TunnelDriver) : Event → Option (TunnelDriver × List Output)
  | .start opening => if d.sock = none then some (d.start opening) else none
  | .stop => some d.stop
  | .packet p1 => d.sock.bind fun sock => (d.ioRecvCb sock p1).toOption
  | .sendLData l => (d.client.sendLData l).toOption.map fun client => ({ d with client }, [])
  | .trigger => if d.client.trigger then some d.triggerCb else none
  | .timeout => if d.client.timeout then some d.timeoutCb else none
  | .conntimeout => if d.client.conntimeout then some d.conntimeoutCb else none
  | .error => some (d, [.errored])

/-- The packet that a call hands to `read_cb`, if any. -/
def receives (d : TunnelDriver) : Event → Option EIBNetIPPacket
  | .packet p1 => if d.sock.any (·.accepts p1.src) then some p1 else none
  | _ => none

/-- The call processes a connection response that makes the connection. -/
def handshakes (d : TunnelDriver) (event : Event) : Bool :=
  (d.receives event).any fun p1 => (reaction d.client p1).isConnected

def repeats (d : TunnelDriver) (event : Event) : Bool :=
  (d.receives event).any fun p1 => (reaction d.client p1).isRepeated

/-- The retransmission timer expires when the request has been sent five times. -/
def overdue (d : TunnelDriver) (event : Event) : Bool :=
  event = .timeout ∧ d.client.mod = 2 ∧ 3 < d.client.retry

def Listening (d : TunnelDriver) : Prop :=
  ∃ sock, d.sock = some sock ∧ sock.recvall = 3 ∧ sock.recvaddr2 = d.daddr

inductive Calls (d : TunnelDriver) : Event → TunnelDriver × List Output → Prop
  | start {opening : Option Opening} : d.sock = none → Calls d (.start opening) (d.start opening)
  | stop : Calls d .stop d.stop
  | drop {p1 : EIBNetIPPacket} : d.receives (.packet p1) = none → Calls d (.packet p1) (d, [])
  | read {p1 : EIBNetIPPacket} {client : EIBNetIPTunnel} {outputs : List Output} (sock : Socket) :
      d.receives (.packet p1) = some p1 → d.client.readCb p1 = .ok (client, outputs) →
      Calls d (.packet p1) ({ d.listen sock (reaction d.client p1) with client }, outputs)
  | sendLData {l : LDataPDU} {client : EIBNetIPTunnel} :
      d.client.sendLData l = .ok client → Calls d (.sendLData l) ({ d with client }, [])
  | trigger : Calls d .trigger d.triggerCb
  | timeout : Calls d .timeout d.timeoutCb
  | conntimeout : Calls d .conntimeout d.conntimeoutCb
  | error : Calls d .error (d, [.errored])

/-- A packet is dropped by the socket or handed to `read_cb`. -/
theorem calls_packet {d : TunnelDriver} {p1 : EIBNetIPPacket}
    (hperform : d.perform (.packet p1) = some result) : Calls d (.packet p1) result := by
  obtain ⟨sock, _, hrecv⟩ := bind_eq_some_iff.1 hperform
  rw [toOption_eq_some_iff, ioRecvCb] at hrecv
  split at hrecv
  · obtain ⟨⟨_, _⟩, hread, hnext⟩ := bind_eq_ok_iff.1 hrecv
    cases hnext
    exact .read sock (by simp_all [receives]) hread
  · cases hrecv
    exact .drop (by simp_all [receives])

/-- Inversion of a call. -/
theorem calls_of_perform {d : TunnelDriver} {event : Event}
    (hperform : d.perform event = some result) : Calls d event result := by
  cases event with
  | start =>
    obtain ⟨hsock, hstart⟩ := ite_none_right_eq_some.1 hperform
    cases hstart
    exact .start hsock
  | stop =>
    cases hperform
    exact .stop
  | packet => exact calls_packet hperform
  | sendLData =>
    rw [perform, map_eq_some_iff] at hperform
    obtain ⟨_, hsend, rfl⟩ := hperform
    exact .sendLData (toOption_eq_some_iff.1 hsend)
  | trigger =>
    obtain rfl := some.inj (ite_none_right_eq_some.1 hperform).2
    exact .trigger
  | timeout =>
    obtain rfl := some.inj (ite_none_right_eq_some.1 hperform).2
    exact .timeout
  | conntimeout =>
    obtain rfl := some.inj (ite_none_right_eq_some.1 hperform).2
    exact .conntimeout
  | error =>
    cases hperform
    exact .error

/-! ## What a call can do to the connection -/

/-- The ways in which a call can leave the connection. -/
inductive Change (d : TunnelDriver) (event : Event) (next : TunnelDriver) : Prop
  | connects (hevent : d.handshakes event = true) (hsock : next.Listening)
  | without (hmod : next.client.mod = 0)
  | opens (hsock : d.sock = none) (hmod : d.client.mod ≠ 0)
  | keeps (hmod : d.client.mod ≠ 0) (hsock : next.sock = d.sock) (hdaddr : next.daddr = d.daddr)
  | repeats (hmod : d.client.mod ≠ 0) (hevent : d.repeats event = true)
  | overdue (hevent : d.overdue event = true)

end TunnelDriver

theorem restart_mod (c : EIBNetIPTunnel) : c.restart.1.mod = 0 := by
  unfold restart
  split
  · assumption
  · rfl

inductive Origin (c : EIBNetIPTunnel) (p1 : EIBNetIPPacket) : Reaction → Prop
  | ignored : Origin c p1 .ignored
  | response (hmod : c.mod = 0) {cresp : EIBnetConnectResponse}
      (hparse : parseConnectResponse p1 = some cresp) : Origin c p1 (connectReaction c cresp)
  | request (hmod : c.mod ≠ 0) {treq : EIBnetRequest} (hparse : parseTunnelRequest p1 = some treq)
      (hchannel : some treq.channel = c.channel) : Origin c p1 (requestReaction c treq)
  | ack (hmod : c.mod ≠ 0) (tresp : EIBnetACK) : Origin c p1 (ackReaction c tresp)
  | state (csresp : EIBnetControlResponse) : Origin c p1 (stateReaction csresp)
  | asked (hmod : c.mod ≠ 0) : Origin c p1 .asked
  | left (hmod : c.mod ≠ 0) : Origin c p1 .left

variable {c : EIBNetIPTunnel} {p1 : EIBNetIPPacket}

theorem origin_forChannel {R : Type} {parsed : Option R} {channel : R → Byte}
    {reacts : R → Reaction}
    (hreacts : ∀ r, parsed = some r → some (channel r) = c.channel → Origin c p1 (reacts r)) :
    Origin c p1 (forChannel c parsed channel reacts) := by
  unfold forChannel
  split
  · exact .ignored
  · split
    · exact .ignored
    · exact hreacts _ rfl (not_not.1 ‹_›)

theorem origin_reaction (c : EIBNetIPTunnel) (p1 : EIBNetIPPacket) :
    Origin c p1 (reaction c p1) := by
  unfold reaction
  split
  · split
    · exact .ignored
    · split
      · exact .ignored
      · exact .response (not_not.1 ‹_›) ‹_›
  · split
    · exact .ignored
    · exact origin_forChannel fun treq hparse hchannel => .request ‹_› hparse hchannel
  · split
    · exact .ignored
    · exact origin_forChannel fun tresp _ _ => .ack ‹_› tresp
  · exact origin_forChannel fun csresp _ _ => .state csresp
  · split
    · exact .ignored
    · exact origin_forChannel fun _ _ _ => .asked ‹_›
  · split
    · exact .ignored
    · exact origin_forChannel fun _ _ _ => .left ‹_›
  · exact .ignored

/-- Without a connection only a response or the state of the connection is looked
at. -/
theorem reaction_closed (p1 : EIBNetIPPacket) (hmod : c.mod = 0)
    (hconnected : (reaction c p1).isConnected = false) :
    reaction c p1 ∈ [.ignored, .alive, .failed, .restarted] := by
  have horigin := origin_reaction c p1
  generalize reaction c p1 = reacted at hconnected horigin
  cases horigin with
  | ignored => simp
  | response =>
    unfold connectReaction at hconnected ⊢
    split_ifs at hconnected ⊢ <;> simp_all [Reaction.isConnected]
  | state =>
    unfold stateReaction
    split_ifs <;> simp
  | request hopen | ack hopen | asked hopen | left hopen => exact absurd hmod hopen

/-- A connection is made by a response without an error and with the right connection
data. -/
theorem reaction_connected (hconnected : (reaction c p1).isConnected = true) :
    ∃ cresp, parseConnectResponse p1 = some cresp ∧ cresp.status = 0 ∧ cresp.crd.length = 3 := by
  have horigin := origin_reaction c p1
  generalize reaction c p1 = reacted at hconnected horigin
  cases horigin with
  | ignored | asked | left => cases hconnected
  | response _ hparse =>
    unfold connectReaction at hconnected
    split_ifs at hconnected with hstatus _ hcrd
    · cases hconnected
    · cases hconnected
    · cases hconnected
    · exact ⟨_, hparse, not_not.1 hstatus, not_not.1 hcrd⟩
  | request =>
    unfold requestReaction at hconnected
    split_ifs at hconnected <;> cases hconnected
  | ack =>
    unfold ackReaction at hconnected
    split_ifs at hconnected <;> cases hconnected
  | state =>
    unfold stateReaction at hconnected
    split_ifs at hconnected <;> cases hconnected

/-- Only the request before the one that is awaited counts as repeated. -/
theorem reaction_repeated (hrepeated : (reaction c p1).isRepeated = true) :
    ∃ treq, parseTunnelRequest p1 = some treq ∧ some treq.channel = c.channel ∧
      (treq.seqno.toNat + 1) % 256 = c.rno := by
  have horigin := origin_reaction c p1
  generalize reaction c p1 = reacted at hrepeated horigin
  cases horigin with
  | ignored | asked | left => cases hrepeated
  | response =>
    unfold connectReaction at hrepeated
    split_ifs at hrepeated <;> cases hrepeated
  | request _ hparse hchannel =>
    unfold requestReaction at hrepeated
    split_ifs at hrepeated with hprevious
    · exact ⟨_, hparse, hchannel, hprevious⟩
    all_goals cases hrepeated
  | ack =>
    unfold ackReaction at hrepeated
    split_ifs at hrepeated <;> cases hrepeated
  | state =>
    unfold stateReaction at hrepeated
    split_ifs at hrepeated <;> cases hrepeated

/-- The output passes a tunnel request on, acknowledges one or is one. -/
def tunnels : Output → Bool
  | .send packet =>
    packet.service = ServiceType.tunnelRequest.code ∨
      packet.service = ServiceType.tunnelResponse.code
  | .recvLData _ | .recvLBusmonitor _ | .recvBusmonitorCEMI _ => true
  | _ => false

theorem restart_closed (hmod : c.mod = 0) : c.restart = (c, []) :=
  if_pos hmod

/-- Without a connection no packet but a connection response makes one, and no
tunnel request is taken. -/
theorem readCb_closed {c next : EIBNetIPTunnel} {outputs : List Output} (hmod : c.mod = 0)
    (hconnected : (reaction c p1).isConnected = false) (hread : c.readCb p1 = .ok (next, outputs)) :
    next.mod = 0 ∧ ∀ output ∈ outputs, tunnels output = false := by
  have hclosed := reaction_closed p1 hmod hconnected
  rw [readCb_eq] at hread
  generalize reaction c p1 = reacted at hclosed hread
  simp only [mem_cons, not_mem_nil, or_false] at hclosed
  rcases hclosed with rfl | rfl | rfl | rfl
  · obtain ⟨rfl, rfl⟩ := Prod.mk.inj (ok.inj hread)
    exact ⟨hmod, by simp⟩
  · obtain ⟨rfl, rfl⟩ := Prod.mk.inj (ok.inj hread)
    exact ⟨hmod, by simp⟩
  · obtain ⟨rfl, rfl⟩ := Prod.mk.inj (ok.inj hread)
    exact ⟨hmod, by simp [tunnels]⟩
  · rw [react, restart_closed hmod] at hread
    obtain ⟨rfl, rfl⟩ := Prod.mk.inj (ok.inj hread)
    exact ⟨hmod, by simp⟩

/-- The reactions that leave the connection. -/
theorem readCb_leaves {c next : EIBNetIPTunnel} {outputs : List Output}
    (hreaction : reaction c p1 ∈ [.restarted, .asked, .left])
    (hread : c.readCb p1 = .ok (next, outputs)) : next.mod = 0 := by
  rw [readCb_eq] at hread
  simp only [mem_cons, not_mem_nil, or_false] at hreaction
  rcases hreaction with hreaction | hreaction | hreaction
  · rw [hreaction] at hread
    obtain ⟨rfl, -⟩ := Prod.mk.inj (ok.inj hread)
    exact restart_mod c
  · rw [hreaction] at hread
    obtain ⟨rfl, -⟩ := Prod.mk.inj (ok.inj hread)
    rfl
  · rw [hreaction] at hread
    obtain ⟨rfl, -⟩ := Prod.mk.inj (ok.inj hread)
    rfl

namespace TunnelDriver

variable {d next : TunnelDriver} {event : Event} {outputs : List Output}

/-- A call that touches neither the socket nor the address of the data endpoint, and
that does not make a connection. -/
theorem Change.of_client {client : EIBNetIPTunnel} (hmod : d.client.mod = 0 → client.mod = 0) :
    Change d event { d with client } := by
  by_cases hopen : d.client.mod = 0
  · exact .without (hmod hopen)
  · exact .keeps hopen rfl rfl

theorem change_start {opening : Option Opening} (hsock : d.sock = none) :
    Change d event (d.start opening).1 := by
  by_cases hopen : d.client.mod = 0
  · apply Change.without
    cases opening <;> exact hopen
  · exact .opens hsock hopen

theorem change_stop : Change d event d.stop.1 := .without (restart_mod d.client)

theorem change_conntimeoutCb : Change d event d.conntimeoutCb.1 := by
  unfold conntimeoutCb EIBNetIPTunnel.conntimeoutCb
  dsimp only
  split
  · split
    · exact .keeps ‹_› rfl rfl
    · exact .without (restart_mod _)
  · exact .without (not_not.1 ‹_›)

theorem change_timeoutCb : Change d .timeout d.timeoutCb.1 := by
  by_cases hlate : d.client.mod = 2 ∧ 3 < d.client.retry
  · exact .overdue (by simp [overdue, hlate])
  · have hsock : d.timeoutCb.1.sock = d.sock := if_neg hlate
    by_cases hmod : d.client.mod = 0
    · have hclient : d.timeoutCb.1.client.mod = 0 := by
        simp [timeoutCb, EIBNetIPTunnel.timeoutCb, hmod]
      exact .without hclient
    · exact .keeps hmod hsock rfl

/-- What `read_cb` does to the connection follows from its reaction. -/
theorem change_readCb {p1 : EIBNetIPPacket} {client : EIBNetIPTunnel} (sock : Socket)
    (hreceives : d.receives event = some p1) (hread : d.client.readCb p1 = .ok (client, outputs)) :
    Change d event { d.listen sock (reaction d.client p1) with client } := by
  have hhandshakes : d.handshakes event = (reaction d.client p1).isConnected := by
    simp [handshakes, hreceives]
  have hrepeats : d.repeats event = (reaction d.client p1).isRepeated := by
    simp [repeats, hreceives]
  by_cases hconnected : (reaction d.client p1).isConnected = false
  · by_cases hmod : d.client.mod = 0
    · exact .without (readCb_closed hmod hconnected hread).1
    · by_cases hleaves : reaction d.client p1 ∈ [.restarted, .asked, .left]
      · exact .without (readCb_leaves hleaves hread)
      · generalize reaction d.client p1 = reacted at hrepeats hconnected hleaves
        cases reacted with
        | connected => cases hconnected
        | restarted | asked | left => simp at hleaves
        | repeated => exact .repeats hmod hrepeats
        | ignored | taken | confirmed | alive | failed => exact .keeps hmod rfl rfl
  · rw [Bool.not_eq_false] at hconnected
    generalize reaction d.client p1 = reacted at hhandshakes hconnected
    cases reacted with
    | connected => exact .connects hhandshakes ⟨_, rfl, rfl, rfl⟩
    | _ => cases hconnected

theorem sendLData_mod {c client : EIBNetIPTunnel} {l : LDataPDU}
    (hsend : c.sendLData l = .ok client) : client.mod = c.mod := by
  obtain ⟨_, _, hsend⟩ := bind_eq_ok_iff.1 hsend
  obtain ⟨_, _, hsend⟩ := bind_eq_ok_iff.1 hsend
  rw [← ok.inj hsend]

theorem triggerCb_closed {c : EIBNetIPTunnel} (hmod : c.mod = 0) :
    c.triggerCb = ({ c with trigger := false }, []) :=
  if_pos (Or.inl (by omega))

theorem change_triggerCb : Change d event d.triggerCb.1 := by
  have hclosed : d.client.mod = 0 → d.client.triggerCb.1.mod = 0 := by
    intro hmod
    rw [triggerCb_closed hmod]
    exact hmod
  exact .of_client hclosed

/-- What a call does to the connection. -/
theorem change_of_perform (hperform : d.perform event = some result) : Change d event result.1 := by
  cases calls_of_perform hperform with
  | start hsock => exact change_start hsock
  | stop => exact change_stop
  | drop | error => exact .of_client id
  | read sock hreceives hread => exact change_readCb sock hreceives hread
  | sendLData hsend => exact .of_client fun hmod => by rw [sendLData_mod hsend, hmod]
  | trigger => exact change_triggerCb
  | timeout => exact change_timeoutCb
  | conntimeout => exact change_conntimeoutCb

end TunnelDriver

/-! ## A server with two endpoints -/

def controlAddr : SockAddr := { ip := 0xc0a80001, port := 3671 }

def dataAddr : SockAddr := { ip := 0xc0a80001, port := 3672 }

def opening : Opening := { caddr := controlAddr, raddr := { ip := 0xc0a80002, port := 40000 } }

/-- The server accepts the connection on channel 7 and names its data endpoint. -/
def accepting : EIBNetIPPacket :=
  { EIBnetConnectResponse.toPacket
      { daddr := dataAddr, channel := 7, crd := [0x04, 0x11, 0x01] } with src := controlAddr }

def telegramFrom (src : SockAddr) : EIBNetIPPacket :=
  { tunnelRequestToPacket
      { channel := 7, seqno := 0
        cemi := [0x29, 0x00, 0xbc, 0xe0, 0x11, 0x02, 0x08, 0x01, 0x01, 0x00, 0x81] } with src }

end Knxd.Endpoint
