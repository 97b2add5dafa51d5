import Knxd.Codec.EMI
import Knxd.Tunnel.Packet

/-!
# The tunnel client

`EIBNetIPTunnel` connects the router to a remote EIBnet/IP server.  `mod` is 0
without a connection, 1 when a frame may be sent and 2 while the
acknowledgement of the frame in `out` is awaited.  Every callback of the source
is a function to the next state and the effects it has, in their order.

The callbacks run one at a time from the event loop.  The flags `trigger`,
`timeout` and `conntimeout` say which of them the loop may call; the loop clears
a flag when it calls.  Which of the peer's two endpoints a packet goes to is not
modelled.
-/

namespace Knxd.Client

open Memory LPDU EMI Packet

/-- `EIBNetIPTunnel`: its configuration, the state of its connection and what
the event loop may call.  A `channel` of −1 is `none`. -/
structure EIBNetIPTunnel where
  monitor : Bool := false
  supportBusmonitor : Bool := true
  heartbeatTime : ℕ := 30
  heartbeatLimit : ℕ := 3
  saddr : SockAddr := {}
  channel : Option Byte := none
  mod : ℕ := 0
  rno : ℕ := 0
  sno : ℕ := 0
  heartbeat : ℕ := 0
  retry : ℕ := 0
  out : CArray := []
  trigger : Bool := false
  timeout : Bool := false
  conntimeout : Bool := false
  deriving DecidableEq, Repr

/-- The increment of `rno` and `sno`, with its wrap after 0xff. -/
def nextNumber (number : ℕ) : ℕ :=
  if number + 1 > 0xff then 0 else number + 1

theorem nextNumber_mod (number : ℕ) : nextNumber (number % 256) = (number + 1) % 256 := by
  unfold nextNumber
  split <;> omega

namespace EIBNetIPTunnel

def channelByte (c : EIBNetIPTunnel) : Byte :=
  c.channel.getD 0xff

/-- `is_stopped`: closes the socket and stops all watchers. -/
def isStopped (c : EIBNetIPTunnel) : EIBNetIPTunnel :=
  { c with timeout := false, conntimeout := false, trigger := false }

/-- `restart`: leaves the connection. -/
def restart (c : EIBNetIPTunnel) : EIBNetIPTunnel × List Output :=
  if c.mod = 0 then (c, [])
  else
    ({ c with mod := 0, conntimeout := true },
      match c.channel with
      | none => []
      | some channel => [.send (disconnectRequestToPacket { channel, caddr := c.saddr })])

def stop (c : EIBNetIPTunnel) : EIBNetIPTunnel × List Output :=
  let (left, outputs) := c.restart
  (left.isStopped, outputs ++ [.driverStop])

/-- The `CONNECTION_RESPONSE` case of `read_cb`. -/
def connectionResponse (c : EIBNetIPTunnel) (p : EIBNetIPPacket) :
    EIBNetIPTunnel × List Output :=
  if c.mod ≠ 0 then (c, [])
  else
    match parseConnectResponse p with
    | none => (c, [])
    | some cresp =>
      if cresp.status ≠ 0 then
        if cresp.status = 0x23 ∧ c.supportBusmonitor ∧ c.monitor then c.restart else (c, [])
      else if cresp.crd.length ≠ 3 then (c, [])
      else
        ({ c with
            channel := some cresp.channel, mod := 1, trigger := true, sno := 0, rno := 0
            conntimeout := c.conntimeout || decide (c.heartbeatTime ≠ 0), heartbeat := 0 },
          [.setAddress (joinBytes (byteAt cresp.crd 1) (byteAt cresp.crd 2)), .driverStart])

/-- What `read_cb` does with the message of a request that it takes. -/
def takeCEMI (c : EIBNetIPTunnel) (cemi : CArray) : Run (EIBNetIPTunnel × List Output) := do
  let code ← readAt cemi 0
  if code = 0x2E then
    pure (if c.mod = 3 then { c with mod := 1, trigger := true } else c, [])
  else if code = 0x2B then pure (c, [.recvBusmonitorCEMI cemi])
  else if code ≠ 0x29 then pure (c, [])
  else
    match ← cemiToLData cemi with
    | none => pure (c, [])
    | some l =>
      if c.monitor then
        let pdu ← l.toPacket
        pure (c, [.recvLBusmonitor pdu])
      else pure (c, [.recvLData l])

/-- The `TUNNEL_REQUEST` case of `read_cb`, for a request on the client's own
channel. -/
def tunnelRequest (c : EIBNetIPTunnel) (treq : EIBnetRequest) :
    Run (EIBNetIPTunnel × List Output) :=
  let ack := Output.send (tunnelACKToPacket { channel := c.channelByte, seqno := treq.seqno })
  if (treq.seqno.toNat + 1) % 256 = c.rno then pure (c, [ack])
  else if treq.seqno.toNat ≠ c.rno then
    -- `treq.seqno += 0x100` does not change the byte, so a number below `rno` stays below
    pure (if treq.seqno.toNat ≥ c.rno + 5 then c.restart else (c, []))
  else do
    let (next, outputs) ← takeCEMI { c with rno := nextNumber c.rno } treq.cemi
    pure (next, ack :: outputs)

/-- The `TUNNEL_RESPONSE` case of `read_cb`, for an acknowledgement on the
client's own channel. -/
def tunnelResponse (c : EIBNetIPTunnel) (tresp : EIBnetACK) : EIBNetIPTunnel × List Output :=
  if tresp.seqno.toNat ≠ c.sno then (c, [])
  else if tresp.status ≠ 0 then (c, [])
  else if c.mod = 2 then
    ({ c with sno := nextNumber c.sno, out := [], mod := 1, trigger := true, retry := 0 },
      [.sendNext])
  else (c, [])

/-- The `CONNECTIONSTATE_RESPONSE` case of `read_cb`, for the client's own
channel. -/
def connectionStateResponse (c : EIBNetIPTunnel) (csresp : EIBnetControlResponse) :
    EIBNetIPTunnel × List Output :=
  if csresp.status = 0 then ({ c with heartbeat := 0 }, [])
  else if csresp.status = 0x21 then c.restart
  else (c, [.errored])

/-- The `DISCONNECT_REQUEST` case of `read_cb`, for the client's own channel. -/
def disconnectRequest (c : EIBNetIPTunnel) : EIBNetIPTunnel × List Output :=
  ({ c with mod := 0, conntimeout := true },
    [.send (disconnectResponseToPacket { channel := c.channelByte })])

/-- The `DISCONNECT_RESPONSE` case of `read_cb`, for the client's own channel.
As `mod` is cleared first, the call of `restart` does nothing. -/
def disconnectResponse (c : EIBNetIPTunnel) : EIBNetIPTunnel × List Output :=
  let (left, outputs) := restart { c with mod := 0 }
  ({ left with conntimeout := true }, outputs)

def readCb (c : EIBNetIPTunnel) (p1 : EIBNetIPPacket) : Run (EIBNetIPTunnel × List Output) :=
  match ServiceType.ofCode p1.service with
  | some .connectionResponse => pure (c.connectionResponse p1)
  | some .tunnelRequest =>
    if c.mod = 0 then pure (c, [])
    else
      match parseTunnelRequest p1 with
      | none => pure (c, [])
      | some treq => if some treq.channel ≠ c.channel then pure (c, []) else c.tunnelRequest treq
  | some .tunnelResponse =>
    if c.mod = 0 then pure (c, [])
    else
      match parseTunnelACK p1 with
      | none => pure (c, [])
      | some tresp =>
        pure (if some tresp.channel ≠ c.channel then (c, []) else c.tunnelResponse tresp)
  | some .connectionStateResponse =>
    match parseConnectionStateResponse p1 with
    | none => pure (c, [])
    | some csresp =>
      pure (if some csresp.channel ≠ c.channel then (c, [])
        else c.connectionStateResponse csresp)
  | some .disconnectRequest =>
    if c.mod = 0 then pure (c, [])
    else
      match parseDisconnectRequest p1 with
      | none => pure (c, [])
      | some dreq => pure (if some dreq.channel ≠ c.channel then (c, []) else c.disconnectRequest)
  | some .disconnectResponse =>
    if c.mod = 0 then pure (c, [])
    else
      match parseDisconnectResponse p1 with
      | none => pure (c, [])
      | some dresp =>
        pure (if some dresp.channel ≠ c.channel then (c, []) else c.disconnectResponse)
  | _ => pure (c, [])

def sendLData (c : EIBNetIPTunnel) (l : LDataPDU) : Run EIBNetIPTunnel := do
  require (c.out.length = 0)
  let out ← lDataToCEMI 0x11 l
  pure { c with out, trigger := true }

def triggerCb (c : EIBNetIPTunnel) : EIBNetIPTunnel × List Output :=
  if c.mod ≠ 1 ∨ c.out.length = 0 then ({ c with trigger := false }, [])
  else
    ({ c with trigger := false, mod := 2, timeout := true },
      [.send (tunnelRequestToPacket
        { channel := c.channelByte, seqno := BitVec.ofNat 8 c.sno, cemi := c.out })])

def conntimeoutCb (c : EIBNetIPTunnel) : EIBNetIPTunnel × List Output :=
  let fired := { c with conntimeout := false }
  if c.mod ≠ 0 then
    if c.heartbeat < c.heartbeatLimit then
      ({ fired with heartbeat := c.heartbeat + 1, conntimeout := decide (c.heartbeatTime ≠ 0) },
        [.send (connectionStateRequestToPacket
          { channel := c.channelByte, caddr := c.saddr, nat := decide (c.saddr.ip = 0) })])
    else fired.restart
  else (fired.isStopped, [.errored])

/-- `timeout_cb`.  After the fourth retransmission the client leaves the
connection, and then sets `mod` to 1 all the same. -/
def timeoutCb (c : EIBNetIPTunnel) : EIBNetIPTunnel × List Output :=
  let fired := { c with timeout := false }
  if c.mod ≠ 2 then (fired, [])
  else
    let retried := { fired with retry := c.retry + 1 }
    let (left, outputs) :=
      if c.retry > 3 then restart { retried with out := [] } else (retried, [])
    ({ left with mod := 1, trigger := true }, outputs)

end EIBNetIPTunnel

end Knxd.Client
