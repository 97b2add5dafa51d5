import Knxd.Routing.ClientAddrs
import Knxd.Tunnel.Connection

/-!
# The EIBnet/IP server and its connections

`EIBnetServer` accepts connections, gives each tunnel client an address from the
router's block, and passes every other packet to the connection with its channel.
A connection that is stopped gives its address back at once, but stays in the
list until the drop queue is processed.

The server shares the block with other users of the router.  The addresses they
hold are kept in `others`, so that it can be said what is marked on behalf of the
server.
-/

namespace Knxd.Server

open Memory LPDU Packet Connection ClientAddrs

/-- A connection object.  The source compares connections by their address in
memory; `ident` stands for that. -/
structure Conn where
  ident : ℕ
  state : ConnState
  deriving DecidableEq, Repr

structure EIBnetServer where
  tunnel : Bool := true
  addr : Addr
  pool : AddrPool
  others : List Addr := []
  connections : List Conn := []
  dropQ : List ℕ := []
  created : ℕ := 0
  deriving DecidableEq, Repr

/-- `E_CONNECTION_TYPE`. -/
def connectionTypeError : Byte := 0x22

/-- `E_NO_MORE_CONNECTIONS`. -/
def noMoreConnectionsError : Byte := 0x24

def unknownChannelStatus : Byte := 0x21

/-- What a connection request meets outside the server: the addresses that
links have, whether the new link can be set up and registered, and the server's
own address towards the client. -/
structure Env where
  known : Addr → Bool
  setupOk : Bool
  source : Option SockAddr

def releases (outputs : List Output) : List Addr :=
  outputs.filterMap fun | .releaseClientAddr addr => some addr | _ => none

namespace EIBnetServer

/-- Writes back the state of a connection after one of its handlers, releases
the addresses it gives back, and queues it if it is to be dropped.  The link of a
stopped connection calls its `stop` again, and the connection is queued twice; the second
time, `drop_trigger_cb` does not find it. -/
def update (s : EIBnetServer) (ident : ℕ) (result : ConnState × List Output) : EIBnetServer :=
  { s with
    connections := s.connections.map fun conn =>
      if conn.ident = ident then { conn with state := result.1 } else conn
    pool := (releases result.2).foldl AddrPool.releaseClientAddr s.pool
    dropQ := s.dropQ ++ if .dropConnection ∈ result.2 then [ident] else [] }

def findChannel (s : EIBnetServer) (channel : Byte) : Option Conn :=
  s.connections.find? (·.state.channel = channel)

/-- The channel that the loop at the start of `addClient` ends with: the smallest
one from 1 on that no connection has. -/
def freeChannel (s : EIBnetServer) : ℕ :=
  (((List.range 256).map (· + 1)).find? fun id =>
    ∀ conn ∈ s.connections, conn.state.channel.toNat ≠ id).getD 256

def addClient (s : EIBnetServer) (type : ConnType) (r1 : EIBnetConnectRequest) (addr : Addr)
    (env : Env) : EIBnetServer × ℤ :=
  let id := s.freeChannel
  if id ≤ 0xff then
    if env.setupOk then
      ({ s with
          connections := s.connections ++ [⟨s.created,
            { addr, channel := BitVec.ofNat 8 id, type, nat := r1.nat
              caddr := r1.caddr, daddr := r1.daddr }⟩]
          created := s.created + 1 }, id)
    else (s, -1)
  else (s, id)

/-- What becomes of the response when `addClient` returned `id`. -/
def grantChannel (id : ℤ) (r2 : EIBnetConnectResponse) : EIBnetConnectResponse :=
  if id ≤ 0xff then { r2 with channel := BitVec.ofInt 8 id, status := 0 } else r2

/-- The `CONNECTION_REQUEST` case of `handle_packet` for a tunnel, once an address
was asked for. -/
def connectTunnel (s : EIBnetServer) (r1 : EIBnetConnectRequest) (a : Addr) (env : Env) :
    EIBnetServer × EIBnetConnectResponse :=
  let r2 : EIBnetConnectResponse :=
    { status := connectionTypeError, crd := [0x04, highByte a, lowByte a] }
  if s.tunnel = false then (s, r2)
  else if a = 0 then (s, { r2 with status := noMoreConnectionsError })
  else if byteAt r1.cri 1 = 0x02 ∨ byteAt r1.cri 1 = 0x80 then
    let (next, id) :=
      s.addClient (if byteAt r1.cri 1 = 0x80 then .busmonitor else .standard) r1 a env
    (next, grantChannel id r2)
  else (s, { r2 with status := tunnelingLayerError })

/-- The `CONNECTION_REQUEST` case of `handle_packet` up to the sending of the
response. -/
def connectRequest (s : EIBnetServer) (r1 : EIBnetConnectRequest) (env : Env) :
    EIBnetServer × EIBnetConnectResponse :=
  if r1.cri.length = 3 ∧ byteAt r1.cri 0 = 4 then
    let (a, pool) := if s.tunnel then s.pool.getClientAddr s.addr env.known else (0, s.pool)
    { s with pool }.connectTunnel r1 a env
  else if r1.cri.length = 1 ∧ byteAt r1.cri 0 = 3 then
    let (next, id) := s.addClient .config r1 0 env
    (next, grantChannel id { status := connectionTypeError, crd := [0x03] })
  else (s, { status := connectionTypeError })

def dispatch {R : Type} (s : EIBnetServer) (parsed : Option R) (channel : R → Byte)
    (handle : ConnState → R → Run (ConnState × List Output)) (unknown : R → List EIBNetIPPacket) :
    Run (EIBnetServer × List EIBNetIPPacket) :=
  match parsed with
  | none => pure (s, [])
  | some r1 =>
    match s.findChannel (channel r1) with
    | none => pure (s, unknown r1)
    | some conn => do
        let result ← handle conn.state r1
        pure (s.update conn.ident result, sentPackets result.2)

/-- `handle_packet`: the next state and the packets sent. -/
def handlePacket (s : EIBnetServer) (p1 : EIBNetIPPacket) (env : Env) :
    Run (EIBnetServer × List EIBNetIPPacket) :=
  match ServiceType.ofCode p1.service with
  | some .connectionStateRequest =>
    s.dispatch (parseConnectionStateRequest p1) (·.channel)
      (fun conn r1 => pure (conn.connectionStateRequest r1)) fun r1 =>
      [connectionStateResponseToPacket ⟨r1.channel, unknownChannelStatus⟩]
  | some .disconnectRequest =>
    s.dispatch (parseDisconnectRequest p1) (·.channel)
      (fun conn r1 => pure (conn.disconnectRequest r1)) fun r1 =>
      [disconnectResponseToPacket ⟨r1.channel, unknownChannelStatus⟩]
  | some .connectionRequest =>
    match parseConnectRequest p1 with
    | none => pure (s, [])
    | some r1 =>
      let (next, r2) := s.connectRequest r1 env
      pure (next, match env.source with
        | some daddr => [{ r2 with daddr, nat := r1.nat }.toPacket]
        | none => [])
  | some .tunnelRequest =>
    if s.tunnel then
      s.dispatch (parseTunnelRequest p1) (·.channel) ConnState.tunnelRequest fun _ => []
    else pure (s, [])
  | some .tunnelResponse =>
    if s.tunnel then
      s.dispatch (parseTunnelACK p1) (·.channel) ConnState.tunnelResponse fun _ => []
    else pure (s, [])
  | some .deviceConfigurationRequest =>
    s.dispatch (parseConfigRequest p1) (·.channel) ConnState.configRequest fun _ => []
  | some .deviceConfigurationAck =>
    s.dispatch (parseConfigACK p1) (·.channel) ConnState.configResponse fun _ => []
  | _ => pure (s, [])

def dropTriggerCb (s : EIBnetServer) : EIBnetServer :=
  { s with
    connections := s.dropQ.foldl (fun connections ident =>
      connections.eraseP (·.ident = ident)) s.connections
    dropQ := [] }

/-- The loop of `stop_` over the connections, from the last to the first. -/
def stopAll (s : EIBnetServer) : EIBnetServer :=
  s.connections.reverse.foldl (fun s conn => s.update conn.ident conn.state.stop) s

end EIBnetServer

inductive Event
  | packet (p1 : EIBNetIPPacket) (env : Env)
  | sendLData (ident : ℕ) (l : LDataPDU)
  | sendLBusmonitor (ident : ℕ) (pdu : CArray) (timestamp : BitVec 32)
  | sendTrigger (ident : ℕ)
  | sendtimeout (ident : ℕ)
  | timeout (ident : ℕ) (source : Option SockAddr)
  | stopConnection (ident : ℕ)
  | stopServer
  | dropTrigger
  | otherAllocates (known : Addr → Bool)
  | otherReleases (addr : Addr)

namespace EIBnetServer

def onConnection (s : EIBnetServer) (ident : ℕ) (due : ConnState → Bool)
    (handle : ConnState → Run (ConnState × List Output)) : Option EIBnetServer :=
  match s.connections.find? (·.ident = ident) with
  | none => none
  | some conn =>
    if due conn.state then (handle conn.state).toOption.map (s.update conn.ident) else none

/-- One event.  There is no next state when the event cannot happen or the process
ends with a fault. -/
def step (s : EIBnetServer) : Event → Option EIBnetServer
  | .packet p1 env => (s.handlePacket p1 env).toOption.map (·.1)
  | .sendLData ident l =>
    s.onConnection ident (fun _ => true) fun conn => do
      let next ← conn.sendLData l
      pure (next, [])
  | .sendLBusmonitor ident pdu timestamp =>
    s.onConnection ident (fun _ => true) fun conn =>
      pure (conn.sendLBusmonitor pdu timestamp, [])
  | .sendTrigger ident => s.onConnection ident (·.sendTrigger) fun conn => pure conn.sendTriggerCb
  | .sendtimeout ident => s.onConnection ident (·.sendtimeout) ConnState.sendtimeoutCb
  | .timeout ident source =>
    s.onConnection ident (·.timeout) fun conn => pure (conn.timeoutCb source)
  | .stopConnection ident => s.onConnection ident (fun _ => true) fun conn => pure conn.stop
  | .stopServer => some s.stopAll
  | .dropTrigger => some s.dropTriggerCb
  | .otherAllocates known =>
    let (a, pool) := s.pool.getClientAddr s.addr known
    some { s with pool, others := if a = 0 then s.others else a :: s.others }
  | .otherReleases addr =>
    if addr ∈ s.others then
      some { s with pool := s.pool.releaseClientAddr addr, others := s.others.erase addr }
    else none

theorem mem_update_of_ne {s : EIBnetServer} {conn : Conn} {ident : ℕ}
    {outcome : ConnState × List Output} (hconn : conn ∈ s.connections) (hne : conn.ident ≠ ident) :
    conn ∈ (s.update ident outcome).connections :=
  List.mem_map.2 ⟨conn, hconn, if_neg hne⟩

end EIBnetServer

end Knxd.Server
