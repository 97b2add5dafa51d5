import Knxd.Core.StopAndWait
import Knxd.Core.Transition
import Knxd.Tunnel.Client
import Knxd.Tunnel.Connection

/-!
# A tunnel client and its server connection

The client and one connection of the server exchange datagrams over two
first-in first-out channels that may lose and duplicate them.  The upper layer
of each side submits frames, one at a time; timers fire whenever they run.

For the statements about whole runs, the system also keeps a history of each
side, and every datagram carries the number, counted without bound, of the
request that it is or acknowledges.  No handler reads any of this.  Forgetting
everything else gives two endpoints of the stop-and-wait protocol.
-/

namespace Knxd.Composition

open Memory LPDU EMI Packet Client Connection StopAndWait

structure Datagram where
  packet : EIBNetIPPacket
  number : ℕ
  deriving DecidableEq, Repr

/-- What happened at one side: the messages its upper layer submitted, the
messages its peer acknowledged, those it took from its peer, the frames it
handed to its upper layer, and how often it signalled `send_Next`. -/
structure History where
  submitted : List CArray := []
  acked : List CArray := []
  taken : List CArray := []
  delivered : List LDataPDU := []
  nexts : ℕ := 0
  deriving DecidableEq, Repr

structure System where
  client : EIBNetIPTunnel
  server : ConnState
  clientSrc : SockAddr := {}
  serverSrc : SockAddr := {}
  clientHistory : History := {}
  serverHistory : History := {}
  toServer : List Datagram := []
  toClient : List Datagram := []
  disconnected : Bool := false
  deriving DecidableEq, Repr

/-- The history after a handler that saw its outstanding message acknowledged
and took a message, if any, and had these effects. -/
def History.record (history : History) (acked taken : Option CArray) (outputs : List Output) :
    History :=
  { history with
    acked := history.acked ++ acked.toList
    taken := history.taken ++ taken.toList
    delivered := history.delivered ++ receivedFrames outputs
    nexts := history.nexts + outputs.count .sendNext }

/-- The datagram for a packet sent at this point of the history: a request is
for the first message not yet acknowledged, an acknowledgement for the last
message taken. -/
def History.datagram (history : History) (packet : EIBNetIPPacket) : Datagram :=
  ⟨packet, if packet.service = ServiceType.tunnelResponse.code then history.taken.length - 1
    else history.acked.length⟩

/-- A handler that leaves the connection sends a disconnect request or has the
server drop it. -/
def leaves (outputs : List Output) : Bool :=
  outputs.any fun
    | .send p => decide (p.service = ServiceType.disconnectRequest.code)
    | .dropConnection => true
    | _ => false

def messageOf (p : EIBNetIPPacket) : Option CArray :=
  (parseTunnelRequest p).map (·.cemi)

def clientQueue (c : EIBNetIPTunnel) : List CArray :=
  if c.out = [] then [] else [c.out]

/-- The system after a handler of the client.  The counters `sno` and `rno` move
when an acknowledgement is accepted and when a request is taken. -/
def clientActs (s : System) (arrived : Option EIBNetIPPacket)
    (result : EIBNetIPTunnel × List Output) : System :=
  let history := s.clientHistory.record
    (if result.1.sno = s.client.sno then none else (clientQueue s.client).head?)
    (if result.1.rno = s.client.rno then none else arrived.bind messageOf) result.2
  { s with
    client := result.1
    clientHistory := history
    toServer := s.toServer ++ (sentPackets result.2).map history.datagram
    disconnected := s.disconnected || leaves result.2 }

def serverActs (s : System) (arrived : Option EIBNetIPPacket)
    (result : ConnState × List Output) : System :=
  let history := s.serverHistory.record
    (if result.1.sno = s.server.sno then none else s.server.out.head?)
    (if result.1.rno = s.server.rno then none else arrived.bind messageOf) result.2
  { s with
    server := result.1
    serverHistory := history
    toClient := s.toClient ++ (sentPackets result.2).map history.datagram
    disconnected := s.disconnected || leaves result.2 }

inductive Event
  | clientSubmit (l : LDataPDU)
  | serverSubmit (l : LDataPDU)
  | clientTrigger
  | clientTimeout
  | clientConntimeout
  | clientStop
  | serverTrigger
  | serverSendtimeout
  | serverTimeout (source : Option SockAddr)
  | serverStop
  | deliverToServer
  | deliverToClient
  | loseToServer (index : ℕ)
  | loseToClient (index : ℕ)
  | duplicateToServer (index : ℕ)
  | duplicateToClient (index : ℕ)

/-- One event.  A frame is submitted only after `send_Next` was signalled for
the one before; a callback runs only when it is due.  There is no next state when
the process ends with a fault. -/
def step (s : System) : Event → Option System
  | .clientSubmit l =>
    if s.clientHistory.submitted.length = s.clientHistory.nexts then
      match s.client.sendLData l, lDataToCEMI 0x11 l with
      | .ok client, .ok cemi =>
        some { s with
          client
          clientHistory := { s.clientHistory with
            submitted := s.clientHistory.submitted ++ [cemi] } }
      | _, _ => none
    else none
  | .serverSubmit l =>
    if s.serverHistory.submitted.length = s.serverHistory.nexts then
      match s.server.sendLData l, lDataToCEMI 0x29 l with
      | .ok server, .ok cemi =>
        some { s with
          server
          serverHistory := { s.serverHistory with
            submitted := s.serverHistory.submitted ++ [cemi] } }
      | _, _ => none
    else none
  | .clientTrigger => if s.client.trigger then some (clientActs s none s.client.triggerCb) else none
  | .clientTimeout => if s.client.timeout then some (clientActs s none s.client.timeoutCb) else none
  | .clientConntimeout =>
    if s.client.conntimeout then some (clientActs s none s.client.conntimeoutCb) else none
  | .clientStop => some (clientActs s none s.client.stop)
  | .serverTrigger =>
    if s.server.sendTrigger then some (serverActs s none s.server.sendTriggerCb) else none
  | .serverSendtimeout =>
    if s.server.sendtimeout then
      match s.server.sendtimeoutCb with
      | .ok result => some (serverActs s none result)
      | .error _ => none
    else none
  | .serverTimeout source =>
    if s.server.timeout then some (serverActs s none (s.server.timeoutCb source)) else none
  | .serverStop => some (serverActs s none s.server.stop)
  | .deliverToServer =>
    match s.toServer with
    | [] => none
    | datagram :: rest =>
      match recv datagram.packet.toPacket s.clientSrc with
      | none => some { s with toServer := rest }
      | some p1 =>
        match s.server.handlePacket p1 with
        | .ok result => some (serverActs { s with toServer := rest } (some p1) result)
        | .error _ => none
  | .deliverToClient =>
    match s.toClient with
    | [] => none
    | datagram :: rest =>
      match recv datagram.packet.toPacket s.serverSrc with
      | none => some { s with toClient := rest }
      | some p1 =>
        match s.client.readCb p1 with
        | .ok result => some (clientActs { s with toClient := rest } (some p1) result)
        | .error _ => none
  | .loseToServer index => some { s with toServer := lose index s.toServer }
  | .loseToClient index => some { s with toClient := lose index s.toClient }
  | .duplicateToServer index => some { s with toServer := duplicate index s.toServer }
  | .duplicateToClient index => some { s with toClient := duplicate index s.toClient }

structure Established (s : System) : Prop where
  client_channel : s.client.channel = some s.server.channel
  client_mod : s.client.mod = 1
  client_numbers : s.client.sno = 0 ∧ s.client.rno = 0
  client_out : s.client.out = []
  client_monitor : s.client.monitor = false
  server_type : s.server.type = .standard
  server_numbers : s.server.sno = 0 ∧ s.server.rno = 0
  server_out : s.server.out = []
  server_retries : s.server.retries = 0
  server_sendtimeout : s.server.sendtimeout = false
  server_doSendNext : s.server.doSendNext = false
  histories : s.clientHistory = {} ∧ s.serverHistory = {}
  channels : s.toServer = [] ∧ s.toClient = []
  connected : s.disconnected = false

/-- What a datagram is to the protocol; connection control is nothing to it. -/
def item (datagram : Datagram) : Option (Item CArray) :=
  match messageOf datagram.packet, parseTunnelACK datagram.packet with
  | some cemi, _ => some (.request datagram.number cemi)
  | none, some _ => some (.ack datagram.number)
  | none, none => none

def link (s : System) : Link CArray where
  left := ⟨s.clientHistory.acked, clientQueue s.client, s.clientHistory.taken⟩
  right := ⟨s.serverHistory.acked, s.server.out, s.serverHistory.taken⟩
  toRight := s.toServer.filterMap item
  toLeft := s.toClient.filterMap item

end Knxd.Composition
