import Knxd.Transport.Connection

/-!
# The connections of clients

A client of the daemon sends messages over a socket.  The first two bytes of a message are
its type.  A request opens one of several sorts of connection, and from then on every
message goes to that connection until the client resets it.  The sorts differ in the
telegrams that they make of a message and in the messages that they make of a telegram.

`ClientConnection::read_cb` is given the whole receive buffer and the number of bytes that
were received; what lies behind those in the buffer can be read as well, so that the buffer
is an argument here as it is in memory.  What the router, the group cache and the clock
answer during a call is collected in `Answers`.
-/

namespace Knxd.Clients

open Memory LPDU Transport

abbrev EIBType := BitVec 16

namespace EIBType

def invalidRequest : EIBType := 0x0000
def connectionInuse : EIBType := 0x0001
def resetConnection : EIBType := 0x0004
def apduPacket : EIBType := 0x0025
def groupPacket : EIBType := 0x0027
def cacheEnable : EIBType := 0x0070
def cacheDisable : EIBType := 0x0071
def cacheClear : EIBType := 0x0072
def cacheRemove : EIBType := 0x0073

/-- `EIBSETTYPE`. -/
def bytes (type : EIBType) : CArray :=
  [highByte type, lowByte type]

end EIBType

def eibType (buf : CArray) : Run EIBType := do
  let high ← readAt buf 0
  let low ← readAt buf 1
  pure (joinBytes high low)

def wordAt (buf : CArray) (index : ℕ) : Run Addr := do
  let high ← readAt buf index
  let low ← readAt buf (index + 1)
  pure (joinBytes high low)

structure Monitor where
  virt : Bool
  ts : Bool := false
  text : Bool := false
  deriving DecidableEq, Repr

inductive ConnKind
  | broadcast
  | group
  | individual
  | tpdu
  | connection
  | groupSocket
  deriving DecidableEq, Repr

inductive CacheRequest
  | enable
  | disable
  | clear
  | remove
  | read
  | readNowait
  | lastUpdates
  | lastUpdates2
  deriving DecidableEq, Repr

/-- The cases of the `switch` of `read_cb`. -/
inductive Request
  | monitor (m : Monitor)
  | link (kind : ConnKind)
  | cache (request : CacheRequest)
  | reset
  | other
  deriving DecidableEq, Repr

def Request.ofType (msg : EIBType) : Request :=
  match msg.toNat with
  | 0x0010 => .monitor { virt := false }
  | 0x0011 => .monitor { virt := false, text := true }
  | 0x0016 => .monitor { virt := false, ts := true }
  | 0x0012 => .monitor { virt := true }
  | 0x0013 => .monitor { virt := true, text := true }
  | 0x0017 => .monitor { virt := true, ts := true }
  | 0x0023 => .link .broadcast
  | 0x0022 => .link .group
  | 0x0021 => .link .individual
  | 0x0024 => .link .tpdu
  | 0x0020 => .link .connection
  | 0x0026 => .link .groupSocket
  | 0x0070 => .cache .enable
  | 0x0071 => .cache .disable
  | 0x0072 => .cache .clear
  | 0x0073 => .cache .remove
  | 0x0074 => .cache .read
  | 0x0075 => .cache .readNowait
  | 0x0076 => .cache .lastUpdates
  | 0x0077 => .cache .lastUpdates2
  | 0x0004 => .reset
  | _ => .other

inductive CacheCall
  | start
  | stop
  | clear
  | remove (dst : Addr)
  | read (dst : Addr) (timeout : ℕ) (age : BitVec 16)
  | lastUpdates (start : BitVec 16) (timeout : Byte)
  | lastUpdates2 (start : BitVec 32) (timeout : Byte)
  deriving DecidableEq, Repr

inductive Output
  /-- `ClientConnection::sendmessage`. -/
  | sendmessage (msg : CArray)
  | linkSetup (ok : Bool)
  | registerLink (ok : Bool)
  | unregisterLink
  | registerBusmonitor (virt : Bool)
  | deregisterBusmonitor (virt : Bool)
  | recvLData (l : LDataPDU)
  | sendNext
  | cache (call : CacheCall)
  deriving DecidableEq, Repr

/-- What the rest of the program answers during a call. -/
structure Answers where
  /-- `lc->setup()`. -/
  setup : Bool := true
  /-- `router.registerLink`. -/
  register : Bool := true
  /-- The clock, for a bus monitor with time stamps. -/
  time : BitVec 32 := 0
  /-- What a new `T_Connection` finds in memory for `repcount`. -/
  repcount : ℕ := 0
  /-- `router.linkChanges` has the link that is closed: it was started in this turn of the loop. -/
  held : Bool := false
  cache : Bool := false
  /-- `cache->Start()`. -/
  cacheStart : Bool := true
  /-- The messages that the callback of the cache sends before the call of the cache returns. -/
  cacheReplies : List CArray := []

/-- `sendreject` with a type. -/
def sendreject (type : EIBType) : Output :=
  .sendmessage type.bytes

/-- `sendreject` without one. -/
def reject : Output :=
  sendreject .invalidRequest

/-- The `recv_Data` of the classes that send data without a connection; `l` is the frame
without the data.  The text of the message is made whether it is traced or not. -/
def recvXXXReq (l : LDataPDU) (c : CArray) : Run LDataPDU := do
  let t := TPDU.dataXXXReq c
  let _ ← t.decode
  let data ← t.toPacket
  pure { l with data }

/-- `T_Broadcast::recv_Data`. -/
def broadcastFrame : CArray → Run LDataPDU :=
  recvXXXReq { source := 0, dest := 0, addrType := .groupAddress, hopcount := 0x07 }

/-- `T_Group::recv_Data`. -/
def groupFrame (groupaddr : Addr) : CArray → Run LDataPDU :=
  recvXXXReq { source := 0, dest := groupaddr, addrType := .groupAddress }

/-- `T_Individual::recv_Data`. -/
def individualFrame (dest : Addr) : CArray → Run LDataPDU :=
  recvXXXReq { source := 0, dest, addrType := .individualAddress }

/-- `GroupSocket::recv_Data`. -/
def groupSocketFrame (dst : Addr) : CArray → Run LDataPDU :=
  recvXXXReq { source := 0, dest := dst, addrType := .groupAddress }

/-- `T_TPDU::recv_Data`, which passes on what the client wrote. -/
def tpduFrame (src addr : Addr) (data : CArray) : LDataPDU :=
  { source := src, dest := addr, addrType := .individualAddress, data }

/-- `a_conn`, with the object of the transport layer that belongs to it. -/
inductive AConn
  | monitor (m : Monitor)
  | broadcast (writeOnly : Bool)
  | group (groupaddr : Addr) (writeOnly : Bool)
  | individual (dest : Addr) (writeOnly : Bool)
  | tpdu (src : Addr)
  | connection (c : TConnection)
  | groupSocket (writeOnly : Bool)
  deriving DecidableEq, Repr

/-- The object of the transport layer that `setup` makes. -/
def ConnKind.create (answers : Answers) (buf : CArray) : ConnKind → Run AConn
  | .broadcast => do
      let flag ← readAt buf 4
      pure (.broadcast (flag != 0))
  | .group => do
      let addr ← wordAt buf 2
      let flag ← readAt buf 4
      pure (.group addr (flag != 0))
  | .individual => do
      let addr ← wordAt buf 2
      let flag ← readAt buf 4
      pure (.individual addr (flag != 0))
  | .tpdu => do
      let addr ← wordAt buf 2
      pure (.tpdu addr)
  | .connection => do
      let addr ← wordAt buf 2
      pure (.connection (.create addr answers.repcount))
  | .groupSocket => do
      let flag ← readAt buf 4
      pure (.groupSocket (flag != 0))

namespace AConn

/-- The beginning of every `recv_Data`: a message that is too short or has another type ends
the connection; otherwise the payload is copied. -/
def payload (header : ℕ) (type : EIBType) (buf : CArray) (len : ℕ) : Run (Option CArray) :=
  if len < header then pure none
  else do
    let msg ← eibType buf
    if msg ≠ type then pure none
    else do
      let data ← readPart buf header (len - header)
      pure (some data)

/-- `recv_Data` of a connection without state: the payload becomes a frame. -/
def passOn (conn : AConn) (frame : CArray → Run LDataPDU) :
    Option CArray → Run (Option (AConn × List Output))
  | none => pure none
  | some data => do
      let l ← frame data
      pure (some (conn, [.recvLData l]))

/-- `A_Connection::send`. -/
def connectionSend (data : CArray) : Output :=
  .sendmessage (EIBType.apduPacket.bytes ++ data)

/-- What a `T_Connection` does, seen from outside its client. -/
def output : Transport.Output → Output
  | .recvLData l => .recvLData l
  | .send data => connectionSend data
  | .sendNext => .sendNext

/-- The result of a method of a `T_Connection`. -/
def ofTransport (result : TConnection × List Transport.Output) : AConn × List Output :=
  (.connection result.1, result.2.map output)

/-- `recv_Data` of each class; none stands for `on_error()`. -/
def recvData (buf : CArray) (len : ℕ) : AConn → Run (Option (AConn × List Output))
  | .monitor m => pure (some (.monitor m, []))
  | .broadcast writeOnly => do
      let data ← payload 2 .apduPacket buf len
      passOn (.broadcast writeOnly) broadcastFrame data
  | .group groupaddr writeOnly => do
      let data ← payload 2 .apduPacket buf len
      passOn (.group groupaddr writeOnly) (groupFrame groupaddr) data
  | .individual dest writeOnly => do
      let data ← payload 2 .apduPacket buf len
      passOn (.individual dest writeOnly) (individualFrame dest) data
  | .tpdu src => do
      let data ← payload 4 .apduPacket buf len
      passOn (.tpdu src) (fun data => do
        let addr ← wordAt buf 2
        pure (tpduFrame src addr data)) data
  | .connection c => do
      match ← payload 2 .apduPacket buf len with
      | none => pure none
      | some data => do
          let result ← c.recvData data
          pure (some (ofTransport result))
  | .groupSocket writeOnly => do
      let data ← payload 4 .groupPacket buf len
      passOn (.groupSocket writeOnly) (fun data => do
        let dst ← wordAt buf 2
        groupSocketFrame dst data) data

def addrBytes (addr : Addr) : CArray :=
  [highByte addr, lowByte addr]

/-- `send_L_Data` of the classes that take data without a connection. -/
def deliver (l : LDataPDU) (message : CArray → CArray) : Run (List Output) := do
  let t ← fromPacket l.data
  match t with
  | .dataXXXReq data => pure [.sendmessage (message data), .sendNext]
  | _ => pure [.sendNext]

/-- `send_L_Data` of each class of the transport layer, with the message that its class of
connection makes of the frame. -/
def sendLData (l : LDataPDU) : AConn → Run (AConn × List Output)
  | .monitor m => pure (.monitor m, [])
  | .broadcast writeOnly => do
      let out ← deliver l fun data => EIBType.apduPacket.bytes ++ addrBytes l.source ++ data
      pure (.broadcast writeOnly, out)
  | .group groupaddr writeOnly => do
      let out ← deliver l fun data => EIBType.apduPacket.bytes ++ addrBytes l.source ++ data
      pure (.group groupaddr writeOnly, out)
  | .individual dest writeOnly => do
      let out ← deliver l fun data => EIBType.apduPacket.bytes ++ data
      pure (.individual dest writeOnly, out)
  | .tpdu src =>
    pure (.tpdu src,
      [.sendmessage (EIBType.apduPacket.bytes ++ addrBytes l.source ++ l.data), .sendNext])
  | .connection c => do
      let result ← c.sendLData l
      pure (ofTransport result)
  | .groupSocket writeOnly => do
      let out ← deliver l fun data =>
        EIBType.groupPacket.bytes ++ addrBytes l.source ++ addrBytes l.dest ++ data
      pure (.groupSocket writeOnly, out)

/-- What `exit_conn` does with a connection.  The destructors of `A_Connection` and of
`T_Connection` both call `stop()`.  As a rule the link is gone by then, so that only the client
hears of it.  A link that is held lives on with its `T_Connection`: the first call reaches the
router, and the second one comes later, when the `A_Connection` that it calls is deleted. -/
def exit (held : Bool) : AConn → List Output
  | .monitor m => [.deregisterBusmonitor m.virt]
  | .connection c =>
    if held then [.unregisterLink, .recvLData (disconnectFrame c.dest), connectionSend []]
    else [.unregisterLink, connectionSend [], connectionSend []]
  | _ => [.unregisterLink]

end AConn

structure ClientConnection where
  addr : Addr
  aConn : Option AConn := none
  deriving DecidableEq, Repr

def timeBytes (time : BitVec 32) : CArray :=
  [(time >>> 24).setWidth 8, (time >>> 16).setWidth 8, (time >>> 8).setWidth 8, time.setWidth 8]

def groupCacheRequest (answers : Answers) (buf : CArray) (len : ℕ) :
    CacheRequest → Run (List Output)
  | request =>
    if answers.cache = false then pure [reject]
    else
      let replies := answers.cacheReplies.map Output.sendmessage
      match request with
      | .enable =>
        pure [.cache .start,
          sendreject (if answers.cacheStart then .cacheEnable else .connectionInuse)]
      | .disable => pure [.cache .stop, sendreject .cacheDisable]
      | .clear => pure [.cache .clear, sendreject .cacheClear]
      | .remove =>
        if len < 4 then pure [reject]
        else do
          let dst ← wordAt buf 2
          pure [.cache (.remove dst), sendreject .cacheRemove]
      | .read =>
        if len < 4 then pure [reject]
        else do
          let dst ← wordAt buf 2
          if len < 6 then pure [reject]
          else do
            let age ← wordAt buf 4
            pure (.cache (.read dst 1 age) :: replies)
      | .readNowait =>
        if len < 4 then pure [reject]
        else do
          let dst ← wordAt buf 2
          pure (.cache (.read dst 0 0) :: replies)
      | .lastUpdates =>
        if len < 5 then pure [reject]
        else do
          let start ← wordAt buf 2
          let timeout ← readAt buf 4
          pure (.cache (.lastUpdates start timeout) :: replies)
      | .lastUpdates2 =>
        if len < 7 then pure [reject]
        else do
          let high ← wordAt buf 2
          let low ← wordAt buf 4
          let timeout ← readAt buf 6
          pure (.cache (.lastUpdates2 (high ++ low) timeout) :: replies)

namespace ClientConnection

variable (con : ClientConnection)

def exitConn (held : Bool) : ClientConnection × List Output :=
  match con.aConn with
  | none => (con, [])
  | some conn => ({ con with aConn := none }, conn.exit held)

/-- The request for a bus monitor.  A wrong size is rejected by `setup` and by its caller. -/
def openMonitor (answers : Answers) (m : Monitor) (buf : CArray) (len : ℕ) :
    Run (ClientConnection × List Output) :=
  if len ≠ 2 then pure (con, [reject, reject])
  else do
    let resp ← readPart buf 0 2
    let resp := if m.ts then resp ++ timeBytes answers.time else resp
    pure ({ con with aConn := some (.monitor m) },
      [.sendmessage resp, .registerBusmonitor m.virt])

def openLink (answers : Answers) (kind : ConnKind) (buf : CArray) (len : ℕ) :
    Run (ClientConnection × List Output) :=
  if len ≠ 5 then pure (con, [reject])
  else do
    let conn ← kind.create answers buf
    if answers.setup = false then
      pure ({ con with aConn := none }, [.linkSetup false] ++ conn.exit false ++ [reject])
    else do
      let resp ← readPart buf 0 2
      let out := [.linkSetup true, .sendmessage resp, .registerLink answers.register]
      if answers.register = false then
        pure ({ con with aConn := none }, out ++ conn.exit false ++ [reject])
      else pure ({ con with aConn := some conn }, out)

/-- `read_cb` for a message of `len` bytes, once it is there as a whole. -/
def handleMessage (answers : Answers) (buf : CArray) (len : ℕ) :
    Run (ClientConnection × List Output) := do
  let msg ← eibType buf
  match con.aConn with
  | some conn =>
    if msg = .resetConnection then
      let (con, out) := con.exitConn answers.held
      pure (con, out ++ [sendreject .resetConnection])
    else do
      match ← conn.recvData buf len with
      | some (conn, out) => pure ({ con with aConn := some conn }, out)
      | none => pure (con.exitConn answers.held)
  | none =>
    match Request.ofType msg with
    | .monitor m => con.openMonitor answers m buf len
    | .link kind => con.openLink answers kind buf len
    | .cache request => do
        let out ← groupCacheRequest answers buf len request
        pure (con, out)
    | .reset => pure (con, [sendreject .resetConnection])
    | .other => pure (con, [reject])

/-- `ClientConnection::read_cb`, with the number of bytes that it takes. -/
def readCb (answers : Answers) (buf : CArray) (len : ℕ) :
    Run (ℕ × ClientConnection × List Output) :=
  if len < 2 then pure (0, con, [])
  else do
    let xlen ← wordAt buf 0
    if len < xlen.toNat + 2 then pure (0, con, [])
    else do
      let (con, out) ← con.handleMessage answers (buf.drop 2) xlen.toNat
      pure (xlen.toNat + 2, con, out)

def sendLData (l : LDataPDU) : Run (ClientConnection × List Output) :=
  match con.aConn with
  | none => pure (con, [])
  | some conn => do
      let (conn, out) ← conn.sendLData l
      pure ({ con with aConn := some conn }, out)

/-- The timer of a `T_Connection`. -/
def timerCb : Run (ClientConnection × List Output) :=
  match con.aConn with
  | some (.connection c) => do
      let result ← c.timerCb
      let (conn, out) := AConn.ofTransport result
      pure ({ con with aConn := some conn }, out)
  | _ => pure (con, [])

end ClientConnection

end Knxd.Clients
