import Knxd.Routing.Allocator
import Knxd.Routing.Books

/-!
# Frames and addresses on their way through the router

On top of the router's state machine this module follows the frames: a driver
hands one to `recv_L_Data`, which may refuse it and may note its source address
on the link; `trigger_cb` takes accepted frames from the queue one by one and
starts their distribution.  Clients come and go meanwhile, with addresses from the
router's block.

The loop of `trigger_cb` is one event for each pass, so other events may happen
between two passes.  Two fields of the state are read by no function: the link a
queued frame came from, and the address a link was given.
-/

namespace Knxd.Traffic

open Memory LPDU Link Routing ClientAddrs Allocator Option

/-- The classes that answer `hasAddress` and `addAddress` for a link. -/
inductive LinkKind
  | bus
  | single
  | server
  /-- The `GroupCache`.  Its `addr` is a copy of `BaseRouter::addr`, which nothing
  sets, and not of the router's own address. -/
  | cache
  deriving DecidableEq, Repr

/-- The fields of a link that `recv_L_Data` reads. -/
structure Port where
  kind : LinkKind := .bus
  /-- `LinkConnect::addr`. -/
  addr : Addr := 0
  isLocal : Bool := false
  /-- The address from the router's block, if any. -/
  given : Addr := 0
  deriving DecidableEq, Repr

/-- A `ClientConnection`, or the `ConnState` of a tunnel: its address from the
router's block, until that is released, and its link. -/
structure Client where
  tunnel : Bool
  addr : Addr
  link : Option ℕ
  deriving DecidableEq, Repr

structure IgnoreInfo where
  data : CArray
  endTime : ℕ
  deriving DecidableEq, Repr

structure Queued where
  frame : LDataPDU
  origin : ℕ
  deriving DecidableEq, Repr

structure Relay where
  router : Router
  port : ℕ → Port := fun _ => {}
  pool : AddrPool
  clients : ℕ → Option Client := fun _ => none
  cache : Option ℕ := none
  forceBroadcast : Bool := false
  buf : List Queued := []
  ignore : List IgnoreInfo := []
  /-- Where the frame came from that was distributed last. -/
  sending : ℕ := 0

/-! ## Addresses on the links -/

/-- `hasAddress` of a link. -/
def linkHasAddress (router : Router) (key : ℕ) (addr : Addr) : Bool :=
  match router.book key with
  | some hasAddress => hasAddress addr
  | none => false

/-- The link that `Router::hasAddress` finds, called without a link. -/
def findAddress (router : Router) (addr : Addr) : Option ℕ :=
  router.links.find? fun key => linkHasAddress router key addr

/-- `Router::hasAddress`, called without a link. -/
def hasAddress (router : Router) (addr : Addr) : Bool :=
  addr == router.addr || (findAddress router addr).isSome

/-- `BusDriver::addAddress`. -/
def busAddAddress (link : LinkConnect) (addr : Addr) : LinkConnect :=
  { link with hasAddress := Function.update link.hasAddress addr true }

namespace Relay

/-- `addAddress` of a link. -/
def addAddress (t : Relay) (key : ℕ) (addr : Addr) : Relay :=
  match (t.port key).kind with
  | .bus =>
    match t.router.object key with
    | none => t
    | some link => { t with router := t.router.setLink key (busAddAddress link addr) }
  | .single =>
    if addr = 0 ∨ addr = (t.port key).addr then t
    else { t with router := { t.router with fault := some .assertion } }
  | .server | .cache => t

def getClientAddr (t : Relay) : Addr × Relay :=
  let (addr, pool) := t.pool.getClientAddr t.router.addr (hasAddress t.router)
  (addr, { t with pool })

/-! ## Frames -/

def queueLData (t : Relay) (key : ℕ) (l : LDataPDU) : Relay :=
  if t.router.someRunning || t.router.wantUp then { t with buf := t.buf ++ [⟨l, key⟩] } else t

/-- An unassigned source is replaced by the address of the link, or the router's. -/
def sourceOf (t : Relay) (key : ℕ) (l : LDataPDU) : Addr :=
  if l.source ≠ 0 then l.source
  else if (t.port key).addr ≠ 0 then (t.port key).addr
  else t.router.addr

def recvLData (t : Relay) (key : ℕ) (received : LDataPDU) : Relay :=
  if received.addrType = .individualAddress ∧ received.dest = 0 then t
  else
    let l := { received with source := t.sourceOf key received }
    if l.source = t.router.addr then
      if (t.port key).isLocal then t.queueLData key l else t
    else
      match findAddress t.router l.source with
      | some owner => if owner ≠ key then t else t.queueLData key l
      | none =>
        if t.pool.used.length ≠ 0 ∧ InBlock t.pool l.source then t
        else if l.source ≠ 0xFFFF then (t.addAddress key l.source).queueLData key l
        else t.queueLData key l

end Relay

def isRepetition (ignore : List IgnoreInfo) (l : LDataPDU) : Run Bool :=
  if l.repeated then do
    let data ← l.toPacket
    return ignore.any fun info => info.data == data
  else return false

def decreased (forceBroadcast : Bool) (hopcount : Byte) : Byte :=
  if hopcount.toNat < 7 ∨ forceBroadcast = false then hopcount - 1 else hopcount

def distribute (addr : Addr) (now : ℕ) (ignore : List IgnoreInfo) (l : LDataPDU) :
    Run (Option LDataPDU × List IgnoreInfo) := do
  let data ← { l with repeated := true }.toPacket
  let dest := if l.addrType = .individualAddress ∧ l.dest = addr then 0 else l.dest
  return (some { l with repeated := false, dest }, ignore ++ [⟨data, now + 1000000⟩])

/-- What a pass of the loop of `trigger_cb` makes of a frame: it is dropped, or
distributed with a smaller hop count. -/
def triggerFrame (forceBroadcast : Bool) (addr : Addr) (now : ℕ) (ignore : List IgnoreInfo)
    (queued : LDataPDU) : Run (Option LDataPDU × List IgnoreInfo) :=
  if queued.hopcount = 0 then return (none, ignore)
  else do
    let l := { queued with hopcount := decreased forceBroadcast queued.hopcount }
    let seen ← isRepetition ignore l
    if seen then return (none, ignore) else distribute addr now ignore l

/-- The frame that is distributed, in terms of the frame that was queued. -/
theorem eq_of_triggerFrame {forceBroadcast : Bool} {addr : Addr} {now : ℕ}
    {ignore ignored : List IgnoreInfo} {queued l : LDataPDU}
    (htrigger : triggerFrame forceBroadcast addr now ignore queued = .ok (some l, ignored)) :
    queued.hopcount ≠ 0 ∧ l =
      { queued with
        hopcount := decreased forceBroadcast queued.hopcount
        repeated := false
        dest :=
          if queued.addrType = .individualAddress ∧ queued.dest = addr then 0
            else queued.dest } := by
  unfold triggerFrame at htrigger
  split at htrigger
  · cases htrigger
  · next hhop =>
    obtain ⟨_, -, hrest⟩ := bind_eq_ok_iff.1 htrigger
    split at hrest
    · cases hrest
    · obtain ⟨_, -, hdone⟩ := bind_eq_ok_iff.1 hrest
      cases hdone
      exact ⟨hhop, rfl⟩

/-- The end of `trigger_cb`: what was sent too long ago is no repetition.  If every
entry is that old, all of them stay. -/
def expire (now : ℕ) (ignore : List IgnoreInfo) : List IgnoreInfo :=
  if ignore.any fun info => now ≤ info.endTime then
    ignore.dropWhile fun info => info.endTime < now
  else ignore

/-! ## Events -/

inductive Event
  | router (event : Routing.Event)
  | receive (key : ℕ) (l : LDataPDU)
  | setAddress (key : ℕ) (addr : Addr)
  | registerBus (key : ℕ) (config : LinkConnect)
  | registerServer (key : ℕ) (config : LinkConnect)
  | registerCache (key : ℕ) (config : LinkConnect)
  /-- The constructor of `ClientConnection`. -/
  | clientConnection (id : ℕ)
  | openConn (id key : ℕ) (config : LinkConnect)
  /-- `ClientConnection::exit_conn`. -/
  | exitConn (id : ℕ)
  /-- `ClientConnection::stop`. -/
  | clientStop (id : ℕ)
  /-- `EIBnetServer::addClient` for a tunnel, which may fail to set up its link. -/
  | addTunnel (id key : ℕ) (config : LinkConnect) (setupOk : Bool)
  /-- `EIBnetServer::addClient` without an address. -/
  | addConfig (id key : ℕ) (config : LinkConnect)
  /-- `ConnState::stop`. -/
  | connStop (id : ℕ)
  /-- `EIBnetServer::drop_trigger_cb` for one connection. -/
  | dropConn (id : ℕ)
  /-- One pass of the loop of `trigger_cb`. -/
  | trigger (now : ℕ)
  /-- The end of `trigger_cb`. -/
  | expire (now : ℕ)

namespace Relay

/-- A step of the router's machine. -/
def onRouter (t : Relay) (event : Routing.Event) : Option Relay :=
  (Routing.step t.router event).map fun router => { t with router }

/-- `registerLink` for a new link. -/
def register (t : Relay) (key : ℕ) (port : Port) (book : Addr → Bool) (config : LinkConnect)
    (transient : Bool) : Option Relay :=
  ({ t with port := Function.update t.port key port }).onRouter
    (.registerLink key { config with hasAddress := book } transient)

/-- `unregisterLink`, which does nothing for a link that is not in the table. -/
def unregister (t : Relay) (link : Option ℕ) : Option Relay :=
  match link with
  | none => some t
  | some key => if key ∈ t.router.links then t.onRouter (.unregisterLink key) else some t

def setClient (t : Relay) (id : ℕ) (client : Client) : Relay :=
  { t with clients := Function.update t.clients id (some client) }

/-- `release_client_addr`, unless the address is 0. -/
def release (t : Relay) (addr : Addr) : Relay :=
  if addr = 0 then t else { t with pool := t.pool.releaseClientAddr addr }

/-- `LinkConnectSingle::setup` and `registerLink`: a link without an address gets
one from the block, or fails. -/
def openConn (t : Relay) (id key : ℕ) (client : Client) (config : LinkConnect) : Option Relay :=
  let (addr, allotted) := if client.addr = 0 then t.getClientAddr else (client.addr, t)
  if addr = 0 then some allotted
  else
    (allotted.register key { kind := .single, addr, given := addr } (fun other => other == addr)
      config true).map fun next => next.setClient id { client with link := some key }

/-- `addClient` for a tunnel: the address is taken before anything can fail. -/
def addTunnel (t : Relay) (id key : ℕ) (config : LinkConnect) (setupOk : Bool) : Option Relay :=
  let (addr, allotted) := t.getClientAddr
  if addr = 0 ∨ setupOk = false then some allotted
  else
    (allotted.register key { given := addr } (fun other => other == addr) config true).map
      fun next => next.setClient id { tunnel := true, addr, link := some key }

/-- A pass of the loop of `trigger_cb`. -/
def trigger (t : Relay) (now : ℕ) : Option Relay :=
  match t.buf with
  | [] => none
  | queued :: buf =>
    match triggerFrame t.forceBroadcast t.router.addr now t.ignore queued.frame with
    | .error fault => some { t with router := { t.router with fault := some fault } }
    | .ok (none, ignore) => some { t with buf, ignore }
    | .ok (some l, ignore) =>
      { t with
        router := { t.router with lowSendMore := false }
        buf, ignore, sending := queued.origin }.onRouter (.sendLData l)

/-- `exit_conn`, and what `drop_trigger_cb` does with a connection. -/
def closeLink (t : Relay) (id : ℕ) (client : Client) : Option Relay :=
  (t.unregister client.link).map fun next => next.setClient id { client with link := none }

def releaseClient (t : Relay) (id : ℕ) (client : Client) : Relay :=
  (t.release client.addr).setClient id { client with addr := 0 }

/-- `Server` does not receive, and the group cache leaves the source to the router. -/
def sends (t : Relay) (key : ℕ) (l : LDataPDU) : Prop :=
  (t.port key).kind ≠ .server ∧ ((t.port key).kind = .cache → l.source = 0)
  deriving Decidable

def client? (t : Relay) (tunnel : Bool) (id : ℕ) : Option Client :=
  (t.clients id).filter fun client => client.tunnel = tunnel

end Relay

def step (t : Relay) (event : Event) : Option Relay :=
  if t.router.fault.isSome then none
  else
    match event with
    | .router event => if event.internal then t.onRouter event else none
    | .receive key l =>
      if t.router.outside ∧ (t.router.object key).isSome ∧ t.sends key l then
        some (t.recvLData key l)
      else none
    | .setAddress key addr =>
      if (t.port key).kind = .bus then
        some { t with port := Function.update t.port key { t.port key with addr } }
      else none
    | .registerBus key config => t.register key {} (fun _ => false) config false
    | .registerServer key config =>
      t.register key { kind := .server } (fun _ => false) { config with isServer := true } false
    | .registerCache key config =>
      if t.cache = none then
        ({ t with cache := some key }).register key { kind := .cache, isLocal := true }
          (fun other => other == 0)
          { config with checkAddress := fun _ => false, checkGroupAddress := fun _ => true } false
      else none
    | .clientConnection id =>
      if t.clients id = none then
        let (addr, allotted) := t.getClientAddr
        some (allotted.setClient id { tunnel := false, addr, link := none })
      else none
    | .openConn id key config =>
      (t.client? false id).bind fun client =>
        if client.link = none then t.openConn id key client config else none
    | .exitConn id => (t.client? false id).bind fun client => t.closeLink id client
    | .clientStop id =>
      (t.client? false id).bind fun client =>
        (t.releaseClient id client).closeLink id { client with addr := 0 }
    | .addTunnel id key config setupOk =>
      if t.clients id = none then t.addTunnel id key config setupOk else none
    | .addConfig id key config =>
      if t.clients id = none then
        (t.register key {} (fun other => other == 0) config true).map fun next =>
          next.setClient id { tunnel := true, addr := 0, link := some key }
      else none
    | .connStop id => (t.client? true id).map fun client => t.releaseClient id client
    | .dropConn id => (t.client? true id).bind fun client => t.closeLink id client
    | .trigger now => if t.router.stack = [] ∧ t.router.lowSendMore then t.trigger now else none
    | .expire now => some { t with ignore := expire now t.ignore }

def boot (addr start : Addr) (length : ℕ) (forceBroadcast : Bool) : Relay :=
  { router := Routing.boot addr, pool := .configured start length, forceBroadcast }

/-! ## What a received frame can do -/

section Receive

variable {t : Relay} {key : ℕ}

def Relay.accepted (t : Relay) (key : ℕ) (received : LDataPDU) : LDataPDU :=
  { received with source := t.sourceOf key received }

structure Learns (t : Relay) (addr : Addr) : Prop where
  ne_own : addr ≠ t.router.addr
  unknown : findAddress t.router addr = none
  outside : ¬ InBlock t.pool addr
  ne_programming : addr ≠ 0xFFFF

inductive Accepts (t : Relay) (key : ℕ) (addr : Addr) : Prop
  | own : addr = t.router.addr → (t.port key).isLocal → Accepts t key addr
  | known : addr ≠ t.router.addr → findAddress t.router addr = some key → Accepts t key addr
  | programming : addr ≠ t.router.addr → addr = 0xFFFF → findAddress t.router addr = none →
      Accepts t key addr

theorem recvLData_cases (t : Relay) (key : ℕ) (received : LDataPDU) : t.recvLData key received = t ∨
      t.recvLData key received = t.queueLData key (t.accepted key received) ∧
        Accepts t key (t.sourceOf key received) ∨
      t.recvLData key received =
          (t.addAddress key (t.sourceOf key received)).queueLData key (t.accepted key received) ∧
        Learns t (t.sourceOf key received) := by
  unfold Relay.recvLData
  dsimp only
  split
  · exact .inl rfl
  split
  · next hown =>
    split
    · next hlocal => exact .inr (.inl ⟨rfl, .own hown hlocal⟩)
    · exact .inl rfl
  next hown =>
  split
  · next owner hfind =>
    split
    · exact .inl rfl
    · next hsame =>
      obtain rfl := not_not.1 hsame
      exact .inr (.inl ⟨rfl, .known hown hfind⟩)
  next hfind =>
  split
  · exact .inl rfl
  next hblock =>
  have houtside : ¬ InBlock t.pool (t.sourceOf key received) := by
    intro hin
    refine hblock ⟨fun hempty => ?_, hin⟩
    obtain ⟨_, _⟩ := hin
    omega
  split
  · next hprogramming => exact .inr (.inr ⟨rfl, hown, hfind, houtside, hprogramming⟩)
  · next hprogramming => exact .inr (.inl ⟨rfl, .programming hown (not_not.1 hprogramming) hfind⟩)

theorem findAddress_eq_none {router : Router} {addr : Addr}
    (hfind : findAddress router addr = none) :
    ∀ key ∈ router.links, linkHasAddress router key addr = false := by
  intro key hkey
  simpa using List.find?_eq_none.1 hfind key hkey

theorem linkHasAddress_of_findAddress {router : Router} {addr : Addr}
    (hfind : findAddress router addr = some key) : linkHasAddress router key addr = true :=
  List.find?_some (p := fun key => linkHasAddress router key addr) hfind

/-- What the link answers after `addAddress`. -/
theorem linkHasAddress_learned {router : Router} {link : LinkConnect} (addr : Addr)
    (hobject : router.object key = some link) (other : ℕ) (asked : Addr) :
    linkHasAddress (router.setLink key (busAddAddress link addr)) other asked =
      ((other = key ∧ asked = addr : Bool) || linkHasAddress router other asked) := by
  by_cases hother : other = key
  · subst hother
    by_cases hasked : asked = addr <;>
      simp [linkHasAddress, Router.book, Router.setLink, busAddAddress, hobject, hasked]
  · simp [linkHasAddress, Router.book, Router.setLink, hother]

/-- Why `addAddress` does nothing to a link. -/
inductive Ignores (t : Relay) (key : ℕ) (addr : Addr) : Prop
  | absent : t.router.object key = none → Ignores t key addr
  | single : (t.port key).kind = .single → addr = 0 ∨ addr = (t.port key).addr → Ignores t key addr
  | server : (t.port key).kind = .server → Ignores t key addr
  | cache : (t.port key).kind = .cache → Ignores t key addr

/-- `addAddress` tells the driver of a bus, changes nothing, or aborts the program. -/
theorem addAddress_cases (t : Relay) (key : ℕ) (addr : Addr) :
    (∃ link, t.router.object key = some link ∧ (t.port key).kind = .bus ∧ t.addAddress key addr =
        { t with router := t.router.setLink key (busAddAddress link addr) }) ∨
    t.addAddress key addr = t ∧ Ignores t key addr ∨
    t.addAddress key addr = { t with router := { t.router with fault := some .assertion } } := by
  unfold Relay.addAddress
  split
  · next hbus =>
    split
    · next hnone => exact .inr (.inl ⟨rfl, .absent hnone⟩)
    · next link hobject => exact .inl ⟨link, hobject, hbus, rfl⟩
  · next hsingle =>
    split
    · next haddr => exact .inr (.inl ⟨rfl, .single hsingle haddr⟩)
    · exact .inr (.inr rfl)
  · next hserver => exact .inr (.inl ⟨rfl, .server hserver⟩)
  · next hcache => exact .inr (.inl ⟨rfl, .cache hcache⟩)

/-- Only a router without an address leaves the source unassigned. -/
theorem ne_zero_of_learns {received : LDataPDU} (hlearns : Learns t (t.sourceOf key received)) :
    t.sourceOf key received ≠ 0 := by
  intro hzero
  have hown := hlearns.ne_own
  rw [hzero] at hown
  unfold Relay.sourceOf at hzero
  split_ifs at hzero with hsource hport
  · exact hsource hzero
  · exact hport hzero
  · exact hown hzero.symm

/-- Queueing concerns the queue only. -/
theorem queueLData_eq (t : Relay) (key : ℕ) (l : LDataPDU) :
    t.queueLData key l = { t with buf := (t.queueLData key l).buf } := by
  unfold Relay.queueLData
  split <;> rfl

@[simp]
theorem queueLData_router (t : Relay) (key : ℕ) (l : LDataPDU) :
    (t.queueLData key l).router = t.router := by
  rw [queueLData_eq]

/-- Receiving a frame keeps what neither the queue, nor a learned address, nor an abort can
change. -/
theorem recvLData_preserves {P : Relay → Prop} (received : LDataPDU) (ht : P t)
    (hqueue : ∀ (base : Relay) (buf : List Queued), P base → P { base with buf })
    (hlearn : ∀ link, Learns t (t.sourceOf key received) → t.router.object key = some link →
      (t.port key).kind = .bus →
      P { t with router := t.router.setLink key (busAddAddress link (t.sourceOf key received)) })
    (habort : P { t with router := { t.router with fault := some .assertion } }) :
    P (t.recvLData key received) := by
  obtain hsame | ⟨hqueued, -⟩ | ⟨hqueued, hlearns⟩ := recvLData_cases t key received
  · rw [hsame]
    exact ht
  · rw [hqueued, queueLData_eq]
    exact hqueue t _ ht
  · rw [hqueued, queueLData_eq]
    apply hqueue
    obtain ⟨link, hobject, hbus, hadd⟩ | ⟨hadd, -⟩ | hadd :=
      addAddress_cases t key (t.sourceOf key received)
    · rw [hadd]
      exact hlearn link hlearns hobject hbus
    · rw [hadd]
      exact ht
    · rw [hadd]
      exact habort

/-- Receiving passes nothing on. -/
theorem recvLData_log (t : Relay) (key : ℕ) (received : LDataPDU) :
    (t.recvLData key received).router.log = t.router.log :=
  recvLData_preserves (P := fun next => next.router.log = t.router.log) received rfl
    (fun _ _ => id) (fun _ _ _ _ => rfl) rfl

/-- An aborted program takes no step. -/
theorem fault_eq_none_of_step {next : Relay} {event : Event} (hstep : step t event = some next) :
    t.router.fault = none := by
  rw [step.eq_def] at hstep
  exact not_isSome_iff_eq_none.1 (ite_none_left_eq_some.1 hstep).1

end Receive

/-! ## The functions of a step -/

/-- What a pass of the loop of `trigger_cb` does. -/
inductive Passes (t : Relay) (now : ℕ) : Relay → Prop
  | aborts (fault : Fault) : Passes t now { t with router := { t.router with fault := some fault } }
  | drops {queued : Queued} {buf : List Queued} (ignore : List IgnoreInfo) :
      t.buf = queued :: buf → Passes t now { t with buf, ignore }
  | distributes {queued : Queued} {buf : List Queued} {l : LDataPDU} {ignore : List IgnoreInfo}
      {router : Router} :
      t.buf = queued :: buf →
      triggerFrame t.forceBroadcast t.router.addr now t.ignore queued.frame = .ok (some l, ignore) →
      Routing.step { t.router with lowSendMore := false } (.sendLData l) = some router →
      Passes t now { t with router, buf, ignore, sending := queued.origin }

inductive Opens (t : Relay) (id key : ℕ) (client : Client) (config : LinkConnect) : Relay → Prop
  | full : client.addr = 0 → t.getClientAddr.1 = 0 → Opens t id key client config t.getClientAddr.2
  | allotted {next : Relay} : client.addr = 0 → t.getClientAddr.1 ≠ 0 →
      ((t.getClientAddr.2.register key
        { kind := .single, addr := t.getClientAddr.1, given := t.getClientAddr.1 }
        (fun other => other == t.getClientAddr.1) config true).map
          fun registered => registered.setClient id { client with link := some key }) =
        some next →
      Opens t id key client config next
  | kept {next : Relay} : client.addr ≠ 0 →
      ((t.register key { kind := .single, addr := client.addr, given := client.addr }
        (fun other => other == client.addr) config true).map
          fun registered => registered.setClient id { client with link := some key }) =
        some next →
      Opens t id key client config next

section Inversion

variable {t next : Relay}

theorem passes_of_trigger {now : ℕ} (htrigger : t.trigger now = some next) : Passes t now next := by
  unfold Relay.trigger at htrigger
  split at htrigger
  · cases htrigger
  next queued buf hbuf =>
  split at htrigger
  · cases htrigger
    exact .aborts _
  · cases htrigger
    exact .drops _ hbuf
  · next l ignore hframe =>
    obtain ⟨_, hstep, rfl⟩ := map_eq_some_iff.1 htrigger
    exact .distributes hbuf hframe hstep

theorem opens_of_openConn {id key : ℕ} {client : Client} {config : LinkConnect}
    (hopen : t.openConn id key client config = some next) : Opens t id key client config next := by
  unfold Relay.openConn at hopen
  by_cases hzero : client.addr = 0
  · rw [if_pos hzero] at hopen
    dsimp only at hopen
    split at hopen
    · next hfull =>
      cases hopen
      exact .full hzero hfull
    · next hallotted => exact .allotted hzero hallotted hopen
  · rw [if_neg hzero] at hopen
    dsimp only at hopen
    rw [if_neg hzero] at hopen
    exact .kept hzero hopen

/-- `unregisterLink` is a step of the router, or there is no such link in the table. -/
theorem unregister_cases {link : Option ℕ} (hunregister : t.unregister link = some next) :
    next = t ∧ (∀ key ∈ t.router.links, link ≠ some key) ∨ ∃ key router, link = some key ∧
        Routing.step t.router (.unregisterLink key) = some router ∧ next = { t with router } := by
  unfold Relay.unregister at hunregister
  split at hunregister
  · cases hunregister
    exact .inl ⟨rfl, by simp⟩
  next key =>
  split at hunregister
  · obtain ⟨router, hstep, rfl⟩ := map_eq_some_iff.1 hunregister
    exact .inr ⟨key, router, rfl, hstep, rfl⟩
  · next habsent =>
    cases hunregister
    refine .inl ⟨rfl, fun other hother heq => habsent ?_⟩
    rw [some.inj heq]
    exact hother

end Inversion

end Knxd.Traffic
