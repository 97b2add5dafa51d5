import Knxd.Client.Stream
import Knxd.Routing.Ownership
import Knxd.Transport.Session

/-!
# Clients at the router

The clients of `Connection` work here on the router of `Routing.Traffic`: a request opens a
link there, a message goes as a frame to `recv_L_Data` of that link, and the end of a
connection takes the link from the table.  The frames of clients come from their messages
only; what every other link receives remains arbitrary.

What a callback can do to its client is said once, in `Turns`.  A step of the whole is a step
of the router, or a callback of one client together with the steps of the router that it
makes.  Invariants of the router therefore hold of the whole.
-/

namespace Knxd.Clients

open Memory LPDU Link Routing Traffic ClientConnection Option
open Transport (TConnection TPDU Acts acts_of_act masked disconnectFrame)
open IOBuf (bufSize)
open Transition (Path anyEvent)

inductive Callback
  | readCb (buf : Block bufSize) (len : ℕ) (answers : Answers)
  | sendLData (l : LDataPDU)
  | timerCb

def ClientConnection.act (con : ClientConnection) : Callback → Run (ClientConnection × List Output)
  | .readCb buf len answers => do
      let (_, con, out) ← con.readCb answers buf.1 len
      pure (con, out)
  | .sendLData l => con.sendLData l
  | .timerCb => con.timerCb

def Frameless (out : List Output) : Prop :=
  ∀ l, .recvLData l ∉ out

/-- The source that a connection writes into its frames; 0 is left to the router. -/
def AConn.Writes (l : LDataPDU) : AConn → Prop
  | .tpdu src => l.source = src ∧ l.addrType = .individualAddress
  | _ => l.source = 0

inductive Reacts : AConn → AConn → List Output → Prop
  | frame {conn : AConn} {l : LDataPDU} : conn.Writes l → Reacts conn conn [.recvLData l]
  | silent {conn : AConn} {out : List Output} : Frameless out → Reacts conn conn out
  /-- The timer callback does not look at whether the timer runs. -/
  | transport {c c' : TConnection} {event : Transport.Event} {sent : List Transport.Output}
      (timer : Bool) : Acts { c with timer } event c' sent → event ≠ .sendConnect →
      Reacts (.connection c) (.connection c') (sent.map AConn.output)

/-- What a callback does to a client: nothing changes, the connection is closed, one is opened, or
the connection reacts.  Only a connection that reacts or is closed sends frames. -/
inductive Turns (con : ClientConnection) : ClientConnection → List Output → Prop
  | stays {out : List Output} : Frameless out → Turns con con out
  | closes {con' : ClientConnection} {out : List Output} : con'.aConn = none →
      (∀ l, .recvLData l ∈ out → ∃ conn, con.aConn = some conn ∧ conn.Writes l) →
      Turns con con' out
  | monitors {m : Monitor} {out : List Output} : Frameless out →
      Turns con { con with aConn := some (.monitor m) } out
  | opens {kind : ConnKind} {answers : Answers} {buf : CArray} {conn : AConn} {out : List Output} :
      kind.create answers buf = .ok conn → Frameless out →
      Turns con { con with aConn := some conn } out
  | reacts {conn conn' : AConn} {out : List Output} : con.aConn = some conn →
      Reacts conn conn' out → Turns con { con with aConn := some conn' } out

section Turns

variable {conn conn' : AConn} {con con' : ClientConnection} {out : List Output} {l : LDataPDU}
variable {buf : CArray} {len : ℕ} {answers : Answers}

theorem eq_of_passOn {frame : CArray → Run LDataPDU} {data : Option CArray}
    (hpass : conn.passOn frame data = .ok (some (conn', out))) :
    ∃ payload l, frame payload = .ok l ∧ conn' = conn ∧ out = [.recvLData l] := by
  cases data with
  | none => cases hpass
  | some payload =>
    obtain ⟨l, hframe, hresult⟩ := bind_eq_ok_iff.1 hpass
    cases hresult
    exact ⟨payload, l, hframe, rfl, rfl⟩

/-- The transport layer wants a first byte. -/
theorem recvXXXReq_eq_ok_iff {data : CArray} {frame : LDataPDU} : recvXXXReq l data = .ok frame ↔
      1 ≤ data.length ∧ frame = { l with data := masked data } := by
  obtain ⟨text, htext⟩ : Returns (TPDU.dataXXXReq data).decode := by
    obtain ⟨a, ha, hwellFormed⟩ := Application.fromPacket_wellFormed data
    obtain ⟨text, htext⟩ := hwellFormed.returns_decode
    rw [TPDU.decode, ha, ok_bind, htext, ok_bind]
    exact returns_ok _
  rw [recvXXXReq, htext, ok_bind, TPDU.toPacket]
  by_cases hpos : 0 < data.length
  · rw [require_of hpos, ok_bind, readAt_of_lt hpos, ok_bind]
    constructor
    · intro hresult
      exact ⟨hpos, (Except.ok.inj hresult).symm⟩
    · rintro ⟨-, rfl⟩
      rfl
  · rw [require_of_not hpos]
    constructor
    · intro hresult
      cases hresult
    · rintro ⟨hsome, -⟩
      exact (hpos hsome).elim

theorem reacts_of_passOn {frame : CArray → Run LDataPDU} {data : Option CArray}
    (hpass : conn.passOn frame data = .ok (some (conn', out)))
    (hframe : ∀ payload l, frame payload = .ok l → conn.Writes l) : Reacts conn conn' out := by
  obtain ⟨payload, l, hmade, rfl, rfl⟩ := eq_of_passOn hpass
  exact .frame (hframe payload l hmade)

theorem source_of_recvXXXReq {template : LDataPDU} {data : CArray}
    (hframe : recvXXXReq template data = .ok l) : l.source = template.source := by
  rw [(recvXXXReq_eq_ok_iff.1 hframe).2]

theorem reacts_of_recvData (hrecv : conn.recvData buf len = .ok (some (conn', out))) :
    Reacts conn conn' out := by
  cases conn with
  | monitor =>
    cases hrecv
    exact .silent (by simp [Frameless])
  | connection c =>
    obtain ⟨data, -, hrecv⟩ := bind_eq_ok_iff.1 hrecv
    cases data with
    | none => cases hrecv
    | some data =>
      obtain ⟨⟨c', sent⟩, hsent, hresult⟩ := bind_eq_ok_iff.1 hrecv
      cases hresult
      have hacts : Acts c (.recvData data) c' sent := acts_of_act (congrArg some hsent)
      exact .transport c.timer hacts (by simp)
  | tpdu =>
    obtain ⟨data, -, hpass⟩ := bind_eq_ok_iff.1 hrecv
    apply reacts_of_passOn hpass
    intro payload l hmade
    obtain ⟨dest, -, hresult⟩ := bind_eq_ok_iff.1 hmade
    cases hresult
    exact ⟨rfl, rfl⟩
  | groupSocket =>
    obtain ⟨data, -, hpass⟩ := bind_eq_ok_iff.1 hrecv
    apply reacts_of_passOn hpass
    intro payload l hmade
    obtain ⟨dest, -, hframe⟩ := bind_eq_ok_iff.1 hmade
    exact source_of_recvXXXReq hframe
  | broadcast | group | individual =>
    obtain ⟨data, -, hpass⟩ := bind_eq_ok_iff.1 hrecv
    exact reacts_of_passOn hpass fun payload l hmade => source_of_recvXXXReq hmade

/-- A client that takes data without a connection answers nothing. -/
theorem frameless_of_deliver {message : CArray → CArray}
    (hdeliver : AConn.deliver l message = .ok out) : Frameless out := by
  obtain ⟨t, -, hresult⟩ := bind_eq_ok_iff.1 hdeliver
  split at hresult
  · cases hresult
    simp [Frameless]
  · cases hresult
    simp [Frameless]

theorem reacts_of_sendLData (hsend : conn.sendLData l = .ok (conn', out)) :
    Reacts conn conn' out := by
  cases conn with
  | monitor | tpdu =>
    cases hsend
    exact .silent (by simp [Frameless])
  | connection c =>
    obtain ⟨⟨c', sent⟩, hsent, hresult⟩ := bind_eq_ok_iff.1 hsend
    cases hresult
    have hacts : Acts c (.sendLData l) c' sent := acts_of_act (congrArg some hsent)
    exact .transport c.timer hacts (by simp)
  | broadcast | group | individual | groupSocket =>
    obtain ⟨sent, hdeliver, hresult⟩ := bind_eq_ok_iff.1 hsend
    cases hresult
    exact .silent (frameless_of_deliver hdeliver)

theorem frameless_exit (conn : AConn) : Frameless (conn.exit false) := by
  cases conn <;> simp [Frameless, AConn.exit, AConn.connectionSend]

theorem writes_of_exit {held : Bool} (hmem : .recvLData l ∈ conn.exit held) : conn.Writes l := by
  cases held with
  | false => exact (frameless_exit conn l hmem).elim
  | true =>
    cases conn with
    | connection c =>
      obtain rfl : l = disconnectFrame c.dest := by
        simpa [AConn.exit, AConn.connectionSend] using hmem
      rfl
    | _ => simp [AConn.exit] at hmem

/-- `exit_conn` leaves no connection. -/
theorem turns_exitConn (con : ClientConnection) (held : Bool) (more : List Output)
    (hmore : Frameless more) : Turns con (con.exitConn held).1 ((con.exitConn held).2 ++ more) := by
  unfold exitConn
  split
  · exact .stays hmore
  · next conn hconn =>
    refine .closes rfl fun l hmem => ⟨conn, hconn, ?_⟩
    exact writes_of_exit ((List.mem_append.1 hmem).resolve_right (hmore l))

theorem turns_of_openMonitor {m : Monitor}
    (hopen : con.openMonitor answers m buf len = .ok (con', out)) : Turns con con' out := by
  unfold openMonitor at hopen
  split at hopen
  · cases hopen
    exact .stays (by simp [Frameless, reject, sendreject])
  · obtain ⟨_, _, hresult⟩ := bind_eq_ok_iff.1 hopen
    cases hresult
    exact .monitors (by simp [Frameless])

theorem turns_of_openLink {kind : ConnKind}
    (hopen : con.openLink answers kind buf len = .ok (con', out)) : Turns con con' out := by
  unfold openLink at hopen
  split at hopen
  · cases hopen
    exact .stays (by simp [Frameless, reject, sendreject])
  obtain ⟨conn, hcreate, hopen⟩ := bind_eq_ok_iff.1 hopen
  have hexit := frameless_exit conn
  split at hopen
  · cases hopen
    exact .closes rfl fun l hmem => by simp [reject, sendreject, hexit l] at hmem
  obtain ⟨_, _, hopen⟩ := bind_eq_ok_iff.1 hopen
  dsimp only at hopen
  split at hopen
  · cases hopen
    exact .closes rfl fun l hmem => by simp [reject, sendreject, hexit l] at hmem
  · cases hopen
    exact .opens hcreate (by simp [Frameless])

/-- A request that is too short is rejected. -/
theorem frameless_of_guard {condition : Prop} [Decidable condition] {rest : Run (List Output)}
    (hguard : (if condition then pure [reject] else rest) = .ok out)
    (hrest : rest = .ok out → Frameless out) : Frameless out := by
  split at hguard
  · cases hguard
    simp [Frameless, reject, sendreject]
  · exact hrest hguard

theorem frameless_of_groupCacheRequest {request : CacheRequest}
    (hcache : groupCacheRequest answers buf len request = .ok out) : Frameless out := by
  refine frameless_of_guard hcache fun hcache => ?_
  cases request with
  | enable | disable | clear =>
    cases hcache
    simp [Frameless, sendreject]
  | remove | readNowait =>
    refine frameless_of_guard hcache fun hcache => ?_
    obtain ⟨dst, -, hresult⟩ := bind_eq_ok_iff.1 hcache
    cases hresult
    simp [Frameless, sendreject]
  | read =>
    refine frameless_of_guard hcache fun hcache => ?_
    obtain ⟨dst, -, hcache⟩ := bind_eq_ok_iff.1 hcache
    refine frameless_of_guard hcache fun hcache => ?_
    obtain ⟨_, -, hresult⟩ := bind_eq_ok_iff.1 hcache
    cases hresult
    simp [Frameless]
  | lastUpdates =>
    refine frameless_of_guard hcache fun hcache => ?_
    obtain ⟨_, -, hcache⟩ := bind_eq_ok_iff.1 hcache
    obtain ⟨timeout, -, hresult⟩ := bind_eq_ok_iff.1 hcache
    cases hresult
    simp [Frameless]
  | lastUpdates2 =>
    refine frameless_of_guard hcache fun hcache => ?_
    obtain ⟨_, -, hcache⟩ := bind_eq_ok_iff.1 hcache
    obtain ⟨_, -, hcache⟩ := bind_eq_ok_iff.1 hcache
    obtain ⟨timeout, -, hresult⟩ := bind_eq_ok_iff.1 hcache
    cases hresult
    simp [Frameless]

theorem turns_of_handleMessage (hhandle : con.handleMessage answers buf len = .ok (con', out)) :
    Turns con con' out := by
  obtain ⟨_, -, hhandle⟩ := bind_eq_ok_iff.1 hhandle
  split at hhandle
  · next conn hconn =>
    split at hhandle
    · cases hhandle
      exact turns_exitConn con _ _ (by simp [Frameless, sendreject])
    · obtain ⟨result, hrecv, hresult⟩ := bind_eq_ok_iff.1 hhandle
      cases result with
      | none =>
        have hexit : con.exitConn answers.held = (con', out) := Except.ok.inj hresult
        have hturns := turns_exitConn con answers.held [] (by simp [Frameless])
        rwa [hexit, List.append_nil] at hturns
      | some =>
        cases hresult
        exact .reacts hconn (reacts_of_recvData hrecv)
  · split at hhandle
    · exact turns_of_openMonitor hhandle
    · exact turns_of_openLink hhandle
    · obtain ⟨_, hcache, hresult⟩ := bind_eq_ok_iff.1 hhandle
      cases hresult
      exact .stays (frameless_of_groupCacheRequest hcache)
    · cases hhandle
      exact .stays (by simp [Frameless, sendreject])
    · cases hhandle
      exact .stays (by simp [Frameless, reject, sendreject])

theorem turns_of_act {callback : Callback} (hact : con.act callback = .ok (con', out)) :
    Turns con con' out := by
  have hnothing : Turns con con [] := .stays (by simp [Frameless])
  cases callback with
  | readCb =>
    obtain ⟨⟨_, next, sent⟩, hread, hresult⟩ := bind_eq_ok_iff.1 hact
    cases hresult
    unfold readCb at hread
    split at hread
    · cases hread
      exact hnothing
    obtain ⟨_, -, hread⟩ := bind_eq_ok_iff.1 hread
    split at hread
    · cases hread
      exact hnothing
    · obtain ⟨⟨_, _⟩, hhandle, hresult⟩ := bind_eq_ok_iff.1 hread
      cases hresult
      exact turns_of_handleMessage hhandle
  | sendLData l =>
    change con.sendLData l = .ok (con', out) at hact
    unfold sendLData at hact
    split at hact
    · cases hact
      exact hnothing
    · next conn hconn =>
      obtain ⟨⟨_, sent⟩, hsend, hresult⟩ := bind_eq_ok_iff.1 hact
      cases hresult
      exact .reacts hconn (reacts_of_sendLData hsend)
  | timerCb =>
    change con.timerCb = .ok (con', out) at hact
    unfold timerCb at hact
    split at hact
    · next c hconn =>
      obtain ⟨⟨c', sent⟩, htimer, hresult⟩ := bind_eq_ok_iff.1 hact
      cases hresult
      have hacts : Acts { c with timer := true } .timerCb c' sent :=
        acts_of_act (congrArg some htimer)
      exact .reacts hconn (.transport true hacts (by simp))
    · cases hact
      exact hnothing

end Turns

/-- The router, and `a_conn` of every client. -/
structure System where
  relay : Relay
  conns : ℕ → Option AConn := fun _ => none

inductive Event
  | router (event : Traffic.Event)
  /-- A callback of a client, with the link that it may open. -/
  | client (id : ℕ) (callback : Callback) (key : ℕ) (config : LinkConnect)
  /-- `ClientConnection::stop`. -/
  | stop (id : ℕ)

/-- The program is aborted. -/
def abort (t : Relay) (fault : Fault) : Relay :=
  { t with router := { t.router with fault := some fault } }

def ofClient (t : Relay) : Traffic.Event → Bool
  | .openConn _ _ _ | .exitConn _ | .clientStop _ => true
  | .receive key _ => (t.port key).kind = .single
  | _ => false

/-- What the router makes of an output.  A frame goes through the link that the client had before
the callback, and is dropped if there was none. -/
def perform (id key : ℕ) (config : LinkConnect) (link : Option ℕ) (t : Relay) :
    Output → Option Relay
  | .registerLink true => Traffic.step t (.openConn id key config)
  | .unregisterLink => Traffic.step t (.exitConn id)
  | .recvLData l =>
    match link with
    | none => some t
    | some link => Traffic.step t (.receive link l)
  | _ => some t

namespace System

def connection (s : System) (id : ℕ) (client : Traffic.Client) : ClientConnection :=
  { addr := client.addr, aConn := s.conns id }

def ready (s : System) (id : ℕ) (client : Traffic.Client) : Callback → Bool
  | .readCb _ len _ => client.addr ≠ 0 ∧ len ≤ bufSize ∧ s.relay.router.stack = []
  | .sendLData _ => s.relay.router.outside
  | .timerCb =>
    match s.conns id with
    | some (.connection c) => c.timer && s.relay.router.stack = []
    | _ => false

def step (s : System) : Event → Option System
  | .router event =>
    if ofClient s.relay event then none
    else (Traffic.step s.relay event).map fun relay => { s with relay }
  | .client id callback key config =>
    (s.relay.client? false id).bind fun client =>
      if s.relay.router.fault = none ∧ s.ready id client callback then
        match (s.connection id client).act callback with
        | .error fault => some { s with relay := abort s.relay fault }
        | .ok (con, out) =>
          (out.foldlM (perform id key config client.link) s.relay).map fun relay =>
            { relay, conns := Function.update s.conns id con.aConn }
      else none
  | .stop id =>
    (Traffic.step s.relay (.clientStop id)).map fun relay =>
      { relay, conns := Function.update s.conns id none }

/-- A router with its configured block, before any client was there. -/
def boot (addr start : Addr) (length : ℕ) (forceBroadcast : Bool) : System :=
  { relay := Traffic.boot addr start length forceBroadcast }

end System

section Steps

variable {s s' : System} {id : ℕ}

abbrev Routes (t next : Relay) : Prop :=
  Path Traffic.step anyEvent t next

theorem routes_of_perform {t next : Relay} {key : ℕ} {config : LinkConnect} {link : Option ℕ}
    {output : Output} (hperform : perform id key config link t output = some next) :
    Routes t next := by
  unfold perform at hperform
  split at hperform
  · exact .step .refl trivial hperform
  · exact .step .refl trivial hperform
  · split at hperform
    · cases hperform
      exact .refl
    · exact .step .refl trivial hperform
  · cases hperform
    exact .refl

theorem routes_of_foldlM {t next : Relay} {key : ℕ} {config : LinkConnect} {link : Option ℕ}
    {out : List Output} (hperform : out.foldlM (perform id key config link) t = some next) :
    Routes t next := by
  induction out generalizing t with
  | nil =>
    cases hperform
    exact .refl
  | cons _ _ ih =>
    rw [List.foldlM_cons] at hperform
    obtain ⟨_, hfirst, hrest⟩ := bind_eq_some_iff.1 hperform
    exact (routes_of_perform hfirst).trans (ih hrest)

/-- The steps of the whole: of the router alone, of a client, or the end of the program in a
callback. -/
inductive Steps (s : System) : System → Prop
  | router {relay : Relay} : Routes s.relay relay → Steps s { s with relay }
  | callback {relay : Relay} {client : Traffic.Client} {callback : Callback}
      {con : ClientConnection} {out : List Output} (id : ℕ) :
      s.relay.clients id = some client →
      (s.connection id client).act callback = .ok (con, out) → Routes s.relay relay →
      Steps s { relay, conns := Function.update s.conns id con.aConn }
  | stop {relay : Relay} (id : ℕ) :
      Routes s.relay relay → Steps s { relay, conns := Function.update s.conns id none }
  | abort (fault : Fault) : Steps s { s with relay := abort s.relay fault }

theorem steps_of_step {event : Event} (hstep : s.step event = some s') : Steps s s' := by
  cases event with
  | router =>
    obtain ⟨-, hstep⟩ := ite_none_left_eq_some.1 hstep
    obtain ⟨relay, hrelay, rfl⟩ := map_eq_some_iff.1 hstep
    exact .router (.step .refl trivial hrelay)
  | client id callback =>
    obtain ⟨client, hclient, hstep⟩ := bind_eq_some_iff.1 hstep
    obtain ⟨-, hstep⟩ := ite_none_right_eq_some.1 hstep
    split at hstep
    · cases hstep
      exact .abort _
    · next con out hact =>
      obtain ⟨relay, hrelay, rfl⟩ := map_eq_some_iff.1 hstep
      exact .callback id (filter_eq_some_iff.1 hclient).1 hact (routes_of_foldlM hrelay)
  | stop id =>
    obtain ⟨relay, hrelay, rfl⟩ := map_eq_some_iff.1 hstep
    exact .stop id (.step .refl trivial hrelay)

/-- An invariant of the router holds when clients work on it. -/
theorem relay_invariant {start : System} (Inv : Relay → Prop)
    (hrun : Path System.step anyEvent start s) (hstart : Inv start.relay)
    (hstep : ∀ t event next, Inv t → Traffic.step t event = some next → Inv next)
    (habort : ∀ t fault, Inv t → Inv (abort t fault)) : Inv s.relay := by
  have hroutes {t next : Relay} (ht : Inv t) (hpath : Routes t next) : Inv next :=
    hpath.invariant Inv ht fun t event next ht _ => hstep t event next ht
  apply hrun.invariant fun s => Inv s.relay
  · exact hstart
  · intro s event s' hs _ hsystem
    cases steps_of_step hsystem with
    | router hpath | callback _ _ _ hpath | stop _ hpath => exact hroutes hs hpath
    | abort fault => exact habort s.relay fault hs

end Steps

end Knxd.Clients
