import Knxd.Client.Payload

/-!
# Source addresses of clients

The link of a client has one address, and `LinkConnectSingle::addAddress` asserts that the
router learns no other there.  Most connections leave the source of their frames to the
router.  A client that opens a TPDU connection names a source of its own, and the router
learns it unless another check comes first: that it is the router's, that a link has it,
that it is in the block for clients, or that it is the address of unprogrammed devices.
-/

namespace Knxd.Clients

open Memory LPDU Link Routing ClientAddrs Allocator Option List Function
open Transport (TConnection Acts peerFrame)
open Traffic
open Transition (Path anyEvent run exists_path_of)

variable {config : LinkConnect}

section Sources

variable {conn conn' : AConn} {con con' : ClientConnection} {out : List Output} {l : LDataPDU}

theorem ne_of_sendNext {next : List Transport.Output}
    (hnext : ∀ output ∈ next, output = .sendNext) : .recvLData l ∉ next := by
  intro hmem
  cases hnext _ hmem

theorem source_of_acts {c c' : TConnection} {event : Transport.Event}
    {sent : List Transport.Output} (hacts : Acts c event c' sent)
    (hmem : .recvLData l ∈ sent) : l.source = 0 := by
  have hpeer : ∀ {frame dest prio data}, frame = peerFrame dest prio data →
      .recvLData l ∈ [Transport.Output.recvLData frame] → l.source = 0 := by
    intro frame dest prio data hframe hmem
    cases mem_singleton.1 hmem
    rw [hframe]
    rfl
  cases hacts with
  | connects => exact hpeer rfl hmem
  | stops _ _ _ hnext =>
    simp only [mem_cons, reduceCtorEq, ne_of_sendNext hnext, or_false] at hmem
    exact hpeer rfl (mem_singleton.2 hmem)
  | ignores | queues | finishes => simp at hmem
  | starts _ _ _ _ _ _ hframe =>
    obtain ⟨packet, -, hpacket⟩ := hframe
    exact hpeer hpacket hmem
  | repeats _ _ _ _ _ _ _ hframe hnext =>
    obtain ⟨packet, -, hpacket⟩ := hframe
    simp only [mem_cons, ne_of_sendNext hnext, or_false] at hmem
    exact hpeer hpacket (mem_singleton.2 hmem)
  | takes _ _ _ _ _ _ hack | takesAgain _ _ _ _ _ _ _ hack =>
    obtain ⟨packet, -, hpacket⟩ := hack
    exact hpeer hpacket (by simpa using hmem)
  | advances _ _ _ _ _ _ _ _ _ hframe =>
    obtain ⟨packet, -, hpacket⟩ := hframe
    exact hpeer hpacket (by simpa using hmem)

/-- The frames of a `T_Connection` among the outputs of its client. -/
theorem mem_of_output {sent : List Transport.Output}
    (hmem : .recvLData l ∈ sent.map AConn.output) : .recvLData l ∈ sent := by
  obtain ⟨output, houtput, heq⟩ := mem_map.1 hmem
  cases output with
  | recvLData =>
    cases heq
    exact houtput
  | send | sendNext => cases heq

theorem writes_of_reacts (hreacts : Reacts conn conn' out) (hmem : .recvLData l ∈ out) :
    conn.Writes l := by
  cases hreacts with
  | frame hwrites =>
    cases mem_singleton.1 hmem
    exact hwrites
  | silent hnone => exact (hnone l hmem).elim
  | transport _ hacts => exact source_of_acts hacts (mem_of_output hmem)

/-- Every frame of a client is one of its connection. -/
theorem writes_of_turns (hturns : Turns con con' out) (hmem : .recvLData l ∈ out) :
    ∃ conn, con.aConn = some conn ∧ conn.Writes l := by
  cases hturns with
  | stays hnone | monitors hnone | opens _ hnone => exact (hnone l hmem).elim
  | closes _ hwrites => exact hwrites l hmem
  | reacts hconn hreacts => exact ⟨_, hconn, writes_of_reacts hreacts hmem⟩

end Sources

/-- A link that was once made keeps its class. -/
def Extends (t next : Relay) : Prop :=
  ∀ key, t.router.book key ≠ none →
    (next.port key).kind = (t.port key).kind ∧ next.router.book key ≠ none

/-- The link of a client that is no tunnel is a `LinkConnectSingle`. -/
def Wired (t : Relay) : Prop :=
  ∀ id client key, t.clients id = some client → client.tunnel = false → client.link = some key →
    (t.port key).kind = .single ∧ t.router.book key ≠ none

section Wired

variable {t next : Relay} {id key : ℕ} {client : Traffic.Client}

theorem extends_of_register {port : Port} {book : Addr → Bool}
    {transient : Bool} (hregister : t.register key port book config transient = some next) :
    Extends t next ∧ next.clients = t.clients ∧ next.port key = port ∧
      next.router.book key ≠ none := by
  obtain ⟨_, hstep, rfl⟩ := map_eq_some_iff.1 hregister
  have hregisters := registers_of_step hstep
  refine ⟨fun other hother => ?_, rfl, update_self _ _ _, ?_⟩
  · have hne : other ≠ key := by
      rintro rfl
      exact hother hregisters.fresh
    exact ⟨congrArg Port.kind (update_of_ne hne _ _), (hregisters.other other hne).trans_ne hother⟩
  · rw [hregisters.same]
    exact some_ne_none _

section

variable (hwired : Wired t)
include hwired

theorem Wired.extends (hextends : Extends t next)
    (hclients : next.clients = t.clients) : Wired next := by
  intro id client key hclient htunnel hlink
  rw [hclients] at hclient
  obtain ⟨hkind, hbook⟩ := hwired id client key hclient htunnel hlink
  obtain ⟨hsame, hstill⟩ := hextends key hbook
  exact ⟨hsame.trans hkind, hstill⟩

/-- Steps that make no link and leave the clients alone. -/
theorem Wired.unchanged
    (hbook : ∀ key, next.router.book key = t.router.book key) (hport : next.port = t.port)
    (hclients : next.clients = t.clients) : Wired next := by
  refine hwired.extends (fun key hsome => ?_) hclients
  rw [hport, hbook]
  exact ⟨rfl, hsome⟩

theorem Wired.setClient (hclient : client.tunnel = false → ∀ key, client.link = some key →
      (t.port key).kind = .single ∧ t.router.book key ≠ none) : Wired (t.setClient id client) := by
  intro other holder key hholder htunnel hlink
  by_cases hsame : other = id
  · subst hsame
    cases (update_self _ _ _).symm.trans hholder
    exact hclient htunnel key hlink
  · exact hwired other holder key ((update_of_ne hsame _ _).symm.trans hholder)
      htunnel hlink

theorem Wired.unlinked (hlink : client.link = none) : Wired (t.setClient id client) := by
  apply hwired.setClient
  intro _ key hkey
  rw [hlink] at hkey
  cases hkey

/-- Handing out an address and taking it back concerns the block only. -/
theorem Wired.pool (pool : AddrPool) : Wired { t with pool } :=
  hwired.unchanged (fun _ => rfl) rfl rfl

theorem Wired.recvLData (key : ℕ) (l : LDataPDU) : Wired (t.recvLData key l) := by
  apply recvLData_preserves l hwired
  · exact fun base buf hbase => hbase.unchanged (fun _ => rfl) rfl rfl
  · intro link _ hobject _
    refine hwired.extends (fun other hbook => ⟨rfl, ?_⟩) rfl
    by_cases hother : other = key
    · simp [Router.book, Router.setLink, hother]
    · simpa [Router.book, Router.setLink, hother] using hbook
  · exact hwired.unchanged (fun _ => rfl) rfl rfl

theorem Wired.closeLink (hclose : t.closeLink id client = some next) : Wired next := by
  obtain ⟨after, hunregister, rfl⟩ := map_eq_some_iff.1 hclose
  have hafter : Wired after := by
    obtain ⟨rfl, -⟩ | ⟨key, _, -, hstep, rfl⟩ := unregister_cases hunregister
    · exact hwired
    obtain hkeeps | ⟨frame, -, key, hpasses⟩ := step_books rfl hstep
    · exact hwired.unchanged hkeeps.book rfl rfl
    · exact hwired.unchanged hpasses.book rfl rfl
  exact hafter.unlinked rfl

theorem Wired.releaseClient (hclient : t.clients id = some client) :
    Wired (t.releaseClient id client) := by
  have hlinked := hwired id client
  unfold Relay.releaseClient Relay.release
  split
  · exact hwired.setClient fun htunnel key => hlinked key hclient htunnel
  · exact (hwired.pool _).setClient fun htunnel key => hlinked key hclient htunnel

/-- `registerLink` for a new link of a client. -/
theorem Wired.openLink {port : Port} {book : Addr → Bool} {transient : Bool}
    (hopen : ((t.register key port book config transient).map
      fun next => next.setClient id client) = some next)
    (hlink : client.link = some key) (hport : client.tunnel = false → port.kind = .single) :
    Wired next := by
  obtain ⟨_, hregister, rfl⟩ := map_eq_some_iff.1 hopen
  obtain ⟨hextends, hclients, hnew, hbook⟩ := extends_of_register hregister
  apply (hwired.extends hextends hclients).setClient
  intro htunnel other hother
  cases hlink.symm.trans hother
  rw [hnew]
  exact ⟨hport htunnel, hbook⟩

theorem Wired.openConn (hopen : t.openConn id key client config = some next) : Wired next := by
  cases opens_of_openConn hopen with
  | full => exact hwired.pool _
  | allotted _ _ hregister => exact (hwired.pool _).openLink hregister rfl fun _ => rfl
  | kept _ hregister => exact hwired.openLink hregister rfl fun _ => rfl

theorem Wired.addTunnel {setupOk : Bool}
    (hadd : t.addTunnel id key config setupOk = some next) : Wired next := by
  unfold Relay.addTunnel at hadd
  dsimp only at hadd
  split at hadd
  · cases hadd
    exact hwired.pool _
  · exact (hwired.pool _).openLink hadd rfl (by simp)

theorem Wired.trigger {now : ℕ} (htrigger : t.trigger now = some next) : Wired next := by
  cases passes_of_trigger htrigger with
  | aborts | drops => exact hwired.unchanged (fun _ => rfl) rfl rfl
  | distributes _ _ hstep => exact hwired.unchanged (sendLData_books hstep).1.book rfl rfl

/-- One step of the program keeps the links of clients what they are. -/
theorem Wired.step {event : Traffic.Event}
    (hstep : Traffic.step t event = some next) : Wired next := by
  rw [Traffic.step.eq_def] at hstep
  split at hstep
  · cases hstep
  cases event with
  | router =>
    obtain ⟨hinternal, hon⟩ := ite_none_right_eq_some.1 hstep
    obtain ⟨router, hrouter, rfl⟩ := map_eq_some_iff.1 hon
    obtain hkeeps | ⟨frame, -, key, hpasses⟩ := step_books hinternal hrouter
    · exact hwired.unchanged hkeeps.book rfl rfl
    · exact hwired.unchanged hpasses.book rfl rfl
  | receive key l =>
    obtain ⟨-, ⟨⟩⟩ := ite_none_right_eq_some.1 hstep
    exact hwired.recvLData key l
  | setAddress key =>
    obtain ⟨-, ⟨⟩⟩ := ite_none_right_eq_some.1 hstep
    refine hwired.extends (fun other hbook => ⟨?_, hbook⟩) rfl
    by_cases hother : other = key <;> simp [update, hother]
  | registerBus | registerServer =>
    obtain ⟨hextends, hclients, -⟩ := extends_of_register hstep
    exact hwired.extends hextends hclients
  | registerCache =>
    obtain ⟨-, hregister⟩ := ite_none_right_eq_some.1 hstep
    obtain ⟨hextends, hclients, -⟩ := extends_of_register hregister
    exact hwired.extends hextends hclients
  | clientConnection =>
    obtain ⟨-, ⟨⟩⟩ := ite_none_right_eq_some.1 hstep
    exact (hwired.pool _).unlinked rfl
  | openConn =>
    obtain ⟨client, -, hopen⟩ := bind_eq_some_iff.1 hstep
    obtain ⟨-, hopen⟩ := ite_none_right_eq_some.1 hopen
    exact hwired.openConn hopen
  | exitConn | dropConn =>
    obtain ⟨client, -, hclose⟩ := bind_eq_some_iff.1 hstep
    exact hwired.closeLink hclose
  | clientStop =>
    obtain ⟨client, hclient, hclose⟩ := bind_eq_some_iff.1 hstep
    exact (hwired.releaseClient (filter_eq_some_iff.1 hclient).1).closeLink hclose
  | addTunnel =>
    obtain ⟨-, hadd⟩ := ite_none_right_eq_some.1 hstep
    exact hwired.addTunnel hadd
  | addConfig =>
    obtain ⟨-, hadd⟩ := ite_none_right_eq_some.1 hstep
    exact hwired.openLink hadd rfl (by simp)
  | connStop =>
    obtain ⟨client, hclient, rfl⟩ := map_eq_some_iff.1 hstep
    exact hwired.releaseClient (filter_eq_some_iff.1 hclient).1
  | trigger =>
    obtain ⟨-, htrigger⟩ := ite_none_right_eq_some.1 hstep
    exact hwired.trigger htrigger
  | expire =>
    cases hstep
    exact hwired.unchanged (fun _ => rfl) rfl rfl

end

/-- In every run, the link of a client has one address. -/
theorem wired_of_path {addr start : Addr} {length : ℕ} {forceBroadcast : Bool} {s : System}
    (hrun : Path System.step anyEvent (.boot addr start length forceBroadcast) s) :
    Wired s.relay := by
  apply relay_invariant Wired hrun
  · intro id client key hclient
    cases hclient
  · intro t event next hwired hstep
    exact hwired.step hstep
  · intro t fault hwired
    exact hwired.unchanged (fun _ => rfl) rfl rfl

end Wired

/-- The sources that the link of a client does not have to learn, and its own. -/
def Permitted (t : Relay) (key : ℕ) (src : Addr) : Prop :=
  src = 0 ∨ src = (t.port key).addr ∨ src = t.router.addr ∨
    (findAddress t.router src).isSome ∨ InBlock t.pool src ∨ src = 0xFFFF

section Assertion

variable {t : Relay} {key : ℕ} {l : LDataPDU}

theorem addAddress_single (hsingle : (t.port key).kind = .single) (addr : Addr) :
    t.addAddress key addr =
      if addr = 0 ∨ addr = (t.port key).addr then t
      else { t with router := { t.router with fault := some .assertion } } := by
  rw [Relay.addAddress, hsingle]

/-- Any other source trips the assertion. -/
theorem fault_of_not_permitted (hsingle : (t.port key).kind = .single)
    (hdest : ¬ (l.addrType = .individualAddress ∧ l.dest = 0))
    (hsource : ¬ Permitted t key l.source) :
    (t.recvLData key l).router.fault = some .assertion := by
  simp only [Permitted, not_or, not_isSome_iff_eq_none] at hsource
  obtain ⟨hzero, hother, hown, hunknown, houtside, hprogramming⟩ := hsource
  have hkept : t.sourceOf key l = l.source := if_pos hzero
  rw [Relay.recvLData, if_neg hdest]
  dsimp only
  rw [hkept, if_neg hown, hunknown]
  dsimp only
  rw [if_neg (fun hblock => houtside hblock.2), if_pos hprogramming, queueLData_router,
    addAddress_single hsingle, if_neg (not_or.2 ⟨hzero, hother⟩)]

theorem permitted_of_learns (hlearns : Learns t (t.sourceOf key l))
    (hsource : Permitted t key l.source) : t.sourceOf key l = (t.port key).addr := by
  obtain ⟨hown, hunknown, houtside, hprogramming⟩ := hlearns
  by_cases hzero : l.source = 0
  · unfold Relay.sourceOf at hown ⊢
    rw [if_neg (not_not.2 hzero)] at hown ⊢
    split_ifs at hown ⊢
    · rfl
    · exact (hown rfl).elim
  · have hkept : t.sourceOf key l = l.source := if_pos hzero
    rw [hkept] at hown hunknown houtside hprogramming ⊢
    rcases hsource with hsource | hsource | hsource | hsource | hsource | hsource
    · exact (hzero hsource).elim
    · exact hsource
    · exact (hown hsource).elim
    · rw [hunknown] at hsource
      cases hsource
    · exact (houtside hsource).elim
    · exact (hprogramming hsource).elim

/-- A frame from the link of a client passes the assertion exactly if it goes nowhere, or its
source is permitted. -/
theorem fault_recvLData_iff (hsingle : (t.port key).kind = .single)
    (hfault : t.router.fault = none) :
    (t.recvLData key l).router.fault = none ↔
      (l.addrType = .individualAddress ∧ l.dest = 0) ∨ Permitted t key l.source := by
  constructor
  · intro hnone
    by_contra hnot
    rw [not_or] at hnot
    rw [fault_of_not_permitted hsingle hnot.1 hnot.2] at hnone
    cases hnone
  · rintro (hdest | hsource)
    · rw [Relay.recvLData, if_pos hdest]
      exact hfault
    · obtain hsame | ⟨hqueued, -⟩ | ⟨hqueued, hlearns⟩ := recvLData_cases t key l
      · rw [hsame]
        exact hfault
      · rw [hqueued, queueLData_router]
        exact hfault
      · rw [hqueued, queueLData_router, addAddress_single hsingle,
          if_pos (.inr (permitted_of_learns hlearns hsource))]
        exact hfault

/-- What a client in a run sends passes the assertion exactly if its connection leaves the source
to the router, or the source it names is permitted. -/
theorem single_address_iff {addr start : Addr} {length : ℕ} {forceBroadcast : Bool} {s : System}
    (hrun : Path System.step anyEvent (.boot addr start length forceBroadcast) s)
    (hrunning : s.relay.router.fault = none) {id : ℕ} {client : Traffic.Client}
    (hclient : s.relay.clients id = some client) (htunnel : client.tunnel = false)
    (hlink : client.link = some key) {callback : Callback} {con : ClientConnection}
    {out : List Output} (hact : (s.connection id client).act callback = .ok (con, out))
    (hframe : .recvLData l ∈ out) :
    (s.relay.recvLData key l).router.fault = none ↔
      ∀ src, s.conns id = some (.tpdu src) → l.dest = 0 ∨ Permitted s.relay key src := by
  obtain ⟨hsingle, -⟩ := wired_of_path hrun id client key hclient htunnel hlink
  obtain ⟨conn, hconn, hwrites⟩ := writes_of_turns (turns_of_act hact) hframe
  change s.conns id = some conn at hconn
  rw [fault_recvLData_iff hsingle hrunning]
  by_cases htpdu : ∃ src, conn = .tpdu src
  · obtain ⟨src, rfl⟩ := htpdu
    obtain ⟨rfl, hindividual⟩ := hwrites
    constructor
    · intro hpasses src hsrc
      cases hconn.symm.trans hsrc
      exact hpasses.imp_left And.right
    · intro hpasses
      exact (hpasses _ hconn).imp_left fun hdest => ⟨hindividual, hdest⟩
  · have hzero : l.source = 0 := by
      cases conn with
      | tpdu src => exact (htpdu ⟨src, rfl⟩).elim
      | _ => exact hwrites
    constructor
    · intro _ src hsrc
      cases hconn.symm.trans hsrc
      exact (htpdu ⟨src, rfl⟩).elim
    · intro _
      exact .inr (.inl hzero)

/-- A client opens a TPDU connection and names a source. -/
def opensTpdu (high low : Byte) : List Event :=
  [.router (.clientConnection 7),
    .client 7 (.readCb (received [0, 5, 0x00, 0x24, high, low, 0]) 7 {}) 2 {}]

def writesToDevice : Callback :=
  .readCb (received [0, 6, 0x00, 0x25, 0x11, 0x05, 0x00, 0x80]) 8 {}

/-- A client may name the address of its link. -/
theorem single_address_own : ∃ s, Path System.step anyEvent (.boot 0x1100 0x1101 4 false) s ∧
      s.conns 7 = some (.tpdu 0x1101) ∧
      (s.relay.recvLData 2 (tpduFrame 0x1101 0x1105 [0x00, 0x80])).router.fault = none := by
  refine exists_path_of (D := fun s => s.conns 7 = some (.tpdu 0x1101) ∧
      s.relay.clients 7 = some ⟨false, 0x1101, some 2⟩ ∧ s.relay.router.fault = none ∧
      (s.relay.port 2).addr = 0x1101) (opensTpdu 0x11 0x01) (by decide +kernel)
    fun s hpath hfields => ?_
  obtain ⟨hconn, hclient, hfault, haddr⟩ := hfields
  have hact : (s.connection 7 ⟨false, 0x1101, some 2⟩).act writesToDevice =
      .ok (⟨0x1101, some (.tpdu 0x1101)⟩, [.recvLData (tpduFrame 0x1101 0x1105 [0x00, 0x80])]) := by
    rw [System.connection, hconn]
    decide +kernel
  refine ⟨hconn, (single_address_iff hpath hfault hclient rfl rfl hact mem_cons_self).2 ?_⟩
  intro src hsrc
  cases hconn.symm.trans hsrc
  exact .inr (.inr (.inl haddr.symm))

/-- A client that names an address which the router has not seen ends the program. -/
theorem unknown_source_aborts : (run System.step (.boot 0x1100 0x1101 4 false)
      (opensTpdu 0x12 0x03 ++ [.client 7 writesToDevice 2 {}])).map
        (fun s => s.relay.router.fault) = some (some .assertion) := by
  decide +kernel

end Assertion

end Knxd.Clients
