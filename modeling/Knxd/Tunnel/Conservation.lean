import Knxd.Core.Ledger
import Knxd.Tunnel.ServerChanges

/-!
# Client addresses are conserved

The addresses marked in the router's block on behalf of the server should be
those of its running connections.  A connection request asks for an address
before it checks what the client wants, and some of the ways it can fail forget
to give the address back: a tunnelling layer that the server does not know, a link
that cannot be set up, and a server without a free channel.  In a run without
these, and with a block that neither holds the address 0 nor runs over the end of
the address space, the books are balanced.
-/

namespace Knxd.Conservation

open Memory LPDU Packet Connection ClientAddrs Server List EIBnetServer AddrPool
open Ledger ServerChanges Transition

variable {connections : List Conn}

/-! ## The invariant -/

def heldBy (connections : List Conn) : List Addr :=
  (connections.map (·.state.addr)).filter (· ≠ 0)

/-- The books of the server: everything marked in the block is owned by one
connection or by another user of the block.  Connections that were stopped or
are to be dropped own nothing. -/
structure Conserved (s : EIBnetServer) : Prop where
  placed : s.pool.Placed
  idents_nodup : (s.connections.map (·.ident)).Nodup
  idents_lt : ∀ conn ∈ s.connections, conn.ident < s.created
  dropQ_lt : ∀ ident ∈ s.dropQ, ident < s.created
  stopped : ∀ conn ∈ s.connections, conn.state.active = false → conn.state.addr = 0
  dropped : ∀ conn ∈ s.connections, conn.ident ∈ s.dropQ → conn.state.addr = 0
  balanced : Balanced s.pool.IsUsed (heldBy s.connections ++ s.others)

theorem heldBy_append (front back : List Conn) :
    heldBy (front ++ back) = heldBy front ++ heldBy back := by
  simp [heldBy]

/-- Writing back the state of one connection touches no other one. -/
theorem map_ident_eq (hnodup : (connections.map (·.ident)).Nodup)
    {conn : Conn} (hconn : conn ∈ connections) (state : ConnState) :
    ∃ front back, connections = front ++ conn :: back ∧ (connections.map fun other =>
        if other.ident = conn.ident then { other with state } else other) =
        front ++ { conn with state } :: back := by
  obtain ⟨front, back, rfl⟩ := append_of_mem hconn
  refine ⟨front, back, rfl, ?_⟩
  rw [map_append, map_cons, nodup_middle, nodup_cons, mem_append, not_or] at hnodup
  obtain ⟨⟨hfront, hback⟩, -⟩ := hnodup
  have hsame : ∀ others : List Conn, conn.ident ∉ others.map (·.ident) → (others.map fun other =>
        if other.ident = conn.ident then { other with state } else other) = others := by
    intro others habsent
    refine (map_congr_left fun other hother => ?_).trans (map_id others)
    have hne : other.ident ≠ conn.ident := by
      intro heq
      exact habsent (heq ▸ mem_map_of_mem hother)
    rw [if_neg hne]
    rfl
  rw [map_append, map_cons, hsame front hfront, hsame back hback, if_pos rfl]

variable {s next : EIBnetServer} {conn : Conn} {result : ConnState × List Output}

/-- The books after the state of one connection was written back. -/
theorem Conserved.replace (h : Conserved s) (hconn : conn ∈ s.connections) (state : ConnState)
    (pool : AddrPool) (queued : List ℕ) (hplaced : pool.Placed)
    (haddr : state.addr = conn.state.addr ∨ state.addr = 0)
    (hstopped : state.active = false → state.addr = 0)
    (hqueued : ∀ ident ∈ queued, ident = conn.ident ∧ state.addr = 0)
    (hbalanced : ∀ front back, s.connections = front ++ conn :: back →
      Balanced pool.IsUsed (heldBy (front ++ { conn with state } :: back) ++ s.others)) :
    Conserved { s with
      connections := s.connections.map fun other =>
        if other.ident = conn.ident then { other with state } else other
      pool, dropQ := s.dropQ ++ queued } := by
  obtain ⟨front, back, hsplit, hmap⟩ := map_ident_eq h.idents_nodup hconn state
  have hidents : (front ++ { conn with state } :: back).map (·.ident) =
      s.connections.map (·.ident) := by simp [hsplit]
  have hmem : ∀ other ∈ front ++ { conn with state } :: back,
      other ∈ s.connections ∨ other = { conn with state } := by
    intro other hother
    rw [mem_append, mem_cons] at hother
    rw [hsplit, mem_append, mem_cons]
    rcases hother with hother | hother | hother
    · exact .inl (.inl hother)
    · exact .inr hother
    · exact .inl (.inr (.inr hother))
  rw [hmap]
  refine ⟨hplaced, hidents ▸ h.idents_nodup, ?_, ?_, ?_, ?_, hbalanced front back hsplit⟩
  · intro other hother
    rcases hmem other hother with hbefore | rfl
    · exact h.idents_lt other hbefore
    · exact h.idents_lt conn hconn
  · intro ident hident
    rcases mem_append.1 hident with hident | hident
    · exact h.dropQ_lt ident hident
    · rw [(hqueued ident hident).1]
      exact h.idents_lt conn hconn
  · intro other hother hinactive
    rcases hmem other hother with hbefore | rfl
    · exact h.stopped other hbefore hinactive
    · exact hstopped hinactive
  · intro other hother hident
    rcases mem_append.1 hident with hident | hident
    · rcases hmem other hother with hbefore | rfl
      · exact h.dropped other hbefore hident
      · have hzero := h.dropped conn hconn hident
        rcases haddr with hsame | hnone
        · exact hsame.trans hzero
        · exact hnone
    · obtain ⟨hsame, hzero⟩ := hqueued _ hident
      obtain rfl : other = { conn with state } :=
        inj_on_of_nodup_map (hidents ▸ h.idents_nodup) hother (by simp) hsame
      exact hzero

theorem heldBy_cons_of_ne {conn : Conn} (hne : conn.state.addr ≠ 0) (connections : List Conn) :
    heldBy (conn :: connections) = conn.state.addr :: heldBy connections := by
  rw [heldBy, map_cons, filter_cons_of_pos (by simpa using hne)]
  rfl

theorem heldBy_cons_of_eq {conn : Conn} (hzero : conn.state.addr = 0) (connections : List Conn) :
    heldBy (conn :: connections) = heldBy connections := by
  simp [heldBy, hzero]

/-- Every handler of a connection keeps the books. -/
theorem Conserved.update (h : Conserved s) (hconn : conn ∈ s.connections)
    (houtcome : Outcome conn.state result) : Conserved (s.update conn.ident result) := by
  cases houtcome with
  | stays _ haddr hactive hreleases hdrop =>
    have hkept := h.replace hconn result.1 s.pool [] h.placed (.inl haddr)
      (fun hinactive => haddr.trans (h.stopped conn hconn (hactive ▸ hinactive))) (by simp)
      (fun front back hsplit => by
        have hheld : heldBy (front ++ { conn with state := result.1 } :: back) =
            heldBy s.connections := by simp [heldBy, hsplit, haddr]
        exact hheld ▸ h.balanced)
    simpa [EIBnetServer.update, hreleases, hdrop] using hkept
  | stops _ haddr _ hreleases hdrop =>
    have hqueued : ∀ ident ∈ [conn.ident], ident = conn.ident ∧ result.1.addr = 0 :=
      fun ident hident => ⟨mem_singleton.1 hident, haddr⟩
    by_cases hzero : conn.state.addr = 0
    · rw [if_pos hzero] at hreleases
      have hkept := h.replace hconn result.1 s.pool _ h.placed (.inr haddr) (fun _ => haddr) hqueued
        (fun front back hsplit => by
          have hheld : heldBy (front ++ { conn with state := result.1 } :: back) =
              heldBy s.connections := by simp [heldBy, hsplit, haddr, hzero]
          exact hheld ▸ h.balanced)
      simpa [EIBnetServer.update, hreleases, hdrop] using hkept
    · rw [if_neg hzero] at hreleases
      have hused : s.pool.IsUsed conn.state.addr := by
        rw [h.balanced.used_iff, mem_append]
        exact .inl (mem_filter.2 ⟨mem_map_of_mem hconn, by simpa using hzero⟩)
      have hkept := h.replace hconn result.1 _ _
        ((placed_releaseClientAddr _).2 h.placed) (.inr haddr) (fun _ => haddr) hqueued
        (fun front back hsplit => by
          have hperm : (heldBy s.connections ++ s.others).Perm (conn.state.addr ::
              (heldBy (front ++ { conn with state := result.1 } :: back) ++ s.others)) := by
            rw [hsplit, heldBy_append, heldBy_append, heldBy_cons_of_ne hzero,
              heldBy_cons_of_eq haddr, append_assoc, append_assoc]
            exact perm_middle
          exact (h.balanced.perm hperm).release (isUsed_releaseClientAddr h.placed hused))
      simpa [EIBnetServer.update, hreleases, hdrop] using hkept

/-! ## Connection requests -/

/-- A tunnel request for which an address is found can be admitted: its layer is
known, the link comes up, and a channel is free. -/
def Admissible (s : EIBnetServer) (r1 : EIBnetConnectRequest) (env : Env) : Prop :=
  r1.cri.length = 3 ∧ byteAt r1.cri 0 = 4 → s.tunnel = true →
    (s.pool.getClientAddr s.addr env.known).1 ≠ 0 →
    (byteAt r1.cri 1 = 0x02 ∨ byteAt r1.cri 1 = 0x80) ∧ env.setupOk = true ∧ s.freeChannel ≤ 0xff
  deriving Decidable

section Connect

variable {s : EIBnetServer}

/-- The books after a connection was added, if the address it got is free and was
marked. -/
theorem Conserved.append (h : Conserved s) (state : ConnState) (pool : AddrPool)
    (hplaced : pool.Placed) (hactive : state.active = true)
    (hbalanced : Balanced pool.IsUsed (heldBy [⟨s.created, state⟩] ++
      (heldBy s.connections ++ s.others))) :
    Conserved { s with
      pool, connections := s.connections ++ [⟨s.created, state⟩], created := s.created + 1 } where
  placed := hplaced
  idents_nodup := by
    rw [map_append, nodup_append]
    refine ⟨h.idents_nodup, by simp, ?_⟩
    rintro ident hident other hother rfl
    obtain ⟨conn, hconn, _⟩ := mem_map.1 hident
    have hcreated : ident = s.created := by simpa using hother
    exact absurd (h.idents_lt conn hconn) (by omega)
  idents_lt conn hconn := by
    rcases mem_append.1 hconn with hconn | hconn
    · exact Nat.lt_succ_of_lt (h.idents_lt conn hconn)
    · rw [mem_singleton.1 hconn]
      exact Nat.lt_succ_self _
  dropQ_lt ident hident := Nat.lt_succ_of_lt (h.dropQ_lt ident hident)
  stopped conn hconn hinactive := by
    rcases mem_append.1 hconn with hconn | hconn
    · exact h.stopped conn hconn hinactive
    · rw [mem_singleton.1 hconn, hactive] at hinactive
      cases hinactive
  dropped conn hconn hident := by
    rcases mem_append.1 hconn with hconn | hconn
    · exact h.dropped conn hconn hident
    · rw [mem_singleton.1 hconn] at hident
      exact absurd (h.dropQ_lt _ hident) (lt_irrefl _)
  balanced := by
    refine hbalanced.perm ?_
    rw [heldBy_append, append_assoc]
    exact perm_append_comm_assoc _ _ _

variable {r1 : EIBnetConnectRequest} {env : Env}

/-- A connection without an address, for device management, leaves the books
alone. -/
theorem Conserved.addClient_config (h : Conserved s) (r1 : EIBnetConnectRequest) (env : Env) :
    Conserved (s.addClient .config r1 0 env).1 ∧
      (s.addClient .config r1 0 env).1.pool = s.pool := by
  unfold addClient
  dsimp only
  split
  · split
    · exact ⟨h.append _ s.pool h.placed rfl h.balanced, rfl⟩
    · exact ⟨h, rfl⟩
  · exact ⟨h, rfl⟩

/-- Marking a free address and handing it to a new connection keeps the books. -/
theorem Conserved.allocate (h : Conserved s) {pos : ℕ} (hfree : s.pool.used[pos]? = some false)
    {state : ConnState} (haddr : state.addr = s.pool.addrAt pos) (hactive : state.active = true) :
    Conserved { s with
      pool := { s.pool with pos, used := s.pool.used.set pos true }
      connections := s.connections ++ [⟨s.created, state⟩], created := s.created + 1 } := by
  have hpos := lt_of_getElem? hfree
  have hne : state.addr ≠ 0 := haddr ▸ addrAt_ne_zero h.placed hpos
  refine h.append state _ ?_ hactive ?_
  · simpa [Placed] using h.placed
  · have hheld : heldBy [⟨s.created, state⟩] = [s.pool.addrAt pos] := by
      rw [heldBy_cons_of_ne hne, haddr]
      rfl
    rw [hheld]
    exact h.balanced.acquire (not_isUsed_of_free h.placed hfree) (isUsed_set_true hpos pos)

theorem connectTunnel_of_none {a : Addr} (hnone : s.tunnel = false ∨ a = 0) :
    (s.connectTunnel r1 a env).1 = s := by
  unfold connectTunnel
  dsimp only
  split
  · rfl
  · next htunnel => rw [if_pos (hnone.resolve_left htunnel)]

/-- A tunnel request that can be admitted gets its connection and no error. -/
theorem connectTunnel_of_some {a : Addr} (htunnel : s.tunnel = true) (hne : a ≠ 0)
    (hlayer : byteAt r1.cri 1 = 0x02 ∨ byteAt r1.cri 1 = 0x80) (hsetup : env.setupOk = true)
    (hchannel : s.freeChannel ≤ 0xff) :
    (∃ state : ConnState, state.addr = a ∧ state.active = true ∧
      (s.connectTunnel r1 a env).1 = { s with
        connections := s.connections ++ [⟨s.created, state⟩]
        created := s.created + 1 }) ∧ (s.connectTunnel r1 a env).2.status = 0 := by
  have hid : (s.freeChannel : ℤ) ≤ 0xff := by exact_mod_cast hchannel
  unfold connectTunnel addClient
  dsimp only
  rw [if_neg (by simp [htunnel]), if_neg hne, if_pos hlayer, if_pos hchannel, if_pos hsetup]
  refine ⟨⟨_, ?_, ?_, by rfl⟩, ?_⟩
  · rfl
  · rfl
  · rw [grantChannel, if_pos hid]

/-- An admissible connection request keeps the books, and one that is answered
with an error leaves the block as it was. -/
theorem Conserved.connectRequest (h : Conserved s) (hadmissible : Admissible s r1 env) :
    Conserved (s.connectRequest r1 env).1 ∧
      ((s.connectRequest r1 env).2.status ≠ 0 → (s.connectRequest r1 env).1.pool = s.pool) := by
  unfold EIBnetServer.connectRequest
  split
  · next hcri =>
    by_cases htunnel : s.tunnel = true
    · have hadmitted := hadmissible hcri htunnel
      rw [if_pos htunnel]
      obtain ⟨hnone, -⟩ | ⟨pos, hfree, -, -, hget⟩ := s.pool.getClientAddr_cases s.addr env.known
      · rw [hnone]
        dsimp only
        rw [connectTunnel_of_none (.inr rfl)]
        exact ⟨h, fun _ => rfl⟩
      · have hne := addrAt_ne_zero h.placed (lt_of_getElem? hfree)
        rw [hget] at hadmitted ⊢
        obtain ⟨hlayer, hsetup, hchannel⟩ := hadmitted hne
        dsimp only
        obtain ⟨⟨_, haddr, hactive, hnext⟩, hstatus⟩ := connectTunnel_of_some
          (s := { s with pool := { s.pool with pos, used := s.pool.used.set pos true } })
          htunnel hne hlayer hsetup hchannel
        rw [hnext]
        exact ⟨h.allocate hfree haddr hactive, fun herror => absurd hstatus herror⟩
    · rw [if_neg htunnel]
      dsimp only
      rw [connectTunnel_of_none (.inl (by simpa using htunnel))]
      exact ⟨h, fun _ => rfl⟩
  · split
    · obtain ⟨hconserved, hpool⟩ := h.addClient_config r1 env
      exact ⟨hconserved, fun _ => hpool⟩
    · exact ⟨h, fun _ => rfl⟩

end Connect

/-! ## Stopping and dropping -/

theorem Conserved.stopAll (h : Conserved s) : Conserved s.stopAll :=
  stopAll_rule h.idents_nodup h fun _ conn hbefore hconn =>
    hbefore.update hconn (outcome_stop conn.state)

theorem heldBy_eraseP {ident : ℕ}
    (hzero : ∀ conn ∈ connections, conn.ident = ident → conn.state.addr = 0) :
    heldBy (connections.eraseP (·.ident = ident)) = heldBy connections := by
  induction connections with
  | nil => rfl
  | cons conn _ ih =>
    obtain ⟨hconn, hrest⟩ := forall_mem_cons.1 hzero
    by_cases hident : conn.ident = ident
    · rw [eraseP_cons_of_pos (by simpa using hident), heldBy_cons_of_eq (hconn hident)]
    · rw [eraseP_cons_of_neg (by simpa using hident), ← singleton_append,
        heldBy_append, ih hrest, ← heldBy_append, singleton_append]

/-- Dropping connections that have no address leaves the others their own. -/
theorem heldBy_dropEach {idents : List ℕ}
    (hzero : ∀ conn ∈ connections, conn.ident ∈ idents → conn.state.addr = 0) :
    heldBy (idents.foldl (fun connections ident => connections.eraseP (·.ident = ident))
      connections) = heldBy connections := by
  induction idents generalizing connections with
  | nil => rfl
  | cons ident _ ih =>
    have hsublist : (connections.eraseP (·.ident = ident)).Sublist connections := eraseP_sublist
    have hheld := ih fun conn hconn hident =>
      hzero conn (hsublist.subset hconn) (mem_cons_of_mem _ hident)
    refine hheld.trans (heldBy_eraseP fun conn hconn hident => ?_)
    exact hzero conn hconn (hident ▸ mem_cons_self)

theorem Conserved.dropTriggerCb (h : Conserved s) : Conserved s.dropTriggerCb := by
  have hsublist := dropTriggerCb_sublist s
  exact {
    placed := h.placed
    idents_nodup := h.idents_nodup.sublist (hsublist.map _)
    idents_lt := fun conn hconn => h.idents_lt conn (hsublist.subset hconn)
    dropQ_lt := fun ident hident => absurd hident not_mem_nil
    stopped := fun conn hconn => h.stopped conn (hsublist.subset hconn)
    dropped := fun conn _ hident => absurd hident not_mem_nil
    balanced := by
      rw [EIBnetServer.dropTriggerCb, heldBy_dropEach h.dropped]
      exact h.balanced }

/-! ## Other users of the block -/

theorem Conserved.otherUsers (h : Conserved s) (pool : AddrPool) (others : List Addr)
    (hplaced : pool.Placed) (hbalanced : Balanced pool.IsUsed (heldBy s.connections ++ others)) :
    Conserved { s with pool, others } :=
  { h with placed := hplaced, balanced := hbalanced }

theorem Conserved.otherAllocates (h : Conserved s) {known : Addr → Bool}
    (hstep : s.step (.otherAllocates known) = some next) : Conserved next := by
  rw [step] at hstep
  obtain ⟨hnone, -⟩ | ⟨pos, hfree, -, -, hget⟩ := s.pool.getClientAddr_cases s.addr known
  · rw [hnone] at hstep
    cases hstep
    exact h
  · have hpos := lt_of_getElem? hfree
    rw [hget] at hstep
    dsimp only at hstep
    rw [if_neg (addrAt_ne_zero h.placed hpos)] at hstep
    cases hstep
    refine h.otherUsers _ _ (by simpa [Placed] using h.placed) ?_
    exact (h.balanced.acquire (not_isUsed_of_free h.placed hfree)
      (isUsed_set_true hpos pos)).perm perm_middle.symm

theorem Conserved.otherReleases (h : Conserved s) {addr : Addr}
    (hstep : s.step (.otherReleases addr) = some next) : Conserved next := by
  obtain ⟨hmem, hnext⟩ := Option.ite_none_right_eq_some.1 hstep
  cases hnext
  have hused : s.pool.IsUsed addr := (h.balanced.used_iff addr).2 (mem_append_right _ hmem)
  refine h.otherUsers _ _ ((placed_releaseClientAddr _).2 h.placed) ?_
  have hperm : (heldBy s.connections ++ s.others).Perm
      (addr :: (heldBy s.connections ++ s.others.erase addr)) :=
    ((perm_cons_erase hmem).append_left _).trans perm_middle
  exact (h.balanced.perm hperm).release (isUsed_releaseClientAddr h.placed hused)

/-! ## Runs -/

/-- A connection request is admissible; every other event may happen. -/
def admissibleRequest (s : EIBnetServer) : Event → Prop
  | .packet p1 env => ∀ r1, parseConnectRequest p1 = some r1 → Admissible s r1 env
  | _ => True

instance (s : EIBnetServer) (event : Event) : Decidable (admissibleRequest s event) :=
  match event with
  | .packet p1 env =>
    match hparse : parseConnectRequest p1 with
    | none => .isTrue fun r1 hsome => by cases hparse.symm.trans hsome
    | some r1 => decidable_of_iff (Admissible s r1 env) (by simp [admissibleRequest, hparse])
  | .sendLData .. | .sendLBusmonitor .. | .sendTrigger _ | .sendtimeout _ | .timeout ..
  | .stopConnection _ | .stopServer | .dropTrigger | .otherAllocates _ | .otherReleases _ =>
    .isTrue trivial

/-- Every event keeps the books, connection requests if they are admissible. -/
theorem Conserved.step {s next : EIBnetServer} {event : Event} (h : Conserved s)
    (hadmissible : admissibleRequest s event) (hstep : s.step event = some next) :
    Conserved next := by
  cases change_of_step hstep with
  | quiet => exact h
  | updates _ hconn _ houtcome => exact h.update hconn houtcome
  | connects _ _ r1 hparse => exact (h.connectRequest (hadmissible r1 hparse)).1
  | stopsAll => exact h.stopAll
  | drops => exact h.dropTriggerCb
  | allocates => exact h.otherAllocates hstep
  | releases => exact h.otherReleases hstep

/-- A server before its first connection: only other users hold addresses of the
block. -/
structure Idle (s : EIBnetServer) : Prop where
  placed : s.pool.Placed
  connections : s.connections = []
  dropQ : s.dropQ = []
  balanced : Balanced s.pool.IsUsed s.others

theorem Idle.conserved {s : EIBnetServer} (h : Idle s) : Conserved s where
  placed := h.placed
  idents_nodup := by simp [h.connections]
  idents_lt := by simp [h.connections]
  dropQ_lt := by simp [h.dropQ]
  stopped := by simp [h.connections]
  dropped := by simp [h.connections]
  balanced := by simpa [h.connections, heldBy] using h.balanced

theorem mem_heldBy {addr : Addr} :
    addr ∈ heldBy connections ↔ addr ≠ 0 ∧ ∃ conn ∈ connections, conn.state.addr = addr := by
  simp [heldBy, and_comm]

/-- What the balanced books say: the addresses that are marked and not another
user's are those of the connections that were not stopped. -/
theorem Conserved.used_iff {s : EIBnetServer} (h : Conserved s) (addr : Addr) :
    s.pool.IsUsed addr ∧ addr ∉ s.others ↔
      addr ≠ 0 ∧ ∃ conn ∈ s.connections, conn.state.active = true ∧ conn.state.addr = addr := by
  rw [h.balanced.used_iff, mem_append, mem_heldBy]
  constructor
  · rintro ⟨⟨hne, conn, hconn, rfl⟩ | hother, hnot⟩
    · refine ⟨hne, conn, hconn, ?_, rfl⟩
      by_contra hactive
      exact hne (h.stopped conn hconn (by simpa using hactive))
    · exact absurd hother hnot
  · rintro ⟨hne, conn, hconn, -, rfl⟩
    refine ⟨.inl ⟨hne, conn, hconn, rfl⟩, fun hother => ?_⟩
    exact disjoint_of_nodup_append h.balanced.nodup (mem_heldBy.2 ⟨hne, conn, hconn, rfl⟩) hother

/-- In every run of a server whose tunnel requests can all be admitted, the
addresses marked on its behalf are those held by connections that were not
stopped, and a connection request that is answered with an error leaves the block
as it was. -/
theorem client_addresses_conserved {start s : EIBnetServer} (hstart : Idle start)
    (hpath : Path EIBnetServer.step admissibleRequest start s) :
    (∀ addr, s.pool.IsUsed addr ∧ addr ∉ s.others ↔
      addr ≠ 0 ∧ ∃ conn ∈ s.connections, conn.state.active = true ∧ conn.state.addr = addr) ∧
    ∀ r1 env, Admissible s r1 env → (s.connectRequest r1 env).2.status ≠ 0 →
      (s.connectRequest r1 env).1.pool = s.pool := by
  have hconserved := hpath.invariant Conserved hstart.conserved
    fun _ _ _ hbefore hallowed hstep => hbefore.step hallowed hstep
  exact ⟨hconserved.used_iff, fun r1 env hadmissible =>
    (hconserved.connectRequest hadmissible).2⟩

/-- A server with a block of two addresses from 1.1.1 on. -/
def smallServer : EIBnetServer :=
  { addr := 0x1100, pool := .configured 0x1101 2 }

def tunnelConnect (layer : Byte) : EIBNetIPPacket :=
  { service := ServiceType.connectionRequest.code
    data := ipToEIBNetIP {} true ++ ipToEIBNetIP {} true ++ [0x04, 0x04, layer, 0x00] }

/-- Nobody else has an address, and the link of a new connection comes up if
`setupOk` is set. -/
def quietEnv (setupOk : Bool) : Env :=
  { known := fun _ => false, setupOk, source := some {} }

theorem idle_smallServer : Idle smallServer where
  placed := ⟨by decide, by decide⟩
  connections := rfl
  dropQ := rfl
  balanced := balanced_nil fun _ hused => not_mem_nil (mem_usedAddrs.2 hused)

/-- Two clients connect and the first one leaves: only the address of the second
one stays marked. -/
theorem client_addresses_conserved_two :
    ∃ s, runAllowed EIBnetServer.step admissibleRequest smallServer
        [.packet (tunnelConnect 0x02) (quietEnv true), .packet (tunnelConnect 0x02) (quietEnv true),
          .packet (disconnectRequestToPacket { channel := 1 }) (quietEnv true), .dropTrigger] =
        some s ∧
      s.pool.usedAddrs = [0x1102] ∧
      ∀ addr, s.pool.IsUsed addr ∧ addr ∉ s.others ↔
        addr ≠ 0 ∧ ∃ conn ∈ s.connections, conn.state.active = true ∧ conn.state.addr = addr :=
  exists_state (by decide +kernel) fun _ hs hused =>
    ⟨hused, (client_addresses_conserved idle_smallServer (path_of_runAllowed hs)).1⟩

/-- Three requests that leave no connection behind, but an address marked: one for
a layer that the server does not know, which is answered with an error, one whose
link cannot be set up, which is answered with channel 255, and one that gets the
address 0. -/
theorem address_lost :
    (∃ s, run EIBnetServer.step smallServer [.packet (tunnelConnect 0x81) (quietEnv true)] =
        some s ∧ s.pool.IsUsed 0x1101 ∧ s.others = [] ∧ s.connections = []) ∧
      (parseConnectRequest (tunnelConnect 0x81)).map (fun r1 =>
        (smallServer.connectRequest r1 (quietEnv true)).2.status) = some tunnelingLayerError ∧
      (∃ s, run EIBnetServer.step smallServer [.packet (tunnelConnect 0x02) (quietEnv false)] =
        some s ∧ s.pool.IsUsed 0x1101 ∧ s.others = [] ∧ s.connections = []) ∧
      ∃ s, run EIBnetServer.step { smallServer with pool := .configured 0 1 }
          [.packet (tunnelConnect 0x02) (quietEnv true)] =
        some s ∧ s.pool.IsUsed 0 ∧ s.others = [] ∧ s.connections = [] := by
  simp only [← mem_usedAddrs]
  decide +kernel

end Knxd.Conservation
