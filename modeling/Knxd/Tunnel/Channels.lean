import Knxd.Tunnel.Acknowledge
import Knxd.Tunnel.Conservation

/-!
# Channels identify connections

`addClient` looks for a channel with a loop that starts again from the first
connection each time it finds one with the number it tries.  It ends with the
smallest number that is free, which may be 256.  No two connections of a server
have the same channel, and none has the channel 0.

`addClient` returns -1 when the new link cannot be set up.  The caller only
compares the result with 255, so it answers such a request as if the channel 255
had been granted.
-/

namespace Knxd.Channels

open Memory LPDU Packet Connection ClientAddrs Server List ConnState EIBnetServer Except
open ServerChanges Transition
open SendQueue (fresh)
open Conservation (smallServer tunnelConnect quietEnv)

def taken (connections : List Conn) (id : ℕ) : Prop :=
  ∃ conn ∈ connections, conn.state.channel.toNat = id
  deriving Decidable

theorem taken_lt {connections : List Conn} {id : ℕ} (h : taken connections id) : id < 256 := by
  obtain ⟨conn, -, rfl⟩ := h
  exact conn.state.channel.isLt

/-- The loop at the label `rt` of `addClient`.  Every restart raises `id`, and no
channel is above 255. -/
def searchLoop (connections : List Conn) (id : ℕ) : ℕ :=
  if taken connections id then searchLoop connections (id + 1) else id
termination_by 256 - id
decreasing_by
  have hlt := taken_lt (by assumption)
  omega

/-- The loop passes over the numbers that are taken and stops at the first other
one. -/
theorem searchLoop_spec (connections : List Conn) (id : ℕ) :
    ¬ taken connections (searchLoop connections id) ∧ id ≤ searchLoop connections id ∧
      ∀ other, id ≤ other → other < searchLoop connections id → taken connections other := by
  fun_induction searchLoop connections id with
  | case1 _ htaken ih =>
    obtain ⟨hfree, _, hpassed⟩ := ih
    refine ⟨hfree, by omega, fun other hother hlt => ?_⟩
    rcases hother.eq_or_lt with rfl | hmore
    · exact htaken
    · exact hpassed other hmore hlt
  | case2 _ hfree => exact ⟨hfree, le_rfl, fun other hother hlt => absurd hlt (by omega)⟩

theorem isLeast_searchLoop (connections : List Conn) :
    IsLeast {id | 1 ≤ id ∧ ¬ taken connections id} (searchLoop connections 1) := by
  obtain ⟨hfree, hle, hpassed⟩ := searchLoop_spec connections 1
  refine ⟨⟨hle, hfree⟩, ?_⟩
  rintro id ⟨hid, hother⟩
  exact not_lt.1 fun hlt => hother (hpassed id hid hlt)

/-- The channel of a new connection is the one the loop finds. -/
theorem searchLoop_eq_freeChannel (s : EIBnetServer) :
    searchLoop s.connections 1 = s.freeChannel := by
  obtain ⟨hfree, _, hpassed⟩ := searchLoop_spec s.connections 1
  have hbound : searchLoop s.connections 1 ≤ 256 := by
    by_contra hover
    have habove : taken s.connections 256 := hpassed 256 (by norm_num) (by omega)
    exact absurd (taken_lt habove) (by norm_num)
  have hfind : (range 256).find?
      ((fun id => decide (∀ conn ∈ s.connections, conn.state.channel.toNat ≠ id)) ∘ (· + 1)) =
      some (searchLoop s.connections 1 - 1) := by
    rw [find?_range_eq_some]
    refine ⟨?_, mem_range.2 (by omega), ?_⟩
    · have hid : searchLoop s.connections 1 - 1 + 1 = searchLoop s.connections 1 := by omega
      simp only [Function.comp_apply, hid, decide_eq_true_eq]
      exact fun conn hconn heq => hfree ⟨conn, hconn, heq⟩
    · intro other hother
      obtain ⟨conn, hconn, heq⟩ := hpassed (other + 1) (by omega) (by omega)
      simp only [Function.comp_apply, Bool.not_eq_true', decide_eq_false_iff_not]
      exact fun hall => hall conn hconn heq
  rw [freeChannel, find?_map, hfind]
  change searchLoop s.connections 1 = searchLoop s.connections 1 - 1 + 1
  omega

variable {s next : EIBnetServer} {r1 : EIBnetConnectRequest} {env : Env} {event : Event}
variable {sent : List EIBNetIPPacket} {c : ConnState} {result : ConnState × List Output}

/-- The server after a connection was created for a request. -/
def withClient (s : EIBnetServer) (pool : AddrPool) (state : ConnState) : EIBnetServer :=
  { s with pool, connections := s.connections ++ [⟨s.created, state⟩], created := s.created + 1 }

/-- `addClient` creates a connection with the free channel or none at all; -1 says
that it could not be set up. -/
theorem addClient_cases (s : EIBnetServer) (type : ConnType) (r1 : EIBnetConnectRequest)
    (addr : Addr) (env : Env) :
    (s.freeChannel ≤ 0xff ∧ env.setupOk = true ∧ s.addClient type r1 addr env = (withClient s s.pool
          (fresh addr (BitVec.ofNat 8 s.freeChannel) type r1.nat r1.caddr r1.daddr),
          (s.freeChannel : ℤ))) ∨
      (s.freeChannel ≤ 0xff ∧ env.setupOk = false ∧ s.addClient type r1 addr env = (s, -1)) ∨
      0xff < s.freeChannel ∧ s.addClient type r1 addr env = (s, (s.freeChannel : ℤ)) := by
  unfold addClient
  dsimp only
  split
  · next hfree =>
    split
    · next hsetup => exact .inl ⟨hfree, hsetup, rfl⟩
    · next hsetup => exact .inr (.inl ⟨hfree, Bool.eq_false_iff.2 hsetup, rfl⟩)
  · next hfull => exact .inr (.inr ⟨not_le.1 hfull, rfl⟩)

/-- What a connection request leaves: a new connection, which the response names,
or none, and then the response is an error unless the link could not be set up. -/
def Answered (s : EIBnetServer) (r1 : EIBnetConnectRequest) (env : Env)
    (result : EIBnetServer × EIBnetConnectResponse) : Prop :=
  (∃ pool addr type, s.freeChannel ≤ 0xff ∧
      result.1 = withClient s pool
        (fresh addr (BitVec.ofNat 8 s.freeChannel) type r1.nat r1.caddr r1.daddr) ∧
      result.2.channel = BitVec.ofNat 8 s.freeChannel) ∨
    ∃ pool, result.1 = { s with pool } ∧
      (result.2.status ≠ 0 ∨ s.freeChannel ≤ 0xff ∧ env.setupOk = false)

theorem answered_addClient (s : EIBnetServer) (type : ConnType) (r1 : EIBnetConnectRequest)
    (addr : Addr) (env : Env) {r2 : EIBnetConnectResponse} (hstatus : r2.status ≠ 0) :
    Answered s r1 env ((s.addClient type r1 addr env).1,
      grantChannel (s.addClient type r1 addr env).2 r2) := by
  rcases addClient_cases s type r1 addr env with ⟨hfree, -, hresult⟩ | ⟨hfree, hsetup, hresult⟩ |
    ⟨hfull, hresult⟩
  · have hle : (s.freeChannel : ℤ) ≤ 0xff := by exact_mod_cast hfree
    rw [hresult, grantChannel, if_pos hle]
    exact .inl ⟨s.pool, addr, type, hfree, rfl, BitVec.ofInt_natCast 8 s.freeChannel⟩
  · rw [hresult]
    exact .inr ⟨s.pool, rfl, .inr ⟨hfree, hsetup⟩⟩
  · have hnot : ¬ (s.freeChannel : ℤ) ≤ 0xff := by exact_mod_cast not_le.2 hfull
    rw [hresult, grantChannel, if_neg hnot]
    exact .inr ⟨s.pool, rfl, .inl hstatus⟩

theorem answered_connectTunnel (s : EIBnetServer) (r1 : EIBnetConnectRequest) (a : Addr)
    (env : Env) : Answered s r1 env (s.connectTunnel r1 a env) := by
  unfold connectTunnel
  dsimp only
  split_ifs
  · exact .inr ⟨s.pool, rfl, .inl (by simp [connectionTypeError])⟩
  · exact .inr ⟨s.pool, rfl, .inl (by simp [noMoreConnectionsError])⟩
  · exact answered_addClient s _ r1 a env (by simp [connectionTypeError])
  · exact answered_addClient s _ r1 a env (by simp [connectionTypeError])
  · exact .inr ⟨s.pool, rfl, .inl (by simp [tunnelingLayerError])⟩

theorem answered_connectRequest (s : EIBnetServer) (r1 : EIBnetConnectRequest) (env : Env) :
    Answered s r1 env (s.connectRequest r1 env) := by
  unfold connectRequest
  dsimp only
  split
  · -- an address may have been taken from the block before
    have hanswered : ∀ a pool,
        Answered s r1 env (({ s with pool } : EIBnetServer).connectTunnel r1 a env) := fun a pool =>
      answered_connectTunnel { s with pool } r1 a env
    exact hanswered _ _
  · split
    · exact answered_addClient s _ r1 0 env (by simp [connectionTypeError])
    · exact .inr ⟨s.pool, rfl, .inl (by simp [connectionTypeError])⟩

structure Numbered (s : EIBnetServer) : Prop where
  idents_nodup : (s.connections.map (·.ident)).Nodup
  idents_lt : ∀ conn ∈ s.connections, conn.ident < s.created
  channels_nodup : (s.connections.map (·.state.channel)).Nodup
  channels_pos : ∀ conn ∈ s.connections, 1 ≤ conn.state.channel.toNat

theorem idents_update (s : EIBnetServer) (ident : ℕ) (result : ConnState × List Output) :
    (s.update ident result).connections.map (·.ident) = s.connections.map (·.ident) := by
  rw [update, map_map]
  refine map_congr_left fun conn _ => ?_
  rw [Function.comp_apply]
  split <;> rfl

theorem channels_update (hidents : (s.connections.map (·.ident)).Nodup) {conn : Conn}
    (hconn : conn ∈ s.connections) {result : ConnState × List Output}
    (hchannel : result.1.channel = conn.state.channel) :
    (s.update conn.ident result).connections.map (·.state.channel) =
      s.connections.map (·.state.channel) := by
  rw [update, map_map]
  refine map_congr_left fun other hother => ?_
  rw [Function.comp_apply]
  split
  · next heq =>
    obtain rfl : other = conn := inj_on_of_nodup_map hidents hother hconn heq
    exact hchannel
  · rfl

section

variable (h : Numbered s)
include h

/-- The invariant speaks of identities and channels only. -/
theorem Numbered.congr (hcreated : next.created = s.created)
    (hidents : next.connections.map (·.ident) = s.connections.map (·.ident))
    (hchannels : next.connections.map (·.state.channel) =
      s.connections.map (·.state.channel)) : Numbered next := by
  constructor
  · rw [hidents]
    exact h.idents_nodup
  · intro conn hconn
    have hident : conn.ident ∈ s.connections.map (·.ident) := hidents ▸ mem_map_of_mem hconn
    obtain ⟨old, hold, heq⟩ := mem_map.1 hident
    rw [hcreated, ← heq]
    exact h.idents_lt old hold
  · rw [hchannels]
    exact h.channels_nodup
  · intro conn hconn
    have hchannel : conn.state.channel ∈ s.connections.map (·.state.channel) :=
      hchannels ▸ mem_map_of_mem hconn
    obtain ⟨old, hold, heq⟩ := mem_map.1 hchannel
    rw [← heq]
    exact h.channels_pos old hold

theorem Numbered.update {conn : Conn} (hconn : conn ∈ s.connections)
    {result : ConnState × List Output} (hchannel : result.1.channel = conn.state.channel) :
    Numbered (s.update conn.ident result) :=
  h.congr rfl (idents_update s conn.ident result) (channels_update h.idents_nodup hconn hchannel)

theorem Numbered.sublist {connections : List Conn}
    (hsublist : connections.Sublist s.connections) (dropQ : List ℕ) :
    Numbered { s with connections, dropQ } :=
  ⟨h.idents_nodup.sublist (hsublist.map _),
    fun conn hconn => h.idents_lt conn (hsublist.subset hconn),
    h.channels_nodup.sublist (hsublist.map _),
    fun conn hconn => h.channels_pos conn (hsublist.subset hconn)⟩

/-- The new connection has a number that no other one has. -/
theorem Numbered.withClient (hfree : s.freeChannel ≤ 0xff) (pool : AddrPool)
    {state : ConnState} (hchannel : state.channel = BitVec.ofNat 8 s.freeChannel) :
    Numbered (Channels.withClient s pool state) := by
  obtain ⟨hnot, hpos, -⟩ := searchLoop_spec s.connections 1
  rw [searchLoop_eq_freeChannel] at hnot hpos
  have hnumber : state.channel.toNat = s.freeChannel := by
    rw [hchannel, BitVec.toNat_ofNat]
    omega
  constructor
  · rw [Channels.withClient, map_append, nodup_append]
    refine ⟨h.idents_nodup, nodup_singleton _, ?_⟩
    rintro ident hident other hother rfl
    obtain ⟨conn, hconn, rfl⟩ := mem_map.1 hident
    have hlt := h.idents_lt conn hconn
    obtain hnew : conn.ident = s.created := mem_singleton.1 hother
    omega
  · intro conn hconn
    rcases mem_append.1 hconn with hold | hnew
    · exact (h.idents_lt conn hold).trans (Nat.lt_succ_self _)
    · obtain rfl := mem_singleton.1 hnew
      exact Nat.lt_succ_self _
  · rw [Channels.withClient, map_append, nodup_append]
    refine ⟨h.channels_nodup, nodup_singleton _, ?_⟩
    rintro channel hchannel other hother rfl
    obtain ⟨conn, hconn, rfl⟩ := mem_map.1 hchannel
    obtain hnew : conn.state.channel = state.channel := mem_singleton.1 hother
    exact hnot ⟨conn, hconn, (congrArg BitVec.toNat hnew).trans hnumber⟩
  · intro conn hconn
    rcases mem_append.1 hconn with hold | hnew
    · exact h.channels_pos conn hold
    · obtain rfl := mem_singleton.1 hnew
      exact hpos.trans_eq hnumber.symm

theorem Numbered.connectRequest (r1 : EIBnetConnectRequest) (env : Env) :
    Numbered (s.connectRequest r1 env).1 := by
  rcases answered_connectRequest s r1 env with ⟨pool, addr, type, hfree, hnext, -⟩ |
    ⟨pool, hnext, -⟩
  · rw [hnext]
    exact h.withClient hfree pool rfl
  · rw [hnext]
    exact h.congr rfl rfl rfl

theorem Numbered.step (hstep : s.step event = some next) : Numbered next := by
  cases change_of_step hstep with
  | quiet => exact h
  | updates _ hconn _ houtcome => exact h.update hconn houtcome.channel
  | connects _ env r1 => exact h.connectRequest r1 env
  | stopsAll =>
    exact stopAll_rule h.idents_nodup h fun _ conn hbefore hconn => hbefore.update hconn rfl
  | drops => exact h.sublist (dropTriggerCb_sublist s) []
  | allocates | releases => exact h.congr rfl rfl rfl

end

theorem numbered_of_path {start s : EIBnetServer} (hstart : start.connections = [])
    (hpath : Path EIBnetServer.step anyEvent start s) : Numbered s := by
  have hfirst : Numbered start := by
    constructor <;> simp [hstart]
  exact hpath.invariant Numbered hfirst fun _ _ _ hbefore _ hstep => hbefore.step hstep

/-- The packet is a `CONNECTION_RESPONSE`. -/
def isConnectResponse (p : EIBNetIPPacket) : Prop :=
  p.service = ServiceType.connectionResponse.code

theorem byteAt_connectResponse (r2 : EIBnetConnectResponse) :
    byteAt r2.toPacket.data 0 = r2.channel ∧ byteAt r2.toPacket.data 1 = r2.status := by
  unfold EIBnetConnectResponse.toPacket
  dsimp only
  split <;> exact ⟨rfl, rfl⟩

theorem not_connectResponse_singleton {packet : EIBNetIPPacket}
    (hservice : packet.service ≠ ServiceType.connectionResponse.code) :
    ∀ p ∈ [packet], ¬ isConnectResponse p := by
  intro p hp
  obtain rfl := mem_singleton.1 hp
  exact hservice

theorem not_connectResponse_request {service : ServiceType}
    (hservice : service.code ≠ ServiceType.connectionResponse.code)
    {take : ConnState → CArray → Run (ConnState × List Output × Byte)}
    (htake : ∀ {cemi next outputs status}, take c cemi = .ok (next, outputs, status) →
      ConnState.Takes c next outputs)
    {r1 : EIBnetRequest} (hrun : c.request service take r1 = .ok result) :
    ∀ p ∈ sentPackets result.2, ¬ isConnectResponse p := by
  have hack : ∀ ack : EIBnetACK, ∀ p ∈ [ack.toPacket service], ¬ isConnectResponse p :=
    fun _ => not_connectResponse_singleton hservice
  rcases request_cases hrun with ⟨-, rfl⟩ | rfl | ⟨-, after, outputs, status, htaken, rfl⟩
  · exact hack _
  · exact fun p hp => absurd hp not_mem_nil
  · dsimp only
    rw [sentPackets_append, Acknowledge.sentPackets_of_takes (htake htaken)]
    exact hack _

theorem sentPackets_of_response {accepts : ConnType → Bool} {r1 : EIBnetACK}
    (hrun : c.response accepts r1 = .ok result) : sentPackets result.2 = [] := by
  rcases response_cases hrun with rfl | ⟨-, -, hrun⟩
  · rfl
  · obtain ⟨_, _, _, wakes, -, -, rfl⟩ := acknowledged_cases hrun
    cases wakes <;> rfl

theorem not_connectResponse_dispatch {R : Type} {parsed : Option R} {channel : R → Byte}
    {handle : ConnState → R → Run (ConnState × List Output)} {unknown : R → List EIBNetIPPacket}
    (hhandle : ∀ c r1 outcome, handle c r1 = .ok outcome →
      ∀ p ∈ sentPackets outcome.2, ¬ isConnectResponse p)
    (hunknown : ∀ r1, ∀ p ∈ unknown r1, ¬ isConnectResponse p)
    (hrun : s.dispatch parsed channel handle unknown = .ok (next, sent)) :
    ∀ p ∈ sent, ¬ isConnectResponse p := by
  unfold dispatch at hrun
  split at hrun
  · cases hrun
    exact fun p hp => absurd hp not_mem_nil
  · split at hrun
    · cases hrun
      exact hunknown _
    · obtain ⟨_, houtcome, hrun⟩ := bind_eq_ok_iff.1 hrun
      cases hrun
      exact hhandle _ _ _ houtcome

/-- Only a connection request is answered with a connection response. -/
theorem connectRequest_of_response {p1 : EIBNetIPPacket} {env : Env}
    (hrun : s.handlePacket p1 env = .ok (next, sent)) {p : EIBNetIPPacket} (hp : p ∈ sent)
    (hresponse : isConnectResponse p) :
    ∃ r1 daddr, parseConnectRequest p1 = some r1 ∧ next = (s.connectRequest r1 env).1 ∧
      p = EIBnetConnectResponse.toPacket
        { (s.connectRequest r1 env).2 with daddr, nat := r1.nat } := by
  have hquiet : (next, sent) = (s, []) → False := by
    rintro ⟨⟩
    exact not_mem_nil hp
  have hstate : ServiceType.connectionStateResponse.code ≠
      ServiceType.connectionResponse.code := by decide
  have hdisconnect : ServiceType.disconnectResponse.code ≠
      ServiceType.connectionResponse.code := by decide
  have hacks : ∀ {accepts : ConnType → Bool} (c : ConnState) (r1 : EIBnetACK) outcome,
      c.response accepts r1 = .ok outcome → ∀ p ∈ sentPackets outcome.2, ¬ isConnectResponse p := by
    intro accepts c r1 outcome houtcome
    rw [sentPackets_of_response houtcome]
    exact fun p hp => absurd hp not_mem_nil
  unfold EIBnetServer.handlePacket at hrun
  split at hrun
  · refine absurd hresponse (not_connectResponse_dispatch (fun c r1 outcome houtcome => ?_)
      (fun r1 => not_connectResponse_singleton hstate) hrun p hp)
    cases houtcome
    exact not_connectResponse_singleton hstate
  · refine absurd hresponse (not_connectResponse_dispatch (fun c r1 outcome houtcome => ?_)
      (fun r1 => not_connectResponse_singleton hdisconnect) hrun p hp)
    cases houtcome
    rw [disconnectRequest, sentPackets_append, Acknowledge.sentPackets_stop]
    exact not_connectResponse_singleton hdisconnect
  · split at hrun
    · exact (hquiet (ok.inj hrun).symm).elim
    · next r1 hparse =>
      cases hrun
      cases hsource : env.source with
      | none =>
        rw [hsource] at hp
        exact absurd hp not_mem_nil
      | some daddr =>
        rw [hsource] at hp
        exact ⟨r1, daddr, hparse, rfl, mem_singleton.1 hp⟩
  · split at hrun
    · exact absurd hresponse (not_connectResponse_dispatch
        (fun _ _ _ => not_connectResponse_request (by decide) takes_takeTunnelCEMI)
        (by simp) hrun p hp)
    · exact (hquiet (ok.inj hrun).symm).elim
  · split at hrun
    · exact absurd hresponse (not_connectResponse_dispatch hacks (by simp) hrun p hp)
    · exact (hquiet (ok.inj hrun).symm).elim
  · exact absurd hresponse (not_connectResponse_dispatch
      (fun _ _ _ => not_connectResponse_request (by decide) takes_takeConfigCEMI)
      (by simp) hrun p hp)
  · exact absurd hresponse (not_connectResponse_dispatch hacks (by simp) hrun p hp)
  · exact (hquiet (ok.inj hrun).symm).elim

/-- The link of a new connection can be set up, or there is no channel for it. -/
def setsUp (s : EIBnetServer) (env : Env) : Prop :=
  env.setupOk = true ∨ 0xff < s.freeChannel

/-- In every state of a server, its connections have different channels between 1
and 255; the search loop ends with the smallest number from 1 on that is not
taken; and a connection response without error names the channel of a connection
that was created for the request, if new links can be set up. -/
theorem channels_identify {start s : EIBnetServer} (hstart : start.connections = [])
    (hpath : Path EIBnetServer.step anyEvent start s) :
    (s.connections.map (·.state.channel)).Nodup ∧
      (∀ conn ∈ s.connections, 1 ≤ conn.state.channel.toNat ∧ conn.state.channel.toNat ≤ 255) ∧
      IsLeast {id | 1 ≤ id ∧ ¬ taken s.connections id} (searchLoop s.connections 1) ∧
      searchLoop s.connections 1 = s.freeChannel ∧
      ∀ p1 env next sent, setsUp s env → s.handlePacket p1 env = .ok (next, sent) →
        ∀ p ∈ sent, isConnectResponse p → byteAt p.data 1 = 0 →
          ∃ r1 conn, parseConnectRequest p1 = some r1 ∧ conn ∈ next.connections ∧
            conn ∉ s.connections ∧ conn.state.channel = byteAt p.data 0 ∧
            conn.state.caddr = r1.caddr ∧ conn.state.daddr = r1.daddr := by
  have hnumbered := numbered_of_path hstart hpath
  refine ⟨hnumbered.channels_nodup, fun conn hconn => ⟨hnumbered.channels_pos conn hconn, ?_⟩,
    isLeast_searchLoop s.connections, searchLoop_eq_freeChannel s, ?_⟩
  · exact Nat.le_of_lt_succ conn.state.channel.isLt
  · intro p1 env next sent hsetup hrun p hp hresponse hstatus
    obtain ⟨r1, _, hparse, rfl, rfl⟩ := connectRequest_of_response hrun hp hresponse
    rw [(byteAt_connectResponse _).2] at hstatus
    rcases answered_connectRequest s r1 env with ⟨pool, addr, type, hfree, hnext, hchannel⟩ |
      ⟨pool, -, herror | ⟨hfree, hfailed⟩⟩
    · rw [hnext, (byteAt_connectResponse _).1]
      refine ⟨r1, _, hparse, mem_append_right _ (mem_singleton_self _), ?_, hchannel.symm, rfl, rfl⟩
      intro hold
      exact absurd (hnumbered.idents_lt _ hold) (Nat.lt_irrefl _)
    · exact absurd hstatus herror
    · rcases hsetup with hsetup | hfull
      · rw [hfailed] at hsetup
        cases hsetup
      · omega

/-- Two clients connect and the first one leaves. -/
def leave : List Event :=
  [.packet (tunnelConnect 0x02) (quietEnv true), .packet (tunnelConnect 0x02) (quietEnv true),
    .packet (disconnectRequestToPacket { channel := 1 }) (quietEnv true), .dropTrigger]

/-- The next client gets the channel of the one that left. -/
theorem channels_identify_reused : ∃ s next p, run EIBnetServer.step smallServer leave = some s ∧
      s.connections.map (·.state.channel) = [2] ∧
      IsLeast {id | 1 ≤ id ∧ ¬ taken s.connections id} 1 ∧
      s.handlePacket (tunnelConnect 0x02) (quietEnv true) = .ok (next, [p]) ∧
      isConnectResponse p ∧ byteAt p.data 0 = 1 ∧ byteAt p.data 1 = 0 ∧
      ∃ conn ∈ next.connections, conn ∉ s.connections ∧ conn.state.channel = 1 := by
  obtain ⟨s, hs, hchannels, hfree, ⟨next, sent⟩, hhandled, hsent⟩ : ∃ s,
      run step smallServer leave = some s ∧ s.connections.map (·.state.channel) = [2] ∧
      s.freeChannel = 1 ∧ ∃ result,
        (s.handlePacket (tunnelConnect 0x02) (quietEnv true)).toOption = some result ∧
        (result.2.map fun p => (p.service, byteAt p.data 0, byteAt p.data 1)) =
          [(ServiceType.connectionResponse.code, 1, 0)] := by decide +kernel
  obtain ⟨p, rfl, hp⟩ := map_eq_singleton_iff.1 hsent
  obtain ⟨hservice, hbytes⟩ := Prod.mk.inj hp
  obtain ⟨hchannel, hstatus⟩ := Prod.mk.inj hbytes
  have hpacket := toOption_eq_some_iff.1 hhandled
  obtain ⟨-, -, hleast, hloop, hresponses⟩ := channels_identify rfl (path_of_run hs)
  obtain ⟨_, conn, -, hconn, hnew, hnamed, -⟩ := hresponses _ _ next [p] (.inl rfl) hpacket p
    (mem_singleton_self p) hservice hstatus
  rw [hloop, hfree] at hleast
  exact ⟨s, next, p, hs, hchannels, hleast, hpacket, hservice, hchannel, hstatus, conn, hconn,
    hnew, hnamed.trans hchannel⟩

/-- A request whose link cannot be set up is answered with channel 255 and without
an error, and there is no connection. -/
theorem channel_without_connection :
    (smallServer.handlePacket (tunnelConnect 0x02) (quietEnv false)).toOption.map (fun result =>
        (result.1.connections, result.2.map fun p =>
          (p.service, byteAt p.data 0, byteAt p.data 1))) =
      some ([], [(ServiceType.connectionResponse.code, 255, 0)]) := by
  decide +kernel

end Knxd.Channels
