import Knxd.Tunnel.SendQueue
import Knxd.Tunnel.Server

/-!
# What an event does to the connections of the server

Every event of the server writes back the state of one connection after one of its
handlers, appends a new connection, stops all connections, empties the drop queue,
or leaves the connections alone.  No handler changes the channel of its connection
or starts a stopped one again, and a connection that is stopped goes into the drop
queue.
-/

namespace Knxd.ServerChanges

open Memory LPDU Packet Connection ClientAddrs Server List ConnState EIBnetServer Option
open SendQueue (fresh)

/-- A handler of a connection goes on, or stops the connection, which gives its
address back and goes into the drop queue. -/
inductive Outcome (c : ConnState) (result : ConnState × List Output) : Prop
  | stays (hchannel : result.1.channel = c.channel) (haddr : result.1.addr = c.addr)
      (hactive : result.1.active = c.active) (hreleases : releases result.2 = [])
      (hdrop : .dropConnection ∉ result.2)
  | stops (hchannel : result.1.channel = c.channel) (haddr : result.1.addr = 0)
      (hactive : result.1.active = false)
      (hreleases : releases result.2 = if c.addr = 0 then [] else [c.addr])
      (hdrop : .dropConnection ∈ result.2)

section Handlers

variable {c : ConnState} {result : ConnState × List Output}

theorem Outcome.channel (h : Outcome c result) : result.1.channel = c.channel := by
  cases h with
  | stays hchannel | stops hchannel => exact hchannel

/-- No handler starts a stopped connection again. -/
theorem Outcome.stopped (h : Outcome c result) (hstopped : c.active = false) :
    result.1.active = false := by
  cases h with
  | stays _ _ hactive => exact hactive.trans hstopped
  | stops _ _ hactive => exact hactive

theorem releases_append (first second : List Output) :
    releases (first ++ second) = releases first ++ releases second :=
  filterMap_append

theorem releases_stop (c : ConnState) :
    releases c.stop.2 = if c.addr = 0 then [] else [c.addr] := by
  unfold stop
  dsimp only
  by_cases haddr : c.addr = 0
  · rw [if_neg (not_not.2 haddr), if_pos haddr]
    split <;> rfl
  · rw [if_pos haddr, if_neg haddr]
    split <;> rfl

theorem dropConnection_mem_stop (c : ConnState) : .dropConnection ∈ c.stop.2 := by
  simp [stop]

theorem outcome_unchanged (c : ConnState) : Outcome c (c, []) :=
  .stays rfl rfl rfl rfl (by simp)

theorem outcome_stop (c : ConnState) : Outcome c c.stop :=
  .stops rfl rfl rfl (releases_stop c) (dropConnection_mem_stop c)

theorem outcome_timeoutCb (c : ConnState) (source : Option SockAddr) :
    Outcome c (c.timeoutCb source) := by
  have hreleases := releases_stop { c with timeout := false }
  have hdrop := dropConnection_mem_stop { c with timeout := false }
  unfold timeoutCb
  cases source with
  | none => exact .stops rfl rfl rfl hreleases hdrop
  | some =>
    dsimp only
    split
    · exact .stops rfl rfl rfl hreleases (mem_cons_of_mem _ hdrop)
    · exact .stops rfl rfl rfl hreleases hdrop

theorem outcome_sendtimeoutCb (hrun : c.sendtimeoutCb = .ok result) : Outcome c result := by
  unfold sendtimeoutCb at hrun
  split at hrun
  · cases hrun
    exact .stays rfl rfl rfl rfl (by simp)
  · split at hrun
    · cases hrun
    · cases hrun
      exact .stops rfl rfl rfl (releases_stop _) (dropConnection_mem_stop _)

theorem outcome_sendTriggerCb (c : ConnState) : Outcome c c.sendTriggerCb := by
  unfold sendTriggerCb
  split <;> exact .stays rfl rfl rfl rfl (by simp)

theorem outcome_sendLData {l : LDataPDU} {next : ConnState} (hrun : c.sendLData l = .ok next) :
    Outcome c (next, []) := by
  rcases sendLData_cases hrun with rfl | ⟨cemi, rfl⟩
  · exact outcome_unchanged next
  · rw [put_eq]
    exact .stays rfl rfl rfl rfl (by simp)

theorem outcome_sendLBusmonitor (c : ConnState) (pdu : CArray) (timestamp : BitVec 32) :
    Outcome c (c.sendLBusmonitor pdu timestamp, []) := by
  unfold sendLBusmonitor
  split
  · rw [put_eq]
    exact .stays rfl rfl rfl rfl (by simp)
  · exact outcome_unchanged c

theorem outcome_disconnectRequest (c : ConnState) (r1 : EIBnetControlRequest) :
    Outcome c (c.disconnectRequest r1) := by
  refine .stops rfl rfl rfl ?_ (mem_append_left _ (dropConnection_mem_stop c))
  rw [disconnectRequest, releases_append, releases_stop]
  exact append_nil _

theorem outcome_connectionStateRequest (c : ConnState) (r1 : EIBnetControlRequest) :
    Outcome c (c.connectionStateRequest r1) :=
  .stays rfl rfl rfl rfl (by simp [connectionStateRequest])

theorem outcome_response {accepts : ConnType → Bool} {r1 : EIBnetACK}
    (hrun : c.response accepts r1 = .ok result) : Outcome c result := by
  rcases response_cases hrun with rfl | ⟨-, -, hrun⟩
  · exact outcome_unchanged c
  · obtain ⟨_, _, _, wakes, -, -, rfl⟩ := acknowledged_cases hrun
    cases wakes <;> exact .stays rfl rfl rfl rfl (by simp)

theorem outcome_request {service : ServiceType}
    {take : ConnState → CArray → Run (ConnState × List Output × Byte)} {r1 : EIBnetRequest}
    (htake : ∀ {next outputs status}, take c r1.cemi = .ok (next, outputs, status) →
      ConnState.Takes c next outputs)
    (hrun : c.request service take r1 = .ok result) : Outcome c result := by
  rcases request_cases hrun with ⟨-, rfl⟩ | rfl | ⟨-, next, outputs, status, htaken, rfl⟩
  · exact .stays rfl rfl rfl rfl (by simp)
  · exact outcome_unchanged c
  · obtain ⟨hnext, houtputs⟩ := htake htaken
    have hsame : next.channel = c.channel ∧ next.addr = c.addr ∧ next.active = c.active := by
      rcases hnext with rfl | ⟨reply, rfl⟩
      · exact ⟨rfl, rfl, rfl⟩
      · rw [put_eq]
        exact ⟨rfl, rfl, rfl⟩
    rcases houtputs with rfl | ⟨l, rfl⟩ <;> exact .stays hsame.1 hsame.2.1 hsame.2.2 rfl (by simp)

end Handlers

/-- What an event does to the server. -/
inductive Change (s : EIBnetServer) : Event → EIBnetServer → Prop
  | quiet (event : Event) : Change s event s
  | updates {event : Event} (conn : Conn) (hconn : conn ∈ s.connections)
      (result : ConnState × List Output) (houtcome : Outcome conn.state result) :
      Change s event (s.update conn.ident result)
  | connects (p1 : EIBNetIPPacket) (env : Env) (r1 : EIBnetConnectRequest)
      (hparse : parseConnectRequest p1 = some r1) :
      Change s (.packet p1 env) (s.connectRequest r1 env).1
  | stopsAll : Change s .stopServer s.stopAll
  | drops : Change s .dropTrigger s.dropTriggerCb
  | allocates (known : Addr → Bool) (a : Addr) (pool : AddrPool)
      (hpool : s.pool.getClientAddr s.addr known = (a, pool)) :
      Change s (.otherAllocates known)
        { s with pool, others := if a = 0 then s.others else a :: s.others }
  | releases (addr : Addr) (haddr : addr ∈ s.others) : Change s (.otherReleases addr)
        { s with pool := s.pool.releaseClientAddr addr, others := s.others.erase addr }

section Changes

variable {s next : EIBnetServer} {event : Event}

theorem change_dispatch {R : Type} {parsed : Option R} {channel : R → Byte}
    {handle : ConnState → R → Run (ConnState × List Output)}
    {unknown : R → List EIBNetIPPacket} {result : EIBnetServer × List EIBNetIPPacket}
    (houtcome : ∀ c r1 outcome, handle c r1 = .ok outcome → Outcome c outcome)
    (hrun : s.dispatch parsed channel handle unknown = .ok result) : Change s event result.1 := by
  unfold dispatch at hrun
  split at hrun
  · cases hrun
    exact .quiet event
  · split at hrun
    · cases hrun
      exact .quiet event
    · next r1 conn hfind =>
      obtain ⟨outcome, hhandle, hrun⟩ := bind_eq_ok_iff.1 hrun
      cases hrun
      exact .updates conn (mem_of_find?_eq_some hfind) outcome (houtcome _ _ _ hhandle)

theorem change_handlePacket {p1 : EIBNetIPPacket} {env : Env}
    {result : EIBnetServer × List EIBNetIPPacket} (hrun : s.handlePacket p1 env = .ok result) :
    Change s (.packet p1 env) result.1 := by
  unfold EIBnetServer.handlePacket at hrun
  split at hrun
  · refine change_dispatch (fun c r1 outcome houtcome => ?_) hrun
    cases houtcome
    exact outcome_connectionStateRequest c r1
  · refine change_dispatch (fun c r1 outcome houtcome => ?_) hrun
    cases houtcome
    exact outcome_disconnectRequest c r1
  · split at hrun
    · cases hrun
      exact .quiet _
    · next r1 hparse =>
      cases hrun
      exact .connects p1 env r1 hparse
  · split at hrun
    · exact change_dispatch (fun _ _ _ => outcome_request takes_takeTunnelCEMI) hrun
    · cases hrun
      exact .quiet _
  · split at hrun
    · exact change_dispatch (fun _ _ _ => outcome_response) hrun
    · cases hrun
      exact .quiet _
  · exact change_dispatch (fun _ _ _ => outcome_request takes_takeConfigCEMI) hrun
  · exact change_dispatch (fun _ _ _ => outcome_response) hrun
  · cases hrun
    exact .quiet _

theorem change_onConnection {ident : ℕ} {due : ConnState → Bool}
    {handle : ConnState → Run (ConnState × List Output)}
    (houtcome : ∀ c outcome, handle c = .ok outcome → Outcome c outcome)
    (hrun : s.onConnection ident due handle = some next) : Change s event next := by
  unfold onConnection at hrun
  split at hrun
  · cases hrun
  · next conn hfind =>
    obtain ⟨-, hrun⟩ := ite_none_right_eq_some.1 hrun
    obtain ⟨outcome, hhandle, rfl⟩ := map_eq_some_iff.1 hrun
    exact .updates conn (mem_of_find?_eq_some hfind) outcome
      (houtcome _ _ (toOption_eq_some_iff.1 hhandle))

theorem change_onConnection_pure {ident : ℕ} {due : ConnState → Bool}
    {handle : ConnState → ConnState × List Output} (houtcome : ∀ c, Outcome c (handle c))
    (hrun : s.onConnection ident due (fun conn => pure (handle conn)) = some next) :
    Change s event next := by
  refine change_onConnection (fun c outcome hhandle => ?_) hrun
  cases hhandle
  exact houtcome c

theorem change_of_step (hstep : s.step event = some next) : Change s event next := by
  cases event with
  | packet =>
    obtain ⟨_, hrun, rfl⟩ := map_eq_some_iff.1 hstep
    exact change_handlePacket (toOption_eq_some_iff.1 hrun)
  | sendLData =>
    rw [step] at hstep
    refine change_onConnection (fun c outcome hhandle => ?_) hstep
    obtain ⟨_, hsent, hhandle⟩ := bind_eq_ok_iff.1 hhandle
    cases hhandle
    exact outcome_sendLData hsent
  | sendLBusmonitor _ pdu timestamp =>
    rw [step] at hstep
    exact change_onConnection_pure (fun c => outcome_sendLBusmonitor c pdu timestamp) hstep
  | sendTrigger => exact change_onConnection_pure outcome_sendTriggerCb hstep
  | sendtimeout => exact change_onConnection (fun _ _ => outcome_sendtimeoutCb) hstep
  | timeout _ source =>
    exact change_onConnection_pure (fun c => outcome_timeoutCb c source) hstep
  | stopConnection =>
    rw [step] at hstep
    exact change_onConnection_pure outcome_stop hstep
  | stopServer =>
    cases hstep
    exact .stopsAll
  | dropTrigger =>
    cases hstep
    exact .drops
  | otherAllocates known =>
    cases hstep
    exact .allocates known _ _ rfl
  | otherReleases addr =>
    obtain ⟨haddr, hnext⟩ := ite_none_right_eq_some.1 hstep
    cases hnext
    exact .releases addr haddr

/-- The rule for `stop_`: what every single stop keeps, the loop keeps. -/
theorem stopAll_rule {P : EIBnetServer → Prop} (hidents : (s.connections.map (·.ident)).Nodup)
    (hstart : P s) (hkeep : ∀ before conn, P before → conn ∈ before.connections →
      P (before.update conn.ident conn.state.stop)) : P s.stopAll := by
  -- the connections that the loop has not reached are still in the list
  have hloop : ∀ (remaining : List Conn) (before : EIBnetServer),
      (remaining.map (·.ident)).Nodup → (∀ conn ∈ remaining, conn ∈ before.connections) →
      P before →
      P (remaining.foldl (fun s conn => s.update conn.ident conn.state.stop) before) := by
    intro remaining
    induction remaining with
    | nil => exact fun before _ _ hbefore => hbefore
    | cons conn _ ih =>
      intro before hnodup hmem hbefore
      obtain ⟨habsent, hrest⟩ := nodup_cons.1 hnodup
      refine ih _ hrest ?_ (hkeep before conn hbefore (hmem conn mem_cons_self))
      intro other hother
      refine mem_update_of_ne (hmem other (mem_cons_of_mem _ hother)) fun heq => ?_
      exact habsent (mem_map.2 ⟨other, hother, heq⟩)
  refine hloop s.connections.reverse s ?_ (fun conn hconn => mem_reverse.1 hconn) hstart
  rw [map_reverse]
  exact nodup_reverse.2 hidents

theorem dropTriggerCb_sublist (s : EIBnetServer) :
    s.dropTriggerCb.connections.Sublist s.connections := by
  have hloop : ∀ (idents : List ℕ) (connections : List Conn),
      (idents.foldl (fun connections ident => connections.eraseP (·.ident = ident))
        connections).Sublist connections := by
    intro idents
    induction idents with
    | nil => exact fun connections => .refl connections
    | cons _ _ ih => exact fun connections => (ih _).trans eraseP_sublist
  exact hloop s.dropQ s.connections

end Changes

end Knxd.ServerChanges
