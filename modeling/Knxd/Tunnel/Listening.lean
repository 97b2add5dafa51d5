import Knxd.Tunnel.Endpoint

/-!
# The address filter of a connected client

A connected client must receive what its peer sends from the data endpoint, so the
filter of the socket has to let `daddr` through as long as `mod` is not 0.

Two branches of the source close the filter without leaving the connection.  The
answer to a repeated tunnel request sets `recvall` to 0, so a single lost
acknowledgement makes the client deaf to the data endpoint.  And `timeout_cb` calls
`restart`, which closes the filter, and then sets `mod` to 1.  In every run without
these two events a connected client keeps listening.
-/

namespace Knxd.Listening

open Memory LPDU EMI Packet Client Transition Endpoint

def step (d : TunnelDriver) (event : Event) : Option TunnelDriver :=
  (d.perform event).map Prod.fst

/-- The packet is the tunnel request before the one that the client awaits. -/
def isPrevious (c : EIBNetIPTunnel) (p1 : EIBNetIPPacket) : Bool :=
  (parseTunnelRequest p1).any fun treq =>
    some treq.channel = c.channel ∧ (treq.seqno.toNat + 1) % 256 = c.rno

def duplicates (d : TunnelDriver) (event : Event) : Bool :=
  d.client.mod ≠ 0 ∧ (d.receives event).any (isPrevious d.client)

/-- No request is received twice, and the retransmission timer does not expire for a
request that has been sent five times. -/
def undisturbed (d : TunnelDriver) (event : Event) : Prop :=
  duplicates d event = false ∧ d.overdue event = false
  deriving Decidable

theorem duplicates_of_repeats {d : TunnelDriver} {event : Event} (hmod : d.client.mod ≠ 0)
    (hevent : d.repeats event = true) : duplicates d event = true := by
  obtain ⟨_, hreceives, hrepeated⟩ := (Option.any_eq_true _ _).1 hevent
  obtain ⟨_, hparse, hchannel, hprevious⟩ := reaction_repeated hrepeated
  simp [duplicates, hmod, hreceives, isPrevious, hparse, hchannel, hprevious]

def Listens (d : TunnelDriver) : Prop :=
  d.client.mod ≠ 0 → d.Listening

theorem listens_step {d next : TunnelDriver} {event : Event} (h : Listens d)
    (hundisturbed : undisturbed d event) (hstep : step d event = some next) : Listens next := by
  obtain ⟨⟨_, _⟩, hperform, rfl⟩ := Option.map_eq_some_iff.1 hstep
  intro hmod
  cases TunnelDriver.change_of_perform hperform with
  | connects _ hsock => exact hsock
  | without hclosed => exact absurd hclosed hmod
  | opens hsock hopen =>
    obtain ⟨sock, hsome, -⟩ := h hopen
    exact absurd (hsock.symm.trans hsome) (by simp)
  | keeps hopen hsock hdaddr =>
    obtain ⟨sock, hsome, hrecvall, hrecvaddr⟩ := h hopen
    exact ⟨sock, hsock.trans hsome, hrecvall, hrecvaddr.trans hdaddr.symm⟩
  | repeats hopen hevent =>
    exact absurd (hundisturbed.1.symm.trans (duplicates_of_repeats hopen hevent)) (by decide)
  | overdue hevent => exact absurd (hundisturbed.2.symm.trans hevent) (by decide)

theorem receives_of_listening {d : TunnelDriver} {p1 : EIBNetIPPacket} (hsock : d.Listening)
    (hsrc : p1.src = d.daddr) : d.receives (.packet p1) = some p1 := by
  obtain ⟨_, hsome, hrecvall, hrecvaddr⟩ := hsock
  simp [TunnelDriver.receives, hsome, Socket.accepts, hrecvall, hrecvaddr, hsrc]

/-- In every run without a repeated request and without a request that is sent five
times in vain, `recvall` is 3 in every state with a connection, and the packets of the
data endpoint are received. -/
theorem keeps_listening (monitor : Bool) (heartbeatTime heartbeatLimit : ℕ)
    (dataport : BitVec 16) {d : TunnelDriver}
    (hpath : Path step undisturbed (configured monitor heartbeatTime heartbeatLimit dataport) d)
    (hmod : d.client.mod ≠ 0) :
    (∃ sock, d.sock = some sock ∧ sock.recvall = 3 ∧ sock.recvaddr2 = d.daddr) ∧
      ∀ p1 : EIBNetIPPacket, p1.src = d.daddr → d.receives (.packet p1) = some p1 := by
  have hinvariant : Listens d := hpath.invariant Listens (fun hopen => absurd rfl hopen)
      (fun _ _ _ h hundisturbed hstep => listens_step h hundisturbed hstep)
  exact ⟨hinvariant hmod, fun _ hsrc => receives_of_listening (hinvariant hmod) hsrc⟩

theorem keeps_listening_telegram : ∃ d, runAllowed step undisturbed (configured false 30 3 0)
        [.start (some opening), .packet accepting, .packet (telegramFrom dataAddr)] = some d ∧
      d.client.rno = 1 ∧ d.daddr = dataAddr ∧
      d.receives (.packet (telegramFrom dataAddr)) = some (telegramFrom dataAddr) := by
  refine exists_state (D := fun d => d.client.rno = 1 ∧ d.client.mod = 1 ∧ d.daddr = dataAddr)
    (by decide +kernel) fun d hd hvalues => ?_
  obtain ⟨hrno, hmod, hdaddr⟩ := hvalues
  have hlistening := keeps_listening false 30 3 0 (path_of_runAllowed hd) (by simp [hmod])
  exact ⟨hrno, hdaddr, hlistening.2 _ hdaddr.symm⟩

/-- The server repeats a request from its data endpoint.  The client acknowledges it
again and from then on drops what the data endpoint sends. -/
theorem deaf_reached : ∃ d, Path step anyEvent (configured false 30 3 0) d ∧ d.client.mod = 1 ∧
      d.sock.map (·.recvall) = some 0 ∧ d.daddr = dataAddr ∧
      d.receives (.packet (telegramFrom dataAddr)) = none :=
  exists_path [.start (some opening), .packet accepting, .packet (telegramFrom dataAddr),
    .packet (telegramFrom dataAddr)] (by decide +kernel)

end Knxd.Listening
