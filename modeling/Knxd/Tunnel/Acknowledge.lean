import Knxd.Core.Transition
import Knxd.Tunnel.Connection

/-!
# Acknowledgements of refused requests

A connection of the server acknowledges a request with a status that says
whether it took the message in it.  When the acknowledgement is lost, the client
sends the request again, and the connection answers from its receive counter
alone: the status of the first answer is not kept, and the second one says
"accepted".

A session is a connection together with the acknowledgements it sent, each with
the number, counted without bound, of the request that it is for.  In every run
in which no refused request is retransmitted, all acknowledgements for one request
carry the same status.
-/

namespace Knxd.Acknowledge

open Memory LPDU EMI Packet Connection Transition List ConnState Option BitVec

variable {result : ConnState × List Output}

structure Ack where
  number : ℤ
  ack : EIBnetACK
  deriving DecidableEq, Repr

/-- A connection, how many requests it took, and the acknowledgements it sent. -/
structure Session where
  conn : ConnState
  taken : ℕ := 0
  acks : List Ack := []
  deriving DecidableEq, Repr

/-- The acknowledgement in a packet, if it is one of a tunnel or of a
configuration request. -/
def ackOf (p : EIBNetIPPacket) : Option EIBnetACK :=
  match parseTunnelACK p with
  | some ack => some ack
  | none => parseConfigACK p

/-- The session after a handler.  The counter `rno` moves when a request is
taken; an acknowledgement is always for the last request taken. -/
def record (s : Session) (result : ConnState × List Output) : Session :=
  let taken := if result.1.rno = s.conn.rno then s.taken else s.taken + 1
  { conn := result.1
    taken
    acks := s.acks ++ ((sentPackets result.2).filterMap ackOf).map (⟨(taken : ℤ) - 1, ·⟩) }

inductive Event
  | sendLData (l : LDataPDU)
  | sendLBusmonitor (pdu : CArray) (timestamp : BitVec 32)
  | sendTrigger
  | sendtimeout
  | timeout (source : Option SockAddr)
  | stop
  | packet (p1 : EIBNetIPPacket)

/-- One callback of the connection; there is no next state when the process ends
with a fault. -/
def step (s : Session) : Event → Option Session
  | .sendLData l => (s.conn.sendLData l).toOption.map fun conn => record s (conn, [])
  | .sendLBusmonitor pdu timestamp => some (record s (s.conn.sendLBusmonitor pdu timestamp, []))
  | .sendTrigger => some (record s s.conn.sendTriggerCb)
  | .sendtimeout => s.conn.sendtimeoutCb.toOption.map (record s)
  | .timeout source => some (record s (s.conn.timeoutCb source))
  | .stop => some (record s s.conn.stop)
  | .packet p1 => (s.conn.handlePacket p1).toOption.map (record s)

def requestOf (p1 : EIBNetIPPacket) : Option EIBnetRequest :=
  match parseTunnelRequest p1 with
  | some r1 => some r1
  | none => parseConfigRequest p1

/-- The packet is a copy of the last request that the connection took. -/
def retransmits (c : ConnState) (p1 : EIBNetIPPacket) : Prop :=
  ∃ r1, requestOf p1 = some r1 ∧ c.channel = r1.channel ∧
    c.rno.toNat = (r1.seqno.toNat + 1) % 256

instance (c : ConnState) (p1 : EIBNetIPPacket) : Decidable (retransmits c p1) :=
  match h : requestOf p1 with
  | none => .isFalse fun ⟨_, hr1, _⟩ => by rw [h] at hr1; cases hr1
  | some r1 =>
    decidable_of_iff (c.channel = r1.channel ∧ c.rno.toNat = (r1.seqno.toNat + 1) % 256)
      ⟨fun hboth => ⟨r1, h, hboth⟩, fun ⟨_, hr1, hboth⟩ => by
        rw [h] at hr1; cases hr1; exact hboth⟩

def lastAccepted (s : Session) : Prop :=
  ∀ sent ∈ s.acks, sent.number = (s.taken : ℤ) - 1 → sent.ack.status = 0
  deriving Decidable

def acceptedRetransmission (s : Session) : Event → Prop
  | .packet p1 => retransmits s.conn p1 → lastAccepted s
  | _ => True

instance (s : Session) (event : Event) : Decidable (acceptedRetransmission s event) :=
  match event with
  | .packet p1 => inferInstanceAs (Decidable (retransmits s.conn p1 → lastAccepted s))
  | .sendLData _ | .sendLBusmonitor _ _ | .sendTrigger | .sendtimeout | .timeout _ | .stop =>
    .isTrue trivial

def Quiet (c : ConnState) (result : ConnState × List Output) : Prop :=
  result.1.rno = c.rno ∧ (sentPackets result.2).filterMap ackOf = []

theorem record_of_quiet {s : Session} (h : Quiet s.conn result) :
    record s result = { s with conn := result.1 } := by
  simp [record, h.1, h.2]

theorem ackOf_toPacket {service : ServiceType}
    (hservice : service = .tunnelResponse ∨ service = .deviceConfigurationAck) (ack : EIBnetACK) :
    ackOf (ack.toPacket service) = some ack := by
  have hparse := parseACK_toPacket service ack {}
  rcases hservice with rfl | rfl
  · simp only [ackOf]
    rw [show parseTunnelACK (ack.toPacket .tunnelResponse) = some ack from hparse]
  · exact hparse

section Quiet

variable (c : ConnState)

theorem quiet_put (cemi : CArray) : Quiet c (c.put cemi, []) := by
  rw [put_eq]
  exact ⟨rfl, rfl⟩

theorem quiet_sendLData {l : LDataPDU} {next : ConnState} (hrun : c.sendLData l = .ok next) :
    Quiet c (next, []) := by
  obtain rfl | ⟨cemi, rfl⟩ := sendLData_cases hrun
  · exact ⟨rfl, rfl⟩
  · exact quiet_put _ cemi

theorem quiet_sendLBusmonitor (pdu : CArray) (timestamp : BitVec 32) :
    Quiet c (c.sendLBusmonitor pdu timestamp, []) := by
  unfold sendLBusmonitor
  split
  · exact quiet_put _ _
  · exact ⟨rfl, rfl⟩

theorem quiet_sendTriggerCb : Quiet c c.sendTriggerCb := by
  unfold sendTriggerCb
  split
  · exact ⟨rfl, rfl⟩
  · refine ⟨rfl, ?_⟩
    dsimp only
    split <;> rfl

theorem sentPackets_stop : sentPackets c.stop.2 = [] := by
  unfold stop
  dsimp only
  split <;> split <;> rfl

theorem quiet_stop : Quiet c c.stop := ⟨rfl, by rw [sentPackets_stop]; rfl⟩

theorem quiet_timeoutCb (source : Option SockAddr) : Quiet c (c.timeoutCb source) := by
  have hstop := quiet_stop { c with timeout := false }
  unfold timeoutCb
  cases source with
  | none => exact hstop
  | some =>
    dsimp only
    split
    · exact hstop
    · exact hstop

theorem quiet_sendtimeoutCb (hrun : c.sendtimeoutCb = .ok result) : Quiet c result := by
  unfold sendtimeoutCb at hrun
  split at hrun
  · cases hrun
    exact ⟨rfl, rfl⟩
  · split at hrun
    · cases hrun
    · cases hrun
      exact quiet_stop _

theorem quiet_response {accepts : ConnType → Bool} {r1 : EIBnetACK}
    (hrun : c.response accepts r1 = .ok result) : Quiet c result := by
  obtain rfl | ⟨-, -, hrun⟩ := response_cases hrun
  · exact ⟨rfl, rfl⟩
  · obtain ⟨_, _, _, wakes, -, -, rfl⟩ := acknowledged_cases hrun
    cases wakes <;> exact ⟨rfl, rfl⟩

end Quiet

/-- What one callback does to the acknowledgements: nothing, one more with status
0 for the last request taken, which is a copy of it, or the first one for the next
request. -/
inductive Answers (c : ConnState) (copy : Prop) (result : ConnState × List Output) : Prop
  | quiet (h : Quiet c result)
  | again (ack : EIBnetACK) (hcopy : copy) (hrno : result.1.rno = c.rno)
      (hsent : (sentPackets result.2).filterMap ackOf = [ack])
      (hseqno : c.rno.toNat = (ack.seqno.toNat + 1) % 256) (hstatus : ack.status = 0)
  | first (ack : EIBnetACK) (hrno : result.1.rno = c.rno + 1)
      (hsent : (sentPackets result.2).filterMap ackOf = [ack]) (hseqno : c.rno = ack.seqno)

section Answers

variable {c : ConnState} {result : ConnState × List Output}

theorem sentPackets_of_takes {next : ConnState} {outputs : List Output}
    (h : Takes c next outputs) : sentPackets outputs = [] := by
  obtain ⟨-, rfl | ⟨l, rfl⟩⟩ := h <;> rfl

theorem answers_request {service : ServiceType}
    (hservice : service = .tunnelResponse ∨ service = .deviceConfigurationAck)
    {take : ConnState → CArray → Run (ConnState × List Output × Byte)} {r1 : EIBnetRequest}
    (htake : ∀ next outputs status, take c r1.cemi = .ok (next, outputs, status) →
      Takes c next outputs)
    (hrun : c.request service take r1 = .ok result) :
    Answers c (c.rno.toNat = (r1.seqno.toNat + 1) % 256) result := by
  obtain ⟨hcopy, rfl⟩ | rfl | ⟨hseqno, next, outputs, status, htaken, rfl⟩ := request_cases hrun
  · refine .again ⟨r1.channel, r1.seqno, 0⟩ hcopy rfl ?_ hcopy rfl
    simp [sentPackets, ackOf_toPacket hservice]
  · exact .quiet ⟨rfl, rfl⟩
  · refine .first ⟨r1.channel, r1.seqno, status⟩ rfl ?_ hseqno
    rw [sentPackets_append, sentPackets_of_takes (htake next outputs status htaken)]
    simp [sentPackets, ackOf_toPacket hservice]

theorem Answers.imp {copy other : Prop} (h : Answers c copy result) (himp : copy → other) :
    Answers c other result := by
  cases h with
  | quiet h => exact .quiet h
  | again ack hcopy hrno hsent hseqno hstatus =>
    exact .again ack (himp hcopy) hrno hsent hseqno hstatus
  | first ack hrno hsent hseqno => exact .first ack hrno hsent hseqno

theorem quiet_disconnectRequest (r1 : EIBnetControlRequest) : Quiet c (c.disconnectRequest r1) := by
  refine ⟨rfl, ?_⟩
  rw [disconnectRequest, sentPackets_append, sentPackets_stop]
  rfl

/-- A packet is answered according to whether it repeats the last request. -/
theorem answers_handlePacket {p1 : EIBNetIPPacket} (hrun : c.handlePacket p1 = .ok result) :
    Answers c (retransmits c p1) result := by
  have hunchanged : Answers c (retransmits c p1) (c, []) := .quiet ⟨rfl, rfl⟩
  unfold handlePacket at hrun
  split at hrun
  · obtain rfl | ⟨r1, -, -, hanswer⟩ := onChannel_cases hrun
    · exact hunchanged
    · cases hanswer
      exact .quiet ⟨rfl, rfl⟩
  · obtain rfl | ⟨r1, -, -, hanswer⟩ := onChannel_cases hrun
    · exact hunchanged
    · cases hanswer
      exact .quiet (quiet_disconnectRequest r1)
  · obtain rfl | ⟨r1, hparse, hchannel, hanswer⟩ := onChannel_cases hrun
    · exact hunchanged
    · have hrequest := answers_request (.inl rfl) (fun _ _ _ => takes_takeTunnelCEMI) hanswer
      exact hrequest.imp fun hcopy => ⟨r1, by simp [requestOf, hparse], hchannel, hcopy⟩
  · obtain rfl | ⟨r1, -, -, hanswer⟩ := onChannel_cases hrun
    · exact hunchanged
    · exact .quiet (quiet_response c hanswer)
  · obtain rfl | ⟨r1, hparse, hchannel, hanswer⟩ := onChannel_cases hrun
    · exact hunchanged
    · have hrequest := answers_request (.inr rfl) (fun _ _ _ => takes_takeConfigCEMI) hanswer
      have hother : parseTunnelRequest p1 = none := by
        have hservice := service_of_parseRequest hparse
        rw [parseTunnelRequest, parseRequest, if_pos (by rw [hservice]; decide)]
      exact hrequest.imp fun hcopy => ⟨r1, by simp [requestOf, hparse, hother], hchannel, hcopy⟩
  · obtain rfl | ⟨r1, -, -, hanswer⟩ := onChannel_cases hrun
    · exact hunchanged
    · exact .quiet (quiet_response c hanswer)
  · cases hrun
    exact hunchanged

end Answers

/-- The step lemma of a session: what an event does to the acknowledgements. -/
theorem answers_step {s after : Session} {event : Event} (hstep : step s event = some after) :
    ∃ copy result, after = record s result ∧ Answers s.conn copy result ∧
      (copy → ∃ p1, event = .packet p1 ∧ retransmits s.conn p1) := by
  cases event with
  | sendLData =>
    obtain ⟨conn, hrun, rfl⟩ := map_eq_some_iff.1 hstep
    exact ⟨False, _, rfl, .quiet (quiet_sendLData s.conn (toOption_eq_some_iff.1 hrun)), False.elim⟩
  | sendLBusmonitor pdu timestamp =>
    cases hstep
    exact ⟨False, _, rfl, .quiet (quiet_sendLBusmonitor s.conn pdu timestamp), False.elim⟩
  | sendTrigger =>
    cases hstep
    exact ⟨False, _, rfl, .quiet (quiet_sendTriggerCb s.conn), False.elim⟩
  | sendtimeout =>
    obtain ⟨result, hrun, rfl⟩ := map_eq_some_iff.1 hstep
    exact ⟨False, _, rfl, .quiet (quiet_sendtimeoutCb s.conn (toOption_eq_some_iff.1 hrun)),
      False.elim⟩
  | timeout source =>
    cases hstep
    exact ⟨False, _, rfl, .quiet (quiet_timeoutCb s.conn source), False.elim⟩
  | stop =>
    cases hstep
    exact ⟨False, _, rfl, .quiet (quiet_stop s.conn), False.elim⟩
  | packet p1 =>
    obtain ⟨result, hrun, rfl⟩ := map_eq_some_iff.1 hstep
    exact ⟨_, _, rfl, answers_handlePacket (toOption_eq_some_iff.1 hrun),
      fun hcopy => ⟨p1, rfl, hcopy⟩⟩

/-- Every acknowledgement is for a request taken before and carries its number
modulo 256, and those for one request carry one status. -/
structure Consistent (s : Session) : Prop where
  rno_eq : s.conn.rno = BitVec.ofNat 8 s.taken
  number_lt : ∀ sent ∈ s.acks, sent.number < s.taken
  seqno_eq : ∀ sent ∈ s.acks, sent.ack.seqno = BitVec.ofInt 8 sent.number
  agree : ∀ first ∈ s.acks, ∀ second ∈ s.acks, first.number = second.number →
    first.ack.status = second.ack.status

theorem agree_append {acks : List Ack} {sent : Ack}
    (hagree : ∀ first ∈ acks, ∀ second ∈ acks, first.number = second.number →
      first.ack.status = second.ack.status)
    (hnew : ∀ other ∈ acks, other.number = sent.number → other.ack.status = sent.ack.status) :
    ∀ first ∈ acks ++ [sent], ∀ second ∈ acks ++ [sent], first.number = second.number →
      first.ack.status = second.ack.status := by
  intro first hfirst second hsecond hnumber
  rcases mem_append.1 hfirst with hold | hlast <;>
    rcases mem_append.1 hsecond with hold' | hlast'
  · exact hagree first hold second hold' hnumber
  · obtain rfl := mem_singleton.1 hlast'
    exact hnew first hold hnumber
  · obtain rfl := mem_singleton.1 hlast
    exact (hnew second hold' hnumber.symm).symm
  · rw [mem_singleton.1 hlast, mem_singleton.1 hlast']

section Runs

variable {s : Session} {result : ConnState × List Output} {ack : EIBnetACK}

/-- A copy of the last request taken is acknowledged with status 0, which agrees
with the answers before if that request was accepted. -/
theorem Consistent.again (h : Consistent s) (hrno : result.1.rno = s.conn.rno)
    (hsent : (sentPackets result.2).filterMap ackOf = [ack])
    (hseqno : s.conn.rno.toNat = (ack.seqno.toNat + 1) % 256) (hstatus : ack.status = 0)
    (haccepted : lastAccepted s) : Consistent (record s result) := by
  have hrecord : record s result = ⟨result.1, s.taken, s.acks ++ [⟨(s.taken : ℤ) - 1, ack⟩]⟩ := by
    simp [record, hrno, hsent]
  rw [hrecord]
  refine ⟨hrno.trans h.rno_eq, ?_, ?_, agree_append h.agree ?_⟩
  · intro sent hmem
    rcases mem_append.1 hmem with hold | hlast
    · exact h.number_lt sent hold
    · rw [mem_singleton.1 hlast]
      exact Int.sub_one_lt_of_le le_rfl
  · intro sent hmem
    rcases mem_append.1 hmem with hold | hlast
    · exact h.seqno_eq sent hold
    · obtain rfl := mem_singleton.1 hlast
      have hbound := ack.seqno.isLt
      rw [h.rno_eq, toNat_ofNat] at hseqno
      apply eq_of_toNat_eq
      rw [toNat_ofInt]
      dsimp only
      omega
  · intro other hother hnumber
    exact (haccepted other hother hnumber).trans hstatus.symm

/-- The first answer to a request is the only one for its number so far. -/
theorem Consistent.first (h : Consistent s) (hrno : result.1.rno = s.conn.rno + 1)
    (hsent : (sentPackets result.2).filterMap ackOf = [ack]) (hseqno : s.conn.rno = ack.seqno) :
    Consistent (record s result) := by
  have hmoved : s.conn.rno + 1 ≠ s.conn.rno := by bv_omega
  have hrecord : record s result = ⟨result.1, s.taken + 1, s.acks ++ [⟨(s.taken : ℤ), ack⟩]⟩ := by
    simp [record, hrno, hsent]
  rw [hrecord]
  refine ⟨?_, ?_, ?_, agree_append h.agree ?_⟩
  · rw [hrno, h.rno_eq]
    apply eq_of_toNat_eq
    simp
  · intro sent hmem
    rcases mem_append.1 hmem with hold | hlast
    · exact lt_trans (h.number_lt sent hold) (by simp)
    · rw [mem_singleton.1 hlast]
      simp
  · intro sent hmem
    rcases mem_append.1 hmem with hold | hlast
    · exact h.seqno_eq sent hold
    · rw [mem_singleton.1 hlast, ← hseqno, h.rno_eq]
      simp
  · intro other hother hnumber
    exact absurd hnumber (ne_of_lt (h.number_lt other hother))

theorem consistent_step {after : Session} {event : Event} (h : Consistent s)
    (hallowed : acceptedRetransmission s event) (hstep : step s event = some after) :
    Consistent after := by
  obtain ⟨_, _, rfl, hanswers, hcopy⟩ := answers_step hstep
  cases hanswers with
  | quiet hquiet =>
    rw [record_of_quiet hquiet]
    exact ⟨hquiet.1.trans h.rno_eq, h.number_lt, h.seqno_eq, h.agree⟩
  | again _ hagain hrno hsent hseqno hstatus =>
    obtain ⟨_, rfl, hretransmits⟩ := hcopy hagain
    exact h.again hrno hsent hseqno hstatus (hallowed hretransmits)
  | first _ hrno hsent hseqno => exact h.first hrno hsent hseqno

end Runs

/-- In every run of a connection in which no refused request is retransmitted,
all acknowledgements for one request carry the same status; their sequence number
is the number of that request modulo 256. -/
theorem status_never_changes (conn : ConnState) (s : Session) (hfresh : conn.rno = 0)
    (hpath : Path step acceptedRetransmission { conn } s) :
    (∀ sent ∈ s.acks, sent.ack.seqno = BitVec.ofInt 8 sent.number) ∧
      ∀ first ∈ s.acks, ∀ second ∈ s.acks, first.number = second.number →
        first.ack.status = second.ack.status := by
  have hstart : Consistent { conn } := ⟨hfresh, by simp, by simp, by simp⟩
  have hconsistent := hpath.invariant Consistent hstart
    fun _ _ _ hbefore hallowed hstep => consistent_step hbefore hallowed hstep
  exact ⟨hconsistent.seqno_eq, hconsistent.agree⟩

/-- A tunnel connection with address 1.1.10, as `addClient` creates it. -/
def tunnelConn : ConnState :=
  { addr := 0x110a, channel := 1, type := .standard }

/-- A group telegram from a client without an address, in a tunnel request. -/
def groupWrite : EIBNetIPPacket :=
  tunnelRequestToPacket
    { channel := 1, seqno := 0
      cemi := [0x11, 0x00, 0xbc, 0xe0, 0x00, 0x00, 0x08, 0x01, 0x01, 0x00, 0x81] }

theorem status_never_changes_groupWrite :
    ∃ s, runAllowed step acceptedRetransmission { conn := tunnelConn }
        [.packet groupWrite, .packet groupWrite] = some s ∧
      s.acks.length = 2 ∧
      ∀ first ∈ s.acks, ∀ second ∈ s.acks, first.number = second.number →
        first.ack.status = second.ack.status :=
  exists_state (by decide +kernel) fun s hs hlength =>
    ⟨hlength, (status_never_changes tunnelConn s rfl (path_of_runAllowed hs)).2⟩

def truncatedRequest : EIBNetIPPacket :=
  tunnelRequestToPacket { channel := 1, seqno := 0, cemi := [0x11, 0x00] }

def unknownConfiguration : EIBNetIPPacket :=
  configRequestToPacket { channel := 1, seqno := 0, cemi := [0xF1, 0x00] }

/-- The two acknowledgements of a refused request that was sent twice: the first
one says why it was refused, the second one that it was accepted. -/
theorem refused_then_accepted :
    (run step { conn := tunnelConn } [.packet truncatedRequest, .packet truncatedRequest]).map
        (·.acks) = some [⟨0, 1, 0, 0x29⟩, ⟨0, 1, 0, 0x00⟩] ∧
      (run step { conn := { tunnelConn with type := .config, addr := 0 } }
        [.packet unknownConfiguration, .packet unknownConfiguration]).map
        (·.acks) = some [⟨0, 1, 0, 0x26⟩, ⟨0, 1, 0, 0x00⟩] := by
  decide +kernel

end Knxd.Acknowledge
