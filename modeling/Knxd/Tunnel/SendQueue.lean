import Knxd.Core.Transition
import Knxd.Tunnel.Connection

/-!
# The send queue of a server connection

The counter `retries` of a connection is at once a flag, which says that the
front of the queue `out` is outstanding, and a count, which the retransmission
timer and the sender both increment.  A sender is a connection together with the
messages it ever queued, how many of them were acknowledged, and the packets in which
it transmitted them.

Between two acknowledgements the front goes through four phases: it waits, it was
sent, its timer expired and the trigger for the second attempt is pending, it was
sent again.  The timer that expires in the last phase stops the connection, so no
message is sent a third time.
-/

namespace Knxd.SendQueue

open Memory LPDU EMI Packet Connection Transition List ConnState Option

/-- A connection and the history of its queue.  Messages are numbered from 0 in
the order in which they were queued.  Every packet with a message is kept together with
the number of the message that was the front when it was sent. -/
structure Sender where
  conn : ConnState
  queued : List CArray := []
  acked : ℕ := 0
  sent : List (ℕ × EIBNetIPPacket) := []
  deriving DecidableEq, Repr

def Sender.numbers (s : Sender) : List ℕ := s.sent.map (·.1)

/-- The packet in which a message goes to the client. -/
def messagePacket (type : ConnType) (r : EIBnetRequest) : EIBNetIPPacket :=
  if type = .config then configRequestToPacket r else tunnelRequestToPacket r

/-- The packet holds the message of its number, with that number as sequence number. -/
def Carries (s : Sender) (transmission : ℕ × EIBNetIPPacket) : Prop :=
  ∃ cemi, s.queued[transmission.1]? = some cemi ∧ transmission.2 = messagePacket s.conn.type
    { channel := s.conn.channel, seqno := BitVec.ofNat 8 transmission.1, cemi }

/-- The packets with messages among the effects of a callback, whichever it is. -/
def requests (outputs : List Output) : List EIBNetIPPacket :=
  (sentPackets outputs).filter fun p => p.service = ServiceType.tunnelRequest.code ∨
    p.service = ServiceType.deviceConfigurationRequest.code

inductive Event
  | sendLData (l : LDataPDU)
  | sendLBusmonitor (pdu : CArray) (timestamp : BitVec 32)
  | sendTrigger
  | sendtimeout
  | timeout (source : Option SockAddr)
  | stop
  | packet (p1 : EIBNetIPPacket)

/-- One callback of the connection.  A watcher calls back only while it is
pending; there is no result when the process ends with a fault. -/
def callback (c : ConnState) : Event → Option (ConnState × List Output)
  | .sendLData l => (c.sendLData l).toOption.map (·, [])
  | .sendLBusmonitor pdu timestamp => some (c.sendLBusmonitor pdu timestamp, [])
  | .sendTrigger => if c.sendTrigger then some c.sendTriggerCb else none
  | .sendtimeout => if c.sendtimeout then c.sendtimeoutCb.toOption else none
  | .timeout source => if c.timeout then some (c.timeoutCb source) else none
  | .stop => some c.stop
  | .packet p1 => (c.handlePacket p1).toOption

/-- The history after a callback.  New messages stand behind the old ones, a
packet that shortens the queue is an acknowledgement, and the front is the first message
that was not acknowledged. -/
def record (s : Sender) (event : Event) (result : ConnState × List Output) : Sender where
  conn := result.1
  queued := s.queued ++ result.1.out.drop s.conn.out.length
  acked :=
    match event with
    | .packet _ => s.acked + (s.conn.out.length - result.1.out.length)
    | _ => s.acked
  sent := s.sent ++ (requests result.2).map (s.acked, ·)

def step (s : Sender) (event : Event) : Option Sender :=
  (callback s.conn event).map (record s event)

def untilStopped (s : Sender) (_ : Event) : Prop := s.conn.active = true
  deriving Decidable

/-- Messages are queued behind the others.  The trigger is sent only while
nothing is outstanding. -/
structure Grows (c next : ConnState) : Prop where
  out : ∃ more, next.out = c.out ++ more
  sno : next.sno = c.sno
  retries : next.retries = c.retries
  sendtimeout : next.sendtimeout = c.sendtimeout
  sendTrigger : c.retries ≠ 0 → next.sendTrigger = c.sendTrigger
  type : next.type = c.type
  channel : next.channel = c.channel
  active : next.active = c.active

structure Acknowledges (c next : ConnState) : Prop where
  outstanding : c.retries ≠ 0
  out : ∃ cemi, c.out = cemi :: next.out
  sno : next.sno = c.sno + 1
  retries : next.retries = 0
  sendtimeout : next.sendtimeout = false
  type : next.type = c.type
  channel : next.channel = c.channel
  active : next.active = c.active

def Answers (outputs : List Output) : Prop :=
  ∀ output ∈ outputs,
    (∃ p, output = .send p ∧ requests [.send p] = []) ∨ ∃ l, output = .recvLData l

/-- What a packet does to the queue and to the credit `doSendNext` of the upper
layer. -/
inductive Handles (c : ConnState) (result : ConnState × List Output) : Prop
  | grows (hgrows : Grows c result.1) (hcredit : result.1.doSendNext = c.doSendNext)
      (hanswers : Answers result.2)
  | acknowledges (hacks : Acknowledges c result.1) (wakes : Bool)
      (hwakes : wakes = true ↔ result.1.out = [] ∧ c.doSendNext = true)
      (hcredit : result.1.doSendNext = (c.doSendNext && !wakes))
      (houtputs : result.2 = if wakes then [.sendNext] else [])
  | stops (hstopped : result.1.active = false)

section Callbacks

variable {c next : ConnState} {result : ConnState × List Output}

theorem Grows.refl (c : ConnState) : Grows c c :=
  ⟨⟨[], (append_nil _).symm⟩, rfl, rfl, rfl, fun _ => rfl, rfl, rfl, rfl⟩

theorem grows_put (c : ConnState) (cemi : CArray) : Grows c (c.put cemi) := by
  rw [put_eq]
  exact ⟨⟨[cemi], rfl⟩, rfl, rfl, rfl, fun houtstanding => if_neg houtstanding, rfl, rfl, rfl⟩

/-- The other fields do not matter. -/
theorem Grows.update (h : Grows c next) (no : ℕ) (rno : Byte) (doSendNext : Bool) :
    Grows c { next with no, rno, doSendNext } :=
  { h with }

theorem grows_sendLData {l : LDataPDU} (hrun : c.sendLData l = .ok next) : Grows c next := by
  rcases sendLData_cases hrun with rfl | ⟨cemi, rfl⟩
  · exact Grows.refl next
  · have hput := (grows_put c cemi).update c.no c.rno true
    rw [put_eq] at hput ⊢
    exact hput

theorem grows_sendLBusmonitor (c : ConnState) (pdu : CArray) (timestamp : BitVec 32) :
    Grows c (c.sendLBusmonitor pdu timestamp) := by
  unfold sendLBusmonitor
  split
  · have hput := (grows_put c (busmonitorToCEMI 0x2B pdu timestamp c.no)).update
      (c.no + 1) c.rno c.doSendNext
    rw [put_eq] at hput ⊢
    exact hput
  · exact Grows.refl c

theorem handles_unchanged (c : ConnState) : Handles c (c, []) :=
  .grows (Grows.refl c) rfl (by simp [Answers])

theorem requests_append (first second : List Output) :
    requests (first ++ second) = requests first ++ requests second := by
  rw [requests, sentPackets_append, filter_append]
  rfl

theorem Answers.requests_eq_nil {outputs : List Output} (hanswers : Answers outputs) :
    requests outputs = [] := by
  induction outputs with
  | nil => rfl
  | cons _ _ ih =>
    obtain ⟨hfirst, hrest⟩ := forall_mem_cons.1 hanswers
    rw [← singleton_append, requests_append, ih hrest]
    obtain ⟨p, rfl, hquiet⟩ | ⟨l, rfl⟩ := hfirst
    · rw [hquiet]
      rfl
    · rfl

theorem answers_send {p : EIBNetIPPacket} (hquiet : requests [.send p] = []) :
    Answers [.send p] := by
  intro output houtput
  exact .inl ⟨p, mem_singleton.1 houtput, hquiet⟩

theorem answers_of_takes {outputs : List Output} (htakes : Takes c next outputs)
    {p : EIBNetIPPacket} (hquiet : requests [.send p] = []) : Answers (outputs ++ [.send p]) := by
  intro output houtput
  rcases mem_append.1 houtput with hmem | hmem
  · rcases htakes.2 with rfl | ⟨l, rfl⟩
    · cases hmem
    · exact .inr ⟨l, mem_singleton.1 hmem⟩
  · exact answers_send hquiet output hmem

theorem handles_request {service : ServiceType}
    {take : ConnState → CArray → Run (ConnState × List Output × Byte)}
    (htake : ∀ {cemi next outputs status}, take c cemi = .ok (next, outputs, status) →
      Takes c next outputs)
    (hquiet : ∀ ack : EIBnetACK, requests [.send (ack.toPacket service)] = [])
    {r1 : EIBnetRequest} (hrun : c.request service take r1 = .ok result) : Handles c result := by
  rcases request_cases hrun with ⟨-, rfl⟩ | rfl | ⟨-, taken, outputs, status, htaken, rfl⟩
  · exact .grows (Grows.refl c) rfl (answers_send (hquiet _))
  · exact handles_unchanged c
  · have hanswers := answers_of_takes (htake htaken) (hquiet ⟨r1.channel, r1.seqno, status⟩)
    rcases (htake htaken).1 with rfl | ⟨reply, rfl⟩
    · exact .grows ((Grows.refl taken).update taken.no _ taken.doSendNext) rfl hanswers
    · refine .grows ((grows_put c reply).update (c.put reply).no _ (c.put reply).doSendNext) ?_
        hanswers
      rw [put_eq]

theorem handles_response {accepts : ConnType → Bool} {r1 : EIBnetACK}
    (hrun : c.response accepts r1 = .ok result) : Handles c result := by
  rcases response_cases hrun with rfl | ⟨-, houtstanding, hrun⟩
  · exact handles_unchanged c
  · obtain ⟨cemi, _, _, wakes, hout, hwakes, rfl⟩ := acknowledged_cases hrun
    exact .acknowledges ⟨houtstanding, ⟨cemi, hout⟩, rfl, rfl, rfl, rfl, rfl, rfl⟩ wakes hwakes rfl
      rfl

theorem handles_onChannel {R : Type} {parsed : Option R} {channel : R → Byte}
    {handle : R → Run (ConnState × List Output)}
    (hhandle : ∀ r1, handle r1 = .ok result → Handles c result)
    (hrun : c.onChannel parsed channel handle = .ok result) : Handles c result := by
  rcases onChannel_cases hrun with rfl | ⟨r1, -, -, hrun⟩
  · exact handles_unchanged c
  · exact hhandle r1 hrun

theorem handles_handlePacket {p1 : EIBNetIPPacket} (hrun : c.handlePacket p1 = .ok result) :
    Handles c result := by
  unfold handlePacket at hrun
  split at hrun
  · refine handles_onChannel (fun r1 hrun => ?_) hrun
    cases hrun
    exact .grows (Grows.refl c) rfl (answers_send rfl)
  · refine handles_onChannel (fun r1 hrun => ?_) hrun
    cases hrun
    exact .stops rfl
  · exact handles_onChannel (fun _ => handles_request takes_takeTunnelCEMI fun _ => rfl) hrun
  · exact handles_onChannel (fun _ => handles_response) hrun
  · exact handles_onChannel (fun _ => handles_request takes_takeConfigCEMI fun _ => rfl) hrun
  · exact handles_onChannel (fun _ => handles_response) hrun
  · cases hrun
    exact handles_unchanged c

theorem timeoutCb_stops (c : ConnState) (source : Option SockAddr) :
    (c.timeoutCb source).1.active = false := by
  unfold timeoutCb
  dsimp only
  split
  · split <;> rfl
  · rfl

end Callbacks

/-- Where the front stands after `sends` transmissions of it. -/
inductive Phase (c : ConnState) (sends : ℕ) : Prop
  | waiting (hretries : c.retries = 0) (htimer : c.sendtimeout = false) (hsends : sends = 0)
  | sent (hretries : c.retries = 1) (htrigger : c.sendTrigger = false) (hout : c.out ≠ [])
      (hsends : sends = 1)
  | expired (hretries : c.retries = 2) (htimer : c.sendtimeout = false) (hout : c.out ≠ [])
      (hsends : sends = 1)
  | sentAgain (hretries : c.retries = 3) (htrigger : c.sendTrigger = false) (hout : c.out ≠ [])
      (hsends : sends = 2)

section Phases

variable {c next : ConnState} {sends : ℕ}

section

variable (h : Phase c sends)
include h

theorem Phase.sends_le : sends ≤ 2 := by
  cases h with
  | waiting | sent | expired | sentAgain => omega

theorem Phase.retries_pos_iff : 0 < c.retries ↔ 0 < sends := by
  cases h with
  | waiting | sent | expired | sentAgain => omega

theorem Phase.out_ne_nil (houtstanding : c.retries ≠ 0) : c.out ≠ [] := by
  cases h with
  | waiting hretries => exact absurd hretries houtstanding
  | sent _ _ hout | expired _ _ hout | sentAgain _ _ hout => exact hout

theorem Phase.grows (hgrows : Grows c next) : Phase next sends := by
  have hretries := hgrows.retries
  have htimer := hgrows.sendtimeout
  have hout : c.out ≠ [] → next.out ≠ [] := by
    obtain ⟨more, hmore⟩ := hgrows.out
    rw [hmore]
    exact fun hne => append_ne_nil_of_left_ne_nil hne more
  cases h with
  | waiting hzero hoff hsends => exact .waiting (hretries.trans hzero) (htimer.trans hoff) hsends
  | sent hone hoff hne hsends =>
    exact .sent (hretries.trans hone) ((hgrows.sendTrigger (by omega)).trans hoff) (hout hne) hsends
  | expired htwo hoff hne hsends =>
    exact .expired (hretries.trans htwo) (htimer.trans hoff) (hout hne) hsends
  | sentAgain hthree hoff hne hsends =>
    exact .sentAgain (hretries.trans hthree) ((hgrows.sendTrigger (by omega)).trans hoff)
      (hout hne) hsends

end

theorem Acknowledges.phase (h : Acknowledges c next) : Phase next 0 :=
  .waiting h.retries h.sendtimeout rfl

theorem requests_messagePacket (type : ConnType) (r : EIBnetRequest) :
    requests [.send (messagePacket type r)] = [messagePacket type r] := by
  cases type <;> rfl

/-- `send_trigger_cb` transmits the front when there is one. -/
theorem requests_sendTriggerCb (c : ConnState) :
    requests c.sendTriggerCb.2 = c.out.head?.toList.map fun cemi =>
      messagePacket c.type { channel := c.channel, seqno := c.sno, cemi } := by
  unfold sendTriggerCb
  split
  · next hempty =>
    rw [hempty]
    rfl
  · next cemi rest hfront =>
    rw [hfront]
    exact requests_messagePacket _ _

theorem Phase.transmits (h : Phase c sends) (hpending : c.sendTrigger = true) :
    Phase c.sendTriggerCb.1 (sends + (requests c.sendTriggerCb.2).length) := by
  rw [requests_sendTriggerCb]
  unfold sendTriggerCb
  split
  · next hempty =>
    rw [hempty]
    cases h with
    | waiting hzero hoff hsends => exact .waiting hzero hoff hsends
    | sent _ _ hne | expired _ _ hne | sentAgain _ _ hne => exact absurd hempty hne
  · next cemi rest hfront =>
    rw [hfront]
    cases h with
    | waiting hzero _ hsends =>
      exact .sent (congrArg (· + 1) hzero) rfl (cons_ne_nil _ _) (congrArg (· + 1) hsends)
    | expired htwo _ _ hsends =>
      exact .sentAgain (congrArg (· + 1) htwo) rfl (cons_ne_nil _ _) (congrArg (· + 1) hsends)
    | sent _ hoff | sentAgain _ hoff =>
      rw [hpending] at hoff
      cases hoff

/-- `sendtimeout_cb` wakes the sender after the first transmission and stops the
connection after the second one. -/
theorem Phase.expires (h : Phase c sends) (harmed : c.sendtimeout = true) :
    ∃ result, c.sendtimeoutCb = .ok result ∧ (result.1.active = false ∨
        Phase result.1 sends ∧ result.1.out = c.out ∧ result.1.sno = c.sno ∧
          result.1.type = c.type ∧ result.1.channel = c.channel ∧ result.2 = []) := by
  unfold sendtimeoutCb
  cases h with
  | waiting _ hoff | expired _ hoff =>
    rw [harmed] at hoff
    cases hoff
  | sent hone _ hne hsends =>
    rw [if_pos (by omega)]
    exact ⟨_, rfl, .inr ⟨.expired (congrArg (· + 1) hone) rfl hne hsends, rfl, rfl, rfl, rfl, rfl⟩⟩
  | sentAgain _ _ hne =>
    rw [if_neg (by omega)]
    obtain ⟨_, _, hfront⟩ := exists_cons_of_ne_nil hne
    rw [hfront]
    exact ⟨_, rfl, .inl rfl⟩

/-- The queue is not empty where an acknowledgement takes its front. -/
theorem Phase.response_returns (h : Phase c sends) (accepts : ConnType → Bool) (r1 : EIBnetACK) :
    Returns (c.response accepts r1) := by
  unfold response
  split_ifs with hsno hstatus hretries haccepts
  · exact returns_ok _
  · exact returns_ok _
  · exact returns_ok _
  · exact returns_ok _
  · obtain ⟨_, _, hfront⟩ := exists_cons_of_ne_nil (h.out_ne_nil hretries)
    unfold acknowledged
    rw [hfront]
    dsimp only
    split_ifs <;> exact returns_ok _

end Phases

/-- The queue holds the messages that were not acknowledged, in their order, and
the numbers on the wire count the acknowledgements. -/
structure Sound (s : Sender) : Prop where
  queue : s.conn.out = s.queued.drop s.acked
  acked_le : s.acked ≤ s.queued.length
  sno : s.conn.sno = BitVec.ofNat 8 s.acked
  twice : ∀ number, s.numbers.count number ≤ 2
  later : ∀ number, s.acked < number → s.numbers.count number = 0
  phase : Phase s.conn (s.numbers.count s.acked)
  carries : ∀ transmission ∈ s.sent, Carries s transmission

section History

variable {s after : Sender} {event : Event} {result : ConnState × List Output}

/-- New messages do not change the old ones. -/
theorem Carries.record {transmission : ℕ × EIBNetIPPacket} (hcarries : Carries s transmission)
    (htype : result.1.type = s.conn.type) (hchannel : result.1.channel = s.conn.channel)
    (event : Event) : Carries (record s event result) transmission := by
  obtain ⟨cemi, hcemi, hpacket⟩ := hcarries
  refine ⟨cemi, ?_, ?_⟩
  · exact (getElem?_append_left (List.getElem?_eq_some_iff.1 hcemi).1).trans hcemi
  · change _ = messagePacket result.1.type { channel := result.1.channel, .. }
    rw [htype, hchannel]
    exact hpacket

/-- A callback that transmits nothing. -/
theorem Sound.quiet (h : Sound s) (hquiet : requests result.2 = [])
    (htype : result.1.type = s.conn.type) (hchannel : result.1.channel = s.conn.channel)
    (event : Event) : (record s event result).numbers = s.numbers ∧
      ∀ transmission ∈ (record s event result).sent,
        Carries (record s event result) transmission := by
  have hsent : (record s event result).sent = s.sent := by
    simp [record, hquiet]
  refine ⟨congrArg (map _) hsent, fun transmission hmem => ?_⟩
  rw [hsent] at hmem
  exact (h.carries transmission hmem).record htype hchannel event

theorem Sound.record_grows (h : Sound s) (hquiet : requests result.2 = [])
    (hgrows : Grows s.conn result.1) : Sound (record s event result) := by
  obtain ⟨more, hout⟩ := hgrows.out
  have hqueued : (record s event result).queued = s.queued ++ more := by
    simp [record, hout]
  have hacked : (record s event result).acked = s.acked := by
    cases event <;> simp [record, hout]
  obtain ⟨hsent, hcarries⟩ := h.quiet hquiet hgrows.type hgrows.channel event
  refine ⟨?_, ?_, ?_, ?_, ?_, ?_, hcarries⟩
  · rw [hqueued, hacked, drop_append_of_le_length h.acked_le, ← h.queue]
    exact hout
  · rw [hqueued, hacked, length_append]
    exact h.acked_le.trans (Nat.le_add_right _ _)
  · rw [hacked]
    exact hgrows.sno.trans h.sno
  · rw [hsent]
    exact h.twice
  · rw [hsent, hacked]
    exact h.later
  · rw [hsent, hacked]
    exact h.phase.grows hgrows

theorem Sound.record_acknowledges (h : Sound s) {p1 : EIBNetIPPacket}
    (hquiet : requests result.2 = []) (hacks : Acknowledges s.conn result.1) :
    Sound (record s (.packet p1) result) := by
  obtain ⟨cemi, hout⟩ := hacks.out
  have hqueued : (record s (.packet p1) result).queued = s.queued := by
    simp [record, hout]
  have hacked : (record s (.packet p1) result).acked = s.acked + 1 := by
    simp [record, hout]
  have hdrop : s.queued.drop s.acked = cemi :: result.1.out := h.queue.symm.trans hout
  obtain ⟨hsent, hcarries⟩ := h.quiet hquiet hacks.type hacks.channel (.packet p1)
  refine ⟨?_, ?_, ?_, ?_, ?_, ?_, hcarries⟩
  · rw [hqueued, hacked, ← drop_drop, hdrop]
    rfl
  · rw [hqueued, hacked]
    have hlt : ¬ s.queued.length ≤ s.acked := by
      intro hle
      rw [drop_eq_nil_of_le hle] at hdrop
      cases hdrop
    exact not_le.1 hlt
  · rw [hacked, BitVec.ofNat_add]
    exact hacks.sno.trans (congrArg (· + 1) h.sno)
  · rw [hsent]
    exact h.twice
  · rw [hsent, hacked]
    exact fun number hnumber => h.later number (by omega)
  · rw [hsent, hacked, h.later (s.acked + 1) (Nat.lt_succ_self _)]
    exact hacks.phase

/-- The sender transmits the front and nothing else. -/
theorem Sound.record_transmits (h : Sound s) (hpending : s.conn.sendTrigger = true) :
    Sound (record s .sendTrigger s.conn.sendTriggerCb) := by
  obtain ⟨hout, hsno, htype, hchannel⟩ : s.conn.sendTriggerCb.1.out = s.conn.out ∧
      s.conn.sendTriggerCb.1.sno = s.conn.sno ∧ s.conn.sendTriggerCb.1.type = s.conn.type ∧
      s.conn.sendTriggerCb.1.channel = s.conn.channel := by
    unfold sendTriggerCb
    split <;> exact ⟨rfl, rfl, rfl, rfl⟩
  have hqueued : (record s .sendTrigger s.conn.sendTriggerCb).queued = s.queued := by
    simp [record, hout]
  have hcount : ∀ number, (record s .sendTrigger s.conn.sendTriggerCb).numbers.count number =
      s.numbers.count number +
        if s.acked = number then (requests s.conn.sendTriggerCb.2).length else 0 := by
    intro number
    simp [Sender.numbers, record, map_const', Function.comp_def, count_replicate]
  have hphase := h.phase.transmits hpending
  refine ⟨?_, ?_, hsno.trans h.sno, fun number => ?_, fun number hnumber => ?_, ?_,
    fun transmission hmem => ?_⟩
  · rw [hqueued]
    exact hout.trans h.queue
  · rw [hqueued]
    exact h.acked_le
  · rw [hcount]
    split_ifs with hfront
    · subst hfront
      exact hphase.sends_le
    · exact h.twice number
  · have hne : s.acked ≠ number := Nat.ne_of_lt hnumber
    rw [hcount, if_neg hne]
    exact h.later number hnumber
  · rw [hcount]
    change Phase _ (s.numbers.count s.acked + if s.acked = s.acked then _ else 0)
    rw [if_pos rfl]
    exact hphase
  · refine Carries.record ?_ htype hchannel .sendTrigger
    obtain hmem | hmem := mem_append.1 hmem
    · exact h.carries transmission hmem
    · obtain ⟨p, hp, rfl⟩ := mem_map.1 hmem
      rw [requests_sendTriggerCb] at hp
      obtain ⟨cemi, hfront, rfl⟩ := mem_map.1 hp
      rw [mem_toList, h.queue, head?_drop] at hfront
      exact ⟨cemi, hfront, by rw [h.sno]⟩

theorem Sound.step (h : Sound s) (hstep : step s event = some after)
    (hrunning : after.conn.active = true) : Sound after := by
  obtain ⟨result, hcallback, rfl⟩ := map_eq_some_iff.1 hstep
  have hactive : result.1.active = true := hrunning
  cases event with
  | sendLData =>
    obtain ⟨_, hrun, rfl⟩ := map_eq_some_iff.1 hcallback
    exact h.record_grows rfl (grows_sendLData (toOption_eq_some_iff.1 hrun))
  | sendLBusmonitor pdu timestamp =>
    cases hcallback
    exact h.record_grows rfl (grows_sendLBusmonitor s.conn pdu timestamp)
  | sendTrigger =>
    obtain ⟨hpending, hresult⟩ := ite_none_right_eq_some.1 hcallback
    cases hresult
    exact h.record_transmits hpending
  | sendtimeout =>
    obtain ⟨harmed, hrun⟩ := ite_none_right_eq_some.1 hcallback
    obtain ⟨fired, hfired, heffect⟩ := h.phase.expires harmed
    obtain rfl := Except.ok.inj (hfired.symm.trans (toOption_eq_some_iff.1 hrun))
    rcases heffect with hstopped | ⟨hphase, hout, hsno, htype, hchannel, houtputs⟩
    · rw [hstopped] at hactive
      cases hactive
    · have hqueued : (record s .sendtimeout fired).queued = s.queued := by
        simp [record, hout]
      obtain ⟨hsent, hcarries⟩ := h.quiet (by rw [houtputs]; rfl) htype hchannel .sendtimeout
      exact ⟨hout.trans (hqueued ▸ h.queue), hqueued ▸ h.acked_le, hsno.trans h.sno,
        hsent ▸ h.twice, hsent ▸ h.later, hsent ▸ hphase, hcarries⟩
  | timeout =>
    obtain ⟨-, hresult⟩ := ite_none_right_eq_some.1 hcallback
    cases hresult
    rw [timeoutCb_stops] at hactive
    cases hactive
  | stop =>
    cases hcallback
    cases hactive
  | packet =>
    cases handles_handlePacket (toOption_eq_some_iff.1 hcallback) with
    | grows hgrows _ hanswers => exact h.record_grows hanswers.requests_eq_nil hgrows
    | acknowledges hacks wakes _ _ houtputs =>
      refine h.record_acknowledges ?_ hacks
      rw [houtputs]
      cases wakes <;> rfl
    | stops hstopped =>
      rw [hstopped] at hactive
      cases hactive

end History

/-- A connection as `addClient` creates it. -/
def fresh (addr : Addr) (channel : Byte) (type : ConnType) (nat : Bool)
    (caddr daddr : SockAddr) : ConnState :=
  { addr, channel, type, nat, caddr, daddr }

theorem sound_fresh (addr : Addr) (channel : Byte) (type : ConnType) (nat : Bool)
    (caddr daddr : SockAddr) : Sound { conn := fresh addr channel type nat caddr daddr } :=
  ⟨rfl, Nat.le_refl 0, rfl, by simp [Sender.numbers], by simp [Sender.numbers],
    .waiting rfl rfl rfl, by simp⟩

/-- A run until `stop()` is sound as long as the connection is not stopped. -/
theorem sound_of_path {start s : Sender} (hstart : Sound start)
    (hpath : Path step untilStopped start s) (hactive : s.conn.active = true) : Sound s := by
  have hrun := hpath.invariant (fun s => s.conn.active = true → Sound s) (fun _ => hstart) (by
    intro before event after hsound hrunning hstep
    exact (hsound hrunning).step hstep)
  exact hrun hactive

/-- In every state of a connection before `stop()`: `retries` says whether the
front was transmitted, the queue then has a front, so that none of the three
callbacks that take it can fail, no message is transmitted more than twice, every
transmission is the packet of its message, and the queue and the sequence number have
moved by one for each acknowledgement. -/
theorem send_queue_sound (addr : Addr) (channel : Byte) (type : ConnType) (nat : Bool)
    (caddr daddr : SockAddr) {s : Sender}
    (hpath : Path step untilStopped { conn := fresh addr channel type nat caddr daddr } s)
    (hactive : s.conn.active = true) :
    (0 < s.conn.retries ↔ s.acked ∈ s.numbers) ∧
      (0 < s.conn.retries → s.conn.out ≠ []) ∧
      (s.conn.sendtimeout = true → Returns s.conn.sendtimeoutCb) ∧
      (∀ r1, Returns (s.conn.tunnelResponse r1)) ∧
      (∀ r1, Returns (s.conn.configResponse r1)) ∧
      (∀ number, s.numbers.count number ≤ 2) ∧
      (∀ transmission ∈ s.sent, Carries s transmission) ∧
      s.conn.out = s.queued.drop s.acked ∧ s.conn.sno = BitVec.ofNat 8 s.acked := by
  have hsound := sound_of_path (sound_fresh addr channel type nat caddr daddr) hpath hactive
  have hphase := hsound.phase
  refine ⟨?_, ?_, ?_, ?_, ?_, hsound.twice, hsound.carries, hsound.queue, hsound.sno⟩
  · exact hphase.retries_pos_iff.trans count_pos_iff
  · exact fun hpos => hphase.out_ne_nil (Nat.ne_of_gt hpos)
  · intro harmed
    obtain ⟨result, hresult, -⟩ := hphase.expires harmed
    exact ⟨result, hresult⟩
  · exact hphase.response_returns _
  · exact hphase.response_returns _

/-- A frame for the client is queued behind another one, which is sent, expires,
is sent again and is acknowledged. -/
def resend : List Event :=
  [.sendLData { data := [0x00, 0x81] }, .packet (tunnelRequestToPacket
      { channel := 1, seqno := 0
        cemi := [0x11, 0x00, 0xbc, 0xe0, 0x00, 0x00, 0x08, 0x01, 0x01, 0x00, 0x81] }),
    .sendTrigger, .sendtimeout, .sendTrigger,
    .packet (EIBnetACK.toPacket .tunnelResponse { channel := 1, seqno := 0 })]

theorem send_queue_sound_resent :
    ∃ s, runAllowed step untilStopped { conn := fresh 0x110a 1 .standard false {} {} } resend =
        some s ∧
      s.conn.active = true ∧ s.numbers = [0, 0] ∧ s.acked = 1 ∧
      (0 < s.conn.retries ↔ s.acked ∈ s.numbers) ∧ (∀ number, s.numbers.count number ≤ 2) ∧
      (∀ transmission ∈ s.sent, Carries s transmission) ∧
      s.conn.out = s.queued.drop s.acked ∧ s.conn.sno = BitVec.ofNat 8 s.acked := by
  refine exists_state (D := fun s => s.conn.active = true ∧ s.numbers = [0, 0] ∧ s.acked = 1)
    (by decide +kernel) fun s hs hvalues => ?_
  obtain ⟨hactive, hsent, hacked⟩ := hvalues
  obtain ⟨hretries, -, -, -, -, htwice, hcarries, hqueue, hsno⟩ :=
    send_queue_sound 0x110a 1 .standard false {} {} (path_of_runAllowed hs) hactive
  exact ⟨hactive, hsent, hacked, hretries, htwice, hcarries, hqueue, hsno⟩

end Knxd.SendQueue
