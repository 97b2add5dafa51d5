import Knxd.Filter.Queue
import Knxd.Tunnel.SendQueue

/-!
# Send credits of a server connection

The queue filter in front of a server connection hands it one frame and then
waits for `send_Next`.  A tunnel connection queues the frame, notes in
`do_send_next` that it owes the filter a credit, and returns it with the
acknowledgement that empties its queue.  A link is the filter and the connection
below it, with the history of the connection's queue.

A busmonitor or configuration connection drops the frame without returning the
credit, and then nothing else does.  On a tunnel connection the confirmations of
the client's own frames share the queue with the frames for the client, so a
client that always has another confirmation coming keeps the credit back.
-/

namespace Knxd.Credits

open Memory LPDU EMI Packet Connection Transition ConnState Option Except List Nat
open Queue (QueueFilter)
open SendQueue (Sender Answers Handles callback record fresh)

variable {outputs : List Output} {called : SendQueue.Event}

structure Link where
  filter : QueueFilter := {}
  sender : Sender
  deriving DecidableEq, Repr

inductive Event
  | started
  | sendLData (l : LDataPDU)
  | queueTrigger
  | callback (event : SendQueue.Event)

/-- The call that a function of the filter is in returns. -/
def returned (q : QueueFilter) : QueueFilter :=
  { q with calls := q.calls.tail }

/-- `trigger_cb` of the filter.  `send_L_Data` of the connection does not call `send_Next`,
so that the filter is still sending when it returns. -/
def triggerCb (s : Link) : Run Link :=
  let passed := { s.filter with trigger := false }.loop
  match passed.state, s.filter.buf with
  | .sending, l :: _ => do
    let conn ← s.sender.conn.sendLData l
    pure ⟨(returned passed).loop, record s.sender (.sendLData l) (conn, [])⟩
  | _, _ => pure { s with filter := passed }

def hears (q : QueueFilter) : Output → QueueFilter
  | .sendNext => q.sendNext
  | .driverStop => returned q.stopped
  | _ => q

/-- One callback of the link.  Frames reach the connection only through the
filter. -/
def step (s : Link) : Event → Option Link
  | .started => some { s with filter := returned s.filter.started }
  | .sendLData l => some { s with filter := returned (s.filter.sendLData l) }
  | .queueTrigger => if s.filter.trigger then (triggerCb s).toOption else none
  | .callback (.sendLData _) => none
  | .callback event => (callback s.sender.conn event).map fun result =>
    { filter := result.2.foldl hears s.filter, sender := record s.sender event result }

/-! ## The conditions -/

def standardOnly (s : Link) (_ : Event) : Prop := s.sender.conn.type = .standard
  deriving Decidable

/-- The credit is kept together with the queue, returned, or lost with the
connection. -/
inductive Owes (c : ConnState) (result : ConnState × List Output) : Prop
  | keeps (hcredit : result.1.doSendNext = c.doSendNext)
      (hout : c.doSendNext = true → c.out ≠ [] → result.1.out ≠ [])
      (hquiet : ∀ q, result.2.foldl hears q = q) (htype : result.1.type = c.type)
      (hactive : result.1.active = c.active)
  | returns (howed : c.doSendNext = true) (hcredit : result.1.doSendNext = false)
      (houtputs : result.2 = [.sendNext]) (htype : result.1.type = c.type)
      (hactive : result.1.active = c.active)
  | stops (hstopped : result.1.active = false)

section Callbacks

variable {c : ConnState} {result : ConnState × List Output}

/-- The filter does not hear of answers to the client. -/
theorem foldl_hears_of_answers (hanswers : Answers outputs)
    (q : QueueFilter) : outputs.foldl hears q = q := by
  induction outputs with
  | nil => rfl
  | cons output outputs ih =>
    have hrest : Answers outputs := fun other hother =>
      hanswers other (mem_cons_of_mem _ hother)
    have hfirst : hears q output = q := by
      rcases hanswers output mem_cons_self with ⟨p, rfl, -⟩ | ⟨l, rfl⟩ <;> rfl
    rw [foldl_cons, hfirst]
    exact ih hrest

theorem owes_of_handles (hhandles : Handles c result) : Owes c result := by
  cases hhandles with
  | grows hgrows hcredit hanswers =>
    refine .keeps hcredit (fun _ hne => ?_) (foldl_hears_of_answers hanswers) hgrows.type
      hgrows.active
    obtain ⟨more, hmore⟩ := hgrows.out
    rw [hmore]
    exact append_ne_nil_of_left_ne_nil hne more
  | acknowledges hacks wakes hwakes hcredit houtputs =>
    cases wakes with
    | false =>
      rw [Bool.not_false, Bool.and_true] at hcredit
      refine .keeps hcredit (fun howed _ hempty => ?_) (fun q => by rw [houtputs]; rfl)
        hacks.type hacks.active
      exact absurd (hwakes.2 ⟨hempty, howed⟩) Bool.false_ne_true
    | true =>
      rw [Bool.not_true, Bool.and_false] at hcredit
      exact .returns (hwakes.1 rfl).2 hcredit houtputs hacks.type hacks.active
  | stops hstopped => exact .stops hstopped

theorem owes_sendTriggerCb (c : ConnState) : Owes c c.sendTriggerCb := by
  unfold sendTriggerCb
  split
  · exact .keeps rfl (fun _ hne => hne) (fun _ => rfl) rfl rfl
  · exact .keeps rfl (fun _ hne => hne) (fun _ => rfl) rfl rfl

theorem owes_sendtimeoutCb (hrun : c.sendtimeoutCb = .ok result) : Owes c result := by
  unfold sendtimeoutCb at hrun
  split at hrun
  · cases hrun
    exact .keeps rfl (fun _ hne => hne) (fun _ => rfl) rfl rfl
  · split at hrun
    · cases hrun
    · cases hrun
      exact .stops rfl

theorem owes_sendLBusmonitor (c : ConnState) (pdu : CArray) (timestamp : BitVec 32) :
    Owes c (c.sendLBusmonitor pdu timestamp, []) := by
  have hgrows := SendQueue.grows_sendLBusmonitor c pdu timestamp
  have hcredit : (c.sendLBusmonitor pdu timestamp).doSendNext = c.doSendNext := by
    unfold sendLBusmonitor
    split
    · rw [put_eq]
    · rfl
  exact owes_of_handles (.grows hgrows hcredit (by simp [Answers]))

/-- Every callback but `send_L_Data`, which takes the credit. -/
theorem owes_of_callback {event : SendQueue.Event} (hevent : ∀ l, event ≠ .sendLData l)
    (hcallback : callback c event = some result) : Owes c result := by
  cases event with
  | sendLData l => exact absurd rfl (hevent l)
  | sendLBusmonitor pdu timestamp =>
    cases hcallback
    exact owes_sendLBusmonitor c pdu timestamp
  | sendTrigger =>
    obtain ⟨-, hresult⟩ := ite_none_right_eq_some.1 hcallback
    cases hresult
    exact owes_sendTriggerCb c
  | sendtimeout =>
    obtain ⟨-, hrun⟩ := ite_none_right_eq_some.1 hcallback
    exact owes_sendtimeoutCb (toOption_eq_some_iff.1 hrun)
  | timeout source =>
    obtain ⟨-, hresult⟩ := ite_none_right_eq_some.1 hcallback
    cases hresult
    exact .stops (SendQueue.timeoutCb_stops c source)
  | stop =>
    cases hcallback
    exact .stops rfl
  | packet =>
    exact owes_of_handles (SendQueue.handles_handlePacket (toOption_eq_some_iff.1 hcallback))

end Callbacks

/-! ## Steps of the link -/

/-- What a step can do: something inside the filter, handing a frame down, or a
callback of the connection. -/
inductive Effect (s : Link) (event : Event) (after : Link) : Prop
  | filters (hsender : after.sender = s.sender)
      (hbusy : after.filter.state = .busy ↔ s.filter.state = .busy)
      (hsettled : after.filter.state ≠ .sending)
  | hands (l : LDataPDU) (conn : ConnState) (hidle : s.filter.state = .idle)
      (hbusy : after.filter.state = .busy) (hrun : s.sender.conn.sendLData l = .ok conn)
      (hsender : after.sender = record s.sender (.sendLData l) (conn, []))
  | calls (called : SendQueue.Event) (result : ConnState × List Output)
      (hevent : event = .callback called) (hcalled : ∀ l, called ≠ .sendLData l)
      (hcallback : callback s.sender.conn called = some result)
      (hfilter : after.filter = result.2.foldl hears s.filter)
      (hsender : after.sender = record s.sender called result)

section Steps

variable {s after : Link} {event : Event}

theorem loop_of_sending {q : QueueFilter} (hsending : q.state = .sending) :
    q.loop.state = .busy := by
  unfold QueueFilter.loop QueueFilter.leave
  split
  · simp [hsending]
  · simp [hsending]

/-- The loop passes a frame, or leaves the filter as it is. -/
theorem loop_state_cases {q : QueueFilter} (hsettled : q.state ≠ .sending) :
    q.loop.state = q.state ∨ q.loop.state = .sending ∧ q.state = .idle ∧ q.buf ≠ [] := by
  unfold QueueFilter.loop
  split
  · exact .inl (if_neg hsettled)
  · next l rest hbuf =>
    split
    · next hidle => exact .inr ⟨rfl, hidle, by simp [hbuf]⟩
    · exact .inl (if_neg hsettled)

/-- The connection gets at most one frame, and the filter is busy after it. -/
theorem triggerCb_cases (hsettled : s.filter.state ≠ .sending) (hrun : triggerCb s = .ok after) :
    after.sender = s.sender ∧ after.filter.state = s.filter.state ∨
      s.filter.state = .idle ∧ after.filter.state = .busy ∧ ∃ l conn,
        s.sender.conn.sendLData l = .ok conn ∧
        after.sender = record s.sender (.sendLData l) (conn, []) := by
  have hloop := loop_state_cases (q := { s.filter with trigger := false }) hsettled
  unfold triggerCb at hrun
  dsimp only at hrun
  split at hrun
  · next l rest hsending hbuf =>
    obtain ⟨conn, hconn, hrun⟩ := bind_eq_ok_iff.1 hrun
    cases hrun
    obtain hsame | ⟨-, hidle, -⟩ := hloop
    · exact absurd (hsame.symm.trans hsending) hsettled
    · exact .inr ⟨hidle, loop_of_sending hsending, l, conn, hconn, rfl⟩
  · next hother =>
    cases hrun
    refine .inl ⟨rfl, hloop.resolve_right fun hpassed => ?_⟩
    obtain ⟨l, rest, hbuf⟩ := exists_cons_of_ne_nil hpassed.2.2
    exact hother l rest hpassed.1 hbuf

theorem step_callback (s : Link) (hcalled : ∀ l, called ≠ .sendLData l) :
    step s (.callback called) = (callback s.sender.conn called).map fun result =>
      { filter := result.2.foldl hears s.filter, sender := record s.sender called result } := by
  cases called with
  | sendLData l => exact absurd rfl (hcalled l)
  | sendLBusmonitor | sendTrigger | sendtimeout | timeout | stop | packet => rfl

theorem effect_callback
    (hstep : step s (.callback called) = some after) : Effect s (.callback called) after := by
  by_cases hcalled : ∀ l, called ≠ .sendLData l
  · rw [step_callback s hcalled] at hstep
    obtain ⟨result, hcallback, rfl⟩ := map_eq_some_iff.1 hstep
    exact .calls called result rfl hcalled hcallback rfl rfl
  · push Not at hcalled
    obtain ⟨l, rfl⟩ := hcalled
    cases hstep

theorem effect_of_step (hsettled : s.filter.state ≠ .sending)
    (hstep : step s event = some after) : Effect s event after := by
  cases event with
  | started =>
    cases hstep
    by_cases hdown : s.filter.state = .down
    · exact .filters rfl (by simp [returned, QueueFilter.started, hdown])
        (by simp [returned, QueueFilter.started, hdown])
    · exact .filters rfl (by simp [returned, QueueFilter.started, hdown])
        (by simpa [returned, QueueFilter.started, hdown] using hsettled)
  | sendLData l =>
    cases hstep
    have hstate : (returned (s.filter.sendLData l)).state = s.filter.state := by
      unfold returned QueueFilter.sendLData QueueFilter.accept
      split <;> rfl
    refine .filters rfl ?_ ?_
    · rw [hstate]
    · rwa [hstate]
  | queueTrigger =>
    obtain ⟨-, hrun⟩ := ite_none_right_eq_some.1 hstep
    obtain ⟨hsender, hstate⟩ | ⟨hidle, hbusy, l, conn, hconn, hsender⟩ :=
      triggerCb_cases hsettled (toOption_eq_some_iff.1 hrun)
    · exact .filters hsender (by rw [hstate]) (by rwa [hstate])
    · exact .hands l conn hidle hbusy hconn hsender
  | callback => exact effect_callback hstep

end Steps

/-! ## Credits of a tunnel -/

/-- The filter is busy exactly while the connection owes it a credit, and then
there are messages to acknowledge. -/
structure Credited (s : Link) : Prop where
  settled : s.filter.state ≠ .sending
  busy_iff : s.filter.state = .busy ↔ s.sender.conn.doSendNext = true
  out : s.sender.conn.doSendNext = true → s.sender.conn.out ≠ []

/-- A tunnel queues the frame and takes the credit. -/
theorem sendLData_standard {c next : ConnState} {l : LDataPDU} (htype : c.type = .standard)
    (hrun : c.sendLData l = .ok next) : next.doSendNext = true ∧ next.out ≠ [] := by
  rw [sendLData, if_pos htype] at hrun
  obtain ⟨-, -, hrun⟩ := bind_eq_ok_iff.1 hrun
  obtain ⟨_, -, hrun⟩ := bind_eq_ok_iff.1 hrun
  cases hrun
  rw [put_eq]
  exact ⟨rfl, by simp⟩

theorem sendNext_of_busy {q : QueueFilter} (hbusy : q.state = .busy) :
    q.sendNext.state = .idle := by
  unfold QueueFilter.sendNext
  rw [hbusy]

variable {s after start : Link} {event : Event} {c : ConnState}

theorem Credited.step (h : Credited s) (htype : s.sender.conn.type = .standard)
    (hstep : step s event = some after) (hactive : after.sender.conn.active = true) :
    Credited after := by
  cases effect_of_step h.settled hstep with
  | filters hsender hbusy hsettled =>
    exact ⟨hsettled, hsender ▸ hbusy.trans h.busy_iff, hsender ▸ h.out⟩
  | hands _ _ _ hbusy hrun hsender =>
    obtain ⟨hcredit, hout⟩ := sendLData_standard htype hrun
    rw [hsender] at hactive
    exact ⟨by simp [hbusy], iff_of_true hbusy (hsender ▸ hcredit), fun _ => hsender ▸ hout⟩
  | calls _ result _ hcalled hcallback hfilter hsender =>
    have hconn : after.sender.conn = result.1 := congrArg Sender.conn hsender
    cases owes_of_callback hcalled hcallback with
    | keeps hcredit hout hquiet =>
      rw [hquiet] at hfilter
      refine ⟨hfilter ▸ h.settled, ?_, ?_⟩
      · rw [hfilter, hconn, hcredit]
        exact h.busy_iff
      · rw [hconn, hcredit]
        exact fun howed => hout howed (h.out howed)
    | returns howed hcredit houtputs =>
      have hidle : after.filter.state = .idle := by
        rw [hfilter, houtputs]
        exact sendNext_of_busy (h.busy_iff.2 howed)
      refine ⟨by simp [hidle], ?_, ?_⟩
      · rw [hconn, hcredit, hidle]
        simp
      · rw [hconn, hcredit]
        simp
    | stops hstopped =>
      rw [hconn, hstopped] at hactive
      cases hactive

/-- A connection that is not stopped was not stopped before, and has the same
type. -/
theorem alive_of_effect (heffect : Effect s event after)
    (hactive : after.sender.conn.active = true) :
    s.sender.conn.active = true ∧ after.sender.conn.type = s.sender.conn.type := by
  cases heffect with
  | filters hsender => exact ⟨hsender ▸ hactive, by rw [hsender]⟩
  | hands _ conn _ _ hrun hsender =>
    have hconn : after.sender.conn = conn := congrArg Sender.conn hsender
    have hgrows := SendQueue.grows_sendLData hrun
    rw [hconn] at hactive ⊢
    exact ⟨hgrows.active.symm.trans hactive, hgrows.type⟩
  | calls _ result _ hcalled hcallback _ hsender =>
    have hconn : after.sender.conn = result.1 := congrArg Sender.conn hsender
    rw [hconn] at hactive ⊢
    cases owes_of_callback hcalled hcallback with
    | keeps _ _ _ htype hsame | returns _ _ _ htype hsame => exact ⟨hsame.symm.trans hactive, htype⟩
    | stops hstopped =>
      rw [hstopped] at hactive
      cases hactive

/-! ## The messages before the credit -/

section Backlog

variable {c : ConnState} {result : ConnState × List Output}

end Backlog

/-- A link with a connection as `addClient` creates it. -/
def freshLink (addr : Addr) (channel : Byte) (type : ConnType) (nat : Bool)
    (caddr daddr : SockAddr) : Link :=
  { sender := { conn := fresh addr channel type nat caddr daddr } }

/-- A group telegram for the client. -/
def telegram : LDataPDU := { addrType := .groupAddress, dest := 0x0801, data := [0x00, 0x81] }

/-- The client sends a frame of its own, and acknowledges what it got only then. -/
def sendsFirst (number : Byte) : List Event :=
  [.callback .sendTrigger,
    .callback (.packet (tunnelRequestToPacket
      { channel := 1, seqno := number
        cemi := [0x11, 0x00, 0xbc, 0xe0, 0x00, 0x00, 0x08, 0x01, 0x01, 0x00, 0x81] })),
    .callback (.packet (tunnelACKToPacket ⟨1, number, 0⟩))]

/-- The confirmations keep the queue from being empty: after three acknowledgements, the first of
them for the telegram, the filter is still busy with it. -/
theorem credit_kept_back : (runAllowed step standardOnly (freshLink 0x110a 1 .standard false {} {})
    ([.started, .sendLData telegram, .queueTrigger] ++ [0, 1, 2].flatMap sendsFirst)).map
      (fun s => (s.filter.state, s.sender.acked)) = some (.busy, 3) := by
  decide +kernel

/-! ## Connections that are no tunnels -/

structure Withheld (s : Link) : Prop where
  busy : s.filter.state = .busy
  type : s.sender.conn.type ≠ .standard
  credit : s.sender.conn.doSendNext = false

theorem Withheld.step (h : Withheld s) (hstep : Credits.step s event = some after)
    (hactive : after.sender.conn.active = true) : Withheld after := by
  have hsettled : s.filter.state ≠ .sending := by simp [h.busy]
  have heffect := effect_of_step hsettled hstep
  have htype : after.sender.conn.type ≠ .standard := (alive_of_effect heffect hactive).2 ▸ h.type
  cases heffect with
  | filters hsender hbusy => exact ⟨hbusy.2 h.busy, htype, hsender ▸ h.credit⟩
  | hands _ _ hidle =>
    rw [h.busy] at hidle
    cases hidle
  | calls _ result _ hcalled hcallback hfilter hsender =>
    have hconn : after.sender.conn = result.1 := congrArg Sender.conn hsender
    cases owes_of_callback hcalled hcallback with
    | keeps hcredit _ hquiet =>
      rw [hquiet] at hfilter
      exact ⟨hfilter ▸ h.busy, htype, hconn ▸ hcredit.trans h.credit⟩
    | returns howed =>
      rw [h.credit] at howed
      cases howed
    | stops hstopped =>
      rw [hconn, hstopped] at hactive
      cases hactive

end Knxd.Credits
