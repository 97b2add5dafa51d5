import Knxd.Transport.Session

/-!
# Two transport connections

Two connections in the open state exchange frames over two first-in first-out channels
that may lose and duplicate them.  Payloads are queued at both ends, timers fire whenever
they run, and either end may close.  Each frame on a channel carries, for the statement
only, the number of the payload that it is about, counted without bound.

Forgetting everything else gives two endpoints of the stop-and-wait protocol, also after
one end has closed: its receiving half goes on as before.
-/

namespace Knxd.Transport

open Memory LPDU Transition StopAndWait List Session System Option
open Link (Valid)

variable {l : LDataPDU} {serno : Byte} {rest : List CArray} {current : CArray}

structure Datagram where
  l : LDataPDU
  number : ℕ
  deriving DecidableEq, Repr

structure System where
  left : Session
  right : Session
  toRight : List Datagram := []
  toLeft : List Datagram := []
  deriving DecidableEq, Repr

def framesOf (outputs : List Output) : List LDataPDU :=
  outputs.filterMap fun
    | .recvLData l => some l
    | _ => none

/-- The datagram for a frame sent at this point: an acknowledgement is for the last payload
taken, data is the first payload not yet acknowledged. -/
def Session.datagram (s : Session) (l : LDataPDU) : Datagram :=
  ⟨l, match fromPacket l.data with
    | .ok (.ack _) => (delivered s.outputs).length - 1
    | _ => s.acked⟩

namespace System

def swap (s : System) : System :=
  ⟨s.right, s.left, s.toLeft, s.toRight⟩

def leftActs (s : System) (event : Event) : Option System :=
  (s.left.step event).map fun left =>
    let out := left.outputs.drop s.left.outputs.length
    { s with left, toRight := s.toRight ++ (framesOf out).map left.datagram }

end System

/-- What happens at one end: a payload is queued, the timer fires, the end closes, or the
channel to it delivers, loses or duplicates a frame. -/
inductive EndEvent
  | queue (data : CArray)
  | timer
  | close
  | arrive
  | lose (index : ℕ)
  | duplicate (index : ℕ)
  deriving DecidableEq, Repr

inductive Side
  | left
  | right
  deriving DecidableEq, Repr

namespace System

def leftStep (s : System) : EndEvent → Option System
  | .queue data => s.leftActs (.recvData data)
  | .timer => s.leftActs .timerCb
  | .close => s.leftActs .stop
  | .arrive =>
    match s.toLeft with
    | [] => none
    | datagram :: rest => leftActs { s with toLeft := rest } (.sendLData datagram.l)
  | .lose index => some { s with toLeft := StopAndWait.lose index s.toLeft }
  | .duplicate index => some { s with toLeft := StopAndWait.duplicate index s.toLeft }

def step (s : System) : Side × EndEvent → Option System
  | (.left, event) => s.leftStep event
  | (.right, event) => (s.swap.leftStep event).map swap

end System

/-- The open state that `SendConnect` leaves, at the start of a history. -/
structure Session.Fresh (s : Session) : Prop where
  mode_eq : s.conn.mode = .idle
  numbers : s.conn.sendno = 0 ∧ s.conn.recvno = 0
  queued_eq : s.queued = s.conn.input
  acked_eq : s.acked = 0
  outputs_eq : s.outputs = []

structure System.Established (s : System) : Prop where
  left : s.left.Fresh
  right : s.right.Fresh
  channels : s.toRight = [] ∧ s.toLeft = []

/-! ## The endpoints of the stop-and-wait protocol -/

def item (datagram : Datagram) : Option (Item CArray) :=
  match fromPacket datagram.l.data with
  | .ok (.dataConnectedReq _ data) => some (.request datagram.number (masked data))
  | .ok (.ack _) => some (.ack datagram.number)
  | _ => none

def Session.endpoint (s : Session) : Endpoint CArray :=
  ⟨(s.queued.take s.acked).map masked, (s.queued.drop s.acked).map masked, delivered s.outputs⟩

def System.link (s : System) : Link CArray :=
  ⟨s.left.endpoint, s.right.endpoint, s.toRight.filterMap item, s.toLeft.filterMap item⟩

/-- The serial number of a frame on a channel is its number modulo 16. -/
def Tagged (datagram : Datagram) : Prop :=
  match fromPacket datagram.l.data with
  | .ok (.dataConnectedReq serno _) | .ok (.ack serno) => serno.toNat = datagram.number % 16
  | _ => True

/-- One end. -/
structure Session.Numbered (s : Session) : Prop where
  inOrder : s.InOrder
  acked_le : s.acked ≤ s.queued.length
  recvno_eq : s.conn.recvno = (delivered s.outputs).length % 16

structure System.Valid (s : System) : Prop where
  left : s.left.Numbered
  right : s.right.Numbered
  toRight : ∀ datagram ∈ s.toRight, Tagged datagram
  toLeft : ∀ datagram ∈ s.toLeft, Tagged datagram
  link : s.link.Valid

theorem System.Valid.swap {s : System} (h : s.Valid) : s.swap.Valid :=
  ⟨h.right, h.left, h.toLeft, h.toRight, h.link.swap⟩

/-! ## Datagrams -/

section Datagrams

variable {c : TConnection} {s : Session} {l : LDataPDU}

theorem item_data {data : CArray} (hframe : DataFrame c data l) :
    item (s.datagram l) = some (.request s.acked (masked data)) := by
  obtain ⟨_, hpacket, rfl⟩ := hframe
  obtain ⟨hread, hmasked, -⟩ := fromPacket_of_data hpacket
  simp only [item, datagram, peerFrame, hread, hmasked]

theorem tagged_data {data : CArray} (hframe : DataFrame c data l)
    (hnumber : c.sendno = s.acked % 16) : Tagged (s.datagram l) := by
  obtain ⟨_, hpacket, rfl⟩ := hframe
  obtain ⟨hread, -, -⟩ := fromPacket_of_data hpacket
  simp only [Tagged, datagram, peerFrame, hread, BitVec.toNat_ofNat]
  omega

theorem item_ack {serno : ℕ} (hframe : AckFrame c serno l) :
    item (s.datagram l) = some (.ack ((delivered s.outputs).length - 1)) := by
  obtain ⟨_, hpacket, rfl⟩ := hframe
  simp only [item, datagram, peerFrame, fromPacket_of_ack hpacket]

theorem tagged_ack {serno : ℕ} (hframe : AckFrame c serno l)
    (hnumber : serno = ((delivered s.outputs).length - 1) % 16) : Tagged (s.datagram l) := by
  obtain ⟨_, hpacket, rfl⟩ := hframe
  simp only [Tagged, datagram, peerFrame, fromPacket_of_ack hpacket, BitVec.toNat_ofNat]
  omega

theorem delivered_append (first second : List Output) :
    delivered (first ++ second) = delivered first ++ delivered second :=
  filterMap_append

theorem delivered_of_sendNext {next : List Output} (hnext : ∀ output ∈ next, output = .sendNext) :
    delivered next = [] := by
  rw [delivered, filterMap_eq_nil_iff]
  intro output houtput
  rw [hnext output houtput]

theorem framesOf_of_sendNext {next : List Output} (hnext : ∀ output ∈ next, output = .sendNext) :
    framesOf next = [] := by
  rw [framesOf, filterMap_eq_nil_iff]
  intro output houtput
  rw [hnext output houtput]

end Datagrams

/-! ## What one end does to the link -/

section Acts

variable {a a' : Session} {event : Event} {right : Endpoint CArray}
variable {toRight toLeft : List (Item CArray)} {incoming : Option Datagram}

def Arriving (incoming : Option Datagram) (event : Event) : Prop :=
  ∀ l, event = .sendLData l → ∃ datagram, incoming = some datagram ∧ datagram.l = l ∧
    Tagged datagram

def linkAfter (a : Session) (right : Endpoint CArray) (toRight toLeft : List (Item CArray))
    (sent : List LDataPDU) : Link CArray :=
  ⟨a.endpoint, right, toRight ++ (sent.map a.datagram).filterMap item, toLeft⟩

/-- The frame that arrives is taken from the channel. -/
theorem link_arrive {left : Endpoint CArray} {head : List (Item CArray)}
    (hvalid : Valid ⟨left, right, toRight, head ++ toLeft⟩) :
    Valid ⟨left, right, toRight, toLeft⟩ :=
  hvalid.perturb (.refl _) (.lose (sublist_append_right _ _))

theorem endpoint_acked_length (hacked : a.acked ≤ a.queued.length) :
    a.endpoint.acked.length = a.acked := by
  simp [endpoint, hacked]

/-- A payload that is queued joins the queue of the endpoint. -/
theorem link_submit {payload : CArray}
    (hvalid : Valid ⟨a.endpoint, right, toRight, toLeft⟩) (hle : a.acked ≤ a.queued.length)
    (hqueued : a'.queued = a.queued ++ [payload]) (hacked : a'.acked = a.acked)
    (hdelivered : delivered a'.outputs = delivered a.outputs) :
    Valid ⟨a'.endpoint, right, toRight, toLeft⟩ := by
  have hsubmit := hvalid.leftStep (.submit _ (masked payload))
  simp only [endpoint, hqueued, hacked, hdelivered, take_append_of_le_length hle,
    drop_append_of_le_length hle, map_append, map_singleton]
  exact hsubmit

/-- An endpoint is what was queued, acknowledged and taken, and nothing else of its end. -/
theorem endpoint_congr (hqueued : a'.queued = a.queued) (hacked : a'.acked = a.acked)
    (hdelivered : delivered a'.outputs = delivered a.outputs) : a.endpoint = a'.endpoint := by
  simp only [endpoint, hqueued, hacked, hdelivered]

/-- The first payload that is not acknowledged is sent. -/
theorem link_transmit {c : TConnection} (hvalid : Valid ⟨a.endpoint, right, toRight, toLeft⟩)
    (hacked : a.acked ≤ a.queued.length) (hdrop : a.queued.drop a.acked = current :: rest)
    (hframe : DataFrame c current l) : (linkAfter a right toRight toLeft [l]).Valid := by
  have hqueue : a.endpoint.queue = masked current :: rest.map masked := by
    simp [endpoint, hdrop]
  have hstep := hvalid.leftStep (.transmit _ _ _ hqueue)
  rw [linkAfter, map_singleton, filterMap_cons, item_data hframe, ← endpoint_acked_length hacked]
  exact hstep

/-- Frames that are nothing to the protocol leave the link as it is. -/
theorem link_keep {sent : List LDataPDU} (hvalid : Valid ⟨a.endpoint, right, toRight, toLeft⟩)
    (hsent : ∀ l ∈ sent, item (a.datagram l) = none) :
    (linkAfter a right toRight toLeft sent).Valid := by
  have hnone : (sent.map a.datagram).filterMap item = [] := by
    rw [filterMap_eq_nil_iff]
    intro datagram hdatagram
    obtain ⟨l, hl, rfl⟩ := mem_map.1 hdatagram
    exact hsent l hl
  rw [linkAfter, hnone, append_nil]
  exact hvalid

/-- The next payload was taken. -/
theorem link_take {data : CArray} {number : ℕ} {c : TConnection} {serno : ℕ}
    (hvalid : Valid ⟨a.endpoint, right, toRight, .request number data :: toLeft⟩)
    (hnumber : number = (delivered a.outputs).length) (hack : AckFrame c serno l)
    (hqueued : a'.queued = a.queued) (hacked : a'.acked = a.acked)
    (hdelivered : delivered a'.outputs = delivered a.outputs ++ [data]) :
    (linkAfter a' right toRight toLeft [l]).Valid := by
  subst hnumber
  have hstep := hvalid.leftStep (.take _ data toLeft rfl)
  rw [linkAfter, map_singleton, filterMap_cons, item_ack hack, hdelivered,
    length_append, length_singleton, Nat.add_sub_cancel]
  simp only [endpoint, hqueued, hacked, hdelivered]
  exact hstep

/-- A copy of the last payload taken is acknowledged again. -/
theorem link_again {data : CArray} {number : ℕ} {c : TConnection} {serno : ℕ}
    (hvalid : Valid ⟨a.endpoint, right, toRight, .request number data :: toLeft⟩)
    (hnumber : number + 1 = (delivered a.outputs).length) (hack : AckFrame c serno l) :
    (linkAfter a right toRight toLeft [l]).Valid := by
  have hstep := hvalid.leftStep (.again _ number data toLeft rfl hnumber)
  rw [linkAfter, map_singleton, filterMap_cons, item_ack hack, ← hnumber, Nat.add_sub_cancel]
  exact hstep

/-- The outstanding payload is acknowledged. -/
theorem link_confirm {number : ℕ}
    (hvalid : Valid ⟨a.endpoint, right, toRight, .ack number :: toLeft⟩)
    (hacked : a.acked ≤ a.queued.length) (hnumber : number = a.acked)
    (hdrop : a.queued.drop a.acked = current :: rest) (hqueued : a'.queued = a.queued)
    (hacked' : a'.acked = a.acked + 1) (hdelivered : delivered a'.outputs = delivered a.outputs) :
    Valid ⟨a'.endpoint, right, toRight, toLeft⟩ := by
  have hqueue : a.endpoint.queue = masked current :: rest.map masked := by
    simp [endpoint, hdrop]
  rw [hnumber, ← endpoint_acked_length hacked] at hvalid
  have hstep := hvalid.leftStep (.confirm _ _ _ toLeft rfl hqueue)
  have htake : a.queued.take (a.acked + 1) = a.queued.take a.acked ++ [current] := by
    rw [take_add_one, ← head?_drop, hdrop]
    rfl
  have hrest : a.queued.drop (a.acked + 1) = rest := drop_acked_succ hdrop
  simp only [endpoint, hqueued, hacked', hdelivered, htake, hrest, map_append, map_singleton]
  exact hstep

/-- Data that arrives is the request at the head of the channel. -/
theorem Arriving.data {data : CArray} (harriving : Arriving incoming (.sendLData l))
    (htpdu : fromPacket l.data = .ok (.dataConnectedReq serno data)) :
    ∃ number, incoming.bind item = some (.request number (masked data)) ∧
      serno.toNat = number % 16 := by
  obtain ⟨datagram, rfl, rfl, htagged⟩ := harriving l rfl
  rw [Tagged, htpdu] at htagged
  refine ⟨datagram.number, ?_, htagged⟩
  simp only [bind_some, item, htpdu]

/-- An acknowledgement that arrives is the one at the head of the channel. -/
theorem Arriving.ack (harriving : Arriving incoming (.sendLData l))
    (htpdu : fromPacket l.data = .ok (.ack serno)) :
    ∃ number, incoming.bind item = some (.ack number) ∧ serno.toNat = number % 16 := by
  obtain ⟨datagram, rfl, rfl, htagged⟩ := harriving l rfl
  rw [Tagged, htpdu] at htagged
  refine ⟨datagram.number, ?_, htagged⟩
  simp only [bind_some, item, htpdu]

theorem acked_lt_of_drop
    (hdrop : a.queued.drop a.acked = current :: rest) : a.acked < a.queued.length := by
  have hlength := congrArg length hdrop
  rw [length_drop, length_cons] at hlength
  omega

variable (ha : a.Numbered)
include ha

/-- An acknowledgement that is accepted is for the outstanding payload. -/
theorem numbered_acknowledged
    (hvalid : Valid ⟨a.endpoint, right, toRight, (incoming.bind item).toList ++ toLeft⟩)
    (harriving : Arriving incoming (.sendLData l)) (htpdu : fromPacket l.data = .ok (.ack serno))
    (hserno : serno.toNat = a.conn.sendno) (hmode : a.conn.mode = .ackWait)
    (hinOrder : a'.InOrder) (hrecvno : a'.conn.recvno = a.conn.recvno)
    (hqueued : a'.queued = a.queued ++ [])
    (hacked : a'.acked = if (a.conn.sendno + 1) % 16 = a.conn.sendno then a.acked else a.acked + 1)
    (hdelivered : delivered a'.outputs = delivered a.outputs ++ []) :
    a'.Numbered ∧ Valid ⟨a'.endpoint, right, toRight, toLeft⟩ := by
  obtain ⟨number, hitem, htag⟩ := harriving.ack htpdu
  rw [hitem] at hvalid
  obtain ⟨hsendno, hdrop, -⟩ := ha.inOrder.waiting hmode
  have hconfirming := hvalid.confirming rfl (by norm_num : 1 < 16)
  rw [endpoint_acked_length ha.acked_le] at hconfirming
  have hnumber : number = a.acked := hconfirming.1 (htag.symm.trans (hserno.trans hsendno))
  rw [append_nil] at hqueued hdelivered
  rw [if_neg (by omega)] at hacked
  refine ⟨⟨hinOrder, ?_, ?_⟩,
    link_confirm hvalid ha.acked_le hnumber hdrop hqueued hacked hdelivered⟩
  · rw [hacked, hqueued]
    exact acked_lt_of_drop hdrop
  · rw [hrecvno, hdelivered, ha.recvno_eq]

/-- Nothing is acknowledged and nothing is taken. -/
theorem Session.Numbered.same (hinOrder : a'.InOrder) {more : List CArray}
    (hqueued : a'.queued = a.queued ++ more) (hacked : a'.acked = a.acked)
    (hrecvno : a'.conn.recvno = a.conn.recvno)
    (hdelivered : delivered a'.outputs = delivered a.outputs) : a'.Numbered := by
  refine ⟨hinOrder, ?_, by rw [hrecvno, hdelivered, ha.recvno_eq]⟩
  rw [hacked, hqueued, length_append]
  exact Nat.le_add_right_of_le ha.acked_le

/-- Nothing is queued either. -/
theorem Session.Numbered.unchanged (hinOrder : a'.InOrder)
    (hqueued : a'.queued = a.queued ++ []) (hacked : a'.acked = a.acked)
    (hrecvno : a'.conn.recvno = a.conn.recvno)
    (hdelivered : delivered a'.outputs = delivered a.outputs ++ []) :
    a'.Numbered ∧ a.endpoint = a'.endpoint := by
  rw [append_nil] at hdelivered
  exact ⟨ha.same hinOrder hqueued hacked hrecvno hdelivered,
    endpoint_congr (hqueued.trans (append_nil _)) hacked hdelivered⟩

/-- The next payload of the peer is taken and acknowledged. -/
theorem numbered_takes {l ack : LDataPDU} {data : CArray}
    (hvalid : Valid ⟨a.endpoint, right, toRight, (incoming.bind item).toList ++ toLeft⟩)
    (harriving : Arriving incoming (.sendLData l))
    (htpdu : fromPacket l.data = .ok (.dataConnectedReq serno data))
    (hserno : serno.toNat = a.conn.recvno) (hack : AckFrame a.conn a.conn.recvno ack)
    (hinOrder : a'.InOrder) (hrecvno : a'.conn.recvno = (a.conn.recvno + 1) % 16)
    (hqueued : a'.queued = a.queued) (hacked : a'.acked = a.acked)
    (hdelivered : delivered a'.outputs = delivered a.outputs ++ [masked data]) :
    a'.Numbered ∧ (∀ sent ∈ [ack], Tagged (a'.datagram sent)) ∧
      (linkAfter a' right toRight toLeft [ack]).Valid := by
  obtain ⟨number, hitem, htag⟩ := harriving.data htpdu
  rw [hitem] at hvalid
  obtain ⟨hnew, -, -⟩ := hvalid.arriving rfl (by norm_num : 1 < 16)
  have hnumber : number = (delivered a.outputs).length :=
    hnew.1 (htag.symm.trans (hserno.trans ha.recvno_eq))
  refine ⟨⟨hinOrder, ?_, ?_⟩, ?_, link_take hvalid hnumber hack hqueued hacked hdelivered⟩
  · rw [hacked, hqueued]
    exact ha.acked_le
  · rw [hrecvno, hdelivered, length_append, length_singleton, ha.recvno_eq, Nat.mod_add_mod]
  · intro sent hsent
    rw [mem_singleton.1 hsent]
    refine tagged_ack hack ?_
    rw [hdelivered, length_append, length_singleton, Nat.add_sub_cancel, ha.recvno_eq]

/-- A payload that was taken before is acknowledged again: it is the last one. -/
theorem numbered_takesAgain {l ack : LDataPDU} {data : CArray}
    (hvalid : Valid ⟨a.endpoint, right, toRight, (incoming.bind item).toList ++ toLeft⟩)
    (harriving : Arriving incoming (.sendLData l))
    (htpdu : fromPacket l.data = .ok (.dataConnectedReq serno data))
    (hserno : serno.toNat = previous a.conn.recvno) (hnew : serno.toNat ≠ a.conn.recvno)
    (hack : AckFrame a.conn (previous a.conn.recvno) ack) :
    (∀ sent ∈ [ack], Tagged (a.datagram sent)) ∧
      (linkAfter a right toRight toLeft [ack]).Valid := by
  obtain ⟨number, hitem, htag⟩ := harriving.data htpdu
  rw [hitem] at hvalid
  obtain ⟨-, -, hcases⟩ := hvalid.arriving rfl (by norm_num : 1 < 16)
  have hlast : number + 1 = (delivered a.outputs).length := by
    refine hcases.resolve_left fun hnext => hnew ?_
    rw [htag, hnext, ha.recvno_eq]
    rfl
  refine ⟨fun sent hsent => ?_, link_again hvalid hlast hack⟩
  rw [mem_singleton.1 hsent]
  refine tagged_ack hack ?_
  rw [← hserno, htag, ← hlast, Nat.add_sub_cancel]

/-- The step lemma for one end: what it does is a step of its endpoint, and everything it
sends carries its number. -/
theorem numbered_acts (hstep : a.step event = some a')
    (hconnect : event ≠ .sendConnect) (harriving : Arriving incoming event)
    (hvalid : Valid ⟨a.endpoint, right, toRight, (incoming.bind item).toList ++ toLeft⟩) :
    ∃ out, a'.outputs = a.outputs ++ out ∧ a'.Numbered ∧
      (∀ l ∈ framesOf out, Tagged (a'.datagram l)) ∧
      (linkAfter a' right toRight toLeft (framesOf out)).Valid := by
  obtain ⟨out, hacts, hqueued, hacked, houtputs⟩ := step_cases hstep
  refine ⟨out, houtputs, ?_⟩
  have hinOrder := ha.inOrder.step hconnect hstep
  have hdelivered : delivered a'.outputs = delivered a.outputs ++ delivered out := by
    rw [houtputs, delivered_append]
  have hrest := link_arrive hvalid
  obtain ⟨_, queued', _, outputs'⟩ := a'
  dsimp only at hacts hqueued hacked hdelivered
  cases hacts with
  | connects => exact (hconnect rfl).elim
  | stops _ next hevent hnext =>
    rw [if_pos rfl] at hacked
    rw [hevent] at hqueued
    have hframes : framesOf (.recvLData (disconnectFrame a.conn.dest) :: .send [] :: next) =
        [disconnectFrame a.conn.dest] := by
      rw [← framesOf_of_sendNext hnext]
      rfl
    obtain ⟨hnumbered, hend⟩ := ha.unchanged hinOrder hqueued hacked rfl
      (delivered_of_sendNext hnext ▸ hdelivered)
    rw [hframes]
    refine ⟨hnumbered, fun l hl => ?_,
      link_keep (hend ▸ hrest) fun l hl => mem_singleton.1 hl ▸ rfl⟩
    rw [mem_singleton.1 hl]
    exact trivial
  | ignores =>
    rw [if_pos rfl] at hacked
    obtain ⟨hnumbered, hend⟩ := ha.unchanged hinOrder hqueued hacked rfl hdelivered
    exact ⟨hnumbered, forall_mem_nil _, link_keep (hend ▸ hrest) (forall_mem_nil _)⟩
  | queues =>
    rw [if_pos rfl] at hacked
    have hsame : delivered outputs' = delivered a.outputs := hdelivered.trans (append_nil _)
    exact ⟨ha.same hinOrder hqueued hacked rfl hsame, forall_mem_nil _,
      link_keep (link_submit hrest ha.acked_le hqueued hacked hsame) (forall_mem_nil _)⟩
  | starts _ _ _ l _ _ hframe =>
    rw [if_pos rfl] at hacked
    have hsame : delivered outputs' = delivered a.outputs := hdelivered.trans (append_nil _)
    have hnumbered := ha.same hinOrder hqueued hacked rfl hsame
    obtain ⟨hsendno, hdrop, -⟩ := hinOrder.waiting rfl
    refine ⟨hnumbered, ?_, link_transmit (link_submit hrest ha.acked_le hqueued hacked hsame)
      hnumbered.acked_le hdrop hframe⟩
    intro l' hl'
    obtain rfl : l' = l := by simpa [framesOf] using hl'
    exact tagged_data hframe hsendno
  | repeats _ _ next l hevent hmode _ hframe hnext =>
    rw [if_pos rfl] at hacked
    rw [hevent] at hqueued
    have hframes : framesOf (.recvLData l :: next) = [l] := by
      rw [← framesOf_of_sendNext hnext]
      rfl
    obtain ⟨hnumbered, hend⟩ := ha.unchanged hinOrder hqueued hacked rfl
      (delivered_of_sendNext hnext ▸ hdelivered)
    obtain ⟨hsendno, hdrop, -⟩ := hinOrder.waiting hmode
    rw [hframes]
    refine ⟨hnumbered, ?_, link_transmit (hend ▸ hrest) hnumbered.acked_le hdrop hframe⟩
    intro l' hl'
    rw [mem_singleton.1 hl']
    exact tagged_data hframe hsendno
  | takes _ ack data _ htpdu hserno hack =>
    rw [if_pos rfl] at hacked
    have hunqueued : queued' = a.queued := hqueued.trans (append_nil _)
    have hone : delivered [.send (masked data), .recvLData ack, .sendNext] = [masked data] := by
      simp [delivered, masked_ne_nil htpdu]
    rw [hone] at hdelivered
    exact numbered_takes ha hvalid harriving htpdu hserno hack hinOrder rfl hunqueued hacked
      hdelivered
  | takesAgain _ _ _ _ htpdu hserno hnew hack =>
    rw [if_pos rfl] at hacked
    obtain ⟨hnumbered, hend⟩ := ha.unchanged hinOrder hqueued hacked rfl hdelivered
    rw [hend] at hvalid
    exact ⟨hnumbered, numbered_takesAgain hnumbered hvalid harriving htpdu hserno hnew hack⟩
  | finishes _ _ htpdu hserno hmode =>
    obtain ⟨hnumbered, hconfirm⟩ := numbered_acknowledged ha hvalid harriving htpdu hserno hmode
      hinOrder rfl hqueued hacked hdelivered
    exact ⟨hnumbered, forall_mem_nil _, link_keep hconfirm (forall_mem_nil _)⟩
  | advances _ next _ _ _ htpdu hserno hmode _ hframe =>
    obtain ⟨hnumbered, hconfirm⟩ := numbered_acknowledged ha hvalid harriving htpdu hserno hmode
      hinOrder rfl hqueued hacked hdelivered
    obtain ⟨hsendno, hdrop, -⟩ := hinOrder.waiting rfl
    refine ⟨hnumbered, ?_, link_transmit hconfirm hnumbered.acked_le hdrop hframe⟩
    intro l' hl'
    obtain rfl : l' = next := by simpa [framesOf] using hl'
    exact tagged_data hframe hsendno

end Acts

/-! ## Runs -/

section Runs

variable {s s' : System}

/-- The left end acts, after the frame it acts on was taken from its channel. -/
theorem System.valid_of_leftActs {event : Event} (incoming : Option Datagram)
    (hstep : s.leftActs event = some s') (hleft : s.left.Numbered) (hright : s.right.Numbered)
    (htoRight : ∀ datagram ∈ s.toRight, Tagged datagram)
    (htoLeft : ∀ datagram ∈ s.toLeft, Tagged datagram) (hconnect : event ≠ .sendConnect)
    (harriving : Arriving incoming event)
    (hvalid : Link.Valid ⟨s.left.endpoint, s.right.endpoint, s.toRight.filterMap item,
      (incoming.bind item).toList ++ s.toLeft.filterMap item⟩) : s'.Valid := by
  obtain ⟨left, hact, rfl⟩ := map_eq_some_iff.1 hstep
  obtain ⟨out, houtputs, hnumbered, htagged, hlink⟩ :=
    numbered_acts hleft hact hconnect harriving hvalid
  have hout : left.outputs.drop s.left.outputs.length = out := by
    rw [houtputs, drop_left]
  rw [hout]
  refine ⟨hnumbered, hright, ?_, htoLeft, ?_⟩
  · intro datagram hdatagram
    rcases mem_append.1 hdatagram with hdatagram | hdatagram
    · exact htoRight datagram hdatagram
    · obtain ⟨l, hl, rfl⟩ := mem_map.1 hdatagram
      exact htagged l hl
  · rw [link, filterMap_append]
    exact hlink

theorem System.Valid.leftStep {event : EndEvent} (h : s.Valid)
    (hstep : s.leftStep event = some s') : s'.Valid := by
  have hacts {event : Event} (hact : s.leftActs event = some s') (hconnect : event ≠ .sendConnect)
      (hframe : ∀ l, event ≠ .sendLData l) : s'.Valid :=
    valid_of_leftActs none hact h.left h.right h.toRight h.toLeft hconnect
      (fun l hl => (hframe l hl).elim) h.link
  have hchannel {wire : List Datagram} (hwire : Perturbs s.toLeft wire) :
      System.Valid { s with toLeft := wire } :=
    ⟨h.left, h.right, h.toRight, fun _ hdatagram => h.toLeft _ (hwire.mem hdatagram),
      h.link.perturb (.refl _) (hwire.filterMap item)⟩
  cases event with
  | queue | timer | close => exact hacts hstep (by simp) (by simp)
  | arrive =>
    rw [System.leftStep] at hstep
    split at hstep
    · cases hstep
    · next datagram rest hwire =>
      have htoLeft := h.toLeft
      have hlink := h.link
      rw [hwire, forall_mem_cons] at htoLeft
      rw [System.link, hwire, filterMap_cons] at hlink
      refine valid_of_leftActs (some datagram) hstep h.left h.right h.toRight htoLeft.2
        (by simp) (fun l hl => ⟨datagram, rfl, Event.sendLData.inj hl, htoLeft.1⟩) ?_
      rw [bind_some]
      cases hitem : item datagram with
      | none | some =>
        rw [hitem] at hlink
        exact hlink
  | lose index =>
    cases hstep
    exact hchannel (perturbs_lose index _)
  | duplicate index =>
    cases hstep
    exact hchannel (perturbs_duplicate index _)

theorem System.Valid.step {event : Side × EndEvent} (h : s.Valid) (hstep : s.step event = some s') :
    s'.Valid := by
  obtain ⟨side, event⟩ := event
  cases side with
  | left => exact h.leftStep hstep
  | right =>
    obtain ⟨_, hafter, rfl⟩ := map_eq_some_iff.1 hstep
    exact (h.swap.leftStep hafter).swap

theorem Session.Fresh.numbered {a : Session} (h : a.Fresh) : a.Numbered := by
  refine ⟨⟨[], ⟨by simp, by simp, ?_⟩, ?_⟩, ?_, ?_⟩
  · rw [h.outputs_eq]
    rfl
  · unfold Session.Progress
    rw [h.mode_eq, h.queued_eq, h.acked_eq, h.numbers.1]
    exact ⟨rfl, rfl, rfl⟩
  · rw [h.acked_eq]
    exact Nat.zero_le _
  · rw [h.numbers.2, h.outputs_eq]
    rfl

theorem Session.Fresh.endpoint {a : Session} (h : a.Fresh) :
    a.endpoint.acked = [] ∧ a.endpoint.taken = [] := by
  rw [Session.endpoint, h.acked_eq, h.outputs_eq]
  exact ⟨rfl, rfl⟩

theorem System.Established.valid (h : s.Established) : s.Valid := by
  obtain ⟨htoRight, htoLeft⟩ := h.channels
  refine ⟨h.left.numbered, h.right.numbered, by simp [htoRight], by simp [htoLeft], ?_⟩
  apply Link.valid_of_unsent h.left.endpoint h.right.endpoint
  · simp [link, htoRight]
  · simp [link, htoLeft]

theorem Session.stream_endpoint (a : Session) : a.endpoint.stream = a.queued.map masked := by
  rw [Endpoint.stream, endpoint, ← map_append, take_append_drop]

/-- The transport is reliable: from two connections in the open state, whatever is lost,
duplicated, queued or timed out, each application has got a prefix of the payloads queued at
the other end, up to the transport bits, and each end has sent its payloads in order, each at
most four times and always with the number of its place. -/
theorem connections_reliable {start : System} (hstart : start.Established)
    (hrun : Path System.step anyEvent start s) :
    delivered s.right.outputs <+: s.left.queued.map masked ∧
      delivered s.left.outputs <+: s.right.queued.map masked ∧
      (∃ counts, s.left.Transmits counts) ∧ ∃ counts, s.right.Transmits counts := by
  have hvalid : s.Valid := by
    apply hrun.invariant System.Valid hstart.valid
    intro s event s' hvalid _ hstep
    exact hvalid.step hstep
  obtain ⟨leftCounts, hleft, -⟩ := hvalid.left.inOrder
  obtain ⟨rightCounts, hright, -⟩ := hvalid.right.inOrder
  refine ⟨?_, ?_, ⟨leftCounts, hleft⟩, ⟨rightCounts, hright⟩⟩
  · rw [← stream_endpoint]
    exact hvalid.link.toRight.taken_prefix
  · rw [← stream_endpoint]
    exact hvalid.link.toLeft.taken_prefix

/-- What `SendConnect` leaves of a new connection. -/
def openSession (dest : Addr) : Session :=
  { conn := { dest, mode := .idle, repcount := 0 } }

/-- A payload whose first copy is lost and whose second one is duplicated. -/
theorem connections_reliable_lossy :
    ∃ s, run System.step ⟨openSession 0x1102, openSession 0x1101, [], []⟩
        [(.left, .queue [0x00, 0x80]), (.right, .lose 0), (.left, .timer), (.right, .duplicate 0),
          (.right, .arrive), (.right, .arrive), (.left, .arrive)] = some s ∧
      delivered s.right.outputs = [[0x00, 0x80]] ∧
      (delivered s.right.outputs <+: s.left.queued.map masked ∧
        delivered s.left.outputs <+: s.right.queued.map masked ∧
        (∃ counts, s.left.Transmits counts) ∧ ∃ counts, s.right.Transmits counts) := by
  have hfresh (dest : Addr) : (openSession dest).Fresh := ⟨rfl, ⟨rfl, rfl⟩, rfl, rfl, rfl⟩
  exact exists_state (by decide +kernel) fun s hs hdelivered =>
    ⟨hdelivered, connections_reliable ⟨hfresh _, hfresh _, rfl, rfl⟩ (path_of_run hs)⟩

end Runs

end Knxd.Transport
