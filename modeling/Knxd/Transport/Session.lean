import Knxd.Core.StopAndWait
import Knxd.Transport.Connection

/-!
# Runs of a transport connection

A session is a connection with the history of its run: the payloads that were queued,
how many of them the peer acknowledged, and everything that was put out.  Once it is open,
a connection sends its payloads in order, each with the number of its place modulo 16 and
at most four times.  Two things hold of sessions only on a condition: nothing opens a
connection that was only created, and a closed one still takes the data it expects.
-/

namespace Knxd.Transport

open Memory LPDU Transition StopAndWait List
open BitVec (ofNat)

structure Session where
  conn : TConnection
  queued : List CArray := []
  acked : ℕ := 0
  outputs : List Output := []
  deriving DecidableEq, Repr

/-- One event.  The counter `sendno` moves when an acknowledgement is accepted.  There is
no next state when an assertion fails. -/
def Session.step (s : Session) (event : Event) : Option Session :=
  match s.conn.act event with
  | some (.ok (conn, out)) =>
    some {
      conn
      queued := s.queued ++ event.payload
      acked := if conn.sendno = s.conn.sendno then s.acked else s.acked + 1
      outputs := s.outputs ++ out }
  | _ => none

/-- The payloads given to the application; the empty array only says that the connection
was closed. -/
def delivered (outputs : List Output) : List CArray :=
  outputs.filterMap fun
    | .send data => if data = [] then none else some data
    | _ => none

def dataOf : Output → Option (Byte × CArray)
  | .recvLData l =>
    match fromPacket l.data with
    | .ok (.dataConnectedReq serno data) => some (serno, masked data)
    | _ => none
  | _ => none

def dataFrames (outputs : List Output) : List (Byte × CArray) :=
  outputs.filterMap dataOf

def numbered (queued : List CArray) : List (Byte × CArray) :=
  queued.mapIdx fun index payload => (BitVec.ofNat 8 (index % 16), masked payload)

/-- The data frames are the first payloads in order, each sent between one and four times
with the number of its place. -/
def Session.Transmits (s : Session) (counts : List ℕ) : Prop :=
  counts.length ≤ s.queued.length ∧ (∀ count ∈ counts, 1 ≤ count ∧ count ≤ 4) ∧
    dataFrames s.outputs = repeats counts (numbered s.queued)

/-! ## Steps -/

variable {c c' : TConnection} {s s' : Session} {event : Event} {out : List Output} {counts : List ℕ}
variable {rest : List CArray} {payload : CArray}

theorem step_cases (hstep : s.step event = some s') :
    ∃ out, Acts s.conn event s'.conn out ∧ s'.queued = s.queued ++ event.payload ∧
      s'.acked = (if s'.conn.sendno = s.conn.sendno then s.acked else s.acked + 1) ∧
      s'.outputs = s.outputs ++ out := by
  unfold Session.step at hstep
  split at hstep
  · next conn out hact =>
    cases hstep
    exact ⟨out, acts_of_act hact, rfl, rfl, rfl⟩
  · cases hstep

@[simp]
theorem dataFrames_append (first second : List Output) :
    dataFrames (first ++ second) = dataFrames first ++ dataFrames second :=
  filterMap_append

theorem dataFrames_cons (output : Output) (outputs : List Output) :
    dataFrames (output :: outputs) = (dataOf output).toList ++ dataFrames outputs := by
  rw [dataFrames, filterMap_cons]
  cases dataOf output <;> rfl

theorem DataFrame.dataOf {data : CArray} {l : LDataPDU} (hframe : DataFrame c data l) :
    dataOf (.recvLData l) = some (ofNat 8 c.sendno, masked data) := by
  obtain ⟨_, hpacket, rfl⟩ := hframe
  obtain ⟨hread, hmasked, -⟩ := fromPacket_of_data hpacket
  simp only [Transport.dataOf, peerFrame, hread, hmasked]

theorem AckFrame.dataOf {serno : ℕ} {l : LDataPDU} (hframe : AckFrame c serno l) :
    dataOf (.recvLData l) = none := by
  obtain ⟨_, hpacket, rfl⟩ := hframe
  simp only [Transport.dataOf, peerFrame, fromPacket_of_ack hpacket]

theorem dataFrames_of_sendNext {next : List Output} (hnext : ∀ output ∈ next, output = .sendNext) :
    dataFrames next = [] := by
  rw [dataFrames, filterMap_eq_nil_iff]
  intro output houtput
  rw [hnext output houtput]
  rfl

/-! ## The numbers of the payloads -/

def Session.Progress (s : Session) (counts : List ℕ) : Prop :=
  match s.conn.mode with
  | .closed => True
  | .idle => s.conn.sendno = s.acked % 16 ∧ s.queued.drop s.acked = s.conn.input ∧
      counts.length = s.acked
  | .ackWait => s.conn.sendno = s.acked % 16 ∧
      s.queued.drop s.acked = s.conn.current :: s.conn.input ∧
      ∃ earlier, counts = earlier ++ [s.conn.repcount + 1] ∧ earlier.length = s.acked

open Session (Progress)

def Session.InOrder (s : Session) : Prop :=
  ∃ counts, s.Transmits counts ∧ s.Progress counts

theorem numbered_append (queued more : List CArray) :
    ∃ rest, numbered (queued ++ more) = numbered queued ++ rest := by
  rw [numbered, mapIdx_append]
  exact ⟨_, rfl⟩

theorem numbered_getElem? {queued rest : List CArray} {place : ℕ}
    (hplace : queued.drop place = payload :: rest) :
    (numbered queued)[place]? = some (ofNat 8 (place % 16), masked payload) := by
  have hget : queued[place]? = some payload := by
    rw [← head?_drop, hplace]
    rfl
  rw [numbered, getElem?_mapIdx, hget]
  rfl

/-- Payloads behind those that were sent. -/
theorem Session.Transmits.extend (h : s.Transmits counts) {more : List CArray}
    (hqueued : s'.queued = s.queued ++ more)
    (hframes : dataFrames s'.outputs = dataFrames s.outputs) : s'.Transmits counts := by
  obtain ⟨hlength, hcounts, hdata⟩ := h
  obtain ⟨_, hrest⟩ := numbered_append s.queued more
  have hplaces : counts.length ≤ (numbered s.queued).length := by
    simpa [numbered] using hlength
  refine ⟨?_, hcounts, ?_⟩
  · rw [hqueued, length_append]
    omega
  · rw [hframes, hdata, hqueued, hrest, repeats_extend hplaces]

/-- The first copy of the next payload. -/
theorem Session.Transmits.start (h : s.Transmits counts)
    (hnext : s.queued.drop counts.length = payload :: rest) (hqueued : s'.queued = s.queued)
    (hframes : dataFrames s'.outputs = dataFrames s.outputs ++
      [(ofNat 8 (counts.length % 16), masked payload)]) : s'.Transmits (counts ++ [1]) := by
  obtain ⟨_, hcounts, hdata⟩ := h
  have hpending : counts.length < s.queued.length := by
    have hdrop := congrArg length hnext
    rw [length_drop, length_cons] at hdrop
    omega
  refine ⟨?_, ?_, ?_⟩
  · rw [hqueued, length_append, length_singleton]
    omega
  · simpa [or_imp, forall_and] using hcounts
  · rw [hframes, hdata, hqueued, repeats_concat (numbered_getElem? hnext)]
    rfl

/-- A further copy of the last payload sent. -/
theorem Session.Transmits.again {earlier : List ℕ} {count : ℕ}
    (h : s.Transmits (earlier ++ [count])) (hcount : count < 4)
    (hlast : s.queued.drop earlier.length = payload :: rest) (hqueued : s'.queued = s.queued)
    (hframes : dataFrames s'.outputs = dataFrames s.outputs ++
      [(ofNat 8 (earlier.length % 16), masked payload)]) :
    s'.Transmits (earlier ++ [count + 1]) := by
  obtain ⟨hlength, hcounts, hdata⟩ := h
  refine ⟨?_, ?_, ?_⟩
  · simpa [hqueued] using hlength
  · intro other hother
    rcases mem_append.1 hother with hother | hother
    · exact hcounts other (mem_append_left _ hother)
    · rw [mem_singleton.1 hother]
      omega
  · rw [hframes, hdata, hqueued, repeats_again (numbered_getElem? hlast)]

theorem Session.Transmits.drop_append (h : s.Transmits counts) {place : ℕ}
    (hplace : place ≤ counts.length) (more : List CArray) :
    (s.queued ++ more).drop place = s.queued.drop place ++ more :=
  drop_append_of_le_length (hplace.trans h.1)

/-- What the receiving half does is nothing to the sending half. -/
theorem Session.InOrder.receive (h : s.InOrder) {recvno : ℕ}
    (hconn : s'.conn = { s.conn with recvno }) (hqueued : s'.queued = s.queued ++ [])
    (hacked : s'.acked = s.acked) (hframes : dataFrames s'.outputs = dataFrames s.outputs ++ []) :
    s'.InOrder := by
  obtain ⟨counts, htransmits, hprogress⟩ := h
  refine ⟨counts, htransmits.extend hqueued (hframes.trans (append_nil _)), ?_⟩
  unfold Progress at hprogress ⊢
  rw [hconn, hqueued, append_nil, hacked]
  exact hprogress

/-- The first copy of the payload that all others before it were acknowledged for. -/
theorem Session.Transmits.inOrder_start (h : s.Transmits counts) {current : CArray}
    {input : List CArray} (hnext : s.queued.drop counts.length = current :: input)
    (hmode : s'.conn.mode = .ackWait) (hsendno : s'.conn.sendno = counts.length % 16)
    (hcurrent : s'.conn.current = current) (hinput : s'.conn.input = input)
    (hcount : s'.conn.repcount = 0) (hqueued : s'.queued = s.queued)
    (hacked : s'.acked = counts.length)
    (hframes : dataFrames s'.outputs = dataFrames s.outputs ++
      [(ofNat 8 s'.conn.sendno, masked current)]) : s'.InOrder := by
  rw [hsendno] at hframes
  refine ⟨counts ++ [1], h.start hnext hqueued hframes, ?_⟩
  unfold Progress
  rw [hmode, hqueued, hacked, hcurrent, hinput, hcount]
  exact ⟨hsendno, hnext, counts, rfl, rfl⟩

/-- What a connection knows that waits for an acknowledgement. -/
theorem Session.InOrder.waiting (h : s.InOrder) (hmode : s.conn.mode = .ackWait) :
    s.conn.sendno = s.acked % 16 ∧ s.queued.drop s.acked = s.conn.current :: s.conn.input ∧
      ∃ earlier, s.Transmits (earlier ++ [s.conn.repcount + 1]) ∧ earlier.length = s.acked := by
  obtain ⟨_, htransmits, hprogress⟩ := h
  unfold Progress at hprogress
  rw [hmode] at hprogress
  obtain ⟨hsendno, hdrop, earlier, rfl, hearlier⟩ := hprogress
  exact ⟨hsendno, hdrop, earlier, htransmits, hearlier⟩

/-- The payloads behind the outstanding one. -/
theorem drop_acked_succ (hdrop : s.queued.drop s.acked = payload :: rest) :
    s.queued.drop (s.acked + 1) = rest := by
  rw [← tail_drop, hdrop, tail_cons]

/-- The step lemma: an open connection goes on numbering its payloads by their places. -/
theorem Session.InOrder.step (h : s.InOrder) (hevent : event ≠ .sendConnect)
    (hstep : s.step event = some s') : s'.InOrder := by
  obtain ⟨out, hacts, hqueued, hacked, houtputs⟩ := step_cases hstep
  have hframes : dataFrames s'.outputs = dataFrames s.outputs ++ dataFrames out := by
    rw [houtputs, dataFrames_append]
  obtain ⟨_, queued', _, _⟩ := s'
  dsimp only at hacts hqueued hacked hframes
  cases hacts with
  | connects => exact (hevent rfl).elim
  | stops _ _ _ hnext =>
    obtain ⟨counts, htransmits, -⟩ := h
    rw [dataFrames_cons, dataFrames_cons, dataFrames_of_sendNext hnext] at hframes
    exact ⟨counts, htransmits.extend hqueued (hframes.trans (append_nil _)), trivial⟩
  | ignores =>
    rw [if_pos rfl] at hacked
    exact h.receive rfl hqueued hacked hframes
  | takes _ _ _ _ _ _ hack =>
    rw [if_pos rfl] at hacked
    rw [dataFrames_cons, dataFrames_cons, hack.dataOf] at hframes
    exact h.receive rfl hqueued hacked hframes
  | takesAgain _ _ _ _ _ _ _ hack =>
    rw [if_pos rfl] at hacked
    rw [dataFrames_cons, hack.dataOf] at hframes
    exact h.receive rfl hqueued hacked hframes
  | queues _ hmode =>
    rw [if_pos rfl] at hacked
    obtain ⟨counts, htransmits, hprogress⟩ := h
    refine ⟨counts, htransmits.extend hqueued (hframes.trans (append_nil _)), ?_⟩
    unfold Progress at hprogress ⊢
    dsimp only
    cases hcase : s.conn.mode with
    | closed => trivial
    | idle => exact (hmode hcase).elim
    | ackWait =>
      rw [hcase] at hprogress
      obtain ⟨hsendno, hdrop, earlier, rfl, hearlier⟩ := hprogress
      refine ⟨hacked ▸ hsendno, ?_, earlier, rfl, hearlier.trans hacked.symm⟩
      rw [hqueued, hacked, Event.payload, htransmits.drop_append (by simp [hearlier]), hdrop,
        cons_append]
  | starts data current input l hmode hinput hframe =>
    rw [if_pos rfl] at hacked
    obtain ⟨counts, htransmits, hprogress⟩ := h
    unfold Progress at hprogress
    rw [hmode] at hprogress
    obtain ⟨hsendno, hdrop, hcounts⟩ := hprogress
    -- the payload joins the queue before the head of the queue is sent
    let joined : Session := { s with queued := s.queued ++ [data] }
    have hjoined : joined.Transmits counts := htransmits.extend rfl rfl
    have hnext : joined.queued.drop counts.length = current :: input := by
      rw [htransmits.drop_append le_rfl, hcounts, hdrop, hinput]
    refine hjoined.inOrder_start hnext rfl (hsendno.trans (by rw [hcounts])) rfl rfl rfl hqueued
      (hacked.trans hcounts.symm) ?_
    rw [hframes, dataFrames_cons, hframe.dataOf]
    rfl
  | repeats _ _ _ _ hpayload hmode _ hframe hnext =>
    rw [if_pos rfl] at hacked
    obtain ⟨hsendno, hdrop, earlier, htransmits, hearlier⟩ := h.waiting hmode
    have hsame : queued' = s.queued := by rw [hqueued, hpayload, append_nil]
    rw [dataFrames_cons, hframe.dataOf, dataFrames_of_sendNext hnext, hsendno,
      ← hearlier] at hframes
    refine ⟨earlier ++ [s.conn.repcount + 1 + 1],
      htransmits.again (by omega) (hearlier ▸ hdrop) hsame hframes, ?_⟩
    unfold Progress
    dsimp only
    rw [hmode, hsame, hacked]
    exact ⟨hsendno, hdrop, earlier, rfl, hearlier⟩
  | finishes _ _ _ _ hmode =>
    have hmoved : (s.conn.sendno + 1) % 16 ≠ s.conn.sendno := by omega
    rw [if_neg hmoved] at hacked
    obtain ⟨hsendno, hdrop, earlier, htransmits, hearlier⟩ := h.waiting hmode
    refine ⟨_, htransmits.extend hqueued (hframes.trans (append_nil _)), ?_, ?_, ?_⟩
    · rw [hacked, hsendno, Nat.mod_add_mod]
    · rw [hacked, show queued' = s.queued from hqueued.trans (append_nil _), drop_acked_succ hdrop]
    · rw [hacked, length_append, hearlier, length_singleton]
  | advances _ _ _ current input _ _ hmode hinput hframe =>
    have hmoved : (s.conn.sendno + 1) % 16 ≠ s.conn.sendno := by omega
    rw [if_neg hmoved] at hacked
    obtain ⟨hsendno, hdrop, earlier, htransmits, hearlier⟩ := h.waiting hmode
    have hlength : (earlier ++ [s.conn.repcount + 1]).length = s.acked + 1 := by
      rw [length_append, hearlier, length_singleton]
    have hrest : s.queued.drop (s.acked + 1) = current :: input :=
      (drop_acked_succ hdrop).trans hinput
    refine htransmits.inOrder_start (hlength ▸ hrest) rfl ?_ rfl rfl rfl
      (hqueued.trans (append_nil _)) (hacked.trans hlength.symm) ?_
    · rw [hlength, hsendno, Nat.mod_add_mod]
    · rw [hframes, dataFrames_cons, hframe.dataOf]
      rfl

/-! ## A closed connection -/

/-- A frame that neither carries nor acknowledges data, or the news that the connection was
closed. -/
def Output.Silent : Output → Prop
  | .recvLData l =>
    match fromPacket l.data with
    | .ok (.dataConnectedReq _ _) | .ok (.ack _) | .ok (.nack _) => False
    | _ => True
  | .send data => data = []
  | .sendNext => True

/-- `stop()` was called. -/
def Session.Stopped (s : Session) : Prop :=
  .send [] ∈ s.outputs
  deriving Decidable

def TConnection.expects (c : TConnection) (l : LDataPDU) : Bool :=
  match fromPacket l.data with
  | .ok (.dataConnectedReq serno _) => serno.toNat = c.recvno || serno.toNat = previous c.recvno
  | _ => false

def TConnection.disturbs (c : TConnection) : Event → Bool
  | .sendConnect => true
  | .sendLData l => c.expects l
  | _ => false

/-- After `stop()` no data with the expected or the last number arrives, and nobody opens the
connection again. -/
def Undisturbed (s : Session) (event : Event) : Prop :=
  s.Stopped → s.conn.disturbs event = false
  deriving Decidable

theorem silent_disconnectFrame (dest : Addr) :
    (Output.recvLData (disconnectFrame dest)).Silent := trivial

theorem silent_of_sendNext {next : List Output} (hnext : ∀ output ∈ next, output = .sendNext) :
    ∀ output ∈ next, output.Silent := by
  intro output houtput
  rw [hnext output houtput]
  trivial

/-- A closed connection that is not sent the data it expects stays closed and is silent. -/
theorem Acts.silent_of_closed (hacts : Acts c event c' out) (hmode : c.mode = .closed)
    (hquiet : c.disturbs event = false) : c'.mode = .closed ∧ ∀ output ∈ out, output.Silent := by
  cases hacts with
  | connects => cases hquiet
  | stops _ _ _ hnext =>
    refine ⟨rfl, ?_⟩
    rw [forall_mem_cons, forall_mem_cons]
    exact ⟨silent_disconnectFrame _, rfl, silent_of_sendNext hnext⟩
  | ignores => exact ⟨hmode, silent_of_sendNext (by simp)⟩
  | queues => exact ⟨hmode, by simp⟩
  | takes _ _ _ _ htpdu hserno | takesAgain _ _ _ _ htpdu hserno =>
    simp [TConnection.disturbs, TConnection.expects, htpdu, hserno] at hquiet
  | starts _ _ _ _ hidle => cases hmode.symm.trans hidle
  | repeats _ _ _ _ _ hwait | finishes _ _ _ _ hwait | advances _ _ _ _ _ _ _ hwait =>
    cases hmode.symm.trans hwait

/-- Only `stop()` gives the empty array to the application. -/
theorem Acts.closed_of_send_nil (hacts : Acts c event c' out) (hsend : .send [] ∈ out) :
    c'.mode = .closed := by
  cases hacts with
  | stops => rfl
  | takes _ _ data _ htpdu =>
    have hempty : [] = masked data := by simpa using hsend
    exact (masked_ne_nil htpdu hempty.symm).elim
  | repeats _ _ _ _ _ _ _ _ hnext =>
    rcases mem_cons.1 hsend with hsend | hsend
    · cases hsend
    · cases hnext _ hsend
  | _ => simp at hsend

theorem step_undisturbed (hclosed : s.Stopped → s.conn.mode = .closed)
    (hallowed : Undisturbed s event) (hstep : s.step event = some s') :
    (s'.Stopped → s'.conn.mode = .closed) ∧
      (s.Stopped → ∃ out, s'.outputs = s.outputs ++ out ∧ ∀ output ∈ out, output.Silent) := by
  obtain ⟨out, hacts, -, -, houtputs⟩ := step_cases hstep
  constructor
  · intro hstopped
    rw [Session.Stopped, houtputs, mem_append] at hstopped
    rcases hstopped with hbefore | hnow
    · exact (hacts.silent_of_closed (hclosed hbefore) (hallowed hbefore)).1
    · exact hacts.closed_of_send_nil hnow
  · intro hstopped
    exact ⟨out, houtputs, (hacts.silent_of_closed (hclosed hstopped) (hallowed hstopped)).2⟩

theorem closed_of_stopped (hrun : Path Session.step Undisturbed { conn := c } s) :
    s.Stopped → s.conn.mode = .closed := by
  apply hrun.invariant fun s => s.Stopped → s.conn.mode = .closed
  · intro hstopped
    cases hstopped
  · intro s event s' hclosed hallowed hstep
    exact (step_undisturbed hclosed hallowed hstep).1

/-- A closed connection is silent: whatever state a connection starts in, after `stop()` was
called nothing is delivered and neither data nor an acknowledgement is sent. -/
theorem closed_silent (hrun : Path Session.step Undisturbed { conn := c } s) (hstopped : s.Stopped)
    (hlater : Path Session.step Undisturbed s s') :
    ∃ out, s'.outputs = s.outputs ++ out ∧ ∀ output ∈ out, output.Silent := by
  induction hlater with
  | refl => exact ⟨[], (append_nil _).symm, by simp⟩
  | @step before _ _ hpath hallowed hstep ih =>
    obtain ⟨out, hout, hsilent⟩ := ih
    have hstill : before.Stopped := by
      rw [Session.Stopped, hout]
      exact mem_append_left _ hstopped
    have hclosed := closed_of_stopped (hrun.trans hpath)
    obtain ⟨more, hmore, hquiet⟩ := (step_undisturbed hclosed hallowed hstep).2 hstill
    refine ⟨out ++ more, by rw [hmore, hout, append_assoc], ?_⟩
    intro output houtput
    rcases mem_append.1 houtput with houtput | houtput
    · exact hsilent output houtput
    · exact hquiet output houtput

/-- The peer disconnects and then sends data with a far number; the client queues data and
closes the connection. -/
theorem closed_silent_disconnected :
    ∃ s s', runAllowed Session.step Undisturbed { conn := .create 0x1101 0 }
        [.sendLData { data := [0x81] }] = some s ∧ s.Stopped ∧
      runAllowed Session.step Undisturbed s
        [.sendLData { data := [0x48, 0x80] }, .recvData [0x00, 0x80], .stop] = some s' ∧
      ∃ out, s'.outputs = s.outputs ++ out ∧ ∀ output ∈ out, output.Silent := by
  obtain ⟨s, s', hs, hstopped, hs'⟩ : ∃ s s', runAllowed Session.step Undisturbed
      { conn := .create 0x1101 0 } [.sendLData { data := [0x81] }] = some s ∧ s.Stopped ∧
      runAllowed Session.step Undisturbed s
        [.sendLData { data := [0x48, 0x80] }, .recvData [0x00, 0x80], .stop] = some s' :=
    ⟨_, _, rfl, by decide, rfl⟩
  exact ⟨s, s', hs, hstopped, hs',
    closed_silent (path_of_runAllowed hs) hstopped (path_of_runAllowed hs')⟩

/-- After the peer has disconnected, data with the number 0 is delivered and acknowledged. -/
theorem closed_takes_data :
    ∃ s s', run Session.step { conn := .create 0x1101 0 } [.sendLData { data := [0x81] }] = some s ∧
      s.Stopped ∧ run Session.step s [.sendLData { data := [0x40, 0x80] }] = some s' ∧
      s'.outputs = s.outputs ++
        [.send [0x00, 0x80], .recvLData (peerFrame 0x1101 .low [0xC2]), .sendNext] ∧
      ¬ (Output.send [0x00, 0x80]).Silent ∧
      ¬ (Output.recvLData (peerFrame 0x1101 .low [0xC2])).Silent := by
  refine ⟨_, _, rfl, ?_, rfl, rfl, ?_, ?_⟩
  · decide
  · nofun
  · exact id

/-! ## Opening a connection -/

/-- The request to connect was sent. -/
def Session.Opened (s : Session) : Prop :=
  .recvLData (connectFrame s.conn.dest) ∈ s.outputs
  deriving Decidable

/-- Payloads are queued after `SendConnect` was called, or after the connection was closed; a second
call finds nothing outstanding and the numbers at their start. -/
def OpensFirst (s : Session) : Event → Prop
  | .sendConnect => s.Opened → s.conn.mode = .idle ∧ s.conn.sendno = 0
  | .recvData _ => s.Opened ∨ s.Stopped
  | _ => True

instance (s : Session) : (event : Event) → Decidable (OpensFirst s event)
  | .sendConnect => inferInstanceAs (Decidable (s.Opened → _))
  | .recvData _ => inferInstanceAs (Decidable (s.Opened ∨ s.Stopped))
  | .sendLData _ | .timerCb | .stop => inferInstanceAs (Decidable True)

/-- The invariant: a connection that is not open yet has sent nothing, and an open one sends in
order and keeps nothing back unless it was closed. -/
structure Session.Opening (s : Session) : Prop where
  created : ¬ s.Opened → s.conn.mode = .closed ∧ s.conn.input = s.queued ∧ s.conn.sendno = 0 ∧
    (¬ s.Stopped → s.queued = []) ∧ s.acked = 0 ∧ dataFrames s.outputs = []
  opened : s.Opened → s.InOrder ∧ (¬ s.Stopped → s.conn.mode = .idle → s.conn.input = []) ∧
    (s.conn.mode = .closed → s.Stopped)
  connected_first : ∀ before, before <+: s.outputs → dataFrames before ≠ [] →
    .recvLData (connectFrame s.conn.dest) ∈ before

theorem Acts.dest_eq (hacts : Acts c event c' out) : c'.dest = c.dest := by
  cases hacts <;> rfl

theorem DataFrame.ne_connectFrame {data : CArray} {l : LDataPDU} (hframe : DataFrame c data l)
    (dest : Addr) : l ≠ connectFrame dest := by
  rintro rfl
  obtain ⟨_, hpacket, hl⟩ := hframe
  cases congrArg LDataPDU.data hl
  cases (fromPacket_of_data hpacket).1

theorem AckFrame.ne_connectFrame {serno : ℕ} {l : LDataPDU} (hframe : AckFrame c serno l)
    (dest : Addr) : l ≠ connectFrame dest := by
  rintro rfl
  obtain ⟨_, hpacket, hl⟩ := hframe
  cases congrArg LDataPDU.data hl
  cases fromPacket_of_ack hpacket

/-- Only `SendConnect`, which opens the connection, sends the request to connect. -/
theorem Acts.idle_of_connect {dest : Addr} (hacts : Acts c event c' out)
    (hmem : .recvLData (connectFrame dest) ∈ out) : c'.mode = .idle := by
  cases hacts with
  | connects => rfl
  | stops _ _ _ hnext =>
    rcases mem_cons.1 hmem with hmem | hmem
    · cases congrArg LDataPDU.data (Output.recvLData.inj hmem)
    rcases mem_cons.1 hmem with hmem | hmem
    · cases hmem
    · cases hnext _ hmem
  | starts _ _ _ l _ _ hframe =>
    have hl : connectFrame dest = l := by simpa using hmem
    exact (hframe.ne_connectFrame dest hl.symm).elim
  | repeats _ _ _ _ _ _ _ hframe hnext =>
    rcases mem_cons.1 hmem with hmem | hmem
    · exact (hframe.ne_connectFrame dest (Output.recvLData.inj hmem).symm).elim
    · cases hnext _ hmem
  | takes _ ack _ _ _ _ hack | takesAgain _ ack _ _ _ _ _ hack =>
    have hl : connectFrame dest = ack := by simpa using hmem
    exact (hack.ne_connectFrame dest hl.symm).elim
  | advances _ next _ _ _ _ _ _ _ hframe =>
    have hl : connectFrame dest = next := by simpa using hmem
    exact (hframe.ne_connectFrame dest hl.symm).elim
  | _ => simp at hmem

/-- A closed connection is opened, or only stores what is queued. -/
theorem Acts.of_closed (hacts : Acts c event c' out) (hmode : c.mode = .closed) :
    event = .sendConnect ∧
        c' = { c with mode := .idle, sendno := 0, recvno := 0, repcount := 0 } ∧
        out = [.recvLData (connectFrame c.dest)] ∨
      c'.mode = .closed ∧ c'.input = c.input ++ event.payload ∧ c'.sendno = c.sendno ∧
        dataFrames out = [] := by
  cases hacts with
  | connects => exact .inl ⟨rfl, rfl, rfl⟩
  | stops _ _ hevent hnext =>
    refine .inr ⟨rfl, by rw [hevent, append_nil], rfl, ?_⟩
    rw [dataFrames_cons, dataFrames_cons, dataFrames_of_sendNext hnext]
    rfl
  | ignores => exact .inr ⟨hmode, (append_nil _).symm, rfl, rfl⟩
  | queues => exact .inr ⟨hmode, rfl, rfl, rfl⟩
  | takes _ _ _ _ _ _ hack =>
    refine .inr ⟨hmode, (append_nil _).symm, rfl, ?_⟩
    rw [dataFrames_cons, dataFrames_cons, hack.dataOf]
    rfl
  | takesAgain _ _ _ _ _ _ _ hack =>
    refine .inr ⟨hmode, (append_nil _).symm, rfl, ?_⟩
    rw [dataFrames_cons, hack.dataOf]
    rfl
  | starts _ _ _ _ hidle => cases hmode.symm.trans hidle
  | repeats _ _ _ _ _ hwait | finishes _ _ _ _ hwait | advances _ _ _ _ _ _ _ hwait =>
    cases hmode.symm.trans hwait

/-- An open connection keeps nothing back while it waits for nothing, and only `stop()`
closes it. -/
theorem Acts.of_open (hacts : Acts c event c' out) (hconnect : event ≠ .sendConnect) :
    ((c.mode = .idle → c.input = []) → c'.mode = .idle → c'.input = []) ∧
      (c'.mode = .closed → c.mode = .closed ∨ .send [] ∈ out) := by
  cases hacts with
  | connects => exact (hconnect rfl).elim
  | stops => exact ⟨fun _ => nofun, fun _ => .inr (by simp)⟩
  | queues _ hbusy => exact ⟨fun _ hmode => (hbusy hmode).elim, .inl⟩
  | starts | advances =>
    exact ⟨fun _ => nofun, nofun⟩
  | repeats _ _ _ _ _ hwait =>
    exact ⟨fun _ hmode => (by cases hmode.symm.trans hwait), .inl⟩
  | finishes _ _ _ _ _ hinput => exact ⟨fun _ _ => hinput, nofun⟩
  | _ => exact ⟨id, .inl⟩

/-- A second request to connect that finds the numbers at their start. -/
theorem Session.InOrder.connect (h : s.InOrder) (hmode : s.conn.mode = .idle)
    (hsendno : s.conn.sendno = 0) (hstep : s.step .sendConnect = some s')
    (hidle : ¬ s.Stopped → s.conn.mode = .idle → s.conn.input = []) :
    s'.InOrder ∧ (¬ s'.Stopped → s'.conn.mode = .idle → s'.conn.input = []) ∧
      (s'.conn.mode = .closed → s'.Stopped) := by
  obtain ⟨counts, htransmits, hprogress⟩ := h
  cases hstep
  have hsame : (if 0 = s.conn.sendno then s.acked else s.acked + 1) = s.acked := if_pos hsendno.symm
  unfold Progress at hprogress
  rw [hmode] at hprogress
  obtain ⟨hnumber, hdrop, hcounts⟩ := hprogress
  refine ⟨⟨counts, htransmits.extend rfl ?_, ?_⟩, fun hstopped _ => ?_, nofun⟩
  · rw [dataFrames_append]
    exact append_nil _
  · change 0 = _ % 16 ∧ (s.queued ++ []).drop _ = s.conn.input ∧ counts.length = _
    rw [hsame, append_nil]
    exact ⟨hsendno.symm.trans hnumber, hdrop, hcounts⟩
  · exact hidle (mt (mem_append_left _) hstopped) hmode

theorem Session.Opening.step (h : s.Opening) (hallowed : OpensFirst s event)
    (hstep : s.step event = some s') : s'.Opening := by
  obtain ⟨out, hacts, hqueued, hacked, houtputs⟩ := step_cases hstep
  have hdest := hacts.dest_eq
  have hbefore : ∀ before, before <+: s'.outputs → before <+: s.outputs ∨ s.outputs <+: before := by
    intro before hprefix
    rw [houtputs] at hprefix
    exact prefix_or_prefix_of_prefix hprefix (prefix_append _ _)
  have hstops : ¬ s'.Stopped → ¬ s.Stopped := by
    rw [Session.Stopped, houtputs]
    exact mt (mem_append_left _)
  by_cases hopened : s.Opened
  · have hopened' : s'.Opened := by
      rw [Session.Opened, hdest, houtputs]
      exact mem_append_left _ hopened
    obtain ⟨hinOrder, hidle, hclosed⟩ := h.opened hopened
    refine ⟨fun hnot => (hnot hopened').elim, fun _ => ?_, ?_⟩
    · by_cases hconnect : event = .sendConnect
      · subst hconnect
        obtain ⟨hmode, hsendno⟩ := hallowed hopened
        exact hinOrder.connect hmode hsendno hstep hidle
      · obtain ⟨hidle', hclosed'⟩ := hacts.of_open hconnect
        refine ⟨hinOrder.step hconnect hstep, fun hstopped => hidle' (hidle (hstops hstopped)),
          fun hmode => ?_⟩
        rw [Session.Stopped, houtputs, mem_append]
        exact (hclosed' hmode).imp_left hclosed
    · intro before hprefix hdata
      rw [hdest]
      rcases hbefore before hprefix with hshort | hlong
      · exact h.connected_first before hshort hdata
      · exact hlong.subset hopened
  · obtain ⟨hmode, hinput, hsendno, hnothing, hzero, hframes⟩ := h.created hopened
    -- neither the request to connect nor a closed connection sends data
    have hnone (hout : dataFrames out = []) : dataFrames s'.outputs = [] := by
      rw [houtputs, dataFrames_append, hframes, hout]
      rfl
    have hfirst (hout : dataFrames out = []) : ∀ before, before <+: s'.outputs →
        dataFrames before ≠ [] → .recvLData (connectFrame s'.conn.dest) ∈ before := by
      intro before hprefix hdata
      have hsub := hprefix.sublist.filterMap dataOf
      rw [show s'.outputs.filterMap dataOf = [] from hnone hout, sublist_nil] at hsub
      exact (hdata hsub).elim
    rcases hacts.of_closed hmode with ⟨rfl, hconn, rfl⟩ | ⟨hmode', hinput', hsendno', hout⟩
    · rw [hconn, hsendno, if_pos rfl, hzero] at hacked
      replace hqueued : s'.queued = s.queued := hqueued.trans (append_nil _)
      have hopened' : s'.Opened := by
        rw [Session.Opened, hdest, houtputs]
        simp
      refine ⟨fun hnot => (hnot hopened').elim, fun _ => ⟨⟨[], ?_, ?_⟩, fun hstopped _ => ?_, ?_⟩,
        hfirst rfl⟩
      · exact ⟨Nat.zero_le _, by simp, hnone rfl⟩
      · unfold Progress
        rw [hconn, hqueued, hacked]
        exact ⟨rfl, hinput.symm, rfl⟩
      · rw [hconn]
        exact hinput.trans (hnothing (hstops hstopped))
      · rw [hconn]
        exact nofun
    · rw [hsendno', if_pos rfl, hzero] at hacked
      refine ⟨fun _ => ⟨hmode', ?_, hsendno'.trans hsendno, fun hstopped => ?_, hacked, hnone hout⟩,
        fun hopened' => ?_, hfirst hout⟩
      · rw [hinput', hinput, hqueued]
      · have hpayload : event.payload = [] := by
          cases event with
          | recvData => exact (hallowed.elim hopened (hstops hstopped)).elim
          | _ => rfl
        rw [hqueued, hpayload, hnothing (hstops hstopped)]
        rfl
      · rw [Session.Opened, hdest, houtputs, mem_append] at hopened'
        rcases hopened' with hbefore | hnow
        · exact (hopened hbefore).elim
        · cases hmode'.symm.trans (hacts.idle_of_connect hnow)

end Knxd.Transport
