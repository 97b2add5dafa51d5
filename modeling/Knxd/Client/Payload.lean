import Knxd.Client.System

/-!
# Payloads of clients on their way to the bus

The size of a message is checked once, when a connection gets it: it has to hold the header.
What follows is asserted four layers below.  The transport layer wants at least one byte
when it encodes the message, and the frame at least one and at most 255 when the router
encodes it for its list of frames sent.  A client can send less and more.

A `T_Connection` would have the same assertions, but nothing opens it, so that what a client
sends over it stays in its queue.
-/

namespace Knxd.Clients

open Memory LPDU Transport Traffic List AConn
open IOBuf (bufSize)
open Transition (Path anyEvent run exists_path)

def AConn.Unopened : AConn → Prop
  | .connection c => c.mode = .closed
  | _ => True

def ClientConnection.Unopened (con : ClientConnection) : Prop :=
  ∀ conn, con.aConn = some conn → conn.Unopened

section Unopened

variable {conn conn' : AConn} {con con' : ClientConnection} {out : List Output}

theorem unopened_create {kind : ConnKind} {answers : Answers} {buf : CArray}
    (hcreate : kind.create answers buf = .ok conn) : conn.Unopened := by
  cases kind with
  | broadcast | tpdu | groupSocket =>
    obtain ⟨_, _, hresult⟩ := bind_eq_ok_iff.1 hcreate
    cases hresult
    trivial
  | connection =>
    obtain ⟨_, _, hresult⟩ := bind_eq_ok_iff.1 hcreate
    cases hresult
    rfl
  | group | individual =>
    obtain ⟨_, _, hflag⟩ := bind_eq_ok_iff.1 hcreate
    obtain ⟨_, _, hresult⟩ := bind_eq_ok_iff.1 hflag
    cases hresult
    trivial

theorem AConn.Unopened.reacts (hconn : conn.Unopened) (hreacts : Reacts conn conn' out) :
    conn'.Unopened := by
  cases hreacts with
  | frame | silent => exact hconn
  | transport _ hacts hevent =>
    rcases hacts.of_closed hconn with ⟨hconnect, -⟩ | ⟨hclosed, -⟩
    · exact (hevent hconnect).elim
    · exact hclosed

/-- No callback of a client opens a transport connection. -/
theorem ClientConnection.Unopened.turns (hcon : con.Unopened) (hturns : Turns con con' out) :
    con'.Unopened := by
  intro conn hconn
  cases hturns with
  | stays => exact hcon conn hconn
  | closes hnone =>
    rw [hnone] at hconn
    cases hconn
  | monitors =>
    cases hconn
    trivial
  | opens hcreate =>
    cases hconn
    exact unopened_create hcreate
  | reacts hbefore hreacts =>
    cases hconn
    exact (hcon _ hbefore).reacts hreacts

theorem unopened_update {conns : ℕ → Option AConn} {id other : ℕ} {new : Option AConn}
    (hconns : ∀ conn, conns id = some conn → conn.Unopened)
    (hnew : id = other → ∀ conn, new = some conn → conn.Unopened) :
    ∀ conn, Function.update conns other new id = some conn → conn.Unopened := by
  by_cases hid : id = other
  · subst hid
    rw [Function.update_self]
    exact hnew rfl
  · rw [Function.update_of_ne hid]
    exact hconns

/-- In every run, no client's transport connection is open. -/
theorem unopened_of_path {addr start : Addr} {length : ℕ} {forceBroadcast : Bool} {s : System}
    (hrun : Path System.step anyEvent (.boot addr start length forceBroadcast) s) (id : ℕ) :
    ∀ conn, s.conns id = some conn → conn.Unopened := by
  apply hrun.invariant fun s => ∀ conn, s.conns id = some conn → conn.Unopened
  · intro conn hconn
    cases hconn
  · intro s event s' hs _ hstep
    cases steps_of_step hstep with
    | router | abort => exact hs
    | @callback _ client _ _ _ _ _ hact =>
      apply unopened_update hs
      rintro rfl
      have hcon : (s.connection id client).Unopened := hs
      exact hcon.turns (turns_of_act hact)
    | stop =>
      apply unopened_update hs
      intro _ conn hnone
      cases hnone

end Unopened

/-- `L_Data_PDU::Decode`, with the text of the transport layer. -/
def traceFrame (l : LDataPDU) : Run String := do
  let t ← fromPacket l.data
  let text ← t.decode
  l.decode fun _ => text

/-- What the router does with a frame from a link keeps within its assertions, in every state of
the router: the text of a frame that is refused, what the virtual bus monitors get of a frame
that was queued, and the pass of `trigger_cb` for it. -/
def Routable (l : LDataPDU) : Prop :=
  ∀ (t : Relay) (key : ℕ),
    (¬ (l.addrType = .individualAddress ∧ l.dest = 0) → Returns (traceFrame (t.accepted key l))) ∧
    ∀ queued, (t.recvLData key l).buf = t.buf ++ [queued] →
      Returns queued.frame.toPacket ∧ Returns (traceFrame queued.frame) ∧
      ∀ forceBroadcast addr now ignore,
        Returns (triggerFrame forceBroadcast addr now ignore queued.frame)

section Frames

variable {l : LDataPDU}

theorem returns_traceFrame (hpos : 1 ≤ l.data.length) (hmax : l.data.length ≤ 255)
    (hhop : l.hopcount.toNat < 8) : Returns (traceFrame l) := by
  obtain ⟨t, ht, hwellFormed⟩ := fromPacket_wellFormed l.data
  obtain ⟨_, htext⟩ := hwellFormed.returns_decode
  rw [traceFrame, ht, ok_bind, htext, ok_bind, LDataPDU.decode]
  simp only [returns_require_bind_iff, hopcount_mask_iff]
  exact ⟨hpos, hmax, hhop, returns_ok _⟩

theorem hopcount_decreased (forceBroadcast : Bool) {hopcount : Byte} (hzero : hopcount ≠ 0)
    (hhop : hopcount.toNat < 8) : (decreased forceBroadcast hopcount).toNat < 8 := by
  unfold decreased
  split
  · bv_omega
  · exact hhop

theorem returns_toPacket (hpos : 1 ≤ l.data.length) (hmax : l.data.length ≤ 255)
    (hhop : l.hopcount.toNat < 8) : Returns l.toPacket :=
  ⟨_, toPacket_of_bounds hpos hmax hhop⟩

theorem returns_isRepetition (hpacket : Returns l.toPacket) (ignore : List IgnoreInfo) :
    Returns (isRepetition ignore l) := by
  unfold isRepetition
  split
  · obtain ⟨_, hdata⟩ := hpacket
    rw [hdata]
    exact returns_ok _
  · exact returns_ok _

theorem returns_triggerFrame (hpos : 1 ≤ l.data.length) (hmax : l.data.length ≤ 255)
    (hhop : l.hopcount.toNat < 8) (forceBroadcast : Bool) (addr : Addr) (now : ℕ)
    (ignore : List IgnoreInfo) : Returns (triggerFrame forceBroadcast addr now ignore l) := by
  unfold triggerFrame
  split
  · exact returns_ok _
  · next hzero =>
    have hdecreased := hopcount_decreased forceBroadcast hzero hhop
    obtain ⟨_, hseen⟩ := returns_isRepetition
      (l := { l with hopcount := decreased forceBroadcast l.hopcount })
      (returns_toPacket hpos hmax hdecreased) ignore
    dsimp only
    rw [hseen, ok_bind]
    split
    · exact returns_ok _
    · obtain ⟨_, hdata⟩ := returns_toPacket
        (l := { l with hopcount := decreased forceBroadcast l.hopcount, repeated := true })
        hpos hmax hdecreased
      rw [distribute, hdata]
      exact returns_ok _

theorem addAddress_buf (t : Relay) (key : ℕ) (addr : Addr) :
    (t.addAddress key addr).buf = t.buf := by
  obtain ⟨link, -, -, hadd⟩ | ⟨hadd, -⟩ | hadd := addAddress_cases t key addr <;> rw [hadd]

theorem eq_of_queueLData {t : Relay} {key : ℕ} {queued : Queued}
    (hqueued : (t.queueLData key l).buf = t.buf ++ [queued]) : queued = ⟨l, key⟩ := by
  unfold Relay.queueLData at hqueued
  split at hqueued
  · exact (singleton_inj.1 (append_cancel_left hqueued)).symm
  · simp at hqueued

/-- A queued frame is the received one, with its source filled in. -/
theorem queued_of_recvLData {t : Relay} {key : ℕ} {queued : Queued}
    (hqueued : (t.recvLData key l).buf = t.buf ++ [queued]) : queued.frame = t.accepted key l := by
  obtain hsame | ⟨hqueue, -⟩ | ⟨hqueue, -⟩ := recvLData_cases t key l
  · rw [hsame] at hqueued
    simp at hqueued
  · rw [hqueue] at hqueued
    rw [eq_of_queueLData hqueued]
  · rw [hqueue, ← addAddress_buf t key (t.sourceOf key l)] at hqueued
    rw [eq_of_queueLData hqueued]

theorem size_of_distribute {addr : Addr} {now : ℕ} {ignore : List IgnoreInfo}
    (hreturns : Returns (distribute addr now ignore l)) :
    1 ≤ l.data.length ∧ l.data.length ≤ 255 := by
  obtain ⟨_, hresult⟩ := hreturns
  obtain ⟨data, hdata, -⟩ := bind_eq_ok_iff.1 hresult
  have hpacket : Returns { l with repeated := true }.toPacket := ⟨data, hdata⟩
  simp only [LDataPDU.toPacket, returns_require_bind_iff] at hpacket
  exact ⟨hpacket.1, hpacket.2.1⟩

/-- A frame that is passed on for the first time is encoded. -/
theorem size_of_triggerFrame (hzero : l.hopcount ≠ 0) {forceBroadcast : Bool} {addr : Addr}
    {now : ℕ} (hreturns : Returns (triggerFrame forceBroadcast addr now [] l)) :
    1 ≤ l.data.length ∧ l.data.length ≤ 255 := by
  obtain ⟨_, hresult⟩ := hreturns
  rw [triggerFrame, if_neg hzero] at hresult
  obtain ⟨seen, hseen, hrest⟩ := bind_eq_ok_iff.1 hresult
  have hnew : seen = false := by
    unfold isRepetition at hseen
    split at hseen
    · obtain ⟨_, _, hnone⟩ := bind_eq_ok_iff.1 hseen
      exact (Except.ok.inj hnone).symm
    · exact (Except.ok.inj hseen).symm
  rw [hnew, if_neg Bool.false_ne_true] at hrest
  exact size_of_distribute
    (l := { l with hopcount := decreased forceBroadcast l.hopcount }) ⟨_, hrest⟩

/-- A router with the link of a client that has some address. -/
def accepting (addr : Addr) : Relay where
  router :=
    { addr := addr + 1, wantUp := true, links := [0]
      object := fun _ => some { hasAddress := fun other => other == addr } }
  port _ := { kind := .single, addr }
  pool := .configured 0 0

theorem recvLData_accepting {addr : Addr} (haddr : addr ≠ 0)
    (hsource : l.source = 0 ∨ l.source = addr)
    (hdest : ¬ (l.addrType = .individualAddress ∧ l.dest = 0)) :
    ((accepting addr).recvLData 0 l).buf = [⟨(accepting addr).accepted 0 l, 0⟩] := by
  have hfilled : (accepting addr).sourceOf 0 l = addr := by
    unfold Relay.sourceOf
    rcases hsource with hzero | hsame
    · rw [if_neg (not_not.2 hzero)]
      exact if_pos haddr
    · rw [hsame, if_pos haddr]
  have hown : addr ≠ (accepting addr).router.addr := by
    simp [accepting]
  have hfind : findAddress (accepting addr).router addr = some 0 := by
    simp [findAddress, accepting, linkHasAddress, Routing.Router.book]
  rw [Relay.recvLData, if_neg hdest]
  dsimp only
  rw [hfilled, if_neg hown, hfind, Relay.accepted, hfilled]
  rfl

/-- A frame with one of the two initial hop counts is safe at the router exactly if it goes
nowhere, or has 1 to 255 bytes. -/
theorem routable_iff (hinitial : l.hopcount = 0x06 ∨ l.hopcount = 0x07) :
    Routable l ↔ (l.addrType = .individualAddress ∧ l.dest = 0) ∨
      1 ≤ l.data.length ∧ l.data.length ≤ 255 := by
  have hzero : l.hopcount ≠ 0 := by
    rcases hinitial with hsix | hseven <;> simp [*]
  have hhop : l.hopcount.toNat < 8 := by
    rcases hinitial with hsix | hseven <;> simp [*]
  constructor
  · intro hroutable
    by_contra hnot
    rw [not_or] at hnot
    obtain ⟨hdest, hsize⟩ := hnot
    have haccepted : ∃ addr : Addr, addr ≠ 0 ∧ (l.source = 0 ∨ l.source = addr) := by
      by_cases hsource : l.source = 0
      · exact ⟨1, by decide, .inl hsource⟩
      · exact ⟨l.source, hsource, .inr rfl⟩
    obtain ⟨addr, haddr, hsource⟩ := haccepted
    obtain ⟨-, -, htrigger⟩ :=
      (hroutable (accepting addr) 0).2 _ (recvLData_accepting haddr hsource hdest)
    exact hsize (size_of_triggerFrame (l := (accepting addr).accepted 0 l) hzero
      (htrigger false 0 0 []))
  · intro hsafe t key
    rcases hsafe with hdropped | ⟨hpos, hmax⟩
    · refine ⟨fun hdest => (hdest hdropped).elim, fun queued hqueued => ?_⟩
      rw [Relay.recvLData, if_pos hdropped] at hqueued
      simp at hqueued
    · refine ⟨fun _ => returns_traceFrame hpos hmax hhop, fun queued hqueued => ?_⟩
      rw [queued_of_recvLData hqueued]
      refine ⟨?_, returns_traceFrame hpos hmax hhop, ?_⟩
      · exact returns_toPacket (l := t.accepted key l) hpos hmax hhop
      · exact returns_triggerFrame (l := t.accepted key l) hpos hmax hhop

end Frames

/-- What a connection does with a message returns, and the frames that it makes of it are safe at
the router. -/
def Safe (program : Run (Option (AConn × List Output))) : Prop :=
  ∃ result, program = .ok result ∧
    ∀ conn out l, result = some (conn, out) → .recvLData l ∈ out → Routable l

/-- The message has a whole header, with the type that the connection wants. -/
def Carries (header : ℕ) (type : EIBType) (buf : CArray) (len : ℕ) : Prop :=
  header ≤ len ∧ joinBytes (byteAt buf 0) (byteAt buf 1) = type
  deriving Decidable

/-- The payload of a message for each sort of connection, where it is used.  What goes to the
individual address 0 is dropped before the router encodes it. -/
def Sized (buf : CArray) (len : ℕ) : AConn → Prop
  | .monitor _ | .connection _ => True
  | .broadcast _ | .group _ _ => Carries 2 .apduPacket buf len → 1 ≤ len - 2 ∧ len - 2 ≤ 255
  | .individual dest _ => Carries 2 .apduPacket buf len → 1 ≤ len - 2 ∧ (dest = 0 ∨ len - 2 ≤ 255)
  | .tpdu _ =>
    Carries 4 .apduPacket buf len →
      joinBytes (byteAt buf 2) (byteAt buf 3) = 0 ∨ 1 ≤ len - 4 ∧ len - 4 ≤ 255
  | .groupSocket _ => Carries 4 .groupPacket buf len → 1 ≤ len - 4 ∧ len - 4 ≤ 255

section Messages

variable {conn : AConn} {l : LDataPDU} {buf data : CArray} {len header : ℕ} {type : EIBType}

theorem safe_none : Safe (.ok none) := by
  refine ⟨none, rfl, ?_⟩
  intro conn out l hnone
  cases hnone

theorem safe_of_no_frame {next : AConn} {out : List Output}
    (hout : ∀ l, Output.recvLData l ∉ out) : Safe (.ok (some (next, out))) := by
  refine ⟨_, rfl, ?_⟩
  intro conn out' l hresult hmem
  cases hresult
  exact (hout l hmem).elim

theorem safe_passOn_iff {frame : CArray → Run LDataPDU} :
    Safe (conn.passOn frame (some data)) ↔ ∃ l, frame data = .ok l ∧ Routable l := by
  constructor
  · rintro ⟨_, hpass, hframes⟩
    obtain ⟨l, hframe, hresult⟩ := bind_eq_ok_iff.1 hpass
    cases hresult
    exact ⟨l, hframe, hframes conn _ l rfl (mem_singleton_self _)⟩
  · rintro ⟨l, hframe, hroutable⟩
    refine ⟨some (conn, [.recvLData l]), ?_, ?_⟩
    · rw [passOn, hframe, ok_bind]
      rfl
    · intro next out other hresult hmem
      cases hresult
      cases mem_singleton.1 hmem
      exact hroutable

theorem wordAt_of_lt {index : ℕ} (hindex : index + 1 < buf.length) :
    wordAt buf index = .ok (joinBytes (byteAt buf index) (byteAt buf (index + 1))) := by
  rw [wordAt, readAt_of_lt (by omega), ok_bind, readAt_of_lt hindex, ok_bind]
  rfl

section

variable (hlen : len ≤ buf.length)
include hlen

theorem length_payload : ((buf.drop header).take (len - header)).length = len - header := by
  rw [length_take, length_drop]
  omega

theorem payload_of_carries (hheader : 2 ≤ header) (hcarries : Carries header type buf len) :
    payload header type buf len = .ok (some ((buf.drop header).take (len - header))) := by
  obtain ⟨_, htype⟩ := hcarries
  rw [payload, if_neg (by omega), eibType, readAt_of_lt (by omega), ok_bind,
    readAt_of_lt (by omega), ok_bind, pure_eq_ok, ok_bind, if_neg (not_not.2 htype),
    readPart_of_le (by omega)]
  rfl

theorem payload_of_not_carries (hheader : 2 ≤ header) (hcarries : ¬ Carries header type buf len) :
    payload header type buf len = .ok none := by
  by_cases hshort : len < header
  · rw [payload, if_pos hshort]
    rfl
  · have htype : joinBytes (byteAt buf 0) (byteAt buf 1) ≠ type :=
      fun htype => hcarries ⟨not_lt.1 hshort, htype⟩
    rw [payload, if_neg hshort, eibType, readAt_of_lt (by omega), ok_bind,
      readAt_of_lt (by omega), ok_bind, pure_eq_ok, ok_bind, if_pos htype]
    rfl

/-- A message is a matter of its payload, if it is for the connection at all. -/
theorem safe_payload_iff {frame : CArray → Run LDataPDU} (hheader : 2 ≤ header) :
    Safe (payload header type buf len >>= conn.passOn frame) ↔ (Carries header type buf len →
        ∃ l, frame ((buf.drop header).take (len - header)) = .ok l ∧ Routable l) := by
  by_cases hcarries : Carries header type buf len
  · rw [payload_of_carries hlen hheader hcarries, ok_bind, safe_passOn_iff]
    exact ⟨fun hsafe _ => hsafe, fun hsafe => hsafe hcarries⟩
  · rw [payload_of_not_carries hlen hheader hcarries, ok_bind]
    exact ⟨fun _ hcontra => (hcarries hcontra).elim, fun _ => safe_none⟩

end

theorem safe_recvXXXReq_iff (hinitial : l.hopcount = 0x06 ∨ l.hopcount = 0x07) :
    (∃ frame, recvXXXReq l data = .ok frame ∧ Routable frame) ↔
      1 ≤ data.length ∧ ((l.addrType = .individualAddress ∧ l.dest = 0) ∨ data.length ≤ 255) := by
  have hlength : (masked data).length = data.length := length_set
  have hroutable : Routable { l with data := masked data } ↔
      (l.addrType = .individualAddress ∧ l.dest = 0) ∨ 1 ≤ data.length ∧ data.length ≤ 255 := by
    rw [← hlength]
    exact routable_iff (l := { l with data := masked data }) hinitial
  simp only [recvXXXReq_eq_ok_iff]
  constructor
  · rintro ⟨_, ⟨hpos, rfl⟩, hframe⟩
    exact ⟨hpos, (hroutable.1 hframe).imp_right And.right⟩
  · rintro ⟨hpos, hsafe⟩
    exact ⟨_, ⟨hpos, rfl⟩, hroutable.2 (hsafe.imp_right fun hmax => ⟨hpos, hmax⟩)⟩

theorem safe_groupAddress_iff (hinitial : l.hopcount = 0x06 ∨ l.hopcount = 0x07)
    (hgroup : l.addrType = .groupAddress) :
    (∃ frame, recvXXXReq l data = .ok frame ∧ Routable frame) ↔
      1 ≤ data.length ∧ data.length ≤ 255 := by
  rw [safe_recvXXXReq_iff hinitial, hgroup]
  simp

/-- A closed transport connection keeps the payload. -/
theorem safe_of_closed {c : TConnection} (hlen : len ≤ buf.length) (hmode : c.mode = .closed) :
    Safe ((AConn.connection c).recvData buf len) := by
  by_cases hcarries : Carries 2 .apduPacket buf len
  · rw [recvData, payload_of_carries hlen le_rfl hcarries, ok_bind]
    dsimp only
    rw [TConnection.recvData, TConnection.sendCheck, if_pos (by simp [hmode]), pure_eq_ok, ok_bind]
    exact safe_of_no_frame (by simp)
  · rw [recvData, payload_of_not_carries hlen le_rfl hcarries, ok_bind]
    exact safe_none

/-- What a client in a run sends keeps within the assertions of the data path exactly if its
payload has the right size. -/
theorem safe_recvData_iff {addr start : Addr} {length : ℕ} {forceBroadcast : Bool} {s : System}
    (hrun : Path System.step anyEvent (.boot addr start length forceBroadcast) s) {id : ℕ}
    (hconn : s.conns id = some conn) (hlen : len ≤ buf.length) :
    Safe (conn.recvData buf len) ↔ Sized buf len conn := by
  cases conn with
  | monitor => exact ⟨fun _ => trivial, fun _ => safe_of_no_frame (by simp)⟩
  | connection =>
    exact ⟨fun _ => trivial, fun _ => safe_of_closed hlen (unopened_of_path hrun id _ hconn)⟩
  | broadcast =>
    refine (safe_payload_iff hlen le_rfl).trans (imp_congr_right fun _ => ?_)
    refine (safe_groupAddress_iff (.inr rfl) rfl).trans ?_
    rw [length_payload hlen]
  | group =>
    refine (safe_payload_iff hlen le_rfl).trans (imp_congr_right fun _ => ?_)
    refine (safe_groupAddress_iff (.inl rfl) rfl).trans ?_
    rw [length_payload hlen]
  | individual =>
    refine (safe_payload_iff hlen le_rfl).trans (imp_congr_right fun _ => ?_)
    refine (safe_recvXXXReq_iff (.inl rfl)).trans ?_
    rw [length_payload hlen]
    exact and_congr_right fun _ => or_congr_left (and_iff_right rfl)
  | tpdu =>
    refine (safe_payload_iff hlen (by decide)).trans (imp_congr_right fun hcarries => ?_)
    rw [wordAt_of_lt (by have := hcarries.1; omega), ok_bind]
    simp only [pure_eq_ok, Except.ok.injEq, exists_eq_left']
    refine (routable_iff (.inl rfl)).trans ?_
    exact or_congr (and_iff_right rfl) (by rw [tpduFrame, length_payload hlen])
  | groupSocket =>
    refine (safe_payload_iff hlen (by decide)).trans (imp_congr_right fun hcarries => ?_)
    rw [wordAt_of_lt (by have := hcarries.1; omega), ok_bind]
    refine (safe_groupAddress_iff (.inl rfl) rfl).trans ?_
    rw [length_payload hlen]

/-- A buffer of zeros with a message at its beginning. -/
def received (bytes : CArray) : Block bufSize :=
  ⟨(bytes ++ List.replicate bufSize 0).take bufSize, by simp⟩

def opensGroup : List Event :=
  [.router (.clientConnection 7),
    .client 7 (.readCb (received [0, 5, 0x00, 0x22, 0x08, 0x01, 0]) 7 {}) 2 {}]

/-- One byte of payload, here the request to read the group, is all right. -/
theorem safe_recvData_read : ∃ s, Path System.step anyEvent (.boot 0x1100 0x1101 4 false) s ∧
      s.conns 7 = some (.group 0x0801 false) ∧
      Safe ((AConn.group 0x0801 false).recvData [0x00, 0x25, 0x00] 3) :=
  (exists_path opensGroup (by decide +kernel)).imp fun _ hs =>
    ⟨hs.1, hs.2, (safe_recvData_iff hs.1 hs.2 (by decide)).2 fun _ => by decide⟩

/-- A message that is nothing but its type ends the program. -/
theorem empty_payload_aborts : (run System.step (.boot 0x1100 0x1101 4 false)
      (opensGroup ++ [.client 7 (.readCb (received [0, 2, 0x00, 0x25]) 4 {}) 2 {}])).map
        (fun s => s.relay.router.fault) = some (some .assertion) := by
  decide +kernel

end Messages

end Knxd.Clients
