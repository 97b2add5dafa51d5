import Knxd.Client.Stream

/-!
# What a message is read from

`read_cb` reads the type of a message before it looks at its length, so that a message of
less than two bytes is given a type from the bytes behind it: those of the next message, or
what earlier reads left in the buffer.  Every longer message is read from its own bytes.

The receive buffer is the array of the source here, with the bytes behind those that were
received.  What other code does to a connection between two messages, and what it answers
during one, is an arbitrary function of the number of the message.
-/

namespace Knxd.Clients

open Memory LPDU IOBuf Streams List Framing Option Message ClientConnection
open Transition (Path run run_append)
open AConn (payload)

/-! ## Reading inside a message -/

section Local

variable {buf : CArray} {index : ℕ} (rest : CArray)

theorem wordAt_append_left (hindex : index + 1 < buf.length) :
    wordAt (buf ++ rest) index = wordAt buf index := by
  rw [wordAt, readAt_append_left rest (by omega), readAt_append_left rest hindex, wordAt]

theorem eibType_append_left (hlength : 2 ≤ buf.length) : eibType (buf ++ rest) = eibType buf := by
  have hword : wordAt (buf ++ rest) 0 = wordAt buf 0 := wordAt_append_left rest hlength
  exact hword

theorem payload_append_left (header : ℕ) (type : EIBType) (hlength : 2 ≤ buf.length) :
    payload header type (buf ++ rest) buf.length = payload header type buf buf.length := by
  unfold payload
  split
  · rfl
  · rw [eibType_append_left rest hlength, readPart_append_of_le rest (by omega)]

/-- A payload comes from a message that is longer than the header. -/
theorem le_length_of_payload {header len : ℕ} {type : EIBType} {data : CArray}
    (hpayload : payload header type buf len = .ok (some data)) : header ≤ len := by
  unfold payload at hpayload
  split at hpayload
  · cases hpayload
  · next hheader => exact not_lt.1 hheader

/-- The address in front of a payload belongs to the message. -/
theorem payload_bind_append_left {conn : AConn} {type : EIBType} (hlength : 2 ≤ buf.length)
    (frame : Addr → CArray → Run LDataPDU) :
    (payload 4 type (buf ++ rest) buf.length >>= conn.passOn fun data =>
        wordAt (buf ++ rest) 2 >>= fun addr => frame addr data) =
      (payload 4 type buf buf.length >>= conn.passOn fun data =>
        wordAt buf 2 >>= fun addr => frame addr data) := by
  rw [payload_append_left rest 4 type hlength]
  cases hpayload : payload 4 type buf buf.length with
  | error => rfl
  | ok data =>
    cases data with
    | none => rfl
    | some =>
      have hheader := le_length_of_payload hpayload
      rw [wordAt_append_left rest (by omega)]

theorem recvData_append_left (conn : AConn) (hlength : 2 ≤ buf.length) :
    conn.recvData (buf ++ rest) buf.length = conn.recvData buf buf.length := by
  cases conn with
  | monitor => rfl
  | broadcast | group | individual | connection =>
    simp only [AConn.recvData, payload_append_left rest _ _ hlength]
  | tpdu src =>
    exact payload_bind_append_left rest hlength fun addr data => pure (tpduFrame src addr data)
  | groupSocket => exact payload_bind_append_left rest hlength groupSocketFrame

theorem create_append_left (answers : Answers) (kind : ConnKind) (hlength : buf.length = 5) :
    kind.create answers (buf ++ rest) = kind.create answers buf := by
  have hword : wordAt (buf ++ rest) 2 = wordAt buf 2 := wordAt_append_left rest (by omega)
  have hflag : readAt (buf ++ rest) 4 = readAt buf 4 := readAt_append_left rest (by omega)
  cases kind <;> simp only [ConnKind.create, hword, hflag]

theorem openMonitor_append_left (con : ClientConnection) (answers : Answers) (m : Monitor) :
    con.openMonitor answers m (buf ++ rest) buf.length =
      con.openMonitor answers m buf buf.length := by
  unfold openMonitor
  split
  · rfl
  · next hlength => rw [readPart_append_of_le rest (by omega)]

theorem openLink_append_left (con : ClientConnection) (answers : Answers) (kind : ConnKind) :
    con.openLink answers kind (buf ++ rest) buf.length =
      con.openLink answers kind buf buf.length := by
  unfold openLink
  split
  · rfl
  · next hlength =>
    rw [create_append_left rest answers kind (not_not.1 hlength),
      readPart_append_of_le rest (by omega)]

theorem groupCacheRequest_append_left (answers : Answers) (request : CacheRequest) :
    groupCacheRequest answers (buf ++ rest) buf.length request =
      groupCacheRequest answers buf buf.length request := by
  unfold groupCacheRequest
  split
  · rfl
  cases request with
  | enable | disable | clear => rfl
  | remove | readNowait =>
    dsimp only
    split
    · rfl
    · rw [wordAt_append_left rest (by omega)]
  | read =>
    dsimp only
    split
    · rfl
    rw [wordAt_append_left rest (by omega)]
    split
    · rfl
    · rw [wordAt_append_left rest (by omega)]
  | lastUpdates =>
    dsimp only
    split
    · rfl
    · rw [wordAt_append_left rest (by omega), readAt_append_left rest (by omega)]
  | lastUpdates2 =>
    dsimp only
    split
    · rfl
    · rw [wordAt_append_left rest (by omega), wordAt_append_left rest (by omega),
        readAt_append_left rest (by omega)]

/-- A message of at least two bytes is handled without the bytes behind it. -/
theorem handleMessage_append_left (con : ClientConnection) (answers : Answers)
    (hlength : 2 ≤ buf.length) :
    con.handleMessage answers (buf ++ rest) buf.length =
      con.handleMessage answers buf buf.length := by
  unfold handleMessage
  rw [eibType_append_left rest hlength]
  simp only [recvData_append_left rest _ hlength, openMonitor_append_left, openLink_append_left,
    groupCacheRequest_append_left]

end Local

/-! ## The treatment of messages -/

/-- What other code does: the connection that it leaves for each message, and its answers. -/
structure Surroundings where
  meanwhile : ℕ → ClientConnection → ClientConnection := fun _ con => con
  answers : ℕ → Answers := fun _ => {}

/-- How `read_cb` treats a message: the type that it reads, and what it does then. -/
structure Treatment where
  type : Run EIBType
  outcome : Run (ClientConnection × List Output)
  deriving DecidableEq

/-- The treatment of a message of `size` bytes, with its length, at the start of the buffer. -/
def treatment (answers : Answers) (con : ClientConnection) (array : CArray) (size : ℕ) :
    Treatment where
  type := eibType (array.drop 2)
  outcome := con.handleMessage answers (array.drop 2) (size - 2)

/-- The treatment of a message depends on its own bytes only, if it has at least two. -/
theorem treatment_append_left {frame : CArray} (answers : Answers) (con : ClientConnection)
    (rest : CArray) (hlength : 4 ≤ frame.length) :
    treatment answers con (frame ++ rest) frame.length =
      treatment answers con frame frame.length := by
  have hbuf : (frame.drop 2).length = frame.length - 2 := length_drop
  unfold treatment
  rw [drop_append_of_le_length (by omega), ← hbuf, eibType_append_left rest (by omega),
    handleMessage_append_left rest con answers (by omega)]

/-- The messages treated so far, and the connection that is left; none if the program was
aborted. -/
structure Progress where
  con : Option ClientConnection
  treated : List Treatment := []

namespace Progress

variable (around : Surroundings)

/-- The connection as `read_cb` finds it when the next message is read. -/
def current (p : Progress) (con : ClientConnection) : ClientConnection :=
  around.meanwhile p.treated.length con

def next (p : Progress) (array : CArray) (size : ℕ) : Progress :=
  match p.con with
  | none => p
  | some con =>
    let t := treatment (around.answers p.treated.length) (p.current around con) array size
    { con := t.outcome.toOption.map Prod.fst, treated := p.treated ++ [t] }

def alone (p : Progress) (frames : List CArray) : Progress :=
  frames.foldl (fun p frame => p.next around frame frame.length) p

end Progress

open Progress (alone)

/-! ## The receive buffer in memory -/

/-- The receive buffer of a client: the bytes received, and what is behind them in the
array. -/
structure Intake extends Progress where
  recvbuf : CArray := []
  stale : CArray

namespace Intake

variable (around : Surroundings)

def array (s : Intake) : CArray :=
  s.recvbuf ++ s.stale

/-- `read_cb` has taken some bytes: the rest moves to the front, and what was behind its new
place stays. -/
def consume (s : Intake) (p : Progress) (taken : ℕ) : Intake :=
  { p with recvbuf := s.recvbuf.drop taken, stale := s.array.drop (s.recvbuf.length - taken) }

/-- `feed_out`, for at most the given number of rounds. -/
def feedLoop : ℕ → Intake → Intake
  | 0, s => s
  | rounds + 1, s =>
    match s.con with
    | none => s
    | some con =>
      if s.recvbuf = [] then s
      else
        let number := s.treated.length
        let type := eibType (s.array.drop 2)
        match (s.current around con).readCb (around.answers number) s.array
            s.recvbuf.length with
        | .error fault => { s with con := none, treated := s.treated ++ [⟨type, .error fault⟩] }
        | .ok (taken, next) =>
          if taken = 0 then s
          else
            feedLoop rounds (s.consume ⟨some next.1, s.treated ++ [⟨type, .ok next⟩]⟩ taken)

/-- `feed_out`; a round that is not the last takes a byte. -/
def feedOut (s : Intake) : Intake :=
  feedLoop around s.recvbuf.length s

/-- `read` writes behind the bytes received. -/
def take (s : Intake) (chunk : CArray) : Intake :=
  { s with recvbuf := s.recvbuf ++ chunk, stale := s.stale.drop chunk.length }

/-- `io_cb`, when `read` gives some bytes. -/
def step (s : Intake) (chunk : CArray) : Option Intake :=
  if s.con.isSome ∧ chunk ≠ [] ∧ chunk.length ≤ s.stale.length then
    some ((s.take chunk).feedOut around)
  else none

def fresh (con : ClientConnection) (memory : Block bufSize) : Intake :=
  { con := some con, stale := memory.1 }

end Intake

open Intake

variable {around : Surroundings} {s s' : Intake} {con : ClientConnection}
variable {frames good : List CArray} {p : Progress} {t : RecvBuf} {messages : List Message}

theorem take_array (s : Intake) : s.array.take s.recvbuf.length = s.recvbuf := take_left

theorem feedLoop_of_none (around : Surroundings) (hsize : framing.size s.recvbuf = none)
    (rounds : ℕ) : s.feedLoop around rounds = s := by
  cases rounds with
  | zero => rfl
  | succ =>
    have hread (con : ClientConnection) (answers : Answers) :
        con.readCb answers s.array s.recvbuf.length = .ok (0, con, []) := by
      rw [readCb_eq answers con (by simp [array]), take_array,
        show messageSize s.recvbuf = none from hsize]
    rw [feedLoop]
    split
    · rfl
    · split
      · rfl
      · dsimp only
        rw [hread]
        rfl

/-- A round of `feed_out` for a whole message. -/
theorem feedLoop_of_size {con : ClientConnection} {size : ℕ} (hcon : s.con = some con)
    (hsize : framing.size s.recvbuf = some size) (rounds : ℕ) :
    s.feedLoop around (rounds + 1) =
      match (s.next around s.array size).con with
      | none => { s with toProgress := s.next around s.array size }
      | some _ => (s.consume (s.next around s.array size) size).feedLoop around rounds := by
  have hpos := framing.size_pos hsize
  have hnonempty : s.recvbuf ≠ [] := by
    intro hempty
    rw [hempty, size_nil] at hsize
    cases hsize
  rw [feedLoop, hcon]
  dsimp only
  rw [if_neg hnonempty, readCb_eq _ _ (by simp [array]), take_array,
    show messageSize s.recvbuf = some size from hsize]
  simp only [Progress.next, hcon, treatment]
  cases (s.current around con).handleMessage (around.answers s.treated.length) (s.array.drop 2)
      (size - 2) with
  | error => rfl
  | ok =>
    simp only [ok_bind, Except.toOption, map_some]
    rw [if_neg (by omega)]

theorem length_array_consume (s : Intake) (p : Progress) (taken : ℕ) :
    (s.consume p taken).array.length = s.array.length := by
  simp only [array, consume, length_append, length_drop]
  omega

theorem length_array_take {chunk : CArray} (hfits : chunk.length ≤ s.stale.length) :
    (s.take chunk).array.length = s.array.length := by
  simp only [Intake.array, Intake.take, length_append, length_drop]
  omega

/-- The array keeps its size. -/
theorem length_array_feedLoop (around : Surroundings) (rounds : ℕ) (s : Intake) :
    (s.feedLoop around rounds).array.length = s.array.length := by
  induction rounds generalizing s with
  | zero => rfl
  | succ _ ih =>
    cases hsize : framing.size s.recvbuf with
    | none => rw [feedLoop_of_none around hsize]
    | some =>
      cases hcon : s.con with
      | none => rw [feedLoop, hcon]
      | some =>
        rw [feedLoop_of_size hcon hsize]
        split
        · rfl
        · rw [ih, length_array_consume]

/-- Messages were treated one after another, each with some bytes behind it. -/
inductive Handles (around : Surroundings) (con : ClientConnection) :
    List CArray → Progress → Prop
  | nil : Handles around con [] { con := some con }
  | next {frames : List CArray} {p : Progress} {current : ClientConnection} (frame rest : CArray) :
      Handles around con frames p → p.con = some current →
      Handles around con (frames ++ [frame]) (p.next around (frame ++ rest) frame.length)

variable {con : ClientConnection} {frames : List CArray} {p : Progress}

/-- `feed_out` treats the messages of the buffer, as far as the program is not aborted. -/
theorem Handles.feedLoop (hhandles : Handles around con frames s.toProgress) {rounds : ℕ}
    (hcon : s.con.isSome) (hrounds : s.recvbuf.length ≤ rounds) :
    ∃ more, Handles around con (frames ++ more) (s.feedLoop around rounds).toProgress ∧
      more <+: (framing.split s.recvbuf).1 ∧
      ((s.feedLoop around rounds).con.isSome → more = (framing.split s.recvbuf).1 ∧
        (s.feedLoop around rounds).recvbuf = (framing.split s.recvbuf).2) := by
  generalize hbuf : s.recvbuf = buf at hrounds
  induction buf using split_induction (f := framing) generalizing s frames rounds with
  | rest _ hsize =>
    rw [feedLoop_of_none around (by rw [hbuf]; exact hsize), split_of_none hsize]
    exact ⟨[], by rwa [append_nil], nil_prefix, fun _ => ⟨rfl, hbuf⟩⟩
  | frame buf size hsize ih =>
    have hpos := framing.size_pos hsize
    have hle := framing.size_le hsize
    obtain ⟨_, hcurrent⟩ := isSome_iff_exists.1 hcon
    obtain ⟨fewer, rfl⟩ : ∃ fewer, rounds = fewer + 1 := ⟨rounds - 1, by omega⟩
    have hfewer : (buf.drop size).length ≤ fewer := by
      rw [length_drop]
      omega
    have harray : s.array = buf.take size ++ (buf.drop size ++ s.stale) := by
      rw [array, hbuf, ← append_assoc, take_append_drop]
    have hlength : (buf.take size).length = size := length_take_of_le hle
    have hnext := hhandles.next (buf.take size) (buf.drop size ++ s.stale) hcurrent
    rw [← harray, hlength] at hnext
    rw [feedLoop_of_size hcurrent (by rw [hbuf]; exact hsize), split_of_size hsize]
    cases hafter : (s.next around s.array size).con with
    | none =>
      refine ⟨[buf.take size], hnext, ?_, ?_⟩
      · exact cons_prefix_cons.2 ⟨rfl, nil_prefix⟩
      · intro hsome
        rw [hafter] at hsome
        cases hsome
    | some =>
      obtain ⟨more, hmore, hbegins, hall⟩ :=
        ih (s := s.consume (s.next around s.array size) size) hnext
          (by simp [consume, hafter]) (by rw [consume, hbuf]) hfewer
      refine ⟨buf.take size :: more, ?_, cons_prefix_cons.2 ⟨rfl, hbegins⟩, ?_⟩
      · rwa [append_assoc] at hmore
      · intro hsome
        obtain ⟨hframes, hrest⟩ := hall hsome
        exact ⟨congrArg _ hframes, hrest⟩

/-! ## Two streams -/

/-- A number of bytes was read: the messages in them were treated, as far as the program was
not aborted. -/
structure Intake.Follows (around : Surroundings) (con : ClientConnection) (read : CArray)
    (s : Intake) : Prop where
  size : s.array.length = bufSize
  handles : ∃ frames, Handles around con frames s.toProgress ∧ frames <+: (framing.split read).1 ∧
    (s.con.isSome → frames = (framing.split read).1 ∧ s.recvbuf = (framing.split read).2)

theorem Intake.Follows.step {read chunk : CArray} (hs : s.Follows around con read)
    (hstep : s.step around chunk = some s') : s'.Follows around con (read ++ chunk) := by
  obtain ⟨⟨hcon, -, hfits⟩, ⟨⟩⟩ := ite_none_right_eq_some.1 hstep
  obtain ⟨frames, hhandles, -, hall⟩ := hs.handles
  obtain ⟨hframes, hbuf⟩ := hall hcon
  have hsplit : framing.split (read ++ chunk) = (frames ++ (framing.split (s.recvbuf ++ chunk)).1,
        (framing.split (s.recvbuf ++ chunk)).2) := by
    rw [split_append, ← hbuf, ← hframes]
  obtain ⟨more, hmore, hbegins, hrest⟩ := Handles.feedLoop (s := s.take chunk) hhandles hcon le_rfl
  refine ⟨?_, frames ++ more, hmore, ?_, ?_⟩
  · rw [feedOut, length_array_feedLoop, length_array_take hfits, hs.size]
  · rw [hsplit]
    exact (prefix_append_right_inj frames).2 hbegins
  · intro hsome
    obtain ⟨hfound, hleft⟩ := hrest hsome
    rw [hsplit]
    exact ⟨congrArg (frames ++ ·) hfound, hleft⟩

theorem Intake.Follows.run {read : CArray} {chunks : List CArray} (hs : s.Follows around con read)
    (hrun : run (Intake.step around) s chunks = some s') :
    s'.Follows around con (read ++ chunks.flatten) := by
  induction chunks generalizing s read with
  | nil =>
    cases hrun
    rwa [flatten_nil, append_nil]
  | cons _ _ ih =>
    obtain ⟨_, hstep, hrest⟩ := bind_eq_some_iff.1 hrun
    rw [flatten_cons, ← append_assoc]
    exact ih (hs.step hstep) hrest

theorem Intake.follows_fresh (around : Surroundings) (con : ClientConnection)
    (memory : Block bufSize) : (Intake.fresh con memory).Follows around con [] := by
  refine ⟨memory.2, [], .nil, nil_prefix, fun _ => ?_⟩
  rw [split_nil]
  exact ⟨rfl, rfl⟩

theorem Progress.treated_next {current : ClientConnection} (hcon : p.con = some current)
    (array : CArray) (size : ℕ) :
    (p.next around array size).treated = p.treated ++
      [treatment (around.answers p.treated.length) (p.current around current) array size] := by
  rw [Progress.next, hcon]

theorem Handles.length_treated (hhandles : Handles around con frames p) :
    p.treated.length = frames.length := by
  induction hhandles with
  | nil => rfl
  | next _ _ _ hcon ih =>
    rw [Progress.treated_next hcon, length_append, ih, length_append]
    rfl

/-- A message of at least two bytes is treated from its own bytes. -/
theorem Progress.next_append_left {frame : CArray} (hlength : 4 ≤ frame.length) (rest : CArray) :
    p.next around (frame ++ rest) frame.length = p.next around frame frame.length := by
  unfold Progress.next
  split
  · rfl
  · rw [treatment_append_left _ _ rest hlength]

theorem Progress.alone_concat (p : Progress) (frames : List CArray) (frame : CArray) :
    p.alone around (frames ++ [frame]) =
      (p.alone around frames).next around frame frame.length := by
  rw [alone, foldl_append]
  rfl

/-- Messages of at least two bytes, at the start of those that were treated, were treated from
their own bytes. -/
theorem Handles.alone (hhandles : Handles around con frames p)
    (hgood : ∀ frame ∈ good, 4 ≤ frame.length) (hbegins : good <+: frames) :
    p.treated.take good.length = (alone around { con := some con } good).treated ∧
      (good = frames → p = alone around { con := some con } good) := by
  induction hhandles generalizing good with
  | nil =>
    obtain rfl := prefix_nil.1 hbegins
    exact ⟨rfl, fun _ => rfl⟩
  | @next frames p _ frame rest hbefore hcon ih =>
    have hlength := (hbefore.next frame rest hcon).length_treated
    rcases prefix_concat_iff.1 hbegins with rfl | hearlier
    · have hframe := hgood frame (mem_append_right _ mem_cons_self)
      have hp := (ih (fun other hother => hgood other (mem_append_left _ hother))
        prefix_rfl).2 rfl
      have hnext : p.next around (frame ++ rest) frame.length =
          alone around { con := some con } (frames ++ [frame]) := by
        rw [Progress.next_append_left hframe, Progress.alone_concat, ← hp]
      rw [take_of_length_le hlength.le, hnext]
      exact ⟨rfl, fun _ => rfl⟩
    · have hle : good.length ≤ p.treated.length :=
        hearlier.length_le.trans hbefore.length_treated.ge
      rw [Progress.treated_next hcon, take_append_of_le_length hle]
      refine ⟨(ih hgood hearlier).1, ?_⟩
      rintro rfl
      have hlonger := hearlier.length_le
      simp at hlonger

/-- After an abort nothing is treated. -/
theorem Progress.alone_of_none (hcon : p.con = none) (frames : List CArray) :
    p.alone around frames = p := by
  induction frames with
  | nil => rfl
  | cons _ _ ih =>
    rw [alone, foldl_cons, Progress.next, hcon]
    exact ih

/-- Whatever was read behind messages of at least two bytes, and whatever was in the buffer
before, these messages are treated from their own bytes. -/
theorem Intake.Follows.treated {read : CArray} (hs : s.Follows around con read)
    {messages : List Message} (hgood : ∀ m ∈ messages, 2 ≤ m.1.length)
    (hread : stream messages <+: read) :
    s.treated.take messages.length =
      (alone around { con := some con } (messages.map Message.frame)).treated := by
  obtain ⟨frames, hhandles, hframes, hall⟩ := hs.handles
  have hmessages : messages.map Message.frame <+: (framing.split read).1 :=
    prefix_split (fun _ => isFrame_of_mem) hread
  have hlong : ∀ frame ∈ messages.map Message.frame, 4 ≤ frame.length := by
    intro frame hframe
    obtain ⟨m, hm, rfl⟩ := mem_map.1 hframe
    have hlength := hgood m hm
    rw [m.length_frame]
    omega
  rw [← length_map Message.frame]
  by_cases htreated : messages.map Message.frame <+: frames
  · exact (hhandles.alone hlong htreated).1
  · have haborted : s.con = none := by
      by_contra hcon
      rw [(hall (isSome_iff_ne_none.2 hcon)).1] at htreated
      exact htreated hmessages
    have hordered := prefix_or_prefix_of_prefix hframes hmessages
    obtain ⟨rest, hrest⟩ := hordered.resolve_right htreated
    have hprogress := (hhandles.alone (fun frame hframe => hlong frame (by
      rw [← hrest]
      exact mem_append_left _ hframe)) prefix_rfl).2 rfl
    have hstop : alone around { con := some con } (frames ++ rest) = s.toProgress := by
      rw [alone, foldl_append]
      exact (congrArg (alone around · rest) hprogress.symm).trans
        (Progress.alone_of_none haborted rest)
    rw [← hrest, hstop, take_of_length_le]
    rw [hhandles.length_treated, length_append]
    exact Nat.le_add_right _ _

/-! ## The buffer of `RecvBuf` -/

/-- The array of a client that was not aborted holds what its `RecvBuf` holds, and the messages
treated are those that `RecvBuf` passed on. -/
structure Matches (s : Intake) (t : RecvBuf) : Prop where
  running : s.con.isSome
  recvbuf : s.recvbuf = t.recvbuf
  treated : s.treated.length = (processed t.log).length
  stale : s.stale.length = bufSize - t.recvbuf.length

theorem matches_of_follows {read : CArray} (hs : s.Follows around con read) (hcon : s.con.isSome)
    (ht : Follows messages t) (hread : read ++ t.input = stream messages) : Matches s t := by
  obtain ⟨_, hhandles, -, hall⟩ := hs.handles
  obtain ⟨rfl, hbuf⟩ := hall hcon
  obtain ⟨same, hsame, htaken, hrecvbuf⟩ := ht.read
  obtain rfl : read = same := append_cancel_right (hread.trans hsame.symm)
  have hsize := hs.size
  rw [array, length_append] at hsize
  refine ⟨hcon, hbuf.trans hrecvbuf.symm, ?_, ?_⟩
  · rw [hhandles.length_treated, processed, length_map, htaken]
  · rw [hrecvbuf, ← hbuf]
    omega

/-- A run of `RecvBuf` is a run of the array with the same pieces, unless a message aborts the
program. -/
theorem exists_intake_of_path (hsizes : ∀ m ∈ messages, m.1.length ≤ 1022) {fd : ℕ} {quick : Bool}
    (around : Surroundings) (con : ClientConnection) (memory : Block bufSize)
    (hrun : Path (IOBuf.step owner) Reads (connected fd quick (stream messages)) t) :
    ∃ chunks s, run (Intake.step around) (Intake.fresh con memory) chunks = some s ∧
      ∃ rest, chunks.flatten ++ rest = stream messages ∧
        (s.con = none ∧ t.input <:+ rest ∨ Matches s t ∧ rest = t.input) := by
  have hfresh := follows_fresh around con memory
  induction hrun with
  | refl =>
    have hinput : [] ++ (connected fd quick (stream messages)).input = stream messages := by
      rw [connected_eq, nil_append]
    exact ⟨[], _, rfl, _, hinput, .inr
      ⟨matches_of_follows hfresh rfl (follows_connected fd quick messages) hinput, rfl⟩⟩
  | @step t _ _ hpath hreads hstep ih =>
    have ht := follows_of_path hsizes hpath
    obtain ⟨count, rfl, hcount⟩ := ht.ioCb_of_step hreads hstep
    have hinput := ht.input_feedOut hsizes count
    obtain ⟨chunks, s, hs, rest, hstream, ⟨haborted, hrest⟩ | ⟨hmatches, rfl⟩⟩ := ih
    · exact ⟨chunks, s, hs, rest, hstream, .inl
        ⟨haborted, hinput ▸ (drop_suffix _ _).trans hrest⟩⟩
    -- the same pieces, or one more
    obtain ⟨more, s', hs', hmore⟩ : ∃ more s', run (step around) (fresh con memory) more = some s' ∧
          more.flatten = chunks.flatten ++ t.input.take count := by
      by_cases hempty : t.input.take count = []
      · exact ⟨chunks, s, hs, by rw [hempty, append_nil]⟩
      · have hfits : (t.input.take count).length ≤ s.stale.length := by
          rw [hmatches.stale]
          exact (length_take_le _ _).trans hcount
        refine ⟨chunks ++ [t.input.take count], (s.take (t.input.take count)).feedOut around, ?_,
          by simp⟩
        rw [run_append _ hs, run, Intake.step, if_pos ⟨hmatches.running, hempty, hfits⟩]
        rfl
    have hread : more.flatten ++ ((t.take count).feedOut owner).input = stream messages := by
      rw [hinput, hmore, append_assoc, take_append_drop, hstream]
    refine ⟨more, s', hs', _, hread, ?_⟩
    cases hcon : s'.con with
    | none => exact .inl ⟨rfl, suffix_rfl⟩
    | some =>
      exact .inr ⟨matches_of_follows (hfresh.run hs') (by simp [hcon])
        (ht.feedOut hsizes count) hread, rfl⟩

/-- One read of the whole stream. -/
theorem exists_intake_of_path_reset : ∃ t chunks s,
    IOBuf.step owner (connected 3 false (stream [⟨[0, 4], by decide⟩])) (.io 4 .again) = some t ∧
      t.input = [] ∧
      run (step {}) (fresh { addr := 0 } ⟨replicate bufSize 0, by simp⟩) chunks = some s ∧
      ∃ rest, chunks.flatten ++ rest = stream [⟨[0, 4], by decide⟩] ∧
        (s.con = none ∧ t.input <:+ rest ∨ Matches s t ∧ rest = t.input) := by
  obtain ⟨t, hread, hinput⟩ : ∃ t, IOBuf.step owner (connected 3 false
      (stream [⟨[0, 4], by decide⟩])) (.io 4 .again) = some t ∧ t.input = [] := ⟨_, rfl, rfl⟩
  obtain ⟨chunks, s, hintake⟩ := exists_intake_of_path (by decide) {} { addr := 0 }
    ⟨replicate bufSize 0, by simp⟩ (.step .refl (by decide) hread)
  exact ⟨t, chunks, s, hread, hinput, hintake⟩

/-! ## Two streams that agree -/

/-- In two streams that agree up to the end of a message, behind other messages of at least two
bytes, the message is treated in the same way: whatever follows it, however the streams are cut
into pieces, and whatever the buffers held at first. -/
def OwnBytesOnly (m : Message) : Prop :=
  ∀ (around : Surroundings) (con : ClientConnection) (earlier : List Message),
    (∀ other ∈ earlier, 2 ≤ other.1.length) →
    ∀ (memory₁ memory₂ : Block bufSize) (chunks₁ chunks₂ : List CArray) (s₁ s₂ : Intake),
      run (Intake.step around) (Intake.fresh con memory₁) chunks₁ = some s₁ →
      run (Intake.step around) (Intake.fresh con memory₂) chunks₂ = some s₂ →
      Message.stream (earlier ++ [m]) <+: chunks₁.flatten →
      Message.stream (earlier ++ [m]) <+: chunks₂.flatten →
      s₁.treated[earlier.length]? = s₂.treated[earlier.length]?

section Short

variable {m : Message}

/-- The second byte of the type is not a byte of the message. -/
theorem eibType_of_short {payload : CArray} (hshort : payload.length < 2) (size : ℕ) (b : Byte) :
    eibType (payload ++ List.replicate (size + 2) b) = .ok (joinBytes (payload.headD b) b) := by
  match payload, hshort with
  | [], _ => rfl
  | [_], _ => rfl

/-- A buffer that holds exactly one message. -/
theorem treated_feedOut {around : Surroundings} {s : Intake} {con : ClientConnection}
    (hcon : s.con = some con) (hframe : framing.IsFrame s.recvbuf) :
    (s.feedOut around).treated = (s.next around s.array s.recvbuf.length).treated := by
  obtain ⟨_, hrounds⟩ := Nat.exists_eq_succ_of_ne_zero (framing.size_pos hframe).ne'
  rw [feedOut, hrounds, feedLoop_of_size hcon hframe, hrounds]
  split
  · rfl
  · rw [feedLoop_of_none]
    · rfl
    · rw [consume, ← hrounds, drop_length]
      exact size_nil

/-- A short message in a buffer that is filled with some byte. -/
theorem type_of_short (hshort : m.1.length < 2) (b : Byte) :
    ∃ s, run (Intake.step {}) (Intake.fresh { addr := 0 } ⟨List.replicate bufSize b, by simp⟩)
        [m.frame] = some s ∧
      s.treated[0]?.map Treatment.type = some (.ok (joinBytes (m.1.headD b) b)) := by
  have hlength := m.length_frame
  have hnonempty : m.frame ≠ [] := ne_nil_of_length_pos (by omega)
  let s : Intake := (fresh { addr := 0 } ⟨replicate bufSize b, by simp⟩).take m.frame
  have hstep : step {} (fresh { addr := 0 } ⟨replicate bufSize b, by simp⟩)
      m.frame = some (s.feedOut {}) := by
    refine if_pos ⟨rfl, hnonempty, ?_⟩
    simp only [fresh, length_replicate, bufSize]
    omega
  refine ⟨s.feedOut {}, ?_, ?_⟩
  · rw [run, hstep]
    rfl
  · have hbehind : s.array.drop 2 = m.1 ++ replicate (bufSize - m.frame.length - 2 + 2) b := by
      change m.1 ++ (replicate bufSize b).drop m.frame.length = _
      rw [drop_replicate, Nat.sub_add_cancel (by rw [bufSize]; omega)]
    rw [treated_feedOut rfl m.isFrame, Progress.treated_next rfl]
    change some (eibType (s.array.drop 2)) = _
    rw [hbehind, eibType_of_short hshort]

end Short

theorem own_bytes_only (m : Message) : OwnBytesOnly m ↔ 2 ≤ m.1.length := by
  constructor
  · intro hown
    by_contra hshort
    obtain ⟨s₁, hrun₁, htype₁⟩ := type_of_short (not_le.1 hshort) 0
    obtain ⟨s₂, hrun₂, htype₂⟩ := type_of_short (not_le.1 hshort) 1
    have hstream : stream ([] ++ [m]) <+: [m.frame].flatten := prefix_rfl
    have hsame := hown {} { addr := 0 } [] (by simp) _ _ _ _ s₁ s₂ hrun₁ hrun₂ hstream hstream
    rw [length_nil] at hsame
    rw [← hsame, htype₁, Option.some.injEq, Except.ok.injEq] at htype₂
    have htoNat := congrArg BitVec.toNat htype₂
    rw [Application.toNat_joinBytes, Application.toNat_joinBytes] at htoNat
    have hzero : (0 : Byte).toNat = 0 := rfl
    have hone : (1 : Byte).toNat = 1 := rfl
    omega
  · intro hlength around con earlier hearlier memory₁ memory₂ chunks₁ chunks₂ s₁ s₂ hrun₁ hrun₂
      hread₁ hread₂
    have hgood : ∀ other ∈ earlier ++ [m], 2 ≤ other.1.length := by
      intro other hother
      rcases mem_append.1 hother with hbefore | hlast
      · exact hearlier other hbefore
      · rwa [mem_singleton.1 hlast]
    have htreated₁ := ((follows_fresh around con memory₁).run hrun₁).treated hgood hread₁
    have htreated₂ := ((follows_fresh around con memory₂).run hrun₂).treated hgood hread₂
    have hlast : earlier.length < (earlier ++ [m]).length := by simp
    calc
      s₁.treated[earlier.length]? = (s₁.treated.take (earlier ++ [m]).length)[earlier.length]? :=
        (getElem?_take_of_lt hlast).symm
      _ = (s₂.treated.take (earlier ++ [m]).length)[earlier.length]? := by
        rw [htreated₁, htreated₂]
      _ = s₂.treated[earlier.length]? := getElem?_take_of_lt hlast

/-- An empty message is an invalid request if nothing follows it, and a reset if the length of
another message follows that reads so. -/
theorem empty_message_misread : ∃ s₁ s₂,
      run (Intake.step {}) (Intake.fresh { addr := 0x1105 } ⟨List.replicate bufSize 0, by simp⟩)
        [[0x00, 0x00]] = some s₁ ∧
      run (Intake.step {}) (Intake.fresh { addr := 0x1105 } ⟨List.replicate bufSize 0, by simp⟩)
        [[0x00, 0x00, 0x00, 0x04]] = some s₂ ∧
      s₁.treated = [⟨.ok 0x0000, .ok ({ addr := 0x1105 }, [.sendmessage [0x00, 0x00]])⟩] ∧
      s₂.treated = [⟨.ok 0x0004, .ok ({ addr := 0x1105 }, [.sendmessage [0x00, 0x04]])⟩] ∧
      ¬ OwnBytesOnly ⟨[], by decide⟩ := by
  obtain ⟨⟨s₁, hrun₁, htreated₁⟩, s₂, hrun₂, htreated₂⟩ :
      (∃ s, run (step {}) (fresh { addr := 0x1105 } ⟨replicate bufSize 0, by simp⟩)
        [[0x00, 0x00]] = some s ∧ s.treated =
          [⟨.ok 0x0000, .ok ({ addr := 0x1105 }, [.sendmessage [0x00, 0x00]])⟩]) ∧
      ∃ s, run (step {}) (fresh { addr := 0x1105 } ⟨replicate bufSize 0, by simp⟩)
        [[0x00, 0x00, 0x00, 0x04]] = some s ∧ s.treated =
          [⟨.ok 0x0004, .ok ({ addr := 0x1105 }, [.sendmessage [0x00, 0x04]])⟩] := by
    decide +kernel
  refine ⟨s₁, s₂, hrun₁, hrun₂, htreated₁, htreated₂, fun hown => ?_⟩
  have hsame := hown {} { addr := 0x1105 } [] (by simp) _ _ _ _ s₁ s₂ hrun₁ hrun₂
    (by decide) (by decide)
  rw [htreated₁, htreated₂] at hsame
  revert hsame
  decide

end Knxd.Clients
