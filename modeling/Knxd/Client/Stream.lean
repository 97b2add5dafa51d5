import Knxd.Client.Connection
import Knxd.Core.Framing
import Knxd.LowLevel.IOBuf

/-!
# Messages in the stream of a client

A client writes its messages one after another into its socket, each behind its length in
two bytes.  `read` cuts the stream where it likes, and `RecvBuf` offers what has arrived to
`read_cb` until that finds no whole message.  As `read_cb` looks at the length and at the
number of bytes only, what it takes is the instance of `Framing` defined here, and the
buffer always holds the beginning of the message that comes next.
-/

namespace Knxd.Clients

open Memory LPDU IOBuf Streams Framing RecvBuf List
open Transition (Path runAllowed path_of_runAllowed exists_state)

/-- The number of bytes that `read_cb` takes, once there is a whole message. -/
def messageSize (buf : CArray) : Option ℕ :=
  if buf.length < 2 then none
  else if buf.length < (joinBytes (byteAt buf 0) (byteAt buf 1)).toNat + 2 then none
  else some ((joinBytes (byteAt buf 0) (byteAt buf 1)).toNat + 2)

abbrev Message := { m : CArray // m.length < 2 ^ 16 }

namespace Message

def frame (m : Message) : CArray :=
  EIBType.bytes (BitVec.ofNat 16 m.1.length) ++ m.1

def stream (messages : List Message) : CArray :=
  (messages.map frame).flatten

theorem length_frame (m : Message) : m.frame.length = m.1.length + 2 := by
  rw [frame, length_append, Nat.add_comm]
  rfl

end Message

def framing : Framing Byte where
  size := messageSize
  size_pos hsize := by
    unfold messageSize at hsize
    split_ifs at hsize
    cases hsize
    exact Nat.succ_pos _
  size_le hsize := by
    unfold messageSize at hsize
    split_ifs at hsize with hshort hpart
    cases hsize
    exact not_lt.1 hpart
  size_append more hsize := by
    unfold messageSize at hsize ⊢
    split_ifs at hsize with hshort hpart
    rw [byteAt_append_left _ (by omega), byteAt_append_left _ (by omega), List.length_append,
      if_neg (by omega), if_neg (by omega)]
    exact hsize

theorem Message.isFrame (m : Message) : framing.IsFrame m.frame := by
  have hlength := m.length_frame
  have hread : joinBytes (byteAt m.frame 0) (byteAt m.frame 1) = BitVec.ofNat 16 m.1.length :=
    joinBytes_highByte_lowByte _
  have hsize : (BitVec.ofNat 16 m.1.length).toNat = m.1.length := by
    rw [BitVec.toNat_ofNat, Nat.mod_eq_of_lt m.2]
  change messageSize m.frame = some m.frame.length
  rw [messageSize, hread, hsize, hlength, if_neg (by omega), if_neg (by omega)]

theorem isFrame_of_mem {messages : List Message} {frame : CArray}
    (hframe : frame ∈ messages.map Message.frame) : framing.IsFrame frame := by
  obtain ⟨m, -, rfl⟩ := mem_map.1 hframe
  exact m.isFrame

/-- `read_cb` looks for the first message, and handles it once it is there as a whole. -/
theorem readCb_eq (answers : Answers) (con : ClientConnection) {buf : CArray} {len : ℕ}
    (hlen : len ≤ buf.length) :
    con.readCb answers buf len =
      match messageSize (buf.take len) with
      | none => .ok (0, con, [])
      | some size =>
        con.handleMessage answers (buf.drop 2) (size - 2) >>= fun next => .ok (size, next) := by
  have htake : (buf.take len).length = len := length_take_of_le hlen
  unfold ClientConnection.readCb messageSize
  rw [htake]
  split
  · rfl
  · next hheader =>
    have hbyte {index : ℕ} (hindex : index < 2) :
        byteAt (buf.take len) index = byteAt buf index := by
      simp [byteAt, getElem?_take_of_lt (show index < len by omega)]
    have hword : wordAt buf 0 = .ok (joinBytes (byteAt buf 0) (byteAt buf 1)) := by
      rw [wordAt, readAt_of_lt (by omega), ok_bind, readAt_of_lt (by omega)]
      rfl
    rw [hword, ok_bind, hbyte zero_lt_two, hbyte one_lt_two]
    split <;> rfl

/-- The callbacks of a `ClientConnection`: `read_cb`, and `error_cb`, which stops the buffer
unless the descriptor is closed already. -/
def owner : Owner where
  onRead _ buf := ((messageSize buf).getD 0, [])
  onError log := if .onError ∈ log then [] else [.stop false]

/-- The message that `read_cb` finds, with its length. -/
def found : Call → Option CArray
  | .onRead buf => (messageSize buf).map buf.take
  | .onError => none

/-- The messages that `read_cb` has processed, each with its length. -/
def takenFrames (log : List Call) : List CArray :=
  log.reverse.filterMap found

/-- The messages that `read_cb` has processed. -/
def processed (log : List Call) : List CArray :=
  (takenFrames log).map (List.drop 2)

/-- The buffer after `start`, with the stream behind the descriptor. -/
def connected (fd : ℕ) (quick : Bool) (stream : CArray) : RecvBuf :=
  ({ quick, fd, input := stream } : RecvBuf).start owner

/-- `read` gives bytes, or there are none yet. -/
def Reads (t : RecvBuf) : IOBuf.Event → Prop
  | .io avail ending => (0 < avail ∧ t.input ≠ []) ∨ ending = .again
  | _ => False

instance (t : RecvBuf) : (event : IOBuf.Event) → Decidable (Reads t event)
  | .io _ _ => inferInstanceAs (Decidable ((_ ∧ _) ∨ _))
  | .call _ | .lowLatency | .arrive _ => inferInstanceAs (Decidable False)

section Feed

variable {t : RecvBuf}

structure Reading (t : RecvBuf) : Prop where
  running : t.running = true
  fault : t.fault = none
  active : t.active = true
  late : t.late = false

theorem onRead_owner (ht : Reading t) :
    t.onRead owner = { t with log := .onRead t.recvbuf :: t.log } := by
  simp [onRead, owner, ht.active, ht.late]

theorem takenFrames_cons (call : Call) (log : List Call) :
    takenFrames (call :: log) = takenFrames log ++ (found call).toList := by
  rw [takenFrames, reverse_cons, filterMap_append, takenFrames]
  cases hfound : found call <;> simp [hfound]

/-- `feed_out` hands every whole message to `read_cb` and keeps the rest. -/
theorem feedOut_owner (ht : Reading t) (hroom : (framing.split t.recvbuf).2.length < bufSize) :
    ∃ log, t.feedOut owner = { t with recvbuf := (framing.split t.recvbuf).2, log } ∧
      takenFrames log = takenFrames t.log ++ (framing.split t.recvbuf).1 ∧
      (.onError ∈ log → .onError ∈ t.log) := by
  generalize hbuf : t.recvbuf = buf at hroom
  induction buf using split_induction (f := framing) generalizing t with
  | rest buf hsize =>
    rw [split_of_none hsize] at hroom ⊢
    rw [feedOut_eq]
    by_cases hempty : buf = []
    · refine ⟨t.log, ?_, ?_, id⟩
      · rw [if_neg (by simp [hbuf, hempty]), ← hbuf]
      · rw [append_nil]
    · have htaken : t.taken owner = 0 := by
        change (messageSize t.recvbuf).getD 0 = 0
        rw [hbuf, show messageSize buf = none from hsize]
        rfl
      rw [if_pos ⟨ht.running, by rwa [hbuf], ht.fault⟩, if_pos htaken,
        if_neg (by rw [hbuf]; exact hroom.ne), onRead_owner ht]
      refine ⟨.onRead t.recvbuf :: t.log, ?_, ?_, ?_⟩
      · rw [← hbuf]
      · rw [takenFrames_cons, found, hbuf, show messageSize buf = none from hsize]
        rfl
      · simp
  | frame buf size hsize ih =>
    have hpos := framing.size_pos hsize
    have hle := framing.size_le hsize
    have hmessage : messageSize t.recvbuf = some size := by rw [hbuf]; exact hsize
    have htaken : t.taken owner = size := by
      change (messageSize t.recvbuf).getD 0 = size
      rw [hmessage]
      rfl
    have hconsume : t.consume owner =
        { t with recvbuf := buf.drop size, log := .onRead t.recvbuf :: t.log } := by
      rw [consume, onRead_owner ht, htaken, hbuf]
    have hnonempty : t.recvbuf ≠ [] := by
      intro hempty
      rw [← hbuf, hempty] at hle
      exact absurd hle (not_le.2 hpos)
    rw [split_of_size hsize] at hroom ⊢
    rw [feedOut_eq, if_pos ⟨ht.running, hnonempty, ht.fault⟩, if_neg (by omega),
      if_neg (by rw [htaken, hbuf]; omega), hconsume]
    obtain ⟨log, hfeed, hframes, herror⟩ :=
      ih (t := { t with recvbuf := buf.drop size, log := .onRead t.recvbuf :: t.log })
        { ht with } rfl hroom
    refine ⟨log, hfeed, ?_, ?_⟩
    · rw [hframes, takenFrames_cons, found, hmessage, append_assoc, hbuf]
      rfl
    · intro hlog
      simpa using herror hlog

end Feed

section Runs

variable {t t' : RecvBuf} {messages : List Message}

/-- Part of the stream was read: its messages were processed, and the buffer holds what
remained. -/
structure Follows (messages : List Message) (t : RecvBuf) : Prop extends Reading t where
  io : t.io = some t.fd
  noError : .onError ∉ t.log
  read : ∃ read, read ++ t.input = Message.stream messages ∧
    takenFrames t.log = (framing.split read).1 ∧ t.recvbuf = (framing.split read).2

theorem length_frame_le (hsizes : ∀ m ∈ messages, m.1.length ≤ 1022) :
    ∀ frame ∈ messages.map Message.frame, frame.length ≤ bufSize := by
  intro frame hframe
  obtain ⟨m, hm, rfl⟩ := mem_map.1 hframe
  have hsize := hsizes m hm
  rw [m.length_frame, bufSize]
  omega

section

variable (ht : Follows messages t)
include ht

/-- The buffer has room for another byte. -/
theorem Follows.room (hsizes : ∀ m ∈ messages, m.1.length ≤ 1022) : t.recvbuf.length < bufSize := by
  obtain ⟨read, hstream, -, hbuf⟩ := ht.read
  rw [hbuf]
  exact length_split_lt (fun _ => isFrame_of_mem) (length_frame_le hsizes)
    (by decide) hstream

/-- After another piece of the stream there is room again. -/
theorem Follows.room_take (hsizes : ∀ m ∈ messages, m.1.length ≤ 1022)
    (count : ℕ) : (framing.split (t.take count).recvbuf).2.length < bufSize := by
  obtain ⟨read, hstream, -, hbuf⟩ := ht.read
  have hmore : read ++ t.input.take count ++ t.input.drop count = Message.stream messages := by
    rw [append_assoc, take_append_drop, hstream]
  have hlt := length_split_lt (fun _ => isFrame_of_mem) (length_frame_le hsizes)
    (by decide) hmore
  rwa [split_append, ← hbuf] at hlt

theorem Follows.input_feedOut (hsizes : ∀ m ∈ messages, m.1.length ≤ 1022) (count : ℕ) :
    ((t.take count).feedOut owner).input = t.input.drop count := by
  obtain ⟨_, hfeed, -⟩ := feedOut_owner (t := t.take count)
    { ht with } (ht.room_take hsizes count)
  rw [hfeed]
  rfl

/-- Another piece of the stream is read and offered. -/
theorem Follows.feedOut (hsizes : ∀ m ∈ messages, m.1.length ≤ 1022)
    (count : ℕ) : Follows messages ((t.take count).feedOut owner) := by
  obtain ⟨_, hfeed, hlog, herror⟩ := feedOut_owner (t := t.take count)
    { ht with } (ht.room_take hsizes count)
  obtain ⟨read, hstream, hframes, hbuf⟩ := ht.read
  have hsplit := split_append (f := framing) read (t.input.take count)
  rw [← hbuf, ← hframes] at hsplit
  rw [hfeed]
  refine ⟨{ ht with }, ht.io, fun hmem => ht.noError (herror hmem),
    read ++ t.input.take count, ?_, ?_, ?_⟩
  · rw [append_assoc, ← hstream]
    exact congrArg (read ++ ·) (take_append_drop count t.input)
  · rw [hsplit]
    exact hlog
  · rw [hsplit]
    rfl

end

/-- What `io_cb` reads. -/
theorem ioCb_owner {avail : ℕ} {ending : ReadEnd} (hreads : Reads t (.io avail ending)) :
    ∃ count, t.ioCb owner avail ending = (t.take count).feedOut owner ∧
      count ≤ bufSize - t.recvbuf.length ∧
      (0 < avail → t.input ≠ [] → t.recvbuf.length < bufSize → 0 < count) := by
  rw [ioCb]
  rcases Nat.eq_zero_or_pos (min avail t.input.length) with hnone | hsome
  · refine ⟨0, ?_, Nat.zero_le _, ?_⟩
    · rw [hnone, readLoop, IOBuf.take_zero, if_neg]
      rintro ⟨-, -, hending⟩
      rcases hreads with ⟨havail, hinput⟩ | hagain
      · have hlength := length_pos_of_ne_nil hinput
        omega
      · exact hending hagain
    · intro havail hinput
      have hlength := length_pos_of_ne_nil hinput
      omega
  · refine ⟨min (min avail t.input.length) (bufSize - t.recvbuf.length), ?_, min_le_right _ _, ?_⟩
    · rw [readLoop_eq_take (.inl hsome) (min_le_right _ _)]
    · intro _ _ hroom
      omega

theorem Follows.ioCb_of_step (ht : Follows messages t) {event : IOBuf.Event}
    (hreads : Reads t event) (hstep : step owner t event = some t') :
    ∃ count, t' = (t.take count).feedOut owner ∧ count ≤ bufSize - t.recvbuf.length := by
  rw [IOBuf.step.eq_def, if_neg (by simp [ht.fault])] at hstep
  cases event with
  | io =>
    obtain ⟨-, ⟨⟩⟩ := Option.ite_none_right_eq_some.1 hstep
    obtain ⟨count, hio, hroom, -⟩ := ioCb_owner hreads
    exact ⟨count, hio, hroom⟩
  | _ => exact hreads.elim

theorem Follows.step (ht : Follows messages t) (hsizes : ∀ m ∈ messages, m.1.length ≤ 1022)
    {event : IOBuf.Event} (hreads : Reads t event) (hstep : step owner t event = some t') :
    Follows messages t' := by
  obtain ⟨count, rfl, -⟩ := ht.ioCb_of_step hreads hstep
  exact ht.feedOut hsizes count

theorem connected_eq (fd : ℕ) (quick : Bool) (stream : CArray) : connected fd quick stream =
      { quick, fd, input := stream, running := true, io := some (fd : ℤ), active := true } := by
  rw [connected, start, if_neg (by simp), if_neg (by simp)]
  rfl

theorem follows_connected (fd : ℕ) (quick : Bool) (messages : List Message) :
    Follows messages (connected fd quick (Message.stream messages)) := by
  rw [connected_eq]
  exact ⟨⟨rfl, rfl, rfl, rfl⟩, rfl, by simp, [], rfl, by simp [takenFrames], by simp⟩

theorem follows_of_path (hsizes : ∀ m ∈ messages, m.1.length ≤ 1022) {fd : ℕ} {quick : Bool}
    (hrun : Path (step owner) Reads (connected fd quick (Message.stream messages)) t) :
    Follows messages t := by
  apply hrun.invariant (Follows messages) (follows_connected fd quick messages)
  intro t event t' ht hreads hstep
  exact ht.step hsizes hreads hstep

theorem map_drop_frame (messages : List Message) :
    (messages.map Message.frame).map (List.drop 2) = messages.map Subtype.val := by
  rw [map_map]
  rfl

/-- However `read` cuts the stream of a client into pieces, `read_cb` processes exactly the
messages of the stream, in order and each with its own bytes; the buffer never overflows, and
it goes on reading until the stream was read. -/
theorem stream_chunked {messages : List Message} (hsizes : ∀ m ∈ messages, m.1.length ≤ 1022)
    (fd : ℕ) (quick : Bool)
    (hrun : Path (step owner) Reads (connected fd quick (Message.stream messages)) t) :
    processed t.log <+: messages.map Subtype.val ∧
      (t.input = [] → processed t.log = messages.map Subtype.val) ∧
      .onError ∉ t.log ∧
      ∀ avail ending, 0 < avail → t.input ≠ [] → ∃ t', step owner t (.io avail ending) = some t' ∧
        t'.input.length < t.input.length := by
  have ht := follows_of_path hsizes hrun
  obtain ⟨read, hstream, hframes, _⟩ := ht.read
  have hisFrame : ∀ frame ∈ messages.map Message.frame, framing.IsFrame frame :=
    fun _ => isFrame_of_mem
  obtain ⟨rest, hrest, _⟩ := exists_rest_of_append hisFrame hstream
  have hprocessed : processed t.log ++ rest.map (List.drop 2) = messages.map Subtype.val := by
    rw [processed, hframes, ← List.map_append, ← hrest, map_drop_frame]
  refine ⟨⟨_, hprocessed⟩, ?_, ht.noError, ?_⟩
  · intro hinput
    rw [hinput, List.append_nil] at hstream
    rw [processed, hframes, hstream, Message.stream, split_flatten hisFrame, map_drop_frame]
  · intro avail ending havail hinput
    have hreads : Reads t (.io avail ending) := .inl ⟨havail, hinput⟩
    obtain ⟨_, hio, -, hcount⟩ := ioCb_owner hreads
    have hpos := hcount havail hinput (ht.room hsizes)
    have hlength := List.length_pos_of_ne_nil hinput
    refine ⟨t.ioCb owner avail ending, ?_, ?_⟩
    · rw [IOBuf.step.eq_def, if_neg (by simp [ht.fault])]
      exact if_pos (by simp [ht.io])
    · rw [hio, ht.input_feedOut hsizes, List.length_drop]
      omega

/-- Two messages that arrive in three pieces, the first of which ends inside a length. -/
theorem stream_chunked_pieces : ∃ t, runAllowed (step owner) Reads
        (connected 3 false (Message.stream [⟨[0x00, 0x04], by decide⟩,
          ⟨[0x00, 0x22, 0x08, 0x01, 0x00], by decide⟩]))
        [.io 1 .again, .io 0 .again, .io 6 .again, .io 20 .failed] = some t ∧ t.input = [] ∧
      processed t.log = [[0x00, 0x04], [0x00, 0x22, 0x08, 0x01, 0x00]] ∧ .onError ∉ t.log := by
  refine exists_state (D := fun t => t.input = []) (by decide +kernel) fun t ht hinput => ?_
  obtain ⟨-, hall, hnoError, -⟩ := stream_chunked (by decide) 3 false (path_of_runAllowed ht)
  exact ⟨hinput, hall hinput, hnoError⟩

end Runs

end Knxd.Clients
