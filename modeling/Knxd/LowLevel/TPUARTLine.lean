import Knxd.LowLevel.TPUARTDelivery
import Knxd.Codec.Acceptance

/-!
# The line to a TPUART

The services with which a frame is passed to the chip, the reads of the receiver, and the timer that
supervises the chip.  A frame with more than fifty-six bytes of data does not fit the offsets of the
services; an acknowledgement on the bus makes the receiver read outside its buffer; and a chip that
does not answer a request for its state is asked for ever.  An unconfirmed frame is sent five times.
-/

namespace Knxd.TPUART

open Memory LPDU List TPUARTwrap Option Function Nat
open Transition (Path anyEvent run run_append exists_path)

/-! ## What the chip makes of a frame -/

/-- A chip stores each byte at the offset in the service byte before it; the service that ends the
data ends the frame. -/
def chipFrame (memory : ℕ → Byte) : CArray → Option CArray
  | c :: byte :: rest =>
    let offset := (c &&& 0x3f).toNat
    let stored := Function.update memory offset byte
    if c &&& 0xC0 = 0x40 then some ((List.range (offset + 1)).map stored)
    else chipFrame stored rest
  | _ => none

def offsets : CArray → List ℕ
  | c :: _ :: rest => (c &&& 0x3f).toNat :: offsets rest
  | _ => []

section Encoding

variable {memory : ℕ → Byte} {l : LDataPDU} {frame : CArray}

theorem service_spec (size index : ℕ) : (service size index &&& 0x3f).toNat = index % 64 ∧
    (service size index &&& 0xC0 = 0x40 ↔ index + 1 = size) := by
  have hbits : ∀ c : Byte, let more : Byte := 0x80 ||| (c &&& 0x3f)
      (more &&& 0x3f = c &&& 0x3f ∧ more &&& 0xC0 ≠ 0x40) ∧
        (((more &&& 0x3f) ||| 0x40) &&& 0x3f = c &&& 0x3f ∧
          ((more &&& 0x3f) ||| 0x40) &&& 0xC0 = 0x40) := by
    decide
  obtain ⟨⟨hmore, hgoes⟩, hlast, hends⟩ := hbits (BitVec.ofNat 8 index)
  have hoffset : (BitVec.ofNat 8 index &&& 0x3f : Byte).toNat = index % 64 := by
    rw [BitVec.toNat_and, BitVec.toNat_ofNat]
    exact (and_two_pow_sub_one_eq_mod _ 6).trans (mod_mod_of_dvd index (by norm_num))
  unfold service
  dsimp only
  split
  · next hsize => exact ⟨(congrArg BitVec.toNat hlast).trans hoffset, iff_of_true hends hsize⟩
  · next hsize => exact ⟨(congrArg BitVec.toNat hmore).trans hoffset, iff_of_false hgoes hsize⟩

theorem offsets_services (frame : CArray) :
    offsets (services frame) = (List.range frame.length).map (· % 64) := by
  have hfrom : ∀ (size start : ℕ) (rest : CArray),
      offsets ((rest.zipIdx start).flatMap fun sent => [service size sent.2, sent.1]) =
        (range' start rest.length).map (· % 64) := by
    intro size start rest
    induction rest generalizing start with
    | nil => rfl
    | cons _ _ ih =>
      exact congrArg₂ cons (service_spec size start).1 (ih (start + 1))
  rw [range_eq_range']
  exact hfrom frame.length 0 frame

/-- Storing the next byte of a frame. -/
theorem map_update_range {done : CArray} (hdone : (List.range done.length).map memory = done)
    (byte : Byte) : (List.range (done.length + 1)).map (Function.update memory done.length byte) =
      done ++ [byte] := by
  rw [range_succ, map_append, map_singleton, update_self]
  refine congrArg (· ++ [byte]) (Eq.trans (map_congr_left fun index hindex => ?_) hdone)
  exact update_of_ne (mem_range.1 hindex).ne _ _

/-- The rest of a frame, when the bytes before it are stored. -/
theorem chipFrame_rest {size : ℕ} (hfits : size ≤ 64) {done rest : CArray} {byte : Byte}
    (hsize : done.length + rest.length + 1 = size)
    (hdone : (List.range done.length).map memory = done) :
    chipFrame memory (((byte :: rest).zipIdx done.length).flatMap fun (byte, index) =>
      [service size index, byte]) = some (done ++ byte :: rest) := by
  induction rest generalizing done byte memory with
  | nil =>
    obtain ⟨hoffset, hends⟩ := service_spec size done.length
    rw [mod_eq_of_lt (by omega)] at hoffset
    change (if service size done.length &&& 0xC0 = 0x40 then _ else _) = _
    rw [if_pos (hends.2 hsize), hoffset, map_update_range hdone]
  | cons next _ ih =>
    obtain ⟨hoffset, hends⟩ := service_spec size done.length
    rw [mod_eq_of_lt (by omega)] at hoffset
    rw [length_cons] at hsize
    have hrest := @ih (update memory done.length byte) (done ++ [byte]) next
      (by simp; omega) (by simpa using map_update_range hdone byte)
    rw [length_append, append_assoc] at hrest
    change (if service size done.length &&& 0xC0 = 0x40 then _ else _) = _
    rw [if_neg (fun hlast => absurd (hends.1 hlast) (by omega)), hoffset]
    exact hrest

/-- A chip has sixty-four places. -/
theorem length_of_chipFrame {bytes : CArray} (hframe : chipFrame memory bytes = some frame) :
    frame.length ≤ 64 := by
  fun_induction chipFrame memory bytes with
  | case1 _ c =>
    cases hframe
    have hoffset : ∀ c : Byte, (c &&& 0x3f).toNat < 64 := by decide
    rw [length_map, length_range]
    exact hoffset c
  | case2 _ _ _ _ _ _ _ ih => exact ih hframe
  | case3 => cases hframe

theorem chipFrame_services_iff (hframe : frame ≠ []) :
    chipFrame memory (services frame) = some frame ↔ frame.length ≤ 64 := by
  refine ⟨length_of_chipFrame, fun hfits => ?_⟩
  obtain ⟨byte, rest, rfl⟩ := exists_cons_of_ne_nil hframe
  exact @chipFrame_rest memory _ hfits [] rest byte (by simp) rfl

theorem nodup_offsets_iff : (offsets (services frame)).Nodup ↔ frame.length ≤ 64 := by
  rw [offsets_services]
  constructor
  · intro hnodup
    have hle := @List.Nodup.subperm ℕ _ (range 64) hnodup fun offset hmem => ?_
    · simpa using hle.length_le
    · obtain ⟨_, -, rfl⟩ := mem_map.1 hmem
      exact mem_range.2 (mod_lt _ (by norm_num))
  · intro hfits
    refine nodup_range.map_on fun first hfirst second hsecond heq => ?_
    rw [mem_range] at hfirst hsecond
    omega

theorem length_of_toPacket (hframe : l.toPacket = .ok frame) :
    frame.length = l.data.length + if l.data.length ≤ 16 then 7 else 8 := by
  obtain ⟨_, hpos, hrest⟩ := bind_eq_ok_iff.1 hframe
  obtain ⟨_, hmax, hrest⟩ := bind_eq_ok_iff.1 hrest
  obtain ⟨_, -, hrest⟩ := bind_eq_ok_iff.1 hrest
  cases hrest
  have hpos := of_require hpos
  have hmax := of_require hmax
  rw [length_append]
  by_cases hshort : l.data.length ≤ 16
  · rw [frameBody_standard hpos hshort, if_pos hshort]
    simp
  · rw [frameBody_extended (by omega) hmax, if_neg hshort]
    simp

/-- The chip gets back what `send_L_Data` took, and no offset is used twice, exactly for frames with
at most fifty-six bytes of data. -/
theorem encoding_recoverable_iff {t next : TPUARTwrap} (hsend : t.sendLData l = .ok next)
    (memory : ℕ → Byte) : ∃ frame, l.toPacket = .ok frame ∧
      (chipFrame memory (services frame) = some frame ↔ l.data.length ≤ 56) ∧
      ((offsets (services frame)).Nodup ↔ l.data.length ≤ 56) := by
  obtain ⟨-, -, hsend⟩ := bind_eq_ok_iff.1 hsend
  obtain ⟨frame, hframe, -⟩ := bind_eq_ok_iff.1 hsend
  have hlength : frame.length ≤ 64 ↔ l.data.length ≤ 56 := by
    rw [length_of_toPacket hframe]
    split <;> omega
  refine ⟨frame, hframe, ?_, nodup_offsets_iff.trans hlength⟩
  exact (chipFrame_services_iff (toPacket_ne_nil hframe)).trans hlength

theorem encoding_recoverable_telegram : ∃ next, ({} : TPUARTwrap).sendLData telegram = .ok next ∧
    ∃ frame, telegram.toPacket = .ok frame ∧
      (chipFrame (fun _ => 0) (services frame) = some frame ↔ telegram.data.length ≤ 56) ∧
      ((offsets (services frame)).Nodup ↔ telegram.data.length ≤ 56) :=
  ⟨_, rfl, encoding_recoverable_iff (t := {}) (l := telegram) rfl fun _ => 0⟩

/-- The last byte of a frame with fifty-seven bytes of data goes to the place of the first. -/
theorem offset_used_twice : ∃ l next frame, ({} : TPUARTwrap).sendLData l = .ok next ∧
    l.toPacket = .ok frame ∧ frame.length = 65 ∧
    chipFrame (fun _ => 0) (services frame) = some [frame.getLast?.getD 0] := by
  refine ⟨{ data := replicate 57 0x81 }, _, _, rfl, rfl, ?_⟩
  decide +kernel

end Encoding

/-! ## Reads outside the buffers -/

section Safety

/-- One call of `recv_Data`, with the router's answers for each byte. -/
def TPUARTwrap.recvDataCall (cfg : Config) (t : TPUARTwrap) (bytes : List (Answers × Byte)) :
    Run TPUARTwrap :=
  if t.state < .start then pure t
  else bytes.foldlM (fun t byte => t.recvByte cfg byte.1 byte.2) t

/-- No frame has been started, and the byte is an acknowledgement on the bus. -/
def TakesBusAck (t : TPUARTwrap) (c : Byte) : Prop :=
  t.inBuf = [] ∧ t.skipChar = false ∧ classify c = .busAck

variable (cfg : Config) (answers : Answers) {t : TPUARTwrap} {ext : ℕ}

theorem returns_fromPacket (data : CArray) : Returns (fromPacket data) := by
  unfold fromPacket
  split
  · exact returns_ok none
  rw [readAt_of_lt (by omega), ok_bind]
  split
  · exact returns_ok none
  split
  · obtain ⟨hnone, -⟩ | ⟨l, hsome, -⟩ := Acceptance.init_decides data
    · exact ⟨none, hnone⟩
    · exact ⟨some l, hsome⟩
  · exact returns_ok none

theorem returns_recvLPDU (t : TPUARTwrap) (data : CArray) : Returns (t.recvLPDU data) := by
  unfold recvLPDU
  split
  · exact returns_ok _
  split
  · obtain ⟨packet, hpacket⟩ := returns_fromPacket data
    rw [hpacket, ok_bind]
    cases packet <;> exact returns_ok _
  · exact returns_ok t

theorem returns_isEcho (hhead : 6 + ext ≤ t.inBuf.length) : Returns (t.isEcho ext) := by
  unfold isEcho
  split
  · exact returns_ok false
  rw [readAt_of_lt (by omega), ok_bind, readAt_of_lt (by omega), ok_bind]
  split
  · exact returns_ok false
  rw [readPart_of_le (by omega), ok_bind, readPart_of_le (by omega), ok_bind]
  exact returns_ok _

theorem returns_ackInformation (hhead : 6 + ext ≤ t.inBuf.length) :
    Returns (t.ackInformation cfg answers ext) := by
  have hflags : (if ext = 1 then 1 else 5) < t.inBuf.length := by split <;> omega
  unfold ackInformation
  rw [readAt_of_lt hflags, ok_bind, readAt_of_lt (by omega), ok_bind, readAt_of_lt (by omega),
    ok_bind]
  exact returns_ok _

theorem acknowledge_ok (hhead : 6 + ext ≤ t.inBuf.length) :
    ∃ next, t.acknowledge cfg answers ext = .ok next ∧ next.inBuf = t.inBuf := by
  unfold acknowledge
  split
  · obtain ⟨_, hecho⟩ := returns_isEcho hhead
    obtain ⟨c, hc⟩ := returns_ackInformation cfg answers hhead
    rw [hecho, ok_bind, hc]
    split <;> exact ⟨_, rfl, rfl⟩
  · exact ⟨t, rfl, rfl⟩

/-- Each read of `in_check` is covered by a test of the length of `in`. -/
theorem returns_inCheck (hinBuf : t.inBuf ≠ []) : Returns (t.inCheck cfg answers) := by
  have hcheck (ext : ℕ) : Returns (t.checkFrame cfg answers ext) := by
    unfold checkFrame
    split
    · next hhead =>
      obtain ⟨next, hnext, hsame⟩ := acknowledge_ok cfg answers hhead
      have hfield : (if ext = 1 then 6 else 5) < next.inBuf.length := by
        rw [hsame]
        split <;> omega
      obtain ⟨len, hlen⟩ : Returns (next.frameLength ext) := by
        rw [frameLength, readAt_of_lt hfield]
        exact returns_ok _
      obtain ⟨passed, hpassed⟩ : Returns next.passFrame := by
        unfold passFrame
        split
        · exact returns_ok next
        · exact returns_recvLPDU next next.inBuf
      rw [hnext, ok_bind, complete, hlen, ok_bind, hpassed]
      split <;> exact returns_ok _
    · exact returns_ok t
  unfold inCheck
  rw [readAt_of_lt (length_pos_iff.2 hinBuf), ok_bind]
  obtain ⟨_, hchecked⟩ := hcheck (if byteAt t.inBuf 0 &&& 0x80 = 0 then 1 else 0)
  rw [hchecked]
  exact returns_ok _

theorem returns_recvByte_iff (t : TPUARTwrap) (c : Byte) :
    Returns (t.recvByte cfg answers c) ↔ ¬ TakesBusAck t c := by
  unfold recvByte
  by_cases hinBuf : t.inBuf = []
  · rw [if_neg (not_not.2 hinBuf)]
    cases hskipChar : t.skipChar with
    | true => simp [TakesBusAck, hskipChar]
    | false =>
      cases hservice : classify c with
      | busAck => simp [TakesBusAck, hinBuf, hskipChar, hservice, readPart]
      | frameStart => simp [TakesBusAck, hinBuf, hservice]
      | resetAck | confirmation | ncnIndication | stateIndication | unknown =>
        simp [TakesBusAck, hservice]
  · rw [if_pos hinBuf]
    exact iff_of_true (returns_inCheck cfg answers (by simp)) fun htakes => hinBuf htakes.1

theorem returns_loop_iff (bytes : List (Answers × Byte)) (t : TPUARTwrap) :
    Returns (bytes.foldlM (fun t byte => t.recvByte cfg byte.1 byte.2) t) ↔
      ∀ before answers c after reached, bytes = before ++ (answers, c) :: after →
        before.foldlM (fun t byte => t.recvByte cfg byte.1 byte.2) t = .ok reached →
          ¬ TakesBusAck reached c := by
  induction bytes generalizing t with
  | nil => simp
  | cons first bytes ih =>
    obtain ⟨answers, c⟩ := first
    rw [foldlM_cons]
    constructor
    · rintro ⟨last, hlast⟩ before answers' c' after reached hbytes hreached
      obtain ⟨next, hnext, hlast⟩ := bind_eq_ok_iff.1 hlast
      cases before with
      | nil =>
        cases hbytes
        cases hreached
        exact (returns_recvByte_iff cfg answers t c).1 ⟨next, hnext⟩
      | cons _ before =>
        cases hbytes
        rw [foldlM_cons, hnext, ok_bind] at hreached
        exact (ih next).1 ⟨last, hlast⟩ before answers' c' after reached rfl hreached
    · intro hsafe
      obtain ⟨next, hnext⟩ := (returns_recvByte_iff cfg answers t c).2
        (hsafe [] answers c bytes t rfl rfl)
      rw [hnext, ok_bind]
      refine (ih next).2 fun before answers' c' after reached hbytes hreached => ?_
      refine hsafe ((answers, c) :: before) answers' c' after reached (by rw [hbytes]; rfl) ?_
      rw [foldlM_cons, hnext, ok_bind, hreached]

/-- Whatever the state is and whatever arrives, all reads are inside `in` and `out` and the
assertion holds, unless an acknowledgement on the bus arrives while no frame is being received. -/
theorem reception_safe_iff (t : TPUARTwrap) (bytes : List (Answers × Byte)) :
    Returns (t.recvDataCall cfg bytes) ↔ (.start ≤ t.state →
      ∀ before answers c after reached, bytes = before ++ (answers, c) :: after →
        t.recvDataCall cfg before = .ok reached → ¬ TakesBusAck reached c) := by
  unfold recvDataCall
  by_cases hdropped : t.state < .start
  · simp [hdropped]
  · simp only [if_neg hdropped, not_lt.1 hdropped, true_implies]
    exact returns_loop_iff cfg bytes t

/-- The chip is online, and an acknowledgement on the bus is received. -/
theorem bus_ack_read_outside : ∃ t : TPUARTwrap, Path (step {}) anyEvent boot t ∧
    t.state = .wait ∧ t.inBuf = [] ∧ t.recvDataCall {} [({}, 0xCC)] = .error .outOfBounds :=
  exists_path [.started, .recvData [0x03], .byte {}, .recvData [0x07], .byte {}]
    (by decide +kernel)

end Safety

/-! ## A chip that is silent -/

/-- What supervises the chip, and how often an error was reported. -/
structure Supervision where
  state : TState
  retry : ℕ
  timer : Bool
  reading : CArray
  errors : ℕ

namespace Supervision

/-- What the timer does when it expires. -/
def expire (s : Supervision) : Supervision :=
  match s.state with
  | .inReset => if s.retry < 3 then { s with retry := s.retry + 1 } else { s with state := .error }
  | .inSetaddr => { s with state := .inGetstate }
  | .inGetstate =>
    if s.retry > 5 then { s with state := .new, timer := false, errors := s.errors + 1 } else s
  | .wait => { s with state := .waitKeepalive }
  | .waitMore => { s with state := .wait }
  | .waitKeepalive => if s.retry < 3 then { s with state := .inReset, retry := 1 } else s
  | .error | .new | .start | .isOnline | .busmonitor => { s with timer := false }

/-- The chip is asked again and again: nothing counts the requests for its state. -/
def Polls (s : Supervision) : Prop :=
  s.reading = [] ∧ s.timer = true ∧ ((s.state = .inSetaddr ∨ s.state = .inGetstate) ∧ s.retry ≤ 5 ∨
    (s.state = .wait ∨ s.state = .waitMore ∨ s.state = .waitKeepalive) ∧ 3 ≤ s.retry)

/-- How often the timer can expire before an error is reported. -/
def left (s : Supervision) : ℕ :=
  if s.timer then
    match s.state with
    | .waitMore => 6
    | .wait => 5
    | .waitKeepalive => 4
    | .inReset => 4 - min s.retry 3
    | .inSetaddr => 2
    | _ => 1
  else 0

end Supervision

section Silence

variable {cfg : Config} {t next : TPUARTwrap} {event : Event}

open Supervision

theorem setstate_eq {state : TState} (hstays : .isOnline ≤ t.state ∨ state < .isOnline) :
    t.setstate cfg state = t.enterState cfg state := by
  rw [setstate, reportOnline, if_neg]
  rintro ⟨hbefore, hafter⟩
  exact hstays.elim (fun hle => not_lt.2 hle hbefore) fun hlt => not_lt.2 hafter hlt

/-- The events while no byte arrives and the line stays as it is. -/
def Silent : Event → Prop
  | .timer | .sendtimer | .sendNext | .sendLData _ => True
  | _ => False

end Silence

/-! ## The copies of a frame -/

section Copies

variable {cfg : Config} {t : TPUARTwrap} {l : LDataPDU}

theorem xorAll_flip (byte flip : Byte) (rest : CArray) :
    xorAll ((byte ^^^ flip) :: rest) = xorAll (byte :: rest) ^^^ flip :=
  calc rest.foldl (· ^^^ ·) (0 ^^^ (byte ^^^ flip))
      = rest.foldl (· ^^^ ·) (flip ^^^ (0 ^^^ byte)) := by
        rw [← BitVec.xor_assoc, BitVec.xor_comm]
    _ = flip ^^^ xorAll (byte :: rest) := foldl_assoc
    _ = xorAll (byte :: rest) ^^^ flip := BitVec.xor_comm _ _

/-- The flag and the checksum are changed together. -/
theorem clearRepeatFlag_append (byte : Byte) (rest : CArray) :
    clearRepeatFlag (byte :: rest ++ [~~~ xorAll (byte :: rest)]) =
      (byte &&& 0xDF) :: rest ++ [~~~ xorAll ((byte &&& 0xDF) :: rest)] := by
  have hbit : ∀ byte : Byte, byte &&& 0xDF = if byte &&& 0x20 ≠ 0 then byte ^^^ 0x20 else byte := by
    decide
  rw [hbit]
  change (if byte &&& 0x20 ≠ 0 then _ else _) = _
  split
  · rw [xorAll_flip, BitVec.not_xor_left]
    simp [modify_eq_take_cons_drop]
  · rfl

/-- The bytes of a frame. -/
def frame (l : LDataPDU) : CArray := l.frameBody ++ [~~~ xorAll l.frameBody]

@[simp]
theorem frame_ne_nil : frame l ≠ [] := by simp [frame]

/-- What is kept for the next copy is the frame as a repeated one. -/
theorem clearRepeatFlag_frame : clearRepeatFlag (frame l) = frame { l with repeated := true } := by
  have hcontrol : ∀ standard, controlByte standard l.prio true =
      controlByte standard l.prio l.repeated &&& 0xDF := by
    cases l.prio <;> cases l.repeated <;> decide
  simp only [frame, LDataPDU.frameBody, hcontrol]
  split <;> exact clearRepeatFlag_append _ _

/-- The frame was taken, and the send timer has expired `k` times since. -/
def sent (t : TPUARTwrap) (l : LDataPDU) (k : ℕ) : TPUARTwrap :=
  { t with
    out := frame { l with repeated := true }
    sendRetry := k
    sendtimer := true
    log := replicate k (.sendData (services (frame { l with repeated := true }))) ++
      .sendData (services (frame l)) :: .accepted (frame l) t.state :: t.log }

variable (hreading : t.reading = []) (hfree : t.nextFree = true)
  (honline : .isOnline < t.state ∧ t.state < .busmonitor)
include hreading hfree honline

theorem step_sendtimer {k : ℕ} (hk : ¬ 3 < k) :
    step cfg (sent t l k) .sendtimer = some (sent t l (k + 1)) := by
  simp [step, outsideStep, hreading, sendtimerCb, sent, hk, sendAgain, honline, hfree, call,
    clearRepeatFlag_frame, replicate_succ]

variable (hout : t.out = []) (hretry : t.sendRetry = 0) (hpos : 1 ≤ l.data.length)
  (hmax : l.data.length ≤ 255) (hhop : l.hopcount.toNat < 8)
include hout hretry hpos hmax hhop

theorem run_sendtimer {k : ℕ} (hk : k ≤ 4) :
    run (step cfg) t (.sendLData l :: replicate k .sendtimer) = some (sent t l k) := by
  induction k with
  | zero =>
    have hframe : l.toPacket = .ok (frame l) := toPacket_of_bounds hpos hmax hhop
    simp [run, step, outsideStep, hreading, sendLData, require, hout, hframe, sendAgain, call,
      honline, hfree, sent, hretry, clearRepeatFlag_frame, Except.toOption]
  | succ k ih =>
    rw [replicate_succ', ← cons_append, run_append _ (ih (le_of_succ_le hk)), run,
      step_sendtimer hreading hfree honline (by omega)]
    rfl

/-- As long as a frame is not confirmed, each of the first four expiries of the send timer sends it
once more, as a repeated one that is decoded to the same frame; the fifth ends in `T_error`. -/
theorem frame_resent :
    (∀ k ≤ 4, run (step cfg) t (.sendLData l :: replicate k .sendtimer) = some (sent t l k)) ∧
      run (step cfg) t (.sendLData l :: replicate 5 .sendtimer) = some { sent t l 4 with
        sendRetry := 5, sendtimer := false, timer := true, state := .error } ∧
      ∀ repeated,
        init (frame { l with repeated }) = .ok (some { l.decodedForm with repeated }) := by
  have hrun {k : ℕ} (hk : k ≤ 4) :=
    @run_sendtimer cfg t l hreading hfree honline hout hretry hpos hmax hhop k hk
  refine ⟨fun k => hrun, ?_, fun _ => init_frameBody hpos hmax hhop⟩
  have herror : TState.error < .isOnline := by decide
  rw [replicate_succ', ← cons_append, run_append _ (hrun le_rfl), run]
  simp [step, outsideStep, hreading, sendtimerCb, sent, setstate_eq (.inr herror), enterState, run]

end Copies

theorem frame_resent_telegram : ∃ s, run (step {}) { boot with state := .wait }
    (.sendLData { data := [0x00, 0x81] } :: replicate 5 .sendtimer) = some s ∧ s.state = .error :=
  ⟨_, (frame_resent rfl rfl (by decide) rfl rfl (by decide) (by decide) (by decide)).2.1, rfl⟩

end Knxd.TPUART
