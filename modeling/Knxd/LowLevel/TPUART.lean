import Knxd.Codec.LPDU
import Knxd.Core.Transition

/-!
# The TPUART driver

`TPUARTwrap` talks to a bus transceiver chip on a serial line.  It brings the chip up (reset,
address, state request), supervises it by a state request after ten quiet seconds, takes the
frames that the chip receives byte by byte, and sends one frame at a time, each byte of it behind
a service byte.

What the layers above and below do when they are called is delayed by their own watchers, so that
they never call back.  A call from outside is therefore one step; only the bytes of one call of
`recv_Data` are treated in a step each, and nothing else happens until they are used up.  That the
line was stopped comes as a call of its own.
-/

namespace Knxd.TPUART

open Memory LPDU

inductive TState
  | new
  | error
  | start
  | inReset
  | inSetaddr
  | inGetstate
  | isOnline
  | wait
  | waitMore
  | waitKeepalive
  | busmonitor
  deriving DecidableEq, Repr

def TState.code : TState → ℕ
  | .new => 0
  | .error => 1
  | .start => 11
  | .inReset => 12
  | .inSetaddr => 13
  | .inGetstate => 14
  | .isOnline => 19
  | .wait => 20
  | .waitMore => 21
  | .waitKeepalive => 22
  | .busmonitor => 30

theorem TState.code_injective : Function.Injective TState.code := by
  intro left right hcode
  cases left <;> cases right <;> simp [TState.code] at hcode ⊢

instance : LinearOrder TState := LinearOrder.lift' TState.code TState.code_injective

/-- What `setup` reads. -/
structure Config where
  ackallgroup : Bool := false
  ackallindividual : Bool := false
  monitor : Bool := false
  myAddr : Addr := 0

inductive Call
  | accepted (frame : CArray) (state : TState)
  | sendData (bytes : CArray)
  | ifaceStop
  | sendNext
  | started
  | stopped
  | errored
  | recvLData (l : LDataPDU)
  | recvLBusmonitor (pdu : CArray)
  deriving DecidableEq, Repr

/-- `TPUARTwrap`, the bytes that `recv_Data` has not treated yet, and what has passed, newest
first. -/
structure TPUARTwrap where
  nextFree : Bool := true
  sendWait : Bool := false
  timer : Bool := false
  sendtimer : Bool := false
  /-- `in`. -/
  inBuf : CArray := []
  out : CArray := []
  retry : ℕ := 0
  sendRetry : ℕ := 0
  acked : Bool := false
  recvecho : Bool := false
  skipChar : Bool := false
  state : TState := .new
  reading : CArray := []
  log : List Call := []
  deriving DecidableEq, Repr

/-- The service byte in front of a byte of a frame; the last one ends the frame. -/
def service (size index : ℕ) : Byte :=
  let c : Byte := 0x80 ||| (BitVec.ofNat 8 index &&& 0x3f)
  if index + 1 = size then (c &&& 0x3f) ||| 0x40 else c

def services (out : CArray) : CArray :=
  out.zipIdx.flatMap fun (byte, index) => [service out.length index, byte]

/-- A frame becomes a repeated one, with its checksum, for the copies that follow. -/
def clearRepeatFlag (out : CArray) : CArray :=
  if byteAt out 0 &&& 0x20 ≠ 0 then
    (out.modify 0 (· ^^^ 0x20)).modify (out.length - 1) (· ^^^ 0x20)
  else out

namespace TPUARTwrap

def call (t : TPUARTwrap) (c : Call) : TPUARTwrap :=
  { t with log := c :: t.log }

def sendAgain (t : TPUARTwrap) : TPUARTwrap :=
  if t.out ≠ [] ∧ .isOnline < t.state ∧ t.state < .busmonitor then
    if t.nextFree = false then { t with sendWait := true }
    else
      { t.call (.sendData (services t.out)) with
        sendtimer := true, out := clearRepeatFlag t.out }
  else t

def sendLData (t : TPUARTwrap) (l : LDataPDU) : Run TPUARTwrap := do
  require (t.out.length = 0)
  let frame ← l.toPacket
  pure ({ t with out := frame }.call (.accepted frame t.state)).sendAgain

def doSendNext (t : TPUARTwrap) : TPUARTwrap :=
  let free := { t with nextFree := true }
  if t.sendWait then { free with sendWait := false }.sendAgain else free

/-- `do__send_Next`: the frame is done, and the next one may come. -/
def frameDone (t : TPUARTwrap) : TPUARTwrap :=
  { t with out := [], sendRetry := 0, sendtimer := false }.call .sendNext

/-- The first part of `setstate`: coming online is reported. -/
def reportOnline (cfg : Config) (t : TPUARTwrap) (newState : TState) : TPUARTwrap × TState :=
  if t.state < .isOnline ∧ .isOnline ≤ newState then
    if cfg.monitor then (t.call .started, .busmonitor)
    else if newState < .busmonitor then ((t.call .started).sendAgain, newState)
    else (t.call .started, newState)
  else (t, newState)

def requestState (t : TPUARTwrap) (state : TState) : TPUARTwrap :=
  { t.call (.sendData [0x02]) with timer := true, state := state }

/-- The switch of `setstate`. -/
def enterState (cfg : Config) (t : TPUARTwrap) : TState → TPUARTwrap
  | .start | .inReset =>
    { t.call (.sendData [0x01]) with
      retry := if t.state = .inReset then t.retry + 1 else 1
      timer := true
      state := .inReset }
  | .inSetaddr =>
    let addressed :=
      if cfg.myAddr ≠ 0 then
        t.call (.sendData [0x28, highByte cfg.myAddr, lowByte cfg.myAddr])
      else t
    addressed.requestState .inGetstate
  | .inGetstate => t.requestState .inGetstate
  | .busmonitor => { t.call (.sendData [0x05]) with state := .busmonitor }
  | .isOnline =>
    { t.frameDone with timer := true, acked := false, recvecho := false, state := .wait }
  | .wait => { t with timer := true, acked := false, recvecho := false, state := .wait }
  | .waitMore => { t with timer := true, state := .waitMore }
  | .waitKeepalive => t.requestState .waitKeepalive
  | .error => { t with timer := true, state := .error }
  | .new => { t with state := .new }

def setstate (cfg : Config) (t : TPUARTwrap) (newState : TState) : TPUARTwrap :=
  let reported := t.reportOnline cfg newState
  reported.1.enterState cfg reported.2

def started (cfg : Config) (t : TPUARTwrap) : TPUARTwrap :=
  (t.setstate cfg .new).setstate cfg .start

def stopped (cfg : Config) (t : TPUARTwrap) : TPUARTwrap :=
  (t.setstate cfg .new).call .stopped

def sendtimerCb (cfg : Config) (t : TPUARTwrap) : TPUARTwrap :=
  let counted := { t with sendRetry := t.sendRetry + 1 }
  if t.sendRetry > 3 then counted.setstate cfg .error else counted.sendAgain

def timerCb (cfg : Config) (t : TPUARTwrap) : TPUARTwrap :=
  match t.state with
  | .error => t.call .ifaceStop
  | .inReset => if t.retry < 3 then t.setstate cfg .inReset else t.setstate cfg .error
  | .inGetstate =>
    if t.retry > 5 then (t.call .errored).setstate cfg .new else t.setstate cfg .inGetstate
  | .inSetaddr =>
    (t.call (.sendData [highByte cfg.myAddr, lowByte cfg.myAddr])).setstate cfg .inGetstate
  | .wait => t.setstate cfg .waitKeepalive
  | .waitMore => { t with inBuf := [] }.setstate cfg .wait
  | .waitKeepalive => if t.retry < 3 then t.setstate cfg .inReset else t.setstate cfg .waitKeepalive
  | .new | .start | .isOnline | .busmonitor => t

end TPUARTwrap

/-- `LPDU::fromPacket` where it makes an `L_Data_PDU`. -/
def fromPacket (c : CArray) : Run (Option LDataPDU) :=
  if c.length < 1 then pure none
  else do
    let c0 ← readAt c 0
    if c0 = 0xCC ∨ c0 = 0xC0 ∨ c0 = 0x0C then pure none
    else if c0 &&& 0x53 = 0x10 then init c
    else pure none

inductive Service
  | resetAck
  /-- Both confirmations. -/
  | confirmation
  /-- Frame end and frame state of the NCN5120. -/
  | ncnIndication
  | stateIndication
  /-- Acknowledge, not-acknowledge and busy on the bus. -/
  | busAck
  | frameStart
  | unknown
  deriving DecidableEq, Repr

/-- The tests of `recv_Data`, in their order. -/
def classify (c : Byte) : Service :=
  if c = 0x03 then .resetAck
  else if c = 0x8B then .confirmation
  else if c = 0xCB then .ncnIndication
  else if c = 0x0B then .confirmation
  else if c &&& 0x17 = 0x13 then .ncnIndication
  else if c &&& 0x07 = 0x07 then .stateIndication
  else if c = 0xCC ∨ c = 0xC0 ∨ c = 0x0C then .busAck
  else if c &&& 0x50 = 0x10 then .frameStart
  else .unknown

/-- The answers of the router to `checkSysAddress` and `checkSysGroupAddress`. -/
structure Answers where
  checkSysAddress : Addr → Bool := fun _ => false
  checkSysGroupAddress : Addr → Bool := fun _ => false

namespace TPUARTwrap

def recvLPDU (t : TPUARTwrap) (data : CArray) : Run TPUARTwrap :=
  if t.state = .busmonitor then pure (t.call (.recvLBusmonitor data))
  else if .start < t.state then do
    match ← fromPacket data with
    | none => pure t
    | some l => pure (if l.validChecksum then t.call (.recvLData l) else t)
  else pure t

/-- The received frame begins like the one that is being sent; `ext` is 1 for an extended
frame. -/
def isEcho (t : TPUARTwrap) (ext : ℕ) : Run Bool :=
  if t.out.length < 6 + ext then pure false
  else do
    let received ← readAt t.inBuf 0
    let sent ← readAt t.out 0
    if (received ^^^ sent) &&& ~~~ 0x20 ≠ 0 then pure false
    else
      let received ← readPart t.inBuf 1 (5 + ext)
      let sent ← readPart t.out 1 (5 + ext)
      pure (received = sent)

def ackInformation (cfg : Config) (answers : Answers) (t : TPUARTwrap) (ext : ℕ) : Run Byte := do
  let flags ← readAt t.inBuf (if ext = 1 then 1 else 5)
  let high ← readAt t.inBuf (3 + ext)
  let low ← readAt t.inBuf (4 + ext)
  let dest := joinBytes high low
  let known :=
    if flags &&& 0x80 = 0 then cfg.ackallindividual || answers.checkSysAddress dest
    else cfg.ackallgroup || answers.checkSysGroupAddress dest
  pure (if known then 0x11 else 0x10)

def acknowledge (cfg : Config) (answers : Answers) (t : TPUARTwrap) (ext : ℕ) :
    Run TPUARTwrap :=
  if t.acked = false ∧ t.recvecho = false ∧ cfg.myAddr = 0 ∧ .isOnline ≤ t.state ∧
      t.state < .busmonitor then do
    if ← t.isEcho ext then pure { t with recvecho := true }
    else
      let c ← t.ackInformation cfg answers ext
      pure { t.call (.sendData [c]) with acked := true }
  else pure t

def frameLength (t : TPUARTwrap) (ext : ℕ) : Run ℕ := do
  let field ← readAt t.inBuf (if ext = 1 then 6 else 5)
  pure ((if ext = 1 then field.toNat else (field &&& 0x0f).toNat) + 6 + ext + 2)

def passFrame (t : TPUARTwrap) : Run TPUARTwrap :=
  if t.recvecho then pure t else t.recvLPDU t.inBuf

def complete (t : TPUARTwrap) (ext : ℕ) : Run TPUARTwrap := do
  let len ← t.frameLength ext
  if len ≤ t.inBuf.length then
    let passed ← t.passFrame
    pure { passed with inBuf := [] }
  else pure t

/-- The end of `in_check`. -/
def awaitMore (cfg : Config) (t : TPUARTwrap) : TPUARTwrap :=
  if .isOnline < t.state ∧ t.state < .busmonitor then
    if t.inBuf = [] then t.setstate cfg .wait else t.setstate cfg .waitMore
  else t

/-- `in_check` for a frame whose head has arrived. -/
def checkFrame (cfg : Config) (answers : Answers) (t : TPUARTwrap) (ext : ℕ) : Run TPUARTwrap :=
  if 6 + ext ≤ t.inBuf.length then do
    let acknowledged ← t.acknowledge cfg answers ext
    acknowledged.complete ext
  else pure t

def inCheck (cfg : Config) (answers : Answers) (t : TPUARTwrap) : Run TPUARTwrap := do
  let first ← readAt t.inBuf 0
  let checked ← t.checkFrame cfg answers (if first &&& 0x80 = 0 then 1 else 0)
  pure (checked.awaitMore cfg)

def stateIndication (cfg : Config) (t : TPUARTwrap) : TPUARTwrap :=
  match t.state with
  | .waitKeepalive => t.setstate cfg .wait
  | .inSetaddr => t.setstate cfg .inGetstate
  | .inGetstate => t.setstate cfg .isOnline
  | _ => t

/-- One pass of the loop of `recv_Data`. -/
def recvByte (cfg : Config) (answers : Answers) (t : TPUARTwrap) (c : Byte) : Run TPUARTwrap :=
  if t.inBuf ≠ [] then { t with inBuf := t.inBuf ++ [c] }.inCheck cfg answers
  else if t.skipChar then pure { t with skipChar := false }
  else
    match classify c with
    | .resetAck => pure (if t.state = .inReset then t.setstate cfg .inSetaddr else t)
    | .confirmation => pure (if t.out.length = 0 ∨ t.state < .isOnline then t else t.frameDone)
    | .ncnIndication => pure t
    | .stateIndication => pure (t.stateIndication cfg)
    | .busAck => do
        -- the byte is taken from `in`, not from `c`
        let data ← readPart t.inBuf 0 1
        t.recvLPDU data
    | .frameStart => do
        require (t.inBuf = [])
        pure { t with inBuf := t.inBuf ++ [c] }
    | .unknown => pure { t with acked := false }

/-- `recv_Data` up to its loop. -/
def recvData (t : TPUARTwrap) (c : CArray) : TPUARTwrap :=
  if t.state < .start then t else { t with reading := c }

end TPUARTwrap

inductive Event
  | byte (answers : Answers)
  | recvData (c : CArray)
  | sendNext
  | started
  | stopped
  | errored
  | sendLData (l : LDataPDU)
  | timer
  | sendtimer

/-- Everything but the next byte of a call of `recv_Data`. -/
def outsideStep (cfg : Config) (t : TPUARTwrap) : Event → Option TPUARTwrap
  | .byte _ => none
  | .recvData c => some (t.recvData c)
  | .sendNext => some t.doSendNext
  | .started => some (t.started cfg)
  | .stopped => some (t.stopped cfg)
  | .errored => some (t.call .errored)
  | .sendLData l => (t.sendLData l).toOption
  | .timer => if t.timer then some ({ t with timer := false }.timerCb cfg) else none
  | .sendtimer => if t.sendtimer then some ({ t with sendtimer := false }.sendtimerCb cfg) else none

def step (cfg : Config) (t : TPUARTwrap) (event : Event) : Option TPUARTwrap :=
  match t.reading with
  | [] => outsideStep cfg t event
  | c :: rest =>
    match event with
    | .byte answers => ({ t with reading := rest }.recvByte cfg answers c).toOption
    | _ => none

def boot : TPUARTwrap := {}

end Knxd.TPUART
