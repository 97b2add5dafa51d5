import Knxd.Codec.EMI
import Knxd.Core.Transition

/-!
# EMI1, EMI2 and cEMI drivers

A low-level stack has an EMI driver on top and some other driver below, which talks to
the device.  The EMI driver opens and closes the device's link layer with local commands:
`send_Local` passes a command down, and the next `send_Next` from below, or a timeout,
completes it.  What happens then depends on `sendLocal_done_next`, which each command sets
before it is sent.  Only one local command may be on its way.

The three drivers share `EMI_Common` and differ in their commands; `FT12CEMIDriver`, a
`CEMIDriver` whose `cmdOpen` is a local command, is left out.  The calls they make
into the driver below are the last thing each function does, so what that driver calls
in return is an event of its own.
-/

namespace Knxd.LowLevel

open Memory LPDU EMI

inductive Kind
  | emi1
  | emi2
  | cemi
  deriving DecidableEq, Repr

/-- `sendLocal_done_next`; no driver has all the values. -/
inductive DoneNext
  | nBad
  | nUp
  | nWantClose
  | nWantLeave
  | nDown
  | nOpen
  | nEnter
  | nReset
  deriving DecidableEq, Repr

inductive EState
  | idle
  | timedOut
  | wait
  | waitConfirm
  deriving DecidableEq, Repr

/-- Calls of the upper layer (`master`) and of the driver below (`iface`). -/
inductive Call
  | started
  | stopped
  | errored
  | sendNext
  | recvLData (l : LDataPDU)
  | recvLBusmonitor (status : Byte) (timestamp : ℕ) (pdu : CArray)
  | ifaceStart
  | ifaceStop
  | ifaceSendReset
  | ifaceSendData (c : CArray)
  | ifaceSendLocal (d : CArray)
  deriving DecidableEq, Repr

structure Driver where
  kind : Kind
  monitor : Bool := false
  maxRetries : ℤ := 3
  /-- What lies behind the command of `EMI1Driver::cmdOpen` on the stack: its length is
  taken from another variable and is too large. -/
  stackBytes : CArray := []
  sendLocalDoneNext : DoneNext := .nBad
  /-- `is_local`; the timer `local_timeout` runs as long as this is set. -/
  isLocal : Bool := false
  waitConfirmLow : Bool := false
  /-- `reset_ack_wait` of EMI2, `after_reset` of cEMI. -/
  resetWait : Bool := false
  resetTimer : Bool := false
  state : EState := .idle
  timeout : Bool := false
  out : CArray := []
  retries : ℕ := 0
  fault : Option Fault := none
  /-- The driver below was started, and neither stopped nor reported that it stopped. -/
  lowerOpen : Bool := false
  /-- The driver below has not answered its last `start`. -/
  starting : Bool := false
  /-- The upper layer was told `stopped` and has not called `start` since. -/
  down : Bool := true
  /-- The driver below was started while it was open. -/
  reopened : Bool := false
  /-- The assertion of `send_Local` failed. -/
  overlap : Bool := false
  log : List Call := []
  deriving DecidableEq, Repr

namespace Driver

def call (t : Driver) (c : Call) : Driver :=
  { t with log := c :: t.log }

def stopped (t : Driver) : Driver :=
  { t.call .stopped with down := true }

def ifaceStart (t : Driver) : Driver :=
  { t.call .ifaceStart with
    reopened := t.reopened || t.lowerOpen, lowerOpen := true, starting := true }

def ifaceStop (t : Driver) : Driver :=
  { t.call .ifaceStop with lowerOpen := false, starting := false }

def sendLocal (t : Driver) (d : CArray) : Driver :=
  if t.isLocal then { t with fault := some .assertion, overlap := true }
  else { t.call (.ifaceSendLocal d) with isLocal := true }

def command (t : Driver) (next : DoneNext) (d : CArray) : Driver :=
  { t with sendLocalDoneNext := next }.sendLocal d

def cmdEnterMonitor (t : Driver) : Driver :=
  match t.kind with
  | .emi1 => t.command .nUp [0x46, 0x01, 0x00, 0x60, 0x90]
  | .emi2 => t.command .nEnter [0xa9, 0x1E, 0x12, 0x34, 0x56, 0x78, 0x9a]
  | .cemi => (t.call .errored).stopped

def cmdLeaveMonitor (t : Driver) : Driver :=
  match t.kind with
  | .emi1 => t.command .nDown [0x46, 0x01, 0x00, 0x60, 0xc0]
  | .emi2 =>
    if t.waitConfirmLow then { t with sendLocalDoneNext := .nWantLeave }
    else t.command .nDown [0xa9, 0x1E, 0x12, 0x34, 0x56, 0x78, 0x9a]
  | .cemi => (t.call .errored).stopped

def cmdOpen (t : Driver) : Driver :=
  match t.kind with
  | .emi1 => t.command .nOpen ([0x46, 0x01, 0x01, 0x16, 0x00] ++ t.stackBytes)
  | .emi2 => t.command .nOpen [0xa9, 0x1E, 0x12, 0x34, 0x56, 0x78, 0x9a]
  | .cemi => t.call .started

def cmdClose (t : Driver) : Driver :=
  match t.kind with
  | .emi1 =>
    if t.waitConfirmLow then { t with sendLocalDoneNext := .nWantClose }
    else t.command .nDown [0x46, 0x01, 0x00, 0x60, 0xc0]
  | .emi2 =>
    if t.waitConfirmLow then { t with sendLocalDoneNext := .nWantClose }
    else t.command .nDown [0xa9, 0x1E, 0x12, 0x34, 0x56, 0x78, 0x9a]
  | .cemi => t.stopped

/-- `EMI_Common::started`. -/
def commonStarted (t : Driver) : Driver :=
  if t.monitor then t.cmdEnterMonitor else t.cmdOpen

def sendLocalDoneCb (t : Driver) (success : Bool) : Driver :=
  if success = false ∨ t.sendLocalDoneNext = .nBad then (t.call .errored).stopped
  else
    match t.kind, t.sendLocalDoneNext with
    | .cemi, .nDown => t.stopped
    | _, .nDown => t.ifaceStop
    | _, .nUp => t.call .started
    | .emi1, .nOpen => t.command .nUp [0x46, 0x01, 0x00, 0x60, 0x12]
    | .emi2, .nOpen => t.command .nUp [0xa9, 0x00, 0x18, 0x34, 0x56, 0x78, 0x0a]
    | .emi2, .nEnter => t.command .nUp [0xa9, 0x90, 0x18, 0x34, 0x45, 0x67, 0x8a]
    | .cemi, .nReset => t.commonStarted
    | _, _ => t

def start (t : Driver) : Driver :=
  { t with state := .idle, down := false }.ifaceStart

def stop (t : Driver) : Driver :=
  if t.monitor then t.cmdLeaveMonitor else t.cmdClose

/-- `started` of the three drivers, called from below. -/
def started (t : Driver) : Driver :=
  match t.kind with
  | .emi1 => t.commonStarted
  | .emi2 | .cemi => { t with resetWait := true, resetTimer := true }.call .ifaceSendReset

/-- `EMI_Common::do_send_Next`. -/
def commonSendNext (t : Driver) : Driver :=
  match t.state with
  | .wait => { t with state := .waitConfirm }
  | .idle => t.call .sendNext
  | _ => t

/-- `do_send_Next` of the three drivers. -/
def doSendNext (t : Driver) : Driver :=
  match t.kind with
  | .emi1 =>
    if t.sendLocalDoneNext = .nWantClose then { t with waitConfirmLow := false }.cmdClose
    else t.commonSendNext
  | .emi2 =>
    if t.resetWait then { t with resetWait := false, resetTimer := false }.commonStarted
    else if t.sendLocalDoneNext = .nWantClose then { t with waitConfirmLow := false }.cmdClose
    else if t.sendLocalDoneNext = .nWantLeave then
      { t with waitConfirmLow := false }.cmdLeaveMonitor
    else t.commonSendNext
  | .cemi =>
    if t.resetWait then { t with resetWait := false, resetTimer := false }.commonStarted
    else t.commonSendNext

def sendNext (t : Driver) : Driver :=
  if t.isLocal then { t with isLocal := false }.sendLocalDoneCb true else t.doSendNext

def localTimeoutCb (t : Driver) : Driver :=
  { t with isLocal := false }.sendLocalDoneCb false

/-- `reset_timer_cb`; EMI2 never sets the callback of its timer. -/
def resetTimerCb (t : Driver) : Driver :=
  match t.kind with
  | .cemi => { t with resetTimer := false }.call .errored
  | .emi1 | .emi2 => { t with fault := some .abort }

def maxPacketLen : Kind → ℕ
  | .emi1 | .emi2 => 0x10
  | .cemi => 50

def lData2EMI (kind : Kind) (code : Byte) (l : LDataPDU) : Run CArray :=
  match kind with
  | .emi1 | .emi2 => .ok (lDataToEMI code l)
  | .cemi => lDataToCEMI code l

def emi2lData (kind : Kind) (data : CArray) : Run (Option LDataPDU) :=
  match kind with
  | .emi1 | .emi2 => emiToLData data
  | .cemi => cemiToLData data

/-- `getIndTypes`: confirmation, data and bus monitor indications. -/
def getIndTypes : Kind → Byte × Byte × Byte
  | .emi1 => (0x4E, 0x49, 0x49)
  | .emi2 | .cemi => (0x2E, 0x29, 0x2B)

def sendData (t : Driver) (pdu : CArray) : Driver :=
  { t with state := .wait, timeout := true }.call (.ifaceSendData pdu)

def sendLData (t : Driver) (l : LDataPDU) : Driver :=
  if t.state ≠ .idle then t
  else if l.data.length < 1 then { t with fault := some .assertion }
  else if maxPacketLen t.kind < l.data.length then t.call .sendNext
  else
    match lData2EMI t.kind 0x11 l with
    | .error fault => { t with fault := some fault }
    | .ok pdu => { t with out := pdu, retries := 0 }.sendData pdu

def timeoutCb (t : Driver) : Driver :=
  if t.state = .idle ∨ t.state = .timedOut then t
  else if t.state = .wait then { t with state := .timedOut }.call .errored
  else if t.state ≠ .waitConfirm then { t with fault := some .assertion }
  else if (t.retries + 1 : ℤ) ≤ t.maxRetries then
    { t with retries := t.retries + 1 }.sendData t.out
  else { t with retries := t.retries + 1, state := .idle }.call .sendNext

def recvData (t : Driver) (c : CArray) : Driver :=
  let (confirm, data, busmon) := getIndTypes t.kind
  if c.head? = some 0xA0 then t.call .errored
  else if c.head? = some confirm then
    if t.state = .waitConfirm then { t with state := .idle, timeout := false }.call .sendNext else t
  else if c.head? = some data ∧ t.monitor = false then
    match emi2lData t.kind c with
    | .error fault => { t with fault := some fault }
    | .ok none => t
    | .ok (some p) => t.call (.recvLData p)
  else if 4 < c.length ∧ c.head? = some busmon ∧ t.monitor then
    t.call (.recvLBusmonitor (byteAt c 1)
      ((byteAt c 2).toNat * 2 ^ 24 + (byteAt c 3).toNat * 2 ^ 16) (c.drop 4))
  else t

end Driver

inductive Event
  | start
  | stop
  | sendLData (l : LDataPDU)
  | started
  | stopped
  | errored
  | sendNext
  | recvData (c : CArray)
  | localTimeout
  | resetTimer
  | timeout
  deriving DecidableEq, Repr

def step (t : Driver) (event : Event) : Option Driver :=
  if t.fault.isSome then none
  else
    match event with
    | .start => some t.start
    | .stop => some t.stop
    | .sendLData l => some (t.sendLData l)
    | .started => some { t with starting := false }.started
    | .stopped => some { t with lowerOpen := false, starting := false }.stopped
    | .errored => some (t.call .errored)
    | .sendNext => some t.sendNext
    | .recvData c => some (t.recvData c)
    | .localTimeout => if t.isLocal then some t.localTimeoutCb else none
    | .resetTimer => if t.resetTimer then some t.resetTimerCb else none
    | .timeout => if t.timeout then some { t with timeout := false }.timeoutCb else none

structure SameControl (t next : Driver) : Prop where
  kind : next.kind = t.kind
  sendLocalDoneNext : next.sendLocalDoneNext = t.sendLocalDoneNext
  isLocal : next.isLocal = t.isLocal
  waitConfirmLow : next.waitConfirmLow = t.waitConfirmLow
  lowerOpen : next.lowerOpen = t.lowerOpen
  starting : next.starting = t.starting
  down : next.down = t.down
  reopened : next.reopened = t.reopened
  overlap : next.overlap = t.overlap

section Control

variable {t : Driver}

theorem sameControl_call (c : Call) : SameControl t (t.call c) :=
  ⟨rfl, rfl, rfl, rfl, rfl, rfl, rfl, rfl, rfl⟩

theorem sameControl_sendLData (l : LDataPDU) : SameControl t (t.sendLData l) := by
  unfold Driver.sendLData
  repeat' split
  all_goals exact ⟨rfl, rfl, rfl, rfl, rfl, rfl, rfl, rfl, rfl⟩

theorem sameControl_recvData (c : CArray) : SameControl t (t.recvData c) := by
  unfold Driver.recvData
  dsimp only
  repeat' split
  all_goals exact ⟨rfl, rfl, rfl, rfl, rfl, rfl, rfl, rfl, rfl⟩

theorem sameControl_timeoutCb : SameControl t { t with timeout := false }.timeoutCb := by
  unfold Driver.timeoutCb
  repeat' split
  all_goals exact ⟨rfl, rfl, rfl, rfl, rfl, rfl, rfl, rfl, rfl⟩

theorem sameControl_resetTimerCb : SameControl t t.resetTimerCb := by
  unfold Driver.resetTimerCb
  split <;> exact ⟨rfl, rfl, rfl, rfl, rfl, rfl, rfl, rfl, rfl⟩

theorem sameControl_commonSendNext : SameControl t t.commonSendNext := by
  unfold Driver.commonSendNext
  split <;> exact ⟨rfl, rfl, rfl, rfl, rfl, rfl, rfl, rfl, rfl⟩

end Control

end Knxd.LowLevel
