import Knxd.Core.Memory
import Knxd.Core.Transition

/-!
# The FT1.2 link

`FT12wrap` packs messages into frames for a serial line and unpacks the frames that come
back.  One frame at a time is on its way to the device, until the device answers with the
byte `0xE5`.  In the other direction each frame is answered with that byte, and one bit of
its control byte, which changes from frame to frame, tells a new frame from a repeated one.

The layers above and below are called in the middle of `process_read`, of `trigger_cb` and
of `do_send_Next`, and may call back before they return.  The model keeps the calls that
have not returned yet on a stack: a step either lets the function on top go on, or is a
call from outside.  In `process_read`, an acknowledgement and what follows it in the same
pass of the loop are one step, since what the driver below may call in between concerns
other fields.
-/

namespace Knxd.FT12

open Memory

structure Frame where
  control : Byte
  payload : CArray
  deriving DecidableEq, Repr

def Frame.isData (frame : Frame) : Prop :=
  frame.control = 0xD3 ∨ frame.control = 0xF3
  deriving Decidable

inductive Pending
  /-- The head of the loop of `process_read`. -/
  | loop (isTimeout : Bool)
  /-- `process_read` after it has told the upper layer that its frame arrived. -/
  | acknowledged (isTimeout : Bool)
  /-- `process_read` after it has treated the first bytes, which it removes then. -/
  | remove (count : ℕ) (isTimeout : Bool)
  /-- `do_send_Next` behind its `process_read`. -/
  | sendNextTail
  /-- `trigger_cb` after it has passed the frame to the driver below. -/
  | transmitted
  deriving DecidableEq, Repr

/-- Calls of the layers above and below. -/
inductive Call
  /-- The byte `0xE5`; for a frame of fixed length without the frame. -/
  | answer (frame : Option Frame)
  /-- The payload of a frame goes up. -/
  | recvFrame (frame : Frame)
  /-- The reset indication that stands for a frame of fixed length. -/
  | recvReset
  | sendNext
  | transmit (bytes : CArray)
  | ifaceStart
  | ifaceStop
  deriving DecidableEq, Repr

/-- `FT12wrap`, its call stack and the calls that it made, newest first. -/
structure FT12wrap where
  sendflag : Bool := false
  recvflag : Bool := false
  out : CArray := []
  akt : CArray := []
  last : CArray := []
  repeatcount : ℕ := 0
  sendWait : Bool := false
  nextFree : Bool := true
  inReader : Bool := false
  triggerActive : Bool := false
  trigger : Bool := false
  timer : Bool := false
  sendtimer : Bool := false
  stack : List Pending := []
  log : List Call := []
  fault : Option Fault := none
  deriving DecidableEq, Repr

/-- What `process_read` finds. -/
inductive Verdict
  | incomplete
  | acknowledgement
  | fixed (control : Byte)
  /-- A frame of variable length with its checksum, and all its bytes. -/
  | frame (frame : Frame) (length : ℕ)
  /-- Bytes to be dropped. -/
  | drop (count : ℕ)
  /-- The start of a frame that does not go on like one. -/
  | broken
  deriving DecidableEq, Repr

/-- The sum of the bytes that a frame of variable length announces. -/
def checksum (bytes : CArray) : Byte :=
  bytes.foldl (· + ·) 0

/-- The branches of the loop of `process_read`. -/
def examine (akt : CArray) : Run Verdict := do
  let first ← readAt akt 0
  if first = 0xE5 then pure .acknowledgement
  else if first = 0x10 then
    if akt.length < 4 then pure .incomplete
    else
      let control ← readAt akt 1
      let again ← readAt akt 2
      let stop ← readAt akt 3
      if control = again ∧ stop = 0x16 then pure (.fixed control) else pure (.drop 1)
  else if first = 0x68 then
    if akt.length < 7 then pure .incomplete
    else
      let size ← readAt akt 1
      let again ← readAt akt 2
      let start ← readAt akt 3
      if size ≠ again ∨ start ≠ 0x68 then pure .broken
      else if akt.length < size.toNat + 6 then pure .incomplete
      else
        let content ← readPart akt 4 size.toNat
        let sum ← readAt akt (size.toNat + 4)
        let stop ← readAt akt (size.toNat + 5)
        if sum ≠ checksum content ∨ stop ≠ 0x16 then pure (.drop (size.toNat + 6))
        else
          let control ← readAt akt 4
          if control = 0xD3 ∨ control = 0xF3 then
            let payload ← readPart akt 5 (size.toNat - 1)
            pure (.frame ⟨control, payload⟩ (size.toNat + 6))
          else pure (.frame ⟨control, []⟩ (size.toNat + 6))
  else pure (.drop 1)

namespace FT12wrap

def push (t : FT12wrap) (pending : Pending) : FT12wrap :=
  { t with stack := pending :: t.stack }

def call (t : FT12wrap) (c : Call) : FT12wrap :=
  { t with log := c :: t.log }

/-- `trigger.send()`, which has no effect on a watcher that is not started. -/
def sendTrigger (t : FT12wrap) : FT12wrap :=
  { t with trigger := t.triggerActive }

/-- The frame that `do_send_Local` builds around a message. -/
def packed (sendflag : Bool) (l : CArray) : CArray :=
  let control : Byte := if sendflag then 0x53 else 0x73
  let size : Byte := BitVec.ofNat 8 (l.length + 1)
  [0x68, size, size, 0x68, control] ++ l ++ [checksum (control :: l), 0x16]

def doSendLocal (t : FT12wrap) (l : CArray) (raw : Bool) : FT12wrap :=
  if t.out ≠ [] then t
  else
    let queued :=
      if raw then { t with out := l }
      else { t with out := packed t.sendflag l, sendflag := !t.sendflag }
    if t.sendWait then queued else queued.sendTrigger

def sendData (t : FT12wrap) (l : CArray) : FT12wrap :=
  t.doSendLocal l false

def sendReset (t : FT12wrap) : FT12wrap :=
  t.doSendLocal [0x10, 0x40, 0x40, 0x16] true

/-- `trigger_cb` up to the call of the driver below. -/
def triggerCb (t : FT12wrap) : FT12wrap :=
  if t.sendWait ∨ t.nextFree = false then t
  else if t.out = [] then t
  else ({ t with repeatcount := t.repeatcount + 1 }.push .transmitted).call (.transmit t.out)

def sendtimerCb (t : FT12wrap) : FT12wrap :=
  { t with sendWait := false }.sendTrigger

/-- `do__send_Next`. -/
def frameArrived (t : FT12wrap) : FT12wrap :=
  { t with out := [], sendtimer := false }.call .sendNext

/-- `process_read` up to its loop. -/
def processRead (t : FT12wrap) (isTimeout : Bool) : FT12wrap :=
  if t.inReader then t else { t with inReader := true, timer := false }.push (.loop isTimeout)

/-- The end of `process_read`. -/
def finishRead (t : FT12wrap) : FT12wrap :=
  { t with timer := t.timer || !t.akt.isEmpty, inReader := false }

def expected (recvflag : Bool) : Byte :=
  if recvflag then 0xD3 else 0xF3

def repeated (recvflag : Bool) : Byte :=
  if recvflag then 0xF3 else 0xD3

/-- A frame of variable length is answered; then it is delivered, or dropped as a repetition, or
dropped for its number. -/
def onFrame (t : FT12wrap) (frame : Frame) : FT12wrap :=
  let answered := t.call (.answer (some frame))
  if frame.control = repeated t.recvflag then
    if frame.payload ≠ t.last then { answered with recvflag := !t.recvflag } else answered
  else if frame.control = expected t.recvflag then
    { answered with recvflag := !t.recvflag, last := frame.payload }.call (.recvFrame frame)
  else answered

def onFixed (t : FT12wrap) (control : Byte) : FT12wrap :=
  let answered := t.call (.answer none)
  let counted :=
    if control = expected t.recvflag then { answered with recvflag := !t.recvflag } else answered
  if control &&& 0x0f = 0 then counted.call .recvReset else counted

/-- One pass of the loop of `process_read`. -/
def treat (t : FT12wrap) (isTimeout : Bool) : Verdict → FT12wrap
  | .incomplete => t.finishRead
  | .acknowledgement =>
    let taken := { t with akt := t.akt.drop 1 }
    if t.sendWait then
      ({ taken with sendWait := false }.push (.acknowledged isTimeout)).frameArrived
    else taken.push (.loop isTimeout)
  | .fixed control => (t.push (.remove 4 isTimeout)).onFixed control
  | .frame frame length => (t.push (.remove length isTimeout)).onFrame frame
  | .drop count => { t with akt := t.akt.drop count }.push (.loop isTimeout)
  | .broken =>
    if isTimeout then { t with akt := t.akt.drop 2 }.push (.loop isTimeout)
    else { t with akt := t.akt.drop 1 }.finishRead

def readLoop (t : FT12wrap) (isTimeout : Bool) : FT12wrap :=
  if t.akt ≠ [] ∧ t.nextFree then
    match examine t.akt with
    | .error fault => { t with fault := some fault }
    | .ok verdict => t.treat isTimeout verdict
  else t.finishRead

def recvData (t : FT12wrap) (c : CArray) : FT12wrap :=
  { t with akt := t.akt ++ c }.processRead false

/-- The end of `do_send_Next`. -/
def sendNextTail (t : FT12wrap) : FT12wrap :=
  if t.nextFree ∧ t.sendWait then { t with sendWait := false }.sendTrigger else t

def doSendNext (t : FT12wrap) : FT12wrap :=
  let free := { t with nextFree := true }
  if t.akt = [] then free.sendNextTail else (free.push .sendNextTail).processRead false

def start (t : FT12wrap) : FT12wrap :=
  { t with
    trigger := t.triggerActive && t.trigger
    triggerActive := true
    sendflag := false, recvflag := false, nextFree := true, sendWait := false, inReader := false
    repeatcount := 0 }.call .ifaceStart

def stop (t : FT12wrap) : FT12wrap :=
  { t with timer := false, sendtimer := false, triggerActive := false, trigger := false }.call
    .ifaceStop

def resume (t : FT12wrap) : Pending → FT12wrap
  | .loop isTimeout => t.readLoop isTimeout
  | .acknowledged isTimeout => { t with repeatcount := 0 }.push (.loop isTimeout)
  | .remove count isTimeout => { t with akt := t.akt.drop count }.push (.loop isTimeout)
  | .sendNextTail => t.sendNextTail
  | .transmitted => { t with sendWait := true, timer := true }

def outside (t : FT12wrap) : Bool :=
  match t.stack with
  | [] | .acknowledged _ :: _ | .remove _ _ :: _ | .transmitted :: _ => true
  | .loop _ :: _ | .sendNextTail :: _ => false

end FT12wrap

inductive Event
  | resume
  | start
  | stop
  | sendData (l : CArray)
  | sendReset
  | sendLocal (l : CArray) (raw : Bool)
  | sendNext
  | recvData (c : CArray)
  | timer
  | sendtimer
  | trigger
  deriving DecidableEq, Repr

/-- One step; none if the program was aborted or the event cannot happen.  The driver is started
and its watchers are served by the event loop. -/
def step (t : FT12wrap) (event : Event) : Option FT12wrap :=
  if t.fault.isSome then none
  else
    match event with
    | .resume =>
      match t.stack with
      | [] => none
      | pending :: rest => some ({ t with stack := rest }.resume pending)
    | .start => if t.stack = [] then some t.start else none
    | .stop => if t.outside then some t.stop else none
    | .sendData l => if t.outside then some (t.sendData l) else none
    | .sendReset => if t.outside then some t.sendReset else none
    | .sendLocal l raw => if t.outside then some (t.doSendLocal l raw) else none
    | .sendNext => if t.outside then some t.doSendNext else none
    | .recvData c => if t.outside then some (t.recvData c) else none
    | .timer =>
      if t.stack = [] ∧ t.timer then some ({ t with timer := false }.processRead true) else none
    | .sendtimer =>
      if t.stack = [] ∧ t.sendtimer then some { t with sendtimer := false }.sendtimerCb else none
    | .trigger =>
      if t.stack = [] ∧ t.trigger then some { t with trigger := false }.triggerCb else none

def boot : FT12wrap := FT12wrap.start {}

end Knxd.FT12
