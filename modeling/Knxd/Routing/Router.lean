import Knxd.Core.Transition
import Knxd.Routing.Link

/-!
# The router and its links

The router, its table of links and the drivers behind them call each other
synchronously: a driver may answer `start()` before that call has returned, and
may register or unregister links meanwhile.  The model therefore keeps the
router's own call stack.  A step either lets the function on top of the stack go
on, or is a call from outside: a callback of a driver, or an event of the event
loop, which happens only when the stack is empty.
-/

namespace Knxd.Routing

open Memory LPDU Link Option

/-- Which of the router's requests a driver's `stopped()` answers. -/
inductive Answer where
  | start
  | stop
  | both
  deriving DecidableEq, Repr

inductive Call where
  | start
  | stop
  | send (frame : LDataPDU)
  | started
  | stopped (answer : Answer)
  | errored
  deriving DecidableEq

structure Entry where
  link : ℕ
  call : Call
  deriving DecidableEq

/-- The local variables of `state_trigger_cb`. -/
structure Count where
  someBefore : Bool
  allBefore : Bool
  up : ℕ := 0
  going : ℕ := 0
  down : ℕ := 0
  deriving DecidableEq, Repr

/-- What is left to do of a function that has called something else.  A loop over
the link table carries the links it has not visited yet. -/
inductive Pending where
  /-- Code of a driver is running and has not returned. -/
  | driver
  /-- The report that ends `setState`. -/
  | linkStateChanged (key : ℕ)
  /-- A pass of `start_` over the table. -/
  | startLoop (rest : List ℕ) (seen : Bool)
  /-- `start_` after it has told a link to go up. -/
  | startNext (rest : List ℕ)
  /-- A pass of `stop_` over the table. -/
  | stopLoop (rest : List ℕ) (seen : Bool)
  /-- `stop_` after it has told a link to go down. -/
  | stopNext (rest : List ℕ)
  /-- `state_trigger_cb`, emptying the queue of changed links. -/
  | drain (count : Count)
  /-- `state_trigger_cb`, looking at every link. -/
  | scan (rest : List ℕ) (count : Count)
  /-- `state_trigger_cb`, counting a link after it may have been stopped. -/
  | classify (key : ℕ) (rest : List ℕ) (count : Count)
  /-- The reports that end `state_trigger_cb`. -/
  | conclude (count : Count)
  /-- `send_L_Data`, offering the frame to every link. -/
  | sendLoop (frame : LDataPDU) (found : Bool) (rest : List ℕ)
  deriving DecidableEq

/-- The router's fields, its call stack and the record of all calls between links
and drivers, newest first.  `object` holds every link that was ever constructed,
`links` the keys of those in the table. -/
structure Router where
  addr : Addr := 0
  object : ℕ → Option LinkConnect := fun _ => none
  links : List ℕ := []
  seq : ℕ := 0
  wantUp : Bool := false
  someRunning : Bool := false
  allRunning : Bool := false
  runningSignal : Bool := false
  highStarted : Bool := false
  lowSendMore : Bool := false
  highSendMore : Bool := false
  highSending : Bool := false
  linksChanged : Bool := false
  inLinkLoop : ℕ := 0
  linkChanges : List ℕ := []
  stateTrigger : Bool := false
  exitcode : ℕ := 0
  stack : List Pending := []
  log : List Entry := []
  fault : Option Fault := none

namespace Router

def push (router : Router) (pending : Pending) : Router :=
  { router with stack := pending :: router.stack }

def setLink (router : Router) (key : ℕ) (link : LinkConnect) : Router :=
  { router with object := Function.update router.object key (some link) }

def record (router : Router) (key : ℕ) (call : Call) : Router :=
  { router with log := ⟨key, call⟩ :: router.log }

def callDriver (router : Router) (key : ℕ) (call : Call) : Router :=
  (router.record key call).push .driver

def linkStateChanged (router : Router) (key : ℕ) : Router :=
  { router with linkChanges := router.linkChanges ++ [key], stateTrigger := true }

/-- What a transition still has to do once the link's fields are set. -/
def follow (router : Router) (key : ℕ) : Effect → Router
  | .unchanged => router
  | .retryLater => router
  | .changed => router.linkStateChanged key
  | .start => (router.push (.linkStateChanged key)).callDriver key .start
  | .stop => (router.push (.linkStateChanged key)).callDriver key .stop

/-- `LinkConnect::setState` on a link, with the calls that follow it. -/
def setState (router : Router) (key : ℕ) (newState : LConnState) : Router :=
  match router.object key with
  | none => router
  | some link =>
    match link.setState newState with
    | .error fault => { router with fault := some fault }
    | .ok (next, effect) => (router.setLink key next).follow key effect

/-- The fields that a transition can change. -/
theorem setState_eq (router : Router) (key : ℕ) (newState : LConnState) :
    ∃ object linkChanges stateTrigger stack log fault, router.setState key newState =
        { router with object, linkChanges, stateTrigger, stack, log, fault } := by
  unfold setState
  split
  · exact ⟨_, _, _, _, _, _, rfl⟩
  · split
    · exact ⟨_, _, _, _, _, _, rfl⟩
    · next next effect _ => cases effect <;> exact ⟨_, _, _, _, _, _, rfl⟩

section SetState

variable {router : Router} {key : ℕ} {newState : LConnState}

@[simp]
theorem setState_links : (router.setState key newState).links = router.links := by
  obtain ⟨_, _, _, _, _, _, hset⟩ := setState_eq router key newState
  rw [hset]

@[simp]
theorem setState_wantUp : (router.setState key newState).wantUp = router.wantUp := by
  obtain ⟨_, _, _, _, _, _, hset⟩ := setState_eq router key newState
  rw [hset]

@[simp]
theorem setState_seq : (router.setState key newState).seq = router.seq := by
  obtain ⟨_, _, _, _, _, _, hset⟩ := setState_eq router key newState
  rw [hset]

@[simp]
theorem setState_linksChanged :
    (router.setState key newState).linksChanged = router.linksChanged := by
  obtain ⟨_, _, _, _, _, _, hset⟩ := setState_eq router key newState
  rw [hset]

@[simp]
theorem setState_highSendMore :
    (router.setState key newState).highSendMore = router.highSendMore := by
  obtain ⟨_, _, _, _, _, _, hset⟩ := setState_eq router key newState
  rw [hset]

@[simp]
theorem setState_highSending : (router.setState key newState).highSending = router.highSending := by
  obtain ⟨_, _, _, _, _, _, hset⟩ := setState_eq router key newState
  rw [hset]

end SetState

/-- A registered link that still owes the router a `send_Next()`. -/
def BusyLink (router : Router) (key : ℕ) : Prop :=
  key ∈ router.links ∧ ∃ link ∈ router.object key, link.busy
  deriving Decidable

/-- `Router::send_Next`, with the `send_Next` of the router's high and low ends. -/
def sendNext (router : Router) : Router :=
  if router.highSending then router
  else if router.highSendMore then router
  else if ∃ key ∈ router.links, router.BusyLink key then router
  else { router with highSendMore := true, lowSendMore := true }

/-- `LinkConnect::send_Next`. -/
def linkSendNext (router : Router) (key : ℕ) (link : LinkConnect) : Router :=
  (router.setLink key
    { link with
      sendMore := true
      retryTimer := if link.state = .up then false else link.retryTimer }).sendNext

/-! ## Starting and stopping -/

/-- `Router::start` down to the first pass of `start_`. -/
def start (router : Router) : Router :=
  if router.wantUp then router
  else
    { router with
      wantUp := true
      someRunning := true
      inLinkLoop := router.inLinkLoop + 1
      seq := router.seq + 1
      linksChanged := false
      stack := .startLoop router.links false :: router.stack }

/-- `Router::stop` down to the first pass of `stop_`. -/
def stop (router : Router) : Router :=
  if router.wantUp then
    { router with
      wantUp := false
      allRunning := false
      inLinkLoop := router.inLinkLoop + 1
      seq := router.seq + 1
      linksChanged := false
      stack := .stopLoop router.links false :: router.stack }
  else router

/-- One link of a pass of `start_`, or the decision at the end of the pass. -/
def startLoop (router : Router) (seen : Bool) : List ℕ → Router
  | [] =>
    if seen then { router with linksChanged := false }.push (.startLoop router.links false)
    else { router with inLinkLoop := router.inLinkLoop - 1 }
  | key :: rest =>
    match router.object key with
    | none => router.push (.startLoop rest seen)
    | some link =>
      if key ∉ router.links ∨ link.ignore ∨ link.transient ∨ router.seq ≤ link.seq then
        router.push (.startLoop rest seen)
      else
        ((router.setLink key { link with seq := router.seq }).push (.startNext rest)).setState
          key .goingUp

def startNext (router : Router) (rest : List ℕ) : Router :=
  if router.linksChanged then
    { router with linksChanged := false }.push (.startLoop router.links false)
  else router.push (.startLoop rest true)

/-- One link of a pass of `stop_`, or the decision at the end of the pass. -/
def stopLoop (router : Router) (seen : Bool) : List ℕ → Router
  | [] =>
    if seen then { router with linksChanged := false }.push (.stopLoop router.links false)
    else { router with inLinkLoop := router.inLinkLoop - 1 }
  | key :: rest =>
    match router.object key with
    | none => router.push (.stopLoop rest seen)
    | some link =>
      if key ∉ router.links ∨ router.seq ≤ link.seq then router.push (.stopLoop rest seen)
      else
        ((router.setLink key { link with seq := router.seq }).push (.stopNext rest)).setState
          key .goingDown

def stopNext (router : Router) (rest : List ℕ) : Router :=
  if router.linksChanged then
    { router with linksChanged := false }.push (.stopLoop router.links false)
  else router.push (.stopLoop rest true)

/-! ## The state trigger -/

/-- The queue of changed links: links that have to go down are told so again. -/
def drain (router : Router) (count : Count) : Router :=
  match router.linkChanges with
  | [] => router.push (.scan router.links count)
  | key :: rest =>
    let popped := { router with linkChanges := rest }.push (.drain count)
    match router.object key with
    | none => popped
    | some link =>
      if router.wantUp = false ∧ link.state ≠ .down ∧
          link.state.index < LConnState.waitRetry.index then
        popped.setState key .goingDown
      else popped

/-- `all_running` and `some_running` as a finished scan leaves them. -/
def running (count : Count) : Bool × Bool :=
  if count.going = 0 ∧ count.down = 0 ∧ 0 < count.up then (true, true)
  else if count.going = 0 ∧ count.up = 0 then (false, false)
  else (false, true)

/-- The end of the scan: a router that wants to be up stops when a link is down. -/
def evaluate (router : Router) (count : Count) : Router :=
  let flagged :=
    { router with allRunning := (running count).1, someRunning := (running count).2 }
  if router.wantUp ∧ 0 < count.down then
    ({ flagged with exitcode := 1 }.push (.conclude count)).stop
  else flagged.push (.conclude count)

/-- One link of the scan up to the direct `stop()` of a link in an error state. -/
def scan (router : Router) (count : Count) : List ℕ → Router
  | [] => router.evaluate count
  | key :: rest =>
    match router.object key with
    | none => router.push (.scan rest count)
    | some link =>
      if key ∉ router.links then router.push (.scan rest count)
      else if link.transient then
        if router.wantUp = false ∧ link.state ≠ .down ∧ link.state ≠ .error then
          (router.push (.scan rest { count with going := count.going + 1 })).setState
            key .goingDown
        else router.push (.scan rest count)
      else if link.state = .upError ∨ link.state = .goingDownError then
        (router.push (.classify key rest count)).callDriver key .stop
      else router.push (.classify key rest count)

/-- The second look at a link: its state may have changed since. -/
def classify (router : Router) (key : ℕ) (rest : List ℕ) (count : Count) : Router :=
  match router.object key with
  | none => router.push (.scan rest count)
  | some link =>
    let onItsWay :=
      let counted := router.push (.scan rest { count with going := count.going + 1 })
      if router.wantUp then counted else counted.setState key .goingDown
    match link.state with
    | .down | .error =>
      if link.mayFail = false ∧ link.ignore = false then
        router.push (.scan rest { count with down := count.down + 1 })
      else router.push (.scan rest count)
    | .up => router.push (.scan rest { count with up := count.up + 1 })
    | .upError | .goingDownError | .waitRetry =>
      if link.mayFail then router.push (.scan rest count) else onItsWay
    | .goingDown | .goingUp => onItsWay

/-- `Router::started`, behind the high end's own flag. -/
def started (router : Router) : Router :=
  if router.highStarted then router
  else
    { router with
      highStarted := true
      lowSendMore := true
      highSendMore := true
      runningSignal := router.runningSignal || router.allRunning }

/-- The end of `state_trigger_cb`; `Router::stopped` stops a router that wants to
be up and otherwise leaves the event loop. -/
def conclude (router : Router) (count : Count) : Router :=
  if count.someBefore ∧ router.someRunning = false then
    { router with highStarted := false }.stop
  else if count.allBefore = false ∧ router.allRunning then router.started
  else router

/-! ## Sending -/

def destinationFound (router : Router) (frame : LDataPDU) : Bool :=
  (frame.dest == router.addr) ||
    (frame.dest != 0xFFFF#16 &&
      (router.links.filterMap router.object).any fun link =>
        !link.hasAddress frame.source && link.hasAddress frame.dest)

/-- Whether `send_L_Data` passes the frame to a link that can take it. -/
def isTarget (frame : LDataPDU) (found : Bool) (link : LinkConnect) : Bool :=
  match frame.addrType with
  | .groupAddress => frame.hopcount == 7 || link.checkGroupAddress frame.dest
  | .individualAddress =>
    if frame.hopcount == 7 || found then link.hasAddress frame.dest
    else link.checkAddress frame.dest

/-- `LinkConnect::send_L_Data`; a server drops the frame. -/
def linkSendLData (router : Router) (key : ℕ) (link : LinkConnect) (frame : LDataPDU) : Router :=
  if link.isServer then router
  else
    (router.setLink key { link with sendMore := false, retryTimer := true }).callDriver
      key (.send frame)

/-- `Router::send_L_Data` up to its loop over the links. -/
def sendLData (router : Router) (frame : LDataPDU) : Router :=
  if router.highSendMore then
    { router with highSending := true, highSendMore := false }.push
      (.sendLoop frame (router.destinationFound frame) router.links)
  else { router with fault := some .assertion }

def sendLoop (router : Router) (frame : LDataPDU) (found : Bool) : List ℕ → Router
  | [] => { router with highSending := false }.sendNext
  | key :: rest =>
    let continued := router.push (.sendLoop frame found rest)
    match router.object key with
    | none => continued
    | some link =>
      if key ∈ router.links ∧ link.state = .up ∧ link.sendMore ∧
          link.hasAddress frame.source = false ∧ isTarget frame found link then
        continued.linkSendLData key link frame
      else continued

/-! ## The link table -/

/-- `Router::registerLink`, for a link object that was just constructed. -/
def registerLink (router : Router) (key : ℕ) (config : LinkConnect) (transient : Bool) : Router :=
  let link := { config.construct with transient := config.transient || transient }
  let entered :=
    { router.setLink key link with links := router.links ++ [key], linksChanged := true }
  if router.wantUp then
    ({ entered with allRunning := false }.setLink key { link with seq := router.seq }).setState
      key .goingUp
  else entered

def unregisterLink (router : Router) (key : ℕ) : Router :=
  { router with
    links := router.links.erase key
    linksChanged := true
    stateTrigger := router.stateTrigger || router.inLinkLoop == 0 }

/-- `LinkConnect::retry_timer_cb`. -/
def retryTimer (router : Router) (key : ℕ) (link : LinkConnect) : Router :=
  let fired := router.setLink key { link with retryTimer := false }
  if link.state = .up ∧ link.sendMore = false then fired.setState key .error
  else if link.state = .waitRetry then
    (router.setLink key { link with retryTimer := false, retries := link.retries + 1 }).setState
      key .goingUp
  else fired

def resume (router : Router) : Pending → Router
  | .driver => router
  | .linkStateChanged key => router.linkStateChanged key
  | .startLoop rest seen => router.startLoop seen rest
  | .startNext rest => router.startNext rest
  | .stopLoop rest seen => router.stopLoop seen rest
  | .stopNext rest => router.stopNext rest
  | .drain count => router.drain count
  | .scan rest count => router.scan count rest
  | .classify key rest count => router.classify key rest count
  | .conclude count => router.conclude count
  | .sendLoop frame found rest => router.sendLoop frame found rest

end Router

inductive Event where
  | resume
  | ret
  | started (key : ℕ)
  | stopped (key : ℕ) (answer : Answer)
  | errored (key : ℕ)
  | sendNext (key : ℕ)
  | addresses (key : ℕ) (hasAddress checkAddress checkGroupAddress : Addr → Bool)
  | registerLink (key : ℕ) (config : LinkConnect) (transient : Bool)
  | unregisterLink (key : ℕ)
  | rehash (order : List ℕ)
  | start
  | stop
  | stateTrigger
  | retryTimer (key : ℕ)
  | sendLData (frame : LDataPDU)

def Router.outside (router : Router) : Bool :=
  match router.stack with
  | [] => true
  | .driver :: _ => true
  | _ => false

def Router.callback (router : Router) (key : ℕ) (act : LinkConnect → Router) : Option Router :=
  if router.outside then (router.object key).map act else none

def step (router : Router) (event : Event) : Option Router :=
  if router.fault.isSome then none
  else
    match event with
    | .resume =>
      match router.stack with
      | [] => none
      | .driver :: _ => none
      | pending :: rest => some ({ router with stack := rest }.resume pending)
    | .ret =>
      match router.stack with
      | .driver :: rest => some { router with stack := rest }
      | _ => none
    | .started key => router.callback key fun _ => (router.record key .started).setState key .up
    | .stopped key answer =>
      router.callback key fun _ => (router.record key (.stopped answer)).setState key .down
    | .errored key => router.callback key fun _ => (router.record key .errored).setState key .error
    | .sendNext key => router.callback key fun link => router.linkSendNext key link
    | .addresses key hasAddress checkAddress checkGroupAddress =>
      router.callback key fun link =>
        router.setLink key { link with hasAddress, checkAddress, checkGroupAddress }
    | .registerLink key config transient =>
      if router.outside ∧ (router.object key).isNone then
        some (router.registerLink key config transient)
      else none
    | .unregisterLink key =>
      if router.outside ∧ key ∈ router.links then some (router.unregisterLink key) else none
    | .rehash order =>
      if router.outside ∧ order.Perm router.links then some { router with links := order }
      else none
    | .start => if router.stack = [] then some router.start else none
    | .stop => if router.stack = [] then some router.stop else none
    | .stateTrigger =>
      if router.stack = [] ∧ router.stateTrigger then
        some ({ router with stateTrigger := false }.push
          (.drain { someBefore := router.someRunning, allBefore := router.allRunning }))
      else none
    | .retryTimer key =>
      if router.stack = [] then
        ((router.object key).filter (·.retryTimer)).map (router.retryTimer key)
      else none
    | .sendLData frame => if router.stack = [] then some (router.sendLData frame) else none

def boot (addr : Addr) : Router := { addr }

inductive Steps (router : Router) : Event → Router → Prop
  | resume {pending : Pending} {rest : List Pending} :
      router.stack = pending :: rest → pending ≠ .driver →
      Steps router .resume ({ router with stack := rest }.resume pending)
  | ret {rest : List Pending} :
      router.stack = .driver :: rest → Steps router .ret { router with stack := rest }
  | started {key : ℕ} {link : LinkConnect} : router.outside → router.object key = some link →
      Steps router (.started key) ((router.record key .started).setState key .up)
  | stopped {key : ℕ} {answer : Answer} {link : LinkConnect} :
      router.outside → router.object key = some link →
      Steps router (.stopped key answer) ((router.record key (.stopped answer)).setState key .down)
  | errored {key : ℕ} {link : LinkConnect} : router.outside → router.object key = some link →
      Steps router (.errored key) ((router.record key .errored).setState key .error)
  | sendNext {key : ℕ} {link : LinkConnect} : router.outside → router.object key = some link →
      Steps router (.sendNext key) (router.linkSendNext key link)
  | addresses {key : ℕ} {link : LinkConnect} {hasAddress checkAddress checkGroupAddress} :
      router.outside → router.object key = some link →
      Steps router (.addresses key hasAddress checkAddress checkGroupAddress)
        (router.setLink key { link with hasAddress, checkAddress, checkGroupAddress })
  | registerLink {key : ℕ} {config : LinkConnect} {transient : Bool} :
      router.outside → router.object key = none →
      Steps router (.registerLink key config transient) (router.registerLink key config transient)
  | unregisterLink {key : ℕ} : router.outside → key ∈ router.links →
      Steps router (.unregisterLink key) (router.unregisterLink key)
  | rehash {order : List ℕ} : router.outside → order.Perm router.links →
      Steps router (.rehash order) { router with links := order }
  | start : router.stack = [] → Steps router .start router.start
  | stop : router.stack = [] → Steps router .stop router.stop
  | stateTrigger : router.stack = [] → router.stateTrigger → Steps router .stateTrigger
        ({ router with stateTrigger := false }.push
          (.drain { someBefore := router.someRunning, allBefore := router.allRunning }))
  | retryTimer {key : ℕ} {link : LinkConnect} :
      router.stack = [] → router.object key = some link → link.retryTimer →
      Steps router (.retryTimer key) (router.retryTimer key link)
  | sendLData {frame : LDataPDU} :
      router.stack = [] → Steps router (.sendLData frame) (router.sendLData frame)

theorem fault_eq_none_of_step {router next : Router} {event : Event}
    (hstep : step router event = some next) : router.fault = none := by
  by_contra hsome
  simp [step, isSome_iff_ne_none, hsome] at hstep

private theorem callback_eq_some {router next : Router} {key : ℕ} {act : LinkConnect → Router}
    (hcallback : router.callback key act = some next) :
    router.outside ∧ ∃ link, router.object key = some link ∧ next = act link := by
  unfold Router.callback at hcallback
  split at hcallback
  · next houtside =>
    obtain ⟨link, hobject, hnext⟩ := map_eq_some_iff.mp hcallback
    exact ⟨houtside, link, hobject, hnext.symm⟩
  · simp at hcallback

/-- Inversion of `step`. -/
theorem steps_of_step {router next : Router} {event : Event}
    (hstep : step router event = some next) : Steps router event next := by
  have hrunning : ¬ router.fault.isSome := by simp [fault_eq_none_of_step hstep]
  rw [step.eq_def, if_neg hrunning] at hstep
  cases event with
  | resume =>
    dsimp only at hstep
    split at hstep
    · simp at hstep
    · simp at hstep
    · next pending rest hdriver hstack =>
      cases hstep
      exact .resume hstack hdriver
  | ret =>
    dsimp only at hstep
    split at hstep
    · next rest hstack =>
      cases hstep
      exact .ret hstack
    · simp at hstep
  | started =>
    obtain ⟨houtside, link, hobject, rfl⟩ := callback_eq_some hstep
    exact .started houtside hobject
  | stopped =>
    obtain ⟨houtside, link, hobject, rfl⟩ := callback_eq_some hstep
    exact .stopped houtside hobject
  | errored =>
    obtain ⟨houtside, link, hobject, rfl⟩ := callback_eq_some hstep
    exact .errored houtside hobject
  | sendNext =>
    obtain ⟨houtside, link, hobject, rfl⟩ := callback_eq_some hstep
    exact .sendNext houtside hobject
  | addresses =>
    obtain ⟨houtside, link, hobject, rfl⟩ := callback_eq_some hstep
    exact .addresses houtside hobject
  | registerLink =>
    obtain ⟨⟨houtside, hfresh⟩, rfl⟩ := ite_some_none_eq_some.1 hstep
    exact .registerLink houtside (isNone_iff_eq_none.mp hfresh)
  | unregisterLink =>
    obtain ⟨⟨houtside, hmem⟩, rfl⟩ := ite_some_none_eq_some.1 hstep
    exact .unregisterLink houtside hmem
  | rehash =>
    obtain ⟨⟨houtside, hperm⟩, rfl⟩ := ite_some_none_eq_some.1 hstep
    exact .rehash houtside hperm
  | start =>
    obtain ⟨hidle, rfl⟩ := ite_some_none_eq_some.1 hstep
    exact .start hidle
  | stop =>
    obtain ⟨hidle, rfl⟩ := ite_some_none_eq_some.1 hstep
    exact .stop hidle
  | stateTrigger =>
    obtain ⟨⟨hidle, htrigger⟩, rfl⟩ := ite_some_none_eq_some.1 hstep
    exact .stateTrigger hidle htrigger
  | retryTimer =>
    dsimp only at hstep
    split at hstep
    · next hidle =>
      obtain ⟨link, hfilter, rfl⟩ := map_eq_some_iff.mp hstep
      obtain ⟨hobject, harmed⟩ := filter_eq_some_iff.mp hfilter
      exact .retryTimer hidle hobject harmed
    · simp at hstep
  | sendLData =>
    obtain ⟨hidle, rfl⟩ := ite_some_none_eq_some.1 hstep
    exact .sendLData hidle

end Knxd.Routing
