import Knxd.Codec.LPDU

/-!
# The state machine of a link

`LinkConnect` stands between the router and a line driver.  Its `setState` is the
only place that changes the connection state: it decides which requests reach the
driver, when the retry timer is armed, and which transitions abort the program.
The call of the driver and the report to the router that end a transition are
returned as an `Effect`, because both run code outside the link.
-/

namespace Knxd.Link

open Memory LPDU

inductive LConnState where
  | down
  | goingDown
  | up
  | goingUp
  | waitRetry
  | error
  | upError
  | goingDownError
  deriving DecidableEq, Repr

def LConnState.index : LConnState → ℕ
  | .down => 0
  | .goingDown => 1
  | .up => 2
  | .goingUp => 3
  | .waitRetry => 4
  | .error => 5
  | .upError => 6
  | .goingDownError => 7

/-- A link as the router sees it.  The first group of fields is its
configuration, the second what its driver chain answers about addresses. -/
structure LinkConnect where
  ignore : Bool := false
  transient : Bool := false
  mayFail : Bool := false
  isServer : Bool := false
  retryDelay : ℤ := 0
  maxRetries : ℤ := 0
  hasAddress : Addr → Bool := fun _ => false
  checkAddress : Addr → Bool := fun _ => false
  checkGroupAddress : Addr → Bool := fun _ => false
  state : LConnState := .down
  seq : ℕ := 0
  retries : ℤ := 0
  retryTimer : Bool := false
  sendMore : Bool := true

/-- What remains to be done after a transition has set the new state. -/
inductive Effect where
  /-- The state was already the requested one. -/
  | unchanged
  /-- The retry timer was armed; the router is not told. -/
  | retryLater
  | changed
  /-- The driver's `start()` runs, then the router is told. -/
  | start
  /-- The driver's `stop()` runs, then the router is told. -/
  | stop
  deriving DecidableEq, Repr

namespace LinkConnect

/-- A link object as its constructor leaves it, with the given configuration. -/
def construct (config : LinkConnect) : LinkConnect :=
  { config with state := .down, seq := 0, retries := 0, retryTimer := false, sendMore := true }

/-- The test at the `retry` label. -/
def retryAllowed (link : LinkConnect) : Prop :=
  (0 < link.retryDelay ∧ link.maxRetries = 0) ∨ link.retries < link.maxRetries
  deriving Decidable

/-- The `retry` label of `setState`. -/
def retry (link : LinkConnect) : LinkConnect × Effect :=
  if link.retryAllowed then
    ({ link with state := .waitRetry, retryTimer := true }, .retryLater)
  else
    ({ link with state := .error }, .changed)

/-- The part of `start()` that changes the link; a server overrides it. -/
def start (link : LinkConnect) : LinkConnect :=
  if link.isServer then link else { link with sendMore := true }

/-- The state is assigned, and the timer stopped, before the table is consulted. -/
def enter (link : LinkConnect) (newState : LConnState) : LinkConnect :=
  { link with
    state := newState
    retryTimer :=
      if link.state = .waitRetry ∨ (link.state = .up ∧ newState ≠ .up) then false
      else link.retryTimer }

/-- `LinkConnect::setState`; the abort is its `inval` label. -/
def setState (link : LinkConnect) (newState : LConnState) : Run (LinkConnect × Effect) :=
  if link.state = newState then .ok (link, .unchanged)
  else
    let entered := link.enter newState
    match link.state, newState with
    | .down, .goingUp => .ok (entered.start, .start)
    | .down, .goingDown => .ok ({ entered with state := .down }, .changed)
    | .goingDown, .error => .ok ({ entered with state := .goingDownError }, .changed)
    | .goingDown, .down => .ok (entered, .changed)
    | .up, .goingUp => .ok ({ entered with state := .up }, .changed)
    | .up, .goingDown => .ok (entered, .stop)
    | .up, .down => .ok (entered, .stop)
    | .up, .error => .ok ({ entered with state := .upError }, .changed)
    | .goingUp, .up => .ok ({ entered with retries := 0 }, .changed)
    | .goingUp, .goingDown => .ok (entered, .stop)
    | .goingUp, .down => .ok entered.retry
    | .goingUp, .error => .ok ({ entered with state := .upError }, .changed)
    | .waitRetry, .goingUp => .ok (entered.start, .start)
    | .waitRetry, .goingDown => .ok ({ entered with state := .down }, .changed)
    | .error, .waitRetry => .ok entered.retry
    | .error, .goingDown => .ok ({ entered with state := .error }, .changed)
    | .error, .down => .ok entered.retry
    | .upError, .goingDown => .ok ({ entered with state := .goingDownError }, .stop)
    | .upError, .down => .ok entered.retry
    | .upError, .error => .ok (entered, .changed)
    | .goingDownError, .down => .ok entered.retry
    | .goingDownError, .error => .ok (entered, .changed)
    | .goingDownError, .goingDown => .ok ({ entered with state := .goingDownError }, .changed)
    | _, _ => .error .abort

/-- A link that has not taken the last frame yet: the router waits for its
`send_Next()`. -/
def busy (link : LinkConnect) : Prop :=
  link.state = .up ∧ link.sendMore = false
  deriving Decidable

@[simp]
theorem start_state (link : LinkConnect) : link.start.state = link.state := by
  unfold start
  split <;> rfl

@[simp]
theorem enter_state (link : LinkConnect) (newState : LConnState) :
    (link.enter newState).state = newState := rfl

@[simp]
theorem start_seq (link : LinkConnect) : link.start.seq = link.seq := by
  unfold start
  split <;> rfl

@[simp]
theorem retry_seq (link : LinkConnect) : link.retry.1.seq = link.seq := by
  unfold retry
  split <;> rfl

@[simp]
theorem enter_seq (link : LinkConnect) (newState : LConnState) :
    (link.enter newState).seq = link.seq := rfl

/-- Transitions do not touch the round in which the router visited the link. -/
theorem setState_seq {link : LinkConnect} {newState : LConnState} {result : LinkConnect × Effect}
    (htable : link.setState newState = .ok result) : result.1.seq = link.seq := by
  unfold setState at htable
  split at htable
  · cases htable
    rfl
  · dsimp only at htable
    split at htable
    all_goals first
      | (cases htable
         simp)
      | simp at htable

/-- The link without all that changes while the program runs. -/
def settings (link : LinkConnect) : LinkConnect :=
  { link with state := .down, seq := 0, retries := 0, retryTimer := false, sendMore := true }

@[simp]
theorem start_settings (link : LinkConnect) : link.start.settings = link.settings := by
  unfold start
  split <;> rfl

@[simp]
theorem retry_settings (link : LinkConnect) : link.retry.1.settings = link.settings := by
  unfold retry
  split <;> rfl

/-- Transitions do not touch the settings. -/
theorem settings_setState {link : LinkConnect} {newState : LConnState}
    {result : LinkConnect × Effect} (htable : link.setState newState = .ok result) :
    result.1.settings = link.settings := by
  unfold setState at htable
  split at htable
  · cases htable
    rfl
  · dsimp only at htable
    split at htable
    all_goals first
      | (cases htable
         first | rfl | exact start_settings _ | exact retry_settings _)
      | cases htable

theorem hasAddress_of_settings {link after : LinkConnect}
    (hsettings : after.settings = link.settings) : after.hasAddress = link.hasAddress := by
  have hfield : after.settings.hasAddress = link.settings.hasAddress := by rw [hsettings]
  exact hfield

theorem checkAddress_of_settings {link after : LinkConnect}
    (hsettings : after.settings = link.settings) : after.checkAddress = link.checkAddress := by
  have hfield : after.settings.checkAddress = link.settings.checkAddress := by rw [hsettings]
  exact hfield

end LinkConnect

end Knxd.Link
