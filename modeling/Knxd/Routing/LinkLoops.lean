import Knxd.Core.Sweep
import Knxd.Routing.Rounds

/-!
# The loops over the link table

`start_` and `stop_` tell every link of the table to go up or down.  Telling a link runs
its driver, which may register and unregister links, so both loops stamp the links they
have visited and make a new pass whenever the table has changed under them.

The module shows that either loop is a sweep over the link table: a link is due while it
is eligible and carries an older stamp, and it is live while telling it can call its
driver.  A link that is registered during `start_` is stamped at once.  One that is
registered during `stop_` is due, but it is down, and telling it calls nothing; this is
why `stop_` ends, however many links its callbacks register.
-/

namespace Knxd.LinkLoops

open Memory LPDU Link Routing Transition Shutdown Rounds Router List Function Option

variable {key : ℕ} {rest : List Pending}

/-- `start_` passes over ignored and transient links, `stop_` over none. -/
def Eligible (up : Bool) (link : LinkConnect) : Prop :=
  up = true → link.ignore = false ∧ link.transient = false
  deriving Decidable

def goal : Bool → LConnState
  | true => .goingUp
  | false => .goingDown

def loopKind : Bool → Kind
  | true => .start
  | false => .stop

/-- The step by which the router begins to start or stop its links: `start` and `stop`
run their loop exactly if they change what the router wants. -/
structure Begins (up : Bool) (before : Router) (event : Event) (begun : Router) : Prop where
  step : step before event = some begun
  differs : before.wantUp = !up
  wants : begun.wantUp = up

def reorders : Event → Bool
  | .rehash _ => true
  | _ => false

/-- What can happen until the loop has ended.  The hash table orders its entries anew only
when one is added, which sets the flag that the loops test. -/
def Within (begun router : Router) (event : Event) : Prop :=
  begun.stack.length ≤ router.stack.length ∧ (reorders event = true → router.linksChanged = true)
  deriving Decidable

def tells (state : LConnState) : Option (ℕ × Request) → List ℕ
  | some (key, .set newState) => if newState = state then [key] else []
  | _ => []

def told (state : LConnState) : Router → List Event → List ℕ
  | _, [] => []
  | router, event :: events =>
    tells state (router.request event) ++
      (step router event).elim [] fun next => told state next events

/-- The cursor of a loop: it points into the table as it is, at the links that are left or
at the link just told, unless the table has changed and the loop will not use it again. -/
def CursorValid (router : Router) : Pending → Prop
  | .startLoop rest _ | .stopLoop rest _ => rest <:+ router.links
  | .startNext rest | .stopNext rest =>
    router.linksChanged = false → ∃ key, key :: rest <:+ router.links
  | _ => True

/-! ## The loop as a sweep -/

def Due (up : Bool) (router : Router) (key : ℕ) : Prop :=
  ∃ link, router.object key = some link ∧ Eligible up link ∧ link.seq < router.seq

/-- Telling the link can call its driver: `stop_` tells a link that is down nothing new. -/
def Live (up : Bool) (router : Router) (key : ℕ) : Prop :=
  Due up router key ∧ (up = false → router.stateOf key ≠ some .down)

def stageOf : Option Pending → Sweep.Stage ℕ
  | some (.startLoop rest seen) | some (.stopLoop rest seen) => .pass rest seen
  | some (.startNext rest) | some (.stopNext rest) => .told rest
  | _ => .done

/-- The loop whose frame lies on `depth` others. -/
def sweep (up : Bool) (depth : ℕ) (router : Router) : Sweep.State ℕ where
  table := router.links
  changed := router.linksChanged
  due := { key | Due up router key }
  live := { key | Live up router key }
  stage := stageOf router.stack.reverse[depth]?
  waiting := depth + 1 < router.stack.length

def frame : Bool → Sweep.Stage ℕ → List Pending
  | true, .pass rest seen => [.startLoop rest seen]
  | true, .told rest => [.startNext rest]
  | false, .pass rest seen => [.stopLoop rest seen]
  | false, .told rest => [.stopNext rest]
  | _, .done => []

structure Looping (up : Bool) (known : Set ℕ) (below calls : List Pending)
    (stage : Sweep.Stage ℕ) (router : Router) : Prop where
  stack : router.stack = calls ++ (frame up stage ++ below)
  kind : ∀ pending ∈ calls, pending.kind = .call
  waits : calls ≠ [] → ∃ rest, stage = .told rest
  wantUp : router.wantUp = up
  known : ∀ key ∈ known, router.object key ≠ none

variable {up : Bool} {known : Set ℕ} {below calls stack : List Pending} {stage : Sweep.Stage ℕ}
variable {before begun router next : Router} {event : Event} {events : List Event}
variable {visited : Option ℕ} {other : ℕ} {link : LinkConnect} {newState : LConnState}

theorem length_frame (hstage : stage ≠ .done) : (frame up stage).length = 1 := by
  cases stage with
  | pass | told => cases up <;> rfl
  | done => exact absurd rfl hstage

theorem Looping.length_stack (hloop : Looping up known below calls stage router) :
    router.stack.length = calls.length + ((frame up stage).length + below.length) := by
  rw [hloop.stack, length_append, length_append]

theorem Looping.calls_eq_nil (hloop : Looping up known below calls .done router) : calls = [] := by
  by_contra hne
  obtain ⟨_, hrest⟩ := hloop.waits hne
  cases hrest

section

variable (hloop : Looping up known below calls stage router)
include hloop

theorem Looping.stage_ne_done (hwithin : below.length < router.stack.length) : stage ≠ .done := by
  rintro rfl
  have hstack : router.stack = below := by
    rw [hloop.stack, hloop.calls_eq_nil]
    cases up <;> rfl
  rw [hstack] at hwithin
  exact lt_irrefl _ hwithin

theorem Looping.sweep_stage : (sweep up below.length router).stage = stage := by
  have hreverse : router.stack.reverse[below.length]? =
      ((frame up stage).reverse ++ calls.reverse)[0]? := by
    rw [hloop.stack, reverse_append, reverse_append, append_assoc,
      ← length_reverse, getElem?_append_right le_rfl, Nat.sub_self]
  show stageOf router.stack.reverse[below.length]? = stage
  rw [hreverse]
  cases stage with
  | pass | told => cases up <;> rfl
  | done =>
    rw [hloop.calls_eq_nil]
    cases up <;> rfl

/-- The sweep waits exactly while a call of the loop is running. -/
theorem Looping.waiting_iff (hwithin : below.length < router.stack.length) :
    (sweep up below.length router).waiting ↔ calls ≠ [] := by
  show below.length + 1 < router.stack.length ↔ _
  rw [← length_pos_iff, hloop.length_stack, length_frame (hloop.stage_ne_done hwithin)]
  omega

end

/-! ## While a call of the loop is running -/

/-- What the loops read of a link. -/
def marks (link : LinkConnect) : Bool × Bool × ℕ :=
  (link.ignore, link.transient, link.seq)

def marksOf (router : Router) (key : ℕ) : Option (Bool × Bool × ℕ) :=
  (router.object key).map marks

/-- The links have the marks they had, and a link that is down stays down. -/
structure Keeps (router next : Router) : Prop where
  same : ∀ key, marksOf next key = marksOf router key
  down : ∀ key, router.stateOf key = some .down → next.stateOf key = some .down

theorem marks_setState {link : LinkConnect} {result : LinkConnect × Effect}
    (htable : link.setState newState = .ok result) : marks result.1 = marks link := by
  have hsettings := LinkConnect.settings_setState htable
  have hignore : result.1.settings.ignore = link.settings.ignore := by rw [hsettings]
  have htransient : result.1.settings.transient = link.settings.transient := by rw [hsettings]
  exact Prod.ext hignore (Prod.ext htransient (LinkConnect.setState_seq htable))

theorem marksOf_setState (other : ℕ) :
    marksOf (router.setState key newState) other = marksOf router other :=
  map_object_setState marks (fun _ _ htable => marks_setState htable) other

section

variable (hmarks : marksOf next key = marksOf router key)
include hmarks

theorem Due.congr (hseq : next.seq = router.seq) (hdue : Due up next key) : Due up router key := by
  obtain ⟨link, hobject, heligible, _⟩ := hdue
  have hsome : marksOf router key = some (marks link) := by
    rw [← hmarks, marksOf, hobject, map_some]
  obtain ⟨found, hfound, heq⟩ := map_eq_some_iff.1 hsome
  simp only [marks, Prod.mk.injEq] at heq
  obtain ⟨hignore, htransient, hstamp⟩ := heq
  refine ⟨found, hfound, fun hup => ?_, ?_⟩
  · rw [hignore, htransient]
    exact heligible hup
  · rwa [hstamp, ← hseq]

theorem due_congr (hseq : next.seq = router.seq) : Due up next key ↔ Due up router key :=
  ⟨Due.congr hmarks hseq, Due.congr hmarks.symm hseq.symm⟩

theorem not_due_of_none (hnone : router.object key = none) : ¬ Due up next key := by
  rintro ⟨_, hobject, _⟩
  rw [marksOf, marksOf, hobject, hnone] at hmarks
  cases hmarks

end

theorem Keeps.of_object (hobject : next.object = router.object) : Keeps router next where
  same key := by rw [marksOf, marksOf, hobject]
  down key hdown := by rwa [stateOf, hobject]

theorem Keeps.after {last : Router} (hsecond : Keeps next last) (hfirst : Keeps router next) :
    Keeps router last where
  same key := (hsecond.same key).trans (hfirst.same key)
  down key hdown := hsecond.down key (hfirst.down key hdown)

theorem Keeps.setLink {link update : LinkConnect} (hobject : router.object key = some link)
    (hmarks : marks update = marks link) (hstate : update.state = link.state) :
    Keeps router (router.setLink key update) where
  same other := by
    by_cases hother : other = key
    · subst hother
      simp [marksOf, setLink, hobject, hmarks]
    · simp [marksOf, Router.setLink, hother]
  down other hdown := by rwa [stateOf_setLink_same hobject hstate]

theorem Keeps.setState (hstate : newState ≠ .goingUp) :
    Keeps router (router.setState key newState) where
  same := marksOf_setState
  down _ hdown := stateOf_setState_of_down hdown hstate key

/-- What can happen while a call of the loop is running. -/
structure Outer (up : Bool) (router : Router) (event : Event) (next : Router) : Prop where
  seq : next.seq = router.seq
  wantUp : next.wantUp = router.wantUp
  table : next.links = router.links ∧ next.linksChanged = router.linksChanged ∨
    next.linksChanged = true
  links : ∀ key ∈ next.links, key ∈ router.links ∨ router.object key = none
  same : ∀ key, router.object key ≠ none → marksOf next key = marksOf router key
  down : ∀ key, router.stateOf key = some .down → next.stateOf key = some .down
  fresh : ∀ key, router.object key = none → ¬ Live up next key
  asks : ∀ key ∈ tells (goal up) (router.request event), router.object key = none

/-- An event that constructs no link. -/
theorem Outer.of_keeps (hkeeps : Keeps router next) (hseq : next.seq = router.seq)
    (hwant : next.wantUp = router.wantUp)
    (htable : next.links = router.links ∧ next.linksChanged = router.linksChanged ∨
      next.linksChanged = true)
    (hlinks : ∀ key ∈ next.links, key ∈ router.links)
    (htells : tells (goal up) (router.request event) = []) : Outer up router event next where
  seq := hseq
  wantUp := hwant
  table := htable
  links key hkey := .inl (hlinks key hkey)
  same key _ := hkeeps.same key
  down := hkeeps.down
  fresh key hnone hlive := not_due_of_none (hkeeps.same key) hnone hlive.1
  asks key hkey := by
    rw [htells] at hkey
    cases hkey

/-- A callback of a driver. -/
theorem Outer.callback {call : Call} {newState : LConnState} (hup : newState ≠ .goingUp)
    (htells : tells (goal up) (router.request event) = []) :
    Outer up router event ((router.record key call).setState key newState) := by
  refine .of_keeps (.after (.setState hup) (.of_object rfl)) ?_ ?_ (.inl ⟨?_, ?_⟩) ?_ htells
  · exact setState_seq
  · exact setState_wantUp
  · exact setState_links
  · exact setState_linksChanged
  · rw [setState_links]
    exact fun _ => id

theorem sendNext_eq (router : Router) : ∃ high low,
    router.sendNext = { router with highSendMore := high, lowSendMore := low } := by
  unfold sendNext
  split_ifs
  · exact ⟨_, _, rfl⟩
  · exact ⟨_, _, rfl⟩
  · exact ⟨_, _, rfl⟩
  · exact ⟨_, _, rfl⟩

/-- A link is entered into the table and the others are left alone. -/
theorem Outer.of_registered (hfresh : router.object key = none)
    (hseq : next.seq = router.seq) (hwant : next.wantUp = router.wantUp)
    (hlinks : next.links = router.links ++ [key]) (hchanged : next.linksChanged = true)
    (hsame : ∀ other, other ≠ key → marksOf next other = marksOf router other ∧
      next.stateOf other = router.stateOf other)
    (hnew : ¬ Live up next key)
    (hasks : ∀ other ∈ tells (goal up) (router.request event), other = key) :
    Outer up router event next where
  seq := hseq
  wantUp := hwant
  table := .inr hchanged
  links other hother := by
    rw [hlinks] at hother
    rcases mem_append.1 hother with hold | hnew
    · exact .inl hold
    · rw [mem_singleton.1 hnew]
      exact .inr hfresh
  same other hobject := by
    have hother : other ≠ key := fun heq => hobject (heq ▸ hfresh)
    exact (hsame other hother).1
  down other hdown := by
    have hother : other ≠ key := by
      rintro rfl
      rw [stateOf, hfresh] at hdown
      cases hdown
    rw [(hsame other hother).2]
    exact hdown
  fresh other hnone := by
    by_cases hother : other = key
    · rw [hother]
      exact hnew
    · exact fun hlive => not_due_of_none (hsame other hother).1 hnone hlive.1
  asks other hother := by
    rw [hasks other hother]
    exact hfresh

/-- A link that is registered while the router starts carries the stamp of the round. -/
theorem Outer.registerLink_up (config : LinkConnect) (transient : Bool)
    (hwant : router.wantUp = true) (hfresh : router.object key = none) :
    Outer true router (.registerLink key config transient)
      (router.registerLink key config transient) := by
  let link : LinkConnect := { config.construct with transient := config.transient || transient }
  let entered : Router :=
    { router.setLink key link with
      links := router.links ++ [key], linksChanged := true, allRunning := false }
  let base : Router := entered.setLink key { link with seq := router.seq }
  have hregister : router.registerLink key config transient = base.setState key .goingUp :=
    if_pos hwant
  have hbase : ∀ other, other ≠ key → base.object other = router.object other :=
    fun other hother => (update_of_ne hother _ _).trans (update_of_ne hother _ _)
  rw [hregister]
  have hstamped : ¬ Due true (base.setState key .goingUp) key := by
    intro hdue
    obtain ⟨_, hfound, _, hround⟩ := hdue.congr (marksOf_setState key) setState_seq
    obtain rfl := some.inj ((update_self key _ _).symm.trans hfound)
    exact lt_irrefl _ hround
  refine .of_registered hfresh setState_seq setState_wantUp setState_links
    setState_linksChanged (fun other hother => ⟨?_, ?_⟩)
    (fun hlive => hstamped hlive.1) ?_
  · rw [marksOf_setState, marksOf, hbase other hother, marksOf]
  · rw [(setState_other hother .goingUp).1, stateOf, hbase other hother, stateOf]
  · intro other hother
    simpa [tells, request, hwant, goal] using hother

/-- A link that is registered while the router stops is down. -/
theorem Outer.registerLink_down (config : LinkConnect) (transient : Bool)
    (hwant : router.wantUp = false) (hfresh : router.object key = none) :
    Outer false router (.registerLink key config transient)
      (router.registerLink key config transient) := by
  let link : LinkConnect := { config.construct with transient := config.transient || transient }
  have hregister : router.registerLink key config transient =
      { router.setLink key link with links := router.links ++ [key], linksChanged := true } :=
    if_neg (by simp [hwant])
  have hnew : (router.setLink key link).stateOf key = some .down := by
    rw [stateOf_setLink, if_pos rfl]
    rfl
  rw [hregister]
  refine .of_registered hfresh rfl rfl rfl rfl (fun other hother => ⟨?_, ?_⟩)
    (fun hlive => hlive.2 rfl hnew) ?_
  · exact congrArg (Option.map marks) (update_of_ne hother _ _)
  · exact congrArg (Option.map _) (update_of_ne hother _ _)
  · intro other hother
    simp [tells, request, hwant] at hother

/-- What happens while a call of the loop is running. -/
theorem outer_of_step {pending : Pending}
    (hstep : step router event = some next) (hstack : router.stack = pending :: rest)
    (hkind : pending.kind = .call) (hwant : router.wantUp = up)
    (hreorders : reorders event = true → router.linksChanged = true) :
    Outer up router event next := by
  have hbusy : router.stack ≠ [] := by simp [hstack]
  have hgoal : ∀ state, state ≠ .goingUp → state ≠ .goingDown → state ≠ goal up := by
    intro state hup hdown
    cases up <;> assumption
  cases steps_of_step hstep with
  | @resume top _ htop hdriver =>
    obtain ⟨rfl, rfl⟩ := cons.inj (htop.symm.trans hstack)
    cases top with
    | linkStateChanged =>
      refine .of_keeps (.of_object rfl) rfl rfl (.inl ⟨rfl, rfl⟩) (fun _ => id) ?_
      simp [tells, request, hstack, requestOf]
    | driver => exact absurd rfl hdriver
    | _ => cases hkind
  | ret => exact .of_keeps (.of_object rfl) rfl rfl (.inl ⟨rfl, rfl⟩) (fun _ => id) rfl
  | started => exact .callback (by simp) (if_neg (hgoal .up (by simp) (by simp)))
  | stopped => exact .callback (by simp) (if_neg (hgoal .down (by simp) (by simp)))
  | errored => exact .callback (by simp) (if_neg (hgoal .error (by simp) (by simp)))
  | @sendNext key link _ hobject =>
    let update : LinkConnect :=
      { link with
        sendMore := true
        retryTimer := if link.state = .up then false else link.retryTimer }
    have hset : Keeps router (router.setLink key update) := .setLink hobject rfl rfl
    obtain ⟨_, _, hsent⟩ := sendNext_eq (router.setLink key update)
    rw [linkSendNext, hsent]
    exact .of_keeps ⟨hset.same, hset.down⟩ rfl rfl (.inl ⟨rfl, rfl⟩) (fun _ => id) rfl
  | addresses _ hobject =>
    exact .of_keeps (.setLink hobject rfl rfl) rfl rfl (.inl ⟨rfl, rfl⟩) (fun _ => id) rfl
  | @registerLink _ config transient _ hfresh =>
    cases up with
    | true => exact .registerLink_up config transient hwant hfresh
    | false => exact .registerLink_down config transient hwant hfresh
  | unregisterLink =>
    exact .of_keeps (.of_object rfl) rfl rfl (.inr rfl) (fun _ => mem_of_mem_erase) rfl
  | rehash _ hperm =>
    exact .of_keeps (.of_object rfl) rfl rfl (.inr (hreorders rfl)) (fun _ => hperm.mem_iff.1) rfl
  | start hidle | stop hidle | stateTrigger hidle | retryTimer hidle | sendLData hidle =>
    exact absurd hidle hbusy

/-! ## The loop goes on -/

/-- A link is stamped with the round of the loop and told where to go. -/
def tell (up : Bool) (router : Router) (key : ℕ) (link : LinkConnect) (stack : List Pending) :
    Router :=
  { router.setLink key { link with seq := router.seq } with stack }.setState key (goal up)

/-- What the loop does when it goes on, with the link that it tells. -/
inductive Turn (up : Bool) (router : Router) : Sweep.Stage ℕ → Option ℕ → Router → Prop
  | skip {key : ℕ} {rest : List ℕ} {seen : Bool} : ¬ (key ∈ router.links ∧ Due up router key) →
      Turn up router (.pass (key :: rest) seen) none
        { router with stack := frame up (.pass rest seen) ++ router.stack }
  | visit {key : ℕ} {rest : List ℕ} {seen : Bool} {link : LinkConnect} :
      key ∈ router.links → router.object key = some link → Eligible up link →
      link.seq < router.seq →
      Turn up router (.pass (key :: rest) seen) (some key)
        (tell up router key link (frame up (.told rest) ++ router.stack))
  | again : Turn up router (.pass [] true) none
        { router with
          linksChanged := false, stack := frame up (.pass router.links false) ++ router.stack }
  | finish : Turn up router (.pass [] false) none
        { router with inLinkLoop := router.inLinkLoop - 1 }
  | restart {rest : List ℕ} : router.linksChanged = true → Turn up router (.told rest) none
        { router with
          linksChanged := false, stack := frame up (.pass router.links false) ++ router.stack }
  | advance {rest : List ℕ} : router.linksChanged = false → Turn up router (.told rest) none
        { router with stack := frame up (.pass rest true) ++ router.stack }

/-- The loop passes over a link that it has not to tell. -/
theorem Turn.pass {rest : List ℕ} {seen : Bool} (hskip : ∀ link, router.object key = some link →
      ¬ (key ∈ router.links ∧ Eligible up link ∧ link.seq < router.seq)) :
    Turn up router (.pass (key :: rest) seen) none
      { router with stack := frame up (.pass rest seen) ++ router.stack } := by
  refine .skip ?_
  rintro ⟨hmem, link, hobject, hdue⟩
  exact hskip link hobject ⟨hmem, hdue⟩

/-- The loop of `start_` or `stop_` goes on to its next link. -/
theorem turn_pass {pending : Pending} {rest : List ℕ} {seen : Bool} (router : Router)
    (hframe : frame up (.pass rest seen) = [pending]) :
    ∃ visited, Turn up router (.pass rest seen) visited (router.resume pending) ∧
      tells (goal up) (router.requestOf pending) = visited.toList := by
  cases up <;> cases hframe
  all_goals
    cases rest with
    | nil =>
      cases seen with
      | true => exact ⟨none, .again, rfl⟩
      | false => exact ⟨none, .finish, rfl⟩
    | cons key =>
      simp only [resume, startLoop, stopLoop, requestOf]
      cases hobject : router.object key with
      | none => exact ⟨none, .pass (by simp [hobject]), rfl⟩
      | some =>
        dsimp only [bind_some]
        split
        · next hpassed =>
          refine ⟨none, .pass fun found hfound => ?_, rfl⟩
          obtain rfl := some.inj (hobject.symm.trans hfound)
          rintro ⟨_, _, hround⟩
          simp_all [Eligible, hround.not_ge]
        · next hpassed =>
          simp only [not_or, not_not, not_le] at hpassed
          refine ⟨some key, .visit hpassed.1 hobject ?_ ?_, rfl⟩ <;> simp_all [Eligible]

/-- With a function of the router on top of the stack nothing else can happen. -/
theorem resume_of_top {pending : Pending}
    (hstep : step router event = some next) (hstack : router.stack = pending :: rest)
    (hdriver : pending ≠ .driver) :
    event = .resume ∧ next = { router with stack := rest }.resume pending := by
  have hbusy : router.stack ≠ [] := by simp [hstack]
  have hinside : ¬ router.outside := by
    unfold outside
    rw [hstack]
    cases pending with
    | driver => exact absurd rfl hdriver
    | _ => exact Bool.false_ne_true
  cases steps_of_step hstep with
  | resume htop =>
    obtain ⟨rfl, rfl⟩ := cons.inj (htop.symm.trans hstack)
    exact ⟨rfl, rfl⟩
  | ret htop =>
    obtain ⟨htop, -⟩ := cons.inj (htop.symm.trans hstack)
    exact absurd htop.symm hdriver
  | started houtside | stopped houtside | errored houtside | sendNext houtside
  | addresses houtside | registerLink houtside | unregisterLink houtside | rehash houtside =>
    exact absurd houtside hinside
  | start hidle | stop hidle | stateTrigger hidle | retryTimer hidle | sendLData hidle =>
    exact absurd hidle hbusy

/-- The loop is on top of the stack and goes on. -/
theorem turn_of_step (hloop : Looping up known below [] stage router) (hstage : stage ≠ .done)
    (hstep : step router event = some next) :
    ∃ visited, Turn up { router with stack := below } stage visited next ∧
      tells (goal up) (router.request event) = visited.toList := by
  have hstack := hloop.stack
  cases stage with
  | done => exact absurd rfl hstage
  | pass rest seen =>
    obtain ⟨pending, hframe, hdriver⟩ : ∃ pending,
        frame up (.pass rest seen) = [pending] ∧ pending ≠ .driver := by
      cases up <;> exact ⟨_, rfl, by simp⟩
    rw [hframe] at hstack
    obtain ⟨rfl, rfl⟩ := resume_of_top hstep hstack hdriver
    obtain ⟨visited, hturn, htells⟩ := turn_pass { router with stack := below } hframe
    refine ⟨visited, hturn, ?_⟩
    rw [← htells, request, hstack]
    rfl
  | told =>
    refine ⟨none, ?_⟩
    cases up
    all_goals
      obtain ⟨rfl, rfl⟩ := resume_of_top hstep hstack (by simp)
      refine ⟨?_, by rw [request, hstack]; rfl⟩
      simp only [resume, startNext, stopNext]
      split
      · next hchanged => exact .restart hchanged
      · next hchanged => exact .advance (Bool.eq_false_iff.2 hchanged)

/-! ## The loop is a sweep -/

theorem length_frame_le (up : Bool) (stage : Sweep.Stage ℕ) : (frame up stage).length ≤ 1 := by
  cases stage with
  | done => cases up <;> exact Nat.zero_le 1
  | _ => cases up <;> exact le_rfl

theorem Looping.not_waiting (hloop : Looping up known below [] stage router) :
    ¬ (sweep up below.length router).waiting := by
  have hframe := length_frame_le up stage
  show ¬ below.length + 1 < router.stack.length
  rw [hloop.length_stack, length_nil]
  omega

/-- A turn that tells no link. -/
theorem Looping.settle {left : Sweep.Stage ℕ} (hloop : Looping up known below [] stage router)
    (hstack : next.stack = frame up left ++ below) (hwant : next.wantUp = router.wantUp)
    (hlinks : next.links = router.links) (hobject : next.object = router.object)
    (hseq : next.seq = router.seq) (hown : Sweep.Own (sweep up below.length router) none
      { sweep up below.length router with changed := next.linksChanged, stage := left }) :
    Looping up known below [] left next ∧
      Sweep.Own (sweep up below.length router) none (sweep up below.length next) := by
  have hnext : Looping up known below [] left next :=
    ⟨hstack, by simp, fun hne => absurd rfl hne, hwant.trans hloop.wantUp, hobject ▸ hloop.known⟩
  have hdue : ∀ key, Due up next key ↔ Due up router key := by
    intro key
    rw [Due, Due, hobject, hseq]
  have hlive : ∀ key, Live up next key ↔ Live up router key := by
    intro key
    rw [Live, Live, hdue, stateOf, stateOf, hobject]
  have hsweep : sweep up below.length next =
      { sweep up below.length router with changed := next.linksChanged, stage := left } :=
    Sweep.State.ext hlinks rfl (Set.ext hdue) (Set.ext hlive) hnext.sweep_stage
      (propext (iff_of_false hnext.not_waiting hloop.not_waiting))
  exact ⟨hnext, hsweep ▸ hown⟩

theorem marksOf_tell (up : Bool) (router : Router) (key : ℕ) (link : LinkConnect)
    (stack : List Pending) (other : ℕ) : marksOf (tell up router key link stack) other =
      marksOf (router.setLink key { link with seq := router.seq }) other :=
  marksOf_setState other

theorem due_tell_iff : Due up (tell up router key link stack) other ↔
    Due up router other ∧ other ≠ key := by
  have hseq : (tell up router key link stack).seq = router.seq := setState_seq
  by_cases hother : other = key
  · subst hother
    refine iff_of_false (fun hdue => ?_) (fun hdue => hdue.2 rfl)
    obtain ⟨_, hfound, -, hround⟩ := hdue.congr (marksOf_tell up router _ link stack other) hseq
    obtain rfl := some.inj ((update_self other _ _).symm.trans hfound)
    exact lt_irrefl _ hround
  · have hmarks : marksOf (tell up router key link stack) other = marksOf router other := by
      rw [marksOf_tell, marksOf, marksOf]
      exact congrArg (Option.map marks) (update_of_ne hother _ _)
    rw [due_congr hmarks hseq, and_iff_left hother]

theorem stateOf_tell (hother : other ≠ key) :
    (tell up router key link stack).stateOf other = router.stateOf other := by
  have hset : (router.setLink key { link with seq := router.seq }).stateOf other =
      router.stateOf other := by
    rw [stateOf_setLink, if_neg hother]
  exact (setState_other hother _).1.trans hset

theorem live_tell_iff :
    Live up (tell up router key link stack) other ↔ Live up router other ∧ other ≠ key := by
  rw [Live, due_tell_iff, Live, and_right_comm]
  refine and_congr_left fun hother => ?_
  rw [stateOf_tell hother]

theorem object_tell_ne_none (hobject : router.object other ≠ none) :
    (tell up router key link stack).object other ≠ none := by
  intro hnone
  have hmarks := marksOf_tell up router key link stack other
  rw [marksOf, hnone] at hmarks
  have hset := map_eq_none_iff.1 hmarks.symm
  by_cases hother : other = key
  · subst hother
    cases (update_self other _ _).symm.trans hset
  · exact hobject ((update_of_ne hother _ _).symm.trans hset)

theorem grows_tell : Grows (fun _ => False) stack (tell up router key link stack).stack :=
  Grows.setState (by exact .refl _) key (goal up)

/-- `stop_` does not call the driver of a link that is down. -/
theorem stack_tell_of_down (hdown : link.state = .down) :
    (tell false router key link stack).stack = stack := by
  simp [tell, goal, setState, setLink, LinkConnect.setState, hdown, follow, linkStateChanged]

/-- A turn that tells a link. -/
theorem Looping.visit {rest : List ℕ} {seen : Bool} {link : LinkConnect}
    (hloop : Looping up known below [] (.pass (key :: rest) seen) router)
    (hmem : key ∈ router.links) (hobject : router.object key = some link)
    (heligible : Eligible up link) (hround : link.seq < router.seq) :
    ∃ calls, Looping up known below calls (.told rest)
        (tell up router key link (frame up (.told rest) ++ below)) ∧
      Sweep.Own (sweep up below.length router) (some key)
        (sweep up below.length (tell up router key link (frame up (.told rest) ++ below))) := by
  have hdue : Due up router key := ⟨link, hobject, heligible, hround⟩
  obtain ⟨calls, hstack, hkind⟩ := @grows_tell key up (frame up (.told rest) ++ below) router link
  have hnext : Looping up known below calls (.told rest)
      (tell up router key link (frame up (.told rest) ++ below)) := by
    refine ⟨hstack, fun pending hpending => ?_, fun _ => ⟨rest, rfl⟩, ?_, fun other hother => ?_⟩
    · exact (hkind pending hpending).resolve_right id
    · exact setState_wantUp.trans hloop.wantUp
    · exact object_tell_ne_none (hloop.known other hother)
  have hlive : (sweep up below.length
      (tell up router key link (frame up (.told rest) ++ below))).waiting → Live up router key := by
    intro hwaiting
    refine ⟨hdue, ?_⟩
    rintro rfl hdown
    -- a link that is down has no call to wait for
    obtain ⟨_, hfound, hstate⟩ := exists_object_of_stateOf hdown
    obtain rfl := some.inj (hobject.symm.trans hfound)
    have hlength : below.length + 1 <
        (tell false router key link (frame false (.told rest) ++ below)).stack.length := hwaiting
    rw [stack_tell_of_down hstate] at hlength
    exact absurd hlength (Nat.lt_irrefl _)
  have hsweep : sweep up below.length (tell up router key link (frame up (.told rest) ++ below)) =
      { sweep up below.length router with
        due := (sweep up below.length router).due \ {key}
        live := (sweep up below.length router).live \ {key}
        stage := .told rest
        waiting := (sweep up below.length
          (tell up router key link (frame up (.told rest) ++ below))).waiting } :=
    Sweep.State.ext setState_links setState_linksChanged
      (Set.ext fun _ => due_tell_iff) (Set.ext fun _ => live_tell_iff) hnext.sweep_stage rfl
  refine ⟨calls, hnext, ?_⟩
  rw [hsweep]
  exact .visit hloop.sweep_stage hmem hdue hlive

theorem Turn.simulates (hloop : Looping up known below [] stage router)
    (hturn : Turn up { router with stack := below } stage visited next) :
    ∃ calls left, Looping up known below calls left next ∧
      Sweep.Own (sweep up below.length router) visited (sweep up below.length next) := by
  have hstage := hloop.sweep_stage
  cases hturn with
  | @skip _ rest seen hskip =>
    exact ⟨[], .pass rest seen, hloop.settle rfl rfl rfl rfl rfl (.skip hstage hskip)⟩
  | visit hmem hobject heligible hround =>
    obtain ⟨calls, hvisit⟩ := hloop.visit hmem hobject heligible hround
    exact ⟨calls, _, hvisit⟩
  | again => exact ⟨[], .pass router.links false, hloop.settle rfl rfl rfl rfl rfl (.again hstage)⟩
  | finish =>
    have hframe : below = frame up .done ++ below := by cases up <;> rfl
    exact ⟨[], .done, hloop.settle hframe rfl rfl rfl rfl (.finish hstage)⟩
  | restart hchanged =>
    exact ⟨[], .pass router.links false,
      hloop.settle rfl rfl rfl rfl rfl (.restart hstage hchanged)⟩
  | @advance rest hchanged =>
    exact ⟨[], .pass rest true, hloop.settle rfl rfl rfl rfl rfl (.advance hstage hchanged)⟩

section

variable (hloop : Looping up known below calls stage router)
include hloop

/-- The stack while a call of the loop is running. -/
theorem Looping.calls_step (hcalls : calls ≠ []) (hstep : step router event = some next) :
    ∃ later, next.stack = later ++ (frame up stage ++ below) ∧
      ∀ pending ∈ later, pending.kind = .call := by
  obtain ⟨top, rest, rfl⟩ := exists_cons_of_ne_nil hcalls
  have htop : top.kind = .call := hloop.kind top mem_cons_self
  have hrest : ∀ pending ∈ rest, pending.kind = .call :=
    fun pending hpending => hloop.kind pending (mem_cons_of_mem top hpending)
  have hstack := hloop.stack
  rcases grows_step hstep with ⟨pending, stack, hhead, -, hgrows⟩ | hreturn | hgrows | ⟨hidle, -⟩
  · obtain ⟨rfl, rfl⟩ := cons.inj (hhead.symm.trans hstack)
    obtain ⟨added, hadded, hkinds⟩ := hgrows
    refine ⟨added ++ rest, hadded.trans (append_assoc _ _ _).symm, fun left hleft => ?_⟩
    rcases mem_append.1 hleft with hnew | hold
    · rcases hkinds left hnew with hcall | hsame | ⟨htrigger, -⟩
      · exact hcall
      · exact hsame.trans htop
      · cases htop.symm.trans htrigger
    · exact hrest left hold
  · obtain ⟨-, hsame⟩ := cons.inj (hreturn.symm.trans hstack)
    exact ⟨rest, hsame, hrest⟩
  · obtain ⟨added, hadded, hkinds⟩ := hgrows
    refine ⟨added ++ top :: rest, by rw [hadded, hstack, append_assoc], fun left hleft => ?_⟩
    rcases mem_append.1 hleft with hnew | hold
    · exact (hkinds left hnew).resolve_right id
    · exact hloop.kind left hold
  · cases hidle.symm.trans hstack

theorem Looping.outer_of_step (hcalls : calls ≠ []) (hstep : step router event = some next)
    (hreorders : reorders event = true → router.linksChanged = true) :
    Outer up router event next := by
  obtain ⟨top, _, rfl⟩ := exists_cons_of_ne_nil hcalls
  have htop : top.kind = .call := hloop.kind top mem_cons_self
  exact LinkLoops.outer_of_step hstep hloop.stack htop hloop.wantUp hreorders

theorem Looping.outer (hcalls : calls ≠ []) (hstep : step router event = some next)
    (hreorders : reorders event = true → router.linksChanged = true) :
    ∃ later, Looping up known below later stage next ∧
      Sweep.Outside known (sweep up below.length router) (sweep up below.length next) ∧
      ∀ key ∈ known, key ∉ tells (goal up) (router.request event) := by
  obtain ⟨later, hstack, hkind⟩ := hloop.calls_step hcalls hstep
  obtain ⟨rest, rfl⟩ := hloop.waits hcalls
  have houter : Outer up router event next := hloop.outer_of_step hcalls hstep hreorders
  have hknown : ∀ key ∈ known, next.object key ≠ none := by
    intro key hkey hnone
    have hsame := houter.same key (hloop.known key hkey)
    rw [marksOf, hnone] at hsame
    exact hloop.known key hkey (map_eq_none_iff.1 hsame.symm)
  have hnext : Looping up known below later (.told rest) next :=
    ⟨hstack, hkind, fun _ => ⟨rest, rfl⟩, houter.wantUp.trans hloop.wantUp, hknown⟩
  refine ⟨later, hnext, ⟨⟨rest, hloop.sweep_stage⟩, ?_, houter.table, ?_, ?_⟩, ?_⟩
  · rw [hnext.sweep_stage, hloop.sweep_stage]
  · intro key htable hlive
    have hobject : router.object key ≠ none := fun hnone => houter.fresh key hnone hlive
    refine ⟨(houter.links key htable).resolve_right hobject, ?_, fun hstop hdown => ?_⟩
    · exact hlive.1.congr (houter.same key hobject) houter.seq
    · exact hlive.2 hstop (houter.down key hdown)
  · intro key hkey
    exact due_congr (houter.same key (hloop.known key hkey)) houter.seq
  · intro key hkey htells
    exact hloop.known key hkey (houter.asks key htells)

/-- A step until the loop has ended is a step of the sweep, and it tells the links that
were there at the beginning just what the sweep does. -/
theorem Looping.simulates (hwithin : below.length < router.stack.length)
    (hreorders : reorders event = true → router.linksChanged = true)
    (hstep : step router event = some next) :
    ∃ later left visited, Looping up known below later left next ∧
      Sweep.Step known (sweep up below.length router) visited (sweep up below.length next) ∧
      ∀ key ∈ known, (tells (goal up) (router.request event)).count key =
        visited.toList.count key := by
  by_cases hcalls : calls = []
  · subst hcalls
    obtain ⟨visited, hturn, htells⟩ := turn_of_step hloop (hloop.stage_ne_done hwithin) hstep
    obtain ⟨later, left, hnext, hown⟩ := hturn.simulates hloop
    exact ⟨later, left, visited, hnext, .own hloop.not_waiting hown, fun key _ => by rw [htells]⟩
  · obtain ⟨later, hnext, houtside, htells⟩ := hloop.outer hcalls hstep hreorders
    refine ⟨later, stage, none, hnext, .outside ((hloop.waiting_iff hwithin).2 hcalls) houtside, ?_⟩
    intro key hkey
    exact count_eq_zero_of_not_mem (htells key hkey)

end

/-! ## Runs of the loop -/

variable {after : Router}

section

variable (hdepth : begun.stack.length = below.length + 1)
include hdepth

theorem inside_of_within {event : Event}
    (hwithin : Within begun router event) : below.length < router.stack.length := by
  rw [← Nat.succ_le_iff, Nat.succ_eq_add_one, ← hdepth]
  exact hwithin.1

/-- A run of the router as a run of the sweep. -/
theorem Looping.runs {events : List Event} (hloop : Looping up known below calls stage router)
    (hrun : runAllowed step (Within begun) router events = some after) :
    ∃ later left visits, Looping up known below later left after ∧
      Sweep.Runs known (sweep up below.length router) visits (sweep up below.length after) ∧
      ∀ key ∈ known, (told (goal up) router events).count key = visits.count key := by
  induction events generalizing router calls stage with
  | nil =>
    obtain rfl : router = after := by simpa [runAllowed] using hrun
    exact ⟨calls, stage, [], hloop, .refl, fun _ _ => rfl⟩
  | cons _ _ ih =>
    rw [runAllowed] at hrun
    split at hrun
    · next hwithin =>
      obtain ⟨next, hstep, hrest⟩ := bind_eq_some_iff.1 hrun
      obtain ⟨_, _, visited, hnext, hsim, htells⟩ :=
        hloop.simulates (inside_of_within hdepth hwithin) hwithin.2 hstep
      obtain ⟨last, final, visits, hafter, hruns, hcount⟩ := ih hnext hrest
      refine ⟨last, final, visited.toList ++ visits, hafter, .step hsim hruns, ?_⟩
      intro key hkey
      rw [told, hstep, elim_some, count_append, count_append, htells key hkey, hcount key hkey]
    · cases hrun

theorem Looping.path (hloop : Looping up known below calls stage begun)
    (hpath : Path step (Within begun) begun router) :
    ∃ calls stage, Looping up known below calls stage router := by
  refine hpath.invariant (fun router => ∃ calls stage, Looping up known below calls stage router)
    ⟨calls, stage, hloop⟩ ?_
  rintro router event next ⟨calls, stage, hloop⟩ hwithin hstep
  obtain ⟨later, left, -, hnext, -⟩ :=
    hloop.simulates (inside_of_within hdepth hwithin) hwithin.2 hstep
  exact ⟨later, left, hnext⟩

/-- A loop that does not end waits for a call that never returns. -/
theorem Looping.behaviour {states : ℕ → Router}
    (hloop : Looping up known below calls stage begun) (hbegun : states 0 = begun)
    (hstates : Behaviour step (Within begun) states) :
    ∃ time, ∀ later, time ≤ later → begun.stack.length < (states later).stack.length := by
  have hsteps : ∀ time, ∃ visited, Sweep.Step known (sweep up below.length (states time)) visited
      (sweep up below.length (states (time + 1))) := by
    intro time
    have hpath : Path step (Within begun) begun (states time) := hbegun ▸ hstates.path time
    obtain ⟨_, _, hlooping⟩ := hloop.path hdepth hpath
    obtain ⟨_, hwithin, hstep⟩ := hstates time
    obtain ⟨-, -, visited, -, hsim, -⟩ :=
      hlooping.simulates (inside_of_within hdepth hwithin) hwithin.2 hstep
    exact ⟨visited, hsim⟩
  obtain ⟨time, hwaiting⟩ := Sweep.eventually_waiting hsteps
  refine ⟨time, fun later hlater => ?_⟩
  rw [hdepth]
  exact hwaiting later hlater

end

/-! ## The beginning of a loop -/

/-- A loop begins with a pass over the whole table, in a new round. -/
theorem Begins.looping (hbegins : Begins up before event begun) :
    begun.object = before.object ∧ begun.seq = before.seq + 1 ∧ ∃ below,
      begun.stack.length = below.length + 1 ∧
      Looping up { key | begun.object key ≠ none } below [] (.pass begun.links false) begun := by
  have hwants := hbegins.wants
  cases up with
  | true =>
    have hdown : ¬ before.wantUp = true := by simp [hbegins.differs]
    obtain ⟨-, rfl⟩ := eq_start_of_raised hbegins.step hbegins.differs hwants
    rw [start, if_neg hdown]
    exact ⟨rfl, rfl, before.stack, rfl, rfl, by simp, fun hne => absurd rfl hne, rfl, fun _ => id⟩
  | false =>
    obtain ⟨base, rfl, hup, hobject, hseq, -⟩ :=
      exists_stop_of_cleared hbegins.step hbegins.differs hwants
    rw [stop, if_pos hup]
    exact ⟨hobject, congrArg (· + 1) hseq, base.stack, rfl, rfl, by simp,
      fun hne => absurd rfl hne, rfl, fun _ => id⟩

/-- In the new round every eligible link is due. -/
theorem due_of_eligible {link : LinkConnect} (hstamped : Stamped before)
    (hsame : begun.object = before.object) (hseq : begun.seq = before.seq + 1)
    (hobject : begun.object key = some link) (heligible : Eligible up link) : Due up begun key := by
  refine ⟨link, hobject, heligible, ?_⟩
  rw [hseq, Nat.lt_succ_iff]
  refine hstamped key link.seq ?_
  rw [stampOf, ← hsame, hobject, map_some]

/-! ## The loop does not abort -/

/-- `start_` ends in the round in which it began. -/
theorem Looping.seq_eq (hdepth : begun.stack.length = below.length + 1)
    (hloop : Looping true known below calls stage begun)
    (hpath : Path step (Within begun) begun router) : router.seq = begun.seq := by
  induction hpath with
  | refl => rfl
  | step hpath hwithin hstep ih =>
    obtain ⟨_, _, hbefore⟩ := hloop.path hdepth hpath
    obtain ⟨_, _, hafter⟩ := hloop.path hdepth (hpath.step hwithin hstep)
    exact (seq_of_up hstep hbefore.wantUp hafter.wantUp).trans ih

/-- The table has an entry for what the loop tells a link. -/
theorem exists_setState_goal {link : LinkConnect} (hdown : up = true → link.state = .down) :
    ∃ result, link.setState (goal up) = .ok result := by
  cases up with
  | true => exact ⟨_, by simp [LinkConnect.setState, goal, hdown rfl]; rfl⟩
  | false =>
    unfold LinkConnect.setState goal
    cases link.state <;> exact ⟨_, rfl⟩

theorem Turn.fault (hturn : Turn up { router with stack := below } stage visited next)
    (hdown : ∀ key link, router.object key = some link → link.seq < router.seq → up = true →
      link.state = .down) (hfault : router.fault = none) : next.fault = none := by
  cases hturn with
  | skip | again | finish | restart | advance => exact hfault
  | @visit key _ _ link _ hobject _ hround =>
    obtain ⟨⟨_, _⟩, htable⟩ :=
      @exists_setState_goal up { link with seq := router.seq } (hdown key link hobject hround)
    rw [tell, (setState_of_ok (update_self key _ _) htable).2.2]
    exact hfault

/-! ## The loops are complete -/

/-- What holds after a run that has not gone beyond the end of the loop. -/
structure Complete (up : Bool) (begun : Router) (events : List Event) (after : Router) : Prop where
  /-- No link is told twice, and none at all that is not eligible. -/
  once : ∀ key link, begun.object key = some link →
    (told (goal up) begun events).count key ≤ if Eligible up link then 1 else 0
  /-- When the loop has ended, every eligible link that is still in the table was told. -/
  every : after.stack.length < begun.stack.length →
    ∀ key link, begun.object key = some link → Eligible up link → key ∈ after.links →
      (told (goal up) begun events).count key = 1
  /-- Whenever no call is running the loop is on top of the stack, with a valid cursor. -/
  cursor : after.stack.length = begun.stack.length → ∃ top below,
    after.stack = top :: below ∧ top.kind = loopKind up ∧ CursorValid after top
  /-- Then it can go on.  It never aborts the program when it stops the links, nor when it
  starts them for the first time. -/
  goesOn : after.stack.length = begun.stack.length → after.fault = none →
    ∃ next, step after .resume = some next ∧ ((up = true → begun.seq = 1) → next.fault = none)

theorem Looping.on_top (hloop : Looping up known below calls stage after)
    (hlength : after.stack.length = below.length + 1) : calls = [] ∧ stage ≠ .done := by
  have hstage : stage ≠ .done := hloop.stage_ne_done (by rw [hlength]; exact Nat.lt_succ_self _)
  rw [hloop.length_stack, length_frame hstage] at hlength
  exact ⟨length_eq_zero_iff.1 (by omega), hstage⟩

theorem Looping.cursor (hloop : Looping up known below [] stage after) (hstage : stage ≠ .done)
    (hsound : Sweep.Sound (sweep up below.length after)) :
    ∃ top, after.stack = top :: below ∧ top.kind = loopKind up ∧ CursorValid after top := by
  have hcursor := hsound.cursorValid
  rw [Sweep.State.cursorValid, hloop.sweep_stage] at hcursor
  have hstack := hloop.stack
  cases stage with
  | done => exact absurd rfl hstage
  | pass rest seen =>
    cases up with
    | true => exact ⟨.startLoop rest seen, hstack, rfl, hcursor⟩
    | false => exact ⟨.stopLoop rest seen, hstack, rfl, hcursor⟩
  | told rest =>
    cases up with
    | true => exact ⟨.startNext rest, hstack, rfl, hcursor⟩
    | false => exact ⟨.stopNext rest, hstack, rfl, hcursor⟩

theorem resume_of_fault_eq_none {top : Pending}
    (hfault : after.fault = none) (hstack : after.stack = top :: rest) (hdriver : top ≠ .driver) :
    ∃ next, step after .resume = some next := by
  unfold step
  rw [hfault, hstack]
  cases top with
  | driver => exact absurd rfl hdriver
  | _ => exact ⟨_, rfl⟩

theorem Looping.ended (hloop : Looping up known below calls stage after)
    (hlength : after.stack.length ≤ below.length) : stage = .done := by
  by_contra hstage
  rw [hloop.length_stack, length_frame hstage] at hlength
  omega

theorem complete_of_run {addr : Addr} {event : Event}
    (hreached : Path step anyEvent (boot addr) before) (hbegins : Begins up before event begun)
    (hrun : runAllowed step (Within begun) begun events = some after) :
    Complete up begun events after := by
  obtain ⟨hsame, hseq, below, hdepth, hloop⟩ := hbegins.looping
  have hstamped : Stamped before := stamped_of_path hreached
  obtain ⟨_, _, _, hafter, hruns, hcount⟩ := hloop.runs hdepth hrun
  have hbegun : (sweep up below.length begun).begun := hloop.sweep_stage
  have hsound := (Sweep.sound_of_begun hbegun).runs hruns
  refine ⟨fun key link hobject => ?_, fun hended key link hobject heligible htable => ?_,
    fun hlength => ?_, fun hlength hfault => ?_⟩
  · have hknown : begun.object key ≠ none := by simp [hobject]
    rw [hcount key hknown]
    refine (hruns.count_le hknown).trans ?_
    by_cases heligible : Eligible up link
    · rw [if_pos heligible]
      exact Sweep.owed_le_one
    · rw [if_neg heligible, Sweep.State.owed, if_neg]
      rintro ⟨_, hfound, hdue, -⟩
      obtain rfl := some.inj (hobject.symm.trans hfound)
      exact heligible hdue
  · have hknown : begun.object key ≠ none := by simp [hobject]
    rw [hcount key hknown]
    refine hruns.count_eq_one hbegun ?_ hknown ?_ htable
    · rw [hafter.sweep_stage]
      exact hafter.ended (by omega)
    · exact due_of_eligible hstamped hsame hseq hobject heligible
  · obtain ⟨rfl, hstage⟩ := hafter.on_top (hlength.trans hdepth)
    obtain ⟨top, hstack, hkind, hvalid⟩ := hafter.cursor hstage hsound
    exact ⟨top, below, hstack, hkind, hvalid⟩
  · obtain ⟨rfl, hstage⟩ := hafter.on_top (hlength.trans hdepth)
    obtain ⟨top, hstack, hkind, -⟩ := hafter.cursor hstage hsound
    have hdriver : top ≠ .driver := by
      rintro rfl
      cases up <;> cases hkind
    obtain ⟨next, hstep⟩ := resume_of_fault_eq_none hfault hstack hdriver
    refine ⟨next, hstep, fun hfirst => ?_⟩
    have hpath := path_of_runAllowed hrun
    have hnumbered : Numbered after := hpath.invariant Numbered
      ((numbered_of_path hreached).step hbegins.step) fun _ _ _ hnumbered _ => hnumbered.step
    obtain ⟨_, hturn, -⟩ := turn_of_step hafter hstage hstep
    refine hturn.fault (fun key link hobject hround hup => ?_) hfault
    subst hup
    exact hnumbered.down_of_first ((hloop.seq_eq hdepth hpath).trans (hfirst rfl)) hobject hround

/-- `start_` and `stop_` are complete: in every run up to their end, whatever links the
drivers register and unregister meanwhile, they tell no link twice and tell each eligible
link that stays, their cursor is valid, and they can go on; and there is no endless run in
which the loop is on top of the stack again and again, so a loop whose calls all return
ends. -/
theorem link_loops_complete {addr : Addr} {up : Bool} {before begun : Router} {event : Event}
    (hreached : Path step anyEvent (boot addr) before) (hbegins : Begins up before event begun) :
    (∀ events after, runAllowed step (Within begun) begun events = some after →
      Complete up begun events after) ∧
    ∀ states, states 0 = begun → Behaviour step (Within begun) states →
      ∃ time, ∀ later, time ≤ later → begun.stack.length < (states later).stack.length := by
  refine ⟨fun events after hrun => complete_of_run hreached hbegins hrun, ?_⟩
  intro states hbegun hstates
  obtain ⟨-, -, _, hdepth, hloop⟩ := hbegins.looping
  exact hloop.behaviour hdepth hbegun hstates

/-- Three links are registered before the router starts. -/
def threeLinks : List Event :=
  [.registerLink 0 {} false, .registerLink 1 {} false, .registerLink 2 {} false]

/-- The driver of the first one registers a fourth link, which makes the table order its
entries anew, and unregisters the second. -/
def meanwhile : List Event :=
  [.resume, .registerLink 3 {} false, .ret, .resume, .unregisterLink 1, .rehash [3, 2, 0], .ret,
    .resume, .resume, .resume, .resume, .ret] ++ List.replicate 8 .resume

/-- The third link is told once, although the loop starts over. -/
theorem link_loops_complete_fourth_link : ∃ before begun after,
    run step (boot 0) threeLinks = some before ∧ Begins true before .start begun ∧
      runAllowed step (Within begun) begun meanwhile = some after ∧
      after.stack.length < begun.stack.length ∧ (told .goingUp begun meanwhile).count 2 = 1 := by
  obtain ⟨before, hbefore, hdown, begun, hbegun, hup, link, hobject, hcounts, after, hafter,
      hlower, hmem⟩ : ∃ before, run step (boot 0) threeLinks = some before ∧
      before.wantUp = false ∧ ∃ begun, step before .start = some begun ∧ begun.wantUp = true ∧
      ∃ link, begun.object 2 = some link ∧ (link.ignore = false ∧ link.transient = false) ∧
      ∃ after, runAllowed step (Within begun) begun meanwhile = some after ∧
        after.stack.length < begun.stack.length ∧ 2 ∈ after.links := by decide +kernel
  have hbegins : Begins true before .start begun := ⟨hbegun, hdown, hup⟩
  obtain ⟨hcomplete, -⟩ := link_loops_complete (path_of_run hbefore) hbegins
  exact ⟨before, begun, after, hbefore, hbegins, hafter, hlower,
    (hcomplete meanwhile after hafter).every hlower 2 link hobject (fun _ => hcounts) hmem⟩

end Knxd.LinkLoops
