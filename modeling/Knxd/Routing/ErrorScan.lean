import Knxd.Routing.LinkChanges

/-!
# Failed links and the state trigger

A driver that reports an error leaves its link in `L_up_error`, and the next `state_trigger_cb` is
to stop it: its scan of the table calls `stop()` on such links directly.  The drivers of other links
may run in between, so the scan is followed here through everything that can happen while it is
suspended.  Transient links are passed over before the scan looks at their state.
-/

namespace Knxd.ErrorScan

open Memory LPDU Link Routing LinkChanges List Router Transition Option
open Transition (Path)

def WillVisit (key : ℕ) : Pending → Prop
  | .drain _ => True
  | .scan rest _ | .classify _ rest _ => key ∈ rest
  | _ => False

/-- The state trigger is running, with nothing but calls above it, and has still to come to a failed
link. -/
structure Waiting (key : ℕ) (router : Router) : Prop where
  wantUp : router.wantUp
  registered : key ∈ router.links
  failed : ∃ link, router.object key = some link ∧ link.state = .upError ∧ link.transient = false
  stack : ∃ calls base, router.stack = calls ++ [base] ∧ (∀ pending ∈ calls, pending.kind = .call) ∧
    WillVisit key base

/-- A bound on the steps that a suspended function takes until the scan is done, if drivers return
at once. -/
def stepsLeft (changes links : ℕ) : Pending → ℕ
  | .driver => 1
  | .linkStateChanged _ => 2
  | .drain _ => changes + 3 * links + 1
  | .scan rest _ => 3 * rest.length
  | .classify _ rest _ => 3 * rest.length + 1
  | _ => 0

def effort (router : Router) : ℕ :=
  (router.stack.map (stepsLeft router.linkChanges.length router.links.length)).sum

/-- The scan has called `stop()` for the link, or comes nearer to it. -/
def Advances (key : ℕ) (router next : Router) : Prop :=
  next.fault = router.fault ∧
    (next.log = ⟨key, .stop⟩ :: router.log ∨ Waiting key next ∧ effort next < effort router)

variable {key : ℕ} {router next before : Router} {event : Event}

theorem Waiting.busy (hwaiting : Waiting key router) : router.stack ≠ [] := by
  obtain ⟨_, _, hstack, -⟩ := hwaiting.stack
  simp [hstack]

/-- A change of one link more is reported. -/
theorem sum_stepsLeft_succ {calls : List Pending} (base : Pending) (changes links : ℕ)
    (hcalls : ∀ pending ∈ calls, pending.kind = .call) :
    ((calls ++ [base]).map (stepsLeft (changes + 1) links)).sum ≤
      ((calls ++ [base]).map (stepsLeft changes links)).sum + 1 := by
  induction calls with
  | nil =>
    cases base with
    | drain =>
      simp only [nil_append, map_cons, map_nil, sum_cons, sum_nil, stepsLeft]
      omega
    | _ => simp [stepsLeft]
  | cons top _ ih =>
    have hrest := ih fun pending hpending => hcalls pending (mem_cons_of_mem _ hpending)
    have htop : stepsLeft (changes + 1) links top = stepsLeft changes links top := by
      have hkind := hcalls top mem_cons_self
      cases top with
      | driver | linkStateChanged => rfl
      | _ => cases hkind
    simp only [cons_append, map_cons, sum_cons, htop]
    omega

/-- The scan is suspended as before, or goes on behind the link that it was at. -/
theorem Waiting.advances (calls : List Pending) {left : Pending} (hwaiting : Waiting key router)
    (hfault : next.fault = router.fault) (hwantUp : next.wantUp = router.wantUp)
    (hlinks : next.links = router.links) (hobject : next.object = router.object)
    (hstack : next.stack = calls ++ [left]) (hcalls : ∀ pending ∈ calls, pending.kind = .call)
    (hvisit : WillVisit key left) (heffort : effort next < effort router) :
    Advances key router next := by
  refine ⟨hfault, .inr ⟨⟨?_, ?_, ?_, calls, left, hstack, hcalls, hvisit⟩, heffort⟩⟩
  · rw [hwantUp]
    exact hwaiting.wantUp
  · rw [hlinks]
    exact hwaiting.registered
  · rw [hobject]
    exact hwaiting.failed

theorem advances_drain {count : Count} (hwaiting : Waiting key router)
    (hstack : router.stack = [.drain count]) :
    Advances key router ({ router with stack := [] }.drain count) := by
  have hup : ¬ router.wantUp = false := by simp [hwaiting.wantUp]
  unfold drain
  cases hchanges : router.linkChanges with
  | nil =>
    refine hwaiting.advances [] rfl rfl rfl rfl rfl (by simp) hwaiting.registered ?_
    simp [effort, stepsLeft, hstack, hchanges, push]
  | cons _ rest =>
    have hpopped : Advances key router ({ router with stack := [], linkChanges := rest }.push
        (.drain count)) := by
      refine hwaiting.advances [] rfl rfl rfl rfl rfl (by simp) trivial ?_
      simp [effort, stepsLeft, hstack, hchanges, push]
    dsimp only
    split
    · exact hpopped
    · rw [if_neg fun hdown => hup hdown.1]
      exact hpopped

theorem advances_classify {other : ℕ} {rest : List ℕ} {count : Count}
    (hwaiting : Waiting key router) (hvisit : key ∈ rest)
    (hstack : router.stack = [.classify other rest count]) :
    Advances key router ({ router with stack := [] }.classify other rest count) := by
  have hup : router.wantUp = true := hwaiting.wantUp
  have hscan : ∀ counted, Advances key router
      ({ router with stack := [] }.push (.scan rest counted)) := by
    intro counted
    refine hwaiting.advances [] rfl rfl rfl rfl rfl (by simp) hvisit ?_
    simp [effort, stepsLeft, hstack, push]
  unfold classify
  dsimp only
  split
  · exact hscan _
  · simp only [if_pos hup]
    repeat' split
    all_goals exact hscan _

theorem advances_scan {rest : List ℕ} {count : Count} (hwaiting : Waiting key router)
    (hvisit : key ∈ rest) (hstack : router.stack = [.scan rest count]) :
    Advances key router ({ router with stack := [] }.scan count rest) := by
  obtain ⟨hwantUp, hregistered, ⟨_, hobject, hstate, hpermanent⟩, -⟩ := id hwaiting
  cases rest with
  | nil => simp at hvisit
  | cons other rest =>
    by_cases hother : other = key
    · subst hother
      have hstop : { router with stack := [] }.scan count (other :: rest) =
          ({ router with stack := [] }.push (.classify other rest count)).callDriver other
            .stop := by
        simp [scan, hobject, hregistered, hpermanent, hstate]
      rw [hstop]
      exact ⟨rfl, .inl rfl⟩
    have hrest : key ∈ rest := by simpa [Ne.symm hother] using hvisit
    have hscan : ∀ counted, Advances key router
        ({ router with stack := [] }.push (.scan rest counted)) := by
      intro counted
      refine hwaiting.advances [] rfl rfl rfl rfl rfl (by simp) hrest ?_
      simp [effort, stepsLeft, hstack, push]
    have hclassify : Advances key router
        ({ router with stack := [] }.push (.classify other rest count)) := by
      refine hwaiting.advances [] rfl rfl rfl rfl rfl (by simp) hrest ?_
      simp [effort, stepsLeft, hstack, push]
      omega
    have hcall : Advances key router
        (({ router with stack := [] }.push (.classify other rest count)).callDriver other
          .stop) := by
      refine hwaiting.advances [.driver] rfl rfl rfl rfl rfl (by simp [Pending.kind]) hrest ?_
      simp [effort, stepsLeft, hstack, push, callDriver, record]
      omega
    rw [scan]
    split
    · exact hscan _
    split
    · exact hscan _
    split
    · rw [if_neg fun hdown => by simp [hwantUp] at hdown]
      exact hscan _
    split
    · exact hcall
    · exact hclassify

/-- The report of a change may make the scan longer by one step, and took two. -/
theorem advances_linkStateChanged {calls : List Pending} {base : Pending} (other : ℕ)
    (hwaiting : Waiting key router)
    (hstack : router.stack = .linkStateChanged other :: (calls ++ [base]))
    (hcalls : ∀ pending ∈ calls, pending.kind = .call) (hvisit : WillVisit key base) :
    Advances key router ({ router with stack := calls ++ [base] }.linkStateChanged other) := by
  refine hwaiting.advances calls rfl rfl rfl rfl rfl hcalls hvisit ?_
  have hsum := sum_stepsLeft_succ base router.linkChanges.length router.links.length hcalls
  have hbefore : effort router = 2 + ((calls ++ [base]).map
      (stepsLeft router.linkChanges.length router.links.length)).sum := by
    simp [effort, hstack, stepsLeft]
  have hafter : effort ({ router with stack := calls ++ [base] }.linkStateChanged other) =
      ((calls ++ [base]).map
        (stepsLeft (router.linkChanges.length + 1) router.links.length)).sum := by
    simp [effort, linkStateChanged]
  rw [hafter, hbefore]
  omega

/-- A function on the stack goes on, or a driver returns. -/
theorem Waiting.advances_step {event : Event} (hwaiting : Waiting key router)
    (hevent : event = .resume ∨ event = .ret) (hstep : step router event = some next) :
    Advances key router next := by
  obtain ⟨-, -, -, calls, base, hstack, hcalls, hvisit⟩ := id hwaiting
  cases steps_of_step hstep with
  | @resume pending rest htop hdriver =>
    cases calls with
    | nil =>
      obtain ⟨rfl, rfl⟩ : pending = base ∧ rest = [] := by simpa [hstack] using htop.symm
      cases pending with
      | drain => exact advances_drain hwaiting hstack
      | scan => exact advances_scan hwaiting hvisit hstack
      | classify => exact advances_classify hwaiting hvisit hstack
      | _ => exact hvisit.elim
    | cons top calls =>
      obtain ⟨rfl, rfl⟩ : pending = top ∧ rest = calls ++ [base] := by
        simpa [hstack] using htop.symm
      have hrest : ∀ left ∈ calls, left.kind = .call :=
        fun left hleft => hcalls left (mem_cons_of_mem _ hleft)
      have hkind := hcalls pending mem_cons_self
      cases pending with
      | linkStateChanged other => exact advances_linkStateChanged other hwaiting hstack hrest hvisit
      | driver => exact absurd rfl hdriver
      | _ => cases hkind
  | @ret rest htop =>
    cases calls with
    | nil =>
      obtain ⟨rfl, rfl⟩ : .driver = base ∧ rest = [] := by simpa [hstack] using htop.symm
      exact hvisit.elim
    | cons top calls =>
      obtain ⟨rfl, rfl⟩ : .driver = top ∧ rest = calls ++ [base] := by
        simpa [hstack] using htop.symm
      refine hwaiting.advances calls rfl rfl rfl rfl rfl
        (fun left hleft => hcalls left (mem_cons_of_mem _ hleft)) hvisit ?_
      simp [effort, stepsLeft, hstack]
  | _ => simp at hevent

/-! ## While the scan is suspended -/

/-- The driver of the link reports that it stopped or failed, or the link is removed. -/
def reports (key : ℕ) : Event → Prop
  | .stopped other _ | .errored other | .unregisterLink other => other = key
  | _ => False

instance (key : ℕ) : (event : Event) → Decidable (reports key event)
  | .stopped other _ | .errored other | .unregisterLink other => decEq other key
  | .resume | .ret | .started _ | .sendNext _ | .addresses .. | .registerLink .. | .rehash _
  | .start | .stop | .stateTrigger | .retryTimer _ | .sendLData _ => instDecidableFalse

section

variable (hwaiting : Waiting key router)
include hwaiting

theorem Waiting.grows (hwantUp : next.wantUp = router.wantUp) (hregistered : key ∈ next.links)
    (hfailed : ∃ link, next.object key = some link ∧ link.state = .upError ∧ link.transient = false)
    (hgrows : Grows (fun _ => False) router.stack next.stack) : Waiting key next := by
  obtain ⟨calls, base, hstack, hcalls, hvisit⟩ := hwaiting.stack
  obtain ⟨added, hadded, hkinds⟩ := hgrows
  refine ⟨hwantUp ▸ hwaiting.wantUp, hregistered, hfailed, added ++ calls, base,
    by rw [hadded, hstack, append_assoc], fun pending hpending => ?_, hvisit⟩
  rcases mem_append.1 hpending with hnew | hold
  · exact (hkinds pending hnew).resolve_right id
  · exact hcalls pending hold

/-- A callback of a driver, unless the failed link is told that it is down or in error. -/
theorem Waiting.callback {other : ℕ} {call : Call} {newState : LConnState}
    (hother : other = key → newState = .up) :
    Waiting key ((router.record other call).setState other newState) := by
  refine hwaiting.grows setState_wantUp ?_ ?_ (Grows.setState (by exact .refl _) _ _)
  · rw [setState_links]
    exact hwaiting.registered
  · obtain ⟨link, hobject, hstate, hpermanent⟩ := hwaiting.failed
    refine ⟨link, ?_, hstate, hpermanent⟩
    by_cases hkey : other = key
    · obtain rfl := hother hkey
      subst hkey
      have htable : link.setState .up = .error .abort := by
        simp [LinkConnect.setState, hstate]
      rw [@setState_of_error link _ (router.record other call) _ _ hobject htable]
      exact hobject
    · rw [FlowControl.object_setState_other (Ne.symm hkey)]
      exact hobject

/-- A change of a link that leaves its state and its sort alone. -/
theorem Waiting.setLink {other : ℕ} {link update : LinkConnect}
    (hobject : router.object other = some link) (hstate : update.state = link.state)
    (htransient : update.transient = link.transient) :
    Waiting key (router.setLink other update) := by
  refine hwaiting.grows rfl hwaiting.registered ?_ (.refl _)
  obtain ⟨failed, hfailed, hfailedState, hpermanent⟩ := hwaiting.failed
  by_cases hkey : key = other
  · subst hkey
    obtain rfl := Option.some.inj (hobject.symm.trans hfailed)
    exact ⟨update, Function.update_self _ _ _, hstate.trans hfailedState,
      htransient.trans hpermanent⟩
  · exact ⟨failed, (Function.update_of_ne hkey _ _).trans hfailed, hfailedState, hpermanent⟩

theorem Waiting.sendNext : Waiting key router.sendNext := by
  unfold Router.sendNext
  split_ifs
  · exact hwaiting
  · exact hwaiting
  · exact hwaiting
  · exact hwaiting.grows rfl hwaiting.registered hwaiting.failed (.refl _)

theorem Waiting.registerLink {other : ℕ} {config : LinkConnect} {transient : Bool}
    (hfresh : router.object other = none) :
    Waiting key (router.registerLink other config transient) := by
  obtain ⟨link, hobject, hstate, hpermanent⟩ := hwaiting.failed
  have hkey : key ≠ other := by
    rintro rfl
    cases hfresh.symm.trans hobject
  have hlinks : key ∈ router.links ++ [other] := mem_append_left _ hwaiting.registered
  unfold Router.registerLink
  dsimp only
  split
  · refine hwaiting.grows setState_wantUp ?_ ⟨link, ?_, hstate, hpermanent⟩
      (Grows.setState (by exact .refl _) _ _)
    · rw [setState_links]
      exact hlinks
    · rw [FlowControl.object_setState_other hkey]
      simpa [Router.setLink, hkey] using hobject
  · refine hwaiting.grows rfl hlinks ⟨link, ?_, hstate, hpermanent⟩ (.refl _)
    simpa [Router.setLink, hkey] using hobject

/-- Whatever happens while the scan is running, it comes to the link or calls its `stop()`. -/
theorem Waiting.step (hother : ¬ reports key event) (hstep : step router event = some next) :
    next.log = ⟨key, .stop⟩ :: router.log ∨ Waiting key next := by
  cases steps_of_step hstep with
  | resume => exact (hwaiting.advances_step (.inl rfl) hstep).2.imp_right And.left
  | ret => exact (hwaiting.advances_step (.inr rfl) hstep).2.imp_right And.left
  | started => exact .inr (hwaiting.callback fun _ => rfl)
  | stopped | errored => exact .inr (hwaiting.callback fun hkey => absurd hkey hother)
  | sendNext _ hobject => exact .inr (Waiting.sendNext (hwaiting.setLink hobject rfl rfl))
  | addresses _ hobject => exact .inr (hwaiting.setLink hobject rfl rfl)
  | registerLink _ hfresh => exact .inr (hwaiting.registerLink hfresh)
  | unregisterLink =>
    refine .inr (hwaiting.grows rfl ?_ hwaiting.failed (.refl _))
    exact (mem_erase_of_ne (Ne.symm hother)).2 hwaiting.registered
  | rehash _ hperm =>
    refine .inr (hwaiting.grows rfl ?_ hwaiting.failed (.refl _))
    exact hperm.mem_iff.2 hwaiting.registered
  | start hidle | stop hidle | stateTrigger hidle | retryTimer hidle | sendLData hidle =>
    exact absurd hidle hwaiting.busy

end

/-! ## The whole run of the state trigger -/

/-- The link's driver was told to stop since an earlier state. -/
def Told (key : ℕ) (before after : Router) : Prop :=
  ∃ calls, lifecycle key after.log = calls ++ lifecycle key before.log ∧ .stop ∈ calls

/-- The router's own code is running, and nothing is heard from the link before it was told to
stop. -/
def Scanning (key : ℕ) (before : Router) (router : Router) (event : Event) : Prop :=
  router.stack ≠ [] ∧ (reports key event → Told key before router)

/-- The functions on the stack go on and drivers return, and nothing else happens. -/
def Returning (_ : Router) (event : Event) : Prop :=
  event = .resume ∨ event = .ret

structure Scanned (key : ℕ) (before router : Router) : Prop where
  exists_link : ∃ link, router.object key = some link
  told : Told key before router ∨ Waiting key router ∧
    ∃ calls, lifecycle key router.log = calls ++ lifecycle key before.log

theorem told_of_stop {calls : List Call} (hstop : next.log = ⟨key, .stop⟩ :: router.log)
    (hcalls : lifecycle key router.log = calls ++ lifecycle key before.log) :
    Told key before next :=
  ⟨.stop :: calls, by simp [hstop, lifecycle, hcalls], mem_cons_self⟩

theorem Scanned.step (hscanned : Scanned key before router)
    (hquiet : reports key event → Told key before router) (hstep : step router event = some next) :
    Scanned key before next := by
  obtain ⟨⟨_, hobject⟩, htold⟩ := hscanned
  obtain ⟨after, new, hafter, hlog, -⟩ := changes_of_step hstep hobject
  refine ⟨⟨after, hafter⟩, ?_⟩
  have hkept : Told key before router → Told key before next := by
    rintro ⟨calls, hcalls, hstop⟩
    exact ⟨new ++ calls, by rw [hlog, hcalls, append_assoc], mem_append_right _ hstop⟩
  rcases htold with htold | ⟨hwaiting, calls, hcalls⟩
  · exact .inl (hkept htold)
  by_cases hreports : reports key event
  · exact .inl (hkept (hquiet hreports))
  rcases hwaiting.step hreports hstep with hstop | hnext
  · exact .inl (told_of_stop hstop hcalls)
  · exact .inr ⟨hnext, new ++ calls, by rw [hlog, hcalls, append_assoc]⟩

/-- Something on the stack can go on. -/
theorem exists_returning (hfault : router.fault = none) (hbusy : router.stack ≠ []) :
    ∃ event next, Returning router event ∧ step router event = some next := by
  obtain ⟨top, _, hstack⟩ := exists_cons_of_ne_nil hbusy
  cases top with
  | driver => exact ⟨.ret, _, .inr rfl, by simp [step, hfault, hstack]; rfl⟩
  | _ => exact ⟨.resume, _, .inl rfl, by simp [step, hfault, hstack]; rfl⟩

/-- If nothing else happens, the link is told to stop after finitely many steps. -/
theorem exists_told (hscanned : Scanned key before router) (hfault : router.fault = none) :
    ∃ after, Path step Returning router after ∧ Told key before after := by
  induction heffort : effort router using Nat.strong_induction_on generalizing router with
  | _ _ ih =>
    rcases hscanned.told with htold | ⟨hwaiting, calls, hcalls⟩
    · exact ⟨router, .refl, htold⟩
    obtain ⟨_, next, hreturning, hstep⟩ := exists_returning hfault hwaiting.busy
    have hnext : Scanned key before next := by
      refine hscanned.step (fun hreports => ?_) hstep
      rcases hreturning with rfl | rfl <;> exact hreports.elim
    have hfirst : Path step Returning router next := .step .refl hreturning hstep
    obtain ⟨hnextFault, hstop | ⟨-, hless⟩⟩ := hwaiting.advances_step hreturning hstep
    · exact ⟨next, hfirst, told_of_stop hstop hcalls⟩
    · obtain ⟨after, hpath, htold⟩ :=
        ih (effort next) (heffort ▸ hless) hnext (hnextFault.trans hfault) rfl
      exact ⟨after, hfirst.trans hpath, htold⟩

/-- The state trigger begins its run. -/
theorem scanned_stateTrigger {link : LinkConnect} (hstep : step before .stateTrigger = some router)
    (hwantUp : before.wantUp) (hregistered : key ∈ before.links)
    (hobject : before.object key = some link) (hstate : link.state = .upError)
    (hpermanent : link.transient = false) : Scanned key before router := by
  cases steps_of_step hstep with
  | stateTrigger hidle =>
    refine ⟨⟨link, hobject⟩, .inr ⟨⟨hwantUp, hregistered, ⟨link, hobject, hstate, hpermanent⟩,
      [], .drain ⟨before.someRunning, before.allRunning, 0, 0, 0⟩, ?_, by simp, trivial⟩,
      [], rfl⟩⟩
    simp [push, hidle]

/-- A permanent link that is in `L_up_error` when `state_trigger_cb` begins is told to stop before
it ends, and it takes no more than that drivers return.  Until then the link's own driver reports
nothing and the link stays in the table. -/
theorem failed_link_stopped {begun later : Router} {link : LinkConnect}
    (hstep : step before .stateTrigger = some begun) (hwantUp : before.wantUp)
    (hregistered : key ∈ before.links) (hobject : before.object key = some link)
    (hstate : link.state = .upError) (hpermanent : link.transient = false)
    (hrun : Path step (Scanning key before) begun later) :
    (later.stack = [] → Told key before later) ∧
      (later.fault = none → ∃ after, Path step Returning later after ∧ Told key before after) := by
  have hscanned : Scanned key before later := hrun.invariant (Scanned key before)
      (scanned_stateTrigger hstep hwantUp hregistered hobject hstate hpermanent)
      fun _ _ _ hscanned hscanning hstep => hscanned.step hscanning.2 hstep
  refine ⟨fun hdone => ?_, exists_told hscanned⟩
  rcases hscanned.told with htold | ⟨hwaiting, -⟩
  · exact htold
  · exact absurd hdone hwaiting.busy

/-- A link comes up and fails; the event loop is next. -/
def failing : List Event :=
  [.registerLink 0 {} false, .start, .resume, .started 0, .errored 0, .ret, .resume, .resume,
    .resume, .resume, .resume]

/-- The router's own code is running, and nothing is heard from the link at all. -/
def Silent (key : ℕ) (router : Router) (event : Event) : Prop :=
  router.stack ≠ [] ∧ ¬ reports key event
  deriving Decidable

theorem scanning_of_silent {key : ℕ} (before : Router) {begun later : Router}
    (hsilent : Path step (Silent key) begun later) : Path step (Scanning key before) begun later :=
  hsilent.invariant (Path step (Scanning key before) begun) .refl fun _ _ _ hpath hquiet hstep =>
      .step hpath ⟨hquiet.1, fun hreports => absurd hreports hquiet.2⟩ hstep

/-- The driver of the failed link is told to stop, and returns. -/
theorem failed_link_stopped_once : ∃ before begun later,
    Path step Transition.anyEvent (boot 0) before ∧ step before .stateTrigger = some begun ∧
      Path step (Scanning 0 before) begun later ∧ later.stack = [] ∧ Told 0 before later := by
  obtain ⟨before, hbefore, hwantUp, hregistered, link, hobject, hstate, hpermanent, begun, hstep,
      later, hlater, hdone⟩ : ∃ before, run step (boot 0) failing = some before ∧
      before.wantUp ∧ 0 ∈ before.links ∧ ∃ link, before.object 0 = some link ∧
        link.state = .upError ∧ link.transient = false ∧
      ∃ begun, step before .stateTrigger = some begun ∧ ∃ later, runAllowed step (Silent 0) begun
        [.resume, .resume, .resume, .resume, .resume, .ret, .resume, .resume, .resume] =
          some later ∧ later.stack = [] := by decide +kernel
  have hscan := scanning_of_silent before (path_of_runAllowed hlater)
  exact ⟨before, begun, later, path_of_run hbefore, hstep, hscan, hdone,
    (failed_link_stopped hstep hwantUp hregistered hobject hstate hpermanent hscan).1 hdone⟩

/-- A permanent link is up, a transient link comes up and fails. -/
def transientFailing : List Event :=
  [.registerLink 1 {} false, .start, .resume, .started 1, .ret, .resume, .resume, .resume, .resume,
    .resume, .registerLink 0 {} true, .started 0, .ret, .resume, .errored 0]

/-- The whole run of the state trigger passes over the transient link. -/
theorem transient_link_not_stopped : ∃ before begun later,
    Path step Transition.anyEvent (boot 0) before ∧ before.wantUp ∧ 0 ∈ before.links ∧
      before.stateOf 0 = some .upError ∧ step before .stateTrigger = some begun ∧
      Path step (Scanning 0 before) begun later ∧ later.stack = [] ∧ 0 ∈ later.links ∧
      later.stateOf 0 = some .upError ∧ lifecycle 0 later.log = [.errored, .started, .start] ∧
      ¬ Told 0 before later := by
  obtain ⟨before, hbefore, hwantUp, hregistered, hstate, hcalls, begun, hstep, later, hlater,
      hdone, hstill, hfailed, hsame⟩ : ∃ before, run step (boot 0) transientFailing = some before ∧
      before.wantUp ∧ 0 ∈ before.links ∧ before.stateOf 0 = some .upError ∧
      lifecycle 0 before.log = [.errored, .started, .start] ∧
      ∃ begun, step before .stateTrigger = some begun ∧ ∃ later,
        runAllowed step (Silent 0) begun (replicate 11 .resume) = some later ∧
        later.stack = [] ∧ 0 ∈ later.links ∧ later.stateOf 0 = some .upError ∧
        lifecycle 0 later.log = [.errored, .started, .start] := by decide +kernel
  refine ⟨before, begun, later, path_of_run hbefore, hwantUp, hregistered, hstate, hstep,
    scanning_of_silent before (path_of_runAllowed hlater), hdone, hstill, hfailed, hsame, ?_⟩
  rintro ⟨calls, hlonger, hstop⟩
  obtain rfl : calls = [] := by simpa [hsame, hcalls] using hlonger
  simp at hstop

end Knxd.ErrorScan
