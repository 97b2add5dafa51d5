import Knxd.Routing.Books

/-!
# What the router never changes about a link

The router moves a link through its states, counts its retries and notes whether it
can take a frame.  Its configuration and what its driver chain answers about addresses
stay as they are, whatever the router does.  A frame that the loop of `send_L_Data`
passes on goes to a link that is a target by these answers.
-/

namespace Knxd.Settings

open Memory LPDU Link Routing Router List Function

def SameSettings (router next : Router) : Prop :=
  ∀ key, (next.object key).map LinkConnect.settings = (router.object key).map LinkConnect.settings

section Updates

variable {router next last : Router} {key : ℕ}

theorem SameSettings.after (hsecond : SameSettings next last)
    (hfirst : SameSettings router next) : SameSettings router last :=
  fun key => (hsecond key).trans (hfirst key)

theorem SameSettings.of_object (hobject : next.object = router.object) : SameSettings router next :=
  fun key => by rw [hobject]

theorem SameSettings.setLink {link update : LinkConnect} (hobject : router.object key = some link)
    (hsettings : update.settings = link.settings) :
    SameSettings router (router.setLink key update) := by
  intro other
  by_cases hother : other = key
  · subst hother
    simp [setLink, hobject, hsettings]
  · simp [Router.setLink, hother]

theorem SameSettings.setState (key : ℕ) (newState : LConnState) :
    SameSettings router (router.setState key newState) :=
  map_object_setState _ fun _ _ htable => LinkConnect.settings_setState htable

theorem SameSettings.settles {pending : Pending} {base : Router}
    (hsettles : Settles router pending base) : SameSettings router base := by
  rcases hsettles.object with hsame | ⟨key, link, hobject, hstamped⟩
  · exact .of_object hsame
  · exact .after (.of_object hstamped) (.setLink hobject rfl)

theorem SameSettings.resumed {pending : Pending} (hresumed : Resumed router pending next) :
    SameSettings router next := by
  cases hresumed with
  | settled hsettles => exact .settles hsettles
  | setState key newState hsettles => exact .after (.setState key newState) (.settles hsettles)
  | @callDriver base key hsettles =>
    have hobject : (base.callDriver key .stop).object = base.object := rfl
    exact .after (.of_object hobject) (.settles hsettles)
  | @stop base _ _ hsettles =>
    have hobject : base.stop.object = base.object := by
      unfold stop
      split <;> rfl
    exact .after (.of_object hobject) (.settles hsettles)

theorem object_sendNext (router : Router) : router.sendNext.object = router.object := by
  unfold sendNext
  split_ifs <;> rfl

theorem SameSettings.sendLoop {frame : LDataPDU} {found : Bool} {rest : List ℕ} :
    SameSettings router (router.sendLoop frame found rest) := by
  cases rest with
  | nil => exact .of_object (object_sendNext _)
  | cons =>
    rw [Router.sendLoop]
    split
    · exact .of_object rfl
    · next link hobject =>
      split
      · rw [linkSendLData]
        split
        · exact .of_object rfl
        · exact .after (.of_object rfl) (.setLink hobject rfl)
      · exact .of_object rfl

end Updates

variable {router next : Router} {key : ℕ}

/-- What the router does of its own accord, and the distribution of a frame, leave the
settings of the links alone. -/
theorem sameSettings_of_step {event : Event}
    (hevent : event.internal ∨ ∃ frame, event = .sendLData frame)
    (hstep : step router event = some next) : SameSettings router next := by
  cases steps_of_step hstep with
  | @resume pending =>
    by_cases hkind : pending.kind = .send
    · cases pending with
      | sendLoop => exact .after .sendLoop (.of_object rfl)
      | _ => cases hkind
    · exact .after (.resumed (resumed_resume _ hkind)) (.of_object rfl)
  | started | stopped | errored => exact .after (.setState _ _) (.of_object rfl)
  | sendNext _ hobject =>
    exact .after (.of_object (object_sendNext _)) (.setLink hobject rfl)
  | ret | unregisterLink | rehash | stateTrigger => exact .of_object rfl
  | start =>
    refine .of_object ?_
    unfold start
    split <;> rfl
  | stop =>
    refine .of_object ?_
    unfold stop
    split <;> rfl
  | retryTimer _ hobject =>
    unfold retryTimer
    split_ifs
    · exact .after (.setState _ _) (.setLink hobject rfl)
    · exact .after (.setState _ _) (.setLink hobject rfl)
    · exact .setLink hobject rfl
  | sendLData =>
    refine .of_object ?_
    unfold sendLData
    split <;> rfl
  | addresses | registerLink => simp [Event.internal] at hevent

/-- A new link has the settings it was configured with, and the others keep theirs. -/
theorem settings_registerLink {config : LinkConnect} {transient : Bool}
    (hstep : step router (.registerLink key config transient) = some next) :
    (∃ link, next.object key = some link ∧ link.hasAddress = config.hasAddress ∧
      link.checkAddress = config.checkAddress) ∧
      ∀ other, other ≠ key → (next.object other).map LinkConnect.settings =
          (router.object other).map LinkConnect.settings := by
  cases steps_of_step hstep with
  | registerLink =>
    let link : LinkConnect :=
      { config.construct with transient := config.transient || transient }
    have hentered : SameSettings (router.setLink key link)
        (router.registerLink key config transient) := by
      unfold registerLink
      dsimp only
      split
      · refine .after (.setState key .goingUp) ?_
        refine @SameSettings.setLink (router.setLink key link) key link _ ?_ rfl
        exact update_self _ _ _
      · exact .of_object rfl
    constructor
    · have hkey := hentered key
      rw [show (router.setLink key link).object key = some link from update_self _ _ _,
        Option.map_some] at hkey
      obtain ⟨after, hafter, hsettings⟩ := Option.map_eq_some_iff.1 hkey
      have hhas : after.hasAddress = link.hasAddress := LinkConnect.hasAddress_of_settings hsettings
      have hcheck : after.checkAddress = link.checkAddress :=
        LinkConnect.checkAddress_of_settings hsettings
      exact ⟨after, hafter, hhas, hcheck⟩
    · intro other hother
      rw [hentered other, show (router.setLink key link).object other = router.object other from
        update_of_ne hother _ _]

/-- The link that the loop of `send_L_Data` passes its frame to is a target. -/
theorem isTarget_of_sendLoop {frame passed : LDataPDU} {found : Bool} {rest : List ℕ}
    (hsends : sends (router.sendLoop frame found rest).log = (key, passed) :: sends router.log) :
    passed = frame ∧ ∃ link, router.object key = some link ∧ isTarget frame found link := by
  cases rest with
  | nil =>
    have hsame : sends (router.sendLoop frame found []).log = sends router.log :=
      KeepsBooks.sendNext.passed
    exact absurd (hsends.symm.trans hsame) (cons_ne_self _ _)
  | cons =>
    rw [sendLoop] at hsends
    split at hsends
    · exact absurd hsends.symm (cons_ne_self _ _)
    · next link hobject =>
      split at hsends
      · next hpasses =>
        obtain ⟨-, -, -, -, htarget⟩ := hpasses
        rw [linkSendLData] at hsends
        split at hsends
        · exact absurd hsends.symm (cons_ne_self _ _)
        · obtain ⟨hkey, hframe⟩ := Prod.mk.inj (cons.inj hsends).1
          exact ⟨hframe.symm, link, hkey ▸ hobject, htarget⟩
      · exact absurd hsends.symm (cons_ne_self _ _)

/-- A frame is passed on only to a link that is a target. -/
theorem isTarget_of_step {event : Event} {frame : LDataPDU} (hinternal : event.internal)
    (hstep : step router event = some next)
    (hsends : sends next.log = (key, frame) :: sends router.log) :
    ∃ found link, router.object key = some link ∧ isTarget frame found link := by
  obtain hkeeps | ⟨flying, found, rest, stack, hstack, rfl⟩ := step_loop hinternal hstep
  · exact absurd (hsends.symm.trans hkeeps.passed) (cons_ne_self _ _)
  · obtain ⟨rfl, link, hobject, htarget⟩ := @isTarget_of_sendLoop { router with stack } _ _ _ _ _
      hsends
    exact ⟨found, link, hobject, htarget⟩

end Knxd.Settings
