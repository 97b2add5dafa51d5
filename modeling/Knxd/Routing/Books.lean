import Knxd.Routing.Stack

/-!
# What the router's own steps leave alone

Starting, stopping, waking up and reporting never touch what the links answer
about addresses, and no link enters the table by them.  Only the loop of
`send_L_Data` passes a frame to a link, and it passes the frame it was called with.
-/

namespace Knxd.Routing

open Memory LPDU Link Router List

variable {pending : Pending} {router next : Router}

/-- What the driver chain of a link answers to `hasAddress`. -/
def Router.book (router : Router) (key : ℕ) : Option (Addr → Bool) :=
  (router.object key).map (·.hasAddress)

/-- The events by which the program outside the router changes addresses, the link
table or the traffic. -/
def Event.internal : Event → Bool
  | .addresses _ _ _ _ | .registerLink _ _ _ | .sendLData _ => false
  | _ => true

def sends : List Entry → List (ℕ × LDataPDU)
  | [] => []
  | ⟨key, .send frame⟩ :: older => (key, frame) :: sends older
  | _ :: older => sends older

def Pending.frame? : Pending → Option LDataPDU
  | .sendLoop frame _ _ => some frame
  | _ => none

def inFlight (stack : List Pending) : List LDataPDU :=
  stack.filterMap Pending.frame?

/-- The frame of a suspended loop and the number of links it has still to visit. -/
def Pending.visits? : Pending → Option (LDataPDU × ℕ)
  | .sendLoop frame _ rest => some (frame, rest.length)
  | _ => none

def visits (stack : List Pending) : List (LDataPDU × ℕ) :=
  stack.filterMap Pending.visits?

/-- What is left of the distribution when a frame weighs so much on each link. -/
def load (weight : LDataPDU → ℕ) (stack : List Pending) : ℕ :=
  ((visits stack).map fun visit => visit.2 * weight visit.1).sum

theorem inFlight_eq_map_visits (stack : List Pending) :
    inFlight stack = (visits stack).map Prod.fst := by
  rw [visits, map_filterMap, inFlight]
  congr 1
  funext pending
  cases pending <;> rfl

theorem visits?_eq_none (hframe : pending.frame? = none) : pending.visits? = none := by
  cases pending with
  | sendLoop => cases hframe
  | _ => rfl

theorem load_sendLoop_cons (weight : LDataPDU → ℕ) (frame : LDataPDU) (found : Bool)
    (rest : List ℕ) (stack : List Pending) :
    load weight (.sendLoop frame found rest :: stack) =
      rest.length * weight frame + load weight stack :=
  rfl

structure SameBooks (router next : Router) : Prop where
  addr : next.addr = router.addr
  book : ∀ key, next.book key = router.book key
  links : ∀ key ∈ next.links, key ∈ router.links
  nodup : router.links.Nodup → next.links.Nodup

structure KeepsBooks (router next : Router) : Prop extends SameBooks router next where
  passed : sends next.log = sends router.log
  distributed : ∀ frame ∈ inFlight next.stack, frame ∈ inFlight router.stack
  load_le : ∀ weight, load weight next.stack ≤ load weight router.stack

section Updates

variable {router next last : Router} {key : ℕ}

theorem KeepsBooks.refl (router : Router) : KeepsBooks router router :=
  ⟨⟨rfl, fun _ => rfl, fun _ => id, id⟩, rfl, fun _ => id, fun _ => le_rfl⟩

theorem KeepsBooks.after (hsecond : KeepsBooks next last) (hfirst : KeepsBooks router next) :
    KeepsBooks router last where
  addr := hsecond.addr.trans hfirst.addr
  book key := (hsecond.book key).trans (hfirst.book key)
  links key hkey := hfirst.links key (hsecond.links key hkey)
  nodup hnodup := hsecond.nodup (hfirst.nodup hnodup)
  passed := hsecond.passed.trans hfirst.passed
  distributed frame hframe := hfirst.distributed frame (hsecond.distributed frame hframe)
  load_le weight := (hsecond.load_le weight).trans (hfirst.load_le weight)

/-- Updates of the flags, the queue and the stack only. -/
theorem KeepsBooks.of_fields (hobject : next.object = router.object)
    (haddr : next.addr = router.addr) (hlinks : next.links = router.links)
    (hlog : next.log = router.log) (hstack : visits next.stack = visits router.stack) :
    KeepsBooks router next where
  addr := haddr
  book key := by rw [book, book, hobject]
  links key := by rw [hlinks]; exact id
  nodup := by rw [hlinks]; exact id
  passed := by rw [hlog]
  distributed frame := by rw [inFlight_eq_map_visits, hstack, ← inFlight_eq_map_visits]; exact id
  load_le weight := by rw [load, hstack]; exact le_rfl

theorem KeepsBooks.setLink {link update : LinkConnect} (hobject : router.object key = some link)
    (hbook : update.hasAddress = link.hasAddress) :
    KeepsBooks router (router.setLink key update) where
  addr := rfl
  book other := by
    by_cases hother : other = key
    · subst hother
      simp [book, setLink, hobject, hbook]
    · simp [Router.book, Router.setLink, hother]
  links _ := id
  nodup := id
  passed := rfl
  distributed _ := id
  load_le _ := le_rfl

theorem KeepsBooks.push (hframe : pending.frame? = none) :
    KeepsBooks router (router.push pending) :=
  .of_fields rfl rfl rfl rfl (filterMap_cons_none (visits?_eq_none hframe))

theorem KeepsBooks.record {call : Call} (hcall : ∀ frame, call ≠ .send frame) :
    KeepsBooks router (router.record key call) where
  addr := rfl
  book _ := rfl
  links _ := id
  nodup := id
  passed := by
    cases call with
    | send frame => exact absurd rfl (hcall frame)
    | _ => rfl
  distributed _ := id
  load_le _ := le_rfl

theorem KeepsBooks.callDriver {call : Call} (hcall : ∀ frame, call ≠ .send frame) :
    KeepsBooks router (router.callDriver key call) :=
  .after (.push rfl) (.record hcall)

theorem KeepsBooks.sendNext : KeepsBooks router router.sendNext := by
  unfold Router.sendNext
  split_ifs <;> exact .of_fields rfl rfl rfl rfl rfl

theorem KeepsBooks.stop : KeepsBooks router router.stop := by
  unfold Router.stop
  split <;> exact .of_fields rfl rfl rfl rfl rfl

theorem KeepsBooks.setState (key : ℕ) (newState : LConnState) :
    KeepsBooks router (router.setState key newState) := by
  unfold Router.setState
  split
  · exact .refl _
  · next link hobject =>
    split
    · exact .of_fields rfl rfl rfl rfl rfl
    · next update effect htable =>
      refine .after ?_ (.setLink hobject
        (LinkConnect.hasAddress_of_settings (LinkConnect.settings_setState htable)))
      cases effect with
      | unchanged | retryLater => exact .refl _
      | changed => exact .of_fields rfl rfl rfl rfl rfl
      | start | stop => exact .after (.callDriver (by simp)) (.push rfl)

end Updates

/-- A frame passed to a link by the loop on top of the stack: the link is in the
table, up and ready, does not have the source address, and is a target. -/
structure Passes (router next : Router) (frame : LDataPDU) (key : ℕ) : Prop
    extends SameBooks router next where
  passed : sends next.log = (key, frame) :: sends router.log
  distributed : ∀ other ∈ inFlight next.stack, other ∈ inFlight router.stack
  load_lt : ∀ weight, load weight next.stack + weight frame ≤ load weight router.stack
  member : key ∈ router.links
  target : ∃ link, router.object key = some link ∧ link.hasAddress frame.source = false

section Resume

variable {router : Router}

theorem frame?_eq_none (hkind : pending.kind ≠ .send) : pending.frame? = none := by
  cases pending with
  | sendLoop => exact absurd rfl hkind
  | _ => rfl

/-- Bookkeeping of a function that does not distribute a frame. -/
theorem KeepsBooks.settles {base : Router} (hkind : pending.kind ≠ .send)
    (hsettles : Settles router pending base) : KeepsBooks router base := by
  have hstack : visits base.stack = visits router.stack := by
    rcases hsettles.stack with hsame | ⟨left, hleft, hstack⟩
    · rw [hsame]
    · rw [hstack]
      exact filterMap_cons_none (visits?_eq_none (frame?_eq_none (hleft ▸ hkind)))
  rcases hsettles.object with hsame | ⟨key, link, hobject, hstamped⟩
  · exact .of_fields hsame hsettles.addr hsettles.links hsettles.log hstack
  · exact .after (.of_fields hstamped hsettles.addr hsettles.links hsettles.log hstack)
      (.setLink hobject rfl)

theorem KeepsBooks.resumed {next : Router} (hkind : pending.kind ≠ .send)
    (hresumed : Resumed router pending next) : KeepsBooks router next := by
  cases hresumed with
  | settled hsettles => exact .settles hkind hsettles
  | setState key newState hsettles =>
    exact .after (.setState key newState) (.settles hkind hsettles)
  | callDriver _ hsettles => exact .after (.callDriver (by simp)) (.settles hkind hsettles)
  | stop _ _ hsettles => exact .after .stop (.settles hkind hsettles)

/-- Every function but the loop of `send_L_Data` leaves addresses and frames alone. -/
theorem keepsBooks_resume (hframe : pending.frame? = none) :
    KeepsBooks router (router.resume pending) := by
  have hkind : pending.kind ≠ .send := by
    cases pending with
    | sendLoop => cases hframe
    | _ => simp [Pending.kind]
  exact .resumed hkind (resumed_resume router hkind)

/-- The loop of `send_L_Data` skips the link at hand or passes the frame to it. -/
theorem sendLoop_cases {frame : LDataPDU} {found : Bool} {rest : List ℕ} {stack : List Pending}
    (hstack : router.stack = .sendLoop frame found rest :: stack) :
    KeepsBooks router ({ router with stack }.sendLoop frame found rest) ∨
      ∃ key, Passes router ({ router with stack }.sendLoop frame found rest) frame key := by
  have hdistributed : ∀ other ∈ inFlight (.sendLoop frame found rest :: stack),
      other ∈ inFlight router.stack := by
    rw [hstack]
    exact fun _ => id
  have hload : ∀ weight, load weight router.stack =
      rest.length * weight frame + load weight stack := by
    rw [hstack]
    exact fun weight => load_sendLoop_cons weight frame found rest stack
  cases rest with
  | nil =>
    refine .inl (.after .sendNext ⟨⟨rfl, fun _ => rfl, fun _ => id, id⟩, rfl, ?_, ?_⟩)
    · exact fun other hother => hdistributed other (mem_cons_of_mem _ hother)
    · exact fun weight => (hload weight).ge.trans' (Nat.le_add_left _ _)
  | cons key rest =>
    have hvisit : ∀ weight, load weight (.sendLoop frame found rest :: stack) + weight frame ≤
        load weight router.stack := by
      intro weight
      rw [hload, load_sendLoop_cons, length_cons, Nat.succ_mul]
      omega
    have hcontinued : KeepsBooks router ({ router with stack }.push (.sendLoop frame found rest)) :=
      ⟨⟨rfl, fun _ => rfl, fun _ => id, id⟩, rfl, hdistributed,
        fun weight => (Nat.le_add_right _ _).trans (hvisit weight)⟩
    rw [sendLoop]
    dsimp only
    split
    · exact .inl hcontinued
    · next link hobject =>
      split
      · next htarget =>
        obtain ⟨hmember, -, -, hsource, -⟩ := htarget
        rw [linkSendLData]
        split
        · exact .inl hcontinued
        · have hset : KeepsBooks router (router.setLink key
              { link with sendMore := false, retryTimer := true }) := .setLink hobject rfl
          exact .inr ⟨key, ⟨rfl, hset.book, fun _ => id, id⟩, rfl, hdistributed, hvisit,
            hmember, link, hobject, hsource⟩
      · exact .inl hcontinued

end Resume

/-- A step leaves addresses and frames alone, or is a pass of the loop of
`send_L_Data`. -/
theorem step_loop {event : Event} (hinternal : event.internal)
    (hstep : step router event = some next) :
    KeepsBooks router next ∨
      ∃ frame found rest stack, router.stack = .sendLoop frame found rest :: stack ∧
        next = { router with stack }.sendLoop frame found rest := by
  cases steps_of_step hstep with
  | @resume pending stack hstack =>
    cases pending with
    | sendLoop frame found rest => exact .inr ⟨frame, found, rest, stack, hstack, rfl⟩
    | _ =>
      refine .inl (.after (keepsBooks_resume rfl) (.of_fields rfl rfl rfl rfl ?_))
      rw [hstack]
      rfl
  | ret hstack =>
    refine .inl (.of_fields rfl rfl rfl rfl ?_)
    rw [hstack]
    rfl
  | started | stopped | errored => exact .inl (.after (.setState _ _) (.record (by simp)))
  | sendNext _ hobject => exact .inl (.after .sendNext (.setLink hobject rfl))
  | unregisterLink =>
    exact .inl ⟨⟨rfl, fun _ => rfl, fun _ => mem_of_mem_erase,
      fun hnodup => hnodup.erase _⟩, rfl, fun _ => id, fun _ => le_rfl⟩
  | rehash _ hperm =>
    exact .inl ⟨⟨rfl, fun _ => rfl, fun _ => hperm.mem_iff.1, hperm.nodup_iff.2⟩, rfl,
      fun _ => id, fun _ => le_rfl⟩
  | start =>
    refine .inl ?_
    unfold start
    split <;> exact .of_fields rfl rfl rfl rfl rfl
  | stop => exact .inl .stop
  | stateTrigger => exact .inl (.of_fields rfl rfl rfl rfl rfl)
  | retryTimer _ hobject =>
    refine .inl ?_
    unfold retryTimer
    split_ifs
    · exact .after (.setState _ _) (.setLink hobject rfl)
    · exact .after (.setState _ _) (.setLink hobject rfl)
    · exact .setLink hobject rfl
  | addresses | registerLink | sendLData => cases hinternal

/-- What a step can do to addresses and frames. -/
theorem step_books {event : Event} (hinternal : event.internal)
    (hstep : step router event = some next) :
    KeepsBooks router next ∨
      ∃ frame ∈ inFlight router.stack, ∃ key, Passes router next frame key := by
  obtain hkeeps | ⟨frame, found, rest, stack, hstack, rfl⟩ := step_loop hinternal hstep
  · exact .inl hkeeps
  · refine (sendLoop_cases hstack).imp_right fun ⟨key, hpasses⟩ => ⟨frame, ?_, key, hpasses⟩
    rw [hstack]
    exact mem_cons_self

/-- `send_L_Data` starts to distribute its frame, and no other. -/
theorem sendLData_books {frame : LDataPDU} (hstep : step router (.sendLData frame) = some next) :
    SameBooks router next ∧ sends next.log = sends router.log ∧
      (∀ other ∈ inFlight next.stack, other = frame) ∧
      ∀ weight, load weight next.stack ≤ router.links.length * weight frame := by
  cases steps_of_step hstep with
  | sendLData hidle =>
    unfold sendLData
    split
    · refine ⟨⟨rfl, fun _ => rfl, fun _ => id, id⟩, rfl, fun other hother => ?_, fun weight => ?_⟩
      · simpa [push, inFlight, Pending.frame?, hidle] using hother
      · rw [push, hidle, load_sendLoop_cons]
        exact le_rfl
    · refine ⟨⟨rfl, fun _ => rfl, fun _ => id, id⟩, rfl, fun other hother => ?_, fun weight => ?_⟩
      · simp [inFlight, hidle] at hother
      · rw [hidle]
        exact Nat.zero_le _

/-- A new link in the table, and nothing else that concerns addresses and frames. -/
structure Registers (router next : Router) (key : ℕ) (book : Addr → Bool) : Prop where
  fresh : router.book key = none
  addr : next.addr = router.addr
  links : next.links = router.links ++ [key]
  same : next.book key = some book
  other : ∀ other, other ≠ key → next.book other = router.book other
  passed : sends next.log = sends router.log
  distributed : ∀ frame ∈ inFlight next.stack, frame ∈ inFlight router.stack
  load_le : ∀ weight, load weight next.stack ≤ load weight router.stack

theorem registers_of_step {key : ℕ} {config : LinkConnect}
    {transient : Bool} (hstep : step router (.registerLink key config transient) = some next) :
    Registers router next key config.hasAddress := by
  cases steps_of_step hstep with
  | registerLink _ hfresh =>
    have hnone : router.book key = none := by rw [book, hfresh, Option.map_none]
    unfold registerLink
    dsimp only
    split
    · have hkeeps : ∀ entered : Router, KeepsBooks entered (entered.setState key .goingUp) :=
        fun _ => .setState key .goingUp
      constructor
      · exact hnone
      · exact (hkeeps _).addr
      · exact setState_links
      · rw [(hkeeps _).book]
        simp [book, setLink, LinkConnect.construct]
      · intro other hother
        rw [(hkeeps _).book]
        simp [book, setLink, hother]
      · exact (hkeeps _).passed
      · exact (hkeeps _).distributed
      · exact (hkeeps _).load_le
    · constructor
      · exact hnone
      · rfl
      · rfl
      · simp [book, setLink, LinkConnect.construct]
      · intro other hother
        simp [book, setLink, hother]
      · rfl
      · exact fun _ => id
      · exact fun _ => le_rfl

end Knxd.Routing
