import Knxd.Routing.FlowControl
import Knxd.Routing.Frames

/-!
# No frame goes back where it came from

A queued frame does not carry the link it came from.  `send_L_Data` skips the links
that have the source address, so a frame stays away from its own link if and as long
as that link has its source.  `recv_L_Data` sees to this for every source but two.
The address of unprogrammed devices is accepted from any link and never learned.  The
router's own address is accepted from the group cache, which does not have it.
-/

namespace Knxd.Reflection

open Memory LPDU Link Routing ClientAddrs Allocator Traffic Option Function Transition List
open Frames (PortFits effect_of_step)
open Transition (Path anyEvent)

/-- The source of every frame on its way is an address of the link it came from. -/
structure Tracked (t : Relay) : Prop where
  fits : ∀ key book, t.router.book key = some book → PortFits (t.port key) book
  queued : ∀ q ∈ t.buf, linkHasAddress t.router q.origin q.frame.source
  flying : ∀ frame ∈ inFlight t.router.stack, linkHasAddress t.router t.sending frame.source

/-- A frame that a link hands to the router has a source that its link has or will
have: it is not the address of unprogrammed devices, unless that is known, and a local
link that sends in the router's name has the router's address. -/
def KnownSource (t : Relay) : Traffic.Event → Prop
  | .receive key l =>
    (t.sourceOf key l = 0xFFFF → hasAddress t.router 0xFFFF) ∧
      ((t.port key).isLocal → t.sourceOf key l = t.router.addr →
        linkHasAddress t.router key t.router.addr)
  | _ => True

instance (t : Relay) : (event : Traffic.Event) → Decidable (KnownSource t event)
  | .receive _ _ => inferInstanceAs (Decidable ((_ → _) ∧ (_ → _ → _)))
  | .router _ | .setAddress _ _ | .registerBus _ _ | .registerServer _ _ | .registerCache _ _
  | .clientConnection _ | .openConn _ _ _ | .exitConn _ | .clientStop _ | .addTunnel _ _ _ _
  | .addConfig _ _ _ | .connStop _ | .dropConn _ | .trigger _ | .expire _ =>
    inferInstanceAs (Decidable True)

section Tracking

variable {t next : Relay} {key : ℕ}

theorem tracked_boot (addr start : Addr) (length : ℕ) (forceBroadcast : Bool) :
    Tracked (Traffic.boot addr start length forceBroadcast) where
  fits _ _ hbook := by cases hbook
  queued _ hmem := by cases hmem
  flying _ hmem := by cases hmem

theorem linkHasAddress_of_book {router : Router} {book : Addr → Bool}
    (hbook : router.book key = some book) (addr : Addr) :
    linkHasAddress router key addr = book addr := by
  rw [linkHasAddress, hbook]

theorem linkHasAddress_of_sameBooks {router after : Router} (hsame : SameBooks router after)
    (key : ℕ) (addr : Addr) : linkHasAddress after key addr = linkHasAddress router key addr := by
  rw [linkHasAddress, linkHasAddress, hsame.book]

section

variable (htracked : Tracked t)
include htracked

/-- The addresses of all links grow, and the fields of the links stay. -/
theorem Tracked.keeps (hsame : SameBooks t.router next.router)
    (hport : next.port = t.port) (hbuf : ∀ q ∈ next.buf, q ∈ t.buf)
    (hflying : ∀ frame ∈ inFlight next.router.stack,
      linkHasAddress t.router next.sending frame.source) : Tracked next where
  fits key book hbook := by
    rw [hport]
    exact htracked.fits key book (hsame.book key ▸ hbook)
  queued q hq := by
    rw [linkHasAddress_of_sameBooks hsame]
    exact htracked.queued q (hbuf q hq)
  flying frame hframe := by
    rw [linkHasAddress_of_sameBooks hsame]
    exact hflying frame hframe

/-- The frame is queued with the link it came from. -/
theorem Tracked.queueLData {l : LDataPDU}
    (hclaims : linkHasAddress t.router key l.source) : Tracked (t.queueLData key l) := by
  unfold Relay.queueLData
  split
  · refine ⟨htracked.fits, fun q hq => ?_, htracked.flying⟩
    obtain hq | hq := mem_append.1 hq
    · exact htracked.queued q hq
    · rw [mem_singleton.1 hq]
      exact hclaims
  · exact htracked

/-- A link that learns an address keeps the others. -/
theorem Tracked.learn {link : LinkConnect} (addr : Addr)
    (hobject : t.router.object key = some link) (hbus : (t.port key).kind = .bus) :
    Tracked { t with router := t.router.setLink key (busAddAddress link addr) } := by
  have hgrows : ∀ other asked, linkHasAddress t.router other asked →
      linkHasAddress (t.router.setLink key (busAddAddress link addr)) other asked := by
    intro other asked hclaim
    rw [linkHasAddress_learned addr hobject, hclaim, Bool.or_true]
  refine ⟨fun other book hbook => ?_, fun q hq => hgrows _ _ (htracked.queued q hq),
    fun frame hframe => hgrows _ _ (htracked.flying frame hframe)⟩
  by_cases hother : other = key
  · subst hother
    have hold := htracked.fits other link.hasAddress (by rw [Router.book, hobject, map_some])
    refine ⟨hold.isLocal, fun hcache => ?_, fun hsingle => ?_⟩
    · exact absurd (hbus.symm.trans hcache) (by decide)
    · exact absurd (hbus.symm.trans hsingle) (by decide)
  · apply htracked.fits other book
    simpa [Router.book, Router.setLink, hother] using hbook

theorem Tracked.recvLData {link : LinkConnect} {l : LDataPDU}
    (hobject : t.router.object key = some link) (hsends : t.sends key l)
    (hknown : KnownSource t (.receive key l)) (hfault : (t.recvLData key l).router.fault = none) :
    Tracked (t.recvLData key l) := by
  have hbook : t.router.book key = some link.hasAddress := by
    rw [Router.book, hobject, map_some]
  have hfits := htracked.fits key _ hbook
  obtain hsame | ⟨hqueue, haccepts⟩ | ⟨hqueue, hlearns⟩ := recvLData_cases t key l
  · rw [hsame]
    exact htracked
  · rw [hqueue]
    apply htracked.queueLData
    change linkHasAddress t.router key (t.sourceOf key l)
    cases haccepts with
    | own hown hlocal =>
      rw [hown]
      exact hknown.2 hlocal hown
    | known _ hfind => exact linkHasAddress_of_findAddress hfind
    | programming hown hsource hfind =>
      have hhas := hknown.1 hsource
      rw [hasAddress, ← hsource, hfind] at hhas
      simp [hown] at hhas
  · rw [hqueue] at hfault ⊢
    obtain ⟨link, hobject, hbus, hadd⟩ | ⟨hadd, hignores⟩ | hadd :=
      addAddress_cases t key (t.sourceOf key l)
    · rw [hadd]
      apply (htracked.learn _ hobject hbus).queueLData
      rw [linkHasAddress_learned _ hobject]
      simp [Relay.accepted]
    · rw [hadd]
      apply htracked.queueLData
      change linkHasAddress t.router key (t.sourceOf key l)
      cases hignores with
      | absent hnone => cases hnone.symm.trans hobject
      | single hsingle haddr =>
        rw [linkHasAddress_of_book hbook, haddr.resolve_left (ne_zero_of_learns hlearns)]
        exact hfits.single hsingle
      | server hserver => exact absurd hserver hsends.1
      | cache hcache =>
        -- its frames have no source, and get the router's
        refine absurd ?_ hlearns.ne_own
        simp [Relay.sourceOf, hsends.2 hcache, hfits.cache hcache]
    · rw [hadd, queueLData_router] at hfault
      cases hfault

/-- A new link leaves the frames of the others alone. -/
theorem Tracked.register {port : Port} {book : Addr → Bool}
    (hregisters : Registers t.router next.router key book)
    (hport : next.port = Function.update t.port key port)
    (hfits : PortFits port book) (hbuf : next.buf = t.buf)
    (hsending : next.sending = t.sending) : Tracked next := by
  have hgrows : ∀ other asked, linkHasAddress t.router other asked →
      linkHasAddress next.router other asked := by
    intro other asked hclaim
    by_cases hother : other = key
    · rw [linkHasAddress, hother, hregisters.fresh] at hclaim
      cases hclaim
    · rw [linkHasAddress, hregisters.other other hother]
      exact hclaim
  constructor
  · intro other found hfound
    rw [hport]
    by_cases hother : other = key
    · subst hother
      rw [update_self]
      rw [hregisters.same, Option.some.injEq] at hfound
      exact hfound ▸ hfits
    · rw [update_of_ne hother]
      exact htracked.fits other found (hregisters.other other hother ▸ hfound)
  · intro q hq
    exact hgrows _ _ (htracked.queued q (hbuf ▸ hq))
  · intro frame hframe
    rw [hsending]
    exact hgrows _ _ (htracked.flying frame (hregisters.distributed frame hframe))

/-- One step keeps track of every frame, as long as the program is not aborted. -/
theorem Tracked.step {event : Traffic.Event}
    (hknown : KnownSource t event) (hstep : Traffic.step t event = some next)
    (hfault : next.router.fault = none) : Tracked next := by
  cases effect_of_step hstep with
  | quiet hkeeps hport hbuf hsending =>
    refine htracked.keeps hkeeps.toSameBooks hport (fun _ hq => hbuf.mem hq) fun frame hframe => ?_
    rw [hsending]
    exact htracked.flying frame (hkeeps.distributed frame hframe)
  | passes hframe hpasses hport hbuf hsending =>
    refine htracked.keeps hpasses.toSameBooks hport (by rw [hbuf]; exact fun _ => id) ?_
    intro frame hframe
    rw [hsending]
    exact htracked.flying frame (hpasses.distributed frame hframe)
  | receives hobject hsends => exact htracked.recvLData hobject hsends hknown hfault
  | registers hregisters hport hfits hbuf hsending =>
    exact htracked.register hregisters hport hfits hbuf hsending
  | @addresses key _ hbus =>
    refine ⟨fun other book hbook => ?_, htracked.queued, htracked.flying⟩
    dsimp only
    by_cases hother : other = key
    · subst hother
      rw [update_self]
      have hfits := htracked.fits other book hbook
      refine ⟨hfits.isLocal, fun hcache => ?_, fun hsingle => ?_⟩
      · exact absurd (hbus.symm.trans hcache) (by decide)
      · exact absurd (hbus.symm.trans hsingle) (by decide)
    · rw [update_of_ne hother]
      exact htracked.fits other book hbook
  | @distributes _ _ queued l _ _ hbuf htrigger hsame _ hflight _ hport hsending =>
    have hsource : l.source = queued.frame.source := by rw [(eq_of_triggerFrame htrigger).2]
    have hmem : ∀ q ∈ queued :: next.buf, linkHasAddress t.router q.origin q.frame.source := by
      rw [← hbuf]
      exact htracked.queued
    refine htracked.keeps hsame hport ?_ fun frame hframe => ?_
    · rw [hbuf]
      exact fun _ => mem_cons_of_mem queued
    · rw [hflight frame hframe, hsource, hsending]
      exact hmem queued mem_cons_self

end

/-- A step that passes a frame on is a pass of the loop of `send_L_Data`. -/
theorem passes_of_log {event : Traffic.Event} {frame : LDataPDU}
    (hstep : Traffic.step t event = some next)
    (hlog : next.router.log = ⟨key, .send frame⟩ :: t.router.log) :
    frame ∈ inFlight t.router.stack ∧ Passes t.router next.router frame key := by
  have hsends : sends next.router.log = (key, frame) :: sends t.router.log := by
    rw [hlog, sends]
  have hnot : sends next.router.log ≠ sends t.router.log := by
    rw [hsends]
    exact cons_ne_self _ _
  cases effect_of_step hstep with
  | quiet hkeeps => exact absurd hkeeps.passed hnot
  | @passes _ _ passed _ hframe hpasses =>
    have hpassed := hpasses.passed
    rw [hsends] at hpassed
    obtain ⟨rfl, rfl⟩ := Prod.mk.inj (cons.inj hpassed).1
    exact ⟨hframe, hpasses⟩
  | receives => exact absurd (congrArg sends (recvLData_log t _ _)) hnot
  | registers hregisters => exact absurd hregisters.passed hnot
  | addresses => exact absurd rfl hnot
  | distributes _ _ _ hpassed => exact absurd hpassed hnot

end Tracking

/-- In every run in which no frame with an unknown source 0xFFFF is received, and none
in the router's name from a link without its address, a frame is passed only to links
other than the one it was received from. -/
theorem never_reflected {addr start : Addr} {length : ℕ} {forceBroadcast : Bool} {t next : Relay}
    {event : Traffic.Event} {key : ℕ} {frame : LDataPDU}
    (hpath : Path Traffic.step KnownSource (Traffic.boot addr start length forceBroadcast) t)
    (hstep : Traffic.step t event = some next)
    (hlog : next.router.log = ⟨key, .send frame⟩ :: t.router.log) : key ≠ t.sending := by
  have htracked := hpath.invariant (fun t => t.router.fault = none → Tracked t)
    (fun _ => tracked_boot addr start length forceBroadcast)
    (fun _ _ _ hinv hknown hstep =>
      (hinv (Traffic.fault_eq_none_of_step hstep)).step hknown hstep)
    (Traffic.fault_eq_none_of_step hstep)
  obtain ⟨hframe, hpasses⟩ := passes_of_log hstep hlog
  obtain ⟨link, hobject, hsource⟩ := hpasses.target
  have hbook : t.router.book key = some link.hasAddress := by
    rw [Router.book, hobject, map_some]
  rintro rfl
  have hclaims := htracked.flying frame hframe
  rw [linkHasAddress_of_book hbook, hsource] at hclaims
  cases hclaims

/-- Two buses come up, and a group frame arrives from the first one. -/
def arrival (source : Addr) : List Traffic.Event :=
  [.registerBus 0 FlowControl.subscriber, .registerBus 1 FlowControl.subscriber] ++
    (FlowControl.bringUp.drop 2).map .router ++
    [.receive 0 { addrType := .groupAddress, source, dest := 2, data := [0, 0] }, .trigger 0]

def relayed (source : Addr) : LDataPDU :=
  { addrType := .groupAddress, source, dest := 2, hopcount := 5, data := [0, 0] }

/-- A device with a known address: the frame goes to the second bus only. -/
theorem never_reflected_known : ∃ t next,
    Transition.runAllowed Traffic.step KnownSource (Traffic.boot 0x1101 0x1105 2 false)
      (arrival 0x1203 ++ [.router .resume]) = some t ∧
    Traffic.step t (.router .resume) = some next ∧
    next.router.log = ⟨1, .send (relayed 0x1203)⟩ :: t.router.log ∧ 1 ≠ t.sending := by
  obtain ⟨t, ht, next, hnext, hlog⟩ : ∃ t, runAllowed Traffic.step KnownSource
      (Traffic.boot 0x1101 0x1105 2 false) (arrival 0x1203 ++ [.router .resume]) = some t ∧
      ∃ next, Traffic.step t (.router .resume) = some next ∧
        next.router.log = ⟨1, .send (relayed 0x1203)⟩ :: t.router.log := by decide +kernel
  exact ⟨t, next, ht, hnext, hlog, never_reflected (path_of_runAllowed ht) hnext hlog⟩

/-- An unprogrammed device: the frame goes back to its own bus. -/
theorem unprogrammed_reflected : ∃ t next,
    Path Traffic.step anyEvent (Traffic.boot 0x1101 0x1105 2 false) t ∧
    Traffic.step t (.router .resume) = some next ∧
    next.router.log = ⟨t.sending, .send (relayed 0xFFFF)⟩ :: t.router.log := by
  obtain ⟨t, ht, next, hnext⟩ : ∃ t, run Traffic.step (Traffic.boot 0x1101 0x1105 2 false)
      (arrival 0xFFFF) = some t ∧ ∃ next, Traffic.step t (.router .resume) = some next ∧
        next.router.log = ⟨t.sending, .send (relayed 0xFFFF)⟩ :: t.router.log := by
    decide +kernel
  exact ⟨t, next, path_of_run ht, hnext⟩

end Knxd.Reflection
