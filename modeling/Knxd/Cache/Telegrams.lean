import Knxd.Cache.GroupCache
import Knxd.Routing.FlowControl
import Knxd.Routing.Frames
import Knxd.Routing.Settings

/-!
# Which telegrams reach the group cache

The cache is a driver like any other: the router hands it the frames that it selects
the cache's link for.  `GroupCache::send_L_Data` does not look at the type of the
destination, so that only group telegrams change the cache depends on the selection.

The link of the cache accepts no individual destination, and has the address 0.  No
frame for that address is received.  But `trigger_cb` replaces the destination of a
frame for the router itself by 0, so such a frame goes to the cache, and if its data
read as a write or a response of a group the cache keeps them under address 0.
-/

namespace Knxd.Telegrams

open Memory LPDU Link Routing Traffic Frames Settings Option List Function Transition
open Cache (GroupCache isUpdate)
open Transition (Path anyEvent)

variable {event : Traffic.Event}

structure System where
  relay : Relay
  gc : GroupCache

def handed (t next : Relay) : List LDataPDU :=
  ((newSends t next).filter fun entry => (t.port entry.1).kind = .cache).map Prod.snd

/-- The calls of the cache's `send_L_Data`. -/
def deliver (gc : GroupCache) (frames : List LDataPDU) (now : ℕ) : Option GroupCache :=
  frames.foldlM (fun gc l => (gc.sendLData l now).toOption) gc

inductive Event
  | router (event : Traffic.Event) (now : ℕ)
  | command (event : Cache.Event)

def isCommand : Cache.Event → Bool
  | .sendLData _ _ => false
  | _ => true

def step (s : System) : Event → Option System
  | .router event now =>
    (Traffic.step s.relay event).bind fun relay =>
      (deliver s.gc (handed s.relay relay) now).map fun gc => { relay, gc }
  | .command event =>
    if isCommand event then (Cache.step s.gc event).map fun gc => { s with gc } else none

/-- A frame for the router itself does not read as a write or a response of a group. -/
def spares (s : System) : Event → Prop
  | .router (.receive _ l) _ =>
    l.addrType = .individualAddress → l.dest = s.relay.router.addr → ¬ isUpdate l.data
  | _ => True

instance (s : System) : (event : Event) → Decidable (spares s event)
  | .router (.receive _ l) _ =>
    inferInstanceAs (Decidable (l.addrType = .individualAddress →
      l.dest = s.relay.router.addr → ¬ isUpdate l.data))
  | .router (.router _) _ | .router (.setAddress _ _) _ | .router (.registerBus _ _) _
  | .router (.registerServer _ _) _ | .router (.registerCache _ _) _
  | .router (.clientConnection _) _ | .router (.openConn _ _ _) _ | .router (.exitConn _) _
  | .router (.clientStop _) _ | .router (.addTunnel _ _ _ _) _ | .router (.addConfig _ _ _) _
  | .router (.connStop _) _ | .router (.dropConn _) _ | .router (.trigger _) _
  | .router (.expire _) _ | .command _ => inferInstanceAs (Decidable True)

variable {t next : Relay} {event : Traffic.Event}

def AllScreened (t : Relay) : Prop :=
  ∀ key link, t.router.object key = some link → Screened (t.port key) link

theorem screened_of_settings {port : Port} {link after : LinkConnect}
    (hsettings : after.settings = link.settings) (hscreened : Screened port link) :
    Screened port after := by
  intro hcache
  obtain ⟨hhas, hcheck⟩ := hscreened hcache
  exact ⟨(LinkConnect.hasAddress_of_settings hsettings).trans hhas,
    (LinkConnect.checkAddress_of_settings hsettings).trans hcheck⟩

section

variable (hscreened : AllScreened t)
include hscreened

theorem AllScreened.keeps (hport : next.port = t.port)
    (hsettings : SameSettings t.router next.router) : AllScreened next := by
  intro key after hafter
  obtain ⟨link, hobject, hsame⟩ : ∃ link, t.router.object key = some link ∧
      link.settings = after.settings := by
    have hkey := hsettings key
    rw [hafter, map_some] at hkey
    exact map_eq_some_iff.1 hkey.symm
  rw [hport]
  exact screened_of_settings hsame.symm (hscreened key link hobject)

/-- A bus that learns an address is not the cache. -/
theorem AllScreened.recvLData (key : ℕ) (l : LDataPDU) : AllScreened (t.recvLData key l) := by
  apply recvLData_preserves l hscreened
  · exact fun base buf => id
  · intro link _ hobject hbus other after hafter hcache
    have hne : other ≠ key := by
      rintro rfl
      exact absurd (hbus.symm.trans hcache) (by decide)
    rw [show (t.router.setLink key _).object other = t.router.object other from
      update_of_ne hne _ _] at hafter
    exact hscreened other after hafter hcache
  · exact hscreened

/-- A new link is screened, and the others stay as they are. -/
theorem AllScreened.register {key : ℕ} {port : Port} {config : LinkConnect} {transient : Bool}
    (hrouter : Routing.step t.router (.registerLink key config transient) = some next.router)
    (hport : next.port = Function.update t.port key port) (hfits : Screened port config) :
    AllScreened next := by
  obtain ⟨⟨link, hlink, hhas, hcheck⟩, hothers⟩ := settings_registerLink hrouter
  intro other after hafter
  rw [hport]
  by_cases hother : other = key
  · subst hother
    obtain rfl : link = after := Option.some.inj (hlink.symm.trans hafter)
    rw [update_self, Screened, hhas, hcheck]
    exact hfits
  · have hkey := hothers other hother
    rw [hafter, map_some] at hkey
    obtain ⟨before, hbefore, hsettings⟩ := map_eq_some_iff.1 hkey.symm
    rw [update_of_ne hother]
    exact screened_of_settings hsettings.symm (hscreened other before hbefore)

theorem AllScreened.step (hstep : Traffic.step t event = some next) : AllScreened next := by
  cases calls_of_step hstep with
  | aside hsame | aborts hsame | drops _ hsame =>
    exact hscreened.keeps hsame.port (hsame.router ▸ .of_object rfl)
  | asks hinternal hrouter hsame =>
    exact hscreened.keeps hsame.port (hsame.router ▸ sameSettings_of_step (.inl hinternal) hrouter)
  | receives => exact hscreened.recvLData _ _
  | registers hrouter _ hfits hsame =>
    obtain ⟨rfl, hport, -, -, -⟩ := hsame
    exact hscreened.register hrouter hport hfits
  | @addresses key _ hbus =>
    intro other after hafter hcache
    dsimp only at hafter hcache
    by_cases hother : other = key
    · subst hother
      rw [update_self] at hcache
      exact absurd (hbus.symm.trans hcache) (by decide)
    · rw [update_of_ne hother] at hcache
      exact hscreened other after hafter hcache
  | distributes _ _ hrouter hsame =>
    exact hscreened.keeps hsame.port
      (hsame.router ▸ .after (sameSettings_of_step (.inr ⟨_, rfl⟩) hrouter) (.of_object rfl))

end

/-- No individually addressed frame on its way to the router's own address reads as a
write or a response of a group. -/
structure Harmless (t : Relay) : Prop where
  queued : ∀ q ∈ t.buf, q.frame.addrType = .individualAddress → q.frame.dest ≠ 0 ∧
    (q.frame.dest = t.router.addr → ¬ isUpdate q.frame.data)
  flying : ∀ frame ∈ inFlight t.router.stack, frame.addrType = .individualAddress →
    frame.dest = 0 → ¬ isUpdate frame.data

theorem Harmless.recvLData (hharmless : Harmless t) (key : ℕ) (l : LDataPDU)
    (hspares : l.addrType = .individualAddress → l.dest = t.router.addr → ¬ isUpdate l.data) :
    Harmless (t.recvLData key l) := by
  by_cases hzero : l.addrType = .individualAddress ∧ l.dest = 0
  · rw [Relay.recvLData, if_pos hzero]
    exact hharmless
  obtain ⟨hstack, haddr, -⟩ := recvLData_frame t key l
  refine ⟨fun q hq htype => ?_, by rw [hstack]; exact hharmless.flying⟩
  rw [haddr]
  obtain hbuf | hbuf := buf_recvLData t key l
  · exact hharmless.queued q (hbuf ▸ hq) htype
  · rw [hbuf] at hq
    obtain hq | hq := mem_append.1 hq
    · exact hharmless.queued q hq htype
    · obtain rfl := mem_singleton.1 hq
      exact ⟨fun hdest => hzero ⟨htype, hdest⟩, hspares htype⟩

theorem Harmless.step (hharmless : Harmless t) (hstep : Traffic.step t event = some next)
    (hspares : ∀ key l, event = .receive key l → l.addrType = .individualAddress →
      l.dest = t.router.addr → ¬ isUpdate l.data) : Harmless next := by
  cases effect_of_step hstep with
  | quiet hkeeps _ hbuf =>
    refine ⟨fun q hq => ?_, fun frame hframe => ?_⟩
    · rw [hkeeps.addr]
      exact hharmless.queued q (hbuf.mem hq)
    · exact hharmless.flying frame (hkeeps.distributed frame hframe)
  | passes hframe hpasses _ hbuf =>
    refine ⟨fun q hq => ?_, fun frame hframe => ?_⟩
    · rw [hpasses.addr]
      exact hharmless.queued q (hbuf ▸ hq)
    · exact hharmless.flying frame (hpasses.distributed frame hframe)
  | receives => exact hharmless.recvLData _ _ (hspares _ _ rfl)
  | registers hregisters _ _ hbuf =>
    refine ⟨fun q hq => ?_, fun frame hframe => ?_⟩
    · rw [hregisters.addr]
      exact hharmless.queued q (hbuf ▸ hq)
    · exact hharmless.flying frame (hregisters.distributed frame hframe)
  | addresses => exact ⟨hharmless.queued, hharmless.flying⟩
  | @distributes _ _ queued _ _ _ hbuf htrigger hsame _ hflight =>
    have hqueued : ∀ q ∈ queued :: next.buf, q.frame.addrType = .individualAddress →
        q.frame.dest ≠ 0 ∧ (q.frame.dest = t.router.addr → ¬ isUpdate q.frame.data) := by
      rw [← hbuf]
      exact hharmless.queued
    refine ⟨fun q hq => ?_, fun frame hframe htype hdest => ?_⟩
    · rw [hsame.addr]
      exact hqueued q (mem_cons_of_mem queued hq)
    · obtain ⟨-, rfl⟩ := eq_of_triggerFrame htrigger
      obtain rfl := hflight frame hframe
      obtain ⟨hne, hown⟩ := hqueued queued mem_cons_self htype
      -- the destination was not 0, so it is the router's that was replaced
      have hrewritten : queued.frame.dest = t.router.addr := by
        by_contra hother
        exact hne (by simpa [hother] using hdest)
      exact hown hrewritten

/-- A step hands nothing to the cache, or the frame that is being distributed, and
then the link of the cache is a target of it. -/
theorem handed_cases {t next : Relay} (hstep : Traffic.step t event = some next) :
    handed t next = [] ∨ ∃ frame ∈ inFlight t.router.stack, handed t next = [frame] ∧
        ∃ key link found, (t.port key).kind = .cache ∧ t.router.object key = some link ∧
          Router.isTarget frame found link := by
  have hnone : Routing.sends next.router.log = Routing.sends t.router.log → handed t next = [] := by
    intro hsends
    rw [handed, newSends_eq_nil hsends]
    rfl
  cases calls_of_step hstep with
  | aside hsame | aborts hsame | drops _ hsame => exact .inl (hnone (by rw [hsame.router]))
  | asks hinternal hrouter hsame =>
    obtain ⟨rfl, -, -, -, -⟩ := hsame
    obtain hkeeps | ⟨frame, hframe, key, hpasses⟩ := step_books hinternal hrouter
    · exact .inl (hnone hkeeps.passed)
    have hnew := newSends_eq_singleton hpasses.passed
    by_cases hcache : (t.port key).kind = .cache
    · obtain ⟨found, link, hobject, htarget⟩ := isTarget_of_step hinternal hrouter hpasses.passed
      refine .inr ⟨frame, hframe, ?_, key, link, found, hcache, hobject, htarget⟩
      simp [handed, hnew, hcache]
    · exact .inl (by simp [handed, hnew, hcache])
  | receives => exact .inl (hnone (congrArg Routing.sends (recvLData_log t _ _)))
  | registers hrouter _ _ hsame =>
    obtain ⟨rfl, -, -, -, -⟩ := hsame
    exact .inl (hnone (registers_of_step hrouter).passed)
  | addresses => exact .inl (hnone rfl)
  | distributes _ _ hrouter hsame =>
    obtain ⟨rfl, -, -, -, -⟩ := hsame
    exact .inl (hnone (sendLData_books hrouter).2.1)

/-- The cache is selected for an individual destination only if that is 0. -/
theorem dest_eq_zero_of_isTarget {port : Port} {link : LinkConnect} {frame : LDataPDU}
    {found : Bool} (hscreened : Screened port link) (hcache : port.kind = .cache)
    (htype : frame.addrType = .individualAddress) (htarget : Router.isTarget frame found link) :
    frame.dest = 0 := by
  obtain ⟨hhas, hcheck⟩ := hscreened hcache
  rw [Router.isTarget, htype] at htarget
  dsimp only at htarget
  rw [hhas, hcheck] at htarget
  split at htarget
  · simpa using htarget
  · cases htarget

theorem sendLData_of_not_isUpdate {gc : GroupCache} {l : LDataPDU} (hdata : ¬ isUpdate l.data)
    (now : ℕ) : gc.sendLData l now = .ok gc := by
  unfold GroupCache.sendLData
  rw [if_neg fun hupdate => hdata hupdate.2]
  rfl

theorem router_step {s next : System} {now : ℕ} (hstep : step s (.router event now) = some next) :
    Traffic.step s.relay event = some next.relay ∧
      deliver s.gc (handed s.relay next.relay) now = some next.gc := by
  obtain ⟨_, hrelay, hrest⟩ := bind_eq_some_iff.1 hstep
  obtain ⟨_, hdeliver, rfl⟩ := map_eq_some_iff.1 hrest
  exact ⟨hrelay, hdeliver⟩

theorem command_step {s next : System} {command : Cache.Event}
    (hstep : step s (.command command) = some next) : next.relay = s.relay := by
  rw [step, ite_none_right_eq_some, map_eq_some_iff] at hstep
  obtain ⟨-, _, -, rfl⟩ := hstep
  rfl

/-- What the proof keeps about the router in every run. -/
structure Guarded (t : Relay) : Prop where
  screened : AllScreened t
  harmless : Harmless t

theorem guarded_boot (addr start : Addr) (length : ℕ) (forceBroadcast : Bool) :
    Guarded (Traffic.boot addr start length forceBroadcast) where
  screened _ _ hobject := by cases hobject
  harmless := ⟨by simp [Traffic.boot], by simp [Traffic.boot, Routing.boot, inFlight]⟩

theorem guarded_step {s next : System} {event : Event} (hguarded : Guarded s.relay)
    (hspares : spares s event) (hstep : step s event = some next) : Guarded next.relay := by
  cases event with
  | router =>
    obtain ⟨hrelay, -⟩ := router_step hstep
    refine ⟨hguarded.screened.step hrelay, hguarded.harmless.step hrelay ?_⟩
    rintro key l rfl
    exact hspares
  | command =>
    rw [command_step hstep]
    exact hguarded

/-- In every run in which no individually addressed frame for the router itself reads
as a write or a response of a group: a step of the router that hands no group telegram
to the cache leaves the cache as it is. -/
theorem individual_spares_cache {addr start : Addr} {length : ℕ} {forceBroadcast : Bool}
    {gc : GroupCache} {s next : System} {event : Traffic.Event} {now : ℕ}
    (hpath : Path step spares
      { relay := Traffic.boot addr start length forceBroadcast, gc } s)
    (hstep : step s (.router event now) = some next)
    (hframes : ∀ frame ∈ handed s.relay next.relay, frame.addrType = .individualAddress) :
    next.gc = s.gc := by
  have hguarded : Guarded s.relay :=
    hpath.invariant (fun s => Guarded s.relay) (guarded_boot addr start length forceBroadcast)
      (fun _ _ _ hguarded hspares hstep => guarded_step hguarded hspares hstep)
  obtain ⟨hrelay, hdeliver⟩ := router_step hstep
  obtain hnone | ⟨frame, hflying, hone, key, link, found, hcache, hobject, htarget⟩ :=
    handed_cases hrelay
  · rw [hnone] at hdeliver
    exact (Option.some.inj hdeliver).symm
  · rw [hone] at hdeliver hframes
    have htype := hframes frame (mem_singleton.2 rfl)
    have hdest := dest_eq_zero_of_isTarget (hguarded.screened key link hobject) hcache htype htarget
    have hdata := hguarded.harmless.flying frame hflying htype hdest
    have hsame : deliver s.gc [frame] now = some s.gc := by
      simp [deliver, sendLData_of_not_isUpdate hdata, Except.toOption]
    exact Option.some.inj (hdeliver.symm.trans hsame)

/-- The cache and a bus come up. -/
def comingUp : List Traffic.Event :=
  [.registerCache 0 {}, .registerBus 1 FlowControl.subscriber] ++
    (FlowControl.bringUp.drop 2).map .router

/-- The bus delivers a frame for the router itself, and its distribution starts. -/
def arrival (data : CArray) : List Event :=
  comingUp.map (.router · 0) ++
    [.command .driverStart, .router (.receive 1 { source := 0x1203, dest := 0x1101, data }) 0,
      .router (.trigger 0) 0]

/-- A device asks the router for its descriptor; the cache gets the question. -/
theorem individual_spares_cache_descriptor : ∃ s next frame, Transition.runAllowed step spares
      { relay := Traffic.boot 0x1101 0x1105 2 false, gc := {} } (arrival [0x03, 0x00]) = some s ∧
    step s (.router (.router .resume) 0) = some next ∧
    handed s.relay next.relay = [frame] ∧ frame.addrType = .individualAddress ∧ next.gc = s.gc := by
  obtain ⟨s, hs, next, hnext, hhanded⟩ : ∃ s, runAllowed step spares
      { relay := Traffic.boot 0x1101 0x1105 2 false, gc := {} } (arrival [0x03, 0x00]) = some s ∧
      ∃ next, step s (.router (.router .resume) 0) = some next ∧
        (handed s.relay next.relay).map (·.addrType) = [.individualAddress] := by decide +kernel
  obtain ⟨frame, hframe, htype⟩ := map_eq_singleton_iff.1 hhanded
  refine ⟨s, next, frame, hs, hnext, hframe, htype,
    individual_spares_cache (path_of_runAllowed hs) hnext ?_⟩
  rw [hframe]
  simpa using htype

/-- The data of the frame read as the write of a group: the cache keeps them under the
address 0. -/
theorem individual_cached_reached : ∃ s next frame,
    Path step anyEvent { relay := Traffic.boot 0x1101 0x1105 2 false, gc := {} } s ∧
    step s (.router (.router .resume) 0) = some next ∧
    handed s.relay next.relay = [frame] ∧ frame.addrType = .individualAddress ∧
    (s.gc.cache 0).map (·.data) = none ∧ (next.gc.cache 0).map (·.data) = some [0x00, 0x81] := by
  obtain ⟨s, hs, hbefore, next, hnext, hafter, hhanded⟩ : ∃ s, run step
      { relay := Traffic.boot 0x1101 0x1105 2 false, gc := {} } (arrival [0x00, 0x81]) = some s ∧
      (s.gc.cache 0).map (·.data) = none ∧
      ∃ next, step s (.router (.router .resume) 0) = some next ∧
        (next.gc.cache 0).map (·.data) = some [0x00, 0x81] ∧
        (handed s.relay next.relay).map (·.addrType) = [.individualAddress] := by decide +kernel
  obtain ⟨frame, hframe, htype⟩ := map_eq_singleton_iff.1 hhanded
  exact ⟨s, next, frame, path_of_run hs, hnext, hframe, htype, hbefore, hafter⟩

end Knxd.Telegrams
