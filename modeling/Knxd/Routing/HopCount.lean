import Knxd.Codec.Acceptance
import Knxd.Routing.Frames

/-!
# Networks of routers and hop counts

Routers are connected by their links in any way, cycles included.  A frame that one
router passes to a link travels in one of the frame formats and arrives at the other
ends of that link, where it may be forwarded again.  What keeps a frame from going
round forever is its hop count: `trigger_cb` drops a frame whose hop count is 0 and
forwards every other one with a smaller hop count, as long as force-broadcast is off.

The number of forwarded copies is bounded by what the frames under way can still
cause; no step of any router and no arrival makes that larger.
-/

namespace Knxd.HopCount

open Memory LPDU EMI Acceptance Routing Traffic Frames List Function Option BitVec Nat
open Transition (Path exists_state)

/-! ## Media -/

/-- What the two ends of a link agree on; `code` is the message code of the EMI forms. -/
def encode (code : Byte) (l : LDataPDU) : Decoder → Run CArray
  | .busFrame => l.toPacket
  | .cemi => lDataToCEMI code l
  | .emi => .ok (lDataToEMI code l)

/-- The frame that arrives when a frame is sent in one of the formats. -/
def transmit (format : Decoder) (code : Byte) (l : LDataPDU) : Option LDataPDU :=
  (encode code l format >>= format.decode).toOption.join

theorem hopcountOfFlags_flagsByte (hopcount nibble : Byte) (addrType : EIBAddrType) :
    hopcountOfFlags (flagsByte hopcount nibble addrType) = hopcount &&& 0x07 := by
  have hhop : ∀ hop : Byte, (7 : Byte) &&& ((hop &&& 0x07) <<< 4) >>> 4 = hop &&& 0x07 := by decide
  have hnibble : ∀ nibble : Byte, (nibble &&& 0x0f) >>> 4 = 0 := by decide
  have hflag : (7 : Byte) &&& addrType.flag >>> 4 = 0 := by cases addrType <;> decide
  have hzero : ∀ byte : Byte, byte ||| 0 = byte := fun byte => BitVec.or_zero
  rw [hopcountOfFlags, flagsByte, ushiftRight_or_distrib, ushiftRight_or_distrib,
    hnibble, hzero, BitVec.and_comm, BitVec.and_or_distrib_left, hhop, hflag, hzero]

theorem hopcount_emi {code : Byte} {l arrived : LDataPDU}
    (harrived : emiToLData (lDataToEMI code l) = .ok (some arrived)) :
    arrived.hopcount = l.hopcount &&& 0x07 := by
  unfold emiToLData at harrived
  split at harrived
  · cases harrived
  simp only [bind_eq_ok_iff] at harrived
  obtain ⟨_, _, _, _, _, _, _, _, _, _, _, hflags, _, _, harrived⟩ := harrived
  cases harrived
  cases hflags
  exact hopcountOfFlags_flagsByte _ _ _

/-- No format adds hops. -/
theorem hopcount_transmit {format : Decoder} {code : Byte} {l arrived : LDataPDU}
    (harrived : transmit format code l = some arrived) :
    arrived.hopcount.toNat ≤ l.hopcount.toNat := by
  have hdecoded : encode code l format >>= format.decode = .ok (some arrived) :=
    toOption_eq_some_iff.1 (join_eq_some_iff.1 harrived)
  obtain ⟨bytes, hbytes, hdecode⟩ := bind_eq_ok_iff.1 hdecoded
  cases format with
  | busFrame =>
    have hreturns : Returns l.toPacket := ⟨bytes, hbytes⟩
    simp only [LDataPDU.toPacket, returns_require_bind_iff, hopcount_mask_iff] at hreturns
    obtain ⟨hpos, hmax, hhop, -⟩ := hreturns
    rw [encode, toPacket_of_bounds hpos hmax hhop] at hbytes
    cases hbytes
    rw [Decoder.decode, init_frameBody hpos hmax hhop] at hdecode
    cases hdecode
    exact le_rfl
  | cemi =>
    obtain ⟨rfl, hpos, hmax, hhop⟩ := of_lDataToCEMI_eq_ok hbytes
    rw [Decoder.decode, cemiToLData_cemiMessage code hpos (by omega) hhop] at hdecode
    cases hdecode
    exact le_rfl
  | emi =>
    cases hbytes
    rw [hopcount_emi hdecode, toNat_and]
    exact and_le_left

/-- A way from a link to another one: whatever lies between may change the frame or
lose it, but adds no hops to it. -/
structure Medium where
  carry : LDataPDU → Option LDataPDU
  hopcount_carry : ∀ {l arrived}, carry l = some arrived →
    arrived.hopcount.toNat ≤ l.hopcount.toNat

def Medium.direct (format : Decoder) (code : Byte) : Medium :=
  ⟨transmit format code, hopcount_transmit⟩

/-! ## The network -/

section Network

variable {ι : Type}

structure End (ι : Type) where
  router : ι
  key : ℕ
  medium : Medium

structure Topology (ι : Type) where
  ends : ι → ℕ → List (End ι)
  /-- No router has more links than this. -/
  capacity : ℕ
  /-- No link has more other ends than this. -/
  reach : ℕ
  length_ends : ∀ router key, (ends router key).length ≤ reach

/-- A copy of a frame that is about to arrive at a link. -/
structure Copy (ι : Type) where
  router : ι
  key : ℕ
  frame : LDataPDU

structure Network (ι : Type) where
  relay : ι → Relay
  air : List (Copy ι) := []
  injected : List LDataPDU := []
  /-- How often a router passed a frame to a link. -/
  forwarded : ℕ := 0

inductive Event (ι : Type)
  | relay (router : ι) (event : Traffic.Event)
  | deliver (index : ℕ)
  | lose (index : ℕ)
  | inject (copy : Copy ι)

/-- Where the frames arrive that a router passed to its links. -/
def arrivals (topology : Topology ι) (router : ι) (passed : List (ℕ × LDataPDU)) : List (Copy ι) :=
  passed.flatMap fun entry => (topology.ends router entry.1).filterMap fun other =>
    (other.medium.carry entry.2).map fun frame => ⟨other.router, other.key, frame⟩

def isReceive : Traffic.Event → Bool
  | .receive _ _ => true
  | _ => false

variable [DecidableEq ι]

def advance (topology : Topology ι) (net : Network ι) (router : ι) (event : Traffic.Event) :
    Option (Network ι) :=
  (Traffic.step (net.relay router) event).bind fun next =>
    if next.router.links.length ≤ topology.capacity then
      let passed := newSends (net.relay router) next
      some { net with
        relay := Function.update net.relay router next
        air := net.air ++ arrivals topology router passed
        forwarded := net.forwarded + passed.length }
    else none

def step (topology : Topology ι) (net : Network ι) : Event ι → Option (Network ι)
  | .relay router event => if isReceive event then none else advance topology net router event
  | .deliver index =>
    match net.air[index]? with
    | none => none
    | some copy =>
      advance topology { net with air := net.air.eraseIdx index } copy.router
        (.receive copy.key copy.frame)
  | .lose index => some { net with air := net.air.eraseIdx index }
  | .inject copy => some { net with air := copy :: net.air, injected := copy.frame :: net.injected }

end Network

/-- A frame is sent with a hop count that fits its three bits. -/
def ShortLived {ι : Type} (_ : Network ι) : Event ι → Prop
  | .inject copy => copy.frame.hopcount.toNat ≤ 7
  | _ => True

instance {ι : Type} (net : Network ι) : (event : Event ι) → Decidable (ShortLived net event)
  | .inject _ => inferInstanceAs (Decidable (_ ≤ _))
  | .relay _ _ | .deliver _ | .lose _ => inferInstanceAs (Decidable True)

structure Quiet {ι : Type} (topology : Topology ι) (net : Network ι) : Prop where
  buf : ∀ router, (net.relay router).buf = []
  visits : ∀ router, visits (net.relay router).router.stack = []
  forceBroadcast : ∀ router, (net.relay router).forceBroadcast = false
  links : ∀ router, (net.relay router).router.links.length ≤ topology.capacity
  air : net.air = []
  forwarded : net.forwarded = 0

/-! ## The way of a frame -/

/-- A router that received a frame distributes it in the second form; the source may
have been assigned in between. -/
def Distributes (before l : LDataPDU) : Prop :=
  ∃ source addr now ignore ignored,
    triggerFrame false addr now ignore { before with source } = .ok (some l, ignored)

/-- A frame received by one router, and a copy of it that arrives at another one. -/
def Forwards (before after : LDataPDU) : Prop :=
  ∃ l, Distributes before l ∧ ∃ medium : Medium, medium.carry l = some after

theorem hopcount_distributes {before l : LDataPDU} (hdistributes : Distributes before l) :
    l.hopcount.toNat + 1 = before.hopcount.toNat := by
  obtain ⟨_, _, _, _, _, htrigger⟩ := hdistributes
  obtain ⟨hhop, rfl⟩ := eq_of_triggerFrame htrigger
  have hpos : before.hopcount.toNat ≠ 0 := fun hzero => hhop (eq_of_toNat_eq hzero)
  have hone : (1 : Byte).toNat = 1 := rfl
  dsimp only
  rw [decreased, if_pos (.inr rfl), toNat_sub, hone]
  omega

/-- Each forwarded copy has fewer hops left, so one without hops is not forwarded. -/
theorem hopcount_forwards {before after : LDataPDU} (hforwards : Forwards before after) :
    after.hopcount.toNat < before.hopcount.toNat := by
  obtain ⟨l, hdistributes, medium, hcarry⟩ := hforwards
  have hless := hopcount_distributes hdistributes
  have hcarried := medium.hopcount_carry hcarry
  omega

/-- A frame is forwarded at most as often as its hop count says. -/
theorem length_chain_le {first : LDataPDU} {chain : List LDataPDU}
    (hchain : List.IsChain Forwards (first :: chain)) : chain.length ≤ first.hopcount.toNat := by
  induction chain generalizing first with
  | nil => exact zero_le _
  | cons _ _ ih =>
    obtain ⟨hforwards, hrest⟩ := isChain_cons_cons.1 hchain
    have hless := hopcount_forwards hforwards
    have hlength := ih hrest
    rw [length_cons]
    omega

/-- The frame comes from one of the injected ones. -/
def Descends (injected : List LDataPDU) (frame : LDataPDU) : Prop :=
  ∃ first ∈ injected, Relation.ReflTransGen Forwards first frame

/-! ## What a frame can cause -/

/-- How many copies a received frame can cause, by its hop count, if routers have so
many links and links so many other ends. -/
def budget (capacity reach : ℕ) : ℕ → ℕ
  | 0 => 0
  | hops + 1 => capacity * (1 + reach * budget capacity reach hops)

theorem budget_le_succ (capacity reach hops : ℕ) :
    budget capacity reach hops ≤ budget capacity reach (hops + 1) := by
  induction hops with
  | zero => exact zero_le _
  | succ _ ih =>
    rw [budget, budget]
    gcongr

theorem budget_mono (capacity reach : ℕ) : Monotone (budget capacity reach) :=
  monotone_nat_of_le_succ (budget_le_succ capacity reach)

section Weights

variable {ι : Type} (topology : Topology ι)

def copyWeight (l : LDataPDU) : ℕ :=
  budget topology.capacity topology.reach l.hopcount.toNat

def passWeight (l : LDataPDU) : ℕ :=
  1 + topology.reach * copyWeight topology l

def relayWeight (t : Relay) : ℕ :=
  (t.buf.map fun queued => copyWeight topology queued.frame).sum +
    load (passWeight topology) t.router.stack

def airWeight (air : List (Copy ι)) : ℕ :=
  (air.map fun copy => copyWeight topology copy.frame).sum

def outstanding [Fintype ι] (net : Network ι) : ℕ :=
  airWeight topology net.air + ∑ router, relayWeight topology (net.relay router)

def eventWeight : Traffic.Event → ℕ
  | .receive _ l => copyWeight topology l
  | _ => 0

variable {topology}

/-- Distributing costs what the budget of the frame allows. -/
theorem links_mul_passWeight_le {before l : LDataPDU} {links : ℕ}
    (hdistributes : Distributes before l) (hlinks : links ≤ topology.capacity) :
    links * passWeight topology l ≤ copyWeight topology before := by
  rw [copyWeight, ← hopcount_distributes hdistributes, budget, passWeight, copyWeight]
  gcongr

theorem airWeight_append (air more : List (Copy ι)) :
    airWeight topology (air ++ more) = airWeight topology air + airWeight topology more := by
  rw [airWeight, map_append, List.sum_append]
  rfl

theorem airWeight_eraseIdx {air : List (Copy ι)} {index : ℕ} {copy : Copy ι}
    (hcopy : air[index]? = some copy) :
    copyWeight topology copy.frame + airWeight topology (air.eraseIdx index) =
      airWeight topology air := by
  obtain ⟨hindex, rfl⟩ := List.getElem?_eq_some_iff.1 hcopy
  have hperm := (List.getElem_cons_eraseIdx_perm hindex).map
    fun copy => copyWeight topology copy.frame
  exact hperm.sum_eq

/-- The copies of a frame on all ends of a link stay within its weight. -/
theorem airWeight_arrivals (router : ι) (passed : List (ℕ × LDataPDU)) :
    airWeight topology (arrivals topology router passed) + passed.length ≤
      (passed.map fun entry => passWeight topology entry.2).sum := by
  induction passed with
  | nil => exact le_rfl
  | cons entry passed ih =>
    have hends : airWeight topology (arrivals topology router [entry]) ≤
        topology.reach * copyWeight topology entry.2 := by
      have hlength : (arrivals topology router [entry]).length ≤ topology.reach := by
        rw [arrivals, flatMap_singleton]
        exact (length_filterMap_le _ _).trans (topology.length_ends router entry.1)
      have hweight : ∀ weight ∈ (arrivals topology router [entry]).map
          (fun copy => copyWeight topology copy.frame), weight ≤ copyWeight topology entry.2 := by
        intro weight hweight
        rw [arrivals, flatMap_singleton] at hweight
        obtain ⟨copy, hcopy, rfl⟩ := mem_map.1 hweight
        obtain ⟨other, -, hother⟩ := mem_filterMap.1 hcopy
        obtain ⟨frame, hcarry, rfl⟩ := map_eq_some_iff.1 hother
        exact budget_mono _ _ (other.medium.hopcount_carry hcarry)
      calc airWeight topology (arrivals topology router [entry])
          ≤ (arrivals topology router [entry]).length * copyWeight topology entry.2 := by
            have hsum := sum_le_card_nsmul _ _ hweight
            rwa [length_map, smul_eq_mul] at hsum
        _ ≤ topology.reach * copyWeight topology entry.2 := by gcongr
    have hsplit : arrivals topology router (entry :: passed) =
        arrivals topology router [entry] ++ arrivals topology router passed := by
      rw [arrivals, arrivals, arrivals, flatMap_singleton, flatMap_cons]
    rw [hsplit, airWeight_append, map_cons, sum_cons, length_cons]
    simp only [passWeight] at ih ⊢
    omega

end Weights

/-! ## Steps of one router -/

section Steps

variable {ι : Type} {topology : Topology ι} {t next : Relay} {event : Traffic.Event}

theorem forceBroadcast_effect (heffect : Effect t event next) :
    next.forceBroadcast = t.forceBroadcast := by
  cases heffect with
  | quiet _ _ _ _ hforce | passes _ _ _ _ _ hforce | registers _ _ _ _ _ hforce
  | distributes _ _ _ _ _ _ _ _ hforce => exact hforce
  | receives => exact (recvLData_frame t _ _).2.2
  | addresses => rfl

theorem distributes_of_triggerFrame {addr : Addr} {now : ℕ} {ignore ignored : List IgnoreInfo}
    {queued l : LDataPDU}
    (htrigger : triggerFrame false addr now ignore queued = .ok (some l, ignored)) :
    Distributes queued l :=
  ⟨queued.source, addr, now, ignore, ignored, htrigger⟩

/-- A step of a router causes no more than its frames allow. -/
theorem relayWeight_effect (heffect : Effect t event next) (hforce : t.forceBroadcast = false)
    (hlinks : t.router.links.length ≤ topology.capacity) :
    relayWeight topology next +
      ((newSends t next).map fun entry => passWeight topology entry.2).sum ≤
      relayWeight topology t + eventWeight topology event := by
  cases heffect with
  | quiet hkeeps _ hbuf =>
    rw [newSends_eq_nil hkeeps.passed]
    have hload := hkeeps.load_le (passWeight topology)
    have hqueue := (hbuf.map fun queued => copyWeight topology queued.frame).sum_le_sum
      fun _ _ => zero_le _
    simp only [relayWeight, map_nil, sum_nil]
    omega
  | passes _ hpasses _ hbuf =>
    rw [newSends_eq_singleton hpasses.passed, map_singleton, sum_singleton]
    have hload := hpasses.load_lt (passWeight topology)
    rw [relayWeight, relayWeight, hbuf]
    dsimp only
    omega
  | @receives key l =>
    rw [newSends_eq_nil (congrArg Routing.sends (recvLData_log t key l)), relayWeight,
      (recvLData_frame t key l).1]
    obtain hbuf | hbuf := buf_recvLData t key l
    · rw [hbuf]
      exact le_add_right _ _
    · rw [hbuf, map_append, List.sum_append, relayWeight]
      simp only [map_cons, map_nil, sum_cons, sum_nil, eventWeight, copyWeight, Relay.accepted]
      omega
  | registers hregisters _ _ hbuf =>
    rw [newSends_eq_nil hregisters.passed, relayWeight, relayWeight, hbuf]
    have hload := hregisters.load_le (passWeight topology)
    simp only [map_nil, sum_nil]
    omega
  | addresses =>
    rw [newSends_eq_nil (by rfl)]
    exact le_add_right _ _
  | @distributes _ _ _ _ _ _ hbuf htrigger _ hsends _ hload =>
    rw [hforce] at htrigger
    have hbudget := links_mul_passWeight_le (distributes_of_triggerFrame htrigger) hlinks
    have hvisits := hload (passWeight topology)
    rw [newSends_eq_nil hsends, relayWeight, relayWeight, hbuf]
    simp only [map_cons, sum_cons, map_nil, sum_nil]
    omega

/-- Every frame in a router comes from an injected one. -/
structure Inherits (injected : List LDataPDU) (t : Relay) : Prop where
  buf : ∀ queued ∈ t.buf, ∃ before source,
    Descends injected before ∧ queued.frame = { before with source }
  flying : ∀ frame ∈ inFlight t.router.stack, ∃ before,
    Descends injected before ∧ Distributes before frame

theorem Inherits.effect {injected : List LDataPDU} (hinherits : Inherits injected t)
    (heffect : Effect t event next) (hforce : t.forceBroadcast = false)
    (hreceived : ∀ key l, event = .receive key l → Descends injected l) :
    Inherits injected next ∧ ∀ entry ∈ newSends t next, ∃ before,
      Descends injected before ∧ Distributes before entry.2 := by
  cases heffect with
  | quiet hkeeps _ hbuf =>
    rw [newSends_eq_nil hkeeps.passed]
    exact ⟨⟨fun queued hqueued => hinherits.buf queued (hbuf.mem hqueued),
      fun frame hframe => hinherits.flying frame (hkeeps.distributed frame hframe)⟩, by simp⟩
  | passes hframe hpasses _ hbuf =>
    rw [newSends_eq_singleton hpasses.passed]
    refine ⟨⟨by rw [hbuf]; exact hinherits.buf,
      fun frame hframe => hinherits.flying frame (hpasses.distributed frame hframe)⟩, ?_⟩
    intro entry hentry
    rw [mem_singleton.1 hentry]
    exact hinherits.flying _ hframe
  | @receives key l =>
    rw [newSends_eq_nil (congrArg Routing.sends (recvLData_log t key l))]
    refine ⟨⟨?_, by rw [(recvLData_frame t key l).1]; exact hinherits.flying⟩, by simp⟩
    obtain hbuf | hbuf := buf_recvLData t key l
    · rw [hbuf]
      exact hinherits.buf
    · rw [hbuf]
      intro queued hqueued
      obtain hqueued | hqueued := mem_append.1 hqueued
      · exact hinherits.buf queued hqueued
      · rw [mem_singleton.1 hqueued]
        exact ⟨l, _, hreceived key l rfl, rfl⟩
  | registers hregisters _ _ hbuf =>
    rw [newSends_eq_nil hregisters.passed]
    exact ⟨⟨by rw [hbuf]; exact hinherits.buf,
      fun frame hframe => hinherits.flying frame (hregisters.distributed frame hframe)⟩, by simp⟩
  | addresses =>
    rw [newSends_eq_nil (by rfl)]
    exact ⟨⟨hinherits.buf, hinherits.flying⟩, by simp⟩
  | @distributes _ _ queued _ _ _ hbuf htrigger _ hsends hflight =>
    rw [newSends_eq_nil hsends]
    have hall := hinherits.buf
    rw [hbuf] at hall
    refine ⟨⟨fun other hother => hall other (mem_cons_of_mem queued hother), ?_⟩, by simp⟩
    intro frame hframe
    obtain ⟨before, source, hdescends, hbefore⟩ := hall queued mem_cons_self
    rw [hforce, hbefore] at htrigger
    rw [hflight frame hframe]
    exact ⟨before, hdescends, source, _, _, _, _, htrigger⟩

end Steps

/-! ## Steps of the network -/

section Runs

variable {ι : Type} {topology : Topology ι} {net next : Network ι}

/-- Every frame under way comes from an injected one, and no router broadcasts. -/
structure Routes (topology : Topology ι) (net : Network ι) : Prop where
  forceBroadcast : ∀ router, (net.relay router).forceBroadcast = false
  links : ∀ router, (net.relay router).router.links.length ≤ topology.capacity
  inherits : ∀ router, Inherits net.injected (net.relay router)
  air : ∀ copy ∈ net.air, Descends net.injected copy.frame

theorem sum_update [Fintype ι] [DecidableEq ι] (weight : Relay → ℕ) (relay : ι → Relay)
    (router : ι) (after : Relay) :
    ∑ other, weight (update relay router after other) + weight (relay router) =
      ∑ other, weight (relay other) + weight after := by
  have hupdate : (fun other => weight (update relay router after other)) =
      update (fun other => weight (relay other)) router (weight after) := by
    funext other
    by_cases hother : other = router
    · subst hother
      rw [update_self, update_self]
    · rw [update_of_ne hother, update_of_ne hother]
  rw [hupdate, Finset.sum_update_of_mem (Finset.mem_univ router),
    Finset.sum_eq_add_sum_sdiff_singleton_of_mem (Finset.mem_univ router)
      fun other => weight (relay other)]
  omega

theorem forall_update [DecidableEq ι] {P : Relay → Prop} {relay : ι → Relay} {router : ι}
    {after : Relay} (hall : ∀ other, P (relay other)) (hafter : P after) (other : ι) :
    P (update relay router after other) :=
  (forall_update_iff relay fun _ => P).2 ⟨hafter, fun other _ => hall other⟩ other

/-- A step of one router, seen from the network. -/
theorem Routes.advance [Fintype ι] [DecidableEq ι] (hroutes : Routes topology net)
    {router : ι} {event : Traffic.Event}
    (hreceived : ∀ key l, event = .receive key l → Descends net.injected l)
    (hadvance : advance topology net router event = some next) :
    Routes topology next ∧ next.injected = net.injected ∧
      outstanding topology next + next.forwarded ≤
        outstanding topology net + net.forwarded + eventWeight topology event := by
  obtain ⟨after, hstep, hguard⟩ := bind_eq_some_iff.1 hadvance
  obtain ⟨hlinks, ⟨⟩⟩ := ite_none_right_eq_some.1 hguard
  have heffect := effect_of_step hstep
  have hforce := hroutes.forceBroadcast router
  obtain ⟨hinherits, hpassed⟩ := (hroutes.inherits router).effect heffect hforce hreceived
  refine ⟨⟨?_, ?_, ?_, ?_⟩, rfl, ?_⟩
  · exact forall_update (P := fun t => t.forceBroadcast = false) hroutes.forceBroadcast
      ((forceBroadcast_effect heffect).trans hforce)
  · exact forall_update (P := fun t => t.router.links.length ≤ topology.capacity) hroutes.links
      hlinks
  · exact forall_update hroutes.inherits hinherits
  · intro copy hcopy
    obtain hcopy | hcopy := mem_append.1 hcopy
    · exact hroutes.air copy hcopy
    · obtain ⟨entry, hentry, harrival⟩ := mem_flatMap.1 hcopy
      obtain ⟨other, -, hother⟩ := mem_filterMap.1 harrival
      obtain ⟨_, hcarry, rfl⟩ := map_eq_some_iff.1 hother
      obtain ⟨_, ⟨first, hfirst, hchain⟩, hdistributes⟩ := hpassed entry hentry
      exact ⟨first, hfirst, hchain.tail ⟨entry.2, hdistributes, other.medium, hcarry⟩⟩
  · have hweight := relayWeight_effect heffect hforce (hroutes.links router)
    have harrivals := @airWeight_arrivals _ topology router (newSends (net.relay router) after)
    have hsum := sum_update (relayWeight topology) net.relay router after
    simp only [outstanding, airWeight_append]
    omega

theorem Descends.mono {injected more : List LDataPDU} {frame : LDataPDU}
    (hdescends : Descends injected frame) (hmore : ∀ first ∈ injected, first ∈ more) :
    Descends more frame :=
  let ⟨first, hfirst, hchain⟩ := hdescends
  ⟨first, hmore first hfirst, hchain⟩

theorem Inherits.mono {injected more : List LDataPDU} {t : Relay} (hinherits : Inherits injected t)
    (hmore : ∀ first ∈ injected, first ∈ more) : Inherits more t where
  buf queued hqueued :=
    let ⟨before, source, hdescends, hframe⟩ := hinherits.buf queued hqueued
    ⟨before, source, hdescends.mono hmore, hframe⟩
  flying frame hframe :=
    let ⟨before, hdescends, hdistributes⟩ := hinherits.flying frame hframe
    ⟨before, hdescends.mono hmore, hdistributes⟩

/-- Each injected frame pays for all the copies it can cause. -/
def Solvent [Fintype ι] (topology : Topology ι) (net : Network ι) : Prop :=
  outstanding topology net + net.forwarded ≤
    net.injected.length * budget topology.capacity topology.reach 7

theorem routes_step [Fintype ι] [DecidableEq ι] (hroutes : Routes topology net)
    (hsolvent : Solvent topology net) {event : Event ι} (hshort : ShortLived net event)
    (hstep : step topology net event = some next) :
    Routes topology next ∧ Solvent topology next := by
  cases event with
  | relay _ event =>
    obtain ⟨hreceive, hadvance⟩ := ite_none_left_eq_some.1 hstep
    have hevent : eventWeight topology event = 0 := by
      cases event with
      | receive => exact absurd rfl hreceive
      | _ => rfl
    obtain ⟨hnext, hinjected, hweight⟩ := hroutes.advance
      (by rintro key l rfl; exact absurd rfl hreceive) hadvance
    refine ⟨hnext, ?_⟩
    rw [Solvent, hinjected]
    rw [hevent] at hweight
    exact hweight.trans hsolvent
  | deliver index =>
    rw [step.eq_def] at hstep
    dsimp only at hstep
    split at hstep
    · cases hstep
    next copy hcopy =>
    have hrest : Routes topology { net with air := net.air.eraseIdx index } :=
      ⟨hroutes.forceBroadcast, hroutes.links, hroutes.inherits,
        fun other hother => hroutes.air other (mem_of_mem_eraseIdx hother)⟩
    have hdescends := hroutes.air copy (mem_of_getElem? hcopy)
    obtain ⟨hnext, hinjected, hweight⟩ := hrest.advance
      (by rintro key l ⟨⟩; exact hdescends) hstep
    refine ⟨hnext, ?_⟩
    have hair := @airWeight_eraseIdx _ topology _ _ _ hcopy
    simp only [Solvent, outstanding, eventWeight] at hsolvent hweight ⊢
    rw [hinjected]
    dsimp only at hweight ⊢
    omega
  | lose index =>
    cases hstep
    refine ⟨⟨hroutes.forceBroadcast, hroutes.links, hroutes.inherits,
      fun other hother => hroutes.air other (mem_of_mem_eraseIdx hother)⟩, ?_⟩
    have hair : airWeight topology (net.air.eraseIdx index) ≤ airWeight topology net.air :=
      ((eraseIdx_sublist net.air index).map
        fun copy : Copy ι => copyWeight topology copy.frame).sum_le_sum fun _ _ => Nat.zero_le _
    simp only [Solvent, outstanding] at hsolvent ⊢
    omega
  | inject copy =>
    cases hstep
    have hmore : ∀ first ∈ net.injected, first ∈ copy.frame :: net.injected :=
      fun _ => mem_cons_of_mem copy.frame
    refine ⟨⟨hroutes.forceBroadcast, hroutes.links,
      fun router => (hroutes.inherits router).mono hmore, ?_⟩, ?_⟩
    · intro other hother
      obtain rfl | hother := mem_cons.1 hother
      · exact ⟨other.frame, mem_cons_self, .refl⟩
      · exact (hroutes.air other hother).mono hmore
    · have hcopy : copyWeight topology copy.frame ≤ budget topology.capacity topology.reach 7 :=
        budget_mono _ _ hshort
      simp only [Solvent, outstanding, airWeight, map_cons, sum_cons,
        length_cons, Nat.succ_mul] at hsolvent ⊢
      omega

theorem routes_of_quiet [Fintype ι] (hquiet : Quiet topology net) :
    Routes topology net ∧ Solvent topology net := by
  refine ⟨⟨hquiet.forceBroadcast, hquiet.links, fun router => ⟨?_, ?_⟩, ?_⟩, ?_⟩
  · rw [hquiet.buf router]
    exact fun _ hmem => absurd hmem not_mem_nil
  · rw [inFlight_eq_map_visits, hquiet.visits router]
    exact fun _ hmem => absurd hmem not_mem_nil
  · rw [hquiet.air]
    exact fun _ hmem => absurd hmem not_mem_nil
  · have hrelay : ∀ router, relayWeight topology (net.relay router) = 0 := by
      intro router
      rw [relayWeight, hquiet.buf router, load, hquiet.visits router]
      rfl
    rw [Solvent, outstanding, hquiet.air, hquiet.forwarded, Finset.sum_eq_zero fun _ _ => hrelay _]
    exact zero_le _

end Runs

/-- Loops die out, in every network with force-broadcast off and in every run from a
network without frames.  A forwarded copy has fewer hops left than the frame it came
from, so that a frame without hops is not forwarded and no frame is forwarded more than
seven times in a row; every copy under way comes from an injected frame in this way;
and the number of copies is bounded by the number of injected frames. -/
theorem routing_loops_die_out {ι : Type} [Fintype ι] [DecidableEq ι] {topology : Topology ι}
    {start net : Network ι} (hquiet : Quiet topology start)
    (hpath : Path (step topology) ShortLived start net) :
    (∀ before after, Forwards before after →
      0 < before.hopcount.toNat ∧ after.hopcount.toNat < before.hopcount.toNat) ∧
    (∀ first chain, first.hopcount.toNat ≤ 7 → List.IsChain Forwards (first :: chain) →
      chain.length ≤ 7) ∧
    (∀ copy ∈ net.air, ∃ first ∈ net.injected, Relation.ReflTransGen Forwards first copy.frame) ∧
    net.forwarded ≤ net.injected.length * budget topology.capacity topology.reach 7 := by
  obtain ⟨hroutes, hsolvent⟩ := hpath.invariant
    (fun net => Routes topology net ∧ Solvent topology net) (routes_of_quiet hquiet)
    fun _ _ _ hinv hshort hstep => routes_step hinv.1 hinv.2 hshort hstep
  refine ⟨fun before after hforwards => ?_, fun first chain hfirst hchain => ?_, hroutes.air, ?_⟩
  · have hless := hopcount_forwards hforwards
    exact ⟨by omega, hless⟩
  · exact (length_chain_le hchain).trans hfirst
  · exact (Nat.le_add_left _ _).trans hsolvent

/-- A router between two lines. -/
def coupler (addr : Addr) : Relay :=
  { router :=
      { addr, links := [0, 1], someRunning := true, lowSendMore := true, highSendMore := true
        object := fun key => if key < 2 then
          some { state := .up, checkGroupAddress := fun _ => true } else none }
    pool := .configured 0 0 }

def ring : Topology Bool :=
  { ends := fun router key => [⟨!router, key, .direct .busFrame 0⟩]
    capacity := 2
    reach := 1
    length_ends := fun _ _ => le_rfl }

/-- A frame on the first line reaches the second line through the first router, and
the first line again through the second one. -/
def roundTrip : List (Event Bool) :=
  [.inject ⟨false, 0, { addrType := .groupAddress, source := 0x1203, dest := 2, data := [0, 0] }⟩,
    .deliver 0, .relay false (.trigger 0), .relay false (.router .resume),
    .relay false (.router .resume), .deliver 0, .relay true (.trigger 0),
    .relay true (.router .resume)]

/-- The frame goes round once, and has two hops less. -/
theorem routing_loops_die_out_ring : ∃ net, Transition.runAllowed (step ring) ShortLived
      { relay := fun router => if router then coupler 0x1102 else coupler 0x1101 } roundTrip =
      some net ∧
    (net.air.map fun copy => (copy.router, copy.key, copy.frame.hopcount)) = [(false, 0, 4)] ∧
    net.forwarded = 2 ∧ 2 ≤ 1 * budget 2 1 7 := by
  refine exists_state (D := fun net => (net.air.map fun copy =>
      (copy.router, copy.key, copy.frame.hopcount)) = [(false, 0, 4)] ∧ net.forwarded = 2 ∧
      net.injected.length = 1) (by decide +kernel) fun net hnet hfields => ?_
  obtain ⟨hair, hforwarded, hinjected⟩ := hfields
  have hquiet : Quiet ring
      { relay := fun router => if router then coupler 0x1102 else coupler 0x1101 } :=
    ⟨by decide, by decide, by decide, by decide, rfl, rfl⟩
  have hbound := (routing_loops_die_out hquiet (Transition.path_of_runAllowed hnet)).2.2.2
  rw [hforwarded, hinjected] at hbound
  exact ⟨hair, hforwarded, hbound⟩

end Knxd.HopCount
