import Knxd.Routing.Traffic

/-!
# Who gets a frame

`send_L_Data` goes over the link table once to look for the destination and once to
pass the frame on.  The stated rules for an individual destination are: a frame with
the highest hop count goes to every link; any other one goes to the links that have
the destination, if some link has it, and otherwise to every link that accepts it.
The links that have the source are left out.  The rules are compared with the loop
for every link table.
-/

namespace Knxd.Distribution

open Memory LPDU Link Routing Router Option
open Traffic (IgnoreInfo triggerFrame eq_of_triggerFrame)

/-- The loop reaches the call of the link's `send_L_Data`. -/
def gets (frame : LDataPDU) (found : Bool) (link : LinkConnect) : Prop :=
  link.state = .up ∧ link.sendMore ∧ link.hasAddress frame.source = false ∧
    Router.isTarget frame found link
  deriving Decidable

def getsAt (router : Router) (frame : LDataPDU) (found : Bool) (key : ℕ) : Prop :=
  ∃ link ∈ router.object key, gets frame found link
  deriving Decidable

/-- The links whose `send_L_Data` the router calls, in the order of the table. -/
def recipients (router : Router) (frame : LDataPDU) : List ℕ :=
  router.links.filter fun key => getsAt router frame (router.destinationFound frame) key

/-- A link of the table that is up and does not have the source. -/
structure Candidate (router : Router) (frame : LDataPDU) (key : ℕ) (link : LinkConnect) : Prop where
  member : key ∈ router.links
  object : router.object key = some link
  up : link.state = .up
  source : link.hasAddress frame.source = false

def Seen (router : Router) (frame : LDataPDU) : Prop :=
  ∃ key ∈ router.links, ∃ link ∈ router.object key,
    link.hasAddress frame.source = false ∧ link.hasAddress frame.dest

def Selects (router : Router) (frame : LDataPDU) (link : LinkConnect) : Prop :=
  frame.hopcount = 7 ∨
    frame.hopcount ≠ 7 ∧ frame.dest ≠ 0xFFFF ∧ Seen router frame ∧ link.hasAddress frame.dest ∨
    frame.hopcount ≠ 7 ∧ (frame.dest = 0xFFFF ∨ ¬ Seen router frame) ∧ link.checkAddress frame.dest

structure MeetsRules (router : Router) (frame : LDataPDU) : Prop where
  broadcast : frame.hopcount = 7 → ∀ key link, Candidate router frame key link →
    key ∈ recipients router frame
  direct : frame.hopcount ≠ 7 → frame.dest ≠ 0xFFFF → Seen router frame →
    ∀ key link, Candidate router frame key link →
      (key ∈ recipients router frame ↔ link.hasAddress frame.dest)
  search : frame.hopcount ≠ 7 → frame.dest = 0xFFFF ∨ ¬ Seen router frame →
    ∀ key link, Candidate router frame key link → link.checkAddress frame.dest →
      key ∈ recipients router frame

/-- The links the rules select can take a frame, and a frame with the highest hop
count finds only links that have its destination. -/
def RulesApply (router : Router) (frame : LDataPDU) : Prop :=
  ∀ key link, Candidate router frame key link → Selects router frame link →
    link.sendMore ∧ (frame.hopcount = 7 → link.hasAddress frame.dest)

section Rules

variable {router : Router} {frame : LDataPDU} {key : ℕ} {link : LinkConnect}

/-- What `trigger_cb` distributes is not addressed to the router itself. -/
theorem dest_ne_own {forceBroadcast : Bool} {addr : Addr} {now : ℕ}
    {ignore ignored : List IgnoreInfo} {queued l : LDataPDU}
    (htype : queued.addrType = .individualAddress) (hdest : queued.dest ≠ 0)
    (htrigger : triggerFrame forceBroadcast addr now ignore queued = .ok (some l, ignored)) :
    l.addrType = .individualAddress ∧ l.dest ≠ addr := by
  obtain ⟨-, rfl⟩ := eq_of_triggerFrame htrigger
  refine ⟨htype, ?_⟩
  dsimp only
  split
  · next hown =>
    rw [← hown.2]
    exact hdest.symm
  · next hother => exact fun heq => hother ⟨htype, heq⟩

theorem destinationFound_iff (hown : frame.dest ≠ router.addr) :
    router.destinationFound frame ↔ frame.dest ≠ 0xFFFF ∧ Seen router frame := by
  have hany : ((router.links.filterMap router.object).any fun link =>
      !link.hasAddress frame.source && link.hasAddress frame.dest) ↔ Seen router frame := by
    simp only [List.any_eq_true, List.mem_filterMap, Bool.and_eq_true, Bool.not_eq_true']
    constructor
    · rintro ⟨link, ⟨key, hkey, hobject⟩, hlink⟩
      exact ⟨key, hkey, link, hobject, hlink⟩
    · rintro ⟨key, hkey, link, hobject, hlink⟩
      exact ⟨link, ⟨key, hkey, hobject⟩, hlink⟩
  rw [destinationFound, beq_false_of_ne hown, Bool.false_or, Bool.and_eq_true, hany, bne_iff_ne]
  rfl

theorem mem_recipients_iff (hcandidate : Candidate router frame key link)
    (htype : frame.addrType = .individualAddress) :
    key ∈ recipients router frame ↔ link.sendMore ∧
      if frame.hopcount = 7 ∨ router.destinationFound frame then link.hasAddress frame.dest
      else link.checkAddress frame.dest := by
  have htarget : isTarget frame (router.destinationFound frame) link ↔
      if frame.hopcount = 7 ∨ router.destinationFound frame then link.hasAddress frame.dest
      else link.checkAddress frame.dest := by
    rw [isTarget, htype]
    simp only [Bool.or_eq_true, beq_iff_eq]
  rw [recipients, List.mem_filter, decide_eq_true_iff, ← htarget]
  constructor
  · rintro ⟨-, other, hobject, -, hmore, -, hgets⟩
    obtain rfl : other = link := some.inj (hobject.symm.trans hcandidate.object)
    exact ⟨hmore, hgets⟩
  · rintro ⟨hmore, hgets⟩
    exact ⟨hcandidate.member, link, hcandidate.object, hcandidate.up, hmore, hcandidate.source,
      hgets⟩

/-- The rules in one line: a candidate gets the frame if it is selected, and in the
second rule only then. -/
theorem meetsRules_iff_selects (htype : frame.addrType = .individualAddress)
    (hown : frame.dest ≠ router.addr) :
    MeetsRules router frame ↔ ∀ key link, Candidate router frame key link →
      Selects router frame link → key ∈ recipients router frame := by
  constructor
  · rintro ⟨hbroadcast, hdirect, hsearch⟩ key link hcandidate hselects
    obtain hhop | ⟨hhop, hdest, hseen, hhas⟩ | ⟨hhop, hdest, hcheck⟩ := hselects
    · exact hbroadcast hhop key link hcandidate
    · exact (hdirect hhop hdest hseen key link hcandidate).2 hhas
    · exact hsearch hhop hdest key link hcandidate hcheck
  · intro hall
    constructor
    · exact fun hhop key link hcandidate => hall key link hcandidate (.inl hhop)
    · intro hhop hdest hseen key link hcandidate
      have hfound := (destinationFound_iff hown).2 ⟨hdest, hseen⟩
      constructor
      · intro hmem
        rw [mem_recipients_iff hcandidate htype, if_pos (.inr hfound)] at hmem
        exact hmem.2
      · exact fun hhas => hall key link hcandidate (.inr (.inl ⟨hhop, hdest, hseen, hhas⟩))
    · exact fun hhop hdest key link hcandidate hcheck =>
        hall key link hcandidate (.inr (.inr ⟨hhop, hdest, hcheck⟩))

/-- A selected candidate gets the frame exactly if it can take it and, for the
highest hop count, has the destination. -/
theorem mem_recipients_of_selects (hcandidate : Candidate router frame key link)
    (htype : frame.addrType = .individualAddress) (hown : frame.dest ≠ router.addr)
    (hselects : Selects router frame link) :
    key ∈ recipients router frame ↔
      link.sendMore ∧ (frame.hopcount = 7 → link.hasAddress frame.dest) := by
  rw [mem_recipients_iff hcandidate htype]
  refine and_congr_right fun _ => ?_
  obtain hhop | ⟨hhop, hdest, hseen, hhas⟩ | ⟨hhop, hdest, hcheck⟩ := hselects
  · rw [if_pos (.inl hhop)]
    exact ⟨fun hhas _ => hhas, fun hhas => hhas hhop⟩
  · rw [if_pos (.inr ((destinationFound_iff hown).2 ⟨hdest, hseen⟩))]
    exact ⟨fun hhas _ => hhas, fun _ => hhas⟩
  · have hnot : ¬ (frame.hopcount = 7 ∨ router.destinationFound frame) := by
      rw [destinationFound_iff hown]
      rintro (hseven | ⟨hne, hseen⟩)
      · exact hhop hseven
      · exact hdest.elim hne fun hnone => hnone hseen
    rw [if_neg hnot]
    exact ⟨fun _ hseven => absurd hseven hhop, fun _ => hcheck⟩

end Rules

/-- For every link table and every frame that `trigger_cb` distributes, the frame
reaches the links of the stated rules exactly if those links are ready and, should
the frame have the highest hop count, all have its destination. -/
theorem routing_rules_iff {router : Router} {forceBroadcast : Bool} {now : ℕ}
    {ignore ignored : List IgnoreInfo} {queued l : LDataPDU}
    (htype : queued.addrType = .individualAddress) (hdest : queued.dest ≠ 0)
    (htrigger : triggerFrame forceBroadcast router.addr now ignore queued =
      .ok (some l, ignored)) : MeetsRules router l ↔ RulesApply router l := by
  obtain ⟨htype, hown⟩ := dest_ne_own htype hdest htrigger
  rw [meetsRules_iff_selects htype hown]
  constructor
  · intro hall key link hcandidate hselects
    exact (mem_recipients_of_selects hcandidate htype hown hselects).1
      (hall key link hcandidate hselects)
  · intro happly key link hcandidate hselects
    exact (mem_recipients_of_selects hcandidate htype hown hselects).2
      (happly key link hcandidate hselects)

/-- Two buses that are up; the second one has seen the device 1.2.3. -/
def twoBuses : Router :=
  { addr := 0x1101
    links := [0, 1]
    object := fun key => if key < 2 then
      some { state := .up, checkAddress := fun _ => true,
             hasAddress := fun addr => key == 1 && addr == 0x1203 } else none }

def toDevice (hopcount : Byte) (dest : Addr) : LDataPDU :=
  { source := 0x1304, dest, hopcount, data := [0x00] }

theorem sendMore_twoBuses {l : LDataPDU} {key : ℕ} {link : LinkConnect}
    (hcandidate : Candidate twoBuses l key link) : link.sendMore = true := by
  have hobject : (if key < 2 then some _ else none) = some link := hcandidate.object
  obtain ⟨-, ⟨⟩⟩ := ite_none_right_eq_some.1 hobject
  rfl

/-- A known destination: the frame goes to its bus only. -/
theorem routing_rules_direct : ∃ l ignored,
    triggerFrame false 0x1101 0 [] (toDevice 6 0x1203) = .ok (some l, ignored) ∧
    recipients twoBuses l = [1] ∧ MeetsRules twoBuses l := by
  obtain ⟨ignored, htrigger⟩ : ∃ ignored, triggerFrame false twoBuses.addr 0 []
      (toDevice 6 0x1203) = .ok (some (toDevice 5 0x1203), ignored) := ⟨_, rfl⟩
  have happly : RulesApply twoBuses (toDevice 5 0x1203) := fun key link hcandidate _ =>
    ⟨sendMore_twoBuses hcandidate, fun hseven => absurd hseven (by decide)⟩
  exact ⟨_, ignored, htrigger, by decide, (routing_rules_iff rfl (by decide) htrigger).2 happly⟩

/-- With force-broadcast, a frame with the highest hop count for a device nobody has
seen is sent to no bus at all. -/
theorem broadcast_not_sent : ∃ l ignored,
    triggerFrame true 0x1101 0 [] (toDevice 7 0x1405) = .ok (some l, ignored) ∧
    recipients twoBuses l = [] ∧ ¬ MeetsRules twoBuses l := by
  refine ⟨toDevice 7 0x1405, _, rfl, by decide, fun hrules => ?_⟩
  have hmem := hrules.broadcast rfl 0 _ ⟨by decide, rfl, rfl, by decide⟩
  exact absurd hmem (by decide)

end Knxd.Distribution
