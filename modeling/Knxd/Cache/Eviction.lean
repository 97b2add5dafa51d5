import Knxd.Cache.GroupCache

/-!
# The cache keeps the addresses updated last

The cache is compared with a bounded map ordered by last update.  `cache_seq` is what
the cache knows about that order; the entries of the bounded map are those of
`cache_seq`, the latest first, that `cache` still has under the same number.

`Clear` empties `cache` only.  What it leaves in `cache_seq` is older than every later
update, so it is dropped first when room is needed, and that drops nothing else unless
the address was updated again after the `Clear`: then the entry that goes is a live one.
-/

namespace Knxd.Eviction

open Memory LPDU Recency Cache List Function GroupCache Option Nat
open Transition (run runAllowed exists_state)

variable {entry : ℕ × Addr} {cacheSeq : List (ℕ × Addr)} {l : LDataPDU} {addr : Addr}

abbrev Value := Addr × CArray

/-! ## The order of the updates -/

section View

variable (cache : Addr → Option GroupCacheEntry)

/-- The entry that an element of `cache_seq` stands for, if it is still the last
update of its address. -/
def live (entry : ℕ × Addr) : Option (Addr × Value) :=
  (cache entry.2).bind fun c => if c.seq = entry.1 then some (entry.2, c.src, c.data) else none

/-- The entries in the order of `cache_seq`, the latest first. -/
def view (cacheSeq : List (ℕ × Addr)) : List (Addr × Value) :=
  cacheSeq.reverse.filterMap (live cache)

variable {cache}

theorem live_eq_some_iff {value : Addr × Value} : live cache entry = some value ↔
      ∃ c, cache entry.2 = some c ∧ c.seq = entry.1 ∧ (entry.2, c.src, c.data) = value := by
  rw [live, bind_eq_some_iff]
  refine exists_congr fun c => and_congr_right fun _ => ?_
  rw [ite_none_right_eq_some, Option.some.injEq]

theorem isSome_live_iff :
    (live cache entry).isSome ↔ ∃ c, cache entry.2 = some c ∧ c.seq = entry.1 := by
  rw [isSome_iff_exists]
  constructor
  · rintro ⟨_, hvalue⟩
    obtain ⟨c, hc, hseq, -⟩ := live_eq_some_iff.1 hvalue
    exact ⟨c, hc, hseq⟩
  · rintro ⟨c, hc, hseq⟩
    exact ⟨_, live_eq_some_iff.2 ⟨c, hc, hseq, rfl⟩⟩

/-- Another entry for an address matters to the elements of that address only. -/
theorem live_update_of_ne (c : Option GroupCacheEntry)
    (haddr : entry.2 ≠ addr) : live (update cache addr c) entry = live cache entry := by
  rw [live, update_of_ne haddr]
  rfl

theorem live_eq_none_of_seq_ne
    (hseq : ∀ c, cache entry.2 = some c → c.seq ≠ entry.1) : live cache entry = none := by
  rw [← not_isSome_iff_eq_none, isSome_live_iff]
  rintro ⟨c, hc, heq⟩
  exact hseq c hc heq

theorem view_congr {other : Addr → Option GroupCacheEntry}
    (hlive : ∀ entry ∈ cacheSeq, live other entry = live cache entry) :
    view other cacheSeq = view cache cacheSeq :=
  filterMap_congr fun entry hentry => hlive entry (mem_reverse.1 hentry)

theorem view_cons (entry : ℕ × Addr) (cacheSeq : List (ℕ × Addr)) :
    view cache (entry :: cacheSeq) = view cache cacheSeq ++ (live cache entry).toList := by
  rw [view, reverse_cons, filterMap_append, view]
  cases hlive : live cache entry <;> simp [hlive]

theorem view_concat (entry : ℕ × Addr) (cacheSeq : List (ℕ × Addr)) :
    view cache (cacheSeq ++ [entry]) = (live cache entry).toList ++ view cache cacheSeq := by
  rw [view, reverse_concat]
  cases hlive : live cache entry <;> simp [hlive, view]

end View

/-- `cache` and `cache_seq` fit together. -/
structure Indexed (gc : GroupCache) : Prop where
  sorted : gc.cacheSeq.Pairwise fun first second => first.1 < second.1
  le_seq : ∀ entry ∈ gc.cacheSeq, entry.1 ≤ gc.seq
  indexed : ∀ addr c, gc.cache addr = some c → (c.seq, addr) ∈ gc.cacheSeq
  /-- What is left over from before a `Clear` comes first. -/
  settled : gc.cacheSeq.Pairwise fun first second =>
    (live gc.cache first).isSome → (live gc.cache second).isSome
  length_le : gc.cacheSeq.length ≤ gc.maxsize

section Index

variable {gc : GroupCache}

/-- A number occurs once. -/
theorem Indexed.addr_eq (hindexed : Indexed gc) {seq : ℕ} {addr other : Addr}
    (haddr : (seq, addr) ∈ gc.cacheSeq) (hother : (seq, other) ∈ gc.cacheSeq) : addr = other := by
  have hnodup : (gc.cacheSeq.map Prod.fst).Nodup := pairwise_map.2 (hindexed.sorted.imp ne_of_lt)
  exact congrArg Prod.snd (inj_on_of_nodup_map hnodup haddr hother rfl)

/-- An address is dropped without an entry, or with the one that another element stands for. -/
theorem live_update_none {ga : Addr}
    (hseq : ∀ c, gc.cache ga = some c → entry.2 = ga → c.seq ≠ entry.1) :
    live (update gc.cache ga none) entry = live gc.cache entry := by
  by_cases haddr : entry.2 = ga
  · rw [live_eq_none_of_seq_ne, live_eq_none_of_seq_ne]
    · exact fun c hc => hseq c (haddr ▸ hc) haddr
    · intro c hc
      rw [haddr, update_self] at hc
      cases hc
  · exact live_update_of_ne none haddr

/-- An address is dropped together with elements that no other address needs. -/
theorem Indexed.drop (hindexed : Indexed gc) {ga : Addr} (hsublist : cacheSeq.Sublist gc.cacheSeq)
    (hlive : ∀ entry ∈ cacheSeq, live (update gc.cache ga none) entry = live gc.cache entry)
    (hkept : ∀ addr c, addr ≠ ga → gc.cache addr = some c → (c.seq, addr) ∈ cacheSeq) :
    Indexed { gc with cache := update gc.cache ga none, cacheSeq } := by
  refine ⟨hindexed.sorted.sublist hsublist, fun entry hentry => ?_, fun addr c hc => ?_, ?_, ?_⟩
  · exact hindexed.le_seq entry (hsublist.mem hentry)
  · dsimp only at hc
    by_cases haddr : addr = ga
    · rw [haddr, update_self] at hc
      cases hc
    · rw [update_of_ne haddr] at hc
      exact hkept addr c haddr hc
  · refine (hindexed.settled.sublist hsublist).imp_of_mem
        fun {first second} hfirst hsecond hboth => ?_
    dsimp only
    rw [hlive first hfirst, hlive second hsecond]
    exact hboth
  · exact hsublist.length_le.trans hindexed.length_le

theorem mem_erase {seq : ℕ} : entry ∈ erase seq cacheSeq ↔ entry ∈ cacheSeq ∧ entry.1 ≠ seq := by
  rw [erase, mem_filter, decide_eq_true_iff]

/-- The elements that `remove` leaves for an address that the cache has. -/
theorem live_removed {ga : Addr} {f : GroupCacheEntry} (hf : gc.cache ga = some f)
    (hentry : entry ∈ erase f.seq cacheSeq) :
    live (update gc.cache ga none) entry = live gc.cache entry := by
  refine live_update_none fun c hc _ => ?_
  cases hf.symm.trans hc
  exact (mem_erase.1 hentry).2.symm

theorem Indexed.remove (hindexed : Indexed gc) (ga : Addr) : Indexed (gc.remove ga) := by
  unfold GroupCache.remove
  split
  · exact hindexed
  next f hf =>
  refine hindexed.drop filter_sublist (fun _ => live_removed hf) fun addr c haddr hc => ?_
  have hmem := hindexed.indexed addr c hc
  refine mem_erase.2 ⟨hmem, fun hseq => haddr ?_⟩
  rw [show c.seq = f.seq from hseq] at hmem
  exact hindexed.addr_eq hmem (hindexed.indexed ga f hf)

/-- Removing an address removes its entry. -/
theorem view_remove (hindexed : Indexed gc) (ga : Addr) :
    view (gc.remove ga).cache (gc.remove ga).cacheSeq =
      (view gc.cache gc.cacheSeq).filter fun entry => entry.1 ≠ ga := by
  unfold remove
  split
  · next hnone =>
    symm
    apply filter_eq_self.2
    intro value hvalue
    obtain ⟨entry, -, hlive⟩ := mem_filterMap.1 hvalue
    obtain ⟨c, hc, -, rfl⟩ := live_eq_some_iff.1 hlive
    have hne : entry.2 ≠ ga := by
      rintro rfl
      cases hnone.symm.trans hc
    simpa using hne
  next f hf =>
  dsimp only
  rw [view_congr fun _ => live_removed hf, view, view, erase,
    ← filter_reverse, filterMap_filter, filter_filterMap]
  apply filterMap_congr
  intro entry hentry
  have hmem := mem_reverse.1 hentry
  split
  · next hseq =>
    cases hlive : live gc.cache entry with
    | none => rfl
    | some =>
      obtain ⟨c, hc, heq, rfl⟩ := live_eq_some_iff.1 hlive
      have hne : entry.2 ≠ ga := by
        intro haddr
        rw [haddr, hf, Option.some.injEq] at hc
        rw [decide_eq_true_iff, ← heq, hc] at hseq
        exact hseq rfl
      rw [filter_some, if_pos (by simpa using hne)]
  · next hseq =>
    -- the only element with this number is the one of the address
    have hseq : entry.1 = f.seq := by simpa using hseq
    have haddr : entry.2 = ga := by
      obtain ⟨seq, _⟩ := entry
      obtain rfl : seq = f.seq := hseq
      exact hindexed.addr_eq hmem (hindexed.indexed ga f hf)
    cases hlive : live gc.cache entry with
    | none => rfl
    | some =>
      obtain ⟨c, -, -, rfl⟩ := live_eq_some_iff.1 hlive
      rw [filter_some, if_neg (by simpa using haddr)]

/-- `remove` makes room. -/
theorem length_remove_lt (hindexed : Indexed gc) {ga : Addr} {f : GroupCacheEntry}
    (hf : gc.cache ga = some f) : (gc.remove ga).cacheSeq.length < gc.maxsize := by
  have hmem := hindexed.indexed ga f hf
  rw [remove]
  simp only [hf]
  refine lt_of_lt_of_le ?_ hindexed.length_le
  apply length_filter_lt_length_iff_exists.2
  exact ⟨_, hmem, by simp⟩

/-! ## A new entry -/

theorem Indexed.congr {next : GroupCache} (hindexed : Indexed gc) (hsame : SameStore gc next) :
    Indexed next := by
  obtain ⟨hmaxsize, -, hcache, hcacheSeq, hseq⟩ := hsame
  constructor
  · rw [hcacheSeq]
    exact hindexed.sorted
  · rw [hcacheSeq, hseq]
    exact hindexed.le_seq
  · rw [hcache, hcacheSeq]
    exact hindexed.indexed
  · rw [hcache, hcacheSeq]
    exact hindexed.settled
  · rw [hcacheSeq, hmaxsize]
    exact hindexed.length_le

/-- The entry that `enter` makes. -/
def entered (gc : GroupCache) (entry : GroupCacheEntry) (l : LDataPDU) (now : ℕ) :
    GroupCacheEntry :=
  { entry with src := l.source, data := l.data, recvtime := now, seq := gc.seq + 1 }

/-- `enter` without the readers, as long as the numbers do not start again. -/
theorem sameStore_enter (hindexed : Indexed gc) (hseq : gc.seq + 1 < 2 ^ 32)
    (entry : GroupCacheEntry) (l : LDataPDU) (now : ℕ) :
    SameStore
      { gc with
        cache := update gc.cache l.dest (some (entered gc entry l now))
        cacheSeq := gc.cacheSeq ++ [(gc.seq + 1, l.dest)]
        seq := gc.seq + 1 } (gc.enter entry l now) := by
  have hlast : emplace (gc.seq + 1) l.dest gc.cacheSeq = gc.cacheSeq ++ [(gc.seq + 1, l.dest)] :=
    emplace_of_forall_lt l.dest fun entry hentry => lt_succ_of_le (hindexed.le_seq entry hentry)
  unfold enter updated entered
  rw [mod_eq_of_lt hseq]
  dsimp only
  rw [hlast]
  exact ⟨rfl, rfl, rfl, rfl, rfl⟩

/-- The new entry comes after the others and leaves them alone. -/
theorem live_entered (hindexed : Indexed gc) {entry : GroupCacheEntry} {now : ℕ}
    (hnew : gc.cache l.dest = none) {other : ℕ × Addr} (hother : other ∈ gc.cacheSeq) :
    live (update gc.cache l.dest (some (entered gc entry l now))) other = live gc.cache other := by
  by_cases haddr : other.2 = l.dest
  · rw [live_eq_none_of_seq_ne, live_eq_none_of_seq_ne]
    · intro c hc
      rw [haddr, hnew] at hc
      cases hc
    · intro c hc
      rw [haddr, update_self, Option.some.injEq] at hc
      have hle := hindexed.le_seq other hother
      rw [← hc]
      exact (lt_succ_of_le hle).ne'
  · exact live_update_of_ne _ haddr

theorem live_entered_self (gc : GroupCache) (entry : GroupCacheEntry) (l : LDataPDU) (now : ℕ) :
    live (update gc.cache l.dest (some (entered gc entry l now)))
      (gc.seq + 1, l.dest) = some (l.dest, l.source, l.data) :=
  live_eq_some_iff.2 ⟨_, update_self _ _ _, rfl, rfl⟩

theorem Indexed.enter (hindexed : Indexed gc) (hseq : gc.seq + 1 < 2 ^ 32)
    (hnew : gc.cache l.dest = none) (hroom : gc.cacheSeq.length < gc.maxsize)
    (entry : GroupCacheEntry) (now : ℕ) :
    Indexed (gc.enter entry l now) ∧
      view (gc.enter entry l now).cache (gc.enter entry l now).cacheSeq =
        (l.dest, l.source, l.data) :: view gc.cache gc.cacheSeq := by
  have hsame := sameStore_enter hindexed hseq entry l now
  constructor
  · refine Indexed.congr ⟨?_, ?_, ?_, ?_, ?_⟩ hsame
    · refine pairwise_append.2 ⟨hindexed.sorted, pairwise_singleton _ _, ?_⟩
      intro other hother last hlast
      rw [mem_singleton.1 hlast]
      exact lt_succ_of_le (hindexed.le_seq other hother)
    · intro other hother
      obtain hother | hother := mem_append.1 hother
      · exact (hindexed.le_seq other hother).trans (le_succ _)
      · rw [mem_singleton.1 hother]
    · intro addr c hc
      dsimp only at hc ⊢
      by_cases haddr : addr = l.dest
      · rw [haddr, update_self, Option.some.injEq] at hc
        rw [haddr, ← hc]
        exact mem_append_right _ (mem_singleton.2 rfl)
      · rw [update_of_ne haddr] at hc
        exact mem_append_left _ (hindexed.indexed addr c hc)
    · refine pairwise_append.2 ⟨?_, pairwise_singleton _ _, ?_⟩
      · refine hindexed.settled.imp_of_mem fun {first second} hfirst hsecond hlive => ?_
        dsimp only
        rw [live_entered hindexed hnew hfirst, live_entered hindexed hnew hsecond]
        exact hlive
      · intro other _ last hlast _
        rw [mem_singleton.1 hlast]
        exact isSome_of_eq_some (live_entered_self gc entry l now)
    · dsimp only
      rw [length_append]
      exact hroom
  · rw [hsame.cache, hsame.cacheSeq]
    dsimp only
    rw [view_concat, live_entered_self,
      view_congr fun other hother => live_entered hindexed hnew hother]
    rfl

/-! ## Making room -/

/-- There is room already. -/
theorem evict_of_length_lt {maxsize : ℕ} (cache : Addr → Option GroupCacheEntry)
    (hroom : cacheSeq.length < maxsize) : evict maxsize cache cacheSeq = .ok (cache, cacheSeq) := by
  cases cacheSeq with
  | nil => rw [evict, if_neg (by exact ne_of_gt hroom)]
  | cons => rw [evict, if_neg (by exact Nat.not_le_of_lt hroom)]

/-- If the cache is full, the oldest element of `cache_seq` is a live one, or its
address has no entry at all. -/
def OldestFits (gc : GroupCache) : Prop :=
  gc.maxsize ≤ gc.cacheSeq.length →
    ∀ front ∈ gc.cacheSeq.head?, ∀ c ∈ gc.cache front.2, c.seq = front.1
  deriving Decidable

/-- The oldest element leaves the cache. -/
theorem live_evicted {front entry : ℕ × Addr} {rest : List (ℕ × Addr)} (hindexed : Indexed gc)
    (hcacheSeq : gc.cacheSeq = front :: rest)
    (hfits : ∀ c, gc.cache front.2 = some c → c.seq = front.1) (hentry : entry ∈ rest) :
    live (update gc.cache front.2 none) entry = live gc.cache entry := by
  refine live_update_none fun c hc _ => ?_
  have hsorted := hindexed.sorted
  rw [hcacheSeq, pairwise_cons] at hsorted
  rw [hfits c hc]
  exact (hsorted.1 entry hentry).ne

/-- If the oldest element is live, all of them are. -/
theorem length_view_of_isSome {front : ℕ × Addr} {rest : List (ℕ × Addr)} (hindexed : Indexed gc)
    (hcacheSeq : gc.cacheSeq = front :: rest) (hlive : (live gc.cache front).isSome) :
    (view gc.cache rest).length = rest.length := by
  have hsettled := hindexed.settled
  rw [hcacheSeq, pairwise_cons] at hsettled
  rw [view, length_filterMap_eq_countP, countP_reverse, countP_eq_length]
  exact fun entry hentry => hsettled.1 entry hentry hlive

theorem length_view_le (cache : Addr → Option GroupCacheEntry) (cacheSeq : List (ℕ × Addr)) :
    (view cache cacheSeq).length ≤ cacheSeq.length := by
  rw [view]
  exact (length_filterMap_le _ _).trans_eq length_reverse

/-- A full cache drops its oldest entry, if that is a live one; after that there is
room for another one. -/
theorem exists_evict (hindexed : Indexed gc) (hsize : 1 ≤ gc.maxsize) (hfits : OldestFits gc)
    (hnew : gc.cache addr = none) :
    ∃ cache cacheSeq, evict gc.maxsize gc.cache gc.cacheSeq = .ok (cache, cacheSeq) ∧
      Indexed { gc with cache, cacheSeq } ∧ cacheSeq.length < gc.maxsize ∧ cache addr = none ∧
      ∀ first, (first :: view gc.cache gc.cacheSeq).take gc.maxsize =
        first :: view cache cacheSeq := by
  by_cases hroom : gc.cacheSeq.length < gc.maxsize
  · refine ⟨gc.cache, gc.cacheSeq, evict_of_length_lt _ hroom, hindexed, hroom, hnew, ?_⟩
    intro first
    apply take_of_length_le
    exact (succ_le_succ (length_view_le _ _)).trans hroom
  have hfull : gc.cacheSeq.length = gc.maxsize :=
    le_antisymm hindexed.length_le (Nat.le_of_not_lt hroom)
  cases hcacheSeq : gc.cacheSeq with
  | nil =>
    rw [hcacheSeq] at hfull
    exact absurd hfull (Nat.ne_of_lt hsize)
  | cons front rest =>
    have hfront : ∀ c, gc.cache front.2 = some c → c.seq = front.1 :=
      fun c hc => hfits hfull.ge front (by rw [hcacheSeq]; rfl) c hc
    rw [hcacheSeq, length_cons] at hfull
    have hrest : rest.length < gc.maxsize := by omega
    have hlive := fun entry hentry =>
      @live_evicted gc front entry rest hindexed hcacheSeq hfront hentry
    refine ⟨update gc.cache front.2 none, rest, ?_,
      hindexed.drop (hcacheSeq ▸ sublist_cons_self front rest) hlive fun addr c haddr hc => ?_,
      hrest, ?_, fun first => ?_⟩
    · rw [evict, if_pos hfull.ge, evict_of_length_lt _ hrest]
    · have hmem := hindexed.indexed addr c hc
      rw [hcacheSeq] at hmem
      exact (mem_cons.1 hmem).resolve_left fun heq => haddr (congrArg Prod.snd heq)
    · by_cases haddr : addr = front.2
      · rw [haddr, update_self]
      · rw [update_of_ne haddr, hnew]
    · rw [view_congr hlive, view_cons, ← cons_append]
      cases hoption : live gc.cache front with
      | none =>
        rw [toList_none, append_nil]
        apply take_of_length_le
        exact (succ_le_succ (length_view_le _ _)).trans hrest
      | some =>
        have hlength := length_view_of_isSome hindexed hcacheSeq (by rw [hoption]; rfl)
        refine take_left' ?_
        rw [length_cons, hlength]
        exact hfull

end Index

/-! ## Refinement -/

/-- The cache in terms of a bounded map. -/
structure Bounded (bound : ℕ) where
  enabled : Bool := false
  map : RecentMap Addr Value bound := .empty

namespace Bounded

variable {bound : ℕ}

def step (state : Bounded bound) : Event → Bounded bound
  | .sendLData l _ =>
    if state.enabled ∧ isUpdate l.data then
      { state with map := state.map.update l.dest (l.source, l.data) }
    else state
  | .remove ga => { state with map := state.map.remove ga }
  | .clear => { state with map := .empty }
  | .start | .driverStart => { state with enabled := true }
  | .stop => { enabled := false, map := .empty }
  | .driverStop => { state with enabled := false }
  | .read _ _ _ _ | .lastUpdates _ | .lastUpdates2 _ | .timeout _ | .remtrigger => state

def find (state : Bounded bound) (addr : Addr) : Option Value :=
  if state.enabled then state.map.find addr else none

end Bounded

/-- The cache in terms of a ranking of all the addresses updated since it was cleared. -/
structure Ranked where
  enabled : Bool := false
  ranking : Ranking Addr Value := []

namespace Ranked

def step (state : Ranked) : Event → Ranked
  | .sendLData l _ =>
    if state.enabled ∧ isUpdate l.data then
      { state with ranking := Ranking.update state.ranking l.dest (l.source, l.data) }
    else state
  | .remove ga => { state with ranking := Ranking.remove state.ranking ga }
  | .clear => { state with ranking := [] }
  | .start | .driverStart => { state with enabled := true }
  | .stop => { enabled := false, ranking := [] }
  | .driverStop => { state with enabled := false }
  | .read _ _ _ _ | .lastUpdates _ | .lastUpdates2 _ | .timeout _ | .remtrigger => state

def find (bound : ℕ) (state : Ranked) (addr : Addr) : Option Value :=
  if state.enabled then Ranking.find bound state.ranking addr else none

end Ranked

/-- The source and the data that `Read` finds, if the age does not matter. -/
def found (gc : GroupCache) (addr : Addr) (now : ℕ) : Option Value :=
  if gc.enable then (gc.lookup addr 0 now).map fun c => (c.src, c.data) else none

/-- No update is numbered 0 again, and none drops a live entry in place of a leftover. -/
def DropsOldest (gc : GroupCache) : Event → Prop
  | .sendLData l _ => gc.enable → isUpdate l.data →
      gc.seq + 1 < 2 ^ 32 ∧ (gc.cache l.dest = none → OldestFits gc)
  | _ => True

instance (gc : GroupCache) : (event : Event) → Decidable (DropsOldest gc event)
  | .sendLData _ _ => inferInstanceAs (Decidable (_ → _ → _ ∧ (_ → _)))
  | .remove _ | .clear | .start | .stop | .driverStart | .driverStop | .read _ _ _ _
  | .lastUpdates _ | .lastUpdates2 _ | .timeout _ | .remtrigger => inferInstanceAs (Decidable True)

/-- The bounded map has the entries of the cache, in the order of `cache_seq`. -/
structure Refines {bound : ℕ} (gc : GroupCache) (state : Bounded bound) : Prop where
  indexed : Indexed gc
  maxsize : gc.maxsize = bound
  enable : state.enabled = gc.enable
  entries : state.map.entries = view gc.cache gc.cacheSeq

section Refinement

variable {bound : ℕ} {gc next : GroupCache} {state : Bounded bound}

section

variable (hrefines : Refines gc state)
include hrefines

theorem Refines.congr (hsame : SameStore gc next) : Refines next state where
  indexed := hrefines.indexed.congr hsame
  maxsize := hsame.maxsize.trans hrefines.maxsize
  enable := hrefines.enable.trans hsame.enable.symm
  entries := by rw [hrefines.entries, hsame.cache, hsame.cacheSeq]

theorem Refines.remove (ga : Addr) :
    Refines (gc.remove ga) { state with map := state.map.remove ga } := by
  have hfields : (gc.remove ga).maxsize = gc.maxsize ∧ (gc.remove ga).enable = gc.enable := by
    unfold GroupCache.remove
    split <;> exact ⟨rfl, rfl⟩
  refine ⟨hrefines.indexed.remove ga, hfields.1.trans hrefines.maxsize,
    hrefines.enable.trans hfields.2.symm, ?_⟩
  rw [view_remove hrefines.indexed, ← hrefines.entries]
  rfl

/-- Leftovers of a cleared cache stand for nothing. -/
theorem Refines.clear : Refines gc.clear ({ state with map := .empty } : Bounded bound) := by
  have hnone : ∀ entry, live gc.clear.cache entry = none := fun _ => rfl
  refine ⟨⟨hrefines.indexed.sorted, hrefines.indexed.le_seq, fun addr c hc => ?_, ?_,
    hrefines.indexed.length_le⟩, hrefines.maxsize, hrefines.enable, ?_⟩
  · cases hc
  · exact pairwise_of_forall fun first second hlive => absurd hlive (by simp [hnone])
  · exact (filterMap_eq_nil_iff.2 fun entry _ => hnone entry).symm

/-- An update of an address that is not in the cache, or not any more. -/
theorem Refines.enter {base : GroupCache}
    (hindexed : Indexed base) (hseq : base.seq + 1 < 2 ^ 32) (hnew : base.cache l.dest = none)
    (hroom : base.cacheSeq.length < base.maxsize) (hmaxsize : base.maxsize = gc.maxsize)
    (henable : base.enable = gc.enable)
    (hview : (state.map.update l.dest (l.source, l.data)).entries =
      (l.dest, l.source, l.data) :: view base.cache base.cacheSeq)
    (entry : GroupCacheEntry) (now : ℕ) :
    Refines (base.enter entry l now)
      { state with map := state.map.update l.dest (l.source, l.data) } := by
  obtain ⟨hnext, hentries⟩ := hindexed.enter hseq hnew hroom entry now
  exact ⟨hnext, hmaxsize.trans hrefines.maxsize, hrefines.enable.trans henable.symm,
    hview.trans hentries.symm⟩

theorem Refines.sendLData (hsize : 1 ≤ bound) {now : ℕ}
    (hdrops : DropsOldest gc (.sendLData l now)) (hsend : gc.sendLData l now = .ok next) :
    Refines next (state.step (.sendLData l now)) := by
  have hindexed := hrefines.indexed
  rw [Bounded.step]
  obtain ⟨hnot, rfl⟩ | ⟨hupdate, hnew, cache, cacheSeq, hevict, rfl⟩ | ⟨hupdate, c, hc, rfl⟩ :=
    sendLData_cases hsend
  · rw [if_neg (hrefines.enable ▸ hnot)]
    exact hrefines
  · rw [if_pos (hrefines.enable ▸ hupdate)]
    obtain ⟨hseq, hfits⟩ := hdrops hupdate.1 hupdate.2
    obtain ⟨_, _, hagain, hevicted, hroom, hstill, htake⟩ :=
      exists_evict hindexed (hrefines.maxsize.symm ▸ hsize) (hfits hnew) hnew
    obtain ⟨rfl, rfl⟩ := Prod.mk.inj (Except.ok.inj (hevict.symm.trans hagain))
    refine hrefines.enter hevicted hseq hstill hroom rfl rfl ?_ _ now
    have hremove : (state.map.remove l.dest).entries = view gc.cache gc.cacheSeq := by
      have hsame : gc.remove l.dest = gc := by
        rw [GroupCache.remove]
        simp only [hnew]
      rw [← (hrefines.remove l.dest).entries.symm, hsame]
    rw [RecentMap.entries_update, hremove, ← hrefines.maxsize]
    exact htake _
  · rw [if_pos (hrefines.enable ▸ hupdate)]
    obtain ⟨hseq, -⟩ := hdrops hupdate.1 hupdate.2
    have hremoved := hrefines.remove l.dest
    have hgone : (gc.remove l.dest).cache l.dest = none ∧ (gc.remove l.dest).seq = gc.seq ∧
        (gc.remove l.dest).maxsize = gc.maxsize ∧ (gc.remove l.dest).enable = gc.enable := by
      rw [GroupCache.remove]
      simp only [hc, update_self, and_self]
    obtain ⟨hnone, hsame, hmaxsize, henable⟩ := hgone
    have hroom := length_remove_lt hindexed hc
    refine hrefines.enter hremoved.indexed (hsame.symm ▸ hseq) hnone (hmaxsize.symm ▸ hroom)
      hmaxsize henable ?_ c now
    rw [← hremoved.entries]
    apply take_of_length_le
    rw [length_cons, hremoved.entries, ← hrefines.maxsize]
    exact (succ_le_succ (length_view_le _ _)).trans hroom

theorem Refines.step (hsize : 1 ≤ bound) {event : Event}
    (hdrops : DropsOldest gc event) (hstep : step gc event = some next) :
    Refines next (state.step event) := by
  cases event with
  | sendLData => exact hrefines.sendLData hsize hdrops (toOption_eq_some_iff.1 hstep)
  | remove ga =>
    cases hstep
    exact hrefines.remove ga
  | clear =>
    cases hstep
    exact hrefines.clear
  | start | driverStart | driverStop =>
    cases hstep
    exact ⟨{ hrefines.indexed with }, hrefines.maxsize, rfl, hrefines.entries⟩
  | stop =>
    cases hstep
    have hclear := hrefines.clear
    exact ⟨{ hclear.indexed with }, hclear.maxsize, rfl, hclear.entries⟩
  | _ => exact hrefines.congr (sameStore_of_step rfl hstep)

end

theorem refines_initial (bound : ℕ) : Refines { maxsize := bound } ({} : Bounded bound) where
  indexed := ⟨.nil, by simp, by simp, .nil, zero_le _⟩
  maxsize := rfl
  enable := rfl
  entries := rfl

/-- A value in the view is what the cache has for its address. -/
theorem mem_view_iff (hindexed : Indexed gc) {value : Value} :
    (addr, value) ∈ view gc.cache gc.cacheSeq ↔
      (gc.cache addr).map (fun c => (c.src, c.data)) = some value := by
  rw [view, mem_filterMap, map_eq_some_iff]
  constructor
  · rintro ⟨_, -, hlive⟩
    obtain ⟨c, hc, -, heq⟩ := live_eq_some_iff.1 hlive
    obtain ⟨rfl, rfl⟩ := Prod.mk.inj heq
    exact ⟨c, hc, rfl⟩
  · rintro ⟨c, hc, rfl⟩
    exact ⟨(c.seq, addr), mem_reverse.2 (hindexed.indexed addr c hc),
      live_eq_some_iff.2 ⟨c, hc, rfl, rfl⟩⟩

/-- Both find the same. -/
theorem Refines.found_eq (hrefines : Refines gc state) (addr : Addr) (now : ℕ) :
    found gc addr now = state.find addr := by
  rw [found, Bounded.find, hrefines.enable]
  split
  · have hlookup : gc.lookup addr 0 now = gc.cache addr := by
      cases hcache : gc.cache addr <;> simp [GroupCache.lookup, hcache]
    rw [hlookup]
    ext value
    rw [← mem_view_iff hrefines.indexed, ← hrefines.entries]
    exact RecentMap.find_eq_some_iff.symm
  · rfl

end Refinement

/-- A run of the cache, next to the same events for the bounded map. -/
theorem refines_of_run {bound : ℕ} (hsize : 1 ≤ bound) {gc after : GroupCache}
    {state : Bounded bound} {events : List Event} (hrefines : Refines gc state)
    (hrun : runAllowed step DropsOldest gc events = some after) :
    Refines after (events.foldl Bounded.step state) := by
  induction events generalizing gc state with
  | nil =>
    obtain rfl : gc = after := by simpa [runAllowed] using hrun
    exact hrefines
  | cons _ _ ih =>
    rw [runAllowed] at hrun
    obtain ⟨hdrops, hrest⟩ := ite_none_right_eq_some.1 hrun
    obtain ⟨_, hstep, hrest⟩ := bind_eq_some_iff.1 hrest
    exact ih (hrefines.step hsize hdrops hstep) hrest

/-- Without `remove`, the bounded map has the first ones of the ranking. -/
theorem heads_of_foldl {bound : ℕ} {state : Bounded bound} {ranked : Ranked}
    (henabled : ranked.enabled = state.enabled) (hheads : Heads state.map ranked.ranking)
    {events : List Event} (hremove : ∀ ga, .remove ga ∉ events) (addr : Addr) :
    (events.foldl Bounded.step state).find addr =
      (events.foldl Ranked.step ranked).find bound addr := by
  induction events generalizing state ranked with
  | nil => rw [foldl_nil, foldl_nil, Bounded.find, Ranked.find, henabled, hheads.find]
  | cons event events ih =>
    have hrest : ∀ ga, .remove ga ∉ events := fun ga hmem => hremove ga (mem_cons_of_mem event hmem)
    rw [foldl_cons, foldl_cons]
    cases event with
    | sendLData l =>
      rw [Bounded.step, Ranked.step, henabled]
      split
      · exact ih rfl (hheads.update l.dest (l.source, l.data)) hrest
      · exact ih henabled hheads hrest
    | remove ga => exact absurd mem_cons_self (hremove ga)
    | clear => exact ih henabled heads_empty hrest
    | start | driverStart | driverStop => exact ih rfl hheads hrest
    | stop => exact ih rfl heads_empty hrest
    | read | lastUpdates | lastUpdates2 | timeout | remtrigger => exact ih henabled hheads hrest

/-- The cache finds what the bounded map has, after every sequence of events in which
no update drops a live entry in place of a leftover; and as long as nothing is removed,
these are the addresses updated last. -/
theorem cache_refines_recentMap {bound : ℕ} (hsize : 1 ≤ bound) {events : List Event}
    {gc : GroupCache} (hrun : runAllowed step DropsOldest { maxsize := bound } events = some gc)
    (addr : Addr) (now : ℕ) :
    found gc addr now = (events.foldl Bounded.step ({} : Bounded bound)).find addr ∧
      ((∀ ga, .remove ga ∉ events) →
        found gc addr now = (events.foldl Ranked.step {}).find bound addr) := by
  have hrefines := refines_of_run hsize (refines_initial bound) hrun
  have hfound := hrefines.found_eq addr now
  refine ⟨hfound, fun hremove => hfound.trans ?_⟩
  exact heads_of_foldl rfl heads_empty hremove addr

/-- A write to a group address. -/
def write (dest : Addr) (value : Byte) : Event :=
  .sendLData { addrType := .groupAddress, source := 0x1101, dest, data := [0x00, 0x80, value] } 0

/-- A full cache of two forgets the address whose update is the oldest. -/
theorem cache_refines_recentMap_two : ∃ gc, runAllowed step DropsOldest { maxsize := 2 }
      [.driverStart, write 1 10, write 2 20, write 1 11, write 3 30] = some gc ∧
    found gc 1 0 = some (0x1101, [0x00, 0x80, 11]) ∧ found gc 2 0 = none := by
  refine exists_state (D := fun _ => True) (by decide +kernel) fun gc hrun _ => ⟨?_, ?_⟩
  · rw [(cache_refines_recentMap (by decide) hrun 1 0).1]
    decide +kernel
  · rw [(cache_refines_recentMap (by decide) hrun 2 0).1]
    decide +kernel

/-- After a removal the cache has room: an address that is not among the two updated
last is still found. -/
theorem removal_makes_room : ∃ gc, run step { maxsize := 2 }
      [.driverStart, write 1 10, write 2 20, .remove 2, write 3 30] = some gc ∧
    found gc 1 0 = some (0x1101, [0x00, 0x80, 10]) ∧
    ([Event.driverStart, write 1 10, write 2 20, .remove 2, write 3 30].foldl Ranked.step {}).find
      2 1 = none := by
  decide +kernel

/-- What `Clear` leaves behind takes a live entry with it. -/
example : ((run step { maxsize := 2 }
    [.driverStart, write 1 10, write 2 20, .clear, write 2 21, write 3 30]).map fun gc =>
      found gc 2 0) = some none := by
  decide +kernel

/-! ## The end of the loop -/

/-- A size of 0 is never reached: the loop goes on at the empty map. -/
theorem evict_zero (cache : Addr → Option GroupCacheEntry) (cacheSeq : List (ℕ × Addr)) :
    evict 0 cache cacheSeq = .error .outOfBounds := by
  induction cacheSeq generalizing cache with
  | nil => rfl
  | cons _ _ ih => rw [evict, if_pos (zero_le _), ih]

theorem returns_evict {maxsize : ℕ} (hsize : maxsize ≠ 0) (cache : Addr → Option GroupCacheEntry)
    (cacheSeq : List (ℕ × Addr)) : Returns (evict maxsize cache cacheSeq) := by
  induction cacheSeq generalizing cache with
  | nil =>
    rw [evict, if_neg hsize]
    exact returns_ok _
  | cons _ _ ih =>
    rw [evict]
    split
    · exact ih _
    · exact returns_ok _

/-- The configured size is cut to 16 bits. -/
theorem maxsize_setup_eq_zero (maxSize : ℤ) : (setup maxSize).maxsize = 0 ↔ 65536 ∣ maxSize := by
  have hcut : (BitVec.ofInt 16 maxSize).toNat = (maxSize % 65536).toNat := by simp
  rw [setup, hcut, Int.toNat_eq_zero, Int.dvd_iff_emod_eq_zero]
  have hpos := Int.emod_nonneg maxSize (show (65536 : ℤ) ≠ 0 by decide)
  omega

/-- Whatever size is configured and whatever the cache holds, a telegram is treated to the end,
unless the size is a multiple of 65536 and the telegram updates an address that is not in the
cache. -/
theorem eviction_terminates_iff (maxSize : ℤ) (gc : GroupCache) (l : LDataPDU) (now : ℕ) :
    Returns ({ gc with maxsize := (setup maxSize).maxsize }.sendLData l now) ↔
      ¬ (65536 ∣ maxSize ∧ gc.enable ∧ isUpdate l.data ∧ gc.cache l.dest = none) := by
  rw [← maxsize_setup_eq_zero]
  generalize (setup maxSize).maxsize = maxsize
  unfold sendLData
  split
  · next hupdate =>
    obtain ⟨henable, hupdate⟩ : gc.enable ∧ isUpdate l.data := hupdate
    cases hcache : gc.cache l.dest with
    | some => simp
    | none =>
      by_cases hsize : maxsize = 0
      · simp [hsize, henable, hupdate, evict_zero]
      · obtain ⟨_, hvalue⟩ := returns_evict hsize gc.cache gc.cacheSeq
        simp [hsize, hvalue]
  · next hquiet =>
    refine iff_of_true (returns_ok _) fun hupdate => ?_
    exact hquiet ⟨hupdate.2.1, hupdate.2.2.1⟩

/-- With a size of 65536 the first update takes the first element of an empty map. -/
theorem eviction_of_empty_index : ∃ gc, run step (setup 65536) [.driverStart] = some gc ∧
    gc.cacheSeq = [] ∧ gc.sendLData { dest := 1, data := [0x00, 0x80] } 0 = .error .outOfBounds :=
  ⟨_, rfl, rfl, rfl⟩

end Knxd.Eviction
