import Knxd.Cache.GroupCache

/-!
# The updates of the cache and their numbers

The addresses that were ever updated are recorded, the latest first, so that the number of
an update is its place in this record.  The cache itself keeps an index of the last update of
each address only, under the same numbers.  As long as nothing is cleared and the numbers do
not start again, the index has exactly the addresses that the cache has.
-/

namespace Knxd.History

open Memory LPDU Recency Cache List Function Nat Option

def updates (gc : GroupCache) : Event → List Addr
  | .sendLData l _ => if gc.enable ∧ isUpdate l.data then [l.dest] else []
  | _ => []

def lastUpdate (addr : Addr) : List Addr → Option ℕ
  | [] => none
  | last :: history => if last = addr then some (history.length + 1) else lastUpdate addr history

/-- The addresses of the cache whose last update has at least some number, newest first and
without repetition. -/
structure Lists (history : List Addr) (gc : GroupCache) (start : ℕ) (addrs : List Addr) :
    Prop where
  mem_iff : ∀ addr, addr ∈ addrs ↔
    gc.cache addr ≠ none ∧ ∃ number ∈ lastUpdate addr history, start ≤ number
  newest : addrs.Pairwise fun addr older =>
    ∃ number ∈ lastUpdate addr history, ∃ former ∈ lastUpdate older history, former < number
  nodup : addrs.Nodup

theorem mem_lastUpdate {addr : Addr} {history : List Addr} {number : ℕ}
    (hlast : lastUpdate addr history = some number) : 1 ≤ number ∧ number ≤ history.length := by
  induction history with
  | nil => cases hlast
  | cons _ _ ih =>
    rw [lastUpdate] at hlast
    split at hlast
    · cases hlast
      exact ⟨le_add_left 1 _, le_rfl⟩
    · obtain ⟨hpos, hle⟩ := ih hlast
      exact ⟨hpos, hle.trans (le_succ _)⟩

/-- The loop of the handler lists the part of the index from the start on. -/
theorem collect_eq {start : ℕ} {entries : List (ℕ × Addr)}
    (hsorted : entries.Pairwise fun newer older => older.1 < newer.1) :
    Reader.collect start entries = (entries.filter fun entry => start ≤ entry.1).map Prod.snd := by
  induction entries with
  | nil => rfl
  | cons entry rest ih =>
    obtain ⟨seq, _⟩ := entry
    obtain ⟨holder, hrest⟩ := pairwise_cons.1 hsorted
    have hnone : seq ≤ start → rest.filter (fun entry => start ≤ entry.1) = [] := by
      intro hle
      apply filter_eq_nil_iff.2
      intro entry hentry
      rw [decide_eq_true_iff, not_le]
      exact (holder entry hentry).trans_le hle
    rw [Reader.collect]
    by_cases hlt : seq < start
    · rw [if_pos hlt, filter_cons_of_neg (by simpa using hlt), hnone hlt.le, map_nil]
    rw [if_neg hlt, filter_cons_of_pos (by simpa using hlt), map_cons]
    congr 1
    by_cases heq : seq = start
    · rw [if_pos heq, hnone heq.le, map_nil]
    · rw [if_neg heq, ih hrest]

/-- The index has the last update of each address that the cache has. -/
structure Dated (history : List Addr) (gc : GroupCache) : Prop where
  sorted : gc.cacheSeq.Pairwise fun older newer => older.1 < newer.1
  mem_iff : ∀ seq addr, (seq, addr) ∈ gc.cacheSeq ↔ ∃ c, gc.cache addr = some c ∧ c.seq = seq
  dated : ∀ addr c, gc.cache addr = some c → lastUpdate addr history = some c.seq
  seq : gc.seq = history.length

section Index

variable {gc next : GroupCache} {history : List Addr}

section

variable (hdated : Dated history gc)
include hdated

theorem Dated.congr (hcache : next.cache = gc.cache)
    (hcacheSeq : next.cacheSeq = gc.cacheSeq) (hseq : next.seq = gc.seq) : Dated history next where
  sorted := hcacheSeq ▸ hdated.sorted
  mem_iff := by
    rw [hcache, hcacheSeq]
    exact hdated.mem_iff
  dated := by
    rw [hcache]
    exact hdated.dated
  seq := hseq.trans hdated.seq

/-- Two addresses do not share a number. -/
theorem Dated.addr_eq {addr other : Addr} {c d : GroupCacheEntry}
    (hc : gc.cache addr = some c) (hd : gc.cache other = some d) (hseq : c.seq = d.seq) :
    addr = other := by
  have hnodup : (gc.cacheSeq.map Prod.fst).Nodup := pairwise_map.2 (hdated.sorted.imp ne_of_lt)
  have hfirst := (hdated.mem_iff c.seq addr).2 ⟨c, hc, rfl⟩
  have hsecond := (hdated.mem_iff c.seq other).2 ⟨d, hd, hseq.symm⟩
  exact congrArg Prod.snd (inj_on_of_nodup_map hnodup hfirst hsecond rfl)

theorem Dated.remove (ga : Addr) : Dated history (gc.remove ga) := by
  unfold GroupCache.remove
  split
  · exact hdated
  next f hf =>
  have hother : ∀ addr c, update gc.cache ga none addr = some c ↔
      addr ≠ ga ∧ gc.cache addr = some c := by
    intro addr c
    by_cases haddr : addr = ga
    · simp [haddr]
    · simp [haddr]
  refine ⟨hdated.sorted.sublist filter_sublist, fun seq addr => ?_, fun addr c hc => ?_, hdated.seq⟩
  · rw [erase, mem_filter, hdated.mem_iff, decide_eq_true_iff]
    dsimp only
    simp only [hother]
    constructor
    · rintro ⟨⟨c, hc, rfl⟩, hne⟩
      refine ⟨c, ⟨?_, hc⟩, rfl⟩
      rintro rfl
      rw [hf, some.injEq] at hc
      exact hne (congrArg GroupCacheEntry.seq hc.symm)
    · rintro ⟨c, ⟨hne, hc⟩, rfl⟩
      exact ⟨⟨c, hc, rfl⟩, fun hseq => hne (hdated.addr_eq hc hf hseq)⟩
  · exact hdated.dated addr c ((hother addr c).1 hc).2

/-- What makes room is a `remove` of the oldest address, again and again. -/
theorem Dated.evict {cache : Addr → Option GroupCacheEntry} {cacheSeq : List (ℕ × Addr)}
    (hevict : evict gc.maxsize gc.cache gc.cacheSeq = .ok (cache, cacheSeq)) :
    Dated history { gc with cache, cacheSeq } := by
  generalize hentries : gc.cacheSeq = entries at hevict
  induction entries generalizing gc with
  | nil =>
    rw [Cache.evict] at hevict
    split at hevict
    · cases hevict
    · cases hevict
      exact hdated.congr rfl hentries.symm rfl
  | cons front rest ih =>
    obtain ⟨seq, addr⟩ := front
    rw [Cache.evict] at hevict
    split at hevict
    · obtain ⟨c, hc, hseq⟩ := (hdated.mem_iff seq addr).1 (hentries ▸ mem_cons_self)
      have hsorted := hdated.sorted
      rw [hentries, pairwise_cons] at hsorted
      have hrest : erase c.seq gc.cacheSeq = rest := by
        rw [hentries, hseq, erase, filter_cons_of_neg (by simp), filter_eq_self]
        intro entry hentry
        rw [decide_eq_true_iff]
        exact (hsorted.1 entry hentry).ne'
      have hremove : gc.remove addr =
          { gc with cache := update gc.cache addr none, cacheSeq := rest } := by
        simp only [GroupCache.remove, hc, hrest]
      have hremoved := hdated.remove addr
      rw [hremove] at hremoved
      have hdone := ih hremoved rfl hevict
      exact hdone
    · cases hevict
      exact hdated.congr rfl hentries.symm rfl

theorem Dated.le_length {entry : ℕ × Addr}
    (hentry : entry ∈ gc.cacheSeq) : entry.1 ≤ history.length := by
  obtain ⟨c, hc, hseq⟩ := (hdated.mem_iff entry.1 entry.2).1 hentry
  rw [← hseq]
  exact (mem_lastUpdate (hdated.dated entry.2 c hc)).2

/-- The store that `enter` makes. -/
theorem store_enter (hcount : history.length + 1 < 2 ^ 32)
    (entry : GroupCacheEntry) (l : LDataPDU) (now : ℕ) :
    (∃ c, c.seq = history.length + 1 ∧
      (gc.enter entry l now).cache = Function.update gc.cache l.dest (some c)) ∧
    (gc.enter entry l now).cacheSeq = gc.cacheSeq ++ [(history.length + 1, l.dest)] ∧
    (gc.enter entry l now).seq = history.length + 1 := by
  have hnumber : (gc.seq + 1) % 2 ^ 32 = history.length + 1 := by
    rw [hdated.seq, mod_eq_of_lt hcount]
  refine ⟨⟨_, hnumber, rfl⟩, ?_, hnumber⟩
  change emplace ((gc.seq + 1) % 2 ^ 32) l.dest gc.cacheSeq = _
  rw [hnumber]
  exact emplace_of_forall_lt l.dest fun other hother =>
    lt_succ_of_le (hdated.le_length hother)

/-- A new entry is the last one of the index. -/
theorem Dated.enter {l : LDataPDU} (hnew : gc.cache l.dest = none)
    (hcount : history.length + 1 < 2 ^ 32) (entry : GroupCacheEntry) (now : ℕ) :
    Dated (l.dest :: history) (gc.enter entry l now) := by
  obtain ⟨⟨d, hd, hcache⟩, hcacheSeq, hseq⟩ := store_enter hdated hcount entry l now
  have hfind : ∀ addr c, (gc.enter entry l now).cache addr = some c ↔
      addr = l.dest ∧ c = d ∨ gc.cache addr = some c := by
    intro addr c
    rw [hcache]
    by_cases haddr : addr = l.dest
    · simp [haddr, hnew, eq_comm]
    · simp [haddr]
  refine ⟨?_, fun seq addr => ?_, fun addr c hc => ?_, hseq⟩
  · rw [hcacheSeq]
    refine pairwise_append.2 ⟨hdated.sorted, pairwise_singleton _ _, ?_⟩
    intro other hother last hlast
    rw [mem_singleton.1 hlast]
    exact lt_succ_of_le (hdated.le_length hother)
  · rw [hcacheSeq, mem_append, mem_singleton, hdated.mem_iff, Prod.mk.injEq]
    simp only [hfind]
    constructor
    · rintro (⟨c, hc, rfl⟩ | ⟨rfl, rfl⟩)
      · exact ⟨c, .inr hc, rfl⟩
      · exact ⟨d, .inl ⟨rfl, rfl⟩, hd⟩
    · rintro ⟨c, ⟨rfl, rfl⟩ | hc, rfl⟩
      · exact .inr ⟨hd, rfl⟩
      · exact .inl ⟨c, hc, rfl⟩
  · obtain ⟨rfl, rfl⟩ | hc := (hfind addr c).1 hc
    · rw [lastUpdate, if_pos rfl, hd]
    · have hne : l.dest ≠ addr := by
        rintro rfl
        cases hnew.symm.trans hc
      rw [lastUpdate, if_neg hne]
      exact hdated.dated addr c hc

end

/-- An event without `Clear` and `Stop`. -/
def spares : Event → Bool
  | .clear | .stop => false
  | _ => true

theorem Dated.step (hdated : Dated history gc) {event : Event} (hspares : spares event)
    (hcount : (updates gc event ++ history).length < 2 ^ 32)
    (hstep : step gc event = some next) : Dated (updates gc event ++ history) next := by
  cases event with
  | sendLData l now =>
    rw [updates] at hcount ⊢
    obtain ⟨hnot, rfl⟩ | ⟨hupdate, hnew, cache, cacheSeq, hevict, rfl⟩ | ⟨hupdate, c, hc, rfl⟩ :=
      sendLData_cases (toOption_eq_some_iff.1 hstep)
    · rw [if_neg hnot]
      exact hdated
    · rw [if_pos hupdate] at hcount ⊢
      refine (hdated.evict hevict).enter ?_ hcount _ now
      exact eq_none_iff_forall_ne_some.2 fun c hc =>
        nomatch hnew.symm.trans (cache_of_evict hevict hc)
    · rw [if_pos hupdate] at hcount ⊢
      refine (hdated.remove l.dest).enter ?_ hcount c now
      simp only [GroupCache.remove, hc, update_self]
  | remove ga =>
    cases hstep
    exact hdated.remove ga
  | clear | stop => cases hspares
  | start | driverStart | driverStop =>
    cases hstep
    exact hdated.congr rfl rfl rfl
  | _ =>
    have hsame := sameStore_of_step rfl hstep
    exact hdated.congr hsame.cache hsame.cacheSeq hsame.seq

/-- The number of the last update of an address does not decrease. -/
theorem lastUpdate_mono {addr : Addr} {event : Event} {number : ℕ}
    (hlast : lastUpdate addr history = some number) :
    ∃ later ∈ lastUpdate addr (updates gc event ++ history), number ≤ later := by
  have hcons : ∀ other, ∃ later ∈ lastUpdate addr (other :: history), number ≤ later := by
    intro other
    rw [lastUpdate]
    split
    · exact ⟨_, rfl, (mem_lastUpdate hlast).2.trans (le_succ _)⟩
    · exact ⟨number, hlast, le_rfl⟩
  cases event with
  | sendLData l =>
    rw [updates]
    split
    · exact hcons l.dest
    · exact ⟨number, hlast, le_rfl⟩
  | _ => exact ⟨number, hlast, le_rfl⟩

/-- An update leaves an entry for its address. -/
theorem cache_of_update {l : LDataPDU} {now : ℕ} (hupdate : gc.enable ∧ isUpdate l.data)
    (hstep : step gc (.sendLData l now) = some next) : next.cache l.dest ≠ none := by
  have henter : ∀ base : GroupCache, ∀ entry, (base.enter entry l now).cache l.dest ≠ none := by
    intro base entry hnone
    cases (update_self l.dest _ base.cache).symm.trans hnone
  obtain ⟨hnot, -⟩ | ⟨-, -, cache, _, -, rfl⟩ | ⟨-, c, -, rfl⟩ :=
    sendLData_cases (toOption_eq_some_iff.1 hstep)
  · exact absurd hupdate hnot
  · exact henter _ _
  · exact henter _ _

/-- The index lists what was asked for. -/
theorem Dated.lists (hdated : Dated history gc) (start : ℕ) :
    Lists history gc start (Reader.collect start gc.cacheSeq.reverse) := by
  have hsorted : gc.cacheSeq.reverse.Pairwise fun newer older => older.1 < newer.1 :=
    pairwise_reverse.2 hdated.sorted
  have hnumber : ∀ entry ∈ gc.cacheSeq, entry.1 ∈ lastUpdate entry.2 history := by
    intro entry hentry
    obtain ⟨c, hc, hseq⟩ := (hdated.mem_iff entry.1 entry.2).1 hentry
    exact hseq ▸ hdated.dated entry.2 c hc
  have hnewest : (Reader.collect start gc.cacheSeq.reverse).Pairwise fun addr older =>
      ∃ number ∈ lastUpdate addr history, ∃ former ∈ lastUpdate older history, former < number := by
    rw [collect_eq hsorted, pairwise_map]
    refine (hsorted.sublist filter_sublist).imp_of_mem ?_
    intro entry other hentry hother hlt
    have hmem := mem_reverse.1 (mem_filter.1 hentry).1
    have hless := mem_reverse.1 (mem_filter.1 hother).1
    exact ⟨_, hnumber entry hmem, _, hnumber other hless, hlt⟩
  refine ⟨fun addr => ?_, hnewest, hnewest.imp ?_⟩
  · rw [collect_eq hsorted, List.mem_map]
    constructor
    · rintro ⟨entry, hentry, rfl⟩
      obtain ⟨hmem, hstart⟩ := mem_filter.1 hentry
      have hmem := mem_reverse.1 hmem
      obtain ⟨c, hc, -⟩ := (hdated.mem_iff entry.1 entry.2).1 hmem
      refine ⟨fun hnone => ?_, entry.1, hnumber entry hmem, of_decide_eq_true hstart⟩
      cases hnone.symm.trans hc
    · rintro ⟨hcached, number, hlast, hstart⟩
      obtain ⟨c, hc⟩ := ne_none_iff_exists'.1 hcached
      have hseq := hdated.dated addr c hc
      rw [mem_def.1 hlast, some.injEq] at hseq
      refine ⟨(number, addr), mem_filter.2 ⟨mem_reverse.2 ?_, by simpa using hstart⟩, rfl⟩
      exact (hdated.mem_iff number addr).2 ⟨c, hc, hseq.symm⟩
  · rintro addr _ ⟨number, hlast, former, hformer, hlt⟩ rfl
    rw [mem_def.1 hlast, mem_def, some.injEq] at hformer
    exact hlt.ne hformer.symm

end Index

end Knxd.History
