import Knxd.Cache.LastUpdates

/-!
# Answers to reads

A read is answered at once if the cache has a value that is not too old, or if the client
does not want to wait.  Otherwise a reader is made, and the read is answered by the next
update of its address or by the reader's timer, whichever comes first.  The reader then
marks itself as stopped and ignores further updates and its own timer, until `remtrigger_cb`
deletes it.

`awaited` says what a read is to be answered, from the events that follow it alone.
-/

namespace Knxd.Reading

open Memory LPDU Recency Cache LastUpdates List Function Option Reader Nat
open Transition (Path run anyEvent path_of_run)

def reply (request : ℕ) : Output → Option GroupCacheEntry
  | .read other entry _ => if other = request then some entry else none
  | .last _ _ _ | .recvLData _ => none

def replies (gc : GroupCache) (request : ℕ) : List GroupCacheEntry :=
  gc.outputs.filterMap (reply request)

/-! ## What a read is to be answered -/

/-- What `Read` answers at once: what it finds, or an empty entry if the cache is off or the
client does not wait. -/
def atOnce (gc : GroupCache) (addr : Addr) (timeout age now : ℕ) : Option GroupCacheEntry :=
  if gc.enable then
    (gc.lookup addr age now).or (if timeout = 0 then some { dst := addr } else none)
  else some { dst := 0 }

def arrived (gc : GroupCache) (l : LDataPDU) (now : ℕ) : GroupCacheEntry :=
  { data := l.data, src := l.source, dst := l.dest, recvtime := now, seq := (gc.seq + 1) % 2 ^ 32 }

/-- The events that a reader waits for: an update of its address, or its own timer. -/
def decides (addr : Addr) (request : ℕ) (gc : GroupCache) : Event → Option GroupCacheEntry
  | .sendLData l now =>
    if gc.enable ∧ isUpdate l.data ∧ l.dest = addr then some (arrived gc l now) else none
  | .timeout other => if other = request then some { dst := addr } else none
  | _ => none

def awaited (addr : Addr) (request : ℕ) (gc : GroupCache) : List Event → Option GroupCacheEntry
  | [] => none
  | event :: events =>
    (decides addr request gc event).or
      ((step gc event).bind fun next => awaited addr request next events)

def deleted (request : ℕ) (gc : GroupCache) : Event → ℕ
  | .remtrigger => ((holders gc request).filter Reader.stopped).length
  | _ => 0

def deletions (request : ℕ) (gc : GroupCache) : List Event → ℕ
  | [] => 0
  | event :: events =>
    deleted request gc event +
      ((step gc event).map fun next => deletions request next events).getD 0

/-! ## What the events do to readers -/

/-- Every entry is kept under its own address. -/
def Keyed (gc : GroupCache) : Prop :=
  ∀ addr c, gc.cache addr = some c → c.dst = addr

def Sweeps (gc : GroupCache) : Prop :=
  ∀ r ∈ gc.reader, r.stopped = true → gc.remtrigger = true

variable {gc base next after : GroupCache} {event : Event} {addr : Addr}
variable {request removed timeout age now : ℕ} {result : Option GroupCacheEntry} {r : Reader}
variable {entry : GroupCacheEntry} {events : List Event}

/-- An update makes an entry for its address, with the number after the last one. -/
theorem arrival_eq (hkeyed : Keyed gc) (l : LDataPDU) (now : ℕ) :
    arrival gc l now = arrived gc l now := by
  have hdst : ((gc.cache l.dest).getD { dst := l.dest }).dst = l.dest := by
    cases hc : gc.cache l.dest with
    | none => rfl
    | some c => exact hkeyed l.dest c hc
  rw [arrival, hdst]
  rfl

theorem decides_of_idle (hidle : Idle gc event) (addr : Addr) (request : ℕ) :
    decides addr request gc event = none ∧ deleted request gc event = 0 := by
  cases event with
  | sendLData => exact ⟨if_neg fun hupdate => hidle ⟨hupdate.1, hupdate.2.1⟩, rfl⟩
  | timeout | remtrigger => cases hidle
  | _ => exact ⟨rfl, rfl⟩

theorem replies_eq (gc : GroupCache) (request : ℕ) :
    replies gc request = (calls gc request).filterMap (reply request) := by
  rw [replies, calls, filterMap_filter]
  apply filterMap_congr
  intro output _
  cases output with
  | read => simp [reply, addressee]
  | last | recvLData => simp [reply]

/-! ## What holds at any time -/

theorem Keyed.enter (hkeyed : Keyed base) {entry : GroupCacheEntry} {l : LDataPDU}
    (hdst : entry.dst = l.dest) (now : ℕ) : Keyed (base.enter entry l now) := by
  intro addr c hc
  change update base.cache l.dest _ addr = some c at hc
  by_cases haddr : addr = l.dest
  · rw [haddr, update_self, Option.some.injEq] at hc
    rw [haddr, ← hc]
    exact hdst
  · rw [update_of_ne haddr] at hc
    exact hkeyed addr c hc

theorem Keyed.remove (hkeyed : Keyed gc) (ga : Addr) : Keyed (gc.remove ga) := by
  unfold GroupCache.remove
  split
  · exact hkeyed
  · intro addr c hc
    change update gc.cache ga none addr = some c at hc
    by_cases haddr : addr = ga
    · rw [haddr, update_self] at hc
      cases hc
    · rw [update_of_ne haddr] at hc
      exact hkeyed addr c hc

theorem Keyed.step (hkeyed : Keyed gc) (hstep : step gc event = some next) : Keyed next := by
  cases event with
  | sendLData l now =>
    obtain ⟨-, rfl⟩ | ⟨-, -, cache, _, hevict, rfl⟩ | ⟨-, c, hc, rfl⟩ :=
      sendLData_cases (toOption_eq_some_iff.1 hstep)
    · exact hkeyed
    · refine Keyed.enter (fun addr c hc => ?_) rfl now
      exact hkeyed addr c (cache_of_evict hevict hc)
    · exact (hkeyed.remove l.dest).enter (hkeyed _ c hc) now
  | remove ga =>
    cases hstep
    exact hkeyed.remove ga
  | clear | stop =>
    cases hstep
    exact fun addr c hc => nomatch hc
  | start | driverStart | driverStop =>
    cases hstep
    exact hkeyed
  | _ =>
    intro addr c hc
    rw [(sameStore_of_step rfl hstep).cache] at hc
    exact hkeyed addr c hc

theorem Sweeps.step (hsweeps : Sweeps gc) (hstep : step gc event = some next) : Sweeps next := by
  cases effect_of_step hstep with
  | quiet _ hquiet =>
    intro r hr hstopped
    rw [hquiet.remtrigger]
    rw [hquiet.reader] at hr
    obtain hr | hr := mem_append.1 hr
    · exact hsweeps r hr hstopped
    · obtain ⟨-, _, rfl⟩ := hquiet.made r hr
      cases hstopped
  | updated _ htold => exact htold.sweeps
  | timeout => exact (told_timeout gc _).sweeps
  | swept =>
    intro r hr hstopped
    have hkept := (mem_filter.1 hr).2
    rw [hstopped] at hkept
    cases hkept

/-- What the reads rely on. -/
structure Ready (gc : GroupCache) : Prop where
  keyed : Keyed gc
  sweeps : Sweeps gc
  unused : Unused gc

theorem ready_initial (maxsize : ℕ) : Ready { maxsize } where
  keyed := nofun
  sweeps := nofun
  unused := fun _ _ => ⟨rfl, rfl⟩

theorem Ready.step (hready : Ready gc) (hstep : step gc event = some next) : Ready next :=
  ⟨hready.keyed.step hstep, hready.sweeps.step hstep, hready.unused.step hstep⟩

/-! ## The stages of a read -/

/-- The stages of a read that got a reader: what it was answered, and how often the reader
was deleted. -/
inductive Phase (addr : Addr) (gc : GroupCache) (request : ℕ) : Option GroupCacheEntry → ℕ → Prop
  | waiting {r : Reader} : holders gc request = [r] → r.kind = .reader addr →
      r.stopped = false → r.timeout = true → calls gc request = [] →
      Phase addr gc request none 0
  | answered {r : Reader} {entry : GroupCacheEntry} : holders gc request = [r] →
      r.kind = .reader addr → r.stopped = true → calls gc request = [.read request entry false] →
      Phase addr gc request (some entry) 0
  | gone {entry : GroupCacheEntry} : holders gc request = [] →
      calls gc request = [.read request entry false] → Phase addr gc request (some entry) 1

section

variable (hkind : r.kind = .reader addr)
include hkind

/-- A reader that waits takes the entry of its address. -/
theorem updated_waiting (hwaits : r.stopped = false)
    (cacheSeq : List (ℕ × Addr)) (seq : ℕ) (c : GroupCacheEntry) :
    r.updated cacheSeq seq c =
      if c.dst = addr then ({ r with stopped := true }, [.read r.request c false])
      else (r, []) := by
  simp only [updated, stop, hkind, hwaits, Bool.false_eq_true, false_or, ite_not]

theorem updated_stopped (hstopped : r.stopped = true)
    (cacheSeq : List (ℕ × Addr)) (seq : ℕ) (c : GroupCacheEntry) :
    r.updated cacheSeq seq c = (r, []) := by
  simp only [updated, hkind, hstopped, true_or, if_true]

theorem expired_waiting (hwaits : r.stopped = false)
    (htimeout : r.timeout = true) (gc : GroupCache) :
    expired gc r.request r = ({ r with timeout := false, stopped := true },
        [.read r.request { dst := addr } false]) := by
  simp only [expired, timeoutCb, stop, hkind, hwaits, htimeout, and_self, if_true,
    Bool.false_eq_true, if_false]

/-- The timer of a reader that was answered has no effect. -/
theorem expired_stopped (hstopped : r.stopped = true) (gc : GroupCache) (other : ℕ) :
    ((expired gc other r).1.kind = .reader addr ∧ (expired gc other r).1.stopped = true) ∧
      (expired gc other r).2 = [] := by
  unfold expired timeoutCb
  split
  · simp only [hkind, hstopped, and_self]
  · exact ⟨⟨hkind, hstopped⟩, rfl⟩

end

theorem reply_self (entry : GroupCacheEntry) (nowait : Bool) :
    [Output.read request entry nowait].filterMap (reply request) = [entry] :=
  filterMap_cons_some (if_pos rfl)

/-- A waiting reader is told something that it waits for. -/
theorem Phase.tell {tell : Reader → Reader × List Output} (hown : Own tell)
    (htold : Told gc tell next) (hholders : holders gc request = [r])
    (hkind : r.kind = .reader addr) (hcalls : calls gc request = []) {timeout : Bool}
    (hanswer : tell r = ({ r with timeout, stopped := true }, [.read r.request entry false])) :
    Phase addr next request (some entry) 0 := by
  obtain ⟨hheld, hafter⟩ := htold.one hown hholders
  rw [hanswer, (request_of_holders hholders).2, hcalls] at hafter
  rw [hanswer] at hheld
  exact .answered hheld hkind rfl hafter

/-- It is told something else. -/
theorem Phase.ignore {tell : Reader → Reader × List Output} (hown : Own tell)
    (htold : Told gc tell next) (hholders : holders gc request = [r])
    (hkind : r.kind = .reader addr) (hwaits : r.stopped = false) (htimeout : r.timeout = true)
    (hcalls : calls gc request = []) (hignores : tell r = (r, [])) :
    Phase addr next request none 0 := by
  obtain ⟨hheld, hafter⟩ := htold.one hown hholders
  rw [hignores] at hheld hafter
  exact .waiting hheld hkind hwaits htimeout (hafter.trans hcalls)

theorem Phase.step_waiting (hholders : holders gc request = [r]) (hkind : r.kind = .reader addr)
    (hwaits : r.stopped = false) (htimeout : r.timeout = true) (hcalls : calls gc request = [])
    (hmade : request < gc.requests) (hkeyed : Keyed gc) (heffect : Effect gc event next) :
    Phase addr next request (decides addr request gc event) (deleted request gc event) := by
  obtain ⟨-, hrequest⟩ := request_of_holders hholders
  cases heffect with
  | quiet hidle hquiet =>
    obtain ⟨hheld, hsame⟩ := hquiet.other (.inl hmade)
    obtain ⟨hdecides, hdeleted⟩ := decides_of_idle hidle addr request
    rw [hdecides, hdeleted]
    exact .waiting (hheld.trans hholders) hkind hwaits htimeout (hsame.trans hcalls)
  | @updated l now _ hupdate htold =>
    rw [arrival_eq hkeyed] at htold
    have htell := updated_waiting hkind hwaits next.cacheSeq next.seq (arrived gc l now)
    by_cases haddr : l.dest = addr
    · rw [decides, if_pos ⟨hupdate.1, hupdate.2, haddr⟩]
      rw [if_pos (show (arrived gc l now).dst = addr from haddr)] at htell
      exact .tell (own_updated _ _ _) htold hholders hkind hcalls htell
    · rw [decides, if_neg fun hboth => haddr hboth.2.2]
      rw [if_neg (show (arrived gc l now).dst ≠ addr from haddr)] at htell
      exact .ignore (own_updated _ _ _) htold hholders hkind hwaits htimeout hcalls htell
  | @timeout other =>
    by_cases hother : other = request
    · rw [decides, if_pos hother, hother, ← hrequest]
      exact .tell (own_expired _ _) (told_timeout gc r.request) (hrequest ▸ hholders) hkind
        (hrequest ▸ hcalls) (expired_waiting hkind hwaits htimeout gc)
    · rw [decides, if_neg hother]
      exact .ignore (own_expired _ _) (told_timeout gc other) hholders hkind hwaits htimeout hcalls
        (if_neg fun hfires => hother (hfires.1.symm.trans hrequest))
  | swept =>
    rw [deleted, hholders, filter_cons_of_neg (by simp [hwaits])]
    refine .waiting (r := r) ?_ hkind hwaits htimeout hcalls
    rw [holders_swept, hholders, filter_cons_of_pos (by simp [hwaits]), filter_nil]

theorem Phase.step_answered (hholders : holders gc request = [r]) (hkind : r.kind = .reader addr)
    (hstopped : r.stopped = true) (hcalls : calls gc request = [.read request entry false])
    (hmade : request < gc.requests) (heffect : Effect gc event next) :
    Phase addr next request (some entry) (deleted request gc event) := by
  cases heffect with
  | quiet hidle hquiet =>
    obtain ⟨hheld, hsame⟩ := hquiet.other (.inl hmade)
    rw [(decides_of_idle hidle addr request).2]
    exact .answered (hheld.trans hholders) hkind hstopped (hsame.trans hcalls)
  | updated _ htold =>
    obtain ⟨hheld, hafter⟩ := htold.one (own_updated _ _ _) hholders
    rw [updated_stopped hkind hstopped] at hheld hafter
    exact .answered hheld hkind hstopped (hafter.trans hcalls)
  | @timeout other =>
    obtain ⟨⟨hsame, hdone⟩, hsilent⟩ := expired_stopped hkind hstopped gc other
    obtain ⟨hheld, hafter⟩ := (told_timeout gc other).one (own_expired _ _) hholders
    rw [hsilent] at hafter
    exact .answered hheld hsame hdone (hafter.trans hcalls)
  | swept =>
    rw [deleted, hholders, filter_cons_of_pos hstopped]
    refine .gone ?_ hcalls
    rw [holders_swept, hholders, filter_cons_of_neg (by simp [hstopped]), filter_nil]

section

variable (hphase : Phase addr gc request result removed)
include hphase

/-- One step of a read that got a reader. -/
theorem Phase.step (hmade : request < gc.requests)
    (hkeyed : Keyed gc) (hstep : Cache.step gc event = some next) :
    Phase addr next request (result.or (decides addr request gc event))
      (removed + deleted request gc event) := by
  cases hphase with
  | waiting hholders hkind hwaits htimeout hcalls =>
    rw [none_or, zero_add]
    exact .step_waiting hholders hkind hwaits htimeout hcalls hmade hkeyed (effect_of_step hstep)
  | answered hholders hkind hstopped hcalls =>
    rw [some_or, zero_add]
    exact .step_answered hholders hkind hstopped hcalls hmade (effect_of_step hstep)
  | gone hholders hcalls =>
    obtain ⟨hnone, hsame⟩ := step_unheld hholders (.inl hmade) hstep
    have hdeleted : deleted request gc event = 0 := by
      cases event with
      | remtrigger => rw [deleted, hholders]; rfl
      | _ => rfl
    rw [some_or, hdeleted]
    exact .gone hnone (hsame.trans hcalls)

/-- A whole run: `awaited` and `deletions` follow the reader. -/
theorem Phase.run (hready : Ready gc)
    (hmade : request < gc.requests) (hrun : Transition.run Cache.step gc events = some after) :
    Phase addr after request (result.or (awaited addr request gc events))
      (removed + deletions request gc events) := by
  induction events generalizing gc result removed with
  | nil =>
    cases hrun
    rwa [awaited, or_none, deletions, add_zero]
  | cons _ _ ih =>
    obtain ⟨_, hstep, hrest⟩ := bind_eq_some_iff.1 hrun
    have hnext := hphase.step hmade hready.keyed hstep
    have hafter := ih hnext (hready.step hstep) (hmade.trans_le (requests_mono hstep)) hrest
    rw [Option.or_assoc, add_assoc] at hafter
    rwa [awaited, deletions, hstep]

/-- The reader is there until it is deleted. -/
theorem Phase.deletions_add_length : removed + (holders gc request).length = 1 := by
  cases hphase with
  | waiting hholders | answered hholders | gone hholders =>
    rw [hholders]
    rfl

theorem Phase.replies_eq : replies gc request = result.toList := by
  rw [Reading.replies_eq]
  cases hphase with
  | waiting _ _ _ _ hcalls => rw [hcalls]; rfl
  | answered _ _ _ hcalls | gone _ hcalls => rw [hcalls, reply_self]; rfl

end

/-- A reader that was not answered will be, by its timer. -/
theorem Phase.times_out (hphase : Phase addr gc request none removed) :
    ∃ next, Cache.step gc (.timeout request) = some next ∧
      replies next request = [{ dst := addr }] := by
  obtain @⟨r, hholders, hkind, hwaits, htimeout, hcalls⟩ := hphase
  obtain ⟨hmem, rfl⟩ := request_of_holders hholders
  refine ⟨gc.timeoutCb r.request, if_pos (any_eq_true.2 ⟨r, hmem, by simp [htimeout]⟩), ?_⟩
  exact (Phase.tell (own_expired _ _) (told_timeout gc r.request) hholders hkind hcalls
    (expired_waiting hkind hwaits htimeout gc)).replies_eq

/-- A reader that was answered will be deleted. -/
theorem Phase.swept (hphase : Phase addr gc request result removed) (hready : Ready gc)
    (hanswered : replies gc request ≠ []) (hheld : holders gc request ≠ []) :
    ∃ next, Cache.step gc .remtrigger = some next ∧ holders next request = [] := by
  cases hphase with
  | waiting _ _ _ _ hcalls => exact absurd (by rw [Reading.replies_eq, hcalls]; rfl) hanswered
  | gone hholders => exact absurd hholders hheld
  | @answered r _ hholders _ hstopped =>
    obtain ⟨hmem, -⟩ := request_of_holders hholders
    refine ⟨gc.remtriggerCb, if_pos (hready.sweeps r hmem hstopped), ?_⟩
    rw [holders_swept, hholders, filter_cons_of_neg (by simp [hstopped]), filter_nil]

/-- A read that cannot be answered at once gets a reader. -/
theorem phase_of_read (hready : Ready gc) (hwaits : atOnce gc addr timeout age now = none) :
    Phase addr (gc.read addr timeout age now) gc.requests none 0 ∧
      gc.requests < (gc.read addr timeout age now).requests := by
  unfold atOnce at hwaits
  split at hwaits
  case isFalse => cases hwaits
  next henable =>
  obtain ⟨hlookup, hwaits⟩ := or_eq_none_iff.1 hwaits
  have htimeout : timeout ≠ 0 := fun hzero => by simp [hzero] at hwaits
  have hread : gc.read addr timeout age now =
      { gc.add (.reader addr) with
        outputs := .recvLData { dest := addr, addrType := .groupAddress, data := [0, 0] } ::
          gc.outputs } := by
    simp only [GroupCache.read, henable, hlookup, htimeout, if_true, if_false]
  rw [hread]
  refine ⟨.waiting (hready.unused.holders_add _) rfl rfl rfl ?_, lt_succ_self _⟩
  exact (hready.unused gc.requests le_rfl).2

/-- The other reads are answered at once and get none. -/
theorem read_of_atOnce (hentry : atOnce gc addr timeout age now = some entry) :
    gc.read addr timeout age now = gc.answer fun request => .read request entry (timeout == 0) := by
  unfold atOnce at hentry
  unfold GroupCache.read
  split at hentry
  · next henable =>
    rw [if_pos henable]
    cases hlookup : gc.lookup addr age now with
    | some =>
      rw [hlookup, some_or, Option.some.injEq] at hentry
      rw [hentry]
    | none =>
      rw [hlookup, none_or] at hentry
      obtain ⟨htimeout, hempty⟩ := ite_none_right_eq_some.1 hentry
      rw [if_pos htimeout, ← Option.some.inj hempty, htimeout]
      rfl
  · next hoff => rw [if_neg hoff, ← Option.some.inj hentry]

theorem replies_of_atOnce (hready : Ready gc)
    (hentry : atOnce gc addr timeout age now = some entry) :
    holders (gc.read addr timeout age now) gc.requests = [] ∧
      replies (gc.read addr timeout age now) gc.requests = [entry] ∧
      gc.requests < (gc.read addr timeout age now).requests := by
  obtain ⟨hholders, hcalls⟩ := hready.unused gc.requests le_rfl
  rw [read_of_atOnce hentry]
  refine ⟨hholders, ?_, lt_succ_self _⟩
  have hself : reply gc.requests (.read gc.requests entry (timeout == 0)) = some entry := if_pos rfl
  have hbefore : gc.outputs.filterMap (reply gc.requests) = [] := by
    rw [← replies, replies_eq, hcalls]
    rfl
  rw [replies, GroupCache.answer, filterMap_cons_some hself, hbefore]

/-- Nothing more happens to a read without a reader. -/
theorem run_unheld (hholders : holders gc request = []) (hmade : request < gc.requests)
    (hrun : run step gc events = some after) :
    holders after request = [] ∧ replies after request = replies gc request := by
  have hinv := (path_of_run hrun).invariant
    (fun state => request < state.requests ∧ holders state request = [] ∧
      calls state request = calls gc request) ⟨hmade, hholders, rfl⟩ ?_
  · rw [replies_eq, hinv.2.2, ← replies_eq]
    exact ⟨hinv.2.1, rfl⟩
  · rintro state event next ⟨hmade, hholders, hcalls⟩ - hstep
    obtain ⟨hnone, hsame⟩ := step_unheld hholders (.inl hmade) hstep
    exact ⟨hmade.trans_le (requests_mono hstep), hnone, hsame.trans hcalls⟩

/-- The timer of a reader ends its wait. -/
theorem isSome_awaited (hrun : run step gc events = some after) (hfires : .timeout request ∈ events)
    : (awaited addr request gc events).isSome := by
  induction events generalizing gc with
  | nil => cases hfires
  | cons _ _ ih =>
    obtain ⟨_, hstep, hrest⟩ := bind_eq_some_iff.1 hrun
    rw [awaited, isSome_or, Bool.or_eq_true_iff]
    obtain rfl | hfires := mem_cons.1 hfires
    · left
      rw [decides, if_pos rfl]
      rfl
    · right
      rw [hstep]
      exact ih hrest hfires

/-- Every read is answered exactly once, whatever the cache has done before and whatever it
does afterwards.  A read that is answered at once is not answered again.  Any other read is
answered what the first event that it waits for gives: the new entry of its address, or an
empty one when its timer fires.  As long as there was none its timer is running; its reader is
deleted once, by the `remtrigger_cb` that is due from the answer on. -/
theorem read_answered_once {maxsize : ℕ} {before made after : GroupCache} {addr : Addr}
    {timeout age now : ℕ} {events : List Event} (hreached : Path step anyEvent { maxsize } before)
    (hread : step before (.read addr timeout age now) = some made)
    (hrun : run step made events = some after) :
    match atOnce before addr timeout age now with
    | some entry =>
      replies made before.requests = [entry] ∧ replies after before.requests = [entry] ∧
        holders after before.requests = []
    | none =>
      replies after before.requests = (awaited addr before.requests made events).toList ∧
      (.timeout before.requests ∈ events → (replies after before.requests).length = 1) ∧
      deletions before.requests made events + (holders after before.requests).length = 1 ∧
      (replies after before.requests = [] →
        ∃ next, step after (.timeout before.requests) = some next ∧
          replies next before.requests = [{ dst := addr }]) ∧
      (replies after before.requests ≠ [] → holders after before.requests ≠ [] →
        ∃ next, step after .remtrigger = some next ∧ holders next before.requests = []) := by
  have hready : Ready before := hreached.invariant Ready (ready_initial maxsize)
    fun _ _ _ hready _ hstep => hready.step hstep
  have hmade : Ready made := hready.step hread
  have hafter : Ready after := (path_of_run hrun).invariant Ready hmade
    fun _ _ _ hready _ hstep => hready.step hstep
  cases hread
  split
  · next entry hentry =>
    obtain ⟨hholders, hreplies, hlt⟩ := replies_of_atOnce hready hentry
    obtain ⟨hnone, hsame⟩ := run_unheld hholders hlt hrun
    exact ⟨hreplies, hsame.trans hreplies, hnone⟩
  · next hwaits =>
    obtain ⟨hphase, hlt⟩ := phase_of_read hready hwaits
    have hend := hphase.run hmade hlt hrun
    rw [none_or, Nat.zero_add] at hend
    have hreplies := hend.replies_eq
    refine ⟨hreplies, fun hfires => ?_, hend.deletions_add_length, fun hnone => ?_,
      fun hanswered hheld => ?_⟩
    · obtain ⟨entry, hentry⟩ := isSome_iff_exists.1 (isSome_awaited hrun hfires)
      rw [hreplies, hentry]
      rfl
    · rw [hreplies, toList_eq_nil_iff] at hnone
      rw [hnone] at hend
      exact hend.times_out
    · exact hend.swept hafter hanswered hheld

/-- Two updates of the address and the reader's timer come before the reader is deleted. -/
theorem read_answered_once_two_updates : ∃ before made after,
    run step {} [.driverStart] = some before ∧
    step before (.read 1 1 0 0) = some made ∧
    run step made [groupWrite 1, groupWrite 1, .timeout 0, .remtrigger] = some after ∧
    (replies after 0).length = 1 ∧
    deletions 0 made [groupWrite 1, groupWrite 1, .timeout 0, .remtrigger] = 1 := by
  obtain ⟨before, hbefore, hrequests, hwaits, made, hmade, after, hafter, hholders⟩ : ∃ before,
      run step {} [.driverStart] = some before ∧ before.requests = 0 ∧
      atOnce before 1 1 0 0 = none ∧ ∃ made, step before (.read 1 1 0 0) = some made ∧
      ∃ after, run step made [groupWrite 1, groupWrite 1, .timeout 0, .remtrigger] = some after ∧
        (holders after 0).length = 0 := by decide +kernel
  have honce := read_answered_once (path_of_run hbefore) hmade hafter
  rw [hwaits, hrequests] at honce
  obtain ⟨-, hreplies, hdeletions, -⟩ := honce
  refine ⟨before, made, after, hbefore, hmade, hafter, hreplies (by simp), ?_⟩
  rwa [hholders] at hdeletions

end Knxd.Reading
