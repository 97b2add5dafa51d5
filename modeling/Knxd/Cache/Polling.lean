import Knxd.Cache.History
import Knxd.Cache.LastUpdates

/-!
# Polling the cache

A client that wants to follow the group telegrams asks for the addresses that were updated
since some position, gets a list of them with a new position, and asks again from there.
The position of a reply is the number of the last update, and a request lists the addresses
whose last update has at least the number it asks for.
-/

namespace Knxd.Polling

open Memory LPDU Recency Cache History List Reader LastUpdates Option
open LastUpdates
open Transition (Path)

/-! ## The client -/

/-- What an output tells a client that made some requests: addresses and a position. -/
def reply (requests : List ℕ) : Output → Option (List Addr × ℕ)
  | .last request addrs finish => if request ∈ requests then some (addrs, finish) else none
  | .read _ _ _ | .recvLData _ => none

def replies (gc : GroupCache) (requests : List ℕ) : List (List Addr × ℕ) :=
  gc.outputs.filterMap (reply requests)

structure System where
  gc : GroupCache
  history : List Addr := []
  first : BitVec 32
  requests : List ℕ := []

inductive Event
  | cache (event : Cache.Event)
  | poll (start : BitVec 32)

def step (p : System) : Event → Option System
  | .cache event => (Cache.step p.gc event).map fun gc =>
    { p with gc, history := updates p.gc event ++ p.history }
  | .poll start => (Cache.step p.gc (.lastUpdates2 start)).map fun gc =>
    { p with gc, requests := p.gc.requests :: p.requests }

/-- There are fewer than 2^32 updates, nothing is cleared, and the client polls from its first
position or from that of a reply. -/
def Polls (p : System) : Event → Prop
  | .cache .clear | .cache .stop => False
  | .cache event => (updates p.gc event ++ p.history).length < 2 ^ 32
  | .poll start => start = p.first ∨ ∃ last ∈ replies p.gc p.requests, last.2 = start.toNat

instance (p : System) : (event : Event) → Decidable (Polls p event)
  | .cache .clear | .cache .stop => inferInstanceAs (Decidable False)
  | .cache (.sendLData _ _) | .cache (.remove _) | .cache .start | .cache .driverStart
  | .cache .driverStop | .cache (.read _ _ _ _) | .cache (.lastUpdates _)
  | .cache (.lastUpdates2 _) | .cache (.timeout _) | .cache .remtrigger =>
    inferInstanceAs (Decidable (_ < _))
  | .poll start => inferInstanceAs
      (Decidable (start = p.first ∨ ∃ last ∈ replies p.gc p.requests, last.2 = start.toNat))

def Keeps (addr : Addr) (p : System) (event : Event) : Prop :=
  ∀ next, step p event = some next → next.gc.cache addr ≠ none

/-! ## The replies -/

/-- What a reader can do when it is told about an update or its timeout. -/
inductive Tells (cacheSeq : List (ℕ × Addr)) (seq : ℕ) (r : Reader) :
    Reader × List Output → Prop
  | silent {told : Reader} {outputs : List Output} : told.request = r.request →
      told.kind = r.kind → told.a = r.a →
      (∀ requests, outputs.filterMap (reply requests) = []) → Tells cacheSeq seq r (told, outputs)
  | lists {told : Reader} {start : ℕ} : told.request = r.request → told.kind = r.kind →
      r.kind = .tracker start →
      Tells cacheSeq seq r
        (told, [.last r.request (r.a ++ Reader.collect start cacheSeq.reverse) seq])

inductive Listened (gc next : GroupCache) : Prop
  | same : (∀ r ∈ next.reader, r ∈ gc.reader ∨ r.request = gc.requests ∧ r.a = []) →
      (∀ requests, replies next requests = replies gc requests) → Listened gc next
  | told {tell : Reader → Reader × List Output} : Told gc tell next →
      (∀ r, Tells next.cacheSeq next.seq r (tell r)) → Listened gc next

section Readers

variable {gc next : GroupCache} {requests : List ℕ}

theorem tells_handler {r tracker : Reader} {start : ℕ} (hrequest : tracker.request = r.request)
    (hkind : tracker.kind = r.kind) (ha : tracker.a = r.a) (hstart : r.kind = .tracker start)
    (cacheSeq : List (ℕ × Addr)) (seq : ℕ) :
    Tells cacheSeq seq r (tracker.handler start cacheSeq seq) := by
  have hstop : ∀ stopping : Reader, stopping.stop.request = stopping.request ∧
      stopping.stop.kind = stopping.kind := by
    intro stopping
    unfold stop
    split
    · exact ⟨rfl, rfl⟩
    · split <;> exact ⟨rfl, rfl⟩
  unfold handler
  dsimp only
  obtain ⟨hsame, hsort⟩ :=
    hstop { tracker with a := tracker.a ++ collect start cacheSeq.reverse }
  rw [hrequest, ha] at hsame hsort ⊢
  exact .lists hsame (hsort.trans hkind) hstart

theorem tells_updated (cacheSeq : List (ℕ × Addr)) (seq : ℕ) (c : GroupCacheEntry) (r : Reader) :
    Tells cacheSeq seq r (r.updated cacheSeq seq c) := by
  unfold updated
  split
  · next addr hkind =>
    split
    · exact .silent rfl rfl rfl fun _ => rfl
    · rw [stop, hkind]
      exact .silent rfl hkind.symm rfl fun _ => rfl
  · next start hkind =>
    split
    · exact .silent rfl rfl rfl fun _ => rfl
    · exact tells_handler rfl rfl rfl hkind cacheSeq seq

theorem tells_expired (gc : GroupCache) (request : ℕ) (r : Reader) :
    Tells gc.cacheSeq gc.seq r (expired gc request r) := by
  unfold expired timeoutCb
  split
  case isFalse => exact .silent rfl rfl rfl fun _ => rfl
  split
  · next addr hkind =>
    split
    · exact .silent rfl rfl rfl fun _ => rfl
    · dsimp only at hkind
      simp only [stop, hkind]
      exact .silent rfl hkind.symm rfl fun _ => rfl
  · next start hkind =>
    split
    · exact .silent rfl rfl rfl fun _ => rfl
    · have hstart : r.kind = .tracker start := hkind
      exact @tells_handler r { r with timeout := false } start rfl rfl rfl hstart _ _

/-- What a step means to the replies. -/
theorem listened_of_step {event : Cache.Event} (hstep : Cache.step gc event = some next) :
    Listened gc next := by
  cases effect_of_step hstep with
  | @quiet _ _ _ said _ hquiet =>
    refine .same (fun r hr => ?_) fun requests => ?_
    · rw [hquiet.reader] at hr
      obtain hold | hnew := mem_append.1 hr
      · exact .inl hold
      · obtain ⟨-, _, rfl⟩ := hquiet.made r hnew
        exact .inr ⟨rfl, rfl⟩
    · have hnone : said.filterMap (reply requests) = [] := by
        refine filterMap_eq_nil_iff.2 fun output houtput => ?_
        obtain ⟨l, rfl⟩ | ⟨-, _, _, rfl⟩ := hquiet.called output houtput <;> rfl
      rw [replies, hquiet.outputs, filterMap_append, hnone]
      rfl
  | updated _ htold => exact .told htold fun r => tells_updated _ _ _ r
  | timeout => exact .told (told_timeout gc _) fun r => tells_expired gc _ r
  | swept => exact .same (fun r hr => .inl (mem_filter.1 hr).1) fun _ => rfl

/-- A reader keeps its request and what it waits for. -/
theorem Listened.reader (hlistened : Listened gc next) {told : Reader}
    (htold : told ∈ next.reader) :
    (∃ r ∈ gc.reader, told.request = r.request ∧ told.kind = r.kind) ∨
      told.request = gc.requests := by
  cases hlistened with
  | same hreader =>
    exact (hreader told htold).imp (fun hold => ⟨told, hold, rfl, rfl⟩) fun hnew => hnew.1
  | @told tell hall htells =>
    rw [hall.reader] at htold
    obtain ⟨r, hr, rfl⟩ := mem_map.1 htold
    refine .inl ⟨r, hr, ?_⟩
    cases htell : tell r with
    | mk =>
      have htells := htells r
      rw [htell] at htells
      cases htells with
      | silent hrequest hkind | lists hrequest hkind => exact ⟨hrequest, hkind⟩

/-- A reply comes from a tracker, and is made from the index as it is then. -/
def Made (gc next : GroupCache) (requests : List ℕ) (made : List Addr × ℕ) : Prop :=
  ∃ r ∈ gc.reader, r.request ∈ requests ∧ ∃ start, r.kind = .tracker start ∧
    made = (r.a ++ Reader.collect start next.cacheSeq.reverse, next.seq)

theorem Listened.replies (hlistened : Listened gc next) (requests : List ℕ) :
    ∃ new, replies next requests = new ++ replies gc requests ∧
      ∀ made ∈ new, Made gc next requests made := by
  cases hlistened with
  | same _ hsame => exact ⟨[], hsame requests, forall_mem_nil _⟩
  | @told tell hall htells =>
    refine ⟨(gc.reader.flatMap fun r => (tell r).2).filterMap (reply requests), ?_, ?_⟩
    · rw [Polling.replies, hall.outputs, filterMap_append]
      rfl
    · intro made hmade
      obtain ⟨output, houtput, hreply⟩ := mem_filterMap.1 hmade
      obtain ⟨r, hr, hsaid⟩ := mem_flatMap.1 houtput
      have htells := htells r
      cases htell : tell r with
      | mk =>
        rw [htell] at htells hsaid
        cases htells with
        | silent _ _ _ hnone =>
          have hmem := mem_filterMap.2 ⟨output, hsaid, hreply⟩
          rw [hnone] at hmem
          cases hmem
        | @lists _ start _ _ hkind =>
          rw [mem_singleton.1 hsaid, reply] at hreply
          obtain ⟨hrequest, hmade⟩ := ite_none_right_eq_some.1 hreply
          exact ⟨r, hr, hrequest, start, hkind, (Option.some.inj hmade).symm⟩

def Blank (gc : GroupCache) : Prop :=
  ∀ r ∈ gc.reader, replies gc [r.request] = [] → r.a = []

theorem Blank.step (hblank : Blank gc) (hlistened : Listened gc next) : Blank next := by
  intro told htold hnone
  have hbefore : replies gc [told.request] = [] := by
    obtain ⟨_, hnew, -⟩ := hlistened.replies [told.request]
    rw [hnone] at hnew
    exact (append_eq_nil_iff.1 hnew.symm).2
  cases hlistened with
  | same hreader =>
    exact (hreader told htold).elim (fun hold => hblank told hold hbefore) fun hnew => hnew.2
  | @told tell hall htells =>
    rw [hall.reader] at htold
    obtain ⟨r, hr, rfl⟩ := mem_map.1 htold
    have htells := htells r
    cases htell : tell r with
    | mk _ outputs =>
      rw [htell] at htells hbefore hnone
      cases htells with
      | silent hrequest _ ha => exact ha.trans (hblank r hr (hrequest ▸ hbefore))
      | @lists _ _ hrequest =>
        -- it has just answered
        have hsaid : (tell r).2 ⊆ next.outputs := by
          rw [hall.outputs]
          exact fun output houtput =>
            mem_append_left _ (mem_flatMap.2 ⟨r, hr, houtput⟩)
        rw [htell] at hsaid
        have hreply := filterMap_eq_nil_iff.1 hnone _ (hsaid mem_cons_self)
        rw [reply, if_pos (mem_singleton.2 hrequest.symm)] at hreply
        cases hreply

end Readers

/-! ## The client and the cache -/

def StartsBy (p : System) (bound : ℕ) : Prop :=
  ∀ r ∈ p.gc.reader, r.request ∈ p.requests → ∃ start ≤ bound, r.kind = .tracker start

structure Sound (p : System) : Prop where
  dated : Dated p.history p.gc
  blank : Blank p.gc
  unused : Unused p.gc
  made : ∀ request ∈ p.requests, request < p.gc.requests
  starts : StartsBy p (max p.first.toNat p.history.length)
  positions : ∀ last ∈ replies p.gc p.requests, last.2 ≤ p.history.length

section Runs

variable {p next : System} {event : Event} {bound : ℕ}
variable {addr : Addr} {gc : GroupCache} {number : ℕ} {c : GroupCacheEntry}

theorem sound_initial (maxsize : ℕ) (first : BitVec 32) : Sound { gc := { maxsize }, first } where
  dated := {
    sorted := List.Pairwise.nil
    mem_iff := fun _ _ => ⟨nofun, nofun⟩
    dated := nofun
    seq := rfl }
  blank := nofun
  unused := fun _ _ => ⟨rfl, rfl⟩
  made := nofun
  starts := nofun
  positions := nofun

theorem StartsBy.mono {later : ℕ} (hstarts : StartsBy p bound) (hle : bound ≤ later) :
    StartsBy p later := by
  intro r hr hrequest
  obtain ⟨start, hstart, hkind⟩ := hstarts r hr hrequest
  exact ⟨start, hstart.trans hle, hkind⟩

/-- The reader of a request that is not made yet. -/
theorem request_lt (hunused : Unused gc) {r : Reader} (hr : r ∈ gc.reader) :
    r.request < gc.requests := by
  by_contra hle
  have hnone := (hunused r.request (not_lt.1 hle)).1
  exact filter_eq_nil_iff.1 hnone r hr (decide_eq_true rfl)

theorem StartsBy.step (hstarts : StartsBy p bound) (hunused : Unused p.gc)
    (hmade : ∀ request ∈ p.requests, request < p.gc.requests)
    (hpoll : ∀ start, event = .poll start → start.toNat ≤ bound)
    (hstep : step p event = some next) : StartsBy next bound := by
  cases event with
  | cache =>
    obtain ⟨_, hgc, rfl⟩ := map_eq_some_iff.1 hstep
    intro told htold hrequest
    obtain ⟨r, hr, hsame, hkind⟩ | hnew := (listened_of_step hgc).reader htold
    · rw [hkind]
      exact hstarts r hr (hsame ▸ hrequest)
    · exact absurd hnew (hmade _ hrequest).ne
  | poll start =>
    cases hstep
    intro told htold hrequest
    obtain hold | hnew := mem_append.1 htold
    · refine hstarts told hold ((mem_cons.1 hrequest).resolve_left ?_)
      exact (request_lt hunused hold).ne
    · rw [mem_singleton.1 hnew]
      exact ⟨start.toNat, hpoll start rfl, rfl⟩

/-- A number that no request has yet was not answered. -/
theorem replies_unused (hunused : Unused gc) (requests : List ℕ) :
    replies gc (gc.requests :: requests) = replies gc requests := by
  apply filterMap_congr
  intro output houtput
  cases output with
  | last request =>
    have hother : request ≠ gc.requests := by
      rintro rfl
      exact filter_eq_nil_iff.1 (hunused gc.requests le_rfl).2 _ houtput (decide_eq_true rfl)
    simp only [reply, mem_cons, hother, false_or]
  | read | recvLData => rfl

/-- What is said to the client in a step. -/
theorem replies_of_step (hunused : Unused p.gc) (hstep : step p event = some next) :
    ∃ new, replies next.gc next.requests = new ++ replies p.gc p.requests ∧
      ∀ made ∈ new, Made p.gc next.gc p.requests made := by
  cases event with
  | cache =>
    obtain ⟨_, hgc, rfl⟩ := map_eq_some_iff.1 hstep
    exact (listened_of_step hgc).replies p.requests
  | poll =>
    cases hstep
    exact ⟨[], replies_unused hunused p.requests, forall_mem_nil _⟩

/-- The client polls from a number that it knows. -/
theorem Sound.poll_le (hsound : Sound p) (hpolls : Polls p event) {start : BitVec 32}
    (hevent : event = .poll start) : start.toNat ≤ max p.first.toNat p.history.length := by
  subst hevent
  obtain rfl | ⟨last, hlast, hstart⟩ := hpolls
  · exact le_max_left _ _
  · rw [← hstart]
    exact (hsound.positions last hlast).trans (le_max_right _ _)

theorem dated_step (hdated : Dated p.history p.gc) (hpolls : Polls p event)
    (hstep : step p event = some next) : Dated next.history next.gc := by
  cases event with
  | cache event =>
    obtain ⟨_, hgc, rfl⟩ := map_eq_some_iff.1 hstep
    cases event with
    | clear | stop => cases hpolls
    | _ => exact hdated.step rfl hpolls hgc
  | poll =>
    cases hstep
    exact hdated.congr rfl rfl rfl

/-- The cache's part of a step. -/
theorem cache_step (hstep : step p event = some next) :
    ∃ cause, Cache.step p.gc cause = some next.gc ∧ next.first = p.first ∧
      next.history = updates p.gc cause ++ p.history := by
  cases event with
  | cache event =>
    obtain ⟨_, hgc, rfl⟩ := map_eq_some_iff.1 hstep
    exact ⟨event, hgc, rfl, rfl⟩
  | poll start =>
    cases hstep
    exact ⟨.lastUpdates2 start, rfl, rfl, rfl⟩

theorem first_eq (hstep : step p event = some next) : next.first = p.first := by
  obtain ⟨_, -, hfirst, -⟩ := cache_step hstep
  exact hfirst

theorem history_le (hstep : step p event = some next) : p.history.length ≤ next.history.length := by
  obtain ⟨_, -, -, hhistory⟩ := cache_step hstep
  rw [hhistory, length_append]
  exact Nat.le_add_left _ _

theorem Sound.step (hsound : Sound p) (hpolls : Polls p event)
    (hstep : step p event = some next) : Sound next := by
  have hdated := dated_step hsound.dated hpolls hstep
  have hgrows := history_le hstep
  have hstarts := hsound.starts.step hsound.unused hsound.made
    (fun start hevent => hsound.poll_le hpolls hevent) hstep
  obtain ⟨_, hnew, hsaid⟩ := replies_of_step hsound.unused hstep
  have hpositions : ∀ last ∈ replies next.gc next.requests, last.2 ≤ next.history.length := by
    intro last hlast
    rw [hnew] at hlast
    obtain hlast | hlast := mem_append.1 hlast
    · obtain ⟨_, _, _, _, _, rfl⟩ := hsaid last hlast
      exact hdated.seq.le
    · exact (hsound.positions last hlast).trans hgrows
  cases event with
  | cache =>
    obtain ⟨gc, hgc, rfl⟩ := map_eq_some_iff.1 hstep
    exact ⟨hdated, hsound.blank.step (listened_of_step hgc), hsound.unused.step hgc,
      fun request hrequest => (hsound.made request hrequest).trans_le (requests_mono hgc),
      hstarts.mono (max_le_max_left _ hgrows), hpositions⟩
  | poll start =>
    have hmade : Cache.step p.gc (.lastUpdates2 start) = some (p.gc.lastUpdates2 start) := rfl
    cases hstep
    refine ⟨hdated, hsound.blank.step (listened_of_step hmade), hsound.unused.step hmade,
      fun request hrequest => ?_, hstarts, hpositions⟩
    obtain rfl | hrequest := mem_cons.1 hrequest
    · exact Nat.lt_succ_self _
    · exact (hsound.made request hrequest).trans (Nat.lt_succ_self _)

theorem sound_of_path (hsound : Sound p) (hpath : Path step Polls p next) : Sound next :=
  hpath.invariant Sound hsound fun _ _ _ hsound hpolls hstep => hsound.step hpolls hstep

/-! ## The first reply to a request -/

/-- The number that a request starts from. -/
def asks : Event → Option (BitVec 32)
  | .cache (.lastUpdates2 start) | .poll start => some start
  | _ => none

def Asked (request start : ℕ) (gc : GroupCache) : Prop :=
  request < gc.requests ∧ ∀ r ∈ gc.reader, r.request = request → r.kind = .tracker start

theorem asked_of_asks (hunused : Unused p.gc) {start : BitVec 32} (hasks : asks event = some start)
    (hstep : step p event = some next) : Asked p.gc.requests start.toNat next.gc := by
  have hadd : Asked p.gc.requests start.toNat (p.gc.add (.tracker start.toNat)) := by
    refine ⟨Nat.lt_succ_self _, fun r hr hrequest => ?_⟩
    obtain hold | hnew := mem_append.1 hr
    · exact absurd hrequest (request_lt hunused hold).ne
    · rw [mem_singleton.1 hnew]
  cases event with
  | poll =>
    cases hasks
    cases hstep
    exact hadd
  | cache event =>
    cases event with
    | lastUpdates2 =>
      cases hasks
      cases hstep
      exact hadd
    | _ => cases hasks

theorem Asked.step {request start : ℕ} (hasked : Asked request start p.gc)
    (hstep : step p event = some next) : Asked request start next.gc := by
  obtain ⟨_, hgc, -⟩ := cache_step hstep
  refine ⟨hasked.1.trans_le (requests_mono hgc), fun told htold hrequest => ?_⟩
  obtain ⟨r, hr, hsame, hkind⟩ | hnew := (listened_of_step hgc).reader htold
  · exact hkind.trans (hasked.2 r hr (hsame.symm.trans hrequest))
  · exact absurd (hrequest.symm.trans hnew) hasked.1.ne

theorem Asked.lists_first {request start : ℕ} (hasked : Asked request start p.gc)
    (hsound : Sound p) (hpolls : Polls p event) (hstep : Polling.step p event = some next)
    (hfirst : replies p.gc [request] = []) {addrs : List Addr} {finish : ℕ}
    (hreply : (addrs, finish) ∈ replies next.gc [request]) :
    Lists next.history next.gc start addrs ∧ finish = next.history.length := by
  have hdated := dated_step hsound.dated hpolls hstep
  obtain ⟨_, hgc, -⟩ := cache_step hstep
  obtain ⟨_, hnew, hsaid⟩ := (listened_of_step hgc).replies [request]
  rw [hnew, hfirst, append_nil] at hreply
  obtain ⟨r, hr, hrequest, other, hkind, hmade⟩ := hsaid _ hreply
  obtain rfl := mem_singleton.1 hrequest
  obtain rfl : start = other := ReaderKind.tracker.inj ((hasked.2 r hr rfl).symm.trans hkind)
  rw [hsound.blank r hr hfirst, nil_append] at hmade
  obtain ⟨rfl, rfl⟩ := Prod.mk.inj hmade
  exact ⟨hdated.lists start, hdated.seq⟩

/-! ## The next reply after an update -/

/-- An update is the last one of its address. -/
theorem entry_of_update {l : LDataPDU} {now : ℕ} (hupdate : p.gc.enable ∧ isUpdate l.data)
    (hdated : Dated p.history p.gc) (hpolls : Polls p (.cache (.sendLData l now)))
    (hstep : step p (.cache (.sendLData l now)) = some next) :
    ∃ c, next.gc.cache l.dest = some c ∧ c.seq = next.history.length := by
  have hafter := dated_step hdated hpolls hstep
  obtain ⟨_, hgc, rfl⟩ := map_eq_some_iff.1 hstep
  obtain ⟨c, hc⟩ := ne_none_iff_exists'.1 (cache_of_update hupdate hgc)
  have hlast := hafter.dated l.dest c hc
  rw [updates, if_pos hupdate, singleton_append, lastUpdate, if_pos rfl] at hlast
  refine ⟨c, hc, ?_⟩
  rw [updates, if_pos hupdate, ← Option.some.inj hlast]
  rfl

/-- Since an update the client has heard nothing, or has heard of it with the next reply. -/
inductive Heard (addr : Addr) (number : ℕ) (base : List (List Addr × ℕ)) (p : System) : Prop
  | waiting {c : GroupCacheEntry} : replies p.gc p.requests = base →
      p.gc.cache addr = some c → number ≤ c.seq → StartsBy p number → Heard addr number base p
  | listed {later : List (List Addr × ℕ)} {addrs : List Addr} {finish : ℕ} :
      replies p.gc p.requests = later ++ (addrs, finish) :: base → addr ∈ addrs →
      Heard addr number base p

/-- Every reply of a step lists the addresses updated since its tracker's start. -/
theorem Made.mem {requests : List ℕ} {made : List Addr × ℕ} (hdated : Dated next.history next.gc)
    (hmade : Made gc next.gc requests made)
    (hstarts : ∀ r ∈ gc.reader, r.request ∈ requests → ∃ start ≤ number, r.kind = .tracker start)
    (hc : next.gc.cache addr = some c) (hle : number ≤ c.seq) : addr ∈ made.1 := by
  obtain ⟨r, hr, hrequest, start, hkind, rfl⟩ := hmade
  obtain ⟨other, hother, hsame⟩ := hstarts r hr hrequest
  obtain rfl : start = other := ReaderKind.tracker.inj (hkind.symm.trans hsame)
  apply mem_append_right
  refine ((hdated.lists start).mem_iff addr).2 ⟨?_, c.seq, hdated.dated addr c hc, hother.trans hle⟩
  exact fun hnone => nomatch hnone.symm.trans hc

theorem heard_of_step (hsound : Sound p) (hpolls : Polls p event) (hstep : step p event = some next)
    (hc : next.gc.cache addr = some c) (hle : number ≤ c.seq) (hstarts : StartsBy p number)
    (hpoll : ∀ start, event = .poll start → start.toNat ≤ number) :
    Heard addr number (replies p.gc p.requests) next := by
  have hdated := dated_step hsound.dated hpolls hstep
  obtain ⟨new, hnew, hsaid⟩ := replies_of_step hsound.unused hstep
  obtain rfl | ⟨later, ⟨addrs, finish⟩, rfl⟩ := eq_nil_or_concat' new
  · exact .waiting hnew hc hle (hstarts.step hsound.unused hsound.made hpoll hstep)
  · rw [append_assoc] at hnew
    have hmade := hsaid (addrs, finish) (mem_append_right _ (mem_singleton.2 rfl))
    exact .listed hnew (hmade.mem hdated hstarts hc hle)

/-- The entry of an address gets no older. -/
theorem seq_le (hdated : Dated p.history p.gc) (hafter : Dated next.history next.gc)
    (hstep : step p event = some next) {c d : GroupCacheEntry} (hc : p.gc.cache addr = some c)
    (hd : next.gc.cache addr = some d) : c.seq ≤ d.seq := by
  have hlast := hdated.dated addr c hc
  have hnow := hafter.dated addr d hd
  obtain ⟨cause, -, -, hhistory⟩ := cache_step hstep
  obtain ⟨_, hlater, hle⟩ := @lastUpdate_mono p.gc p.history addr cause c.seq hlast
  rw [hhistory, mem_def.1 hlater, Option.some.injEq] at hnow
  exact hnow ▸ hle

theorem Heard.step {base : List (List Addr × ℕ)} (hheard : Heard addr number base p)
    (hsound : Sound p) (hfirst : p.first.toNat ≤ number) (hbase : ∀ last ∈ base, last.2 ≤ number)
    (hpolls : Polls p event) (hkeeps : Keeps addr p event)
    (hstep : Polling.step p event = some next) : Heard addr number base next := by
  have hdated := dated_step hsound.dated hpolls hstep
  cases hheard with
  | listed hreplies hmem =>
    obtain ⟨_, hnew, -⟩ := replies_of_step hsound.unused hstep
    rw [hreplies, ← append_assoc] at hnew
    exact .listed hnew hmem
  | @waiting c hreplies hc hle hstarts =>
    obtain ⟨d, hd⟩ := ne_none_iff_exists'.1 (hkeeps next hstep)
    have hlater := seq_le hsound.dated hdated hstep hc hd
    rw [← hreplies] at hbase ⊢
    refine heard_of_step hsound hpolls hstep hd (hle.trans hlater) hstarts ?_
    rintro start rfl
    obtain rfl | ⟨last, hlast, hstart⟩ := hpolls
    · exact hfirst
    · exact hstart ▸ hbase last hlast

end Runs

/-- Polling the cache misses nothing.  The first reply to a request lists exactly the addresses
of the cache whose last update has at least the number that was asked for, newest first and
without repetition, and gives the number of the last update as its position.  If an address is
updated, and is then in the cache until the client gets its next reply, then this reply
lists it. -/
theorem polling_misses_nothing {maxsize : ℕ} {first : BitVec 32} {before : System}
    (hreached : Path step Polls { gc := { maxsize }, first } before) :
    (∀ request start made waiting event after addrs finish,
      asks request = some start → Polls before request → step before request = some made →
      Path step Polls made waiting → replies waiting.gc [before.gc.requests] = [] →
      Polls waiting event → step waiting event = some after →
      (addrs, finish) ∈ replies after.gc [before.gc.requests] →
      Lists after.history after.gc start.toNat addrs ∧ finish = after.history.length) ∧
    (∀ l now updated after,
      before.gc.enable → isUpdate l.data → Polls before (.cache (.sendLData l now)) →
      step before (.cache (.sendLData l now)) = some updated →
      first.toNat ≤ updated.history.length →
      Path step (fun p event => Polls p event ∧ Keeps l.dest p event) updated after →
      replies after.gc after.requests = replies before.gc before.requests ∨
      ∃ later addrs finish, replies after.gc after.requests =
        later ++ (addrs, finish) :: replies before.gc before.requests ∧ l.dest ∈ addrs) := by
  have hsound : Sound before := sound_of_path (sound_initial maxsize first) hreached
  constructor
  · intro request start made waiting event after addrs finish hasks hpolls hmade hpath hfirst
      hnext hstep hreply
    have hinv := hpath.invariant (fun p => Sound p ∧ Asked before.gc.requests start.toNat p.gc)
      ⟨hsound.step hpolls hmade, asked_of_asks hsound.unused hasks hmade⟩
      fun p event next hinv hpolls hstep => ⟨hinv.1.step hpolls hstep, hinv.2.step hstep⟩
    exact hinv.2.lists_first hinv.1 hnext hstep hfirst hreply
  · intro l now updated after henable hupdate hpolls hstep hfirst hpath
    have hknown : before.first = first := hreached.invariant (fun p => p.first = first) rfl
      fun p event next hfirst _ hstep => (first_eq hstep).trans hfirst
    have hbase : ∀ last ∈ replies before.gc before.requests, last.2 ≤ updated.history.length :=
      fun last hlast => (hsound.positions last hlast).trans (history_le hstep)
    have hstarts : StartsBy before updated.history.length :=
      hsound.starts.mono (max_le (hknown ▸ hfirst) (history_le hstep))
    obtain ⟨c, hc, hseq⟩ := entry_of_update ⟨henable, hupdate⟩ hsound.dated hpolls hstep
    have hheard := heard_of_step hsound hpolls hstep hc hseq.ge hstarts nofun
    have hinv := hpath.invariant (fun p => Sound p ∧ p.first = first ∧
        Heard l.dest updated.history.length (replies before.gc before.requests) p)
      ⟨hsound.step hpolls hstep, (first_eq hstep).trans hknown, hheard⟩ ?_
    · cases hinv.2.2 with
      | waiting hreplies => exact .inl hreplies
      | listed hreplies hmem => exact .inr ⟨_, _, _, hreplies, hmem⟩
    · rintro p event next ⟨hsound, rfl, hheard⟩ ⟨hpolls, hkeeps⟩ hstep
      exact ⟨hsound.step hpolls hstep, first_eq hstep,
        hheard.step hsound hfirst hbase hpolls hkeeps hstep⟩

/-- Two polls: the second one starts from the position of the first reply, and hears of the
address that was updated before it. -/
theorem polling_misses_nothing_two : ∃ before updated after,
    Transition.runAllowed step Polls { gc := {}, first := 0 }
      [.cache .driverStart, .poll 0, .cache (LastUpdates.groupWrite 1),
        .cache .remtrigger] = some before ∧
    step before (.cache (LastUpdates.groupWrite 2)) = some updated ∧
    Path step (fun p event => Polls p event ∧ Keeps 2 p event) updated after ∧
    ∃ later addrs finish, replies after.gc after.requests =
      later ++ (addrs, finish) :: replies before.gc before.requests ∧ 2 ∈ addrs := by
  obtain ⟨before, hbefore, henable, hpolls, updated, hupdated, hpoll, asked, hasked, hlast, hfirst,
      after, hafter, hsecond, hnew⟩ : ∃ before,
      Transition.runAllowed step Polls { gc := {}, first := 0 }
        [.cache .driverStart, .poll 0, .cache (groupWrite 1), .cache .remtrigger] = some before ∧
      before.gc.enable ∧ Polls before (.cache (groupWrite 2)) ∧
      ∃ updated, step before (.cache (groupWrite 2)) = some updated ∧ Polls updated (.poll 1) ∧
      ∃ asked, step updated (.poll 1) = some asked ∧ Polls asked (.cache (groupWrite 3)) ∧
        asked.gc.cache 2 ≠ none ∧
      ∃ after, step asked (.cache (groupWrite 3)) = some after ∧ after.gc.cache 2 ≠ none ∧
        replies after.gc after.requests ≠ replies before.gc before.requests := by decide +kernel
  have hkeeps : ∀ {p next : System} {event : Event}, step p event = some next →
      next.gc.cache 2 ≠ none → Keeps 2 p event :=
    fun hstep hcached next hnext => Option.some.inj (hstep.symm.trans hnext) ▸ hcached
  have hpath : Path step (fun p event => Polls p event ∧ Keeps 2 p event) updated after :=
    .step (.step .refl ⟨hpoll, hkeeps hasked hfirst⟩ hasked) ⟨hlast, hkeeps hafter hsecond⟩ hafter
  have hlisted := (polling_misses_nothing (Transition.path_of_runAllowed hbefore)).2 _ _ updated
    after henable (by decide) hpolls hupdated (Nat.zero_le _) hpath
  exact ⟨before, updated, after, hbefore, hupdated, hpath, hlisted.resolve_left hnew⟩

end Knxd.Polling
