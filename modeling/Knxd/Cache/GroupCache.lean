import Knxd.Codec.LPDU
import Knxd.Core.RecentMap
import Knxd.Core.Transition

/-!
# The group cache

The cache is a driver that sees every group telegram and keeps the last value of each
group address.  `cache` finds the entry of an address; `cache_seq` lists the addresses
in the order of their last updates, under consecutive numbers, so that the oldest one
can be dropped when the cache is full.

Clients read a value, or ask for the addresses that were updated since some number.
Both may have to wait: a reader object is then registered with the cache, told about
each update and about its own timeout, and deleted later, by an event of its own.
-/

namespace Knxd.Cache

open Memory LPDU Recency Except Function

structure GroupCacheEntry where
  data : CArray := []
  src : Addr := 0
  dst : Addr
  recvtime : ℕ := 0
  seq : ℕ := 0
  deriving DecidableEq, Repr

inductive ReaderKind
  /-- `GCReader`: an update of one address. -/
  | reader (addr : Addr)
  /-- `GCTracker`: any update; the answer starts from a number. -/
  | tracker (start : ℕ)
  deriving DecidableEq, Repr

/-- `GroupCacheReader`, for the request whose callback it holds. -/
structure Reader where
  request : ℕ
  kind : ReaderKind
  /-- `GroupCacheReader::stopped`. -/
  stopped : Bool := false
  /-- `GCTracker::stopped`, which hides the other one. -/
  trackerStopped : Bool := false
  timeout : Bool := true
  a : List Addr := []
  deriving DecidableEq, Repr

/-- Calls of the callbacks, and of the router. -/
inductive Output
  | read (request : ℕ) (entry : GroupCacheEntry) (nowait : Bool)
  | last (request : ℕ) (addrs : List Addr) (finish : ℕ)
  | recvLData (l : LDataPDU)
  deriving DecidableEq, Repr

structure GroupCache where
  maxsize : ℕ := 0xFFFF
  enable : Bool := false
  cache : Addr → Option GroupCacheEntry := fun _ => none
  /-- `cache_seq`, in the order of its keys. -/
  cacheSeq : List (ℕ × Addr) := []
  /-- The number of the last update; it has 32 bits. -/
  seq : ℕ := 0
  reader : List Reader := []
  remtrigger : Bool := false
  requests : ℕ := 0
  outputs : List Output := []

/-- `GroupCache::setup`: the size has 16 bits. -/
def setup (maxSize : ℤ) : GroupCache :=
  { maxsize := (BitVec.ofInt 16 maxSize).toNat }

/-- `TPDU::fromPacket` makes a `T_DATA_XXX_REQ` of the packet. -/
def isDataXXXReq (c : CArray) : Prop :=
  1 ≤ c.length ∧ byteAt c 0 &&& 0xfc = 0
  deriving Decidable

def isUpdate (data : CArray) : Prop :=
  isDataXXXReq data ∧ 2 ≤ data.length ∧ byteAt data 0 &&& 0x3 = 0 ∧
    (byteAt data 1 &&& 0xC0 = 0x40 ∨ byteAt data 1 &&& 0xC0 = 0x80)
  deriving Decidable

namespace Reader

/-- `stop` of either kind: a tracker looks at its own flag, which nothing sets. -/
def stop (r : Reader) : Reader :=
  match r.kind with
  | .reader _ => { r with stopped := true }
  | .tracker _ => if r.trackerStopped then r else { r with timeout := false, stopped := true }

/-- The loop of `GCTracker::handler`, from the end of `cache_seq`. -/
def collect (start : ℕ) : List (ℕ × Addr) → List Addr
  | [] => []
  | (seq, addr) :: rest =>
    if seq < start then [] else addr :: if seq = start then [] else collect start rest

def handler (r : Reader) (start : ℕ) (cacheSeq : List (ℕ × Addr)) (seq : ℕ) :
    Reader × List Output :=
  let a := r.a ++ collect start cacheSeq.reverse
  ({ r with a }.stop, [.last r.request a seq])

/-- `updated` of either kind. -/
def updated (r : Reader) (cacheSeq : List (ℕ × Addr)) (seq : ℕ) (c : GroupCacheEntry) :
    Reader × List Output :=
  match r.kind with
  | .reader addr =>
    if r.stopped ∨ c.dst ≠ addr then (r, []) else (r.stop, [.read r.request c false])
  | .tracker start => if r.trackerStopped then (r, []) else r.handler start cacheSeq seq

/-- `timeout_cb` of either kind. -/
def timeoutCb (r : Reader) (cacheSeq : List (ℕ × Addr)) (seq : ℕ) : Reader × List Output :=
  match r.kind with
  | .reader addr => if r.stopped then (r, []) else (r.stop, [.read r.request { dst := addr } false])
  | .tracker start => if r.trackerStopped then (r, []) else r.handler start cacheSeq seq

end Reader

/-- The loop that makes room, from the start of `cache_seq`.  With a size of 0 it
does not stop at an empty map. -/
def evict (maxsize : ℕ) (cache : Addr → Option GroupCacheEntry) :
    List (ℕ × Addr) → Run ((Addr → Option GroupCacheEntry) × List (ℕ × Addr))
  | [] => if maxsize = 0 then .error .outOfBounds else .ok (cache, [])
  | (seq, addr) :: rest =>
    if maxsize ≤ rest.length + 1 then evict maxsize (Function.update cache addr none) rest
    else .ok (cache, (seq, addr) :: rest)

namespace GroupCache

/-- What became of the readers: their new states, and their calls, newest first. -/
def settle (gc : GroupCache) (results : List (Reader × List Output)) : GroupCache :=
  { gc with
    reader := results.map Prod.fst
    remtrigger := gc.remtrigger || results.any fun result => result.1.stopped
    outputs := results.flatMap Prod.snd ++ gc.outputs }

/-- `updated`: the readers are told in reverse order. -/
def updated (gc : GroupCache) (c : GroupCacheEntry) : GroupCache :=
  gc.settle (gc.reader.map fun r => r.updated gc.cacheSeq gc.seq c)

def enter (gc : GroupCache) (entry : GroupCacheEntry) (l : LDataPDU) (now : ℕ) : GroupCache :=
  let seq := (gc.seq + 1) % 2 ^ 32
  let c := { entry with src := l.source, data := l.data, recvtime := now, seq }
  { gc with
    cache := Function.update gc.cache l.dest (some c)
    cacheSeq := emplace seq l.dest gc.cacheSeq
    seq }.updated c

def sendLData (gc : GroupCache) (l : LDataPDU) (now : ℕ) : Run GroupCache :=
  if gc.enable ∧ isUpdate l.data then
    match gc.cache l.dest with
    | none => do
        let (cache, cacheSeq) ← evict gc.maxsize gc.cache gc.cacheSeq
        return { gc with cache, cacheSeq }.enter { dst := l.dest } l now
    | some c => return { gc with cacheSeq := erase c.seq gc.cacheSeq }.enter c l now
  else return gc

def clear (gc : GroupCache) : GroupCache :=
  { gc with cache := fun _ => none }

def start (gc : GroupCache) : GroupCache :=
  { gc with enable := true }

def stop (gc : GroupCache) : GroupCache :=
  { gc.clear with enable := false }

/-- `Driver::start` and `Driver::stop` of the cache. -/
def driverStart (gc : GroupCache) : GroupCache :=
  { gc with enable := true }

def driverStop (gc : GroupCache) : GroupCache :=
  { gc with enable := false }

/-- `remove` of an address. -/
def remove (gc : GroupCache) (ga : Addr) : GroupCache :=
  match gc.cache ga with
  | none => gc
  | some f =>
    { gc with cacheSeq := erase f.seq gc.cacheSeq, cache := Function.update gc.cache ga none }

def answer (gc : GroupCache) (output : ℕ → Output) : GroupCache :=
  { gc with requests := gc.requests + 1, outputs := output gc.requests :: gc.outputs }

def add (gc : GroupCache) (kind : ReaderKind) : GroupCache :=
  { gc with
    requests := gc.requests + 1
    reader := gc.reader ++ [{ request := gc.requests, kind }] }

/-- The entry that `Read` finds; it may be too old. -/
def lookup (gc : GroupCache) (addr : Addr) (age now : ℕ) : Option GroupCacheEntry :=
  (gc.cache addr).filter fun c => ¬ (age ≠ 0 ∧ c.recvtime + age < now)

def read (gc : GroupCache) (addr : Addr) (timeout age now : ℕ) : GroupCache :=
  if gc.enable then
    match gc.lookup addr age now with
    | some c => gc.answer fun request => .read request c (timeout == 0)
    | none =>
      if timeout = 0 then gc.answer fun request => .read request { dst := addr } true
      else
        { gc.add (.reader addr) with
          outputs := .recvLData { dest := addr, addrType := .groupAddress, data := [0, 0] } ::
            gc.outputs }
  else gc.answer fun request => .read request { dst := 0 } (timeout == 0)

/-- `LastUpdates`: the 16 bits of the request are completed with those of the last
number.  If that is too large it is corrected, but no tracker is made. -/
def lastUpdates (gc : GroupCache) (start : BitVec 16) : GroupCache :=
  let st := gc.seq / 2 ^ 16 * 2 ^ 16 + start.toNat
  if gc.seq < st then { gc with requests := gc.requests + 1 } else gc.add (.tracker st)

def lastUpdates2 (gc : GroupCache) (start : BitVec 32) : GroupCache :=
  gc.add (.tracker start.toNat)

def timeoutCb (gc : GroupCache) (request : ℕ) : GroupCache :=
  gc.settle (gc.reader.map fun r =>
    if r.request = request ∧ r.timeout then { r with timeout := false }.timeoutCb gc.cacheSeq gc.seq
    else (r, []))

def remtriggerCb (gc : GroupCache) : GroupCache :=
  { gc with reader := gc.reader.filter fun r => !r.stopped, remtrigger := false }

end GroupCache

inductive Event
  | sendLData (l : LDataPDU) (now : ℕ)
  | remove (ga : Addr)
  | clear
  | start
  | stop
  | driverStart
  | driverStop
  | read (addr : Addr) (timeout age now : ℕ)
  | lastUpdates (start : BitVec 16)
  | lastUpdates2 (start : BitVec 32)
  | timeout (request : ℕ)
  | remtrigger
  deriving DecidableEq, Repr

def step (gc : GroupCache) : Event → Option GroupCache
  | .sendLData l now => (gc.sendLData l now).toOption
  | .remove ga => some (gc.remove ga)
  | .clear => some gc.clear
  | .start => some gc.start
  | .stop => some gc.stop
  | .driverStart => some gc.driverStart
  | .driverStop => some gc.driverStop
  | .read addr timeout age now => some (gc.read addr timeout age now)
  | .lastUpdates start => some (gc.lastUpdates start)
  | .lastUpdates2 start => some (gc.lastUpdates2 start)
  | .timeout request =>
    if gc.reader.any fun r => r.request = request ∧ r.timeout then some (gc.timeoutCb request)
    else none
  | .remtrigger => if gc.remtrigger then some gc.remtriggerCb else none

/-- Making room adds no entry. -/
theorem cache_of_evict {maxsize : ℕ} {cache after : Addr → Option GroupCacheEntry}
    {cacheSeq rest : List (ℕ × Addr)} (hevict : evict maxsize cache cacheSeq = .ok (after, rest))
    {addr : Addr} {c : GroupCacheEntry} (hc : after addr = some c) : cache addr = some c := by
  induction cacheSeq generalizing cache with
  | nil =>
    rw [evict] at hevict
    split at hevict
    · cases hevict
    · cases hevict
      exact hc
  | cons entry _ ih =>
    rw [evict] at hevict
    split at hevict
    · have hkept := ih hevict
      by_cases haddr : addr = entry.2
      · rw [haddr, update_self] at hkept
        cases hkept
      · rwa [update_of_ne haddr] at hkept
    · cases hevict
      exact hc

/-- `send_L_Data` of an update, for an address that is in the cache. -/
theorem enter_of_some {gc : GroupCache} {l : LDataPDU} {c : GroupCacheEntry}
    (hc : gc.cache l.dest = some c) (now : ℕ) :
    { gc with cacheSeq := erase c.seq gc.cacheSeq }.enter c l now =
      (gc.remove l.dest).enter c l now := by
  rw [GroupCache.remove]
  simp only [hc]
  unfold GroupCache.enter
  simp only [update_idem]

/-- The three ways of `send_L_Data`. -/
theorem sendLData_cases {gc next : GroupCache} {l : LDataPDU} {now : ℕ}
    (hsend : gc.sendLData l now = .ok next) :
    (¬ (gc.enable ∧ isUpdate l.data) ∧ next = gc) ∨
    ((gc.enable ∧ isUpdate l.data) ∧ gc.cache l.dest = none ∧
      ∃ cache cacheSeq, evict gc.maxsize gc.cache gc.cacheSeq = .ok (cache, cacheSeq) ∧
        next = { gc with cache, cacheSeq }.enter { dst := l.dest } l now) ∨
    ((gc.enable ∧ isUpdate l.data) ∧ ∃ c, gc.cache l.dest = some c ∧
      next = (gc.remove l.dest).enter c l now) := by
  unfold GroupCache.sendLData at hsend
  split at hsend
  · next hupdate =>
    split at hsend
    · next hnew =>
      obtain ⟨⟨cache, cacheSeq⟩, hevict, hnext⟩ := bind_eq_ok_iff.1 hsend
      exact .inr (.inl ⟨hupdate, hnew, cache, cacheSeq, hevict, (ok.inj hnext).symm⟩)
    · next c hc =>
      refine .inr (.inr ⟨hupdate, c, hc, ?_⟩)
      rw [← enter_of_some hc]
      exact (ok.inj hsend).symm
  · next hnot => exact .inl ⟨hnot, (ok.inj hsend).symm⟩

/-- The parts of the cache that readers leave alone. -/
structure SameStore (gc next : GroupCache) : Prop where
  maxsize : next.maxsize = gc.maxsize
  enable : next.enable = gc.enable
  cache : next.cache = gc.cache
  cacheSeq : next.cacheSeq = gc.cacheSeq
  seq : next.seq = gc.seq

def Event.asks : Event → Bool
  | .read _ _ _ _ | .lastUpdates _ | .lastUpdates2 _ | .timeout _ | .remtrigger => true
  | _ => false

theorem sameStore_of_step {gc next : GroupCache} {event : Event} (hasks : event.asks)
    (hstep : step gc event = some next) : SameStore gc next := by
  cases event with
  | read =>
    cases hstep
    unfold GroupCache.read
    repeat' split
    all_goals exact ⟨rfl, rfl, rfl, rfl, rfl⟩
  | lastUpdates =>
    cases hstep
    unfold GroupCache.lastUpdates
    dsimp only
    split <;> exact ⟨rfl, rfl, rfl, rfl, rfl⟩
  | lastUpdates2 =>
    cases hstep
    exact ⟨rfl, rfl, rfl, rfl, rfl⟩
  | timeout | remtrigger =>
    obtain ⟨-, ⟨⟩⟩ := Option.ite_none_right_eq_some.1 hstep
    exact ⟨rfl, rfl, rfl, rfl, rfl⟩
  | _ => cases hasks

end Knxd.Cache
