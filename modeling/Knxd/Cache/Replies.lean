import Knxd.Cache.Eviction
import Knxd.Cache.History

/-!
# The replies with the last updates

The list that a tracker has collected is written to the client as one message, behind its length.
The length has 16 bits, and the list has two bytes for each address.  By default the cache holds
65535 addresses, so that a list can be longer than the length can say.
-/

namespace Knxd.Replies

open Memory LPDU Cache Eviction List GroupCache
open Transition (run)
open BitVec (ofNat)

/-- `ClientConnection::sendmessage`: the arrays that it writes. -/
def sendmessage (size : ℤ) (msg : CArray) : Run (List CArray) := do
  require (2 ≤ size)
  let low := BitVec.ofInt 16 size
  let written ← readPart msg 0 size.toNat
  pure [[highByte low, lowByte low], written]

/-- The client reads the length of the message and then the whole message. -/
def Framed (erg : CArray) : Prop :=
  ∃ high low, sendmessage (BitVec.ofNat 32 erg.length).toInt erg = .ok [[high, low], erg] ∧
    (joinBytes high low).toNat = erg.length

inductive Callback
  | lastUpdates
  | lastUpdates2
  deriving DecidableEq, Repr

def Callback.head (finish : ℕ) : Callback → CArray
  | .lastUpdates => [0x00, 0x76, BitVec.ofNat 8 (finish >>> 8), BitVec.ofNat 8 finish]
  | .lastUpdates2 =>
    [0x00, 0x77, BitVec.ofNat 8 (finish >>> 24), BitVec.ofNat 8 (finish >>> 16),
      BitVec.ofNat 8 (finish >>> 8), BitVec.ofNat 8 finish]

/-- `LastUpdatesCallback` and `LastUpdates2Callback`: what is passed to `sendmessage`. -/
def Callback.erg (callback : Callback) (addrs : List Addr) (finish : ℕ) : CArray :=
  callback.head finish ++ addrs.flatMap fun addr => [highByte addr, lowByte addr]

def Callback.limit : Callback → ℕ
  | .lastUpdates => 32765
  | .lastUpdates2 => 32764

theorem framed_iff {erg : CArray} (hsize : 2 ≤ erg.length) : Framed erg ↔ erg.length < 65536 := by
  constructor
  · rintro ⟨high, low, -, hlength⟩
    rw [← hlength]
    exact (joinBytes high low).isLt
  · intro hshort
    have hint : (ofNat 32 erg.length).toInt = erg.length := by
      rw [BitVec.toInt_eq_toNat_of_lt (by simp; omega)]
      simp
      omega
    have hpart : readPart erg 0 erg.length = .ok erg := by simp [readPart]
    refine ⟨_, _, by
      rw [sendmessage, hint, require_of (by omega), Int.toNat_natCast, ok_bind, hpart, ok_bind]
      rfl, ?_⟩
    rw [joinBytes_highByte_lowByte]
    simp
    omega

theorem length_erg (callback : Callback) (addrs : List Addr) (finish : ℕ) :
    (callback.erg addrs finish).length = (callback.head finish).length + 2 * addrs.length := by
  simp [Callback.erg, length_flatMap, Nat.mul_comm]

theorem framed_erg_iff (callback : Callback) (addrs : List Addr) (finish : ℕ) :
    Framed (callback.erg addrs finish) ↔ addrs.length ≤ callback.limit := by
  have hlength := length_erg callback addrs finish
  cases callback with
  | lastUpdates | lastUpdates2 =>
    simp only [Callback.head, length_cons, length_nil] at hlength
    rw [framed_iff (by omega), Callback.limit]
    omega

/-- Whatever the cache holds, the answer to a tracker is framed if and only if what it has
collected before and the updates from its start on are not more addresses than the limit. -/
theorem tracker_reply_framed_iff (gc : GroupCache) (r : Reader) (start : ℕ) (callback : Callback) :
    (∀ request addrs finish, .last request addrs finish ∈ (r.handler start gc.cacheSeq gc.seq).2 →
        Framed (callback.erg addrs finish)) ↔
      r.a.length + (Reader.collect start gc.cacheSeq.reverse).length ≤ callback.limit := by
  simp only [Reader.handler, mem_singleton, Output.last.injEq]
  rw [← length_append, ← framed_erg_iff callback _ gc.seq]
  constructor
  · intro hframed
    exact hframed _ _ _ ⟨rfl, rfl, rfl⟩
  · rintro hframed _ _ _ ⟨rfl, rfl, rfl⟩
    exact hframed

/-- Updates of the first addresses. -/
def fill (count : ℕ) : List Event :=
  (List.range count).map fun index => write (BitVec.ofNat 16 index) 0

structure Filled (count : ℕ) (gc : GroupCache) : Prop where
  maxsize : gc.maxsize = 65535
  enable : gc.enable = true
  reader : gc.reader = []
  requests : gc.requests = 0
  outputs : gc.outputs = []
  cacheSeq : gc.cacheSeq = (List.range count).map fun index => (index + 1, BitVec.ofNat 16 index)
  seq : gc.seq = count
  free : ∀ index, count ≤ index → index < 65536 → gc.cache (BitVec.ofNat 16 index) = none

theorem Filled.write {count : ℕ} {gc : GroupCache} (hfilled : Filled count gc)
    (hcount : count < 65535) :
    ∃ next, step gc (write (ofNat 16 count) 0) = some next ∧ Filled (count + 1) next := by
  have hlength : gc.cacheSeq.length < gc.maxsize := by
    simp [hfilled.cacheSeq, hfilled.maxsize, hcount]
  have hupdate : gc.enable ∧ isUpdate [0x00, 0x80, 0] := ⟨hfilled.enable, by decide⟩
  have hnumber : (gc.seq + 1) % 2 ^ 32 = count + 1 := by
    rw [hfilled.seq]
    omega
  have hemplace : Recency.emplace (count + 1) (ofNat 16 count) gc.cacheSeq =
      gc.cacheSeq ++ [(count + 1, ofNat 16 count)] := by
    refine Recency.emplace_of_forall_lt _ fun other hother => ?_
    rw [hfilled.cacheSeq] at hother
    obtain ⟨index, hindex, rfl⟩ := mem_map.1 hother
    simpa using hindex
  refine ⟨_, by
    simp only [step, Eviction.write, sendLData, if_pos hupdate,
      hfilled.free count le_rfl (by omega), evict_of_length_lt gc.cache hlength]
    rfl, ?_⟩
  refine ⟨hfilled.maxsize, hfilled.enable, ?_, hfilled.requests, ?_, ?_, hnumber, ?_⟩
  · simp [enter, updated, settle, hfilled.reader]
  · simp [enter, updated, settle, hfilled.reader, hfilled.outputs]
  · simp only [enter, updated, settle, hnumber, hemplace]
    rw [range_succ, map_append, ← hfilled.cacheSeq]
    rfl
  · intro index hle hindex
    have hne : (ofNat 16 index : Addr) ≠ ofNat 16 count := by
      intro heq
      have hnat := congrArg BitVec.toNat heq
      simp only [BitVec.toNat_ofNat] at hnat
      omega
    simp only [enter, updated, settle]
    rw [Function.update_of_ne hne]
    exact hfilled.free index (by omega) hindex

theorem exists_filled {count : ℕ} (hcount : count ≤ 65535) :
    ∃ gc, run step (setup 0xFFFF) (.driverStart :: fill count) = some gc ∧ Filled count gc := by
  induction count with
  | zero => exact ⟨_, rfl, ⟨rfl, rfl, rfl, rfl, rfl, rfl, rfl, fun _ _ _ => rfl⟩⟩
  | succ _ ih =>
    obtain ⟨_, hrun, hfilled⟩ := ih (by omega)
    obtain ⟨next, hstep, hnext⟩ := hfilled.write (by omega)
    refine ⟨next, ?_, hnext⟩
    rw [fill, range_succ, map_append, ← fill, ← cons_append,
      Transition.run_append _ hrun, map_singleton, run, hstep]
    rfl

/-- All addresses are listed. -/
theorem Filled.length_collect {count : ℕ} {gc : GroupCache} (hfilled : Filled count gc) :
    (Reader.collect 0 gc.cacheSeq.reverse).length = count := by
  have hsorted : gc.cacheSeq.Pairwise fun older newer => older.1 < newer.1 := by
    rw [hfilled.cacheSeq, pairwise_map]
    exact pairwise_lt_range.imp fun hlt => Nat.succ_lt_succ hlt
  rw [History.collect_eq (pairwise_reverse.2 hsorted), hfilled.cacheSeq]
  simp

/-- A request for all of them, and its answer. -/
theorem exists_listed {count : ℕ} (hcount : count ≤ 65535) : ∃ gc addrs, run step (setup 0xFFFF)
      (.driverStart :: fill count ++ [.lastUpdates2 0, .timeout 0]) = some gc ∧
      gc.outputs = [.last 0 addrs count] ∧ addrs.length = count := by
  obtain ⟨gc, hrun, hfilled⟩ := exists_filled hcount
  refine ⟨(gc.lastUpdates2 0).timeoutCb 0, Reader.collect 0 gc.cacheSeq.reverse, ?_, ?_,
    hfilled.length_collect⟩
  · rw [Transition.run_append _ hrun]
    simp [run, step, lastUpdates2, add, hfilled.reader, hfilled.requests]
  · simp [lastUpdates2, add, timeoutCb, settle,
      Reader.timeoutCb, Reader.handler, hfilled.reader, hfilled.requests, hfilled.outputs,
      hfilled.seq]

/-- With the default size, 32766 addresses are updated and then asked for: the length of the reply
is given as 2. -/
theorem last_updates_reply_cut : ∃ gc addrs, run step (setup 0xFFFF)
      (.driverStart :: fill 32766 ++ [.lastUpdates2 0, .timeout 0]) = some gc ∧
    gc.outputs = [.last 0 addrs 32766] ∧
    sendmessage (Callback.lastUpdates2.erg addrs 32766).length
        (Callback.lastUpdates2.erg addrs 32766) =
      .ok [[0x00, 0x02], Callback.lastUpdates2.erg addrs 32766] ∧
    ¬ Framed (Callback.lastUpdates2.erg addrs 32766) := by
  obtain ⟨gc, addrs, hrun, houtputs, hcount⟩ :=
    exists_listed (show 32766 ≤ 65535 by decide)
  refine ⟨gc, addrs, hrun, houtputs, ?_, ?_⟩
  · have hlength := length_erg .lastUpdates2 addrs 32766
    rw [hcount] at hlength
    generalize Callback.lastUpdates2.erg addrs 32766 = erg at hlength
    have hpart : readPart erg 0 erg.length = .ok erg := by simp [readPart]
    rw [sendmessage, Int.toNat_natCast, hpart, hlength]
    rfl
  · rw [framed_erg_iff, hcount]
    decide

end Knxd.Replies
