import Knxd.Routing.Traffic

/-!
# The address translation of a link

`NatL2Filter` lets everything behind a link see the daemon as one device.  A frame that
is sent gets the filter's own address as its source; the filter remembers who sent to
which address, and turns a frame that comes back from there to the sender.  The table
`revaddr` is an association list.  It stands for a map in which each frame that is sent
overwrites the entry of its destination.

The address of the filter changes when a tunnel server assigns one.
-/

namespace Knxd.NatL2

open LPDU Traffic Function List

structure PhysComm where
  src : Addr
  dest : Addr
  deriving DecidableEq, Repr

structure NatL2Filter where
  addr : Addr
  revaddr : List PhysComm := []
  deriving DecidableEq, Repr

/-- The loop of `addReverseAddress`. -/
def addReverseAddress (src dest : Addr) : List PhysComm → List PhysComm
  | [] => [⟨src, dest⟩]
  | entry :: rest =>
    if entry.dest = dest then { entry with src } :: rest
    else entry :: addReverseAddress src dest rest

def reverse (revaddr : List PhysComm) (peer : Addr) : Option Addr :=
  (revaddr.find? fun entry => entry.dest = peer).map PhysComm.src

def getDestinationAddress (revaddr : List PhysComm) (src : Addr) : Addr :=
  (reverse revaddr src).getD 0

namespace NatL2Filter

/-- `send_L_Data`, with the frame that is sent on. -/
def sendLData (f : NatL2Filter) (l : LDataPDU) : NatL2Filter × LDataPDU :=
  ({ f with
      revaddr :=
        if l.addrType = .individualAddress then addReverseAddress l.source l.dest f.revaddr
        else f.revaddr },
    { l with source := f.addr })

/-- `recv_L_Data`: the frame that is handed on, if any. -/
def recvLData (f : NatL2Filter) (l : LDataPDU) : Option LDataPDU :=
  if l.source = f.addr then none
  else if l.addrType = .individualAddress then
    some { l with dest := getDestinationAddress f.revaddr l.source }
  else some l

end NatL2Filter

inductive Event
  | send (l : LDataPDU)
  | recv (l : LDataPDU)
  | setAddress (addr : Addr)
  deriving DecidableEq, Repr

def step (f : NatL2Filter) : Event → NatL2Filter × Option LDataPDU
  | .send l => ((f.sendLData l).1, some (f.sendLData l).2)
  | .recv l => (f, f.recvLData l)
  | .setAddress addr => ({ f with addr }, none)

def runEvents (f : NatL2Filter) (events : List Event) : NatL2Filter :=
  events.foldl (fun f event => (step f event).1) f

def requester (peer : Addr) : Event → Option Addr
  | .send l => if l.addrType = .individualAddress ∧ l.dest = peer then some l.source else none
  | .recv _ | .setAddress _ => none

/-- The sender of the latest frame that was sent to an address. -/
def lastRequester (peer : Addr) (events : List Event) : Option Addr :=
  (events.filterMap (requester peer)).getLast?

theorem lastRequester_concat (peer : Addr) (events : List Event) (event : Event) :
    lastRequester peer (events ++ [event]) =
      (requester peer event).or (lastRequester peer events) := by
  rw [lastRequester, filterMap_append, lastRequester]
  cases hrequester : requester peer event with
  | none | some => simp [hrequester]

/-- An entry is looked up as it was written last. -/
theorem reverse_addReverseAddress (src dest : Addr) (revaddr : List PhysComm) :
    reverse (addReverseAddress src dest revaddr) =
      Function.update (reverse revaddr) dest (some src) := by
  funext peer
  induction revaddr with
  | nil =>
    by_cases hpeer : peer = dest
    · simp [addReverseAddress, reverse, hpeer]
    · simp [addReverseAddress, reverse, update_of_ne hpeer, Ne.symm hpeer]
  | cons entry _ ih =>
    rw [addReverseAddress]
    by_cases hentry : entry.dest = dest
    · rw [if_pos hentry]
      by_cases hpeer : peer = dest
      · simp [reverse, hentry, hpeer]
      · have hother : entry.dest ≠ peer := fun h => hpeer (h.symm.trans hentry)
        simp [reverse, hother, update_of_ne hpeer]
    · rw [if_neg hentry]
      by_cases hpeer : entry.dest = peer
      · have hother : peer ≠ dest := fun h => hentry (hpeer.trans h)
        simp [reverse, hpeer, update_of_ne hother]
      · have hskip : ∀ list, reverse (entry :: list) peer = reverse list peer := by
          intro list
          simp [reverse, hpeer]
        rw [hskip, ih]
        by_cases hdest : peer = dest
        · simp [hdest]
        · rw [update_of_ne hdest, update_of_ne hdest, hskip]

/-- An entry is overwritten in its place, or added as a new one. -/
theorem dest_addReverseAddress (src dest : Addr) (revaddr : List PhysComm) :
    (addReverseAddress src dest revaddr).map PhysComm.dest =
      if dest ∈ revaddr.map PhysComm.dest then revaddr.map PhysComm.dest
      else revaddr.map PhysComm.dest ++ [dest] := by
  induction revaddr with
  | nil => rfl
  | cons entry rest ih =>
    rw [addReverseAddress]
    by_cases hentry : entry.dest = dest
    · simp [hentry]
    · rw [if_neg hentry, map_cons, map_cons, ih]
      have hmem : dest ∈ entry.dest :: rest.map PhysComm.dest ↔ dest ∈ rest.map PhysComm.dest :=
        mem_cons.trans (or_iff_right (Ne.symm hentry))
      simp only [hmem]
      split <;> rfl

/-- The table after a sequence of calls: it has one entry for each address, that of the latest
frame. -/
structure Reversed (f : NatL2Filter) (events : List Event) : Prop where
  nodup : (f.revaddr.map PhysComm.dest).Nodup
  latest : ∀ peer, reverse f.revaddr peer = lastRequester peer events

theorem Reversed.step {f : NatL2Filter} {events : List Event} (hf : Reversed f events)
    (event : Event) : Reversed (step f event).1 (events ++ [event]) := by
  -- nothing but a frame to one address is an entry
  have hother : (∀ peer, requester peer event = none) →
      ∀ peer, reverse f.revaddr peer = lastRequester peer (events ++ [event]) := by
    intro hnone peer
    rw [lastRequester_concat, hnone, Option.none_or, hf.latest]
  cases event with
  | send l =>
    by_cases hindividual : l.addrType = .individualAddress
    · have hrevaddr : (NatL2.step f (.send l)).1.revaddr =
          addReverseAddress l.source l.dest f.revaddr := if_pos hindividual
      constructor
      · rw [hrevaddr, dest_addReverseAddress]
        split
        · exact hf.nodup
        · next hnew =>
          rw [← concat_eq_append]
          exact hf.nodup.concat hnew
      · intro peer
        rw [hrevaddr, reverse_addReverseAddress, lastRequester_concat, ← hf.latest]
        by_cases hpeer : peer = l.dest
        · simp [requester, hindividual, hpeer]
        · simp [requester, Ne.symm hpeer, update_of_ne hpeer]
    · have hrevaddr : (NatL2.step f (.send l)).1.revaddr = f.revaddr := if_neg hindividual
      constructor
      · rw [hrevaddr]
        exact hf.nodup
      · rw [hrevaddr]
        exact hother fun peer => if_neg fun h => hindividual h.1
  | recv | setAddress => exact ⟨hf.nodup, hother fun _ => rfl⟩

theorem reversed_runEvents (addr : Addr) (events : List Event) :
    Reversed (runEvents { addr } events) events := by
  induction events using reverseRecOn with
  | nil => exact ⟨nodup_nil, fun _ => rfl⟩
  | append_singleton _ event ih =>
    rw [runEvents, foldl_concat]
    exact ih.step event

/-- The router drops a frame without a destination, whatever its state. -/
theorem recvLData_dest_zero (t : Relay) (key : ℕ) {l : LDataPDU}
    (hindividual : l.addrType = .individualAddress) : t.recvLData key { l with dest := 0 } = t :=
  if_pos ⟨hindividual, rfl⟩

/-- After every sequence of calls the table has at most one entry for each address; a frame from
an address goes to the sender of the latest frame that was sent there, and if there was none it
gets no destination and the router drops it.  Frames with the filter's own address as their
source are those it sent itself; they go no further. -/
theorem replies_to_last_requester (addr : Addr) (events : List Event) :
    ((runEvents { addr } events).revaddr.map PhysComm.dest).Nodup ∧
    ∀ l : LDataPDU, l.addrType = .individualAddress → (runEvents { addr } events).recvLData l =
        (if l.source = (runEvents { addr } events).addr then none
        else some { l with dest := (lastRequester l.source events).getD 0 }) ∧
      (lastRequester l.source events = none → ∀ (t : Relay) (key : ℕ),
        t.recvLData key { l with dest := (lastRequester l.source events).getD 0 } = t) := by
  obtain ⟨hnodup, hlatest⟩ := reversed_runEvents addr events
  refine ⟨hnodup, fun l hindividual => ⟨?_, fun hnone t key => ?_⟩⟩
  · rw [NatL2Filter.recvLData, if_pos hindividual, getDestinationAddress, hlatest]
  · rw [hnone]
    exact recvLData_dest_zero t key hindividual

/-- Two senders ask the same device; its answer goes to the second one. -/
theorem replies_to_last_requester_second :
    (runEvents { addr := 0x1101 } [.send { source := 0x1203, dest := 0x110A },
        .send { source := 0x1204, dest := 0x110A }]).recvLData
      { source := 0x110A, dest := 0x1101 } = some { source := 0x110A, dest := 0x1204 } := by
  rw [((replies_to_last_requester _ _).2 _ rfl).1]
  decide

end Knxd.NatL2
