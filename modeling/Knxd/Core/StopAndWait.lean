import Mathlib.Data.List.Pairwise
import Mathlib.Data.Nat.ModEq
import Mathlib.Tactic.Common

/-!
# Stop-and-wait transfer over lossy channels

A sender that keeps one numbered message outstanding and a receiver that
acknowledges every message it takes, over two first-in first-out channels that
may lose and duplicate what they carry.  The numbers here are unbounded; an
implementation sends them modulo some width.  The file gives the invariant of
one such direction, shows that every move keeps it, and derives from it that
comparing numbers modulo any width above one loses nothing.  Two endpoints that
both send and both receive then exchange their messages over one pair of
channels, and what each takes is a prefix of what the other queued.
-/

namespace Knxd.StopAndWait

open List Nat

/-! ## Channels that lose and duplicate -/

section Channel

variable {α β : Type}

/-- What an unreliable channel may do to its content: drop part of it, or
repeat one message right behind itself.  The order is never changed. -/
inductive Perturbs : List α → List α → Prop
  | lose {before after : List α} (hsub : after.Sublist before) : Perturbs before after
  | duplicate (front : List α) (item : α) (back : List α) :
      Perturbs (front ++ item :: back) (front ++ item :: item :: back)

theorem Perturbs.refl (channel : List α) : Perturbs channel channel :=
  .lose (List.Sublist.refl channel)

theorem Perturbs.mem {before after : List α} (h : Perturbs before after) {item : α}
    (hitem : item ∈ after) : item ∈ before := by
  cases h with
  | lose hsub => exact hsub.subset hitem
  | duplicate => simpa using hitem

/-- A channel sorted by a reflexive relation stays sorted. -/
theorem Perturbs.pairwise {before after : List α} (h : Perturbs before after)
    {rel : α → α → Prop} (hrefl : ∀ item, rel item item) (hsorted : before.Pairwise rel) :
    after.Pairwise rel := by
  cases h with
  | lose hsub => exact hsorted.sublist hsub
  | duplicate =>
    rw [pairwise_append, pairwise_cons] at hsorted ⊢
    obtain ⟨hfront, ⟨hcopy, hback⟩, hcross⟩ := hsorted
    refine ⟨hfront, ⟨?_, pairwise_cons.2 ⟨hcopy, hback⟩⟩, ?_⟩
    · intro other hother
      rcases mem_cons.1 hother with rfl | hother
      · exact hrefl other
      · exact hcopy other hother
    · intro left hleft right hright
      rcases mem_cons.1 hright with rfl | hright
      · exact hcross left hleft right mem_cons_self
      · exact hcross left hleft right hright

/-- Seen through a projection, a perturbed channel is a perturbed channel. -/
theorem Perturbs.filterMap {before after : List α} (h : Perturbs before after)
    (view : α → Option β) : Perturbs (before.filterMap view) (after.filterMap view) := by
  cases h with
  | lose hsub => exact .lose (hsub.filterMap view)
  | duplicate _ copy =>
    simp only [filterMap_append, filterMap_cons]
    cases view copy with
    | none => exact .refl _
    | some image => exact .duplicate _ image _

/-- The channel after its `index`-th message was lost. -/
def lose (index : ℕ) (channel : List α) : List α :=
  channel.eraseIdx index

/-- The channel after its `index`-th message was duplicated. -/
def duplicate (index : ℕ) (channel : List α) : List α :=
  match channel[index]? with
  | none => channel
  | some item => channel.take index ++ item :: channel.drop index

theorem perturbs_lose (index : ℕ) (channel : List α) : Perturbs channel (lose index channel) :=
  .lose (eraseIdx_sublist channel index)

theorem perturbs_duplicate (index : ℕ) (channel : List α) :
    Perturbs channel (duplicate index channel) := by
  unfold duplicate
  split
  · exact .refl channel
  · rename_i item hitem
    obtain ⟨hindex, rfl⟩ := List.getElem?_eq_some_iff.1 hitem
    rw [List.drop_eq_getElem_cons hindex]
    conv => enter [1]; rw [← List.take_append_drop index channel, List.drop_eq_getElem_cons hindex]
    exact .duplicate _ _ _

end Channel

/-! ## One direction of the transfer -/

/-- One direction: how many messages were submitted, acknowledged to the
sender and taken by the receiver, and the numbers in flight both ways, oldest
first. -/
structure Direction where
  submitted : ℕ
  acked : ℕ
  taken : ℕ
  data : List ℕ
  acks : List ℕ

/-- The receiver is at most one message ahead of what the sender knows, and
everything in flight is about the current message or the one before it. -/
structure Valid (direction : Direction) : Prop where
  acked_le : direction.acked ≤ direction.taken
  taken_le : direction.taken ≤ direction.acked + 1
  taken_le_submitted : direction.taken ≤ direction.submitted
  data_bound : ∀ number ∈ direction.data,
    direction.taken ≤ number + 1 ∧ number ≤ direction.acked ∧ number < direction.submitted
  acks_bound : ∀ number ∈ direction.acks,
    direction.acked ≤ number + 1 ∧ number < direction.taken
  data_sorted : direction.data.Pairwise (· ≤ ·)
  acks_sorted : direction.acks.Pairwise (· ≤ ·)

/-- The moves of one direction.  A message that is neither the expected one
nor a copy of the last one, and an acknowledgement nobody waits for, are
dropped: that is a perturbation. -/
inductive Move : Direction → Direction → Prop
  | submit (d : Direction) (count : ℕ) : Move d { d with submitted := d.submitted + count }
  | transmit (d : Direction) (hpending : d.acked < d.submitted) :
      Move d { d with data := d.data ++ [d.acked] }
  | take (d : Direction) (rest : List ℕ) (hdata : d.data = d.taken :: rest) :
      Move d { d with taken := d.taken + 1, data := rest, acks := d.acks ++ [d.taken] }
  | again (d : Direction) (number : ℕ) (rest : List ℕ) (hdata : d.data = number :: rest)
      (hlast : number + 1 = d.taken) :
      Move d { d with data := rest, acks := d.acks ++ [number] }
  | confirm (d : Direction) (rest : List ℕ) (hacks : d.acks = d.acked :: rest) :
      Move d { d with acked := d.acked + 1, acks := rest }
  | perturb (d : Direction) (data acks : List ℕ) (hdata : Perturbs d.data data)
      (hacks : Perturbs d.acks acks) :
      Move d { d with data, acks }

theorem Move.refl (d : Direction) : Move d d := .perturb d d.data d.acks (.refl _) (.refl _)

variable {number width : ℕ} {rest : List ℕ}

private theorem sorted_concat {numbers : List ℕ} (hsorted : numbers.Pairwise (· ≤ ·))
    (hbound : ∀ other ∈ numbers, other ≤ number) : (numbers ++ [number]).Pairwise (· ≤ ·) := by
  rw [pairwise_append]
  refine ⟨hsorted, pairwise_singleton _ _, ?_⟩
  intro other hother last hlast
  rw [mem_singleton.1 hlast]
  exact hbound other hother

variable {d d' : Direction}

section

variable (h : Valid d)
include h

theorem Valid.submit (count : ℕ) : Valid { d with submitted := d.submitted + count } where
  acked_le := h.acked_le
  taken_le := h.taken_le
  taken_le_submitted := le_trans h.taken_le_submitted (le_add_right _ _)
  data_bound number hnumber := by
    obtain ⟨hlow, hhigh, hsubmitted⟩ := h.data_bound number hnumber
    exact ⟨hlow, hhigh, Nat.lt_add_right count hsubmitted⟩
  acks_bound := h.acks_bound
  data_sorted := h.data_sorted
  acks_sorted := h.acks_sorted

theorem Valid.transmit (hpending : d.acked < d.submitted) :
    Valid { d with data := d.data ++ [d.acked] } where
  acked_le := h.acked_le
  taken_le := h.taken_le
  taken_le_submitted := h.taken_le_submitted
  data_bound number hnumber := by
    rcases mem_append.1 hnumber with hnumber | hnumber
    · exact h.data_bound number hnumber
    · rw [mem_singleton.1 hnumber]
      exact ⟨h.taken_le, le_rfl, hpending⟩
  acks_bound := h.acks_bound
  data_sorted := sorted_concat h.data_sorted fun other hother => (h.data_bound other hother).2.1
  acks_sorted := h.acks_sorted

theorem Valid.take (hdata : d.data = d.taken :: rest) :
    Valid { d with taken := d.taken + 1, data := rest, acks := d.acks ++ [d.taken] } := by
  obtain ⟨-, hacked, hsubmitted⟩ := h.data_bound d.taken (hdata ▸ mem_cons_self)
  have hsorted := hdata ▸ h.data_sorted
  rw [pairwise_cons] at hsorted
  constructor
  · exact le_trans h.acked_le (le_succ _)
  · exact succ_le_succ hacked
  · exact hsubmitted
  · intro number hnumber
    have hbound := h.data_bound number (hdata ▸ mem_cons_of_mem _ hnumber)
    exact ⟨succ_le_succ (hsorted.1 number hnumber), hbound.2⟩
  · intro number hnumber
    rcases mem_append.1 hnumber with hnumber | hnumber
    · obtain ⟨hlow, hhigh⟩ := h.acks_bound number hnumber
      exact ⟨hlow, lt_succ_of_lt hhigh⟩
    · rw [mem_singleton.1 hnumber]
      exact ⟨le_trans h.acked_le (le_succ _), lt_succ_self _⟩
  · exact hsorted.2
  · exact sorted_concat h.acks_sorted fun other hother => (h.acks_bound other hother).2.le

theorem Valid.again (hdata : d.data = number :: rest) (hlast : number + 1 = d.taken) :
    Valid { d with data := rest, acks := d.acks ++ [number] } where
  acked_le := h.acked_le
  taken_le := h.taken_le
  taken_le_submitted := h.taken_le_submitted
  data_bound other hother := h.data_bound other (hdata ▸ mem_cons_of_mem _ hother)
  acks_bound other hother := by
    rcases mem_append.1 hother with hother | hother
    · exact h.acks_bound other hother
    · rw [mem_singleton.1 hother]
      exact ⟨hlast ▸ h.acked_le, hlast ▸ lt_succ_self _⟩
  data_sorted := (pairwise_cons.1 (hdata ▸ h.data_sorted)).2
  acks_sorted := sorted_concat h.acks_sorted fun other hother =>
    le_of_lt_succ (lt_of_lt_of_eq (h.acks_bound other hother).2 hlast.symm)

theorem Valid.confirm (hacks : d.acks = d.acked :: rest) :
    Valid { d with acked := d.acked + 1, acks := rest } := by
  obtain ⟨-, htaken⟩ := h.acks_bound d.acked (hacks ▸ mem_cons_self)
  have hsorted := hacks ▸ h.acks_sorted
  rw [pairwise_cons] at hsorted
  constructor
  · exact htaken
  · exact le_trans h.taken_le (le_succ _)
  · exact h.taken_le_submitted
  · intro number hnumber
    obtain ⟨hlow, hhigh, hsubmitted⟩ := h.data_bound number hnumber
    exact ⟨hlow, le_trans hhigh (le_succ _), hsubmitted⟩
  · intro number hnumber
    have hbound := h.acks_bound number (hacks ▸ mem_cons_of_mem _ hnumber)
    exact ⟨succ_le_succ (hsorted.1 number hnumber), hbound.2⟩
  · exact h.data_sorted
  · exact hsorted.2

theorem Valid.perturb {data acks : List ℕ} (hdata : Perturbs d.data data)
    (hacks : Perturbs d.acks acks) : Valid { d with data, acks } where
  acked_le := h.acked_le
  taken_le := h.taken_le
  taken_le_submitted := h.taken_le_submitted
  data_bound number hnumber := h.data_bound number (hdata.mem hnumber)
  acks_bound number hnumber := h.acks_bound number (hacks.mem hnumber)
  data_sorted := hdata.pairwise le_refl h.data_sorted
  acks_sorted := hacks.pairwise le_refl h.acks_sorted

/-- The step lemma of one direction: every move keeps the invariant. -/
theorem Valid.move (hmove : Move d d') : Valid d' := by
  cases hmove with
  | submit count => exact h.submit count
  | transmit hpending => exact h.transmit hpending
  | take _ hdata => exact h.take hdata
  | again _ _ hdata hlast => exact h.again hdata hlast
  | confirm _ hacks => exact h.confirm hacks
  | perturb _ _ hdata hacks => exact h.perturb hdata hacks

end

/-! ## Numbers modulo a width -/

/-- Two numbers at most one apart are told apart modulo any width above one. -/
theorem mod_eq_iff_of_near {width left right : ℕ} (hwidth : 1 < width) (hle : left ≤ right)
    (hnear : right ≤ left + 1) : left % width = right % width ↔ left = right := by
  constructor
  · intro hmod
    rcases le_iff_lt_or_eq.1 hnear with hlt | rfl
    · exact le_antisymm hle (Nat.lt_succ_iff.1 hlt)
    · have hdvd := (modEq_iff_dvd' hle).1 hmod
      rw [Nat.add_sub_cancel_left] at hdvd
      exact absurd (le_of_dvd one_pos hdvd) (not_le.2 hwidth)
  · rintro rfl
    rfl

/-- A message in flight is the expected one or a copy of the last one taken. -/
theorem Valid.data_cases (h : Valid d) (hnumber : number ∈ d.data) :
    number = d.taken ∨ number + 1 = d.taken := by
  obtain ⟨hlow, hhigh, -⟩ := h.data_bound number hnumber
  have htaken := le_trans hhigh h.acked_le
  rcases le_iff_lt_or_eq.1 htaken with hlt | heq
  · exact .inr (le_antisymm hlt hlow)
  · exact .inl heq

theorem Valid.data_mod_iff (h : Valid d) (hnumber : number ∈ d.data) (hwidth : 1 < width) :
    number % width = d.taken % width ↔ number = d.taken := by
  obtain ⟨hlow, hhigh, -⟩ := h.data_bound number hnumber
  exact mod_eq_iff_of_near hwidth (le_trans hhigh h.acked_le) hlow

theorem Valid.data_succ_mod_iff (h : Valid d) (hnumber : number ∈ d.data) (hwidth : 1 < width) :
    (number + 1) % width = d.taken % width ↔ number + 1 = d.taken := by
  obtain ⟨hlow, hhigh, -⟩ := h.data_bound number hnumber
  have hnear := mod_eq_iff_of_near hwidth hlow (succ_le_succ (le_trans hhigh h.acked_le))
  exact eq_comm.trans (hnear.trans eq_comm)

/-- An acknowledgement in flight that matches modulo the width is the one the
sender waits for. -/
theorem Valid.acks_mod_iff (h : Valid d) (hnumber : number ∈ d.acks) (hwidth : 1 < width) :
    number % width = d.acked % width ↔ number = d.acked := by
  obtain ⟨hlow, hhigh⟩ := h.acks_bound number hnumber
  have hacked : number ≤ d.acked := le_of_lt_succ (lt_of_lt_of_le hhigh h.taken_le)
  exact mod_eq_iff_of_near hwidth hacked hlow

/-- Before anything was sent the invariant holds. -/
theorem valid_unsent (submitted : ℕ) : Valid ⟨submitted, 0, 0, [], []⟩ := by
  constructor <;> simp

/-! ## Repeated transmissions -/

section Repeats

variable {α : Type} {counts : List ℕ} {front items : List α} {item : α}

/-- The first items in order, each as often as its count says. -/
def repeats (counts : List ℕ) (items : List α) : List α :=
  (List.zipWith List.replicate counts items).flatten

theorem repeats_append (hlength : counts.length = front.length) (more : List ℕ) (back : List α) :
    repeats (counts ++ more) (front ++ back) = repeats counts front ++ repeats more back := by
  rw [repeats, zipWith_append hlength, flatten_append]
  rfl

theorem repeats_left (hlength : counts.length = front.length) (back : List α) :
    repeats counts (front ++ back) = repeats counts front := by
  have happend := repeats_append hlength [] back
  rw [append_nil] at happend
  rw [happend, repeats, repeats, zipWith_nil_left, flatten_nil, append_nil]

/-- Items behind those that were sent change nothing. -/
theorem repeats_extend (hlength : counts.length ≤ items.length) (more : List α) :
    repeats counts (items ++ more) = repeats counts items := by
  have hfront : counts.length = (items.take counts.length).length := by
    rw [length_take, min_eq_left hlength]
  have hlong := repeats_left hfront (items.drop counts.length ++ more)
  have hshort := repeats_left hfront (items.drop counts.length)
  rw [← append_assoc, take_append_drop] at hlong
  rw [take_append_drop] at hshort
  rw [hlong, hshort]

/-- The next item, with its own count. -/
theorem repeats_concat (hitem : items[counts.length]? = some item) (count : ℕ) :
    repeats (counts ++ [count]) items = repeats counts items ++ List.replicate count item := by
  obtain ⟨hlength, rfl⟩ := List.getElem?_eq_some_iff.1 hitem
  have hfront : counts.length = (items.take counts.length).length := by
    rw [List.length_take, min_eq_left hlength.le]
  have hlong := repeats_append hfront [count] (items.drop counts.length)
  have hshort := repeats_left hfront (items.drop counts.length)
  rw [take_append_drop] at hlong hshort
  rw [hlong, hshort, drop_eq_getElem_cons hlength]
  simp only [repeats, zipWith_cons_cons, zipWith_nil_left, flatten_cons, flatten_nil, append_nil]

/-- One more copy of the last item. -/
theorem repeats_again (hitem : items[counts.length]? = some item) (count : ℕ) :
    repeats (counts ++ [count + 1]) items = repeats (counts ++ [count]) items ++ [item] := by
  rw [repeats_concat hitem, repeats_concat hitem, replicate_succ', append_assoc]

end Repeats

/-! ## Two endpoints -/

section Endpoints

variable {M : Type}

/-- What travels between two endpoints: a numbered message or the
acknowledgement of one. -/
inductive Item (M : Type)
  | request (number : ℕ) (message : M)
  | ack (number : ℕ)

@[simp]
def Item.requestNumber : Item M → Option ℕ
  | .request number _ => some number
  | .ack _ => none

@[simp]
def Item.ackNumber : Item M → Option ℕ
  | .request _ _ => none
  | .ack number => some number

/-- An endpoint: the messages it sent that were acknowledged, those it still has
to get across, and the messages it took from its peer. -/
structure Endpoint (M : Type) where
  acked : List M
  queue : List M
  taken : List M

def Endpoint.stream (endpoint : Endpoint M) : List M :=
  endpoint.acked ++ endpoint.queue

open Endpoint (stream)

structure Link (M : Type) where
  left : Endpoint M
  right : Endpoint M
  toRight : List (Item M)
  toLeft : List (Item M)

namespace Link

def swap (link : Link M) : Link M :=
  ⟨link.right, link.left, link.toLeft, link.toRight⟩

def forward (link : Link M) : Direction where
  submitted := link.left.stream.length
  acked := link.left.acked.length
  taken := link.right.taken.length
  data := link.toRight.filterMap Item.requestNumber
  acks := link.toLeft.filterMap Item.ackNumber

inductive LeftStep : Link M → Link M → Prop
  | submit (link : Link M) (message : M) : LeftStep link
        { link with left := { link.left with queue := link.left.queue ++ [message] } }
  | transmit (link : Link M) (message : M) (rest : List M)
      (hqueue : link.left.queue = message :: rest) :
      LeftStep link
        { link with toRight := link.toRight ++ [.request link.left.acked.length message] }
  | take (link : Link M) (message : M) (rest : List (Item M))
      (hwire : link.toLeft = .request link.left.taken.length message :: rest) :
      LeftStep link
        { link with
          left := { link.left with taken := link.left.taken ++ [message] }
          toRight := link.toRight ++ [.ack link.left.taken.length]
          toLeft := rest }
  | again (link : Link M) (number : ℕ) (message : M) (rest : List (Item M))
      (hwire : link.toLeft = .request number message :: rest)
      (hlast : number + 1 = link.left.taken.length) :
      LeftStep link
        { link with toRight := link.toRight ++ [.ack number], toLeft := rest }
  | confirm (link : Link M) (message : M) (queue : List M) (rest : List (Item M))
      (hwire : link.toLeft = .ack link.left.acked.length :: rest)
      (hqueue : link.left.queue = message :: queue) :
      LeftStep link
        { link with
          left := { link.left with acked := link.left.acked ++ [message], queue }
          toLeft := rest }

/-- The content of one channel belongs to the stream of its sender, and what
its receiver took is a prefix of that stream. -/
structure Carries (sender receiver : Endpoint M) (wire : List (Item M)) : Prop where
  content : ∀ number message, .request number message ∈ wire →
    sender.stream[number]? = some message
  taken_prefix : receiver.taken <+: sender.stream

structure Valid (link : Link M) : Prop where
  forward : StopAndWait.Valid link.forward
  backward : StopAndWait.Valid link.swap.forward
  toRight : Carries link.left link.right link.toRight
  toLeft : Carries link.right link.left link.toLeft

theorem Valid.swap {link : Link M} (h : link.Valid) : link.swap.Valid :=
  ⟨h.backward, h.forward, h.toLeft, h.toRight⟩

variable {before after : Link M}

/-- A step of the left endpoint is a move of both directions. -/
theorem LeftStep.moves (hstep : LeftStep before after) :
    Move before.forward after.forward ∧ Move before.swap.forward after.swap.forward := by
  cases hstep with
  | submit =>
    constructor
    · convert Move.submit before.forward 1 using 1
      simp [Link.forward, stream, add_assoc]
    · exact Move.refl _
  | transmit _ _ hqueue =>
    constructor
    · convert Move.transmit before.forward ?_ using 1
      · simp [Link.forward]
      · simp [Link.forward, stream, hqueue]
    · convert Move.refl _ using 1
      simp [Link.forward, Link.swap]
  | take _ rest hwire =>
    constructor
    · convert Move.refl _ using 1
      simp [Link.forward, stream, hwire, filterMap_cons]
    · convert Move.take before.swap.forward (rest.filterMap Item.requestNumber) ?_ using 1
      · simp [Link.forward, Link.swap]
      · simp [Link.forward, Link.swap, hwire]
  | again number _ rest hwire hlast =>
    constructor
    · convert Move.refl _ using 1
      simp [Link.forward, hwire, filterMap_cons]
    · convert Move.again before.swap.forward number (rest.filterMap Item.requestNumber) ?_
        hlast using 1
      · simp [Link.forward, Link.swap]
      · simp [Link.forward, Link.swap, hwire]
  | confirm _ _ rest hwire hqueue =>
    constructor
    · convert Move.confirm before.forward (rest.filterMap Item.ackNumber) ?_ using 1
      · simp [Link.forward, stream, hqueue]
      · simp [Link.forward, hwire]
    · convert Move.refl _ using 1
      simp [Link.forward, Link.swap, hwire, filterMap_cons]

section Carries

variable {sender receiver sender' receiver' : Endpoint M} {wire wire' : List (Item M)}

/-- A longer stream still explains what was sent and taken before. -/
theorem Carries.extend (h : Carries sender receiver wire)
    (hstream : sender.stream <+: sender'.stream) (htaken : receiver'.taken = receiver.taken)
    (hwire : ∀ number message, .request number message ∈ wire' → .request number message ∈ wire) :
    Carries sender' receiver' wire' where
  content number message hmem := by
    have hbefore := h.content number message (hwire number message hmem)
    obtain ⟨_, hadded⟩ := hstream
    rw [← hadded, List.getElem?_append_left (List.getElem?_eq_some_iff.1 hbefore).1, hbefore]
  taken_prefix := by
    rw [htaken]
    exact h.taken_prefix.trans hstream

/-- Taking the message whose number is the count of those taken before extends
the prefix by one. -/
theorem Carries.take {message : M} (h : Carries sender receiver wire)
    (hmem : .request receiver.taken.length message ∈ wire) (hsubset : ∀ item ∈ wire', item ∈ wire) :
    Carries sender { receiver with taken := receiver.taken ++ [message] } wire' where
  content number other hother := h.content number other (hsubset _ hother)
  taken_prefix := by
    have hnext := h.content _ _ hmem
    obtain ⟨rest, hrest⟩ := h.taken_prefix
    rw [← hrest, getElem?_append_right le_rfl, Nat.sub_self] at hnext
    obtain ⟨tail, htail⟩ : ∃ tail, rest = message :: tail := by
      cases rest with
      | nil => cases hnext
      | cons _ tail => exact ⟨tail, by simpa using hnext⟩
    exact ⟨tail, by rw [← hrest, htail, append_assoc]; rfl⟩

end Carries

/-- The step lemma of two endpoints, for the left one. -/
theorem Valid.leftStep (h : before.Valid) (hstep : LeftStep before after) : after.Valid := by
  obtain ⟨hforward, hbackward⟩ := hstep.moves
  refine ⟨h.forward.move hforward, h.backward.move hbackward, ?_, ?_⟩
  · cases hstep with
    | submit message =>
      exact h.toRight.extend ⟨[message], by simp [stream]⟩ rfl fun _ _ hmem => hmem
    | transmit message _ hqueue =>
      refine ⟨fun number other hmem => ?_, h.toRight.taken_prefix⟩
      rcases mem_append.1 hmem with hmem | hmem
      · exact h.toRight.content number other hmem
      · obtain ⟨rfl, rfl⟩ : number = before.left.acked.length ∧ other = message := by
          simpa using hmem
        simp [stream, hqueue]
    | take | again =>
      exact h.toRight.extend (prefix_refl _) rfl fun _ _ hmem => by simpa using hmem
    | confirm _ _ _ _ hqueue =>
      exact h.toRight.extend ⟨[], by simp [stream, hqueue]⟩ rfl fun _ _ hmem => hmem
  · cases hstep with
    | submit => exact h.toLeft.extend (prefix_refl _) rfl fun _ _ hmem => hmem
    | transmit => exact h.toLeft
    | take _ _ hwire =>
      refine h.toLeft.take (hwire ▸ mem_cons_self) fun item hmem => ?_
      exact hwire ▸ mem_cons_of_mem _ hmem
    | again _ _ _ hwire | confirm _ _ _ hwire =>
      refine h.toLeft.extend (prefix_refl _) rfl fun _ _ hmem => ?_
      exact hwire ▸ mem_cons_of_mem _ hmem

theorem Valid.perturb (h : before.Valid) {toRight toLeft : List (Item M)}
    (hright : Perturbs before.toRight toRight) (hleft : Perturbs before.toLeft toLeft) :
    Valid { before with toRight, toLeft } where
  forward := h.forward.perturb (hright.filterMap _) (hleft.filterMap _)
  backward := h.backward.perturb (hleft.filterMap _) (hright.filterMap _)
  toRight := h.toRight.extend (prefix_refl _) rfl fun _ _ hmem => hright.mem hmem
  toLeft := h.toLeft.extend (prefix_refl _) rfl fun _ _ hmem => hleft.mem hmem

/-- What was acknowledged to an endpoint was taken by its peer. -/
theorem Valid.acked_prefix {link : Link M} (h : link.Valid) :
    link.left.acked <+: link.right.taken :=
  prefix_of_prefix_length_le (prefix_append _ _) h.toRight.taken_prefix h.forward.acked_le

/-- The left endpoint can tell from the number of an arriving message, modulo
any width above one, whether it is the next one or a copy of the last one; it is
one of the two. -/
theorem Valid.arriving {link : Link M} (h : link.Valid) {number width : ℕ} {message : M}
    {rest : List (Item M)} (hwire : link.toLeft = .request number message :: rest)
    (hwidth : 1 < width) :
    (number % width = link.left.taken.length % width ↔ number = link.left.taken.length) ∧
      ((number + 1) % width = link.left.taken.length % width ↔
        number + 1 = link.left.taken.length) ∧
      (number = link.left.taken.length ∨ number + 1 = link.left.taken.length) := by
  have hmem : number ∈ link.swap.forward.data := by
    simp [Link.forward, Link.swap, hwire]
  exact ⟨h.backward.data_mod_iff hmem hwidth, h.backward.data_succ_mod_iff hmem hwidth,
    h.backward.data_cases hmem⟩

/-- The same for an arriving acknowledgement. -/
theorem Valid.confirming {link : Link M} (h : link.Valid) {number width : ℕ}
    {rest : List (Item M)} (hwire : link.toLeft = .ack number :: rest) (hwidth : 1 < width) :
    number % width = link.left.acked.length % width ↔ number = link.left.acked.length := by
  have hmem : number ∈ link.forward.acks := by
    simp [Link.forward, hwire]
  exact h.forward.acks_mod_iff hmem hwidth

theorem valid_of_unsent {link : Link M} (hleft : link.left.acked = [] ∧ link.left.taken = [])
    (hright : link.right.acked = [] ∧ link.right.taken = []) (htoRight : link.toRight = [])
    (htoLeft : link.toLeft = []) : link.Valid := by
  obtain ⟨⟨_, _, _⟩, ⟨_, _, _⟩, _, _⟩ := link
  obtain ⟨rfl, rfl⟩ := hleft
  obtain ⟨rfl, rfl⟩ := hright
  subst htoRight htoLeft
  exact ⟨valid_unsent _, valid_unsent _, ⟨by simp, nil_prefix⟩, ⟨by simp, nil_prefix⟩⟩

end Link

end Endpoints

end Knxd.StopAndWait
