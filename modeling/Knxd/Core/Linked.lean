import Mathlib

/-!
# Doubly linked chains

Nodes with a pointer to the next and a pointer to the previous node stand for a list if
each pointer leads to the neighbour in the list and to nothing else.  A node is inserted
between two neighbours by connecting it to the first and then to the second one.
-/

namespace Knxd.DoublyLinked

open List Function

variable {Node : Type*}

structure Links (Node : Type*) where
  next : Node → Option Node := fun _ => none
  prev : Node → Option Node := fun _ => none

def Threads (pointer : Node → Option Node) (order : List Node) : Prop :=
  ∀ node other, pointer node = some other ↔ [node, other] <:+: order

/-- The pointers stand for a list. -/
structure Linked (links : Links Node) (order : List Node) : Prop where
  nodup : order.Nodup
  next : Threads links.next order
  prev : Threads links.prev order.reverse

section Neighbours

variable {node other first second : Node} {before after : List Node}

theorem pair_infix_cons_cons : [node, other] <:+: first :: second :: after ↔
      node = first ∧ other = second ∨ [node, other] <:+: second :: after := by
  rw [infix_cons_iff, cons_prefix_cons, cons_prefix_cons]
  simp

theorem not_pair_infix_singleton : ¬ [node, other] <:+: [first] := fun hpair =>
  absurd hpair.length_le (by simp)

theorem pair_infix_append_cons_cons : [node, other] <:+: before ++ first :: second :: after ↔
      [node, other] <:+: before ++ [first] ∨ (node = first ∧ other = second) ∨
        [node, other] <:+: second :: after := by
  induction before with
  | nil => simp only [nil_append, pair_infix_cons_cons, not_pair_infix_singleton, false_or]
  | cons _ before ih =>
    cases before with
    | nil =>
      simp only [cons_append, nil_append, pair_infix_cons_cons, not_pair_infix_singleton, or_false]
    | cons =>
      simp only [cons_append, pair_infix_cons_cons] at ih ⊢
      rw [ih, or_assoc]

/-- The last element has no neighbour after it. -/
theorem mem_of_pair_infix_concat (hpair : [node, other] <:+: before ++ [first]) :
    node ∈ before := by
  induction before with
  | nil => exact absurd hpair not_pair_infix_singleton
  | cons head before ih =>
    cases before with
    | nil =>
      obtain ⟨rfl, -⟩ | hpair := pair_infix_cons_cons.1 hpair
      · exact mem_cons_self
      · exact absurd hpair not_pair_infix_singleton
    | cons =>
      obtain ⟨rfl, -⟩ | hpair := pair_infix_cons_cons.1 hpair
      · exact mem_cons_self
      · exact mem_cons_of_mem head (ih hpair)

end Neighbours

section Insertion

variable [DecidableEq Node]

/-- Makes two nodes neighbours. -/
def Links.connect (links : Links Node) (first second : Node) : Links Node where
  next := Function.update links.next first (some second)
  prev := Function.update links.prev second (some first)

variable {links : Links Node} {pointer : Node → Option Node} {order before after : List Node}
variable {first second new : Node}

theorem Threads.insert (hthreads : Threads pointer (before ++ first :: second :: after))
    (hnodup : (before ++ first :: second :: after).Nodup)
    (hnew : new ∉ before ++ first :: second :: after) :
    Threads (update (update pointer first (some new)) new (some second))
      (before ++ first :: new :: second :: after) := by
  intro node other
  have hold : first ∉ before ++ second :: after := (nodup_cons.1 (nodup_middle.1 hnodup)).1
  rw [mem_append, not_or] at hold
  rw [mem_append, mem_cons, not_or, not_or] at hnew
  obtain ⟨hbefore, hfirst, hafter⟩ := hnew
  rw [pair_infix_append_cons_cons, pair_infix_cons_cons]
  by_cases hnode : node = new
  · subst hnode
    have hleft : ¬ [node, other] <:+: before ++ [first] :=
      fun hpair => hbefore (mem_of_pair_infix_concat hpair)
    have hright : ¬ [node, other] <:+: second :: after :=
      fun hpair => hafter (hpair.subset mem_cons_self)
    rw [update_self, Option.some.injEq, eq_comm]
    simp only [hleft, hright, hfirst, true_and, false_and, false_or, or_false]
  rw [update_of_ne hnode]
  by_cases hsame : node = first
  · subst hsame
    have hleft : ¬ [node, other] <:+: before ++ [node] :=
      fun hpair => hold.1 (mem_of_pair_infix_concat hpair)
    have hright : ¬ [node, other] <:+: second :: after :=
      fun hpair => hold.2 (hpair.subset mem_cons_self)
    rw [update_self, Option.some.injEq, eq_comm]
    simp only [hleft, hright, hnode, true_and, false_and, false_or, or_false]
  · rw [update_of_ne hsame, hthreads, pair_infix_append_cons_cons]
    simp only [hnode, hsame, false_and, false_or]

/-- Two nodes make a chain. -/
theorem linked_pair (hne : first ≠ second) :
    Linked (Links.connect {} first second) [first, second] := by
  have hpair : ∀ {source target : Node}, source ≠ target →
      Threads (update (fun _ => none) source (some target)) [source, target] := by
    intro source target hne node other
    rw [pair_infix_cons_cons, or_iff_left not_pair_infix_singleton]
    by_cases hnode : node = source
    · subst hnode
      rw [update_self, Option.some.injEq, eq_comm]
      exact (and_iff_right rfl).symm
    · rw [update_of_ne hnode]
      exact ⟨nofun, fun hboth => absurd hboth.1 hnode⟩
  exact ⟨by simpa using hne, hpair hne, hpair hne.symm⟩

/-- A node that is not in the chain is put between two neighbours. -/
theorem Linked.insert (hlinked : Linked links (before ++ first :: second :: after))
    (hnew : new ∉ before ++ first :: second :: after) :
    Linked ((links.connect first new).connect new second)
      (before ++ first :: new :: second :: after) := by
  have hne : new ≠ second := by
    rintro rfl
    exact hnew (by simp)
  refine ⟨?_, hlinked.next.insert hlinked.nodup hnew, ?_⟩
  · have hperm : (before ++ first :: new :: second :: after).Perm
        (new :: (before ++ first :: second :: after)) := by
      rw [← singleton_append, ← append_assoc]
      refine perm_middle.trans (List.Perm.cons new ?_)
      rw [append_assoc]
      rfl
    exact hperm.nodup_iff.2 (nodup_cons.2 ⟨hnew, hlinked.nodup⟩)
  · have hreverse : (before ++ first :: second :: after).reverse =
        after.reverse ++ second :: first :: before.reverse := by simp
    have hinserted : (before ++ first :: new :: second :: after).reverse =
        after.reverse ++ second :: new :: first :: before.reverse := by simp
    have hprev := hlinked.prev
    have hnodup := nodup_reverse.2 hlinked.nodup
    rw [← mem_reverse] at hnew
    rw [hreverse] at hprev hnodup hnew
    rw [hinserted, Links.connect, Links.connect]
    dsimp only
    rw [update_comm hne]
    exact hprev.insert hnodup hnew

end Insertion

section Pointers

variable {links : Links Node} {order before after : List Node} {first second last : Node}

/-- The two pointers are each other's inverse. -/
theorem Linked.prev_eq_some_iff (hlinked : Linked links order) :
    links.prev second = some first ↔ links.next first = some second := by
  rw [hlinked.prev, hlinked.next, ← reverse_infix]
  simp

theorem Linked.isChain (hlinked : Linked links order) :
    order.IsChain fun node other => links.next node = some other :=
  (isChain_isInfix order).imp fun node other hpair => (hlinked.next node other).2 hpair

theorem Linked.next_eq (hlinked : Linked links (before ++ first :: second :: after)) :
    links.next first = some second :=
  (hlinked.next first second).2 (pair_infix_append_cons_cons.2 (.inr (.inl ⟨rfl, rfl⟩)))

theorem Linked.next_last (hlinked : Linked links (before ++ [last])) : links.next last = none := by
  rw [Option.eq_none_iff_forall_ne_some]
  intro other hnext
  have hmem := mem_of_pair_infix_concat ((hlinked.next last other).1 hnext)
  exact (nodup_append.1 hlinked.nodup).2.2 last hmem last (mem_singleton.2 rfl) rfl

end Pointers

end Knxd.DoublyLinked
