import Mathlib

/-!
# Segments of an image

`AddSegmentOverlap` records the memory that an image takes up when it is loaded.  The ends of the
segments are compared as `int`s, so that a segment does not wrap around.
-/

namespace Knxd.LoadImage

structure Segment where
  start : BitVec 16
  len : BitVec 16
  deriving DecidableEq, Repr

namespace Segment

def addresses (s : Segment) : Set ℕ :=
  Set.Ico s.start.toNat (s.start.toNat + s.len.toNat)

/-- The two tests in the loop. -/
def overlaps (s other : Segment) : Bool :=
  (other.start ≥ s.start ∧ other.start.toNat < s.start.toNat + s.len.toNat) ∨
    (s.start ≥ other.start ∧ s.start.toNat < other.start.toNat + other.len.toNat)

end Segment

open Segment (addresses)

/-- `AddSegmentOverlap`: what it returns, and the segments behind it. -/
def addSegmentOverlap (s : List Segment) (start len : BitVec 16) : Bool × List Segment :=
  if len = 0 then (true, s)
  else if s.any (·.overlaps ⟨start, len⟩) then (false, s)
  else (true, s ++ [⟨start, len⟩])

/-- No recorded segment is empty, and no two have an address in common. -/
structure Apart (s : List Segment) : Prop where
  nonempty : ∀ recorded ∈ s, recorded.addresses.Nonempty
  disjoint : s.Pairwise fun first second => Disjoint first.addresses second.addresses

section Segments

variable {s : List Segment} {first second : Segment} {start len : BitVec 16}

theorem nonempty_addresses_iff : first.addresses.Nonempty ↔ first.len ≠ 0 := by
  rw [addresses, Set.nonempty_Ico, Nat.lt_add_right_iff_pos, Nat.pos_iff_ne_zero]
  simp [← BitVec.toNat_inj]

/-- Of two segments that meet, one starts inside the other, unless one of them is empty. -/
theorem overlaps_iff (hfirst : first.addresses.Nonempty) (hsecond : second.addresses.Nonempty) :
    first.overlaps second = true ↔ ¬ Disjoint first.addresses second.addresses := by
  rw [addresses, Set.nonempty_Ico] at hfirst hsecond
  rw [addresses, addresses, Set.Ico_disjoint_Ico, Segment.overlaps,
    decide_eq_true_iff, ge_iff_le, ge_iff_le, BitVec.le_def, BitVec.le_def]
  omega

theorem returns_false_iff (hapart : Apart s) (hlen : len ≠ 0) :
    (addSegmentOverlap s start len).1 = false ↔
      ∃ recorded ∈ s, ¬ Disjoint recorded.addresses (addresses ⟨start, len⟩) := by
  have hnew : (addresses ⟨start, len⟩).Nonempty := nonempty_addresses_iff.2 hlen
  have hany : s.any (·.overlaps ⟨start, len⟩) = true ↔
      ∃ recorded ∈ s, ¬ Disjoint recorded.addresses (addresses ⟨start, len⟩) := by
    rw [List.any_eq_true]
    exact exists_congr fun recorded => and_congr_right fun hrecorded =>
      overlaps_iff (hapart.nonempty recorded hrecorded) hnew
  rw [← hany, addSegmentOverlap, if_neg hlen]
  split <;> simp_all

theorem Apart.add (hapart : Apart s) (start len : BitVec 16) :
    Apart (addSegmentOverlap s start len).2 := by
  by_cases hlen : len = 0
  · rw [addSegmentOverlap, if_pos hlen]
    exact hapart
  have hreturns := @returns_false_iff s start len hapart hlen
  rw [addSegmentOverlap, if_neg hlen] at hreturns ⊢
  split
  · exact hapart
  · next hnone =>
    rw [if_neg hnone] at hreturns
    constructor
    · intro recorded hrecorded
      obtain hrecorded | hrecorded := List.mem_append.1 hrecorded
      · exact hapart.nonempty recorded hrecorded
      · rw [List.mem_singleton.1 hrecorded]
        exact nonempty_addresses_iff.2 hlen
    · refine List.pairwise_append.2 ⟨hapart.disjoint, List.pairwise_singleton _ _, ?_⟩
      intro recorded hrecorded new hnew
      rw [List.mem_singleton.1 hnew]
      by_contra hmeet
      cases hreturns.2 ⟨recorded, hrecorded, hmeet⟩

end Segments

/-- After any calls the recorded segments are apart.  The next call returns 0 exactly if its
segment meets one of them, and then records nothing; otherwise it records the segment. -/
theorem segments_apart (calls : List (BitVec 16 × BitVec 16)) :
    let s := calls.foldl (fun s call => (addSegmentOverlap s call.1 call.2).2) []
    Apart s ∧ ∀ start len, len ≠ 0 →
      ((addSegmentOverlap s start len).1 = false ↔
        ∃ recorded ∈ s, ¬ Disjoint recorded.addresses (Segment.addresses ⟨start, len⟩)) ∧
      ((addSegmentOverlap s start len).1 = false → (addSegmentOverlap s start len).2 = s) ∧
      ((addSegmentOverlap s start len).1 = true →
        (addSegmentOverlap s start len).2 = s ++ [⟨start, len⟩]) := by
  intro s
  have hapart : Apart s := by
    refine List.foldlRecOn calls _ ⟨nofun, .nil⟩ fun s hapart call _ => ?_
    exact hapart.add call.1 call.2
  refine ⟨hapart, fun start len hlen => ⟨returns_false_iff hapart hlen, ?_⟩⟩
  rw [addSegmentOverlap, if_neg hlen]
  split
  · exact ⟨fun _ => rfl, nofun⟩
  · exact ⟨nofun, fun _ => rfl⟩

end Knxd.LoadImage
