import Mathlib.Data.List.Nodup
import Mathlib.Data.List.Perm.Basic

/-!
# Resources and their owners

A pool marks some resources as used, and somewhere else there is a list of
those that are owned.  The books are balanced when every used resource has
exactly one owner and every owned resource is marked.  Acquiring a free
resource and releasing an owned one keep them balanced.
-/

namespace Knxd.Ledger

open List

variable {α : Type} {used used' : α → Prop} {owned owned' : List α} {resource : α}

/-- Every resource in use is owned exactly once, and nothing else is owned. -/
structure Balanced (used : α → Prop) (owned : List α) : Prop where
  nodup : owned.Nodup
  used_iff : ∀ resource, used resource ↔ resource ∈ owned

theorem balanced_nil (hfree : ∀ resource, ¬ used resource) : Balanced used [] where
  nodup := nodup_nil
  used_iff resource := by simp [hfree resource]

/-- The order in which the owners are listed does not matter. -/
theorem Balanced.perm (h : Balanced used owned) (hperm : owned.Perm owned') :
    Balanced used owned' where
  nodup := hperm.nodup_iff.1 h.nodup
  used_iff resource := (h.used_iff resource).trans hperm.mem_iff

theorem Balanced.acquire (h : Balanced used owned) (hfree : ¬ used resource)
    (hused : ∀ other, used' other ↔ other = resource ∨ used other) :
    Balanced used' (resource :: owned) where
  nodup := nodup_cons.2 ⟨fun hmem => hfree ((h.used_iff resource).2 hmem), h.nodup⟩
  used_iff other := by rw [hused, h.used_iff, mem_cons]

theorem Balanced.release (h : Balanced used (resource :: owned))
    (hused : ∀ other, used' other ↔ used other ∧ other ≠ resource) : Balanced used' owned where
  nodup := (nodup_cons.1 h.nodup).2
  used_iff other := by
    have habsent := (nodup_cons.1 h.nodup).1
    rw [hused, h.used_iff, mem_cons]
    constructor
    · rintro ⟨rfl | hmem, hne⟩
      · exact absurd rfl hne
      · exact hmem
    · intro hmem
      exact ⟨.inr hmem, fun heq => habsent (heq ▸ hmem)⟩

end Knxd.Ledger
