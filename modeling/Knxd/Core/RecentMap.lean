import Mathlib

/-!
# Maps ordered by last update

A bounded map keeps the keys that were updated last.  It is the list of its entries,
the latest first: an update moves its key to the front, and the last entry is dropped
if there are too many.  Removing a key makes room for another one.

The other reading of "the keys updated last" is a ranking: there a removed key keeps
its place among the latest ones.  The two agree as long as nothing is removed.

An implementation finds the oldest entry with a second map, from the times of the
updates to the keys.  Such an ordered map is a list in the order of its keys.
-/

namespace Knxd.Recency

open List

variable {K V : Type*}

section Ordered

variable [LinearOrder K]

def emplace (key : K) (value : V) : List (K × V) → List (K × V)
  | [] => [(key, value)]
  | entry :: rest =>
    if key < entry.1 then (key, value) :: entry :: rest
    else if key = entry.1 then entry :: rest
    else entry :: emplace key value rest

def erase (key : K) (map : List (K × V)) : List (K × V) :=
  map.filter fun entry => entry.1 ≠ key

/-- The largest key comes last. -/
theorem emplace_of_forall_lt {key : K} {map : List (K × V)} (value : V)
    (hlast : ∀ entry ∈ map, entry.1 < key) : emplace key value map = map ++ [(key, value)] := by
  induction map with
  | nil => rfl
  | cons entry _ ih =>
    have hentry := hlast entry mem_cons_self
    have hrest := ih fun other hother => hlast other (mem_cons_of_mem entry hother)
    rw [emplace, if_neg hentry.not_gt, if_neg hentry.ne', hrest, cons_append]

end Ordered

/-- Different keys: each one has one entry. -/
theorem lookup_eq_some_iff_mem [DecidableEq K] {list : List (K × V)}
    (hnodup : (list.map Prod.fst).Nodup) {key : K} {value : V} :
    list.lookup key = some value ↔ (key, value) ∈ list := by
  induction list with
  | nil => simp
  | cons entry rest ih =>
    obtain ⟨other, _⟩ := entry
    rw [map_cons, nodup_cons] at hnodup
    rw [lookup_cons, mem_cons]
    by_cases hkey : key = other
    · subst hkey
      have hrest : (key, value) ∉ rest := fun hmem => hnodup.1 (mem_map.2 ⟨_, hmem, rfl⟩)
      simp [hrest, eq_comm]
    · simp [hkey, beq_false_of_ne hkey, ih hnodup.2]

/-- At most `bound` entries with different keys, the latest first. -/
structure RecentMap (K V : Type*) (bound : ℕ) where
  entries : List (K × V)
  nodup : (entries.map Prod.fst).Nodup
  length_le : entries.length ≤ bound

namespace RecentMap

variable {bound : ℕ}

@[ext]
theorem ext {map other : RecentMap K V bound} (hentries : map.entries = other.entries) :
    map = other := by
  cases map
  cases other
  cases hentries
  rfl

def empty : RecentMap K V bound :=
  ⟨[], List.nodup_nil, Nat.zero_le _⟩

variable [DecidableEq K]

def find (map : RecentMap K V bound) (key : K) : Option V :=
  map.entries.lookup key

def remove (map : RecentMap K V bound) (key : K) : RecentMap K V bound where
  entries := map.entries.filter fun entry => entry.1 ≠ key
  nodup := map.nodup.sublist (List.filter_sublist.map _)
  length_le := (List.length_filter_le _ _).trans map.length_le

def update (map : RecentMap K V bound) (key : K) (value : V) : RecentMap K V bound where
  entries := ((key, value) :: (map.remove key).entries).take bound
  nodup := by
    apply List.Nodup.sublist ((List.take_sublist _ _).map _)
    rw [List.map_cons, List.nodup_cons]
    refine ⟨?_, (map.remove key).nodup⟩
    simp [remove]
  length_le := List.length_take_le _ _

theorem entries_update (map : RecentMap K V bound) (key : K) (value : V) :
    (map.update key value).entries = ((key, value) :: (map.remove key).entries).take bound :=
  rfl

/-- A key is found with the value of its only entry. -/
theorem find_eq_some_iff {map : RecentMap K V bound} {key : K} {value : V} :
    map.find key = some value ↔ (key, value) ∈ map.entries :=
  lookup_eq_some_iff_mem map.nodup

end RecentMap

/-- All keys in the order of their last updates, the latest first; a key that was
removed since has no value. -/
abbrev Ranking (K V : Type*) := List (K × Option V)

namespace Ranking

variable [DecidableEq K]

def update (ranking : Ranking K V) (key : K) (value : V) : Ranking K V :=
  (key, some value) :: ranking.filter fun entry => entry.1 ≠ key

def remove (ranking : Ranking K V) (key : K) : Ranking K V :=
  ranking.map fun entry => if entry.1 = key then (key, none) else entry

/-- A key is found if it is among the first ones and was not removed. -/
def find (bound : ℕ) (ranking : Ranking K V) (key : K) : Option V :=
  ((ranking.take bound).lookup key).join

end Ranking

section Agreement

variable [DecidableEq K] {bound : ℕ}

def Heads (map : RecentMap K V bound) (ranking : Ranking K V) : Prop :=
  (ranking.map Prod.fst).Nodup ∧
    map.entries.map (fun entry => (entry.1, some entry.2)) = ranking.take bound

/-- A prefix of a list without one key is a prefix of the list. -/
theorem take_filter_take {key : K} {list : List (K × V)} (hnodup : (list.map Prod.fst).Nodup)
    (bound : ℕ) :
    ((list.take (bound + 1)).filter fun entry => entry.1 ≠ key).take bound =
      (list.filter fun entry => entry.1 ≠ key).take bound := by
  induction list generalizing bound with
  | nil => rfl
  | cons entry rest ih =>
    rw [map_cons, nodup_cons] at hnodup
    rw [take_succ_cons]
    by_cases hentry : entry.1 = key
    · -- the key does not occur again, so nothing more is left out
      have hrest : ∀ list : List (K × V), (∀ other ∈ list, other ∈ rest) →
          (list.filter fun entry => entry.1 ≠ key) = list := by
        intro list hlist
        apply filter_eq_self.2
        intro other hother
        have hne : other.1 ≠ key := by
          rintro rfl
          exact hnodup.1 (hentry ▸ mem_map_of_mem (hlist other hother))
        simpa using hne
      rw [filter_cons_of_neg (by simpa using hentry),
        filter_cons_of_neg (by simpa using hentry), hrest _ fun _ => mem_of_mem_take,
        hrest _ fun _ => id, take_take, Nat.min_self]
    · rw [filter_cons_of_pos (by simpa using hentry), filter_cons_of_pos (by simpa using hentry)]
      cases bound with
      | zero => rfl
      | succ => rw [take_succ_cons, take_succ_cons, ih hnodup.2]

omit [DecidableEq K] in
theorem heads_empty : Heads (RecentMap.empty : RecentMap K V bound) [] := ⟨nodup_nil, take_nil.symm⟩

/-- An update of both. -/
theorem Heads.update {map : RecentMap K V bound} {ranking : Ranking K V}
    (hheads : Heads map ranking) (key : K) (value : V) :
    Heads (map.update key value) (ranking.update key value) := by
  obtain ⟨hnodup, hentries⟩ := hheads
  constructor
  · rw [Ranking.update, map_cons, nodup_cons]
    refine ⟨by simp, hnodup.sublist (filter_sublist.map _)⟩
  · have hfilter : (map.entries.filter fun entry => entry.1 ≠ key).map
        (fun entry => (entry.1, some entry.2)) =
          (ranking.take bound).filter fun entry => entry.1 ≠ key := by
      rw [← hentries, filter_map]
      rfl
    dsimp only [RecentMap.update, RecentMap.remove, Ranking.update]
    rw [map_take, map_cons, hfilter]
    cases bound with
    | zero => rfl
    | succ => rw [take_succ_cons, take_succ_cons, take_filter_take hnodup]

/-- Both answer alike. -/
theorem Heads.find {map : RecentMap K V bound} {ranking : Ranking K V}
    (hheads : Heads map ranking) (key : K) : map.find key = ranking.find bound key := by
  rw [Ranking.find, ← hheads.2, RecentMap.find]
  induction map.entries with
  | nil => rfl
  | cons _ _ ih =>
    rw [map_cons, lookup_cons, lookup_cons]
    split
    · rfl
    · exact ih

end Agreement

end Knxd.Recency
