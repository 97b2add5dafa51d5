import Knxd.Core.Memory

/-!
# Parts of an array

`CArray` has two constructors for a part of another array.  They compute its size by `_sub`, to
which they pass the position and the size of the array in the wrong order: up to the end of the
array the part is empty, and behind it the elements are read that are not there.
-/

namespace Knxd.Types

open Memory

/-- `_sub`, which takes two `unsigned int`s. -/
def sub (a b : ℕ) : ℕ :=
  if a % 2 ^ 32 > b % 2 ^ 32 then a % 2 ^ 32 - b % 2 ^ 32 else 0

/-- The loop that copies the elements from a position on. -/
def copyFrom (s : CArray) : ℕ → ℕ → Run CArray
  | _, 0 => pure []
  | pos, count + 1 => do
    let byte ← readAt s pos
    let rest ← copyFrom s (pos + 1) count
    pure (byte :: rest)

/-- `CArray(s, pos)`. -/
def partFrom (s : CArray) (pos : ℕ) : Run CArray :=
  copyFrom s pos (sub pos s.length)

/-- `CArray(s, pos, n)`. -/
def partOf (s : CArray) (pos n : ℕ) : Run CArray :=
  copyFrom s pos (min (n % 2 ^ 32) (sub pos s.length))

section Parts

variable {s : CArray} {pos count n : ℕ}

theorem sub_eq (hsize : s.length < 2 ^ 32) (pos : ℕ) :
    sub pos s.length = pos % 2 ^ 32 - s.length := by
  rw [sub, Nat.mod_eq_of_lt hsize]
  split <;> omega

/-- If anything is copied, then from behind the end of the array. -/
theorem copyFrom_eq (hsize : s.length < 2 ^ 32) (hcount : count ≤ sub pos s.length) :
    copyFrom s pos count = if count = 0 then .ok [] else .error .outOfBounds := by
  rw [sub_eq hsize] at hcount
  cases count with
  | zero => rfl
  | succ =>
    have hpos : s.length ≤ pos := by omega
    rw [copyFrom, readAt, List.getElem?_eq_none hpos]
    rfl

theorem partFrom_eq (hsize : s.length < 2 ^ 32) (pos : ℕ) :
    partFrom s pos = if pos % 2 ^ 32 ≤ s.length then .ok [] else .error .outOfBounds := by
  rw [partFrom, copyFrom_eq hsize le_rfl, sub_eq hsize]
  simp only [Nat.sub_eq_zero_iff_le]

theorem partOf_eq (hsize : s.length < 2 ^ 32) (pos n : ℕ) : partOf s pos n =
    if n % 2 ^ 32 = 0 ∨ pos % 2 ^ 32 ≤ s.length then .ok [] else .error .outOfBounds := by
  rw [partOf, copyFrom_eq hsize (min_le_right _ _), sub_eq hsize]
  simp only [Nat.min_eq_zero_iff, Nat.sub_eq_zero_iff_le]

/-- Up to the end of an array, a part is right only where it has to be empty; and nothing is read
outside the array exactly for the positions that are not behind its end, as `unsigned int`s. -/
theorem parts_correct_iff (hsize : s.length < 2 ^ 32) (pos n : ℕ) :
    (pos ≤ s.length → (partFrom s pos = .ok (s.drop pos) ↔ pos = s.length) ∧
      (partOf s pos n = .ok ((s.drop pos).take n) ↔ n = 0 ∨ pos = s.length)) ∧
    (Returns (partFrom s pos) ↔ pos % 2 ^ 32 ≤ s.length) ∧
    (Returns (partOf s pos n) ↔ n % 2 ^ 32 = 0 ∨ pos % 2 ^ 32 ≤ s.length) := by
  refine ⟨fun hpos => ?_, ?_, ?_⟩
  · have hmod : pos % 2 ^ 32 ≤ s.length := (Nat.mod_le _ _).trans hpos
    have hend : [] = s.drop pos ↔ pos = s.length := by
      rw [eq_comm, List.drop_eq_nil_iff, hpos.ge_iff_eq]
    have hpart : [] = (s.drop pos).take n ↔ n = 0 ∨ [] = s.drop pos := by
      rw [eq_comm, List.take_eq_nil_iff, @eq_comm _ []]
    rw [partFrom_eq hsize, partOf_eq hsize, if_pos hmod, if_pos (.inr hmod), Except.ok.injEq,
      Except.ok.injEq, hpart, hend]
    exact ⟨Iff.rfl, Iff.rfl⟩
  · rw [partFrom_eq hsize]
    split <;> simp_all
  · rw [partOf_eq hsize]
    split <;> simp_all

/-- Of three elements, the part behind them is right, and the last two are not. -/
theorem parts_correct_three : partFrom [1, 2, 3] 3 = .ok [] ∧ partFrom [1, 2, 3] 1 ≠ .ok [2, 3] ∧
    partOf [1, 2, 3] 1 2 ≠ .ok [2, 3] := by
  have hsize : ([1, 2, 3] : CArray).length < 2 ^ 32 := by decide
  obtain ⟨hfrom, hof⟩ := (parts_correct_iff hsize 1 2).1 (by decide)
  exact ⟨((parts_correct_iff hsize 3 0).1 le_rfl).1.2 rfl, mt hfrom.1 (by decide),
    mt hof.1 (by decide)⟩

/-- The last two of three elements, and an element behind the only one. -/
theorem part_lost : partFrom [1, 2, 3] 1 = .ok [] ∧ partOf [1, 2, 3] 1 2 = .ok [] ∧
    partFrom [1] 2 = .error .outOfBounds ∧ partOf [1] 2 1 = .error .outOfBounds := by
  decide

end Parts

end Knxd.Types
