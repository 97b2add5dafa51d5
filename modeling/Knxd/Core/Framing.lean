import Mathlib.Data.List.Infix
import Mathlib.Data.Nat.Notation

/-!
# Frames in a stream

A stream carries frames one after another.  A reader recognises the first frame as
soon as it is there as a whole, takes it, and looks again.  What such a reader finds
does not depend on how the stream was cut into pieces: after each piece it holds the
frames of what has arrived, and the beginning of the next one.
-/

namespace Knxd.Streams

open List

/-- How the first frame of a stream is recognised.  `size` is its length, once the frame
is there as a whole; what follows the frame does not matter. -/
structure Framing (α : Type*) where
  size : List α → Option ℕ
  size_pos : ∀ {l n}, size l = some n → 0 < n
  size_le : ∀ {l n}, size l = some n → n ≤ l.length
  size_append : ∀ {l n} (more : List α), size l = some n → size (l ++ more) = some n

namespace Framing

variable {α : Type*} (f : Framing α)

/-- The frames at the start of a stream, and what remains. -/
def split (l : List α) : List (List α) × List α :=
  match _hsize : f.size l with
  | none => ([], l)
  | some n => (l.take n :: (split (l.drop n)).1, (split (l.drop n)).2)
termination_by l.length
decreasing_by
  all_goals
    have hpos := f.size_pos _hsize
    have hle := f.size_le _hsize
    simp only [List.length_drop]
    omega

def IsFrame (frame : List α) : Prop :=
  f.size frame = some frame.length

variable {f} {l frame : List α} {n : ℕ}

theorem split_of_none (hsize : f.size l = none) : f.split l = ([], l) := by
  rw [split]
  split
  · rfl
  · next n hsome => cases hsize.symm.trans hsome

theorem split_of_size (hsize : f.size l = some n) :
    f.split l = (l.take n :: (f.split (l.drop n)).1, (f.split (l.drop n)).2) := by
  rw [split]
  split
  · next hnone => cases hsize.symm.trans hnone
  · next m hsome =>
    cases hsize.symm.trans hsome
    rfl

theorem size_nil : f.size [] = none := by
  cases hsize : f.size [] with
  | none => rfl
  | some =>
    have hpos := f.size_pos hsize
    have hle := f.size_le hsize
    simp only [length_nil] at hle
    omega

@[simp]
theorem split_nil : f.split [] = ([], []) := split_of_none size_nil

/-- The rule of induction over the frames of a stream. -/
theorem split_induction {motive : List α → Prop} (l : List α)
    (rest : ∀ l, f.size l = none → motive l)
    (frame : ∀ l n, f.size l = some n → motive (l.drop n) → motive l) : motive l := by
  induction hlength : l.length using Nat.strong_induction_on generalizing l with
  | _ length ih =>
    cases hsize : f.size l with
    | none => exact rest l hsize
    | some n =>
      have hpos := f.size_pos hsize
      have hle := f.size_le hsize
      apply frame l n hsize
      apply ih (l.drop n).length _ _ rfl
      rw [length_drop]
      omega

/-- Nothing of the stream is lost. -/
theorem flatten_split (l : List α) : (f.split l).1.flatten ++ (f.split l).2 = l := by
  induction l using split_induction (f := f) with
  | rest l hsize => simp [split_of_none hsize]
  | frame l n hsize ih =>
    rw [split_of_size hsize, flatten_cons, append_assoc, ih, take_append_drop]

/-- What remains is not a whole frame. -/
theorem size_split (l : List α) : f.size (f.split l).2 = none := by
  induction l using split_induction (f := f) with
  | rest l hsize => rwa [split_of_none hsize]
  | frame l n hsize ih => rwa [split_of_size hsize]

/-- A stream that goes on: the reader continues with what remained. -/
theorem split_append (l more : List α) : f.split (l ++ more) =
      ((f.split l).1 ++ (f.split ((f.split l).2 ++ more)).1,
        (f.split ((f.split l).2 ++ more)).2) := by
  induction l using split_induction (f := f) with
  | rest l hsize => simp [split_of_none hsize]
  | frame l n hsize ih =>
    have hle := f.size_le hsize
    rw [split_of_size (f.size_append more hsize), split_of_size hsize,
      take_append_of_le_length hle, drop_append_of_le_length hle, ih]
    rfl

/-- The whole frame at the start is found, whatever follows. -/
theorem split_frame (hframe : f.IsFrame frame) (more : List α) :
    f.split (frame ++ more) = (frame :: (f.split more).1, (f.split more).2) := by
  rw [split_of_size (f.size_append more hframe), take_left, drop_left]

variable {frames : List (List α)} (hframes : ∀ frame ∈ frames, f.IsFrame frame)
include hframes

theorem split_flatten : f.split frames.flatten = (frames, []) := by
  induction frames with
  | nil => exact split_nil
  | cons frame _ ih =>
    rw [flatten_cons, split_frame (hframes frame mem_cons_self),
      ih fun other hother => hframes other (mem_cons_of_mem _ hother)]

/-- A stream that starts with frames is read as these frames first. -/
theorem prefix_split (hbegins : frames.flatten <+: l) : frames <+: (f.split l).1 := by
  obtain ⟨_, rfl⟩ := hbegins
  rw [split_append, split_flatten hframes]
  exact prefix_append _ _

/-- Part of a stream of frames: the frames found are the first ones, and what is left of
the stream is what remained with the part not read yet. -/
theorem exists_rest_of_append {unread : List α} (hstream : l ++ unread = frames.flatten) :
    ∃ rest, frames = (f.split l).1 ++ rest ∧ (f.split l).2 ++ unread = rest.flatten := by
  have hsplit := split_append (f := f) l unread
  rw [hstream, split_flatten hframes, Prod.mk.injEq] at hsplit
  obtain ⟨hfound, hnothing⟩ := hsplit
  refine ⟨_, hfound, ?_⟩
  have hrest := flatten_split (f := f) ((f.split l).2 ++ unread)
  rwa [← hnothing, append_nil, eq_comm] at hrest

/-- What remains of a stream of frames is empty, or shorter than the frame it belongs to. -/
theorem length_split_lt {unread : List α} {bound : ℕ}
    (hbound : ∀ frame ∈ frames, frame.length ≤ bound)
    (hpos : 0 < bound) (hstream : l ++ unread = frames.flatten) : (f.split l).2.length < bound := by
  obtain ⟨rest, hfound, hrest⟩ := exists_rest_of_append hframes hstream
  cases rest with
  | nil =>
    rw [flatten_nil, append_eq_nil_iff] at hrest
    simpa [hrest.1] using hpos
  | cons frame rest =>
    have hmem : frame ∈ frames := by
      rw [hfound]
      exact mem_append_right _ mem_cons_self
    refine lt_of_lt_of_le ?_ (hbound frame hmem)
    by_contra hlong
    -- the frame would be in what remains
    have hleft : (f.split l).2 <+: frame ++ rest.flatten := by
      rw [← flatten_cons, ← hrest]
      exact prefix_append _ _
    have hstart : frame <+: (f.split l).2 :=
      prefix_of_prefix_length_le (prefix_append _ _) hleft (not_lt.1 hlong)
    obtain ⟨more, hmore⟩ := hstart
    have hsize := f.size_append more (hframes frame hmem)
    rw [hmore, size_split] at hsize
    cases hsize

end Framing

end Knxd.Streams
