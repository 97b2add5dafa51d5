import Mathlib

/-!
# The configuration file

A section that lacks a value refers to another one by its entry `use`.  The references are followed
until a section has the value or ends them; nothing notices that they come back to a section.
-/

namespace Knxd.IniFile

structure IniSection where
  values : List (String × String) := []

structure IniData where
  sections : List (String × IniSection) := []

/-- `IniSection::add`. A name without a value is a flag. -/
def IniSection.add (s : IniSection) (name : String) (value : Option String) : IniSection × Bool :=
  match s.values.lookup name with
  | none => (⟨(name, value.getD "TRUE") :: s.values⟩, true)
  | some _ => (s, false)

namespace IniData

/-- `operator[]`. A section that is not there is made. -/
def get (data : IniData) (name : String) : IniSection × IniData :=
  match data.sections.lookup name with
  | none => ({}, ⟨(name, {}) :: data.sections⟩)
  | some s => (s, data)

def add (data : IniData) (name : String) (key value : Option String) : IniData × Bool :=
  match key with
  | none => ((data.get name).2, (data.sections.lookup name).isNone)
  | some key =>
    let added := (data.get name).1.add key value
    (⟨(name, added.1) :: data.sections.filter (·.1 ≠ name)⟩, added.2)

/-- The sections that are reached by `use`. -/
def chain (data : IniData) (s : IniSection) : ℕ → Option IniSection
  | 0 => some s
  | index + 1 => (s.values.lookup "use").bind fun other => data.chain (data.get other).1 index

/-- A section along the references does not have the value. -/
def Passes (data : IniData) (s : IniSection) (name : String) (index : ℕ) : Prop :=
  ∃ passed, data.chain s index = some passed ∧ passed.values.lookup name = none

/-- The first section that has the value, or the default value where the references end. -/
def Answers (data : IniData) (s : IniSection) (name default result : String) (index : ℕ) : Prop :=
  (∀ before < index, data.Passes s name before) ∧
    ((∃ found, data.chain s index = some found ∧ found.values.lookup name = some result) ∨
      data.chain s index = none ∧ result = default)

end IniData

open IniData (chain)

/-- `IniSection::value`, for at most `depth` calls within each other. -/
def value (name default : String) : ℕ → IniData → IniSection → Option (String × IniData)
  | 0, _, _ => none
  | depth + 1, data, s =>
    match s.values.lookup name with
    | some found => some (found, data)
    | none =>
      match s.values.lookup "use" with
      | none => some (default, data)
      | some other => value name default depth (data.get other).2 (data.get other).1

section Lookup

variable {data : IniData} {s : IniSection} {name default result : String} {index : ℕ}

/-- A section that has been made is as empty as one that is missing. -/
theorem get_get (data : IniData) (made other : String) :
    ((data.get made).2.get other).1 = (data.get other).1 := by
  have hget (data : IniData) (name : String) :
      (data.get name).1 = (data.sections.lookup name).getD {} := by
    unfold IniData.get
    cases data.sections.lookup name <;> rfl
  rw [hget, hget, IniData.get]
  cases hmade : data.sections.lookup made with
  | some => rfl
  | none =>
    by_cases hsame : other = made
    · simp [hsame, hmade]
    · rw [List.lookup_cons, beq_false_of_ne hsame]

theorem chain_get (made : String) : (data.get made).2.chain s index = data.chain s index := by
  induction index generalizing s with
  | zero => rfl
  | succ _ ih =>
    rw [chain, chain]
    exact congrArg _ (funext fun other => by rw [get_get, ih])

/-- What the next call answers is what the first one answers. -/
theorem answers_succ {other : String} (hname : s.values.lookup name = none)
    (huse : s.values.lookup "use" = some other) : data.Answers s name default result (index + 1) ↔
      (data.get other).2.Answers (data.get other).1 name default result index := by
  have hchain (index : ℕ) : data.chain s (index + 1) =
      (data.get other).2.chain (data.get other).1 index := by
    rw [chain_get, chain, huse, Option.bind_some]
  simp only [IniData.Answers, IniData.Passes, Nat.forall_lt_succ_left, hchain]
  exact and_congr_left' (and_iff_right ⟨s, rfl, hname⟩)

theorem answers_of_value {depth : ℕ} {after : IniData}
    (hvalue : value name default depth data s = some (result, after)) :
    ∃ index, data.Answers s name default result index := by
  induction depth generalizing data s with
  | zero => cases hvalue
  | succ _ ih =>
    rw [value] at hvalue
    cases hname : s.values.lookup name with
    | some =>
      rw [hname] at hvalue
      cases hvalue
      exact ⟨0, fun _ hbefore => absurd hbefore (Nat.not_lt_zero _), .inl ⟨s, rfl, hname⟩⟩
    | none =>
      rw [hname] at hvalue
      cases huse : s.values.lookup "use" with
      | none =>
        rw [huse] at hvalue
        cases hvalue
        refine ⟨1, fun before hbefore => ?_, .inr ⟨by rw [chain, huse]; rfl, rfl⟩⟩
        rw [Nat.lt_one_iff.1 hbefore]
        exact ⟨s, rfl, hname⟩
      | some =>
        rw [huse] at hvalue
        obtain ⟨index, hanswers⟩ := ih hvalue
        exact ⟨index + 1, (answers_succ hname huse).2 hanswers⟩

theorem value_of_answers (hanswers : data.Answers s name default result index) :
    ∃ after, value name default (index + 1) data s = some (result, after) := by
  induction index generalizing data s with
  | zero =>
    obtain ⟨-, ⟨found, hfound, hvalue⟩ | ⟨hnone, -⟩⟩ := hanswers
    · cases hfound
      exact ⟨data, by rw [value, hvalue]⟩
    · cases hnone
  | succ index ih =>
    obtain ⟨_, hpassed, hname⟩ := hanswers.1 0 (Nat.succ_pos index)
    cases hpassed
    rw [value, hname]
    cases huse : s.values.lookup "use" with
    | none =>
      have hend : data.chain s (index + 1) = none := by rw [chain, huse]; rfl
      obtain ⟨-, ⟨found, hfound, -⟩ | ⟨-, rfl⟩⟩ := hanswers
      · cases hend.symm.trans hfound
      · exact ⟨data, rfl⟩
    | some => exact ih ((answers_succ hname huse).1 hanswers)

theorem answers_of_not_passes (hstops : ∃ index, ¬ data.Passes s name index) (default : String) :
    ∃ result index, data.Answers s name default result index := by
  classical
  have hbefore (before : ℕ) (hlt : before < Nat.find hstops) : data.Passes s name before :=
    not_not.1 (Nat.find_min hstops hlt)
  cases hchain : data.chain s (Nat.find hstops) with
  | none => exact ⟨default, _, hbefore, .inr ⟨hchain, rfl⟩⟩
  | some found =>
    cases hfound : found.values.lookup name with
    | none => exact absurd ⟨found, hchain, hfound⟩ (Nat.find_spec hstops)
    | some result => exact ⟨result, _, hbefore, .inl ⟨found, hchain, hfound⟩⟩

/-- A value is found exactly if some section along the references has it or ends them, and it is the
first such value or the default. -/
theorem value_total_iff (data : IniData) (s : IniSection) (name default : String) :
    ((∃ depth answer, value name default depth data s = some answer) ↔
      ∃ index, ¬ data.Passes s name index) ∧
    ∀ depth result after, value name default depth data s = some (result, after) →
      ∃ index, data.Answers s name default result index := by
  refine ⟨⟨?_, fun hstops => ?_⟩, fun depth result after => answers_of_value⟩
  · rintro ⟨depth, ⟨result, after⟩, hvalue⟩
    obtain ⟨index, -, hend⟩ := answers_of_value hvalue
    refine ⟨index, fun ⟨passed, hpassed, hname⟩ => ?_⟩
    obtain ⟨_, hfound, hsome⟩ | ⟨hnone, -⟩ := hend
    · cases hpassed.symm.trans hfound
      cases hname.symm.trans hsome
    · cases hpassed.symm.trans hnone
  · obtain ⟨result, index, hanswers⟩ := answers_of_not_passes hstops default
    obtain ⟨after, hvalue⟩ := value_of_answers hanswers
    exact ⟨_, _, hvalue⟩

/-- A section that uses itself: no depth of calls is enough. -/
theorem use_of_itself : ∃ data s, IniData.add {} "A" (some "use") (some "A") = (data, true) ∧
    (data.get "A").1 = s ∧ ∀ depth, value "device" "" depth data s = none := by
  refine ⟨⟨[("A", ⟨[("use", "A")]⟩)]⟩, ⟨[("use", "A")]⟩, rfl, rfl, fun depth => ?_⟩
  induction depth with
  | zero => rfl
  | succ _ ih => exact ih

end Lookup

end Knxd.IniFile
