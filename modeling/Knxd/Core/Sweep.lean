import Mathlib

/-!
# Sweeps over a table that changes

A sweep has to visit every entry of a table that is due.  A visit may run code from
outside, which adds entries to the table and removes some; a flag tells the sweep that
it did.  With the flag clear the sweep goes on behind its cursor, otherwise it makes a
new pass over the table, and it is done after a pass that visits nothing.

Three facts do not depend on what the entries are: the cursor never outlives a change of
the table, an entry that is due and stays is visited exactly once, and the sweep is over
after finitely many of its own steps, because only a live entry runs code from outside
and no such code makes more entries live.
-/

namespace Knxd.Sweep

/-- Where a sweep is: in a pass that has some entries left, behind a visit, or over. -/
inductive Stage (κ : Type*) where
  | pass (rest : List κ) (seen : Bool)
  | told (rest : List κ)
  | done

/-- The table and its flag, the entries that have to be visited, those of them whose
visit runs code from outside, and whether such code is running. -/
@[ext]
structure State (κ : Type*) where
  table : List κ
  changed : Bool
  due : Set κ
  live : Set κ
  stage : Stage κ
  waiting : Prop

open State List Nat

variable {κ : Type*}

/-- What the sweep does itself, with the entry that it visits. -/
inductive Own (state : State κ) : Option κ → State κ → Prop
  | skip {key : κ} {rest : List κ} {seen : Bool} :
      state.stage = .pass (key :: rest) seen → ¬ (key ∈ state.table ∧ key ∈ state.due) →
      Own state none { state with stage := .pass rest seen }
  | visit {key : κ} {rest : List κ} {seen : Bool} {waiting : Prop} :
      state.stage = .pass (key :: rest) seen → key ∈ state.table → key ∈ state.due →
      (waiting → key ∈ state.live) →
      Own state (some key)
        { state with
          due := state.due \ {key}, live := state.live \ {key}, stage := .told rest, waiting }
  | again : state.stage = .pass [] true →
      Own state none { state with changed := false, stage := .pass state.table false }
  | finish : state.stage = .pass [] false → Own state none { state with stage := .done }
  | restart {rest : List κ} : state.stage = .told rest → state.changed = true →
      Own state none { state with changed := false, stage := .pass state.table false }
  | advance {rest : List κ} : state.stage = .told rest → state.changed = false →
      Own state none { state with stage := .pass rest true }

/-- What code from outside can do.  The entries that were there when the sweep began are
the known ones; whether they are due is not changed. -/
structure Outside (known : Set κ) (state next : State κ) : Prop where
  told : ∃ rest, state.stage = .told rest
  stage : next.stage = state.stage
  table : next.table = state.table ∧ next.changed = state.changed ∨ next.changed = true
  live : ∀ key ∈ next.table, key ∈ next.live → key ∈ state.table ∧ key ∈ state.live
  due : ∀ key ∈ known, (key ∈ next.due ↔ key ∈ state.due)

inductive Step (known : Set κ) (state : State κ) : Option κ → State κ → Prop
  | own {visited : Option κ} {next : State κ} :
      ¬ state.waiting → Own state visited next → Step known state visited next
  | outside {next : State κ} : state.waiting → Outside known state next → Step known state none next

inductive Runs (known : Set κ) : State κ → List κ → State κ → Prop
  | refl {state : State κ} : Runs known state [] state
  | step {start state next : State κ} {visits : List κ} {visited : Option κ} :
      Step known start visited next → Runs known next visits state →
      Runs known start (visited.toList ++ visits) state

def State.begun (state : State κ) : Prop :=
  state.stage = .pass state.table false

section Invariant

variable {known : Set κ} {start state next : State κ} {visited : Option κ} {visits : List κ}

/-- The cursor points into the table as it is, unless the flag is set and the cursor will
not be used again. -/
def State.cursorValid (state : State κ) : Prop :=
  match state.stage with
  | .pass rest _ => rest <:+ state.table
  | .told rest => state.changed = false → ∃ key, key :: rest <:+ state.table
  | .done => True

def State.ahead (state : State κ) : Prop :=
  match state.stage with
  | .pass rest false => ∀ key ∈ state.table, key ∈ state.due → key ∈ rest
  | .done => ∀ key ∈ state.table, key ∉ state.due
  | _ => True

structure Sound (state : State κ) : Prop where
  cursorValid : state.cursorValid
  ahead : state.ahead

theorem sound_of_begun (hbegun : state.begun) : Sound state := by
  rw [begun] at hbegun
  constructor
  · rw [cursorValid, hbegun]
  · rw [ahead, hbegun]
    exact fun key hkey _ => hkey

theorem Sound.own (hsound : Sound state) (hown : Own state visited next) : Sound next := by
  obtain ⟨hcursor, hahead⟩ := hsound
  rw [State.cursorValid] at hcursor
  rw [State.ahead] at hahead
  cases hown with
  | @skip key rest seen hstage hskip =>
    rw [hstage] at hcursor hahead
    refine ⟨(suffix_cons key rest).trans hcursor, ?_⟩
    cases seen with
    | true => trivial
    | false =>
      intro other htable hdue
      rcases mem_cons.1 (hahead other htable hdue) with rfl | hrest
      · exact absurd ⟨htable, hdue⟩ hskip
      · exact hrest
  | @visit key _ _ _ hstage =>
    rw [hstage] at hcursor
    exact ⟨fun _ => ⟨key, hcursor⟩, trivial⟩
  | again | restart => exact sound_of_begun rfl
  | finish hstage =>
    rw [hstage] at hahead
    refine ⟨trivial, fun key htable hdue => ?_⟩
    exact not_mem_nil (hahead key htable hdue)
  | @advance rest hstage hchanged =>
    rw [hstage] at hcursor
    obtain ⟨key, hsuffix⟩ := hcursor hchanged
    exact ⟨(suffix_cons key rest).trans hsuffix, trivial⟩

theorem Sound.outside (hsound : Sound state) (houtside : Outside known state next) :
    Sound next := by
  obtain ⟨rest, htold⟩ := houtside.told
  have hstage : next.stage = .told rest := houtside.stage.trans htold
  have hcursor := hsound.cursorValid
  rw [State.cursorValid, htold] at hcursor
  constructor
  · rw [State.cursorValid, hstage]
    intro hclear
    rcases houtside.table with ⟨htable, hsame⟩ | hset
    · rw [htable]
      exact hcursor (hsame.symm.trans hclear)
    · cases hset.symm.trans hclear
  · rw [State.ahead, hstage]
    trivial

theorem Sound.step (hsound : Sound state) (hstep : Step known state visited next) : Sound next := by
  cases hstep with
  | own _ hown => exact hsound.own hown
  | outside _ houtside => exact hsound.outside houtside

theorem Sound.runs (hsound : Sound start) (hruns : Runs known start visits state) :
    Sound state := by
  induction hruns with
  | refl => exact hsound
  | step hstep _ ih => exact ih (hsound.step hstep)

end Invariant

section Once

open scoped Classical

variable {start state next : State κ} {key : κ}

noncomputable def State.owed (state : State κ) (key : κ) : ℕ :=
  if key ∈ state.due then 1 else 0

theorem owed_le_one : state.owed key ≤ 1 := by
  rw [owed]
  split
  · exact le_rfl
  · exact zero_le 1

variable {known : Set κ} {visited : Option κ} {visits : List κ} [DecidableEq κ]

/-- A visit pays what is owed to the entry and to no other. -/
theorem Own.owed (hown : Own state visited next) :
    visited.toList.count key + next.owed key = state.owed key := by
  cases hown with
  | skip | again | finish | restart | advance => exact zero_add _
  | @visit visited _ _ _ _ _ hdue =>
    by_cases hkey : key = visited
    · subst hkey
      simp [owed, hdue]
    · have hother : visited ≠ key := fun heq => hkey heq.symm
      simp [owed, hkey, hother]

theorem Step.owed (hstep : Step known state visited next) (hknown : key ∈ known) :
    visited.toList.count key + next.owed key = state.owed key := by
  cases hstep with
  | own _ hown => exact hown.owed
  | outside _ houtside => simp [owed, houtside.due key hknown]

theorem Runs.owed (hruns : Runs known start visits state) (hknown : key ∈ known) :
    visits.count key + state.owed key = start.owed key := by
  induction hruns with
  | refl => exact zero_add _
  | @step start state next visits visited hstep _ ih =>
    calc (visited.toList ++ visits).count key + state.owed key
        = visited.toList.count key + (visits.count key + state.owed key) := by
          rw [count_append, add_assoc]
      _ = visited.toList.count key + next.owed key := by rw [ih]
      _ = start.owed key := hstep.owed hknown

/-- No entry is visited twice, and none that was not due. -/
theorem Runs.count_le (hruns : Runs known start visits state) (hknown : key ∈ known) :
    visits.count key ≤ start.owed key :=
  le.intro (hruns.owed hknown)

/-- An entry that was due and is still there at the end was visited. -/
theorem Runs.count_eq_one (hruns : Runs known start visits state) (hbegun : start.begun)
    (hdone : state.stage = .done) (hknown : key ∈ known) (hdue : key ∈ start.due)
    (htable : key ∈ state.table) : visits.count key = 1 := by
  have hahead := ((sound_of_begun hbegun).runs hruns).ahead
  rw [ahead, hdone] at hahead
  have howed := hruns.owed hknown
  rwa [State.owed, if_neg (hahead key htable), add_zero, State.owed, if_pos hdue] at howed

end Once

section Termination

open scoped Classical

variable {known : Set κ} {state next : State κ} {visited : Option κ}

/-- The entries of the table that are in a set. -/
noncomputable def State.entries (state : State κ) (keys : Set κ) : Finset κ :=
  state.table.toFinset.filter (· ∈ keys)

theorem State.mem_entries {keys : Set κ} {key : κ} :
    key ∈ state.entries keys ↔ key ∈ state.table ∧ key ∈ keys := by
  rw [entries, Finset.mem_filter, mem_toFinset]

/-- The order of the stages within one pass and the visit that ends it. -/
def Stage.phase : Stage κ → ℕ
  | .done => 0
  | .pass _ false => 1
  | .pass _ true => 2
  | .told _ => 3

def Stage.left : Stage κ → ℕ
  | .pass rest _ | .told rest => rest.length
  | .done => 0

/-- What is left to do: visits that run code from outside, visits at all, which code from
outside may add without a bound, and the rest of the pass. -/
noncomputable def State.work (state : State κ) : ℕ ×ₗ ℕ∞ ×ₗ ℕ ×ₗ ℕ :=
  toLex ((state.entries state.live).card,
    toLex (if state.waiting then ⊤ else ((state.entries state.due).card : ℕ∞),
      toLex (state.stage.phase, state.stage.left)))

/-- A step within a pass, or from a visit to the next pass. -/
theorem work_lt_of_stage {stage : Stage κ} {changed : Bool}
    (hless : stage.phase < state.stage.phase ∨
      stage.phase = state.stage.phase ∧ stage.left < state.stage.left) :
    State.work { state with changed, stage } < state.work := by
  refine Prod.Lex.toLex_lt_toLex.2 (.inr ⟨rfl, ?_⟩)
  refine Prod.Lex.toLex_lt_toLex.2 (.inr ⟨rfl, ?_⟩)
  exact Prod.Lex.toLex_lt_toLex.2 hless

/-- A visit takes the entry out of those that are live or due. -/
theorem card_entries_lt {keys : Set κ} {key : κ} {stage : Stage κ} {due live : Set κ}
    {waiting : Prop} (htable : key ∈ state.table) (hkey : key ∈ keys) :
    (State.entries { state with due, live, stage, waiting } (keys \ {key})).card <
      (state.entries keys).card := by
  refine Finset.card_lt_card ((Finset.ssubset_iff_of_subset ?_).2 ⟨key, ?_, ?_⟩)
  · intro other hother
    obtain ⟨hin, hkeys, _⟩ := mem_entries.1 hother
    exact mem_entries.2 ⟨hin, hkeys⟩
  · exact mem_entries.2 ⟨htable, hkey⟩
  · intro hother
    obtain ⟨_, _, hne⟩ := mem_entries.1 hother
    exact hne rfl

theorem Own.work_lt (hwaiting : ¬ state.waiting) (hown : Own state visited next) :
    next.work < state.work := by
  cases hown with
  | @skip _ _ seen hstage =>
    refine work_lt_of_stage (.inr ?_)
    rw [hstage]
    cases seen <;> exact ⟨rfl, lt_succ_self _⟩
  | @visit key _ _ waiting _ htable hdue hlive =>
    by_cases hkey : key ∈ state.live
    · exact Prod.Lex.toLex_lt_toLex.2 (.inl (card_entries_lt htable hkey))
    · have hquiet : ¬ waiting := fun hwaits => hkey (hlive hwaits)
      have hsame : state.live \ {key} = state.live := Set.sdiff_singleton_eq_self hkey
      refine Prod.Lex.toLex_lt_toLex.2 (.inr ⟨?_, Prod.Lex.toLex_lt_toLex.2 (.inl ?_)⟩)
      · simp only [hsame]
        rfl
      · simp only [if_neg hquiet, if_neg hwaiting, cast_lt]
        exact card_entries_lt htable hdue
  | again hstage | finish hstage | restart hstage | advance hstage =>
    refine work_lt_of_stage (.inl ?_)
    rw [hstage]
    simp only [Stage.phase, reduceLT]

theorem Outside.work_le (hwaiting : state.waiting) (houtside : Outside known state next) :
    next.work ≤ state.work := by
  have hlive : (next.entries next.live).card ≤ (state.entries state.live).card := by
    refine Finset.card_le_card fun key hkey => ?_
    obtain ⟨htable, hin⟩ := mem_entries.1 hkey
    exact mem_entries.2 (houtside.live key htable hin)
  rcases hlive.lt_or_eq with hless | hsame
  · exact (Prod.Lex.toLex_lt_toLex.2 (.inl hless)).le
  · refine Prod.Lex.toLex_le_toLex.2 (.inr ⟨hsame, ?_⟩)
    have htop : (if next.waiting then ⊤ else ((next.entries next.due).card : ℕ∞)) ≤ ⊤ := le_top
    simp only [if_pos hwaiting, houtside.stage]
    rcases htop.lt_or_eq with hless | heq
    · exact (Prod.Lex.toLex_lt_toLex.2 (.inl hless)).le
    · exact (congrArg (fun left => toLex (left, _)) heq).le

/-- A sweep that goes on for ever waits for the code it runs from some time on. -/
theorem eventually_waiting {states : ℕ → State κ}
    (hsteps : ∀ time, ∃ visited, Step known (states time) visited (states (time + 1))) :
    ∃ time, ∀ later, time ≤ later → (states later).waiting := by
  have hle : ∀ time, (states (time + 1)).work ≤ (states time).work := by
    intro time
    obtain ⟨visited, hstep⟩ := hsteps time
    cases hstep with
    | own hwaiting hown => exact (hown.work_lt hwaiting).le
    | outside hwaiting houtside => exact houtside.work_le hwaiting
  have hantitone : Antitone fun time => (states time).work := antitone_nat_of_succ_le hle
  obtain ⟨time, hconstant⟩ := WellFoundedLT.antitone_chain_condition hantitone
  refine ⟨time, fun later hlater => ?_⟩
  obtain ⟨visited, hstep⟩ := hsteps later
  cases hstep with
  | own hwaiting hown =>
    have hsame : (states (later + 1)).work = (states later).work :=
      (hconstant _ (le_succ_of_le hlater)).symm.trans (hconstant _ hlater)
    exact absurd hsame (hown.work_lt hwaiting).ne
  | outside hwaiting => exact hwaiting

end Termination

end Knxd.Sweep
