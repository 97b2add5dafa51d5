import Knxd.Routing.Dispatch

/-!
# The window for repetitions

A frame that carries the repeat flag is dropped if the same frame was passed down shortly before.
`ignore` holds the bytes of the frames that were passed down, with the time until which they count.
But the loop of `trigger_cb` compares the bytes only, and old entries are removed after the loop,
and only if an entry is left that is not old.  So a repetition is also dropped long after the frame.
-/

namespace Knxd.Dispatch

open Memory LPDU Traffic List
open Transition (Path path_of_runAllowed runAllowed)

def Timely (t : Dispatcher) : Event → Prop
  | .pass now | .leave now => t.clock ≤ now
  | _ => True

instance (t : Dispatcher) (event : Event) : Decidable (Timely t event) := by
  unfold Timely
  cases event <;> infer_instance

def RecentlyForwarded (t : Dispatcher) (now : ℕ) (l : LDataPDU) : Prop :=
  ∃ fate ∈ t.fates, fate.sent.isSome ∧ SameFrame fate.frame l ∧ now < fate.time + 1000000
  deriving Decidable

/-- The frame has hops left, and if its bytes are remembered then also in an entry that is not
old. -/
def Current (cfg : Config) (t : Dispatcher) (now : ℕ) (l : LDataPDU) : Prop :=
  l.hopcount ≠ 0 ∧ ((∃ info ∈ t.ignore, remembered cfg l = .ok info.data) →
    ∃ info ∈ t.ignore, remembered cfg l = .ok info.data ∧ now < info.endTime)
  deriving Decidable

/-- A frame that was passed down is remembered until its second has passed. -/
def Accounted (cfg : Config) (t : Dispatcher) : Prop :=
  ∀ fate ∈ t.fates, fate.sent.isSome → fate.frame.hopcount ≠ 0 ∧
    ((∃ info ∈ t.ignore, remembered cfg fate.frame = .ok info.data ∧
        info.endTime = fate.time + 1000000) ∨
      fate.time + 1000000 < t.clock)

section Window

variable {cfg : Config} {t next : Dispatcher} {event : Event} {now : ℕ} {l : LDataPDU}

/-- Only old entries are removed. -/
theorem mem_expire_or_old {ignore : List IgnoreInfo} {info : IgnoreInfo} (hinfo : info ∈ ignore) :
    info ∈ expire now ignore ∨ info.endTime < now := by
  unfold expire
  split
  · rw [← takeWhile_append_dropWhile (p := fun info => decide (info.endTime < now))
      (l := ignore)] at hinfo
    rcases mem_append.1 hinfo with hold | hkept
    · exact .inr (by simpa using mem_takeWhile_imp hold)
    · exact .inl hkept
  · exact .inl hinfo

/-- More entries, and a later time. -/
theorem Accounted.mono (fates : List Fate) (haccounted : Accounted cfg t)
    (hfates : next.fates = fates ++ t.fates) (hclock : t.clock ≤ next.clock)
    (hignore : ∀ info ∈ t.ignore, info ∈ next.ignore ∨ info.endTime < next.clock)
    (hnew : ∀ fate ∈ fates, fate.sent.isSome → fate.frame.hopcount ≠ 0 ∧
      ∃ info ∈ next.ignore, remembered cfg fate.frame = .ok info.data ∧
        info.endTime = fate.time + 1000000) : Accounted cfg next := by
  intro fate hfate hsent
  rw [hfates] at hfate
  rcases mem_append.1 hfate with hfresh | hold
  · obtain ⟨hhop, hinfo⟩ := hnew fate hfresh hsent
    exact ⟨hhop, .inl hinfo⟩
  obtain ⟨hhop, ⟨info, hinfo, hdata, hend⟩ | hpassed⟩ := haccounted fate hold hsent
  · refine ⟨hhop, ?_⟩
    rcases hignore info hinfo with hkept | hdropped
    · exact .inl ⟨info, hkept, hdata, hend⟩
    · exact .inr (hend ▸ hdropped)
  · exact ⟨hhop, .inr (hpassed.trans_le hclock)⟩

theorem Accounted.step (haccounted : Accounted cfg t) (htimely : Timely t event)
    (hstep : step cfg t event = some next) : Accounted cfg next := by
  cases steps_of_step hstep with
  | flags | started | queue | discard | sendNext | trigger | ret => exact haccounted
  | skip => exact haccounted.mono [_] rfl htimely (fun _ hinfo => .inl hinfo) (by simp)
  | forward _ _ hhop hdata =>
    refine haccounted.mono [_] rfl htimely
      (fun _ hinfo => .inl (mem_append_left _ hinfo)) fun fate hfate _ => ?_
    obtain rfl := mem_singleton.1 hfate
    exact ⟨hhop, _, mem_append_right _ (mem_singleton.2 rfl), hdata, rfl⟩
  | leave =>
    exact haccounted.mono [] rfl htimely (fun _ hinfo => mem_expire_or_old hinfo) (by simp)

/-- What was passed down less than a second ago is what is remembered and not old. -/
theorem recentlyForwarded_iff (hremembers : Remembers cfg t) (haccounted : Accounted cfg t)
    (hnow : t.clock ≤ now) (hhop : l.hopcount ≠ 0) :
    RecentlyForwarded t now l ↔
      ∃ info ∈ t.ignore, remembered cfg l = .ok info.data ∧ now < info.endTime := by
  constructor
  · rintro ⟨fate, hfate, hsent, hsame, hrecent⟩
    obtain ⟨hfateHop, ⟨info, hinfo, hdata, hend⟩ | _⟩ := haccounted fate hfate hsent
    · exact ⟨info, hinfo, (remembered_eq_iff hfateHop hhop hdata).2 hsame, hend ▸ hrecent⟩
    · omega
  · rintro ⟨info, hinfo, hdata, hrecent⟩
    obtain ⟨fate, hfate, hsent, hfateHop, hfateData, hend⟩ := hremembers info hinfo
    exact ⟨fate, hfate, hsent, (remembered_eq_iff hfateHop hhop hfateData).1 hdata, hend ▸ hrecent⟩

/-- A frame without hops was never passed down. -/
theorem not_recentlyForwarded (haccounted : Accounted cfg t) (hhop : l.hopcount = 0) :
    ¬ RecentlyForwarded t now l := by
  rintro ⟨fate, hfate, hsent, hsame, -⟩
  have hsameHop : fate.frame.hopcount = l.hopcount := by
    rw [← hsame]
  exact (haccounted fate hfate hsent).1 (hsameHop.trans hhop)

/-- A frame with the repeat flag is dropped exactly if the same frame was passed down less than a
second ago, as long as it has hops left and no old entry stands for it alone. -/
theorem repeat_window_iff {rest : List LDataPDU} (hpath : Path (step cfg) Timely boot t)
    (hnow : t.clock ≤ now) (hbuf : t.buf = l :: rest) (hrepeated : l.repeated)
    (hstep : step cfg t (.pass now) = some next) :
    ∃ sent, next.fates = ⟨l, now, sent⟩ :: t.fates ∧
      ((sent = none ↔ RecentlyForwarded t now l) ↔ Current cfg t now l) := by
  have hremembers := remembers_of_path hpath
  have haccounted : Accounted cfg t := hpath.invariant (Accounted cfg) (by simp [Accounted, boot])
      fun _ _ _ haccounted htimely hstep => haccounted.step htimely hstep
  cases steps_of_step hstep with
  | @skip _ taken others _ htaken hreason =>
    obtain ⟨rfl, rfl⟩ : l = taken ∧ rest = others := by simpa [hbuf] using htaken
    refine ⟨none, rfl, ?_⟩
    rcases hreason with hzero | ⟨hhop, -, hseen⟩
    · simp [Current, hzero, not_recentlyForwarded haccounted hzero]
    · have hcurrent : Current cfg t now l ↔ RecentlyForwarded t now l := by
        rw [recentlyForwarded_iff hremembers haccounted hnow hhop]
        exact ⟨fun hcurrent => hcurrent.2 hseen, fun hrecent => ⟨hhop, fun _ => hrecent⟩⟩
      simp [hcurrent]
  | @forward _ taken others data _ htaken hhop _ hnew =>
    obtain ⟨rfl, rfl⟩ : l = taken ∧ rest = others := by simpa [hbuf] using htaken
    refine ⟨some (passedDown cfg l), rfl, ?_⟩
    have hunseen : ¬ ∃ info ∈ t.ignore, remembered cfg l = .ok info.data := by
      rintro ⟨info, hinfo, hsame⟩
      exact hnew hrepeated info hinfo hsame
    have hnot : ¬ RecentlyForwarded t now l := by
      rw [recentlyForwarded_iff hremembers haccounted hnow hhop]
      rintro ⟨info, hinfo, hsame, -⟩
      exact hunseen ⟨info, hinfo, hsame⟩
    have hcurrent : Current cfg t now l := ⟨hhop, fun hseen => absurd hseen hunseen⟩
    simp [hcurrent, hnot]

end Window

/-- The repetition of a telegram. -/
def repetition : LDataPDU := { telegram 0x81 with repeated := true }

def repetitionNext : List Event :=
  [.flags true true false, .sendNext, .queue (telegram 0x81), .queue repetition, .trigger, .pass 0,
    .sendNext, .ret]

/-- After half a second the repetition is dropped. -/
theorem repeat_window_half : ∃ t next : Dispatcher, Path (step {}) Timely boot t ∧
    step {} t (.pass 500000) = some next ∧ next.fates = ⟨repetition, 500000, none⟩ :: t.fates ∧
      RecentlyForwarded t 500000 repetition := by
  obtain ⟨t, ht, hclock, hbuf, hcurrent, next, hstep, hhead⟩ : ∃ t,
      runAllowed (step {}) Timely boot repetitionNext = some t ∧ t.clock ≤ 500000 ∧
      t.buf = [repetition] ∧ Current {} t 500000 repetition ∧
      ∃ next, step {} t (.pass 500000) = some next ∧
        next.fates.head? = some ⟨repetition, 500000, none⟩ := by decide +kernel
  have hpath := path_of_runAllowed ht
  obtain ⟨sent, hfates, hiff⟩ := repeat_window_iff hpath hclock hbuf rfl hstep
  obtain rfl : sent = none := by simpa [hfates] using hhead
  exact ⟨t, next, hpath, hstep, hfates, (hiff.2 hcurrent).1 rfl⟩

/-- After two seconds it is dropped, too. -/
theorem late_repetition_dropped : ∃ t next : Dispatcher, Path (step {}) Timely boot t ∧
    step {} t (.pass 2000000) = some next ∧ next.fates = ⟨repetition, 2000000, none⟩ :: t.fates ∧
      repetition.hopcount ≠ 0 ∧ ¬ RecentlyForwarded t 2000000 repetition := by
  obtain ⟨t, ht, next, hnext⟩ : ∃ t, runAllowed (step {}) Timely boot repetitionNext = some t ∧
      ∃ next, step {} t (.pass 2000000) = some next ∧
        next.fates = ⟨repetition, 2000000, none⟩ :: t.fates ∧ repetition.hopcount ≠ 0 ∧
        ¬ RecentlyForwarded t 2000000 repetition := by decide +kernel
  exact ⟨t, next, path_of_runAllowed ht, hnext⟩

end Knxd.Dispatch
