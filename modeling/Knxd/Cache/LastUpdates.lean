import Knxd.Cache.GroupCache

/-!
# Answers to last-updates requests

A last-updates request is to be answered once, by the next update or by its timeout,
whichever comes first.  The tracker that waits for them marks itself as stopped and is
deleted by a later event.  Two things go wrong with this.  A tracker looks for the mark
in a variable of its own that nothing sets, so it answers each further update until it
is deleted; and a 16-bit request for a number that is yet to come gets no tracker.
-/

namespace Knxd.LastUpdates

open Memory LPDU Recency Cache List GroupCache Transition Nat
open Transition (Path anyEvent)

/-! ## Requests -/

def isAnswer (request : ℕ) : Output → Bool
  | .last other _ _ => other == request
  | _ => false

def answers (gc : GroupCache) (request : ℕ) : ℕ :=
  gc.outputs.countP (isAnswer request)

def holders (gc : GroupCache) (request : ℕ) : List Reader :=
  gc.reader.filter fun r => r.request = request

def isLastUpdates : Event → Bool
  | .lastUpdates _ | .lastUpdates2 _ => true
  | _ => false

def isTracker : ReaderKind → Bool
  | .reader _ => false
  | .tracker _ => true

/-- A request names a number that was used, and no update meets a tracker that has
answered already. -/
def AnsweredInTime (gc : GroupCache) : Event → Prop
  | .lastUpdates start => start.toNat ≤ gc.seq % 2 ^ 16
  | .sendLData l _ => gc.enable → isUpdate l.data →
      ∀ r ∈ gc.reader, isTracker r.kind → r.stopped = false
  | _ => True

instance (gc : GroupCache) : (event : Event) → Decidable (AnsweredInTime gc event)
  | .lastUpdates _ => inferInstanceAs (Decidable (_ ≤ _))
  | .sendLData _ _ => inferInstanceAs (Decidable (_ → _ → ∀ r ∈ gc.reader, _ → _))
  | .remove _ | .clear | .start | .stop | .driverStart | .driverStop | .read _ _ _ _
  | .lastUpdates2 _ | .timeout _ | .remtrigger => inferInstanceAs (Decidable True)

/-! ## What the events do to readers -/

def addressee : Output → Option ℕ
  | .read request _ _ | .last request _ _ => some request
  | .recvLData _ => none

def calls (gc : GroupCache) (request : ℕ) : List Output :=
  gc.outputs.filter fun output => addressee output = some request

theorem answers_eq (gc : GroupCache) (request : ℕ) :
    answers gc request = (calls gc request).countP (isAnswer request) := by
  rw [answers, calls, countP_filter]
  apply countP_congr
  intro output _
  cases output with
  | read | recvLData => simp [isAnswer]
  | last => simp [isAnswer, addressee]

structure Told (gc : GroupCache) (tell : Reader → Reader × List Output) (next : GroupCache) :
    Prop where
  reader : next.reader = gc.reader.map fun r => (tell r).1
  outputs : next.outputs = gc.reader.flatMap (fun r => (tell r).2) ++ gc.outputs
  requests : next.requests = gc.requests
  sweeps : ∀ r ∈ next.reader, r.stopped = true → next.remtrigger = true

/-- The readers are told nothing.  A new request may get a reader, or be answered at once. -/
structure Quiet (gc next : GroupCache) (new : List Reader) (said : List Output) : Prop where
  reader : next.reader = gc.reader ++ new
  outputs : next.outputs = said ++ gc.outputs
  made : ∀ r ∈ new, gc.requests < next.requests ∧ ∃ kind, r = { request := gc.requests, kind }
  called : ∀ output ∈ said, (∃ l, output = .recvLData l) ∨
    gc.requests < next.requests ∧ ∃ entry nowait, output = .read gc.requests entry nowait
  requests : gc.requests ≤ next.requests
  remtrigger : next.remtrigger = gc.remtrigger

def Idle (gc : GroupCache) : Event → Prop
  | .sendLData l _ => ¬ (gc.enable ∧ isUpdate l.data)
  | .timeout _ | .remtrigger => False
  | _ => True

def expired (gc : GroupCache) (request : ℕ) (r : Reader) : Reader × List Output :=
  if r.request = request ∧ r.timeout then { r with timeout := false }.timeoutCb gc.cacheSeq gc.seq
  else (r, [])

def arrival (gc : GroupCache) (l : LDataPDU) (now : ℕ) : GroupCacheEntry :=
  { (gc.cache l.dest).getD { dst := l.dest } with
    src := l.source, data := l.data, recvtime := now, seq := (gc.seq + 1) % 2 ^ 32 }

inductive Effect (gc : GroupCache) : Event → GroupCache → Prop
  | quiet {event : Event} {next : GroupCache} {new : List Reader} {said : List Output} :
      Idle gc event → Quiet gc next new said → Effect gc event next
  | updated {l : LDataPDU} {now : ℕ} {next : GroupCache} : gc.enable ∧ isUpdate l.data →
      Told gc (fun r => r.updated next.cacheSeq next.seq (arrival gc l now)) next →
      Effect gc (.sendLData l now) next
  | timeout {request : ℕ} : Effect gc (.timeout request) (gc.timeoutCb request)
  | swept : Effect gc .remtrigger gc.remtriggerCb

variable {gc base next : GroupCache} {event : Event} {request : ℕ} {r : Reader}
variable {tell : Reader → Reader × List Output} {new : List Reader} {said : List Output}

theorem told_settle (hreader : base.reader = gc.reader) (houtputs : base.outputs = gc.outputs)
    (hrequests : base.requests = gc.requests) :
    Told gc tell (base.settle (base.reader.map tell)) where
  reader := by rw [settle, hreader, map_map]; rfl
  outputs := by rw [settle, hreader, houtputs, flatMap_map]
  requests := hrequests
  sweeps r hr hstopped := by
    obtain ⟨result, hresult, rfl⟩ := mem_map.1 hr
    exact Bool.or_eq_true_iff.2 (.inr (any_eq_true.2 ⟨result, hresult, hstopped⟩))

theorem told_timeout (gc : GroupCache) (request : ℕ) :
    Told gc (expired gc request) (gc.timeoutCb request) :=
  told_settle rfl rfl rfl

theorem quiet_same (hreader : next.reader = gc.reader) (houtputs : next.outputs = gc.outputs)
    (hrequests : gc.requests ≤ next.requests) (hremtrigger : next.remtrigger = gc.remtrigger) :
    Quiet gc next [] [] :=
  ⟨by rw [hreader, append_nil], houtputs, nofun, nofun, hrequests, hremtrigger⟩

/-- `enter` tells the readers about the new entry. -/
theorem effect_enter {entry : GroupCacheEntry} {l : LDataPDU} (now : ℕ)
    (hupdate : gc.enable ∧ isUpdate l.data)
    (hentry : (gc.cache l.dest).getD { dst := l.dest } = entry)
    (hreader : base.reader = gc.reader) (houtputs : base.outputs = gc.outputs)
    (hrequests : base.requests = gc.requests) (hseq : base.seq = gc.seq) :
    Effect gc (.sendLData l now) (base.enter entry l now) := by
  refine .updated hupdate ?_
  rw [arrival, hentry, ← hseq]
  exact told_settle hreader houtputs hrequests

theorem remove_readers (gc : GroupCache) (ga : Addr) :
    (gc.remove ga).reader = gc.reader ∧ (gc.remove ga).outputs = gc.outputs ∧
      (gc.remove ga).requests = gc.requests ∧ (gc.remove ga).seq = gc.seq ∧
      (gc.remove ga).remtrigger = gc.remtrigger := by
  unfold remove
  split <;> exact ⟨rfl, rfl, rfl, rfl, rfl⟩

theorem quiet_answer (entry : GroupCacheEntry) (nowait : Bool) :
    Quiet gc (gc.answer fun request => .read request entry nowait) []
      [.read gc.requests entry nowait] where
  reader := (append_nil _).symm
  outputs := rfl
  made := nofun
  called _ houtput := .inr ⟨lt_succ_self _, entry, nowait, mem_singleton.1 houtput⟩
  requests := le_succ _
  remtrigger := rfl

theorem quiet_add (kind : ReaderKind) :
    Quiet gc (gc.add kind) [{ request := gc.requests, kind }] [] where
  reader := rfl
  outputs := rfl
  made _ hr := ⟨lt_succ_self _, kind, mem_singleton.1 hr⟩
  called := nofun
  requests := le_succ _
  remtrigger := rfl

/-- Inversion of a step for the sake of the readers. -/
theorem effect_of_step (hstep : step gc event = some next) : Effect gc event next := by
  cases event with
  | sendLData l now =>
    obtain ⟨hnot, rfl⟩ | ⟨hupdate, hnew, _, _, -, rfl⟩ | ⟨hupdate, c, hc, rfl⟩ :=
      sendLData_cases (toOption_eq_some_iff.1 hstep)
    · exact .quiet hnot (quiet_same rfl rfl le_rfl rfl)
    · exact effect_enter now hupdate (by rw [hnew]; rfl) rfl rfl rfl rfl
    · obtain ⟨hreader, houtputs, hrequests, hseq, -⟩ := remove_readers gc l.dest
      exact effect_enter now hupdate (by rw [hc]; rfl) hreader houtputs hrequests hseq
  | remove ga =>
    cases hstep
    obtain ⟨hreader, houtputs, hrequests, -, hremtrigger⟩ := remove_readers gc ga
    exact .quiet trivial (quiet_same hreader houtputs hrequests.ge hremtrigger)
  | clear | start | stop | driverStart | driverStop =>
    cases hstep
    exact .quiet trivial (quiet_same rfl rfl le_rfl rfl)
  | read addr =>
    cases hstep
    unfold GroupCache.read
    repeat' split
    · exact .quiet trivial (quiet_answer _ _)
    · exact .quiet trivial (quiet_answer _ _)
    · obtain ⟨hreader, -, hmade, -, hrequests, hremtrigger⟩ := @quiet_add gc (.reader addr)
      refine .quiet trivial ⟨hreader, (singleton_append ..).symm, hmade, ?_, hrequests, hremtrigger⟩
      exact fun output houtput => .inl ⟨_, mem_singleton.1 houtput⟩
    · exact .quiet trivial (quiet_answer _ _)
  | lastUpdates =>
    cases hstep
    unfold lastUpdates
    dsimp only
    split
    · exact .quiet trivial (quiet_same rfl rfl (le_succ _) rfl)
    · exact .quiet trivial (quiet_add _)
  | lastUpdates2 =>
    cases hstep
    exact .quiet trivial (quiet_add _)
  | timeout =>
    obtain ⟨-, ⟨⟩⟩ := Option.ite_none_right_eq_some.1 hstep
    exact .timeout
  | remtrigger =>
    obtain ⟨-, ⟨⟩⟩ := Option.ite_none_right_eq_some.1 hstep
    exact .swept

theorem requests_mono (hstep : step gc event = some next) : gc.requests ≤ next.requests := by
  cases effect_of_step hstep with
  | quiet _ hquiet => exact hquiet.requests
  | updated _ htold => exact htold.requests.ge
  | timeout | swept => exact le_rfl

/-! ## One request among the others -/

/-- A reader keeps its request, and calls no callback but its own. -/
structure Own (tell : Reader → Reader × List Output) : Prop where
  request : ∀ r, (tell r).1.request = r.request
  outputs : ∀ r, ∀ output ∈ (tell r).2, addressee output = some r.request

theorem request_stop (r : Reader) : r.stop.request = r.request := by
  unfold Reader.stop
  split
  · rfl
  · split <;> rfl

theorem own_updated (cacheSeq : List (ℕ × Addr)) (seq : ℕ) (c : GroupCacheEntry) :
    Own fun r => r.updated cacheSeq seq c := by
  constructor
  all_goals
    intro r
    unfold Reader.updated
    repeat' split
  · rfl
  · exact request_stop r
  · rfl
  · exact request_stop _
  · simp
  · exact forall_mem_singleton.2 rfl
  · simp
  · exact forall_mem_singleton.2 rfl

theorem own_expired (gc : GroupCache) (request : ℕ) : Own (expired gc request) := by
  constructor
  all_goals
    intro r
    unfold expired Reader.timeoutCb
    repeat' split
  · rfl
  · exact request_stop _
  · rfl
  · exact request_stop _
  · rfl
  · simp
  · exact forall_mem_singleton.2 rfl
  · simp
  · exact forall_mem_singleton.2 rfl
  · simp

/-- What the new request gets is nothing to the others. -/
theorem Quiet.other (hquiet : Quiet gc next new said)
    (hother : request < gc.requests ∨ next.requests ≤ request) :
    holders next request = holders gc request ∧ calls next request = calls gc request := by
  have hne : gc.requests < next.requests → gc.requests ≠ request := by omega
  constructor
  · have hnone : new.filter (fun r => r.request = request) = [] := by
      refine filter_eq_nil_iff.2 fun r hr => ?_
      obtain ⟨hlt, _, rfl⟩ := hquiet.made r hr
      simpa using hne hlt
    rw [holders, hquiet.reader, filter_append, hnone, append_nil]
    rfl
  · have hnone : said.filter (fun output => addressee output = some request) = [] := by
      refine filter_eq_nil_iff.2 fun output houtput => ?_
      obtain ⟨l, rfl⟩ | ⟨hlt, _, _, rfl⟩ := hquiet.called output houtput
      · simp [addressee]
      · simpa [addressee] using hne hlt
    rw [calls, hquiet.outputs, filter_append, hnone]
    rfl

theorem holders_told (hown : Own tell) (htold : Told gc tell next) (request : ℕ) :
    holders next request = (holders gc request).map fun r => (tell r).1 := by
  rw [holders, htold.reader, filter_map, holders]
  congr 2
  funext r
  rw [Function.comp_apply, hown.request]

/-- The calls for a request come from its readers. -/
theorem calls_told (hown : Own tell) (htold : Told gc tell next) (request : ℕ) :
    calls next request =
      (holders gc request).flatMap (fun r => (tell r).2) ++ calls gc request := by
  rw [calls, htold.outputs, filter_append, holders]
  congr 1
  induction gc.reader with
  | nil => rfl
  | cons r _ ih =>
    rw [flatMap_cons, filter_append, ih]
    by_cases hrequest : r.request = request
    · have hall : (tell r).2.filter (fun output => addressee output = some request) = (tell r).2 :=
        filter_eq_self.2 fun output houtput =>
          decide_eq_true (hrequest ▸ hown.outputs r output houtput)
      rw [filter_cons_of_pos (by simpa using hrequest), flatMap_cons, hall]
    · have hnone : (tell r).2.filter (fun output => addressee output = some request) = [] :=
        filter_eq_nil_iff.2 fun output houtput hcalls => hrequest (Option.some.inj
          ((hown.outputs r output houtput).symm.trans (of_decide_eq_true hcalls)))
      rw [filter_cons_of_neg (by simpa using hrequest), hnone, nil_append]

/-- A request that has one reader. -/
theorem Told.one (htold : Told gc tell next) (hown : Own tell)
    (hholders : holders gc request = [r]) :
    holders next request = [(tell r).1] ∧ calls next request = (tell r).2 ++ calls gc request := by
  rw [holders_told hown htold, calls_told hown htold, hholders, map_singleton, flatMap_singleton]
  exact ⟨rfl, rfl⟩

theorem holders_swept (gc : GroupCache) (request : ℕ) :
    holders gc.remtriggerCb request = (holders gc request).filter fun r => !r.stopped := by
  rw [holders, remtriggerCb, filter_comm]
  rfl

theorem request_of_holders (hholders : holders gc request = [r]) :
    r ∈ gc.reader ∧ r.request = request := by
  have hmem : r ∈ holders gc request := by
    rw [hholders]
    exact mem_singleton.2 rfl
  simpa [holders] using hmem

/-- Without a reader nothing is answered any more. -/
theorem step_unheld (hholders : holders gc request = [])
    (hother : request < gc.requests ∨ next.requests ≤ request) (hstep : step gc event = some next) :
    holders next request = [] ∧ calls next request = calls gc request := by
  have htold : ∀ tell, Own tell → Told gc tell next →
      holders next request = [] ∧ calls next request = calls gc request := by
    intro tell hown htold
    rw [holders_told hown htold, calls_told hown htold, hholders]
    exact ⟨rfl, rfl⟩
  cases effect_of_step hstep with
  | quiet _ hquiet =>
    obtain ⟨hsame, hcalls⟩ := hquiet.other hother
    exact ⟨hsame.trans hholders, hcalls⟩
  | updated _ hupdated => exact htold _ (own_updated _ _ _) hupdated
  | @timeout other => exact htold _ (own_expired gc other) (told_timeout gc other)
  | swept =>
    rw [holders_swept, hholders]
    exact ⟨rfl, rfl⟩

/-- The numbers of requests to come are not in use. -/
def Unused (gc : GroupCache) : Prop :=
  ∀ request, gc.requests ≤ request → holders gc request = [] ∧ calls gc request = []

theorem Unused.step (hunused : Unused gc) (hstep : step gc event = some next) : Unused next := by
  intro request hrequest
  obtain ⟨hholders, hcalls⟩ := hunused request ((requests_mono hstep).trans hrequest)
  obtain ⟨hnone, hsame⟩ := step_unheld hholders (.inr hrequest) hstep
  exact ⟨hnone, hsame.trans hcalls⟩

/-- The reader of the first request to come. -/
theorem Unused.holders_add (hunused : Unused gc) (kind : ReaderKind) :
    holders (gc.add kind) gc.requests = [{ request := gc.requests, kind }] := by
  obtain ⟨hholders, -⟩ := hunused gc.requests le_rfl
  rw [holders] at hholders
  rw [holders, add, filter_append, hholders]
  simp

/-! ## The stages of a request -/

/-- A tracker that waits, or one that is done. -/
structure Tracks (r : Reader) (done : Bool) : Prop where
  kind : ∃ start, r.kind = .tracker start
  trackerStopped : r.trackerStopped = false
  stopped : r.stopped = done
  timeout : r.timeout = !done

inductive Phase (gc : GroupCache) (request : ℕ) : Prop
  | waiting {r : Reader} : holders gc request = [r] → Tracks r false → calls gc request = [] →
      Phase gc request
  | answered {r : Reader} {addrs : List Addr} {finish : ℕ} : holders gc request = [r] →
      Tracks r true → calls gc request = [.last request addrs finish] → Phase gc request
  | removed {addrs : List Addr} {finish : ℕ} : holders gc request = [] →
      calls gc request = [.last request addrs finish] → Phase gc request

structure Answers (r : Reader) (told : Reader × List Output) : Prop where
  tracks : Tracks told.1 true
  outputs : ∃ addrs finish, told.2 = [.last r.request addrs finish]

theorem answers_handler (hkind : ∃ start, r.kind = .tracker start)
    (htracker : r.trackerStopped = false) (start : ℕ) (cacheSeq : List (ℕ × Addr)) (seq : ℕ) :
    Answers r (r.handler start cacheSeq seq) := by
  obtain ⟨first, hfirst⟩ := hkind
  refine ⟨?_, _, _, rfl⟩
  simp only [Reader.handler, Reader.stop, hfirst, htracker, Bool.false_eq_true, if_false]
  exact ⟨⟨first, rfl⟩, rfl, rfl, rfl⟩

theorem answers_updated {done : Bool} (htracks : Tracks r done) (cacheSeq : List (ℕ × Addr))
    (seq : ℕ) (c : GroupCacheEntry) : Answers r (r.updated cacheSeq seq c) := by
  obtain ⟨start, hstart⟩ := htracks.kind
  simp only [Reader.updated, hstart, htracks.trackerStopped, Bool.false_eq_true, if_false]
  exact answers_handler htracks.kind htracks.trackerStopped start cacheSeq seq

theorem answers_expired (htracks : Tracks r false) (gc : GroupCache) :
    Answers r (expired gc r.request r) := by
  obtain ⟨⟨start, hstart⟩, htracker, -, htimeout⟩ := htracks
  have hhandler : expired gc r.request r =
      { r with timeout := false }.handler start gc.cacheSeq gc.seq := by
    simp [expired, Reader.timeoutCb, htimeout, hstart, htracker]
  rw [hhandler]
  obtain ⟨hdone, hsaid⟩ := @answers_handler { r with timeout := false } ⟨start, hstart⟩ htracker
    start gc.cacheSeq gc.seq
  exact ⟨hdone, hsaid⟩

/-- A tracker that answers at once. -/
theorem Phase.answer (hown : Own tell) (htold : Told gc tell next)
    (hholders : holders gc request = [r]) (hcalls : calls gc request = [])
    (hanswers : Answers r (tell r)) : Phase next request := by
  obtain ⟨htracks, _, _, hsaid⟩ := hanswers
  obtain ⟨hheld, hafter⟩ := htold.one hown hholders
  rw [hsaid, hcalls, (request_of_holders hholders).2] at hafter
  exact .answered hheld htracks hafter

/-- One step for a request that got a tracker. -/
theorem Phase.step (hphase : Phase gc request) (hmade : request < gc.requests)
    (hintime : AnsweredInTime gc event) (hstep : step gc event = some next) :
    Phase next request := by
  have heffect := effect_of_step hstep
  cases hphase with
  | removed hholders hcalls =>
    obtain ⟨hnone, hsame⟩ := step_unheld hholders (.inl hmade) hstep
    exact .removed hnone (hsame.trans hcalls)
  | @waiting r hholders htracks hcalls =>
    obtain ⟨-, hrequest⟩ := request_of_holders hholders
    cases heffect with
    | quiet _ hquiet =>
      obtain ⟨hheld, hsame⟩ := hquiet.other (.inl hmade)
      exact .waiting (hheld.trans hholders) htracks (hsame.trans hcalls)
    | updated _ htold =>
      exact .answer (own_updated _ _ _) htold hholders hcalls (answers_updated htracks _ _ _)
    | @timeout other =>
      have htold := told_timeout gc other
      by_cases hother : other = request
      · rw [hother, ← hrequest] at htold ⊢
        exact .answer (own_expired gc _) htold (hrequest ▸ hholders) (hrequest ▸ hcalls)
          (answers_expired htracks gc)
      · have hignores : expired gc other r = (r, []) := by
          rw [expired, if_neg fun hfires => hother (hfires.1.symm.trans hrequest)]
        obtain ⟨hheld, hsame⟩ := htold.one (own_expired gc other) hholders
        rw [hignores] at hheld hsame
        exact .waiting hheld htracks (hsame.trans hcalls)
    | swept =>
      refine .waiting ?_ htracks hcalls
      rw [holders_swept, hholders]
      simp [htracks.stopped]
  | @answered r _ _ hholders htracks hcalls =>
    obtain ⟨hmem, -⟩ := request_of_holders hholders
    cases heffect with
    | quiet _ hquiet =>
      obtain ⟨hheld, hsame⟩ := hquiet.other (.inl hmade)
      exact .answered (hheld.trans hholders) htracks (hsame.trans hcalls)
    | updated hupdate =>
      -- the condition: an update does not find a tracker that has answered
      obtain ⟨_, hstart⟩ := htracks.kind
      have hstopped := hintime hupdate.1 hupdate.2 r hmem (by rw [hstart]; rfl)
      rw [htracks.stopped] at hstopped
      cases hstopped
    | @timeout other =>
      have hignores : expired gc other r = (r, []) := by
        rw [expired, if_neg fun hfires => by simp [htracks.timeout] at hfires]
      obtain ⟨hheld, hsame⟩ := (told_timeout gc other).one (own_expired gc other) hholders
      rw [hignores] at hheld hsame
      exact .answered hheld htracks (hsame.trans hcalls)
    | swept =>
      refine .removed ?_ hcalls
      rw [holders_swept, hholders]
      simp [htracks.stopped]

theorem answers_of_calls {addrs : List Addr} {finish : ℕ}
    (hcalls : calls gc request = [.last request addrs finish]) : answers gc request = 1 := by
  rw [answers_eq, hcalls]
  simp [isAnswer]

/-- In every stage the request was answered once, or its timer will answer it. -/
theorem Phase.answers (hphase : Phase gc request) :
    answers gc request = 1 ∨ answers gc request = 0 ∧
      ∃ next, Cache.step gc (.timeout request) = some next ∧
        LastUpdates.answers next request = 1 := by
  cases hphase with
  | removed _ hcalls | answered _ _ hcalls => exact .inl (answers_of_calls hcalls)
  | @waiting r hholders htracks hcalls =>
    obtain ⟨hmem, rfl⟩ := request_of_holders hholders
    obtain ⟨-, _, _, hsaid⟩ := answers_expired htracks gc
    obtain ⟨-, hafter⟩ := (told_timeout gc r.request).one (own_expired gc r.request) hholders
    rw [hsaid, hcalls] at hafter
    refine .inr ⟨by rw [answers_eq, hcalls]; rfl, _, ?_, answers_of_calls hafter⟩
    refine if_pos (any_eq_true.2 ⟨r, hmem, ?_⟩)
    simp [htracks.timeout]

/-- A request for a number that was used gets a tracker. -/
theorem phase_of_request (hunused : Unused gc) (hlast : isLastUpdates event)
    (hintime : AnsweredInTime gc event) (hstep : step gc event = some next) :
    Phase next gc.requests ∧ gc.requests < next.requests := by
  have hadd : ∀ start, Phase (gc.add (.tracker start)) gc.requests := fun start =>
    .waiting (hunused.holders_add _) ⟨⟨start, rfl⟩, rfl, rfl, rfl⟩ (hunused gc.requests le_rfl).2
  cases event with
  | lastUpdates start =>
    cases hstep
    have hused : ¬ gc.seq < gc.seq / 2 ^ 16 * 2 ^ 16 + start.toNat := by
      have hdiv := div_add_mod' gc.seq (2 ^ 16)
      have hle : start.toNat ≤ gc.seq % 2 ^ 16 := hintime
      omega
    rw [lastUpdates, if_neg hused]
    exact ⟨hadd _, lt_succ_self _⟩
  | lastUpdates2 =>
    cases hstep
    exact ⟨hadd _, lt_succ_self _⟩
  | _ => cases hlast

/-- Every last-updates request is answered exactly once, in every run in which 16-bit
requests name a number that was used and no update arrives between an answer and the
removal of its tracker: at any time the request was answered once, or its timer is still
running and will answer it. -/
theorem last_updates_answered_once {maxsize : ℕ} {before made after : GroupCache} {event : Event}
    (hreached : Path step AnsweredInTime { maxsize } before) (hlast : isLastUpdates event)
    (hintime : AnsweredInTime before event) (hmade : step before event = some made)
    (hpath : Path step AnsweredInTime made after) :
    answers after before.requests = 1 ∨ answers after before.requests = 0 ∧
      ∃ next, step after (.timeout before.requests) = some next ∧
        answers next before.requests = 1 := by
  have hunused : Unused before := hreached.invariant Unused (fun _ _ => ⟨rfl, rfl⟩)
    fun _ _ _ hunused _ hstep => hunused.step hstep
  have hphase := hpath.invariant
    (fun gc => Phase gc before.requests ∧ before.requests < gc.requests)
    (phase_of_request hunused hlast hintime hmade)
    fun gc event next hinv hintime hstep => ⟨hinv.1.step hinv.2 hintime hstep,
      hinv.2.trans_le (requests_mono hstep)⟩
  exact hphase.1.answers

/-- A write to a group address. -/
def groupWrite (dest : Addr) : Event :=
  .sendLData { addrType := .groupAddress, dest, data := [0x00, 0x80] } 0

/-- The first update answers, the tracker is deleted, and the second one is not an
answer any more. -/
theorem last_updates_answered_once_by_update : ∃ before made after,
    Transition.runAllowed step AnsweredInTime {} [.driverStart, groupWrite 1] = some before ∧
    step before (.lastUpdates 1) = some made ∧
    Transition.runAllowed step AnsweredInTime made
      [groupWrite 2, .remtrigger, groupWrite 3] = some after ∧
    answers after before.requests = 1 := by
  obtain ⟨before, hbefore, hintime, made, hmade, after, hafter, hsome⟩ : ∃ before,
      runAllowed step AnsweredInTime {} [.driverStart, groupWrite 1] = some before ∧
      AnsweredInTime before (.lastUpdates 1) ∧ ∃ made, step before (.lastUpdates 1) = some made ∧
      ∃ after, runAllowed step AnsweredInTime made [groupWrite 2, .remtrigger, groupWrite 3] =
        some after ∧ answers after before.requests ≠ 0 := by decide +kernel
  have honce := last_updates_answered_once (path_of_runAllowed hbefore) rfl hintime hmade
    (path_of_runAllowed hafter)
  exact ⟨before, made, after, hbefore, hmade, hafter,
    honce.resolve_right fun hnone => hsome hnone.1⟩

/-- A request for the number after the last one is never answered; and a request is
answered twice if two updates come before its tracker is deleted. -/
theorem last_updates_not_once :
    (∃ made, step {} (.lastUpdates 1) = some made ∧
      ∀ after, Path step anyEvent made after → answers after 0 = 0) ∧
    ∃ after, Path step anyEvent {} after ∧ answers after 0 = 2 := by
  constructor
  · refine ⟨_, rfl, fun after hpath => ?_⟩
    have hinv := hpath.invariant
      (fun gc => holders gc 0 = [] ∧ calls gc 0 = [] ∧ 0 < gc.requests)
      ⟨rfl, rfl, Nat.zero_lt_one⟩ ?_
    · rw [answers_eq, hinv.2.1]
      rfl
    · rintro gc event next ⟨hholders, hcalls, hmade⟩ - hstep
      obtain ⟨hnone, hsame⟩ := step_unheld hholders (.inl hmade) hstep
      exact ⟨hnone, hsame.trans hcalls, hmade.trans_le (requests_mono hstep)⟩
  · exact exists_path [.driverStart, .lastUpdates2 0, groupWrite 1, groupWrite 2]
      (by decide +kernel)

end Knxd.LastUpdates
