import SupportPilot.Evaluations.Steps

/-!
# The counters of an evaluation run

The counters are counts of the cases that have a completed result, taken while the run is locked.
Replays share the table of the results but are none of the cases.
-/

namespace SupportPilot.Evaluations

open Library

variable {cfg : EvaluationSettings} {s s' : Store} {c c' : Evaluation} {i k r : Nat}
  {run run' : EvaluationRun} {result result' : EvaluationResult} {l : EvaluationLabel}

/-! ## The tally -/

structure CounterBounds (run : EvaluationRun) : Prop where
  passed : run.passedCases ≤ run.completedCases
  completed : run.completedCases ≤ run.totalCases
  failed : run.failedCases = run.completedCases - run.passedCases

/-- Results belong to runs, only successful ones have passed, and the total of a run is the
number of its cases. -/
structure Tallied (s : Store) : Prop where
  owned : ∀ result ∈ s.results, result.run < s.runs.length
  passed : ∀ result ∈ s.results, result.passed = some true → result.status = .succeeded
  total : ∀ (k : Nat) (run : EvaluationRun), s.runs[k]? = some run →
    s.results.countP (·.caseOf k) = run.totalCases
  bounds : ∀ (k : Nat) (run : EvaluationRun), s.runs[k]? = some run → CounterBounds run

theorem Tallied.empty : Tallied {} where
  owned := by simp
  passed := by simp
  total k run hrun := by simp at hrun
  bounds k run hrun := by simp at hrun

theorem SameCase.caseOf (h : SameCase result result') (k : Nat) :
    result'.caseOf k = result.caseOf k := by
  simp only [EvaluationResult.caseOf, h.1, h.2]

section ResultChanges

variable {Writable : EvaluationResult → Prop}

theorem ResultChange.sameCase (h : ResultChange s Writable result result') :
    SameCase result result' := by
  cases h with
  | same => exact ⟨rfl, rfl⟩
  | moved hcase => exact hcase
  | recovered hcase => exact hcase
  | written hcase => exact hcase

theorem ResultChange.passed (h : ResultChange s Writable result result')
    (hpassed : result.passed = some true → result.status = .succeeded) :
    result'.passed = some true → result'.status = .succeeded := by
  intro hnow
  cases h with
  | same => exact hpassed hnow
  | moved _ hpending _ hsame =>
    have hbefore := hpassed (hsame ▸ hnow)
    rw [hpending] at hbefore
    cases hbefore
  | recovered _ _ _ _ _ hfalse =>
    rw [hfalse] at hnow
    cases hnow
  | written _ _ hwritten =>
    rcases hwritten with ⟨-, hfalse⟩ | hsucceeded
    · rw [hfalse] at hnow
      cases hnow
    · exact hsucceeded

/-- The rows of the second table were changed as the step allows. -/
theorem mem_back (hlength : s'.results.length = s.results.length)
    (h : Rows (ResultChange s Writable) s.results s'.results) (hresult : result' ∈ s'.results) :
    ∃ result ∈ s.results, ResultChange s Writable result result' := by
  obtain ⟨i, hi⟩ := List.mem_iff_getElem?.mp hresult
  rcases h.back hi with ⟨result, hbefore, hchange⟩ | hge
  · exact ⟨result, List.mem_of_getElem? hbefore, hchange⟩
  · have hlt := (List.getElem?_eq_some_iff.mp hi).1
    omega

theorem countP_caseOf (hlength : s'.results.length = s.results.length)
    (h : Rows (ResultChange s Writable) s.results s'.results) (k : Nat) :
    s'.results.countP (·.caseOf k) = s.results.countP (·.caseOf k) :=
  h.countP_eq hlength fun _ _ _ hchange => hchange.sameCase.caseOf k

end ResultChanges

/-! ## What a step does to the counters -/

theorem RunChange.total (h : RunChange s' k run run') : run'.totalCases = run.totalCases := by
  cases h with
  | same => rfl
  | claimed _ _ hsame => exact hsame.total
  | counted _ htotal => exact htotal
  | cancelled _ _ htotal => exact htotal
  | finalized _ _ _ hsame => exact hsame.total

theorem RunChange.counters (h : RunChange s' k run run') :
    SameCounters run run' ∨ Counts s' k run' := by
  cases h with
  | same => exact .inl ⟨rfl, rfl, rfl, rfl⟩
  | claimed _ _ hsame => exact .inl hsame
  | counted hcounts => exact .inr hcounts
  | cancelled _ hcounts => exact .inr hcounts
  | finalized _ _ _ hsame => exact .inl hsame

theorem RunChange.terminal (h : RunChange s' k run run') (hterminal : run.status.terminal = true) :
    run'.status = run.status := by
  cases h with
  | same => rfl
  | claimed hpending =>
    rw [hpending] at hterminal
    cases hterminal
  | counted _ _ hstatus => exact hstatus
  | cancelled hopen =>
    rw [hopen] at hterminal
    cases hterminal
  | finalized hrunning =>
    rw [hrunning] at hterminal
    cases hterminal

theorem SameCounters.bounds (h : SameCounters run run') (hbounds : CounterBounds run) :
    CounterBounds run' where
  passed := by rw [h.passed, h.completed]; exact hbounds.passed
  completed := by rw [h.completed, h.total]; exact hbounds.completed
  failed := by rw [h.failed, h.completed, h.passed]; exact hbounds.failed

/-- Every passed case is a completed one. -/
theorem passed_le_completed
    (hpassed : ∀ result ∈ s.results, result.passed = some true → result.status = .succeeded)
    (k : Nat) : (s.aggregateCaseCounts k).2 ≤ (s.aggregateCaseCounts k).1 := by
  apply List.countP_mono_left
  intro result hresult hcounted
  simp only [Bool.and_eq_true, decide_eq_true_eq] at hcounted ⊢
  refine ⟨hcounted.1, ?_⟩
  rw [hpassed result hresult hcounted.2]
  rfl

theorem completed_le_total (s : Store) (k : Nat) :
    (s.aggregateCaseCounts k).1 ≤ s.results.countP (·.caseOf k) := by
  apply List.countP_mono_left
  intro result _ hcounted
  rw [Bool.and_eq_true] at hcounted
  exact hcounted.1

/-- Counters that have just been counted are in bounds. -/
theorem Counts.bounds (h : Counts s k run)
    (hpassed : ∀ result ∈ s.results, result.passed = some true → result.status = .succeeded)
    (htotal : s.results.countP (·.caseOf k) = run.totalCases) : CounterBounds run where
  passed := by
    rw [h.passed, h.completed]
    exact passed_le_completed hpassed k
  completed := by
    rw [h.completed, ← htotal]
    exact completed_le_total s k
  failed := h.failed

/-! ## The tally is kept -/

theorem Tallied.changed {Writable : EvaluationResult → Prop} (hs : Tallied s)
    (hlength : s'.results.length = s.results.length)
    (hresults : Rows (ResultChange s Writable) s.results s'.results)
    (hruns : s'.runs.length = s.runs.length)
    (hrun : ∀ (k : Nat) (run : EvaluationRun), s.runs[k]? = some run →
      ∃ run', s'.runs[k]? = some run' ∧ RunChange s' k run run') : Tallied s' := by
  have hback : ∀ (k : Nat) (run' : EvaluationRun), s'.runs[k]? = some run' →
      ∃ run, s.runs[k]? = some run ∧ RunChange s' k run run' := by
    intro k run' hrun'
    have hlt := (List.getElem?_eq_some_iff.mp hrun').1
    rw [hruns] at hlt
    obtain ⟨run'', hrun'', hchange⟩ := hrun k _ (List.getElem?_eq_getElem hlt)
    rw [hrun'] at hrun''
    cases hrun''
    exact ⟨_, List.getElem?_eq_getElem hlt, hchange⟩
  have hpassed : ∀ result ∈ s'.results, result.passed = some true →
      result.status = .succeeded := by
    intro result' hresult'
    obtain ⟨result, hresult, hchange⟩ := mem_back hlength hresults hresult'
    exact hchange.passed (hs.passed result hresult)
  have htotal : ∀ (k : Nat) (run' : EvaluationRun), s'.runs[k]? = some run' →
      s'.results.countP (·.caseOf k) = run'.totalCases := by
    intro k run' hrun'
    obtain ⟨run, hbefore, hchange⟩ := hback k run' hrun'
    rw [countP_caseOf hlength hresults, hs.total k run hbefore, hchange.total]
  refine ⟨fun result' hresult' => ?_, hpassed, htotal, fun k run' hrun' => ?_⟩
  · obtain ⟨result, hresult, hchange⟩ := mem_back hlength hresults hresult'
    rw [hchange.sameCase.1, hruns]
    exact hs.owned result hresult
  · obtain ⟨run, hbefore, hchange⟩ := hback k run' hrun'
    rcases hchange.counters with hsame | hcounts
    · exact hsame.bounds (hs.bounds k run hbefore)
    · exact hcounts.bounds hpassed (htotal k run' hrun')

/-- A replay is a new result, and none of the cases. -/
theorem Tallied.replayed {replay : EvaluationResult} (hs : Tallied s)
    (hrun : replay.run < s.runs.length) (hreplay : replay.replayOf.isSome = true)
    (hpassed : replay.passed = none) :
    Tallied { s with results := s.results ++ [replay] } where
  owned result hresult := by
    rcases List.mem_append.mp hresult with hold | hnew
    · exact hs.owned result hold
    · rw [List.mem_singleton.mp hnew]
      exact hrun
  passed result hresult hnow := by
    rcases List.mem_append.mp hresult with hold | hnew
    · exact hs.passed result hold hnow
    · rw [List.mem_singleton.mp hnew, hpassed] at hnow
      cases hnow
  total k run hrow := by
    have hcase : replay.caseOf k = false := by
      simp only [EvaluationResult.caseOf, Bool.and_eq_false_iff]
      exact .inr (by simpa using hreplay)
    rw [List.countP_append, List.countP_singleton, hcase, hs.total k run hrow]
    rfl
  bounds := hs.bounds

theorem Tallied.started {cases now : Nat} (hs : Tallied s)
    (h : s.startEvaluationRun cases now = some s') : Tallied s' := by
  cases startEvaluationRun_some h
  set fresh : EvaluationResult :=
    { run := s.runs.length, createdAt := now, updatedAt := now } with hfresh
  have hmem : ∀ result ∈ s.results ++ List.replicate cases fresh,
      result ∈ s.results ∨ result = fresh := by
    intro result hresult
    exact (List.mem_append.mp hresult).imp id List.eq_of_mem_replicate
  have hnone : s.results.countP (·.caseOf s.runs.length) = 0 := by
    refine List.countP_eq_zero.mpr fun result hresult hcase => ?_
    have hlt := hs.owned result hresult
    simp only [EvaluationResult.caseOf, Bool.and_eq_true, decide_eq_true_eq] at hcase
    omega
  have hold : ∀ k, k < s.runs.length → (List.replicate cases fresh).countP (·.caseOf k) = 0 := by
    intro k hk
    refine List.countP_eq_zero.mpr fun result hresult hcase => ?_
    rw [List.eq_of_mem_replicate hresult, hfresh] at hcase
    simp only [EvaluationResult.caseOf, Bool.and_eq_true, decide_eq_true_eq] at hcase
    omega
  have hnew : (List.replicate cases fresh).countP (·.caseOf s.runs.length) = cases := by
    have hall : (List.replicate cases fresh).countP (·.caseOf s.runs.length) =
        (List.replicate cases fresh).length := by
      refine List.countP_eq_length.mpr fun result hresult => ?_
      rw [List.eq_of_mem_replicate hresult]
      simp [EvaluationResult.caseOf, hfresh]
    rw [hall, List.length_replicate]
  refine ⟨fun result hresult => ?_, fun result hresult hnow => ?_, ?_, ?_⟩
  · rw [List.length_append, List.length_singleton]
    rcases hmem result hresult with hbefore | rfl
    · have hlt := hs.owned result hbefore
      omega
    · exact Nat.lt_succ_self _
  · rcases hmem result hresult with hbefore | rfl
    · exact hs.passed result hbefore hnow
    · cases hnow
  · refine AllRows.append (fun k run hrun => ?_) ?_
    · have hlt := (List.getElem?_eq_some_iff.mp hrun).1
      rw [List.countP_append, hold k hlt, hs.total k run hrun]
      rfl
    · rw [List.countP_append, hnone, hnew]
      exact Nat.zero_add cases
  · refine AllRows.append hs.bounds ?_
    exact ⟨Nat.le_refl 0, Nat.zero_le cases, rfl⟩

theorem Effect.tallied {Writable : EvaluationResult → Prop} (h : Effect Writable s s')
    (hs : Tallied s) : Tallied s' := by
  cases h with
  | changed hlength hresults hruns hrun => exact hs.changed hlength hresults hruns hrun
  | replayed hresult _ heq =>
    have howned := hs.owned _ (List.mem_of_getElem? hresult)
    rw [heq]
    exact hs.replayed howned rfl rfl
  | started h => exact hs.started h

/-- The effect of a step, whatever its writes find. -/
theorem anyEffect (hstep : (evaluations cfg).system.step l c = some c') :
    Effect (fun _ => True) c.store c'.store :=
  step_effect hstep fun _ _ => trivial

theorem tallied {permits : Evaluation → EvaluationLabel → Prop}
    (h : (evaluations cfg).system.Reach permits c) : Tallied c.store := by
  refine System.Reach.invariant (I := fun c => Tallied c.store) ?_ ?_ h
  · rintro ⟨s, procs⟩ ⟨rfl, -⟩
    exact .empty
  · intro c l c' _ hc _ hstep
    exact (anyEffect hstep).tallied hc

/-! ## Replays -/

/-- The result that a worker is about. -/
def Proc.about : Proc → Option Nat
  | .starting r | .executing r | .recording r => some r
  | .finalizing _ | .ended => none

/-- The step makes a replay, or is one of a worker on a replay. -/
def OnReplay (c : Evaluation) : EvaluationLabel → Prop
  | .env (.replay _ _) => True
  | .env _ => False
  | .work i _ => ∃ proc r result, c.procs[i]? = some proc ∧ proc.about = some r ∧
      c.store.results[r]? = some result ∧ result.replayOf.isSome = true

/-- The results of the cases, without the replays. -/
def Store.withoutReplays (s : Store) : Store :=
  { s with results := s.results.filter (·.replayOf.isNone) }

theorem aggregateCaseCounts_withoutReplays (s : Store) (k : Nat) :
    s.withoutReplays.aggregateCaseCounts k = s.aggregateCaseCounts k := by
  have hcount : ∀ p : EvaluationResult → Bool,
      (s.results.filter (·.replayOf.isNone)).countP (fun r => r.caseOf k && p r) =
        s.results.countP (fun r => r.caseOf k && p r) := by
    intro p
    rw [List.countP_filter]
    congr 1
    funext r
    simp only [EvaluationResult.caseOf]
    cases r.replayOf.isNone <;> simp
  simp only [Store.aggregateCaseCounts, Store.withoutReplays]
  rw [hcount (·.status.completed), hcount (fun r => r.passed = some true)]

/-- The worker counts the result of a case. -/
def CountsCase (s : Store) : Proc → Prop
  | .recording r => ∃ result, s.results[r]? = some result ∧ result.replayOf = none
  | _ => True

theorem Effect.sameCase {Writable : EvaluationResult → Prop} (h : Effect Writable s s')
    (hresult : s.results[r]? = some result) :
    ∃ result', s'.results[r]? = some result' ∧ SameCase result result' := by
  cases h with
  | changed _ hresults =>
    obtain ⟨result', hresult', hchange⟩ := hresults r result hresult
    exact ⟨result', hresult', hchange.sameCase⟩
  | replayed _ _ heq =>
    refine ⟨result, ?_, rfl, rfl⟩
    rw [heq]
    exact getElem?_append_some hresult _
  | started h =>
    cases startEvaluationRun_some h
    exact ⟨result, getElem?_append_some hresult _, rfl, rfl⟩

theorem CountsCase.kept {Writable : EvaluationResult → Prop} {proc : Proc}
    (h : CountsCase s proc) (heffect : Effect Writable s s') : CountsCase s' proc := by
  cases proc with
  | recording r =>
    obtain ⟨result, hresult, hcase⟩ := h
    obtain ⟨result', hresult', hsame⟩ := heffect.sameCase hresult
    exact ⟨result', hresult', hsame.2.trans hcase⟩
  | _ => trivial

theorem countsCase_afterWrite (s s' : Store) (r : Nat)
    (hkept : ∀ result, s.results[r]? = some result →
      ∃ result', s'.results[r]? = some result' ∧ SameCase result result') :
    CountsCase s' (afterWrite s r) := by
  unfold afterWrite
  split
  · rename_i result hresult
    split
    · rename_i hcase
      obtain ⟨result', hresult', hsame⟩ := hkept result hresult
      exact ⟨result', hresult', hsame.2.trans (by simpa using hcase)⟩
    · trivial
  · trivial

theorem countsCase_work {a : EvaluationAction} {proc proc' : Proc}
    (h : caseStep cfg a proc s = some (s', proc'))
    (hkept : ∀ (r : Nat) (result : EvaluationResult), s.results[r]? = some result →
      ∃ result', s'.results[r]? = some result' ∧ SameCase result result') :
    CountsCase s' proc' := by
  unfold caseStep at h
  split at h
  · obtain ⟨⟨t, claimed⟩, -, heq⟩ := Option.map_eq_some_iff.mp h
    cases heq
    cases claimed <;> trivial
  · obtain ⟨t, -, heq⟩ := Option.map_eq_some_iff.mp h
    cases heq
    exact countsCase_afterWrite s _ _ (hkept _)
  · split at h
    · cases h
    · obtain ⟨t, -, heq⟩ := Option.map_eq_some_iff.mp h
      cases heq
      exact countsCase_afterWrite s _ _ (hkept _)
  · obtain ⟨result, -, hout⟩ := Option.bind_eq_some_iff.mp h
    obtain ⟨⟨t, finalize⟩, -, heq⟩ := Option.map_eq_some_iff.mp hout
    cases heq
    cases finalize <;> trivial
  all_goals cases h
  all_goals trivial

theorem countsCase_env {e : EvaluationEvent} {proc : Proc}
    (h : evaluationStep cfg e s = some (s', some proc)) : CountsCase s' proc := by
  cases e with
  | recover k sweepNow now =>
    obtain ⟨⟨t, finalize⟩, -, heq⟩ := Option.map_eq_some_iff.mp h
    cases finalize
    · cases heq
    · cases heq
      trivial
  | caseTask r =>
    cases h
    trivial
  | startRun => obtain ⟨t, -, heq⟩ := Option.map_eq_some_iff.mp h; cases heq
  | claimRun => obtain ⟨t, -, heq⟩ := Option.map_eq_some_iff.mp h; cases heq
  | cancel => obtain ⟨t, -, heq⟩ := Option.map_eq_some_iff.mp h; cases heq
  | replay => obtain ⟨t, -, heq⟩ := Option.map_eq_some_iff.mp h; cases heq

/-- A worker that is about to count a result has written the result of a case. -/
theorem countsCase {permits : Evaluation → EvaluationLabel → Prop}
    (h : (evaluations cfg).system.Reach permits c) :
    ∀ (i : Nat) (proc : Proc), c.procs[i]? = some proc → CountsCase c.store proc := by
  refine System.Reach.invariant (I := fun c => ∀ (i : Nat) (proc : Proc),
    c.procs[i]? = some proc → CountsCase c.store proc) ?_ ?_ h
  · rintro ⟨s, procs⟩ ⟨-, rfl⟩ i proc hproc
    simp at hproc
  · intro c l c' _ hc _ hstep i proc hproc
    have heffect := anyEffect hstep
    cases l with
    | env e =>
      obtain ⟨s', started, hout, rfl⟩ := Program.step_env hstep
      rcases Program.proc_append hproc with hold | rfl
      · exact (hc i proc hold).kept heffect
      · exact countsCase_env hout
    | work j a =>
      obtain ⟨before, s', after, hbefore, hout, rfl⟩ := Program.step_work hstep
      rcases getElem?_set_cases hproc with ⟨-, rfl⟩ | ⟨-, hold⟩
      · exact countsCase_work hout fun r result => heffect.sameCase
      · exact (hc i proc hold).kept heffect

/-- Steps on replays leave all runs alone. -/
theorem runs_onReplay (hcounts : ∀ (i : Nat) (proc : Proc), c.procs[i]? = some proc →
      CountsCase c.store proc)
    (hstep : (evaluations cfg).system.step l c = some c') (h : OnReplay c l) :
    c'.store.runs = c.store.runs := by
  cases l with
  | env e =>
    obtain ⟨s', started, hout, rfl⟩ := Program.step_env hstep
    cases e with
    | replay r now =>
      obtain ⟨t, ht, heq⟩ := Option.map_eq_some_iff.mp hout
      cases heq
      obtain ⟨result, -, hreplay⟩ := Option.bind_eq_some_iff.mp ht
      split at hreplay
      · cases hreplay
        rfl
      · cases hreplay
    | _ => exact h.elim
  | work i a =>
    obtain ⟨proc, r, result, hproc, hr, hresult, hreplay⟩ := h
    obtain ⟨before, s', after, hbefore, hout, rfl⟩ := Program.step_work hstep
    rw [hproc] at hbefore
    cases hbefore
    have hcase : caseStep cfg a proc c.store = some (s', after) := hout
    unfold caseStep at hcase
    split at hcase
    · obtain ⟨⟨t, claimed⟩, ht, heq⟩ := Option.map_eq_some_iff.mp hcase
      cases heq
      obtain ⟨row, -, hrow⟩ := Option.bind_eq_some_iff.mp ht
      obtain ⟨run, -, hclaim⟩ := Option.map_eq_some_iff.mp hrow
      split at hclaim
      · cases hclaim
        rfl
      · split at hclaim <;> cases hclaim <;> rfl
    · obtain ⟨t, ht, heq⟩ := Option.map_eq_some_iff.mp hcase
      cases heq
      obtain ⟨row, -, rfl⟩ := Option.map_eq_some_iff.mp ht
      rfl
    · split at hcase
      · cases hcase
      · obtain ⟨t, ht, heq⟩ := Option.map_eq_some_iff.mp hcase
        cases heq
        obtain ⟨row, -, rfl⟩ := Option.map_eq_some_iff.mp ht
        rfl
    · -- a worker that counts is about a case
      cases hr
      obtain ⟨row, hrow, hnone⟩ := hcounts i _ hproc
      rw [hresult] at hrow
      cases hrow
      rw [hnone] at hreplay
      cases hreplay
    · cases hr
    all_goals cases hcase
    all_goals rfl

/-! ## Main result -/

theorem Effect.runChange {Writable : EvaluationResult → Prop} (h : Effect Writable s s')
    (hrun : s.runs[k]? = some run) : ∃ run', s'.runs[k]? = some run' ∧ RunChange s' k run run' := by
  cases h with
  | changed _ _ _ hruns => exact hruns k run hrun
  | replayed _ _ heq => exact ⟨run, by rw [heq, hrun], .same run⟩
  | started h =>
    cases startEvaluationRun_some h
    exact ⟨run, getElem?_append_some hrun _, .same run⟩

/-- What a step may do to a run: its total and a terminal status stay, and the counters stay or
are counted anew, over the cases alone. -/
structure RunLaw (s' : Store) (k : Nat) (run run' : EvaluationRun) : Prop where
  total : run'.totalCases = run.totalCases
  terminal : run.status.terminal = true → run'.status = run.status
  counters : SameCounters run run' ∨ Counts s'.withoutReplays k run'

theorem RunChange.law (h : RunChange s' k run run') : RunLaw s' k run run' := by
  refine ⟨h.total, h.terminal, h.counters.imp id fun hcounts => ?_⟩
  have hsame := aggregateCaseCounts_withoutReplays s' k
  exact ⟨by rw [hsame, hcounts.completed], by rw [hsame, hcounts.passed], hcounts.failed⟩

/-- In every reachable state the counters are in bounds; every step counts the cases alone and
leaves a terminal run in its status, and the steps on replays leave all runs alone. -/
theorem evaluation_counters_bounded (cfg : EvaluationSettings) (c : Evaluation)
    (h : (evaluations cfg).system.Reach (fun _ _ => True) c) :
    (∀ (k : Nat) (run : EvaluationRun), c.store.runs[k]? = some run → CounterBounds run) ∧
      ∀ (l : EvaluationLabel) (c' : Evaluation), (evaluations cfg).system.step l c = some c' →
        (∀ (k : Nat) (run : EvaluationRun), c.store.runs[k]? = some run →
          ∃ run', c'.store.runs[k]? = some run' ∧ RunLaw c'.store k run run') ∧
        (OnReplay c l → c'.store.runs = c.store.runs) := by
  refine ⟨(tallied h).bounds, fun l c' hstep => ⟨fun k run hrun => ?_, ?_⟩⟩
  · have heffect := anyEffect hstep
    obtain ⟨run', hrun', hchange⟩ := heffect.runChange hrun
    exact ⟨run', hrun', hchange.law⟩
  · exact runs_onReplay (countsCase h) hstep

def sampleSettings : EvaluationSettings := { stuckRunStaleSeconds := 900 }

/-- Where a run over empty tables ends. -/
def evaluationEnd (permits : Evaluation → EvaluationLabel → Prop)
    [∀ c l, Decidable (permits c l)] (labels : List EvaluationLabel) : Evaluation :=
  (evaluations sampleSettings).system.replayEnd permits labels ⟨{}, []⟩

theorem reaches_evaluationEnd (permits : Evaluation → EvaluationLabel → Prop)
    [∀ c l, Decidable (permits c l)] (labels : List EvaluationLabel) :
    (evaluations sampleSettings).system.Reach permits (evaluationEnd permits labels) := by
  have hinit : (evaluations sampleSettings).system.initial ⟨{}, []⟩ := ⟨rfl, rfl⟩
  exact System.reach_replayEnd (.init hinit) labels

def passedScore : CaseScore := { passed := true, failureCode := none, output := "" }

/-- One of two cases passes and is counted, and a replay of it fails. -/
def replayedCase : List EvaluationLabel :=
  [.env (.startRun 2 1), .env (.claimRun 0 2), .env (.caseTask 0), .work 0 (.claim 3),
    .work 0 (.complete 7 passedScore 4), .work 0 (.record 5), .env (.replay 0 6),
    .env (.caseTask 2), .work 1 (.claim 7),
    .work 1 (.terminate .scoringFailed "Scoring could not be completed." 8)]

theorem evaluation_counters_replayed :
    (∀ (k : Nat) (run : EvaluationRun),
      (evaluationEnd (fun _ _ => True) replayedCase).store.runs[k]? = some run →
        CounterBounds run) ∧
      (evaluationEnd (fun _ _ => True) replayedCase).store.results.map (·.status) =
        [.succeeded, .pending, .failed] :=
  ⟨(evaluation_counters_bounded sampleSettings _
    (reaches_evaluationEnd (fun _ _ => True) replayedCase)).1, by decide⟩

end SupportPilot.Evaluations
