import SupportPilot.Evaluations.System
import SupportPilot.Library.Table

/-!
# What a transaction does to runs and results

Every step of the program changes single rows in one of a few ways, or adds a replay, or adds a
run with its cases.
-/

namespace SupportPilot.Evaluations

open Library

variable {cfg : EvaluationSettings} {s s' : Store} {c c' : Evaluation} {i k r now : Nat}
  {run run' : EvaluationRun} {result result' : EvaluationResult} {a : EvaluationAction}
  {proc proc' : Proc} {l : EvaluationLabel}

/-! ## Changes of single rows -/

def SameCase (result result' : EvaluationResult) : Prop :=
  result'.run = result.run ∧ result'.replayOf = result.replayOf

/-- What a step can do to a result; `Writable` says which results a worker writes. -/
inductive ResultChange (s : Store) (Writable : EvaluationResult → Prop) :
    EvaluationResult → EvaluationResult → Prop
  | same (result : EvaluationResult) : ResultChange s Writable result result
  | moved {result result' : EvaluationResult} : SameCase result result' →
      result.status = .pending → result'.status = .running ∨ result'.status = .cancelled →
      result'.passed = result.passed → ResultChange s Writable result result'
  | recovered {result result' : EvaluationResult} {run : EvaluationRun} :
      SameCase result result' → result.status = .running → s.runs[result.run]? = some run →
      run.status = .running → result'.status = .failed → result'.passed = some false →
      ResultChange s Writable result result'
  | written {result result' : EvaluationResult} : SameCase result result' → Writable result →
      result'.status = .failed ∧ result'.passed = some false ∨ result'.status = .succeeded →
      ResultChange s Writable result result'

/-- The counters of a run are the counts of its results. -/
structure Counts (s : Store) (k : Nat) (run : EvaluationRun) : Prop where
  completed : run.completedCases = (s.aggregateCaseCounts k).1
  passed : run.passedCases = (s.aggregateCaseCounts k).2
  failed : run.failedCases = run.completedCases - run.passedCases

structure SameCounters (run run' : EvaluationRun) : Prop where
  total : run'.totalCases = run.totalCases
  completed : run'.completedCases = run.completedCases
  passed : run'.passedCases = run.passedCases
  failed : run'.failedCases = run.failedCases

/-- What a step that ends in the store `s'` can do to a run. -/
inductive RunChange (s' : Store) (k : Nat) : EvaluationRun → EvaluationRun → Prop
  | same (run : EvaluationRun) : RunChange s' k run run
  | claimed {run run' : EvaluationRun} : run.status = .pending → run'.status = .running →
      SameCounters run run' → RunChange s' k run run'
  | counted {run run' : EvaluationRun} : Counts s' k run' → run'.totalCases = run.totalCases →
      run'.status = run.status → RunChange s' k run run'
  | cancelled {run run' : EvaluationRun} : run.status.terminal = false → Counts s' k run' →
      run'.totalCases = run.totalCases → run'.status = .cancelled → RunChange s' k run run'
  | finalized {run run' : EvaluationRun} : run.status = .running →
      run.totalCases ≤ run.completedCases → run'.status = s'.verdict k run →
      SameCounters run run' → RunChange s' k run run'

theorem startEvaluationRun_some {cases : Nat} (h : s.startEvaluationRun cases now = some s') :
    s' = {
      runs := s.runs ++ [{ totalCases := cases, createdAt := now, updatedAt := now }]
      results := s.results ++
        List.replicate cases { run := s.runs.length, createdAt := now, updatedAt := now } } := by
  unfold Store.startEvaluationRun at h
  split at h
  · cases h
  · exact (Option.some.inj h).symm

/-- What a step can do to the store. -/
inductive Effect (Writable : EvaluationResult → Prop) (s s' : Store) : Prop
  | changed : s'.results.length = s.results.length →
      Rows (ResultChange s Writable) s.results s'.results → s'.runs.length = s.runs.length →
      (∀ (k : Nat) (run : EvaluationRun), s.runs[k]? = some run →
        ∃ run', s'.runs[k]? = some run' ∧ RunChange s' k run run') → Effect Writable s s'
  | replayed {r now : Nat} {result : EvaluationResult} : s.results[r]? = some result →
      result.status.terminal = true →
      s' = { s with results := s.results ++
        [{ run := result.run, replayOf := some r, createdAt := now, updatedAt := now }] } →
      Effect Writable s s'
  | started {cases now : Nat} : s.startEvaluationRun cases now = some s' → Effect Writable s s'

section Constructors

variable {Writable : EvaluationResult → Prop}

theorem runs_same (s : Store) : ∀ (k : Nat) (run : EvaluationRun), s.runs[k]? = some run →
    ∃ run', s.runs[k]? = some run' ∧ RunChange s' k run run' :=
  fun _ run hrun => ⟨run, hrun, .same run⟩

theorem Effect.refl (s : Store) : Effect Writable s s :=
  .changed rfl (.refl .same _) rfl (runs_same s)

theorem Effect.of_result (hresult : s.results[r]? = some result)
    (h : ResultChange s Writable result result') : Effect Writable s (s.setResult r result') :=
  .changed List.length_set (.set .same hresult h) rfl (runs_same s)

/-- A step on the results that also rewrites one run. -/
theorem Effect.of_run (hlength : s'.results.length = s.results.length)
    (hresults : Rows (ResultChange s Writable) s.results s'.results) (hruns : s'.runs = s.runs)
    (hrun : s.runs[k]? = some run) (h : RunChange (s'.setRun k run') k run run') :
    Effect Writable s (s'.setRun k run') := by
  refine .changed hlength hresults ?_ fun j other hother => ?_
  · show (s'.runs.set k run').length = _
    rw [List.length_set, hruns]
  · show ∃ run'', (s'.runs.set k run')[j]? = some run'' ∧ _
    rw [hruns]
    by_cases hjk : k = j
    · subst hjk
      rw [hrun] at hother
      cases hother
      exact ⟨run', List.getElem?_set_self (List.getElem?_eq_some_iff.mp hrun).1, h⟩
    · exact ⟨other, by rw [List.getElem?_set_ne hjk, hother], .same other⟩

/-- A run that is saved with counters of the rows that it is saved with. -/
theorem counts_recount (s : Store) (k : Nat) (run : EvaluationRun) (now : Nat) :
    ∃ run', s.recount k run now = s.setRun k run' ∧ Counts (s.recount k run now) k run' ∧
      run'.totalCases = run.totalCases ∧ run'.status = run.status :=
  ⟨_, rfl, ⟨rfl, rfl, rfl⟩, rfl, rfl⟩

end Constructors

/-! ## The transactions -/

section Transactions

variable {Writable : EvaluationResult → Prop}

theorem claimEvaluationRun_effect (h : s.claimEvaluationRun k now = some s') :
    Effect Writable s s' := by
  obtain ⟨run, hrun, hout⟩ := Option.bind_eq_some_iff.mp h
  split at hout
  · cases hout
  · rename_i hpending
    cases hout
    exact .of_run rfl (.refl .same _) rfl hrun
      (.claimed (not_not.mp hpending) rfl ⟨rfl, rfl, rfl, rfl⟩)

theorem cancelPending_change (s : Store) (k now : Nat) :
    Rows (ResultChange s Writable) s.results (s.cancelPending k now).results := by
  refine Rows.map (fun result => ?_) s.results
  split
  · rename_i hpending
    simp only [Bool.and_eq_true, decide_eq_true_eq] at hpending
    exact .moved ⟨rfl, rfl⟩ hpending.2 (.inr rfl) rfl
  · exact .same result

theorem cancelEvaluationRun_effect (h : s.cancelEvaluationRun k now = some s') :
    Effect Writable s s' := by
  obtain ⟨run, hrun, hout⟩ := Option.bind_eq_some_iff.mp h
  split at hout
  · cases hout
  · rename_i hterminal
    obtain ⟨run', hset, hcounts, htotal, hstatus⟩ := counts_recount (s.cancelPending k now) k
      { run with status := .cancelled, cancelledAt := some now } now
    rw [hset] at hcounts
    cases hout
    rw [hset]
    refine .of_run (List.length_map _) (cancelPending_change s k now) rfl hrun ?_
    exact .cancelled (by simpa using hterminal) hcounts htotal hstatus

theorem replayEvaluationCase_effect (h : s.replayEvaluationCase r now = some s') :
    Effect Writable s s' := by
  obtain ⟨result, hresult, hout⟩ := Option.bind_eq_some_iff.mp h
  split at hout
  · rename_i hterminal
    exact .replayed hresult hterminal (Option.some.inj hout).symm
  · cases hout

theorem claimEvaluationResult_effect {claimed : Bool}
    (h : s.claimEvaluationResult r now = some (s', claimed)) : Effect Writable s s' := by
  obtain ⟨result, hresult, hout⟩ := Option.bind_eq_some_iff.mp h
  obtain ⟨run, hrun, hout⟩ := Option.map_eq_some_iff.mp hout
  split at hout
  · cases hout
    exact .refl s
  · rename_i hpending
    have hpending := not_not.mp hpending
    split at hout
    · cases hout
      exact .of_result hresult (.moved ⟨rfl, rfl⟩ hpending (.inr rfl) rfl)
    · cases hout
      exact .of_result hresult (.moved ⟨rfl, rfl⟩ hpending (.inl rfl) rfl)

theorem terminateResult_effect {code : EvaluationFailureCode} {message : String}
    (h : s.terminateResult r code message now = some s')
    (hwritable : ∀ result, s.results[r]? = some result → Writable result) :
    Effect Writable s s' := by
  obtain ⟨result, hresult, hout⟩ := Option.map_eq_some_iff.mp h
  cases hout
  exact .of_result hresult (.written ⟨rfl, rfl⟩ (hwritable result hresult) (.inl ⟨rfl, rfl⟩))

theorem completeResult_effect {agentRun : Nat} {score : CaseScore}
    (h : s.completeResult r agentRun score now = some s')
    (hwritable : ∀ result, s.results[r]? = some result → Writable result) :
    Effect Writable s s' := by
  obtain ⟨result, hresult, hout⟩ := Option.map_eq_some_iff.mp h
  cases hout
  exact .of_result hresult (.written ⟨rfl, rfl⟩ (hwritable result hresult) (.inr rfl))

theorem recordCaseCompletion_effect {finalize : Bool}
    (h : s.recordCaseCompletion k now = some (s', finalize)) : Effect Writable s s' := by
  obtain ⟨run, hrun, hout⟩ := Option.map_eq_some_iff.mp h
  obtain ⟨run', hset, hcounts, htotal, hstatus⟩ := counts_recount s k run now
  rw [hset] at hcounts
  cases hout
  rw [hset]
  exact .of_run rfl (.refl .same _) rfl hrun (.counted hcounts htotal hstatus)

theorem finalizeEvaluationRun_effect (s : Store) (k now : Nat) :
    Effect Writable s (s.finalizeEvaluationRun k now) := by
  unfold Store.finalizeEvaluationRun
  split
  · exact .refl s
  · rename_i run hrun
    split
    · exact .refl s
    · rename_i hrunning
      split
      · exact .refl s
      · rename_i hcompleted
        refine .of_run rfl (.refl .same _) rfl hrun ?_
        exact .finalized (not_not.mp hrunning) (Nat.le_of_not_lt hcompleted) rfl
          ⟨rfl, rfl, rfl, rfl⟩

theorem failStale_change {cutoff : Nat} (hrun : s.runs[k]? = some run)
    (hrunning : run.status = .running) :
    Rows (ResultChange s Writable) s.results (s.failStale k cutoff now).results := by
  refine Rows.map (fun result => ?_) s.results
  split
  · rename_i hstale
    simp only [Store.staleResult, EvaluationResult.caseOf, Bool.and_eq_true,
      decide_eq_true_eq] at hstale
    exact .recovered ⟨rfl, rfl⟩ hstale.1.2 (by rw [hstale.1.1.1]; exact hrun) hrunning rfl rfl
  · exact .same result

theorem recoverOneStuckRun_effect {cutoff : Nat} {finalize : Bool}
    (h : s.recoverOneStuckRun k cutoff now = some (s', finalize)) : Effect Writable s s' := by
  obtain ⟨run, hrun, hout⟩ := Option.bind_eq_some_iff.mp h
  split at hout
  · cases hout
  · rename_i hrunning
    split at hout
    · cases hout
    · split at hout
      · cases hout
      · obtain ⟨run', hset, hcounts, htotal, hstatus⟩ :=
          counts_recount (s.failStale k cutoff now) k run now
        rw [hset] at hcounts
        cases hout
        show Effect Writable s ((s.failStale k cutoff now).recount k run now)
        rw [hset]
        exact .of_run (List.length_map _) (failStale_change hrun (not_not.mp hrunning)) rfl hrun
          (.counted hcounts htotal hstatus)

end Transactions

/-! ## Steps of the program -/

/-- The row that a step overwrites with the outcome of a case. -/
def written (c : Evaluation) : EvaluationLabel → Option EvaluationResult
  | .work i (.terminate ..) | .work i (.complete ..) =>
    match c.procs[i]? with
    | some (.executing r) => c.store.results[r]?
    | _ => none
  | _ => none

theorem step_effect {Writable : EvaluationResult → Prop}
    (hstep : (evaluations cfg).system.step l c = some c')
    (hwritable : ∀ result, written c l = some result → Writable result) :
    Effect Writable c.store c'.store := by
  cases l with
  | env label =>
    obtain ⟨s', started, hout, rfl⟩ := Program.step_env hstep
    cases label with
    | startRun cases now =>
      obtain ⟨t, ht, heq⟩ := Option.map_eq_some_iff.mp hout
      cases heq
      exact .started ht
    | claimRun k now =>
      obtain ⟨t, ht, heq⟩ := Option.map_eq_some_iff.mp hout
      cases heq
      exact claimEvaluationRun_effect ht
    | cancel k now =>
      obtain ⟨t, ht, heq⟩ := Option.map_eq_some_iff.mp hout
      cases heq
      exact cancelEvaluationRun_effect ht
    | replay r now =>
      obtain ⟨t, ht, heq⟩ := Option.map_eq_some_iff.mp hout
      cases heq
      exact replayEvaluationCase_effect ht
    | recover k sweepNow now =>
      obtain ⟨⟨t, finalize⟩, ht, heq⟩ := Option.map_eq_some_iff.mp hout
      cases heq
      exact recoverOneStuckRun_effect ht
    | caseTask r =>
      cases hout
      exact .refl _
  | work i a =>
    obtain ⟨proc, s', proc', hproc, hout, rfl⟩ := Program.step_work hstep
    have hcase : caseStep cfg a proc c.store = some (s', proc') := hout
    unfold caseStep at hcase
    split at hcase
    · obtain ⟨⟨t, claimed⟩, ht, heq⟩ := Option.map_eq_some_iff.mp hcase
      cases heq
      exact claimEvaluationResult_effect ht
    · obtain ⟨t, ht, heq⟩ := Option.map_eq_some_iff.mp hcase
      cases heq
      exact terminateResult_effect ht fun result hresult =>
        hwritable result (by simp only [written, hproc, hresult])
    · split at hcase
      · cases hcase
      · obtain ⟨t, ht, heq⟩ := Option.map_eq_some_iff.mp hcase
        cases heq
        exact completeResult_effect ht fun result hresult =>
          hwritable result (by simp only [written, hproc, hresult])
    · obtain ⟨result, hresult, hout⟩ := Option.bind_eq_some_iff.mp hcase
      obtain ⟨⟨t, finalize⟩, ht, heq⟩ := Option.map_eq_some_iff.mp hout
      cases heq
      exact recordCaseCompletion_effect ht
    · cases hcase
      exact finalizeEvaluationRun_effect _ _ _
    all_goals cases hcase
    all_goals exact .refl _

end SupportPilot.Evaluations
