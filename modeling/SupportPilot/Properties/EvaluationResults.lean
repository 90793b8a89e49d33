import SupportPilot.Properties.EvaluationCounters

/-!
# Results are final

The writes of an outcome lock the result but do not look at its status, so that a worker which
outlived the recovery of its case rewrites a failed result, also of a run that is finished. When
every write finds its result `RUNNING`, terminal results are final and a finished run agrees with
them.
-/

namespace SupportPilot.Evaluations

open Library

variable {cfg : EvaluationSettings} {s s' : Store} {c c' : Evaluation} {i k r : Nat}
  {run run' : EvaluationRun} {result result' : EvaluationResult} {l : EvaluationLabel}

/-! ## Fenced writes -/

/-- A write of an outcome finds its result `RUNNING`. -/
def Fenced (c : Evaluation) (l : EvaluationLabel) : Prop :=
  (written c l).all (·.status = .running) = true

/-- A write of an outcome finds its run not cancelled. -/
def Uncancelled (c : Evaluation) (l : EvaluationLabel) : Prop :=
  (written c l).all (fun result =>
    (c.store.runs[result.run]?).all (·.status ≠ .cancelled)) = true

instance (c : Evaluation) (l : EvaluationLabel) : Decidable (Fenced c l) := by
  unfold Fenced
  infer_instance

instance (c : Evaluation) (l : EvaluationLabel) : Decidable (Uncancelled c l) := by
  unfold Uncancelled
  infer_instance

def Running (result : EvaluationResult) : Prop := result.status = .running

/-- What is written under a run that is not cancelled. -/
def RunningUncancelled (s : Store) (result : EvaluationResult) : Prop :=
  result.status = .running ∧
    ∀ run, s.runs[result.run]? = some run → run.status ≠ .cancelled

theorem Fenced.effect (h : Fenced c l) (hstep : (evaluations cfg).system.step l c = some c') :
    Effect Running c.store c'.store := by
  apply step_effect hstep
  intro result hwritten
  unfold Fenced at h
  rw [hwritten] at h
  simpa [Running] using h

theorem Uncancelled.effect (h : Fenced c l ∧ Uncancelled c l)
    (hstep : (evaluations cfg).system.step l c = some c') :
    Effect (RunningUncancelled c.store) c.store c'.store := by
  apply step_effect hstep
  intro result hwritten
  obtain ⟨hfenced, huncancelled⟩ := h
  unfold Fenced at hfenced
  unfold Uncancelled at huncancelled
  rw [hwritten] at hfenced huncancelled
  refine ⟨by simpa using hfenced, fun run hrun => ?_⟩
  simpa [hrun] using huncancelled

/-! ## Terminal results -/

theorem ResultChange.terminal (h : ResultChange s Running result result')
    (hterminal : result.status.terminal = true) : result' = result := by
  cases h with
  | same => rfl
  | moved _ hpending => rw [hpending] at hterminal; cases hterminal
  | recovered _ hrunning => rw [hrunning] at hterminal; cases hterminal
  | written _ hrunning => rw [show result.status = _ from hrunning] at hterminal; cases hterminal

theorem Effect.terminal (h : Effect Running s s') (hresult : s.results[r]? = some result)
    (hterminal : result.status.terminal = true) : s'.results[r]? = some result := by
  cases h with
  | changed _ hresults =>
    obtain ⟨result', hresult', hchange⟩ := hresults r result hresult
    rw [hresult', hchange.terminal hterminal]
  | replayed _ _ heq =>
    rw [heq]
    exact getElem?_append_some hresult _
  | started h =>
    cases startEvaluationRun_some h
    exact getElem?_append_some hresult _

/-! ## Counts of cases -/

/-- The cases of a run with a property. -/
def Store.tally (s : Store) (k : Nat) (p : EvaluationResult → Bool) : Nat :=
  s.results.countP fun r => r.caseOf k && p r

def casePassed (result : EvaluationResult) : Bool := result.passed = some true

def caseFailed (result : EvaluationResult) : Bool :=
  result.status.completed && result.passed ≠ some true

theorem tally_append (s : Store) (k : Nat) (p : EvaluationResult → Bool)
    (new : List EvaluationResult) (hnew : ∀ result ∈ new, result.caseOf k = false) :
    (s.results ++ new).countP (fun r => r.caseOf k && p r) = s.tally k p := by
  have hzero : new.countP (fun r => r.caseOf k && p r) = 0 := by
    refine List.countP_eq_zero.mpr fun result hresult hcounted => ?_
    rw [hnew result hresult] at hcounted
    cases hcounted
  rw [List.countP_append, hzero]
  rfl

/-- New rows are no cases of an old run. -/
theorem Effect.tally_of_new {Writable : EvaluationResult → Prop} (h : Effect Writable s s')
    (hk : k < s.runs.length) (p : EvaluationResult → Bool) :
    (s'.results.length = s.results.length ∧ Rows (ResultChange s Writable) s.results s'.results) ∨
      s'.tally k p = s.tally k p := by
  cases h with
  | changed hlength hresults => exact .inl ⟨hlength, hresults⟩
  | replayed _ _ heq =>
    refine .inr ?_
    rw [heq]
    apply tally_append
    intro result hresult
    rw [List.mem_singleton.mp hresult]
    exact Bool.and_false _
  | started h =>
    cases startEvaluationRun_some h
    refine .inr (tally_append s k p _ fun result hresult => ?_)
    rw [List.eq_of_mem_replicate hresult]
    have hne : s.runs.length ≠ k := by omega
    simp [EvaluationResult.caseOf, hne]

/-- Terminal cases stay counted. -/
theorem Effect.tally_le (h : Effect Running s s') (hk : k < s.runs.length)
    (p : EvaluationResult → Bool)
    (hp : ∀ result ∈ s.results, p result = true → result.status.terminal = true) :
    s.tally k p ≤ s'.tally k p := by
  rcases h.tally_of_new hk p with ⟨-, hresults⟩ | hsame
  · apply hresults.countP_le
    intro result result' hresult hchange hcounted
    have hterminal := hp result hresult (Bool.and_eq_true_iff.mp hcounted).2
    rw [hchange.terminal hterminal]
    exact hcounted
  · exact Nat.le_of_eq hsame.symm

theorem terminal_of_completed {status : EvaluationResultStatus} (h : status.completed = true) :
    status.terminal = true := by
  cases status with
  | succeeded | failed => rfl
  | pending | running | cancelled => cases h

/-- The completed cases are the passed ones and the failed ones. -/
theorem Tallied.completed_eq (hs : Tallied s) (k : Nat) :
    s.tally k (·.status.completed) = s.tally k casePassed + s.tally k caseFailed := by
  apply countP_split
  intro result hresult
  have hpassed := hs.passed result hresult
  simp only [casePassed, caseFailed]
  by_cases hnow : result.passed = some true
  · have hcompleted : result.status.completed = true := by rw [hpassed hnow]; rfl
    cases result.caseOf k <;> simp [hnow, hcompleted]
  · cases result.caseOf k <;> simp [hnow]

/-- The completed cases are those that were executed and those that could not be. -/
theorem completed_eq_executed (s : Store) (k : Nat) :
    s.tally k (·.status.completed) =
      s.tally k (·.status = .succeeded) + s.tally k (·.status = .failed) := by
  apply countP_split
  intro result _
  cases hstatus : result.status <;>
    simp [hstatus, EvaluationResultStatus.completed]

theorem Tallied.completed_le (hs : Tallied s) (hrun : s.runs[k]? = some run) :
    s.tally k (·.status.completed) ≤ run.totalCases := by
  rw [← hs.total k run hrun]
  exact completed_le_total s k

/-! ## Runs agree with their results -/

/-- No case is counted twice, and the counts of a finished run are complete. -/
structure Reported (s : Store) (k : Nat) (run : EvaluationRun) : Prop where
  passed : run.passedCases ≤ s.tally k casePassed
  failed : run.failedCases ≤ s.tally k caseFailed
  finished : run.status.terminal = true → run.status ≠ .cancelled →
    run.completedCases = run.totalCases ∧ run.status = s.verdict k run

/-- A finished run agrees with the statuses of its cases. -/
structure Agrees (s : Store) (k : Nat) (run : EvaluationRun) : Prop where
  counts : Counts s k run
  complete : run.completedCases = run.totalCases
  status : run.status = s.verdict k run

/-- A run that counts all cases counts every one of them once. -/
theorem Reported.agrees (h : Reported s k run) (hs : Tallied s) (hrun : s.runs[k]? = some run)
    (hterminal : run.status.terminal = true) (hcancelled : run.status ≠ .cancelled) :
    Agrees s k run := by
  obtain ⟨hcomplete, hstatus⟩ := h.finished hterminal hcancelled
  have hbounds := hs.bounds k run hrun
  have hle := hs.completed_le hrun
  have hsplit := hs.completed_eq k
  have hpassed := h.passed
  have hfailed := h.failed
  have hpassed' := hbounds.passed
  have hfailed' := hbounds.failed
  refine ⟨⟨?_, ?_, hbounds.failed⟩, hcomplete, hstatus⟩
  · show run.completedCases = s.tally k (·.status.completed)
    omega
  · show run.passedCases = s.tally k casePassed
    omega

/-- The verdict depends on the total and on the failed cases only. -/
theorem verdict_congr (htotal : run'.totalCases = run.totalCases)
    (hfailed : s'.tally k (·.status = .failed) = s.tally k (·.status = .failed)) :
    s'.verdict k run' = s.verdict k run := by
  have hcount : s'.results.countP (fun r => r.caseOf k && r.status = .failed) =
      s.results.countP (fun r => r.caseOf k && r.status = .failed) := hfailed
  simp only [Store.verdict, hcount, htotal]

/-- All cases of a finished run are completed, so that no step changes the verdict. -/
theorem Reported.verdict_kept (h : Reported s k run) (hs : Tallied s) (hs' : Tallied s')
    (heffect : Effect Running s s') (hrun : s.runs[k]? = some run)
    (hrun' : s'.runs[k]? = some run') (htotal : run'.totalCases = run.totalCases)
    (hcomplete : run.completedCases = run.totalCases) :
    s'.verdict k run' = s.verdict k run := by
  have hk := (List.getElem?_eq_some_iff.mp hrun).1
  have hsucceeded := heffect.tally_le hk (·.status = .succeeded) fun result _ hstatus => by
    rw [of_decide_eq_true hstatus]
    rfl
  have hfailed := heffect.tally_le hk (·.status = .failed) fun result _ hstatus => by
    rw [of_decide_eq_true hstatus]
    rfl
  have hsplit := hs.completed_eq k
  have hexecuted := completed_eq_executed s k
  have hexecuted' := completed_eq_executed s' k
  have hle := hs'.completed_le hrun'
  have hbounds := hs.bounds k run hrun
  have hpassed := h.passed
  have hfailures := h.failed
  have hpassed' := hbounds.passed
  have hfailures' := hbounds.failed
  apply verdict_congr htotal
  omega

theorem Reported.step (h : Reported s k run) (hs : Tallied s) (hs' : Tallied s')
    (heffect : Effect Running s s') (hrun : s.runs[k]? = some run)
    (hrun' : s'.runs[k]? = some run') (hchange : RunChange s' k run run') :
    Reported s' k run' := by
  have hk := (List.getElem?_eq_some_iff.mp hrun).1
  have hpassed : s.tally k casePassed ≤ s'.tally k casePassed := by
    apply heffect.tally_le hk
    intro result hresult hnow
    rw [hs.passed result hresult (of_decide_eq_true hnow)]
    rfl
  have hfailed : s.tally k caseFailed ≤ s'.tally k caseFailed := by
    apply heffect.tally_le hk
    intro result hresult hnow
    exact terminal_of_completed (Bool.and_eq_true_iff.mp hnow).1
  have hcounters : run'.passedCases ≤ s'.tally k casePassed ∧
      run'.failedCases ≤ s'.tally k caseFailed := by
    rcases hchange.counters with hsame | hcounts
    · rw [hsame.passed, hsame.failed]
      exact ⟨h.passed.trans hpassed, h.failed.trans hfailed⟩
    · have hsplit := hs'.completed_eq k
      have hcompleted : run'.completedCases = s'.tally k (·.status.completed) := hcounts.completed
      have hpassed' : run'.passedCases = s'.tally k casePassed := hcounts.passed
      have hfailed' := hcounts.failed
      omega
  refine ⟨hcounters.1, hcounters.2, fun hterminal hcancelled => ?_⟩
  -- the verdict of a run that was finished before, whatever the step did to its row
  have hkept : run'.totalCases = run.totalCases → run'.status = run.status →
      run'.completedCases = run'.totalCases ∧ run'.status = s'.verdict k run' := by
    intro htotal hstatus
    rw [hstatus] at hterminal hcancelled
    obtain ⟨hcomplete, hverdict⟩ := h.finished hterminal hcancelled
    have hle := hs'.completed_le hrun'
    have hbounds := hs.bounds k run hrun
    have hpassed' := hbounds.passed
    have hfailed' := hbounds.failed
    have hreported := h.passed
    have hreported' := h.failed
    have hsplit := hs'.completed_eq k
    refine ⟨?_, ?_⟩
    · rcases hchange.counters with hsame | hcounts
      · rw [hsame.completed, htotal, hcomplete]
      · have hcompleted : run'.completedCases = s'.tally k (·.status.completed) :=
          hcounts.completed
        omega
    · rw [hstatus, hverdict, h.verdict_kept hs hs' heffect hrun hrun' htotal hcomplete]
  cases hchange with
  | same => exact hkept rfl rfl
  | claimed _ hrunning =>
    rw [hrunning] at hterminal
    cases hterminal
  | counted _ htotal hstatus => exact hkept htotal hstatus
  | cancelled _ _ _ hstatus => exact absurd hstatus hcancelled
  | finalized _ hle hverdict hsame =>
    have hbounds := (hs.bounds k run hrun).completed
    refine ⟨by rw [hsame.completed, hsame.total]; omega, hverdict.trans ?_⟩
    exact (verdict_congr hsame.total rfl).symm

/-- A run of the new store is an old one, or it is fresh. -/
theorem Effect.run_back {Writable : EvaluationResult → Prop} (h : Effect Writable s s')
    (hrun' : s'.runs[k]? = some run') :
    (∃ run, s.runs[k]? = some run ∧ RunChange s' k run run') ∨
      run'.status = .pending ∧ run'.passedCases = 0 ∧ run'.failedCases = 0 := by
  cases hrun : s.runs[k]? with
  | some run =>
    obtain ⟨run'', hrun'', hchange⟩ := h.runChange hrun
    rw [hrun'] at hrun''
    cases hrun''
    exact .inl ⟨run, rfl, hchange⟩
  | none =>
    have hge := List.getElem?_eq_none_iff.mp hrun
    have hlt := (List.getElem?_eq_some_iff.mp hrun').1
    cases h with
    | changed _ _ hlength => omega
    | replayed _ _ heq =>
      rw [heq] at hlt
      exact absurd hlt (Nat.not_lt.mpr hge)
    | started h =>
      cases startEvaluationRun_some h
      rcases getElem?_concat_cases hrun' with hold | ⟨-, rfl⟩
      · cases hrun.symm.trans hold
      · exact .inr ⟨rfl, rfl, rfl⟩

theorem reported (h : (evaluations cfg).system.Reach Fenced c) :
    ∀ (k : Nat) (run : EvaluationRun), c.store.runs[k]? = some run → Reported c.store k run := by
  refine System.Reach.invariant (I := fun c => ∀ (k : Nat) (run : EvaluationRun),
    c.store.runs[k]? = some run → Reported c.store k run) ?_ ?_ h
  · rintro ⟨s, procs⟩ ⟨rfl, -⟩ k run hrun
    simp at hrun
  · intro c l c' hreach hc hp hstep k run' hrun'
    have heffect := hp.effect hstep
    have hs := tallied hreach
    rcases heffect.run_back hrun' with ⟨run, hrun, hchange⟩ | ⟨hpending, hpassed, hfailed⟩
    · exact (hc k run hrun).step hs (heffect.tallied hs) heffect hrun hrun' hchange
    · refine ⟨by omega, by omega, fun hterminal => ?_⟩
      rw [hpending] at hterminal
      cases hterminal

/-! ## Cancelled runs -/

/-- No step completes a case of a cancelled run. -/
theorem Effect.tally_cancelled (h : Effect (RunningUncancelled s) s s')
    (hrun : s.runs[k]? = some run) (hcancelled : run.status = .cancelled)
    (p : EvaluationResult → Bool)
    (hp : ∀ result result' : EvaluationResult, result'.status.completed = result.status.completed →
      result'.passed = result.passed → p result' = p result) :
    s'.tally k p = s.tally k p := by
  have hk := (List.getElem?_eq_some_iff.mp hrun).1
  rcases h.tally_of_new hk p with ⟨hlength, hresults⟩ | hsame
  · apply hresults.countP_eq hlength
    intro result result' _ hchange
    have hcase := hchange.sameCase.caseOf k
    cases howner : result.caseOf k with
    | false =>
      rw [hcase, howner]
      rfl
    | true =>
      rw [hcase, howner]
      simp only [EvaluationResult.caseOf, Bool.and_eq_true, decide_eq_true_eq] at howner
      have howned : s.runs[result.run]? = some run := by rw [howner.1, hrun]
      cases hchange with
      | same => rfl
      | moved _ hpending hmoved hpassed =>
        rw [hp result result' ?_ hpassed]
        rcases hmoved with hmoved | hmoved <;> rw [hmoved, hpending] <;> rfl
      | recovered _ _ hrow hrunning =>
        rw [howned] at hrow
        cases hrow
        rw [hcancelled] at hrunning
        cases hrunning
      | written _ hwritable => exact absurd hcancelled (hwritable.2 run howned)
  · exact hsame

theorem Counts.cancelled (h : Counts s k run) (heffect : Effect (RunningUncancelled s) s s')
    (hrun : s.runs[k]? = some run) (hcancelled : run.status = .cancelled)
    (hsame : SameCounters run run') : Counts s' k run' := by
  have hcompleted := heffect.tally_cancelled hrun hcancelled (·.status.completed)
    fun _ _ hstatus _ => hstatus
  have hpassed := heffect.tally_cancelled hrun hcancelled (fun r => r.passed = some true)
    fun result result' _ hpassed => by simp only [hpassed]
  refine ⟨?_, ?_, ?_⟩
  · rw [hsame.completed, h.completed]
    exact hcompleted.symm
  · rw [hsame.passed, h.passed]
    exact hpassed.symm
  · rw [hsame.failed, hsame.completed, hsame.passed, h.failed]

theorem verdict_ne_cancelled (s : Store) (k : Nat) (run : EvaluationRun) :
    s.verdict k run ≠ .cancelled := by
  simp only [Store.verdict]
  split
  · nofun
  · split <;> nofun

theorem cancelled_counts
    (h : (evaluations cfg).system.Reach (fun c l => Fenced c l ∧ Uncancelled c l) c) :
    ∀ (k : Nat) (run : EvaluationRun), c.store.runs[k]? = some run → run.status = .cancelled →
      Counts c.store k run := by
  refine System.Reach.invariant (I := fun c => ∀ (k : Nat) (run : EvaluationRun),
    c.store.runs[k]? = some run → run.status = .cancelled → Counts c.store k run) ?_ ?_ h
  · rintro ⟨s, procs⟩ ⟨rfl, -⟩ k run hrun
    simp at hrun
  · intro c l c' _ hc hp hstep k run' hrun' hcancelled
    have heffect := Uncancelled.effect hp hstep
    rcases heffect.run_back hrun' with ⟨run, hrun, hchange⟩ | ⟨hpending, -⟩
    · cases hchange with
      | same =>
        exact (hc k _ hrun hcancelled).cancelled heffect hrun hcancelled ⟨rfl, rfl, rfl, rfl⟩
      | claimed _ hrunning =>
        rw [hrunning] at hcancelled
        cases hcancelled
      | counted hcounts => exact hcounts
      | cancelled _ hcounts => exact hcounts
      | finalized _ _ hverdict =>
        exact absurd (hverdict.symm.trans hcancelled) (verdict_ne_cancelled c'.store k run)
    · rw [hpending] at hcancelled
      cases hcancelled

/-! ## Main results -/

/-- Whatever follows, terminal results stay as they are. -/
def ResultsFinal (cfg : EvaluationSettings) (permits : Evaluation → EvaluationLabel → Prop)
    (c : Evaluation) : Prop :=
  ∀ c', ((evaluations cfg).system.startedAt c).Reach permits c' →
    ∀ (r : Nat) (result : EvaluationResult), c.store.results[r]? = some result →
      result.status.terminal = true → c'.store.results[r]? = some result

/-- The counters of a run count no case twice, and if it is finished they and its status agree
with its cases. -/
def RunsAgree (s : Store) : Prop :=
  ∀ (k : Nat) (run : EvaluationRun), s.runs[k]? = some run →
    run.completedCases ≤ (s.aggregateCaseCounts k).1 ∧
      (run.status.terminal = true → run.status ≠ .cancelled → Agrees s k run)

/-- The counters of a cancelled run count its results. -/
def CancelledAgree (s : Store) : Prop :=
  ∀ (k : Nat) (run : EvaluationRun), s.runs[k]? = some run → run.status = .cancelled →
    Counts s k run

theorem resultsFinal : ResultsFinal cfg Fenced c := by
  intro c' h r result hresult hterminal
  exact System.Reach.continued (I := fun t => t.store.results[r]? = some result) h hresult
    fun _ _ _ ht hp hstep => (hp.effect hstep).terminal ht hterminal

theorem Tallied.runsAgree (hs : Tallied s)
    (h : ∀ (k : Nat) (run : EvaluationRun), s.runs[k]? = some run → Reported s k run) :
    RunsAgree s := by
  intro k run hrun
  refine ⟨?_, (h k run hrun).agrees hs hrun⟩
  have hbounds := hs.bounds k run hrun
  have hpassed := hbounds.passed
  have hfailed := hbounds.failed
  have hreported := (h k run hrun).passed
  have hreported' := (h k run hrun).failed
  have hsplit := hs.completed_eq k
  show run.completedCases ≤ s.tally k (·.status.completed)
  omega

/-- When every write of an outcome finds its result `RUNNING`, terminal results are final and the
finished runs agree with them; when it also finds its run not cancelled, the cancelled runs do. -/
theorem evaluation_results_final (cfg : EvaluationSettings) :
    (∀ c, (evaluations cfg).system.Reach Fenced c →
      ResultsFinal cfg Fenced c ∧ RunsAgree c.store) ∧
    ∀ c, (evaluations cfg).system.Reach (fun c l => Fenced c l ∧ Uncancelled c l) c →
      ResultsFinal cfg Fenced c ∧ RunsAgree c.store ∧ CancelledAgree c.store := by
  have hfenced : ∀ c, (evaluations cfg).system.Reach Fenced c →
      ResultsFinal cfg Fenced c ∧ RunsAgree c.store :=
    fun c h => ⟨resultsFinal, (tallied h).runsAgree (reported h)⟩
  refine ⟨hfenced, fun c h => ?_⟩
  obtain ⟨hfinal, hagree⟩ := hfenced c (h.mono fun _ _ _ hp => hp.1)
  exact ⟨hfinal, hagree, cancelled_counts h⟩

def countedCase : List EvaluationLabel :=
  [.env (.startRun 1 1), .env (.claimRun 0 2), .env (.caseTask 0), .work 0 (.claim 3),
    .work 0 (.complete 7 passedScore 4), .work 0 (.record 5), .work 0 (.finalize 6)]

theorem evaluation_results_counted :
    (ResultsFinal sampleSettings Fenced (evaluationEnd Fenced countedCase) ∧
      RunsAgree (evaluationEnd Fenced countedCase).store) ∧
      (evaluationEnd Fenced countedCase).store.runs.map (·.status) = [.succeeded] :=
  ⟨(evaluation_results_final sampleSettings).1 _ (reaches_evaluationEnd Fenced countedCase),
    by decide⟩

/-- The case of a slow worker is recovered, and the run is finished with it. -/
def recoveredCase : List EvaluationLabel :=
  [.env (.startRun 1 1), .env (.claimRun 0 2), .env (.caseTask 0), .work 0 (.claim 3),
    .env (.recover 0 1000000000 1000000001), .work 1 (.finalize 1000000002)]

/-- The slow worker then rewrites the failed result of the failed run. -/
theorem evaluation_results_rewritten :
    (¬ ∀ (cfg : EvaluationSettings) (c : Evaluation),
        (evaluations cfg).system.Reach (fun _ _ => True) c →
          ResultsFinal cfg (fun _ _ => True) c) ∧
      ¬ ∀ (cfg : EvaluationSettings) (c : Evaluation),
        (evaluations cfg).system.Reach (fun _ _ => True) c → RunsAgree c.store := by
  let M := (evaluations sampleSettings).system
  let t := evaluationEnd (fun _ _ => True) recoveredCase
  have ht : M.Reach (fun _ _ => True) t := reaches_evaluationEnd _ recoveredCase
  have hwrite : (M.step (.work 0 (.complete 7 passedScore 1000000003)) t).map
      (fun t' => (t.store.results.map (·.status), t'.store.results.map (·.status),
        t'.store.runs.map fun run => (run.status, t'.store.verdict 0 run))) =
      some ([.failed], [.succeeded], [(.failed, .succeeded)]) := by decide
  obtain ⟨t', ht', hfields⟩ := Option.map_eq_some_iff.mp hwrite
  simp only [Prod.mk.injEq] at hfields
  obtain ⟨hbefore, hafter, hruns⟩ := hfields
  constructor
  · intro hlaw
    obtain ⟨result, hresult, hstatus⟩ : ∃ result, t.store.results[0]? = some result ∧
        result.status = .failed := by
      have hrow : (t.store.results.map (·.status))[0]? = some .failed := by rw [hbefore]; rfl
      rw [List.getElem?_map] at hrow
      exact Option.map_eq_some_iff.mp hrow
    have hlater : (M.startedAt t).Reach (fun _ _ => True) t' :=
      .step (l := .work 0 (.complete 7 passedScore 1000000003)) (.init rfl) trivial ht'
    have hkept := hlaw sampleSettings t ht t' hlater 0 result hresult (by rw [hstatus]; rfl)
    have hrow : (t'.store.results.map (·.status))[0]? = some .succeeded := by rw [hafter]; rfl
    rw [List.getElem?_map, hkept, Option.map_some, hstatus] at hrow
    cases hrow
  · intro hlaw
    have hrow : (t'.store.runs.map fun run => (run.status, t'.store.verdict 0 run))[0]? =
        some (.failed, .succeeded) := by rw [hruns]; rfl
    rw [List.getElem?_map] at hrow
    obtain ⟨run, hrun, hpair⟩ := Option.map_eq_some_iff.mp hrow
    simp only [Prod.mk.injEq] at hpair
    have hagree := (hlaw sampleSettings t' (ht.step trivial ht') 0 run hrun).2
      (by rw [hpair.1]; rfl) (by rw [hpair.1]; nofun)
    have hstatus := hagree.status
    rw [hpair.1, hpair.2] at hstatus
    cases hstatus

end SupportPilot.Evaluations
