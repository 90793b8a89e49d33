import SupportPilot.Runtime.Invariants

/-!
# Rows and the calls that created them

Only the claim of a call creates a row, and the row keeps the key it was created with.
-/

namespace SupportPilot

open Library

variable {i x : Nat} {w : Worker} {s s' : Store} {a : WorkerAction} {p p' : Point}

/-- The request that a call carries until it has claimed its row. -/
def Point.request : Point → Option ToolRequest
  | toolCall request | claimExecution request _ => some request
  | _ => none

theorem request_of_outside {q : Point} (h : q.outside = true) : q.request = none := by
  cases q <;> first | rfl | cases h

/-- The graph hands over the request, and the checks in between do not change it. -/
theorem request_workerStep (h : WorkerStep i w s a p s' p') {request : ToolRequest}
    (hrequest : p'.request = some request) :
    a = .callTool request ∨ p.request = some request := by
  cases h with
  | vanished => exact .inr hrequest
  | calledTool =>
    cases hrequest
    exact .inl rfl
  | checkedCall =>
    cases hrequest
    exact .inr rfl
  | refusedCall | refusedClaim | gateInProgress | refusedStart =>
    simp [request_of_outside (Point.afterRefusal_outside _)] at hrequest
  | gateRaised => simp [request_of_outside (Point.afterToolError_outside _ _)] at hrequest
  | refreshedOther => simp [request_of_outside (Point.afterResumeError_outside _)] at hrequest
  | leftUnfinalized | finalized =>
    simp [request_of_outside (Point.afterExit_outside _ _ _)] at hrequest
  | resumeClaimedRun => split at hrequest <;> cases hrequest
  | _ => cases hrequest

/-- The only row that a worker's step adds is the row of the call that claims it. -/
theorem created_workerStep (h : WorkerStep i w s a p s' p') :
    s'.executions.length = s.executions.length ∨
      ∃ request tool run, p = .claimExecution request tool ∧ s.runs[w.run]? = some run ∧
        s.findExecution run.workspace request.toolKey request.idempotencyKey = none ∧
        s' = { s with executions := s.executions ++ [newExecution w.run run request] } := by
  cases h with
  | createdRow hrun hnone => exact .inr ⟨_, _, _, rfl, hrun, hnone, rfl⟩
  | vanished => exact .inl (by rw [Store.vanish_executions])
  | _ => exact .inl (by simp)

/-- No service adds a row. -/
theorem length_serviceStep {event : ServiceEvent} {started : Option Worker}
    (h : ServiceStep s event s' started) : s'.executions.length = s.executions.length := by
  cases h <;> simp

/-! ## One row for a key -/

/-- Both rows record the invocation of this key of a tool in this workspace. -/
def SameKey (e e' : ToolExecution) : Prop :=
  e.workspace = e'.workspace ∧ e.toolDefinition = e'.toolDefinition ∧
    e.idempotencyKey = e'.idempotencyKey

/-- What the unique constraint on non-blank keys says. -/
def UniqueKeys (s : Store) : Prop :=
  ∀ (x y : Nat) (e e' : ToolExecution), s.executions[x]? = some e → s.executions[y]? = some e' →
    e.idempotencyKey ≠ "" → SameKey e e' → x = y

theorem UniqueKeys.keeps (h : UniqueKeys s) (hkeeps : Keeps s s')
    (hlength : s'.executions.length = s.executions.length) : UniqueKeys s' := by
  intro x y e e' hx hy hkey hsame
  have hback : ∀ {z : Nat} {f : ToolExecution}, s'.executions[z]? = some f →
      ∃ g, s.executions[z]? = some g ∧ RowKeeps g f := by
    intro z f hz
    rcases hkeeps.executions.back hz with hold | hnew
    · exact hold
    · have hlt := (List.getElem?_eq_some_iff.mp hz).1
      omega
  obtain ⟨f, hf, hkeepf⟩ := hback hx
  obtain ⟨g, hg, hkeepg⟩ := hback hy
  refine h x y f g hf hg (hkeepf.idempotencyKey ▸ hkey) ?_
  unfold SameKey at hsame ⊢
  rw [← hkeepf.workspace, ← hkeepf.toolDefinition, ← hkeepf.idempotencyKey, ← hkeepg.workspace,
    ← hkeepg.toolDefinition, ← hkeepg.idempotencyKey]
  exact hsame

/-- A row is added only for a key that no row carries. -/
theorem UniqueKeys.append {run : AgentRun} {r : Nat} {request : ToolRequest} (h : UniqueKeys s)
    (hnone : s.findExecution run.workspace request.toolKey request.idempotencyKey = none) :
    UniqueKeys { s with executions := s.executions ++ [newExecution r run request] } := by
  have hfresh : ∀ {z : Nat} {f : ToolExecution}, s.executions[z]? = some f →
      f.idempotencyKey ≠ "" → ¬ SameKey f (newExecution r run request) := by
    rintro z f hz hkey ⟨hworkspace, htool, hsame⟩
    have hrequest : request.idempotencyKey ≠ "" := by
      rw [hsame] at hkey
      exact hkey
    exact Store.findExecution_none hnone hrequest hz hworkspace htool hsame
  intro x y e e' hx hy hkey hsame
  rcases getElem?_concat_cases hx with hx | ⟨rfl, rfl⟩ <;>
    rcases getElem?_concat_cases hy with hy | ⟨rfl, rfl⟩
  · exact h x y e e' hx hy hkey hsame
  · exact absurd hsame (hfresh hx hkey)
  · have hback : SameKey e' (newExecution r run request) :=
      ⟨hsame.1.symm, hsame.2.1.symm, hsame.2.2.symm⟩
    exact absurd hback (hfresh hy (hsame.2.2 ▸ hkey))
  · rfl

theorem uniqueKeys {c : Configuration} (h : Reachable c) : UniqueKeys c.store := by
  refine store_of_steps (fun _ _ _ _ hx => by cases hx) ?_ ?_ h
  · intro c event s' started _ _ hI hstep
    exact hI.keeps (keeps_serviceStep hstep) (length_serviceStep hstep)
  · intro c i w a s' p' _ _ hI _ _ hstep
    rcases created_workerStep hstep with hlength | ⟨request, tool, run, -, -, hnone, rfl⟩
    · exact hI.keeps (keeps_workerStep hstep) hlength
    · exact hI.append hnone

end SupportPilot
