import SupportPilot.Runtime.Conditions
import SupportPilot.Runtime.Sections

/-!
# The retry policy of a tool

The registry is code, so it answers for a key with the same policy whenever it is asked.
Under that condition every call that a worker carries has the policy of its tool.
-/

namespace SupportPilot

open Library

/-- The key of the tool that a step looks up in the registry, and the answer. -/
def looksUp (c : Configuration) : Step → Option (String × Option ToolSpec)
  | .work i (.checkCall lookup) => (c.procs[i]?).bind fun w =>
    match w.point with
    | .toolCall request => some (request.toolKey, lookup.tool)
    | _ => none
  | .work i (.checkResume lookup) => (c.procs[i]?).bind fun w =>
    match w.point with
    | .resumeChecks x _ => (c.store.executions[x]?).map fun e => (e.toolDefinition, lookup.tool)
    | _ => none
  | _ => none

/-- The registry answers for `key` with a tool of this retry policy, if it answers. -/
def keepsPolicy (key : String) (policy : RetryPolicy) (c : Configuration) (l : Step) : Bool :=
  (looksUp c l).all fun found => found.1 != key || found.2.all (·.retryPolicy == policy)

variable {key : String} {policy : RetryPolicy} {c : Configuration} {i x : Nat} {w : Worker}
  {s s' : Store} {a : WorkerAction} {p' : Point}

/-- The call that a worker carries to its handler. -/
def Point.carriedCall : Point → Option Call
  | .policyCheck call | .policyGate call | .transitionRunning call | .reserveSlot call
  | .attempt call | .invoke call | .handler call => some call
  | _ => none

/-- The worker's tool has the policy, if it is the tool of this key. -/
structure CarriesPolicy (key : String) (policy : RetryPolicy) (s : Store) (w : Worker) : Prop where
  claim : ∀ request tool, w.point = .claimExecution request tool → request.toolKey = key →
    tool.retryPolicy = policy
  call : ∀ call, w.point.carriedCall = some call → RowAt s call.execution fun e =>
    e.toolDefinition = key → call.tool.retryPolicy = policy

theorem CarriesPolicy.keeps (h : CarriesPolicy key policy s w) (hs : Keeps s s') :
    CarriesPolicy key policy s' w where
  claim := h.claim
  call call hcall := (h.call call hcall).keeps hs fun e e' hrow he => by
    rw [hrow.toolDefinition]
    exact he

theorem keepsPolicy_call {request : ToolRequest} {lookup : ToolLookup} {tool : ToolSpec}
    (hp : keepsPolicy key policy c (.work i (.checkCall lookup)) = true)
    (hw : c.procs[i]? = some w) (hpoint : w.point = .toolCall request)
    (htool : lookup.tool = some tool) (hkey : request.toolKey = key) :
    tool.retryPolicy = policy := by
  simpa [keepsPolicy, looksUp, hw, hpoint, htool, hkey] using hp

theorem keepsPolicy_resume {lookup : ResumeLookup} {tool : ToolSpec} {n : Nat}
    {e : ToolExecution} (hp : keepsPolicy key policy c (.work i (.checkResume lookup)) = true)
    (hw : c.procs[i]? = some w) (hpoint : w.point = .resumeChecks x n)
    (he : c.store.executions[x]? = some e) (htool : lookup.tool = some tool)
    (hkey : e.toolDefinition = key) : tool.retryPolicy = policy := by
  simpa [keepsPolicy, looksUp, hw, hpoint, he, htool, hkey] using hp

/-- A claim for the key is made with a tool that the registry answered for it. -/
theorem claimPolicy_workerStep (hp : keepsPolicy key policy c (.work i a) = true)
    (hw : c.procs[i]? = some w) (hc : CarriesPolicy key policy c.store w)
    (h : WorkerStep i w c.store a w.point s' p') {request : ToolRequest} {tool : ToolSpec}
    (hp' : p' = .claimExecution request tool) (hkey : request.toolKey = key) :
    tool.retryPolicy = policy := by
  have hout : ∀ {q : Point}, q.outside = true → q ≠ .claimExecution request tool := by
    rintro q hq rfl
    cases hq
  generalize hpt : w.point = p at h
  cases h with
  | vanished => exact hc.claim request tool (hpt.trans hp') hkey
  | checkedCall htool =>
    cases hp'
    exact keepsPolicy_call hp hw hpt htool hkey
  | refusedCall | refusedClaim | gateInProgress | refusedStart =>
    exact absurd hp' (hout (Point.afterRefusal_outside _))
  | gateRaised => exact absurd hp' (hout (Point.afterToolError_outside _ _))
  | refreshedOther => exact absurd hp' (hout (Point.afterResumeError_outside _))
  | leftUnfinalized | finalized => exact absurd hp' (hout (Point.afterExit_outside _ _ _))
  | resumeClaimedRun => split at hp' <;> cases hp'
  | _ => cases hp'

/-- A call carries the tool of its claim, or the one of the checks of its resume. -/
theorem callPolicy_workerStep (hp : keepsPolicy key policy c (.work i a) = true)
    (hw : c.procs[i]? = some w) (hc : CarriesPolicy key policy c.store w)
    (h : WorkerStep i w c.store a w.point s' p') {call : Call}
    (hp' : p'.carriedCall = some call) :
    RowAt s' call.execution fun e => e.toolDefinition = key → call.tool.retryPolicy = policy := by
  have hkept := fun call => (hc.keeps (keeps_workerStep h)).call call
  have hout : ∀ {q : Point}, q.outside = true → q.carriedCall ≠ some call := by
    intro q hq
    cases q <;> first | (intro hsome; cases hsome; done) | cases hq
  generalize hpt : w.point = p at h hkept
  cases h with
  | vanished => exact hkept call hp'
  | createdRow =>
    cases hp'
    exact ⟨_, List.getElem?_concat_length, hc.claim _ _ hpt⟩
  | resetRow hrun hfind hx =>
    cases hp'
    obtain ⟨-, e, he, -, htool, -⟩ := Store.findExecution_some hfind
    cases hx.symm.trans he
    exact rowAt_set hx fun hkey => hc.claim _ _ hpt (htool.symm.trans hkey)
  | checkedResume hx hok =>
    cases hp'
    exact ⟨_, hx, keepsPolicy_resume hp hw hpt hx (checkResume_ok hok)⟩
  | foundEvaluated | foundUnevaluated | gateAllowed | startedRow | reservedSlot | retried =>
    cases hp'
    exact hkept _ rfl
  | @countedAttempt old | @invoked old =>
    cases hp'
    exact hkept old rfl
  | refusedCall | refusedClaim | gateInProgress | refusedStart =>
    exact absurd hp' (hout (Point.afterRefusal_outside _))
  | gateRaised => exact absurd hp' (hout (Point.afterToolError_outside _ _))
  | refreshedOther => exact absurd hp' (hout (Point.afterResumeError_outside _))
  | leftUnfinalized | finalized => exact absurd hp' (hout (Point.afterExit_outside _ _ _))
  | resumeClaimedRun => split at hp' <;> cases hp'
  | _ => cases hp'

theorem carriesPolicy {condition : Configuration → Step → Prop}
    (hpolicy : ∀ c l, condition c l → keepsPolicy key policy c l = true)
    (h : RunsWith condition c) (hw : c.procs[i]? = some w) :
    CarriesPolicy key policy c.store w := by
  have hc : c.Annotated (fun _ => True) (CarriesPolicy key policy) := by
    refine annotated_of_steps trivial (fun _ _ _ hs hw => hw.keeps hs) ?_ ?_ h
    · intro c event s' started _ _ _ hstep
      refine ⟨trivial, fun w hw => ?_⟩
      cases hw
      cases hstep <;> exact ⟨nofun, nofun⟩
    · intro c i w a s' p' _ hp hc hw _ hstep
      have hself := hc.procs i w hw
      exact ⟨trivial, fun alive =>
        ⟨fun _ _ => claimPolicy_workerStep (hpolicy _ _ hp) hw hself hstep,
          fun _ => callPolicy_workerStep (hpolicy _ _ hp) hw hself hstep⟩⟩
  exact hc.procs i w hw

end SupportPilot
