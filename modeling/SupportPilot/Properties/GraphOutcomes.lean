import SupportPilot.Agents.Traces

/-!
# What a graph may still do, and when it has succeeded

Every event of a trace stands behind events that allow it: a provider call behind none that ends
the graph, a tool call directly behind the response that proposes it. The flags of the state say
what the trace says, so the outcome of the service is read off the path.
-/

namespace SupportPilot

open Library GraphEvent

variable {digest : String → String}

/-! ## Traces in order -/

namespace GraphEvent

/-- What an event requires of the events before it. -/
def Follows : GraphEvent → List GraphEvent → Prop
  | called _, earlier => ∀ event ∈ earlier, ¬ event.Ends
  | executed _ _, earlier => (∀ event ∈ earlier, ¬ event.Ends) ∧
      ∃ response rest, earlier = called (some (.ok response)) :: rest
  | _, _ => True

def Orderly (trace : List GraphEvent) : Prop :=
  ∀ later event earlier, trace = later ++ event :: earlier → event.Follows earlier

theorem Orderly.nil : Orderly [] := by
  intro later event earlier h
  simp at h

theorem Orderly.cons {event : GraphEvent} {trace : List GraphEvent} (h : Orderly trace)
    (hevent : event.Follows trace) : Orderly (event :: trace) := by
  intro later other earlier hsplit
  cases later with
  | nil =>
    obtain ⟨rfl, rfl⟩ := List.cons.inj hsplit
    exact hevent
  | cons first later => exact h later other earlier (List.cons.inj hsplit).2

theorem Orderly.append {events : Option GraphEvent} {trace : List GraphEvent} (h : Orderly trace)
    (hevents : ∀ event ∈ events, event.Follows trace) : Orderly (events.toList ++ trace) := by
  cases events with
  | none => exact h
  | some event => exact h.cons (hevents event rfl)

/-- Between two tool calls there is a provider call. -/
theorem Orderly.one_tool {trace later between earlier : List GraphEvent}
    {call call' : PendingToolCall} {outcome outcome' : Option ToolOutcome} (h : Orderly trace)
    (hsplit : trace = later ++ executed call outcome :: (between ++
      executed call' outcome' :: earlier)) : ∃ event ∈ between, event.isCall = true := by
  obtain ⟨-, response, rest, hrest⟩ := h later _ _ hsplit
  cases between with
  | nil => cases hrest
  | cons event between =>
    obtain ⟨rfl, -⟩ := List.cons.inj hrest
    exact ⟨_, List.mem_cons_self, rfl⟩

/-- No tool is called in a turn whose response requests a handoff. -/
theorem Orderly.no_tool {trace later between earlier : List GraphEvent} {call : PendingToolCall}
    {outcome : Option ToolOutcome} {response : LLMResponse} (h : Orderly trace)
    (hsplit : trace = later ++ executed call outcome :: (between ++
      called (some (.ok response)) :: earlier)) : response.handoffRequest = none := by
  obtain ⟨hquiet, -⟩ := h later _ _ hsplit
  have hresponse := hquiet (called (some (.ok response))) (by simp)
  simpa [Ends] using hresponse

/-- Nothing is called after an event that ends the graph. -/
theorem Orderly.no_call {trace later earlier : List GraphEvent} {event : GraphEvent}
    (h : Orderly trace) (hsplit : trace = later ++ event :: earlier) (hends : event.Ends) :
    ∀ other ∈ later, other.isCall = false ∧ other.isExecution = false := by
  intro other hother
  obtain ⟨after, before, rfl⟩ := List.append_of_mem hother
  have hfollows := h after other (before ++ event :: earlier) (by simp [hsplit])
  have hmem : event ∈ before ++ event :: earlier := by simp
  cases other with
  | called outcome => exact absurd hends (hfollows event hmem)
  | executed call outcome => exact absurd hends (hfollows.1 event hmem)
  | handoffRequested validated => exact ⟨rfl, rfl⟩
  | cancellationObserved => exact ⟨rfl, rfl⟩

/-- The last provider call had this response. -/
def LastResponse (trace : List GraphEvent) (response : LLMResponse) : Prop :=
  trace.find? isCall = some (called (some (.ok response)))

end GraphEvent

/-! ## The state and the trace -/

/-- What ends a segment without a response. -/
def RuntimeState.Flagged (state : RuntimeState) : Prop :=
  state.cancelled = true ∨ state.handoffRequest.isSome ∨ state.budgetExceeded = true ∨
    truthy state.safeErrorCode = true

/-- The text of the state is that of the last response, and nothing else is to be done. -/
structure Answered (trace : List GraphEvent) (state : RuntimeState) : Prop where
  response : ∃ response, LastResponse trace response ∧ state.finalResponse = response.text
  pendingToolCall : state.pendingToolCall = none
  pendingHandoffRequest : state.pendingHandoffRequest = none
  safeErrorCode : state.safeErrorCode = none

/-- The nodes from which the graph may still make a call. -/
def Node.active : Node → Bool
  | .prepareRun | .checkBudget | .generateResponse | .executeToolCall => true
  | _ => false

structure Traced (trace : List GraphEvent) (g : GraphRun) : Prop where
  orderly : Orderly trace
  quiet : g.node.active = true → ∀ event ∈ trace, ¬ event.Ends
  proposed : g.node = .executeToolCall →
    ∃ response rest, trace = called (some (.ok response)) :: rest
  validated : g.node = .validateProviderResult → Answered trace g.state
  finalized : g.node = .finalizeResponse → Answered trace g.state ∧ g.state.finalResponse ≠ ""
  finished : g.node = .finished →
    g.state.Flagged ∨ Answered trace g.state ∧ g.state.finalResponse ≠ ""

namespace Traced

variable {trace : List GraphEvent} {state : RuntimeState}

/-- Before its next provider call a graph only needs a trace that nothing ends. -/
theorem calling {node : Node} (horderly : Orderly trace) (hquiet : ∀ event ∈ trace, ¬ event.Ends)
    (hnode : node = .checkBudget ∨ node = .generateResponse) : Traced trace ⟨node, state⟩ := by
  rcases hnode with rfl | rfl <;>
    exact ⟨horderly, fun _ => hquiet, by simp, by simp, by simp, by simp⟩

theorem flagged (horderly : Orderly trace) (hflagged : state.Flagged) :
    Traced trace ⟨.finished, state⟩ :=
  ⟨horderly, by simp [Node.active], by simp, by simp, by simp, fun _ => .inl hflagged⟩

end Traced

namespace RunContext

variable {ctx : RunContext} {trace : List GraphEvent} {state : RuntimeState} {cancelled : Bool}

theorem event_eq_of_tool {outcome : ToolOutcome} {event : GraphEvent}
    (h : ctx.event ⟨.executeToolCall, state⟩ (.tool cancelled outcome) = some event) :
    event = .cancellationObserved ∨ ∃ call, event = .executed call outcome := by
  unfold RunContext.event at h
  dsimp only at h
  split at h
  · exact .inl (Option.some.inj h).symm
  · obtain ⟨call, -, rfl⟩ := Option.map_eq_some_iff.mp h
    exact .inr ⟨call, rfl⟩

theorem orDefault_ne {text default : String} (h : default ≠ "") : orDefault text default ≠ "" := by
  unfold orDefault
  split
  · exact h
  · assumption

theorem truthy_orDefault {text default : String} (h : default ≠ "") :
    truthy (some (orDefault text default)) = true := by
  simp [truthy, orDefault_ne h]

/-- A budget check that observes the cancellation ends the graph. -/
theorem checkBudget_observes {elapsed : Rat} (h : ctx.observesCancellation cancelled = true) :
    routeAfterBudget (ctx.checkBudgetNode state cancelled elapsed) = .finished := by
  unfold routeAfterBudget checkBudgetNode
  simp [h]

/-- The graph goes on behind a tool call only when it has a result. -/
theorem toolEvent_continues {outcome : ToolOutcome} (hexecute : ctx.executeTool = true)
    (hpending : state.pendingToolCall.isSome)
    (h : routeAfterTool (ctx.executeToolCall state cancelled outcome) ≠ .finished) :
    ∀ event ∈ ctx.event ⟨.executeToolCall, state⟩ (.tool cancelled outcome), ¬ event.Ends := by
  obtain ⟨call, hcall⟩ := Option.isSome_iff_exists.mp hpending
  unfold routeAfterTool executeToolCall at h
  unfold RunContext.event executedCall
  simp only [hcall, hexecute, Option.isSome_some, true_and] at h ⊢
  by_cases hobserved : ctx.observesCancellation cancelled = true
  · simp [hobserved] at h
  · by_cases hnormalized : truthy call.normalizationError = true
    · simp [hobserved, hnormalized]
    · cases outcome with
      | result modelResult => simp [hobserved, hnormalized, Ends]
      | budgetExceeded reason => simp [hobserved, hnormalized] at h
      | approvalRequired code message | terminal code message =>
        simp [hobserved, hnormalized, withToolError, withError, truthy_orDefault] at h

theorem executeHandoffRequest_flagged {validated : HandoffValidation}
    (hbound : ctx.requestHandoff = true) (hpending : state.pendingHandoffRequest.isSome) :
    (ctx.executeHandoffRequest state cancelled validated).Flagged := by
  obtain ⟨request, hrequest⟩ := Option.isSome_iff_exists.mp hpending
  unfold executeHandoffRequest RuntimeState.Flagged
  simp only [hrequest, hbound]
  split
  · exact .inl rfl
  · cases validated with
    | ok reasonCode summary => exact .inr (.inl rfl)
    | refused code message =>
      refine .inr (.inr (.inr ?_))
      simp [withError, truthy_orDefault]

variable (ctx digest) in
/-- Behind a failed call the graph checks its budget for another one, or ends with the error. -/
theorem failed_route {e : ProviderError} (hbudget : state.budgetExceeded = false)
    (hcode : e.code ≠ "") :
    ctx.routeAfterGenerate (ctx.generateResponse state digest (.error e)) = .checkBudget ∨
      ctx.routeAfterGenerate (ctx.generateResponse state digest (.error e)) = .finished ∧
        (ctx.generateResponse state digest (.error e)).Flagged := by
  have herror : truthy (ctx.generateResponse state digest (.error e)).safeErrorCode = true := by
    simp [generateResponse, hbudget, truthy, hcode]
  have hopen : (ctx.generateResponse state digest (.error e)).budgetExceeded = false := by
    simp [generateResponse, hbudget]
  unfold routeAfterGenerate
  rw [if_neg (by simp [hopen]), if_pos herror]
  split
  · exact .inl rfl
  · exact .inr ⟨rfl, .inr (.inr (.inr herror))⟩

variable (ctx digest trace) in
/-- Behind a response the graph turns to its handoff request, to its tool call, or to its text when
it has neither. -/
theorem response_route {response : LLMResponse} (hexecute : ctx.executeTool = true)
    (hbound : ctx.requestHandoff = true) (hbudget : state.budgetExceeded = false) :
    ctx.routeAfterGenerate (ctx.generateResponse state digest (.ok response)) =
        .executeHandoffRequest ∨
      ctx.routeAfterGenerate (ctx.generateResponse state digest (.ok response)) =
          .executeToolCall ∧ response.handoffRequest = none ∨
      ctx.routeAfterGenerate (ctx.generateResponse state digest (.ok response)) =
          .validateProviderResult ∧
        Answered (called (some (.ok response)) :: trace)
          (ctx.generateResponse state digest (.ok response)) := by
  unfold routeAfterGenerate generateResponse
  simp only [hbudget, Bool.false_eq_true, if_false, truthy, Option.any_none, hbound, hexecute,
    and_true]
  split
  · exact .inl rfl
  · rename_i hhandoff
    split
    · refine .inr (.inl ⟨rfl, ?_⟩)
      simpa [handoffCall, hbound] using hhandoff
    · rename_i htool
      exact .inr (.inr ⟨rfl, ⟨response, rfl, rfl⟩, by simpa using htool, by simpa using hhandoff,
        rfl⟩)

/-- Only a text passes the validation, which leaves it as it is. -/
theorem validateProviderResult_passed
    (h : routeAfterValidation (validateProviderResult state) = .finalizeResponse) :
    state.finalResponse ≠ "" ∧ validateProviderResult state = state := by
  unfold validateProviderResult at h ⊢
  by_cases hempty : state.finalResponse = ""
  · rw [if_pos hempty] at h
    cases h
  · exact ⟨hempty, if_neg hempty⟩

/-- A node does only what the trace allows. -/
theorem event_follows {g g' : GraphRun} {a : Answer} (hg : Traced trace g)
    (h : ctx.graphStep digest a g = some g') : ∀ event ∈ ctx.event g a, event.Follows trace := by
  intro event hevent
  cases graphStep_cases ctx h with
  | @raised node state =>
    cases node with
    | generateResponse =>
      unfold RunContext.event at hevent
      dsimp only at hevent
      split at hevent
      · cases hevent
      · cases hevent
        exact hg.quiet rfl
    | executeToolCall =>
      obtain ⟨call, -, rfl⟩ := Option.map_eq_some_iff.mp hevent
      exact ⟨hg.quiet rfl, hg.proposed rfl⟩
    | _ => cases hevent
  | checked =>
    unfold RunContext.event at hevent
    dsimp only at hevent
    split at hevent
    · cases hevent
      trivial
    · cases hevent
  | generated =>
    unfold RunContext.event at hevent
    dsimp only at hevent
    split at hevent
    · cases hevent
    · cases hevent
      exact hg.quiet rfl
  | executed =>
    rcases event_eq_of_tool hevent with rfl | ⟨call, rfl⟩
    · trivial
    · exact ⟨hg.quiet rfl, hg.proposed rfl⟩
  | handedOff =>
    unfold RunContext.event at hevent
    dsimp only at hevent
    split at hevent
    · split at hevent <;> cases hevent <;> trivial
    · cases hevent
  | prepared | validated | finalized => cases hevent

end RunContext

/-- Every step keeps the trace in order and the state in accord with it. -/
theorem traced_graphStep {ctx : RunContext} {trace : List GraphEvent} {g g' : GraphRun}
    {a : Answer} (hexecute : ctx.executeTool = true) (hbound : ctx.requestHandoff = true)
    (hlive : Live ctx g) (hcoded : a.Coded) (hg : Traced trace g)
    (h : ctx.graphStep digest a g = some g') :
    Traced ((ctx.event g a).toList ++ trace) g' := by
  have horderly := hg.orderly.append (RunContext.event_follows hg h)
  cases RunContext.graphStep_cases ctx h with
  | raised => exact ⟨horderly, by simp [Node.active], by simp, by simp, by simp, by simp⟩
  | prepared => exact .calling horderly (hg.quiet rfl) (.inl rfl)
  | @checked cancelled elapsed state state' hstate =>
    subst hstate
    rcases RunContext.routeAfterBudget_cases (ctx.checkBudgetNode state cancelled elapsed) with
      ⟨hroute, hflag⟩ | hroute
    · rw [hroute]
      exact .flagged horderly (hflag.elim (fun hbudget => .inr (.inr (.inl hbudget))) .inl)
    · have hunobserved : ctx.event ⟨.checkBudget, state⟩ (.budget cancelled elapsed) = none := by
        refine if_neg fun hobserved => ?_
        rw [RunContext.checkBudget_observes hobserved] at hroute
        cases hroute
      rw [hunobserved] at horderly ⊢
      exact .calling horderly (hg.quiet rfl) (.inr hroute)
  | @generated outcome state state' hstate =>
    subst hstate
    have hbudget := (hlive.unended (by simp) (by simp)).budgetExceeded
    have hevent : ctx.event ⟨.generateResponse, state⟩ (.provider outcome) =
        some (called outcome) := if_neg (by simpa using hbudget)
    rw [hevent] at horderly ⊢
    have hquiet : ¬ (called outcome).Ends → ∀ event ∈ called outcome :: trace, ¬ event.Ends := by
      intro hnew event hmem
      rcases List.mem_cons.mp hmem with rfl | hold
      · exact hnew
      · exact hg.quiet rfl event hold
    cases outcome with
    | error e =>
      rcases RunContext.failed_route digest ctx hbudget hcoded with hroute | ⟨hroute, hflagged⟩
      · exact .calling horderly (hquiet id) (.inl hroute)
      · rw [hroute]
        exact .flagged horderly hflagged
    | ok response =>
      rcases RunContext.response_route digest ctx trace hexecute hbound hbudget with
        hroute | ⟨hroute, hresponse⟩ | ⟨hroute, hanswered⟩
      · rw [hroute]
        exact ⟨horderly, by simp [Node.active], by simp, by simp, by simp, by simp⟩
      · rw [hroute]
        exact ⟨horderly, fun _ => hquiet (by simp [Ends, hresponse]),
          fun _ => ⟨response, trace, rfl⟩, by simp, by simp, by simp⟩
      · rw [hroute]
        exact ⟨horderly, by simp [Node.active], by simp, fun _ => hanswered, by simp, by simp⟩
  | @executed cancelled outcome state state' hstate =>
    subst hstate
    rcases RunContext.routeAfterTool_cases (ctx.executeToolCall state cancelled outcome) with
      ⟨hroute, herror | hbudget | hcancelled⟩ | hroute
    · rw [hroute]
      exact .flagged horderly (.inr (.inr (.inr herror)))
    · rw [hroute]
      exact .flagged horderly (.inr (.inr (.inl hbudget)))
    · rw [hroute]
      exact .flagged horderly (.inl hcancelled)
    · have hresult : ∀ event ∈ ctx.event ⟨.executeToolCall, state⟩ (.tool cancelled outcome),
          ¬ event.Ends :=
        RunContext.toolEvent_continues hexecute (hlive.tool rfl).1 (by rw [hroute]; simp)
      refine .calling horderly (fun event hmem => ?_) (.inl hroute)
      rcases List.mem_append.mp hmem with hnew | hold
      · exact hresult event (by simpa using hnew)
      · exact hg.quiet rfl event hold
  | handedOff hstate =>
    subst hstate
    exact .flagged horderly (RunContext.executeHandoffRequest_flagged hbound (hlive.handoff rfl))
  | @validated state state' hstate =>
    subst hstate
    have hanswered : Answered trace state := hg.validated rfl
    rcases RunContext.routeAfterValidation_cases (RunContext.validateProviderResult state) with
      ⟨hroute, herror⟩ | hroute
    · rw [hroute]
      exact .flagged horderly (.inr (.inr (.inr herror)))
    · rw [hroute]
      obtain ⟨hanswer, hsame⟩ := RunContext.validateProviderResult_passed hroute
      rw [hsame]
      exact ⟨horderly, by simp [Node.active], by simp, by simp, fun _ => ⟨hanswered, hanswer⟩,
        by simp⟩
  | finalized =>
    obtain ⟨⟨hresponse, htool, hhandoff, herror⟩, hanswer⟩ := hg.finalized rfl
    exact ⟨horderly, by simp [Node.active], by simp, by simp, by simp,
      fun _ => .inr ⟨⟨hresponse, htool, hhandoff, herror⟩, hanswer⟩⟩

theorem segmentContext_bound (agentVersion : AgentVersion) (run : Uuid) (segment : Segment) :
    (segmentContext agentVersion run segment).executeTool = true ∧
      (segmentContext agentVersion run segment).requestHandoff = true := by
  cases segment <;> exact ⟨rfl, rfl⟩

/-- Every run of a segment is traced. -/
theorem traced_of_run {agentVersion : AgentVersion} {run : Uuid} {segment : Segment}
    {steps : GraphSteps} {g : GraphRun}
    (h : (segmentGraph digest agentVersion run segment).Run (fun _ a => a.Coded) steps g) :
    Traced ((segmentContext agentVersion run segment).trace steps) g := by
  induction h with
  | init hinit =>
    have hquiet : ∀ event ∈ ([] : List GraphEvent), ¬ event.Ends := by simp
    cases segment with
    | main =>
      cases hinit
      exact ⟨.nil, fun _ => hquiet, by simp, by simp, by simp, by simp⟩
    | resumed =>
      obtain ⟨usage, summary, rfl⟩ := hinit
      exact ⟨.nil, fun _ => hquiet, by simp, by simp, by simp, by simp⟩
  | step hrun hcoded hstep ih =>
    rw [segmentGraph_step] at hstep
    obtain ⟨hexecute, hbound⟩ := segmentContext_bound agentVersion run segment
    exact traced_graphStep hexecute hbound
      (live_of_reach (hrun.reach.mono fun _ _ _ _ => trivial)) hcoded ih hstep

/-! ## The outcome of the service -/

/-- A run succeeds only with a state that no flag marks. -/
theorem not_flagged_of_succeeded {segment : Segment} {hasConversation : Bool}
    {state : RuntimeState} {text : String}
    (hunprobed : segment = .resumed → state.cancelled = false)
    (h : segmentOutcome segment hasConversation state = .succeeded text) :
    ¬ state.Flagged ∧ text = state.finalResponse := by
  have hcontinued : continuedOutcome hasConversation state = .succeeded text ∧
      state.cancelled = false := by
    cases segment with
    | main =>
      change claimedOutcome hasConversation state = .succeeded text at h
      unfold claimedOutcome at h
      split at h
      · cases h
      · rename_i hcancelled
        exact ⟨h, by simpa using hcancelled⟩
    | resumed => exact ⟨h, hunprobed rfl⟩
  obtain ⟨hsucceeded, hcancelled⟩ := hcontinued
  unfold continuedOutcome at hsucceeded
  split at hsucceeded
  · cases hsucceeded
  · rename_i hhandoff
    split at hsucceeded
    · cases hsucceeded
    · rename_i hbudget
      split at hsucceeded
      · cases hsucceeded
      · split at hsucceeded
        · unfold failOrHandoff at hsucceeded
          split at hsucceeded <;> cases hsucceeded
        · rename_i herror
          cases hsucceeded
          refine ⟨?_, rfl⟩
          rintro (h | h | h | h)
          · simp [hcancelled] at h
          · simp [hhandoff] at h
          · exact hbudget h
          · exact herror h

/-- In every run of a segment a tool is called at most once in a model turn and never in a turn
that requests a handoff, nothing is called after an event that ends the graph, and the service
takes the run for succeeded only behind a response with a text, with nothing pending and no flag
set. -/
theorem graph_safe {agentVersion : AgentVersion} {run : Uuid} {segment : Segment}
    {steps : GraphSteps} {g : GraphRun}
    (h : (segmentGraph digest agentVersion run segment).Run (fun _ a => a.Coded) steps g) :
    let trace := (segmentContext agentVersion run segment).trace steps
    (∀ later between earlier call call' outcome outcome',
      trace = later ++ executed call outcome :: (between ++ executed call' outcome' :: earlier) →
        ∃ event ∈ between, event.isCall = true) ∧
    (∀ later between earlier call outcome response,
      trace = later ++ executed call outcome ::
          (between ++ called (some (.ok response)) :: earlier) →
        response.handoffRequest = none) ∧
    (∀ later event earlier, trace = later ++ event :: earlier → event.Ends →
      ∀ other ∈ later, other.isCall = false ∧ other.isExecution = false) ∧
    (g.node = .finished → ∀ hasConversation text,
      segmentOutcome segment hasConversation g.state = .succeeded text →
      text ≠ "" ∧ (∃ response, LastResponse trace response ∧ text = response.text) ∧
        g.state.pendingToolCall = none ∧ g.state.pendingHandoffRequest = none ∧
        g.state.safeErrorCode = none ∧ g.state.budgetExceeded = false ∧
        g.state.cancelled = false ∧ g.state.handoffRequest = none) := by
  intro trace
  have htraced : Traced trace g := traced_of_run h
  have hlive := live_of_reach (h.reach.mono fun _ _ _ _ => trivial)
  refine ⟨fun _ _ _ _ _ _ _ hsplit => htraced.orderly.one_tool hsplit,
    fun _ _ _ _ _ _ hsplit => htraced.orderly.no_tool hsplit,
    fun _ _ _ hsplit hends => htraced.orderly.no_call hsplit hends, ?_⟩
  intro hfinished hasConversation text hsucceeded
  have hunprobed : segment = .resumed → g.state.cancelled = false := by
    rintro rfl
    exact hlive.unprobed rfl
  obtain ⟨hflagged, rfl⟩ := not_flagged_of_succeeded hunprobed hsucceeded
  obtain ⟨⟨hresponse, htool, hhandoff, herror⟩, hanswer⟩ :=
    (htraced.finished hfinished).resolve_left hflagged
  unfold RuntimeState.Flagged at hflagged
  simp only [not_or, Bool.not_eq_true, Option.isSome_eq_false_iff, Option.isNone_iff_eq_none]
    at hflagged
  obtain ⟨hcancelled, hrequest, hbudget, -⟩ := hflagged
  exact ⟨hanswer, hresponse, htool, hhandoff, herror, hbudget, hcancelled, hrequest⟩

/-- A main segment with a tool turn and a turn that answers. -/
def shippedSegment : GraphSteps × GraphRun :=
  (segmentGraph sampleDigest lookupVersion (sampleUuid 0) .main).retrace
    [.nothing, .budget false 0,
      .provider (.ok { toolCalls := [⟨"crm_lookup", "\x7b\x7d", none⟩] }),
      .tool false (.result ⟨"crm_lookup", .succeeded, "\x7b\x7d", none⟩), .budget false 1,
      .provider (.ok { text := "It ships today." }), .nothing, .nothing]
    [] ⟨.prepareRun, initialState⟩

theorem shippedSegment_run :
    (segmentGraph sampleDigest lookupVersion (sampleUuid 0) .main).Run (fun _ a => a.Coded)
      shippedSegment.1 shippedSegment.2 :=
  System.run_retrace _ (by simp [Answer.Coded]) (.init rfl)

theorem graph_safe_answered :
    claimedOutcome true shippedSegment.2.state = .succeeded "It ships today." ∧
      (∃ response,
        LastResponse ((mainContext lookupVersion (sampleUuid 0)).trace shippedSegment.1) response ∧
        "It ships today." = response.text) ∧
      shippedSegment.2.state.pendingToolCall = none ∧ shippedSegment.2.state.cancelled = false := by
  have houtcome : claimedOutcome true shippedSegment.2.state = .succeeded "It ships today." := by
    decide
  obtain ⟨-, hresponse, htool, -, -, -, hcancelled, -⟩ :=
    (graph_safe shippedSegment_run).2.2.2 (by decide) true _ houtcome
  exact ⟨houtcome, hresponse, htool, hcancelled⟩

end SupportPilot
