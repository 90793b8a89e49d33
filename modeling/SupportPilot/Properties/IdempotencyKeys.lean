import SupportPilot.Agents.Graph
import SupportPilot.Runtime.Keys
import SupportPilot.Runtime.Scenario

/-!
# Idempotency keys of different runs

The graph derives the key of a tool call from the owner that its context names, the number
of the model turn and the call. The context of a main segment names the run, but the context
of a resumed segment names nobody, so two resumed runs share a key exactly when they make the
same call in the same turn.
-/

namespace SupportPilot

open Library

variable {digest : String → String}

/-! ## Keys -/

/-- A key determines its owner, its turn and the digest of its call. -/
theorem toolCallKey_inj {owner owner' : String} {n n' : Nat}
    {tool tool' arguments arguments' : String} (howner : ':' ∉ owner.toList)
    (howner' : ':' ∉ owner'.toList)
    (h : toolCallKey digest owner n tool arguments =
      toolCallKey digest owner' n' tool' arguments') :
    owner = owner' ∧ n = n' ∧
      digest (digestText tool arguments) = digest (digestText tool' arguments') := by
  have hcolon : ∀ n, ':' ∉ Nat.toDigits 10 n := not_mem_toDigits_ten (by decide)
  have hchars := congrArg String.toList h
  simp [toolCallKey, List.append_assoc] at hchars
  obtain ⟨hsame, hrest⟩ := append_separator_inj howner howner' hchars
  simp only [List.cons.injEq, true_and] at hrest
  obtain ⟨hturn, hdigest⟩ := append_separator_inj (hcolon n) (hcolon n') hrest
  exact ⟨String.toList_inj.mp hsame, toDigits_ten_injective hturn, String.toList_inj.mp hdigest⟩

/-! ## The graph of a segment -/

def segmentContext (agentVersion : AgentVersion) (run : Uuid) : Segment → RunContext
  | .main => mainContext agentVersion run
  | .resumed => resumedContext agentVersion

def segmentGraph (digest : String → String) (agentVersion : AgentVersion) (run : Uuid) :
    Segment → System GraphRun Answer
  | .main => buildGraph digest (mainContext agentVersion run)
  | .resumed => buildResumeGraph digest (resumedContext agentVersion)

theorem segmentGraph_step (agentVersion : AgentVersion) (run : Uuid) (segment : Segment) :
    (segmentGraph digest agentVersion run segment).step =
      (segmentContext agentVersion run segment).graphStep digest := by
  cases segment <;> rfl

theorem mainContext_keyOwner (agentVersion : AgentVersion) (run : Uuid) :
    (mainContext agentVersion run).keyOwner = run.text :=
  if_neg (run.text_ne_of_hyphen (by decide))

theorem resumedContext_keyOwner (agentVersion : AgentVersion) :
    (resumedContext agentVersion).keyOwner = "unknown" := rfl

theorem colon_not_mem_keyOwner (agentVersion : AgentVersion) (run : Uuid) (segment : Segment) :
    ':' ∉ (segmentContext agentVersion run segment).keyOwner.toList := by
  cases segment with
  | main =>
    rw [segmentContext, mainContext_keyOwner]
    exact run.not_mem_text (by decide) (by decide)
  | resumed =>
    rw [segmentContext, resumedContext_keyOwner]
    decide

/-- A call waits only between the turn that proposed it and its execution, under the key of
that turn. -/
structure Keyed (digest : String → String) (ctx : RunContext) (g : GraphRun) : Prop where
  idle : g.node ∈ [Node.prepareRun, .checkBudget, .generateResponse] →
    g.state.pendingToolCall = none
  key : ∀ call, g.state.pendingToolCall = some call →
    call.idempotencyKey =
      toolCallKey digest ctx.keyOwner g.state.modelCallCount call.toolName call.arguments

theorem Keyed.of_idle {ctx : RunContext} {g : GraphRun} (h : g.state.pendingToolCall = none) :
    Keyed digest ctx g :=
  ⟨fun _ => h, fun call hcall => by simp [h] at hcall⟩

theorem keyed_graphStep {ctx : RunContext} {g g' : GraphRun} {a : Answer} (hg : Keyed digest ctx g)
    (h : ctx.graphStep digest a g = some g') : Keyed digest ctx g' := by
  cases RunContext.graphStep_cases ctx h with
  | raised => exact ⟨fun hnode => by simp at hnode, hg.key⟩
  | prepared => exact .of_idle (hg.idle (by simp))
  | checked hstate =>
    subst hstate
    exact .of_idle (by simpa using hg.idle (by simp))
  | @generated outcome state state' hstate =>
    by_cases hwaits : state'.pendingToolCall = none
    · exact .of_idle hwaits
    · obtain ⟨call, hcall⟩ := Option.ne_none_iff_exists'.mp hwaits
      subst hstate
      obtain ⟨herror, hcount, hkey⟩ :=
        ctx.generateResponse_pendingToolCall state digest outcome (hg.idle (by simp)) hcall
      refine ⟨fun hnode => absurd hnode (ctx.routeAfterGenerate_of_safeErrorCode herror), ?_⟩
      intro call' hcall'
      simp only [hcall, Option.some.injEq] at hcall'
      simp only
      rw [← hcall', hcount, hkey]
  | executed hstate =>
    subst hstate
    exact .of_idle (by simp)
  | @handedOff cancelled validated state state' hstate =>
    obtain ⟨hcall, hcount⟩ := ctx.executeHandoffRequest_keeps state cancelled validated
    subst hstate
    refine ⟨fun hnode => by simp at hnode, fun call h => ?_⟩
    simp only at h ⊢
    rw [hcount]
    exact hg.key call (hcall ▸ h)
  | @validated state state' hstate =>
    obtain ⟨hcall, hcount⟩ := RunContext.validateProviderResult_keeps state
    subst hstate
    refine ⟨fun hnode => ?_, fun call h => ?_⟩
    · unfold RunContext.routeAfterValidation at hnode
      split at hnode <;> simp at hnode
    · simp only at h ⊢
      rw [hcount]
      exact hg.key call (hcall ▸ h)
  | finalized => exact ⟨fun hnode => by simp at hnode, hg.key⟩

theorem keyed_of_reach {agentVersion : AgentVersion} {run : Uuid} {segment : Segment}
    {g : GraphRun}
    (h : (segmentGraph digest agentVersion run segment).Reach (fun _ _ => True) g) :
    Keyed digest (segmentContext agentVersion run segment) g := by
  refine h.invariant (fun g hg => ?_) fun g a g' _ hkeyed _ hstep => ?_
  · cases segment with
    | main =>
      cases hg
      exact .of_idle rfl
    | resumed =>
      obtain ⟨usage, summary, rfl⟩ := hg
      exact .of_idle rfl
  · rw [segmentGraph_step] at hstep
    exact keyed_graphStep hkeyed hstep

/-! ## Turns -/

/-- A tool call that the graph of one segment of a run hands to `execute_tool`. -/
structure Turn (digest : String → String) where
  run : Uuid
  agentVersion : AgentVersion
  segment : Segment
  graph : GraphRun
  call : PendingToolCall
  reached : (segmentGraph digest agentVersion run segment).Reach (fun _ _ => True) graph
  atTool : graph.node = .executeToolCall
  pending : graph.state.pendingToolCall = some call

namespace Turn

variable (a b : Turn digest)

/-- The number of the model turn within the run. -/
def number : Nat := a.graph.state.modelCallCount

def text : String := digestText a.call.toolName a.call.arguments

/-- The same call, made in the same turn of two resumed segments. -/
def Collides : Prop :=
  a.segment = .resumed ∧ b.segment = .resumed ∧ a.number = b.number ∧ a.text = b.text

theorem key : a.call.idempotencyKey =
    toolCallKey digest (segmentContext a.agentVersion a.run a.segment).keyOwner a.number
      a.call.toolName a.call.arguments :=
  (keyed_of_reach a.reached).key a.call a.pending

variable {a b}

/-- Turns of different runs have the same key owner only in resumed segments. -/
theorem resumed_of_keyOwner (hruns : a.run ≠ b.run)
    (h : (segmentContext a.agentVersion a.run a.segment).keyOwner =
      (segmentContext b.agentVersion b.run b.segment).keyOwner) :
    a.segment = .resumed ∧ b.segment = .resumed := by
  cases ha : a.segment <;> cases hb : b.segment <;> rw [ha, hb] at h <;>
    simp only [segmentContext, mainContext_keyOwner, resumedContext_keyOwner] at h
  · exact absurd (Uuid.text_injective h) hruns
  · exact absurd h (a.run.text_ne_of_hyphen (by decide))
  · exact absurd h.symm (b.run.text_ne_of_hyphen (by decide))
  · exact ⟨rfl, rfl⟩

theorem key_eq_iff (hdigest : Function.Injective digest) (hruns : a.run ≠ b.run) :
    a.call.idempotencyKey = b.call.idempotencyKey ↔ a.Collides b := by
  rw [a.key, b.key]
  constructor
  · intro h
    obtain ⟨howner, hnumber, htext⟩ := toolCallKey_inj (colon_not_mem_keyOwner _ _ _)
      (colon_not_mem_keyOwner _ _ _) h
    obtain ⟨ha, hb⟩ := resumed_of_keyOwner hruns howner
    exact ⟨ha, hb, hnumber, hdigest htext⟩
  · rintro ⟨ha, hb, hnumber, htext⟩
    unfold text at htext
    simp only [ha, hb, hnumber, htext, segmentContext, resumedContext_keyOwner, toolCallKey]

end Turn

/-! ## Rows of other runs -/

section Rows

variable (digest) (ids : Nat → Uuid)

/-- The worker makes this request in this turn; `ids` are the primary keys of the runs. -/
def Turn.Makes {digest : String → String} (ids : Nat → Uuid) (t : Turn digest) (w : Worker)
    (request : ToolRequest) : Prop :=
  t.run = ids w.run ∧ t.segment = w.segment ∧ request.toolKey = t.call.toolName ∧
    request.idempotencyKey = t.call.idempotencyKey

/-- The row records the call of this turn. -/
def Turn.Made {digest : String → String} (ids : Nat → Uuid) (t : Turn digest)
    (e : ToolExecution) : Prop :=
  t.run = ids e.agentRun ∧ e.toolDefinition = t.call.toolName ∧
    e.idempotencyKey = t.call.idempotencyKey

/-- Every tool call of a worker is a call that the graph of its segment hands over. -/
def CallsFromGraph (c : Configuration) (l : Step) : Prop :=
  ∀ i request w, l = .work i (.callTool request) → c.procs[i]? = some w →
    ∃ t : Turn digest, t.Makes ids w request

/-- Every row was created by the call of a turn of its own run. -/
def RowsFromGraph (s : Store) : Prop :=
  AllRows (fun _ e => ∃ t : Turn digest, t.Made ids e) s.executions

def RequestFromGraph (w : Worker) : Prop :=
  ∀ request, w.point.request = some request → ∃ t : Turn digest, t.Makes ids w request

variable {digest ids}

theorem Turn.Made.keeps {t : Turn digest} {e e' : ToolExecution} (h : t.Made ids e)
    (hkeeps : RowKeeps e e') : t.Made ids e' := by
  obtain ⟨hrun, htool, hkey⟩ := h
  exact ⟨by rw [hkeeps.agentRun, hrun], hkeeps.toolDefinition.trans htool,
    hkeeps.idempotencyKey.trans hkey⟩

theorem fromGraph {c : Configuration} (h : RunsWith (CallsFromGraph digest ids) c) :
    c.Annotated (RowsFromGraph digest ids) fun _ w => RequestFromGraph digest ids w := by
  refine annotated_of_steps (fun _ _ h => by cases h) (fun _ _ _ _ h => h) ?_ ?_ h
  · intro c event s' started _ _ hc hstep
    refine ⟨fun x e' he' => ?_, fun w hw request hrequest => ?_⟩
    · rcases (keeps_serviceStep hstep).executions.back he' with ⟨e, he, hkeeps⟩ | hnew
      · obtain ⟨t, ht⟩ := hc.store x e he
        exact ⟨t, ht.keeps hkeeps⟩
      · have hlt := (List.getElem?_eq_some_iff.mp he').1
        rw [length_serviceStep hstep] at hlt
        omega
    · cases hstep <;> cases hw <;> cases hrequest
  · intro c i w a s' p' _ hcalls hc hw _ hstep
    refine ⟨fun x e' he' => ?_, fun _ request hrequest => ?_⟩
    · rcases (keeps_workerStep hstep).executions.back he' with ⟨e, he, hkeeps⟩ | hnew
      · obtain ⟨t, ht⟩ := hc.store x e he
        exact ⟨t, ht.keeps hkeeps⟩
      · have hlt := (List.getElem?_eq_some_iff.mp he').1
        rcases created_workerStep hstep with hsame | ⟨request, tool, run, hpoint, -, -, rfl⟩
        · omega
        · rw [List.getElem?_append_right hnew] at he'
          obtain rfl := List.mem_singleton.mp (List.mem_of_getElem? he')
          obtain ⟨t, hrun, -, htool, hkey⟩ := hc.procs i w hw request (by rw [hpoint]; rfl)
          exact ⟨t, hrun, htool, hkey⟩
    · rcases request_workerStep hstep hrequest with rfl | hbefore
      · exact hcalls i request w rfl hw
      · exact hc.procs i w hw request hbefore

end Rows

/-- Turns of different runs have different keys exactly unless they collide, and a call finds
the row of another run only where it collides with the turn that created the row. -/
theorem keys_separate_runs (hdigest : Function.Injective digest) (ids : Nat → Uuid) :
    (∀ a b : Turn digest, a.run ≠ b.run →
      (a.call.idempotencyKey ≠ b.call.idempotencyKey ↔ ¬ a.Collides b)) ∧
    ∀ (c : Configuration) (i x : Nat) (w : Worker) (request : ToolRequest) (tool : ToolSpec)
      (run : AgentRun) (e : ToolExecution), RunsWith (CallsFromGraph digest ids) c →
      c.procs[i]? = some w → w.point = .claimExecution request tool →
      c.store.findExecution run.workspace request.toolKey request.idempotencyKey = some x →
      c.store.executions[x]? = some e → ids e.agentRun ≠ ids w.run →
      ∃ a b : Turn digest, a.Made ids e ∧ b.Makes ids w request ∧ a.Collides b := by
  refine ⟨fun a b hruns => not_congr (Turn.key_eq_iff hdigest hruns), ?_⟩
  intro c i x w request tool run e hreach hw hpoint hfind he hruns
  have hc := fromGraph hreach
  obtain ⟨a, ha⟩ := hc.store x e he
  obtain ⟨b, hb⟩ := hc.procs i w hw request (by rw [hpoint]; rfl)
  obtain ⟨-, e', he', -, -, hkey⟩ := Store.findExecution_some hfind
  rw [he] at he'
  cases he'
  have hne : a.run ≠ b.run := by rwa [ha.1, hb.1]
  have hkeys : a.call.idempotencyKey = b.call.idempotencyKey := by
    rw [← ha.2.2, ← hb.2.2.2, hkey]
  exact ⟨a, b, ha, hb, (Turn.key_eq_iff hdigest hne).mp hkeys⟩

/-! ## A shared key -/

/-- The hash prefix of the text of one call, and an injective stand-in for other texts. -/
def sampleDigest (text : String) : String :=
  if text = "crm_lookup:{}" then "3d9149ccb74c9cf541f30941" else "#" ++ text

theorem sampleDigest_injective : Function.Injective sampleDigest := by
  intro s t h
  have hhash : ∀ u : String, "3d9149ccb74c9cf541f30941" ≠ "#" ++ u := by
    intro u hu
    have hchars := congrArg String.toList hu
    simp at hchars
  unfold sampleDigest at h
  split_ifs at h with hs ht ht
  · rw [hs, ht]
  · exact absurd h (hhash t)
  · exact absurd h.symm (hhash s)
  · exact (String.append_right_inj "#").mp h

def sampleUuid (digit : Fin 16) : Uuid := .replicate digit

def lookupVersion : AgentVersion := { maxModelCalls := 3 }

/-- The model proposes one tool call. -/
def proposesLookup : List Answer :=
  [.budget false 0, .provider (.ok { toolCalls := [⟨"crm_lookup", "{}", none⟩] })]

def pausedUsage : RunUsage := { modelCallCount := 1, stepCount := 4 }

/-- A resumed segment in the second turn of its run. -/
def resumedLookup : GraphRun :=
  (buildResumeGraph sampleDigest (resumedContext lookupVersion)).replayEnd (fun _ _ => True)
    proposesLookup
    ⟨.checkBudget, resumeStateAfterTool pausedUsage ⟨"crm_update", .succeeded, "{}", none⟩⟩

theorem resumedLookup_reached (run : Uuid) :
    (segmentGraph sampleDigest lookupVersion run .resumed).Reach (fun _ _ => True)
      resumedLookup := by
  refine System.reach_replayEnd ?_ proposesLookup
  exact .init ⟨pausedUsage, ⟨"crm_update", .succeeded, "{}", none⟩, rfl⟩

def resumedTurn (run : Uuid) : Turn sampleDigest where
  run := run
  agentVersion := lookupVersion
  segment := .resumed
  graph := resumedLookup
  call := ⟨"crm_lookup", "{}", none, "agent:unknown:turn:2:3d9149ccb74c9cf541f30941"⟩
  reached := resumedLookup_reached run
  atTool := by decide
  pending := by decide

/-- A main segment in the first turn of its run. -/
def mainLookup : GraphRun :=
  (buildGraph sampleDigest (mainContext lookupVersion (sampleUuid 0))).replayEnd
    (fun _ _ => True) (.nothing :: proposesLookup) ⟨.prepareRun, initialState⟩

def mainTurn : Turn sampleDigest where
  run := sampleUuid 0
  agentVersion := lookupVersion
  segment := .main
  graph := mainLookup
  call := ⟨"crm_lookup", "{}", none,
    "agent:00000000-0000-0000-0000-000000000000:turn:1:3d9149ccb74c9cf541f30941"⟩
  reached := System.reach_replayEnd (System.Reach.init rfl) _
  atTool := by decide
  pending := by decide

theorem keys_separate_runs_lookup :
    mainTurn.call.idempotencyKey ≠ (resumedTurn (sampleUuid 1)).call.idempotencyKey :=
  ((keys_separate_runs sampleDigest_injective fun _ => sampleUuid 0).1 mainTurn
    (resumedTurn (sampleUuid 1)) (by decide)).mpr fun h => by cases h.1

/-- The row that the resumed run 0 left behind, in the workspace of both runs. -/
def sharedRowStore : Store where
  runs := [{ workspace := 1, agentVersion := lookupVersion },
    { workspace := 1, agentVersion := lookupVersion }]
  executions := [{
    workspace := 1
    agentRun := 0
    agentVersion := lookupVersion
    toolDefinition := "crm_lookup"
    status := .succeeded
    idempotencyKey := (resumedTurn (sampleUuid 0)).call.idempotencyKey
    argumentsFingerprint := "f"
    resultRedacted := "\x7b\"ticket\":7\x7d" }]

/-- Two runs that make the same call in their second turn after a resume: the keys are equal,
and the later run is answered with the row of the earlier one. -/
theorem keys_not_always_separate :
    ∃ a b : Turn sampleDigest, a.run = sampleUuid 0 ∧ b.run = sampleUuid 1 ∧
      a.call.idempotencyKey = b.call.idempotencyKey ∧
      sharedRowStore.claimExecution ⟨1, .resumed, .running, .graph, true⟩
        ⟨b.call.toolName, b.call.arguments, "f", b.call.idempotencyKey⟩ ⟨"crm_lookup", {}⟩ =
        some (sharedRowStore, .graph) :=
  ⟨resumedTurn (sampleUuid 0), resumedTurn (sampleUuid 1), rfl, rfl, rfl, rfl⟩

end SupportPilot
