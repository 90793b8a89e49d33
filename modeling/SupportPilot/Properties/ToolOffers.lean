import SupportPilot.Agents.ToolCatalog
import SupportPilot.Library.Outcomes
import SupportPilot.Properties.ToolBindings

/-!
# The tools that a model is offered

The catalogue of a version is read from the bindings, the definitions and the registry, and the
executor looks the key of a call up again. Both have to speak of the same tools.
-/

namespace SupportPilot.Bindings

open Library

variable {s s' : Store} {l : BindingCall} {v : Nat} {b : ToolBinding}

/-! ## Server-owned fields of a schema -/

/-- A value, or one anywhere within it. -/
inductive Node : Json → Json → Prop
  | self (value : Json) : Node value value
  | item {items : List Json} {value node : Json} : value ∈ items → Node value node →
      Node (.list items) node
  | field {fields : JsonObject} {key : String} {value node : Json} : (key, value) ∈ fields →
      Node value node → Node (.object fields) node

/-- No object of the schema, at any depth, declares a field of the server. -/
def Clean (schema : Json) : Prop :=
  ∀ fields, Node schema (.object fields) → declaresServerOwned fields = false

theorem inspectItems_eq (items : List Json) : inspectItems items = items.any inspect := by
  induction items with
  | nil => rfl
  | cons item items ih => rw [inspectItems, List.any_cons, ih]

theorem inspectFields_eq (fields : JsonObject) :
    inspectFields fields = fields.any fun field => inspect field.2 := by
  induction fields with
  | nil => rfl
  | cons field fields ih => rw [inspectFields, List.any_cons, ih]

/-- What is raised for a node is raised for every value around it. -/
theorem inspect_of_node {value node : Json} (h : Node value node) (hnode : inspect node = true) :
    inspect value = true := by
  induction h with
  | self => exact hnode
  | item hmem _ ih =>
    rw [inspect, inspectItems_eq, List.any_eq_true]
    exact ⟨_, hmem, ih hnode⟩
  | field hmem _ ih =>
    rw [inspect, inspectFields_eq, Bool.or_eq_true, List.any_eq_true]
    exact .inr ⟨_, hmem, ih hnode⟩

mutual

theorem inspect_of_clean : ∀ value, Clean value → inspect value = false
  | .object fields, h => by
    rw [inspect, h fields (.self _), Bool.false_or]
    exact inspectFields_of_clean fields fun key value hmem inner hnode =>
      h inner (.field hmem hnode)
  | .list items, h => by
    rw [inspect]
    exact inspectItems_of_clean items fun value hmem inner hnode => h inner (.item hmem hnode)
  | .null, _ => rfl
  | .bool _, _ => rfl
  | .int _, _ => rfl
  | .float _, _ => rfl
  | .string _, _ => rfl

theorem inspectItems_of_clean : ∀ items : List Json, (∀ value ∈ items, Clean value) →
    inspectItems items = false
  | [], _ => rfl
  | item :: items, h => by
    rw [inspectItems, inspect_of_clean item (h item List.mem_cons_self), Bool.false_or]
    exact inspectItems_of_clean items fun value hmem => h value (List.mem_cons_of_mem _ hmem)

theorem inspectFields_of_clean : ∀ fields : JsonObject,
    (∀ key value, (key, value) ∈ fields → Clean value) → inspectFields fields = false
  | [], _ => rfl
  | (key, value) :: fields, h => by
    rw [inspectFields, inspect_of_clean value (h key value List.mem_cons_self), Bool.false_or]
    exact inspectFields_of_clean fields fun key value hmem =>
      h key value (List.mem_cons_of_mem _ hmem)

end

/-- The check raises for exactly the schemas that declare a field of the server somewhere. -/
theorem inspect_eq_false {schema : Json} : inspect schema = false ↔ Clean schema := by
  refine ⟨fun h fields hnode => ?_, inspect_of_clean schema⟩
  cases hdeclares : declaresServerOwned fields with
  | false => rfl
  | true =>
    have hraised : inspect (.object fields) = true := by rw [inspect, hdeclares, Bool.true_or]
    rw [inspect_of_node hnode hraised] at h
    cases h

/-! ## Registered tools -/

theorem ToolRegistry.getOrNone_eq_some {registry : ToolRegistry} {key : String} {spec : ToolSpec} :
    registry.getOrNone key = some spec ↔ spec ∈ registry.tools ∧ spec.key = key := by
  unfold getOrNone
  constructor
  · intro h
    have hkey := List.find?_some h
    exact ⟨List.mem_of_find?_eq_some h, of_decide_eq_true hkey⟩
  · rintro ⟨hmem, rfl⟩
    have hfound : (registry.tools.find? (·.key = spec.key)).isSome = true :=
      List.find?_isSome.mpr ⟨spec, hmem, decide_eq_true rfl⟩
    obtain ⟨other, hother⟩ := Option.isSome_iff_exists.mp hfound
    have hkey := List.find?_some hother
    rw [hother, List.inj_on_of_nodup_map registry.distinct (List.mem_of_find?_eq_some hother)
      hmem (of_decide_eq_true hkey)]

/-- What the model is told of a tool. -/
def ToolSpec.descriptor (spec : ToolSpec) : ToolDescriptor :=
  ⟨spec.key, spec.displayName, spec.description, spec.inputSchema⟩

/-- A registered tool that may be offered. -/
structure Sanctioned (registry : ToolRegistry) (spec : ToolSpec) : Prop where
  registered : spec ∈ registry.tools
  enabled : spec.enabled = true
  clean : Clean spec.inputSchema

theorem describe_eq_ok {registry : ToolRegistry} {d : ToolDefinition} {tool : ToolDescriptor} :
    describe registry d = .ok tool ↔
      ∃ spec, Sanctioned registry spec ∧ spec.key = d.key ∧ tool = spec.descriptor := by
  unfold describe
  constructor
  · intro h
    split at h
    · cases h
    · rename_i spec hspec
      obtain ⟨hmem, hkey⟩ := ToolRegistry.getOrNone_eq_some.mp hspec
      split at h
      · cases h
      · rename_i hsafe
        obtain ⟨henabled, hinspect⟩ := not_or.mp hsafe
        cases h
        exact ⟨spec, ⟨hmem, Bool.ne_false_iff.mp henabled,
          inspect_eq_false.mp (Bool.eq_false_iff.mpr hinspect)⟩, hkey, rfl⟩
  · rintro ⟨spec, hspec, hkey, rfl⟩
    rw [ToolRegistry.getOrNone_eq_some.mpr ⟨hspec.registered, hkey⟩]
    have hsafe : ¬ (spec.enabled = false ∨ inspect spec.inputSchema = true) := by
      rw [hspec.enabled, inspect_eq_false.mpr hspec.clean]
      simp
    exact if_neg hsafe

/-! ## Bound definitions -/

theorem map_modify {α β : Type} {f : α → α} {g : α → β} (hf : ∀ a, g (f a) = g a) (l : List α)
    (k : Nat) : (l.modify k f).map g = l.map g := by
  refine List.ext_getElem? fun i => ?_
  rw [List.getElem?_map, List.getElem?_map, List.getElem?_modify]
  cases l[i]? with
  | none => rfl
  | some a =>
    show (some (if k = i then f a else a)).map g = (some a).map g
    split
    · exact congrArg some (hf a)
    · rfl

/-- What a call can do to the tables. -/
theorem step_cases (h : toolBindings.step l s = some s') :
    (∃ new, s' = { s with versions := s.versions.insert new }) ∨
    (∃ k now, s' = { s with versions := s.versions.update k fun v =>
      { v with status := .published, publishedAt := some now } }) ∨
    (∃ key enabled, s' = s.syncOne key enabled) ∨
    (∃ new : ToolBinding, (s.bindings.any fun b => b.agentVersion = new.agentVersion &&
        b.toolDefinition = new.toolDefinition) = false ∧
      s' = { s with bindings := s.bindings ++ [new] }) ∨
    ∃ k enabled, s' =
      { s with bindings := s.bindings.modify k fun b => { b with enabled := enabled } } := by
  have hstep : bindingStep l s = some s' := h
  unfold bindingStep at hstep
  split at hstep
  · cases hstep
    exact .inl ⟨_, rfl⟩
  · obtain ⟨locked, -, hout⟩ := Option.bind_eq_some_iff.mp hstep
    split at hout
    · cases hout
    · cases hout
      exact .inr (.inl ⟨_, _, rfl⟩)
  · cases hstep
    exact .inr (.inr (.inl ⟨_, _, rfl⟩))
  · split at hstep
    · unfold Store.createToolBinding at hstep
      split at hstep
      · cases hstep
      · split at hstep
        · cases hstep
        · split at hstep
          · cases hstep
          · rename_i hfresh
            cases hstep
            exact .inr (.inr (.inr (.inl ⟨_, Bool.eq_false_iff.mpr hfresh, rfl⟩)))
    · cases hstep
  · split at hstep
    · unfold Store.setToolBindingEnabled at hstep
      split at hstep
      · cases hstep
      · cases hstep
        exact .inr (.inr (.inr (.inr ⟨_, _, rfl⟩)))
    · cases hstep

/-- Keys are unique in the catalogue, and so are the definitions that a version binds. -/
structure Distinct (s : Store) : Prop where
  definitions : (s.definitions.rows.map (·.key)).Nodup
  bindings : (s.bindings.map fun b => (b.agentVersion, b.toolDefinition)).Nodup

theorem Distinct.syncOne (hs : Distinct s) (key : String) (enabled : Bool) :
    Distinct (s.syncOne key enabled) := by
  unfold Store.syncOne
  split
  · refine ⟨?_, hs.bindings⟩
    have hkeys := map_modify (f := fun t : ToolDefinition => { t with active := enabled })
      (g := (·.key)) (fun _ => rfl) s.definitions.rows
    rw [Versioned.rows_update, hkeys]
    exact hs.definitions
  · rename_i hnone
    refine ⟨?_, hs.bindings⟩
    show ((s.definitions.rows ++ [(⟨key, enabled⟩ : ToolDefinition)]).map (·.key)).Nodup
    rw [List.map_append, List.nodup_append]
    refine ⟨hs.definitions, List.nodup_singleton _, fun k hk other hother heq => ?_⟩
    obtain ⟨d, hd, rfl⟩ := List.mem_map.mp hk
    have hkey : d.key = key := heq.trans (List.mem_singleton.mp hother)
    have hnot := List.findIdx?_eq_none_iff.mp hnone d hd
    exact absurd hkey (of_decide_eq_false hnot)

theorem Distinct.bind (hs : Distinct s) {new : ToolBinding}
    (hfresh : (s.bindings.any fun b => b.agentVersion = new.agentVersion &&
      b.toolDefinition = new.toolDefinition) = false) :
    Distinct { s with bindings := s.bindings ++ [new] } where
  definitions := hs.definitions
  bindings := by
    rw [List.map_append, List.nodup_append]
    refine ⟨hs.bindings, List.nodup_singleton _, fun pair hpair other hother heq => ?_⟩
    obtain ⟨b, hb, rfl⟩ := List.mem_map.mp hpair
    have hsame : (b.agentVersion, b.toolDefinition) = (new.agentVersion, new.toolDefinition) :=
      heq.trans (List.mem_singleton.mp hother)
    obtain ⟨hversion, hdefinition⟩ := Prod.mk.inj hsame
    have hnot := List.any_eq_false.mp hfresh b hb
    simp [hversion, hdefinition] at hnot

theorem Distinct.modify (hs : Distinct s) (k : Nat) (enabled : Bool) :
    Distinct { s with bindings := s.bindings.modify k fun b => { b with enabled := enabled } } where
  definitions := hs.definitions
  bindings := by
    have hpairs := map_modify (f := fun b : ToolBinding => { b with enabled := enabled })
      (g := fun b => (b.agentVersion, b.toolDefinition)) (fun _ => rfl) s.bindings
    rw [hpairs]
    exact hs.bindings

theorem Distinct.step (hs : Distinct s) (h : toolBindings.step l s = some s') : Distinct s' := by
  rcases step_cases h with ⟨_, rfl⟩ | ⟨_, _, rfl⟩ | ⟨_, _, rfl⟩ | ⟨_, hfresh, rfl⟩ | ⟨_, _, rfl⟩
  · exact ⟨hs.definitions, hs.bindings⟩
  · exact ⟨hs.definitions, hs.bindings⟩
  · exact hs.syncOne _ _
  · exact hs.bind hfresh
  · exact hs.modify _ _

theorem distinct {permits : Store → BindingCall → Prop} (h : toolBindings.Reach permits s) :
    Distinct s := by
  refine h.invariant ?_ fun _ _ _ _ hs _ hstep => hs.step hstep
  rintro t rfl
  exact ⟨.nil, .nil⟩

theorem mem_boundDefinitions {d : ToolDefinition} : d ∈ s.boundDefinitions v ↔
    ∃ b ∈ s.bindings, b.agentVersion = v ∧ b.enabled = true ∧
      s.definitions.rows[b.toolDefinition]? = some d ∧ d.active = true := by
  unfold Store.boundDefinitions
  rw [List.mem_filterMap]
  constructor
  · rintro ⟨b, hb, hd⟩
    obtain ⟨hmem, hbound⟩ := List.mem_filter.mp hb
    rw [Bool.and_eq_true, decide_eq_true_eq] at hbound
    obtain ⟨hrow, hactive⟩ := Option.filter_eq_some_iff.mp hd
    exact ⟨b, List.mem_reverse.mp hmem, hbound.1, hbound.2, hrow, hactive⟩
  · rintro ⟨b, hb, hversion, henabled, hrow, hactive⟩
    refine ⟨b, List.mem_filter.mpr ⟨List.mem_reverse.mpr hb, ?_⟩, ?_⟩
    · rw [Bool.and_eq_true, decide_eq_true_eq]
      exact ⟨hversion, henabled⟩
    · exact Option.filter_eq_some_iff.mpr ⟨hrow, hactive⟩

/-- The executor finds a binding for exactly the keys of the bound definitions. -/
theorem resolved_iff {key : String} : (s.resolveEnabledBinding v key).isSome = true ↔
    ∃ d ∈ s.boundDefinitions v, d.key = key := by
  unfold Store.resolveEnabledBinding
  rw [List.find?_isSome]
  constructor
  · rintro ⟨b, hb, hfound⟩
    simp only [Bool.and_eq_true, decide_eq_true_eq] at hfound
    obtain ⟨d, hd, hkey⟩ := (Option.any_eq_true _ _).mp hfound.2
    rw [Bool.and_eq_true, decide_eq_true_eq] at hkey
    exact ⟨d, mem_boundDefinitions.mpr ⟨b, hb, hfound.1.1, hfound.1.2, hd, hkey.2⟩, hkey.1⟩
  · rintro ⟨d, hd, hkey⟩
    obtain ⟨b, hb, hversion, henabled, hrow, hactive⟩ := mem_boundDefinitions.mp hd
    refine ⟨b, hb, ?_⟩
    simp [hversion, henabled, hrow, hkey, hactive]

theorem Distinct.boundDefinitions (hs : Distinct s) (v : Nat) :
    ((s.boundDefinitions v).map (·.key)).Nodup := by
  unfold Store.boundDefinitions
  refine List.pairwise_map.mpr (List.pairwise_filterMap.mpr ?_)
  have hbindings : (s.bindings.reverse.map fun b => (b.agentVersion, b.toolDefinition)).Nodup := by
    rw [List.map_reverse]
    exact List.nodup_reverse.mpr hs.bindings
  have hpairs := (List.pairwise_map.mp hbindings).filter
    fun b => decide (b.agentVersion = v) && b.enabled
  refine hpairs.imp_of_mem ?_
  intro b b' hb hb' hne d hd d' hd' hkey
  have hversion : b.agentVersion = v ∧ b'.agentVersion = v := by
    simp only [List.mem_filter, Bool.and_eq_true, decide_eq_true_eq] at hb hb'
    exact ⟨hb.2.1, hb'.2.1⟩
  have hrow : (s.definitions.rows.map (·.key))[b.toolDefinition]? = some d.key := by
    rw [List.getElem?_map, (Option.filter_eq_some_iff.mp hd).1]
    rfl
  have hrow' : (s.definitions.rows.map (·.key))[b'.toolDefinition]? = some d.key := by
    rw [List.getElem?_map, (Option.filter_eq_some_iff.mp hd').1, hkey]
    rfl
  have hsame : b.toolDefinition = b'.toolDefinition :=
    (List.getElem?_inj (List.getElem?_eq_some_iff.mp hrow).1 hs.definitions).mp
      (hrow.trans hrow'.symm)
  exact hne (by rw [hversion.1, hversion.2, hsame])

/-- A published version stays published, so an object that was loaded as published is one of a
version that still is. -/
theorem published_of_loaded {permits : Store → BindingCall → Prop}
    (h : toolBindings.Reach permits s) {agentVersion : Object AgentVersion}
    (hloaded : s.versions.Loaded agentVersion) (hstatus : agentVersion.value.status ≠ .draft) :
    Published s agentVersion.pk := by
  have hkept : s.versions.Relates fun v v' => v.status ≠ .draft → v'.status ≠ .draft := by
    let Kept : AgentVersion → AgentVersion → Prop :=
      fun v v' => v.status ≠ .draft → v'.status ≠ .draft
    refine h.invariant (I := fun t => t.versions.Relates Kept) ?_ fun t l t' _ ht _ hstep => ?_
    · rintro t rfl o ho
      cases ho
    · rcases step_cases hstep with
        ⟨_, rfl⟩ | ⟨_, _, rfl⟩ | ⟨key, enabled, rfl⟩ | ⟨_, -, rfl⟩ | ⟨_, _, rfl⟩
      · exact ht.insert fun _ h => h
      · refine ht.update (fun _ h => h) fun _ _ _ _ _ _ _ => ?_
        exact AgentVersionStatus.noConfusion
      · have hsame : (t.syncOne key enabled).versions = t.versions := by
          unfold Store.syncOne
          split <;> rfl
        rw [hsame]
        exact ht
      · exact ht
      · exact ht
  have hlt := s.versions.bound agentVersion hloaded
  exact ⟨_, List.getElem?_eq_getElem hlt,
    hkept agentVersion hloaded _ (List.getElem?_eq_getElem hlt) hstatus⟩

/-! ## Main result -/

/-- The tools that a version is offered are sanctioned ones in the strict order of their keys, and
the executor finds a binding for exactly these. Whatever follows, it finds one for no other key,
except where the definition was inactive and has become active again. -/
structure Offers (registry : ToolRegistry) (s : Store) (v : Nat) (tools : List ToolDescriptor) :
    Prop where
  sanctioned : ∀ tool ∈ tools, ∃ spec, Sanctioned registry spec ∧ tool = spec.descriptor
  ordered : (tools.map (·.key)).Pairwise (· < ·)
  executable : ∀ key, key ∈ tools.map (·.key) ↔ (s.resolveEnabledBinding v key).isSome = true
  later : ∀ t, (toolBindings.startedAt s).Reach Guarded t → ∀ key,
    (t.resolveEnabledBinding v key).isSome = true →
      key ∈ tools.map (·.key) ∨ ∃ d ∈ s.definitions.rows, d.key = key ∧ d.active = false

/-- The object is of no published version of the workspace, or one of the bound definitions has no
sanctioned tool. -/
def Misconfigured (registry : ToolRegistry) (workspaceOf : Nat → Nat) (s : Store)
    (agentVersion : Object AgentVersion) (workspace : Nat) : Prop :=
  agentVersion.value.status ≠ .published ∨
    workspaceOf agentVersion.value.agentDefinition ≠ workspace ∨
    ∃ d ∈ s.boundDefinitions agentVersion.pk, ∀ spec, Sanctioned registry spec → spec.key ≠ d.key

/-- A tool that is found later was bound already, and its definition is the same one. -/
theorem resolved_later (hs : Catalogued s) {t : Store} (hfrozen : Frozen s v t) {key : String}
    (h : (t.resolveEnabledBinding v key).isSome = true) :
    (s.resolveEnabledBinding v key).isSome = true ∨
      ∃ d ∈ s.definitions.rows, d.key = key ∧ d.active = false := by
  obtain ⟨b, hb⟩ := Option.isSome_iff_exists.mp h
  obtain ⟨⟨k, hk, hversion⟩, henabled, d, hd, hkey⟩ :=
    hfrozen.usable hs (usable_of_resolved hb)
  cases hactive : d.active with
  | false => exact .inr ⟨d, List.mem_of_getElem? hd, hkey, hactive⟩
  | true =>
    refine .inl (resolved_iff.mpr ⟨d, mem_boundDefinitions.mpr ?_, hkey⟩)
    exact ⟨b, List.mem_of_getElem? hk, hversion, henabled, hd, hactive⟩

/-- The keys that are described are the keys of the definitions. -/
theorem described_keys {registry : ToolRegistry} {definitions : List ToolDefinition}
    {descriptors : List ToolDescriptor}
    (h : definitions.mapM (describe registry) = .ok descriptors) :
    descriptors.map (·.key) = definitions.map (·.key) ∧
      ∀ tool ∈ descriptors, ∃ spec, Sanctioned registry spec ∧ tool = spec.descriptor := by
  induction definitions generalizing descriptors with
  | nil =>
    cases h
    exact ⟨rfl, nofun⟩
  | cons d definitions ih =>
    rw [List.mapM_cons] at h
    obtain ⟨tool, htool, hrest⟩ := bind_eq_ok.mp h
    obtain ⟨tools, htools, hout⟩ := bind_eq_ok.mp hrest
    cases hout
    obtain ⟨spec, hspec, hkey, rfl⟩ := describe_eq_ok.mp htool
    obtain ⟨hkeys, hsanctioned⟩ := ih htools
    refine ⟨?_, List.forall_mem_cons.mpr ⟨⟨spec, hspec, rfl⟩, hsanctioned⟩⟩
    rw [List.map_cons, List.map_cons, hkeys, ← hkey]
    rfl

theorem described_error {registry : ToolRegistry} {definitions : List ToolDefinition}
    {e : CatalogError} (h : definitions.mapM (describe registry) = .error e) :
    ∃ d ∈ definitions, ∀ spec, Sanctioned registry spec → spec.key ≠ d.key := by
  induction definitions with
  | nil => cases h
  | cons d definitions ih =>
    rw [List.mapM_cons] at h
    rcases bind_eq_error.mp h with hfirst | ⟨tool, -, hrest⟩
    · refine ⟨d, List.mem_cons_self, fun spec hspec hkey => ?_⟩
      rw [describe_eq_ok.mpr ⟨spec, hspec, hkey, rfl⟩] at hfirst
      cases hfirst
    · rcases bind_eq_error.mp hrest with hothers | ⟨tools, -, hout⟩
      · obtain ⟨d', hd', hmissing⟩ := ih hothers
        exact ⟨d', List.mem_cons_of_mem _ hd', hmissing⟩
      · cases hout

/-- In the order of the keys, which are distinct, every key is less than the ones after it. -/
theorem insertionSort_keys {tools : List ToolDescriptor} (h : (tools.map (·.key)).Nodup) :
    ((tools.insertionSort fun tool other => tool.key ≤ other.key).map (·.key)).Pairwise
      (· < ·) := by
  let r : ToolDescriptor → ToolDescriptor → Prop := fun tool other => tool.key ≤ other.key
  have : Std.Total r := ⟨fun tool other => le_total tool.key other.key⟩
  have : IsTrans ToolDescriptor r := ⟨fun _ _ _ => le_trans⟩
  have hsorted : (tools.insertionSort r).Pairwise r := List.pairwise_insertionSort r tools
  have hdistinct : ((tools.insertionSort r).map (·.key)).Nodup :=
    ((List.perm_insertionSort r tools).map _).nodup_iff.mpr h
  refine List.pairwise_map.mpr ?_
  exact hsorted.imp₂ (fun _ _ hle hne => lt_of_le_of_ne hle hne) (List.pairwise_map.mp hdistinct)

/-- A catalogue that is read is the tools that the runs of its version can execute. -/
theorem offers_of_read {registry : ToolRegistry} {workspaceOf : Nat → Nat} {workspace : Nat}
    {agentVersion : Object AgentVersion} (h : toolBindings.Reach (fun _ _ => True) s)
    (hloaded : s.versions.Loaded agentVersion) {tools : List ToolDescriptor}
    (hread : getBoundToolDescriptors registry workspaceOf s agentVersion workspace = .ok tools) :
    Offers registry s agentVersion.pk tools := by
  unfold getBoundToolDescriptors at hread
  split at hread
  · cases hread
  · rename_i haccepted
    obtain ⟨hstatus, -⟩ := not_or.mp haccepted
    obtain ⟨descriptors, hdescribed, hsorted⟩ := bind_eq_ok.mp hread
    obtain rfl := Except.ok.inj hsorted
    obtain ⟨hkeys, hsanctioned⟩ := described_keys hdescribed
    have hperm := List.perm_insertionSort
      (fun tool other : ToolDescriptor => tool.key ≤ other.key) descriptors
    have hoffered : ∀ key, key ∈ (descriptors.insertionSort fun tool other =>
        tool.key ≤ other.key).map (·.key) ↔
          (s.resolveEnabledBinding agentVersion.pk key).isSome = true := by
      intro key
      rw [(hperm.map _).mem_iff, hkeys, List.mem_map, resolved_iff]
    have hpublished : Published s agentVersion.pk := by
      refine published_of_loaded h hloaded ?_
      rw [not_not.mp hstatus]
      nofun
    refine ⟨fun tool htool => hsanctioned tool (hperm.mem_iff.mp htool), ?_, hoffered, ?_⟩
    · refine insertionSort_keys ?_
      rw [hkeys]
      exact (distinct h).boundDefinitions _
    · intro t ht key hkey
      have hfrozen : Frozen s agentVersion.pk t := by
        refine System.Reach.continued (I := fun t => Frozen s agentVersion.pk t) ht ?_
          fun t l t' hkept hp hstep => hkept.step hp hstep
        exact ⟨hpublished, fun _ _ => Iff.rfl, .refl SameKey.refl _⟩
      rw [hoffered]
      exact resolved_later (catalogued h) hfrozen hkey

theorem misconfigured_of_error {registry : ToolRegistry} {workspaceOf : Nat → Nat} {workspace : Nat}
    {agentVersion : Object AgentVersion} {e : CatalogError}
    (h : getBoundToolDescriptors registry workspaceOf s agentVersion workspace = .error e) :
    Misconfigured registry workspaceOf s agentVersion workspace := by
  unfold getBoundToolDescriptors at h
  split at h
  · rename_i hrefused
    exact hrefused.imp_right .inl
  · rcases bind_eq_error.mp h with hdescribed | ⟨descriptors, -, hsorted⟩
    · exact .inr (.inr (described_error hdescribed))
    · cases hsorted

/-- The catalogue of a version that is published in the workspace is the tools that its runs can
execute, and it fails only where a definition has no sanctioned tool. -/
theorem catalogue_exact (registry : ToolRegistry) (workspaceOf : Nat → Nat) (workspace : Nat)
    {agentVersion : Object AgentVersion} (h : toolBindings.Reach (fun _ _ => True) s)
    (hloaded : s.versions.Loaded agentVersion) :
    Settles (fun _ => Misconfigured registry workspaceOf s agentVersion workspace)
      (Offers registry s agentVersion.pk)
      (getBoundToolDescriptors registry workspaceOf s agentVersion workspace) :=
  settles_iff.mpr ⟨fun _ herror => misconfigured_of_error herror,
    fun _ hread => offers_of_read h hloaded hread⟩

def lookupSpec : ToolSpec where
  key := "crm.lookup"
  displayName := "Look up a customer"
  description := ""
  inputSchema := .object []

/-- Another tool whose key looks the same to a provider. -/
def legacySpec : ToolSpec where
  key := "crm_lookup"
  displayName := "Look up a customer of the old system"
  description := ""
  inputSchema := .object []

def lookupRegistry : ToolRegistry := ⟨[legacySpec, lookupSpec], by decide⟩

/-- Two tools are bound, and the version is published. -/
def publishedLookup : List BindingCall :=
  [.createAgentVersion 0, .syncOne "crm.lookup" true, .syncOne "crm_lookup" true,
    .createToolBinding draftVersion ⟨1, ⟨"crm_lookup", true⟩⟩ "",
    .createToolBinding draftVersion lookupTool "", .publishAgentVersion 0 1]

def publishedVersion : Object AgentVersion :=
  ⟨0, { agentDefinition := 0, version := 1, status := .published, publishedAt := some 1 }⟩

theorem catalogue_exact_published :
    let s := toolBindingsEnd (fun _ _ => True) publishedLookup
    Settles (fun _ => Misconfigured lookupRegistry id s publishedVersion 0)
        (Offers lookupRegistry s 0)
        (getBoundToolDescriptors lookupRegistry id s publishedVersion 0) ∧
      (getBoundToolDescriptors lookupRegistry id s publishedVersion 0).toOption.map
        (List.map (·.key)) = some ["crm.lookup", "crm_lookup"] :=
  ⟨catalogue_exact lookupRegistry id 0 (reaches_toolBindingsEnd _ publishedLookup) (by decide),
    by decide⟩

/-! ## Names for a provider -/

section Names

variable {sha256 : String → List Char} {tools : List ToolDescriptor}

/-- The name under which the provider is told of a tool. -/
def ToolDescriptor.providerName (sha256 : String → List Char) (tool : ToolDescriptor) : String :=
  String.ofList (openaiToolName sha256 tool.key)

/-- What `hexdigest` returns: 64 lower-case hexadecimal digits. -/
def HexDigest (digest : List Char) : Prop :=
  digest.length = 64 ∧ ∀ c ∈ digest, c ∈ "0123456789abcdef".toList

/-- In a name the character is an underscore. -/
def Blank (c : Char) : Prop := c = '_' ∨ isNameChar c = false

/-- Two keys with one name: their first 48 characters agree but for those that a name cannot have,
and so do the first eight digits of their digests. -/
structure SameName (sha256 : String → List Char) (key other : String) : Prop where
  slug : List.Forall₂ (fun c d => c = d ∨ Blank c ∧ Blank d) (key.toList.take 48)
    (other.toList.take 48)
  digest : (sha256 key).take 8 = (sha256 other).take 8

/-- A call under any name reaches an offered tool or none. -/
structure NamesReach (sha256 : String → List Char) (s : Store) (v : Nat)
    (tools : List ToolDescriptor) : Prop where
  accepted : ∀ tool ∈ tools, (tool.providerName sha256).length ≤ 57 ∧
    ∀ c ∈ (tool.providerName sha256).toList, isNameChar c = true
  reaches : ∀ name, (s.resolveEnabledBinding v (toolKeyOf sha256 tools name)).isSome = true ↔
    ∃ tool ∈ tools, name = tool.providerName sha256 ∨ name = tool.key
  own : ∀ tool ∈ tools, toolKeyOf sha256 tools (tool.providerName sha256) = tool.key ↔
    ∀ other ∈ tools, tool.key < other.key → ¬ SameName sha256 tool.key other.key
  later : ∀ t, (toolBindings.startedAt s).Reach Guarded t → ∀ name,
    (t.resolveEnabledBinding v (toolKeyOf sha256 tools name)).isSome = true →
      (∃ tool ∈ tools, name = tool.providerName sha256 ∨ name = tool.key) ∨
        ∃ d ∈ s.definitions.rows, d.key = name ∧ d.active = false

theorem openaiToolName_accepted (hdigest : ∀ text, HexDigest (sha256 text)) (key : String) :
    (openaiToolName sha256 key).length ≤ 57 ∧
      ∀ c ∈ openaiToolName sha256 key, isNameChar c = true := by
  unfold openaiToolName
  constructor
  · simp only [List.length_append, List.length_cons, List.length_take]
    omega
  · intro c hc
    rcases List.mem_append.mp hc with hslug | hrest
    · obtain ⟨original, -, rfl⟩ := List.mem_map.mp (List.mem_of_mem_take hslug)
      split
      · assumption
      · decide
    · rcases List.mem_cons.mp hrest with rfl | hhex
      · decide
      · have hdigits : "0123456789abcdef".toList.all isNameChar = true := by decide
        exact List.all_eq_true.mp hdigits c ((hdigest key).2 c (List.mem_of_mem_take hhex))

theorem shown_eq_iff {c d : Char} :
    ((if isNameChar c then c else '_') = if isNameChar d then d else '_') ↔
      c = d ∨ Blank c ∧ Blank d := by
  unfold Blank
  constructor
  · intro h
    split_ifs at h with hc hd hd
    · exact .inl h
    · exact .inr ⟨.inl h, .inr (Bool.eq_false_iff.mpr hd)⟩
    · exact .inr ⟨.inr (Bool.eq_false_iff.mpr hc), .inl h.symm⟩
    · exact .inr ⟨.inr (Bool.eq_false_iff.mpr hc), .inr (Bool.eq_false_iff.mpr hd)⟩
  · have hblank : ∀ c, c = '_' ∨ isNameChar c = false →
        (if isNameChar c then c else '_') = '_' := by
      rintro c (rfl | hc)
      · rfl
      · rw [hc, if_neg Bool.false_ne_true]
    rintro (rfl | ⟨hc, hd⟩)
    · rfl
    · rw [hblank c hc, hblank d hd]

/-- Eight digits after the underscore tell where the first part of a name ends. -/
theorem openaiToolName_eq_iff (hdigest : ∀ text, HexDigest (sha256 text)) {key other : String} :
    openaiToolName sha256 key = openaiToolName sha256 other ↔ SameName sha256 key other := by
  have hlength : ∀ text, ('_' :: (sha256 text).take 8).length = 9 := by
    intro text
    simp [(hdigest text).1]
  have hslugs : ((key.toList.map fun c => if isNameChar c then c else '_').take 48 =
      (other.toList.map fun c => if isNameChar c then c else '_').take 48) ↔
      List.Forall₂ (fun c d => c = d ∨ Blank c ∧ Blank d) (key.toList.take 48)
        (other.toList.take 48) := by
    rw [← List.map_take, ← List.map_take, ← List.forall₂_eq_eq_eq, List.forall₂_map_left_iff,
      List.forall₂_map_right_iff]
    simp only [shown_eq_iff]
  unfold openaiToolName
  constructor
  · intro h
    obtain ⟨hslug, hrest⟩ := List.append_inj' h ((hlength key).trans (hlength other).symm)
    exact ⟨hslugs.mp hslug, (List.cons.inj hrest).2⟩
  · rintro ⟨hslug, hrest⟩
    simp only [hslugs.mpr hslug, hrest]

theorem providerName_eq_iff (hdigest : ∀ text, HexDigest (sha256 text))
    {tool other : ToolDescriptor} : tool.providerName sha256 = other.providerName sha256 ↔
      SameName sha256 tool.key other.key :=
  String.ofList_inj.trans (openaiToolName_eq_iff hdigest)

/-- A name is read as the key of the last tool that has it, or as itself. -/
theorem toolKeyOf_cases (sha256 : String → List Char) (tools : List ToolDescriptor)
    (name : String) :
    (∃ before tool after, tools = before ++ tool :: after ∧ tool.providerName sha256 = name ∧
        (∀ later ∈ after, later.providerName sha256 ≠ name) ∧
        toolKeyOf sha256 tools name = tool.key) ∨
      (∀ tool ∈ tools, tool.providerName sha256 ≠ name) ∧
        toolKeyOf sha256 tools name = name := by
  have hname : ∀ tool : ToolDescriptor, tool.providerName sha256 = name ↔
      name.toList = openaiToolName sha256 tool.key := by
    intro tool
    rw [ToolDescriptor.providerName, ← String.toList_inj, String.toList_ofList, eq_comm]
  cases hlookup : (providerToolNames sha256 tools).lookup name.toList with
  | none =>
    refine .inr ⟨fun tool htool heq => ?_, by rw [toolKeyOf, hlookup, Option.getD_none]⟩
    have hnot := List.lookup_eq_none_iff.mp hlookup (openaiToolName sha256 tool.key, tool.key)
      (List.mem_reverse.mpr (List.mem_map.mpr ⟨tool, htool, rfl⟩))
    exact bne_iff_ne.mp hnot ((hname tool).mp heq)
  | some key =>
    obtain ⟨later, earlier, hsplit, hfirst⟩ := List.lookup_eq_some_iff.mp hlookup
    have htools := congrArg List.reverse hsplit
    rw [providerToolNames, List.reverse_reverse, List.reverse_append, List.reverse_cons,
      List.append_assoc, List.singleton_append] at htools
    obtain ⟨before, rest, rfl, -, hrest⟩ := List.map_eq_append_iff.mp htools
    obtain ⟨tool, after, rfl, htool, hafter⟩ := List.map_eq_cons_iff.mp hrest
    obtain ⟨hfound, rfl⟩ := Prod.mk.inj htool
    refine .inl ⟨before, tool, after, rfl, (hname tool).mpr hfound.symm, fun other hother heq => ?_,
      by rw [toolKeyOf, hlookup, Option.getD_some]⟩
    have hmem : (openaiToolName sha256 other.key, other.key) ∈ later := by
      rw [← List.mem_reverse, ← hafter]
      exact List.mem_map.mpr ⟨other, hother, rfl⟩
    exact bne_iff_ne.mp (hfirst _ hmem) ((hname other).mp heq)

/-- The key that is read from a name is that of an offered tool exactly for the names of these and
for their keys. -/
theorem toolKeyOf_offered {name : String} : toolKeyOf sha256 tools name ∈ tools.map (·.key) ↔
    ∃ tool ∈ tools, name = tool.providerName sha256 ∨ name = tool.key := by
  rcases toolKeyOf_cases sha256 tools name with
    ⟨before, tool, after, rfl, hname, -, hkey⟩ | ⟨hnone, hkey⟩
  · have htool : tool ∈ before ++ tool :: after := List.mem_append_right _ List.mem_cons_self
    rw [hkey]
    exact iff_of_true (List.mem_map_of_mem htool) ⟨tool, htool, .inl hname.symm⟩
  · rw [hkey, List.mem_map]
    refine exists_congr fun tool => and_congr_right fun htool => ?_
    rw [or_iff_right fun hname => hnone tool htool hname.symm]
    exact eq_comm

/-- A tool is read back under its name unless a later one has taken it. -/
theorem toolKeyOf_own (hdigest : ∀ text, HexDigest (sha256 text))
    (hordered : (tools.map (·.key)).Pairwise (· < ·))
    {tool : ToolDescriptor} (htool : tool ∈ tools) :
    toolKeyOf sha256 tools (tool.providerName sha256) = tool.key ↔
      ∀ other ∈ tools, tool.key < other.key → ¬ SameName sha256 tool.key other.key := by
  rcases toolKeyOf_cases sha256 tools (tool.providerName sha256) with
    ⟨before, last, after, rfl, hname, hafter, hkey⟩ | ⟨hnone, -⟩
  · rw [List.pairwise_map, List.pairwise_append, List.pairwise_cons] at hordered
    obtain ⟨-, ⟨hlast, -⟩, hbefore⟩ := hordered
    rw [hkey]
    constructor
    · intro hsame other hother hlt hshared
      rcases List.mem_append.mp hother with hearlier | hrest
      · have hle := hbefore other hearlier last List.mem_cons_self
        exact lt_asymm (hsame ▸ hle) hlt
      · rcases List.mem_cons.mp hrest with rfl | hlater
        · exact lt_irrefl _ (hsame ▸ hlt)
        · exact hafter other hlater ((providerName_eq_iff hdigest).mpr hshared).symm
    · intro hfree
      rcases List.mem_append.mp htool with hearlier | hrest
      · have hlt := hbefore tool hearlier last List.mem_cons_self
        have hshared := (providerName_eq_iff hdigest).mp hname.symm
        exact absurd hshared
          (hfree last (List.mem_append_right _ List.mem_cons_self) hlt)
      · rcases List.mem_cons.mp hrest with rfl | hlater
        · rfl
        · exact absurd rfl (hafter tool hlater)
  · exact absurd rfl (hnone tool htool)

/-- Whatever name a provider calls, it reaches the tools that were offered and no others. -/
theorem names_reach {registry : ToolRegistry} {workspaceOf : Nat → Nat} {workspace : Nat}
    {agentVersion : Object AgentVersion} (hdigest : ∀ text, HexDigest (sha256 text))
    (h : toolBindings.Reach (fun _ _ => True) s) (hloaded : s.versions.Loaded agentVersion)
    (hread : getBoundToolDescriptors registry workspaceOf s agentVersion workspace = .ok tools) :
    NamesReach sha256 s agentVersion.pk tools := by
  have hoffers := offers_of_read h hloaded hread
  constructor
  · intro tool _
    unfold ToolDescriptor.providerName
    rw [String.length_ofList, String.toList_ofList]
    exact openaiToolName_accepted hdigest tool.key
  · intro name
    rw [← hoffers.executable, toolKeyOf_offered]
  · exact fun tool htool => toolKeyOf_own hdigest hoffers.ordered htool
  · intro t ht name hfound
    rcases hoffers.later t ht _ hfound with hoffered | ⟨d, hd, hkey, hinactive⟩
    · exact .inl (toolKeyOf_offered.mp hoffered)
    · rcases toolKeyOf_cases sha256 tools name with
        ⟨before, tool, after, rfl, hname, -⟩ | ⟨-, hself⟩
      · exact .inl ⟨tool, List.mem_append_right _ List.mem_cons_self, .inl hname.symm⟩
      · exact .inr ⟨d, hd, hkey.trans hself, hinactive⟩

/-- The digests of the two keys. -/
def lookupDigest (text : String) : List Char :=
  if text = "crm.lookup" then
    "f398d2a214b8f492bc02661bc827f8c9f56f1d9f358e3594eb54caf5803b7791".toList
  else "f532bacaa5885a5ace62ffcba2463e4c4ddeba96d4e40c40de890eb4e0b3973c".toList

theorem hexDigest_of_all {digest : List Char} (hlength : digest.length = 64)
    (hall : digest.all "0123456789abcdef".toList.contains = true) : HexDigest digest :=
  ⟨hlength, fun c hc => List.contains_iff_mem.mp (List.all_eq_true.mp hall c hc)⟩

theorem lookupDigest_hex (text : String) : HexDigest (lookupDigest text) := by
  unfold lookupDigest
  split
  · exact hexDigest_of_all (by decide) (by decide)
  · exact hexDigest_of_all (by decide) (by decide)

theorem names_reach_published :
    ∃ tools, getBoundToolDescriptors lookupRegistry id
        (toolBindingsEnd (fun _ _ => True) publishedLookup) publishedVersion 0 = .ok tools ∧
      NamesReach lookupDigest (toolBindingsEnd (fun _ _ => True) publishedLookup) 0 tools ∧
      toolKeyOf lookupDigest tools "crm_lookup_f398d2a2" = "crm.lookup" ∧
      toolKeyOf lookupDigest tools "crm_lookup_f532baca" = "crm_lookup" := by
  have hread : getBoundToolDescriptors lookupRegistry id
      (toolBindingsEnd (fun _ _ => True) publishedLookup) publishedVersion 0 =
        .ok [lookupSpec.descriptor, legacySpec.descriptor] := rfl
  exact ⟨_, hread, names_reach lookupDigest_hex (reaches_toolBindingsEnd _ publishedLookup)
    (by decide) hread, by decide, by decide⟩

end Names

end SupportPilot.Bindings
