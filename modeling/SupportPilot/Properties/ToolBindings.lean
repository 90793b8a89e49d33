import SupportPilot.Tools.Bindings

/-!
# The tools of a published version

A binding is written after a check on a version object, while publication locks the version's row.
If every write finds the version still in draft, the bindings of a published version are frozen.
-/

namespace SupportPilot.Bindings

open Library

variable {s s' : Store} {l : BindingCall} {k v : Nat} {b : ToolBinding}

/-- The bindings of a version. -/
def Bound (s : Store) (v k : Nat) (b : ToolBinding) : Prop :=
  s.bindings[k]? = some b ∧ b.agentVersion = v

def Published (s : Store) (v : Nat) : Prop :=
  ∃ version, s.versions.rows[v]? = some version ∧ version.status ≠ .draft

/-- The version whose bindings a call writes. -/
def BindingCall.version : BindingCall → Option Nat
  | .createToolBinding agentVersion .. => some agentVersion.pk
  | .setToolBindingEnabled _ agentVersion _ => some agentVersion.pk
  | .createAgentVersion _ | .publishAgentVersion .. | .syncOne .. => none

/-- A binding is written only while its version is still a draft. -/
def Guarded (s : Store) (l : BindingCall) : Prop :=
  l.version.all (fun v => (s.versions.rows[v]?).any (·.status = .draft)) = true

instance (s : Store) (l : BindingCall) : Decidable (Guarded s l) := by
  unfold Guarded
  infer_instance

/-! ## What a call does -/

def SameKey (d d' : ToolDefinition) : Prop := d'.key = d.key

theorem SameKey.refl (d : ToolDefinition) : SameKey d d := rfl

/-- What a step does to the versions, the catalogue and the bindings. -/
structure BindingChange (l : BindingCall) (s s' : Store) : Prop where
  versions : Rows (fun v v' => v.status ≠ .draft → v'.status ≠ .draft) s.versions.rows
    s'.versions.rows
  definitions : Rows SameKey s.definitions.rows s'.definitions.rows
  bindings : s'.bindings = s.bindings ∨ ∃ v, l.version = some v ∧
    ∀ w, w ≠ v → ∀ k b, Bound s' w k b ↔ Bound s w k b

theorem BindingChange.of_bindings {bindings : List ToolBinding} (hv : l.version = some v)
    (h : ∀ w, w ≠ v → ∀ k b, (bindings[k]? = some b ∧ b.agentVersion = w) ↔ Bound s w k b) :
    BindingChange l s { s with bindings := bindings } :=
  ⟨.refl (fun _ h => h) _, .refl SameKey.refl _, .inr ⟨v, hv, h⟩⟩

/-- A binding of one version is added. -/
theorem bound_append (s : Store) (new : ToolBinding) {w : Nat} (hw : w ≠ new.agentVersion)
    (k : Nat) (b : ToolBinding) :
    ((s.bindings ++ [new])[k]? = some b ∧ b.agentVersion = w) ↔ Bound s w k b := by
  constructor
  · rintro ⟨hb, rfl⟩
    have hcases : AllRows (fun k b => s.bindings[k]? = some b ∨ b = new) (s.bindings ++ [new]) :=
      AllRows.append (fun _ _ h => .inl h) (.inr rfl)
    rcases hcases k b hb with hold | rfl
    · exact ⟨hold, rfl⟩
    · exact absurd rfl hw
  · rintro ⟨hb, hversion⟩
    exact ⟨getElem?_append_some hb _, hversion⟩

/-- A binding of one version is enabled or disabled. -/
theorem bound_modify {j : Nat} {row : ToolBinding} (enabled : Bool) (hj : s.bindings[j]? = some row)
    {w : Nat} (hw : w ≠ row.agentVersion) (k : Nat) (b : ToolBinding) :
    ((s.bindings.modify j fun b => { b with enabled := enabled })[k]? = some b ∧
      b.agentVersion = w) ↔ Bound s w k b := by
  by_cases hjk : j = k
  · subst hjk
    rw [modify_eq_set hj, List.getElem?_set_self (List.getElem?_eq_some_iff.mp hj).1]
    constructor
    · rintro ⟨hb, hversion⟩
      cases hb
      exact absurd hversion (Ne.symm hw)
    · rintro ⟨hb, hversion⟩
      rw [hj] at hb
      cases hb
      exact absurd hversion (Ne.symm hw)
  · rw [List.getElem?_modify_ne _ _ hjk]
    exact Iff.rfl

theorem syncOne_rows (s : Store) (key : String) (enabled : Bool) :
    Rows SameKey s.definitions.rows
      (s.syncOne key enabled).definitions.rows := by
  unfold Store.syncOne
  split
  · rw [Versioned.rows_update]
    refine .modify SameKey.refl (fun d => ?_) _ _
    exact rfl
  · exact .append SameKey.refl _ _

theorem step_change (h : toolBindings.step l s = some s') : BindingChange l s s' := by
  have hstep : bindingStep l s = some s' := h
  unfold bindingStep at hstep
  split at hstep
  · cases hstep
    exact ⟨.append (fun _ h => h) _ _, .refl SameKey.refl _, .inl rfl⟩
  · obtain ⟨locked, hlocked, hout⟩ := Option.bind_eq_some_iff.mp hstep
    split at hout
    · cases hout
    · cases hout
      refine ⟨.modify (fun _ h => h) (fun _ _ => ?_) _ _, .refl SameKey.refl _, .inl rfl⟩
      nofun
  · cases hstep
    refine ⟨?_, syncOne_rows s _ _, ?_⟩
    · unfold Store.syncOne
      split <;> exact .refl (fun _ h => h) _
    · unfold Store.syncOne
      split <;> exact .inl rfl
  · split at hstep
    · unfold Store.createToolBinding at hstep
      split at hstep
      · cases hstep
      · split at hstep
        · cases hstep
        · split at hstep
          · cases hstep
          · cases hstep
            exact .of_bindings rfl fun w hw k b => bound_append s _ hw k b
    · cases hstep
  · split at hstep
    · rename_i hcarries
      unfold Store.setToolBindingEnabled at hstep
      split at hstep
      · cases hstep
      · cases hstep
        refine .of_bindings rfl fun w hw k b => ?_
        obtain ⟨row, hrow, hversion⟩ := (Option.any_eq_true _ _).mp hcarries.2
        exact bound_modify _ hrow (by rwa [of_decide_eq_true hversion]) k b
    · cases hstep

/-! ## Frozen bindings -/

theorem Published.kept (h : Published s v) (hchange : BindingChange l s s') : Published s' v := by
  obtain ⟨version, hversion, hstatus⟩ := h
  obtain ⟨version', hversion', hkept⟩ := hchange.versions v version hversion
  exact ⟨version', hversion', hkept hstatus⟩

theorem Published.bound_iff (h : Published s v) (hp : Guarded s l) (hchange : BindingChange l s s')
    (k : Nat) (b : ToolBinding) : Bound s' v k b ↔ Bound s v k b := by
  rcases hchange.bindings with hsame | ⟨w, hw, hothers⟩
  · rw [Bound, Bound, hsame]
  · refine hothers v ?_ k b
    rintro rfl
    obtain ⟨version, hversion, hstatus⟩ := h
    unfold Guarded at hp
    rw [hw, Option.all_some, hversion, Option.any_some] at hp
    exact hstatus (of_decide_eq_true hp)

/-- Bindings name definitions of the catalogue. -/
def Catalogued (s : Store) : Prop :=
  ∀ b ∈ s.bindings, b.toolDefinition < s.definitions.rows.length

theorem Catalogued.step (hs : Catalogued s) (h : toolBindings.step l s = some s') :
    Catalogued s' := by
  have hlength := (step_change h).definitions.length_le
  have hkept : s'.bindings = s.bindings → Catalogued s' := by
    intro hsame b hb
    rw [hsame] at hb
    exact Nat.lt_of_lt_of_le (hs b hb) hlength
  have hstep : bindingStep l s = some s' := h
  unfold bindingStep at hstep
  split at hstep
  · cases hstep
    exact hkept rfl
  · obtain ⟨locked, hlocked, hout⟩ := Option.bind_eq_some_iff.mp hstep
    split at hout
    · cases hout
    · cases hout
      exact hkept rfl
  · cases hstep
    apply hkept
    unfold Store.syncOne
    split <;> rfl
  · split at hstep
    · rename_i hloaded
      unfold Store.createToolBinding at hstep
      split at hstep
      · cases hstep
      · split at hstep
        · cases hstep
        · split at hstep
          · cases hstep
          · cases hstep
            intro b hb
            rcases List.mem_append.mp hb with hold | hnew
            · exact hs b hold
            · rw [List.mem_singleton.mp hnew]
              exact s.definitions.bound _ hloaded.2
    · cases hstep
  · split at hstep
    · unfold Store.setToolBindingEnabled at hstep
      split at hstep
      · cases hstep
      · cases hstep
        intro b hb
        obtain ⟨k, hk⟩ := List.mem_iff_getElem?.mp hb
        rw [List.getElem?_modify] at hk
        obtain ⟨row, hrow, rfl⟩ := Option.map_eq_some_iff.mp hk
        have hbound := hs row (List.mem_of_getElem? hrow)
        split
        · exact hbound
        · exact hbound
    · cases hstep

theorem catalogued {permits : Store → BindingCall → Prop} (h : toolBindings.Reach permits s) :
    Catalogued s := by
  refine h.invariant ?_ fun _ _ _ _ hs _ hstep => hs.step hstep
  rintro t rfl b hb
  cases hb

/-! ## Main result -/

/-- A run of the version can use the tool: it is bound, and enabled. -/
def Usable (s : Store) (v : Nat) (key : String) (b : ToolBinding) : Prop :=
  (∃ k, Bound s v k b) ∧ b.enabled = true ∧
    ∃ d, s.definitions.rows[b.toolDefinition]? = some d ∧ d.key = key

/-- Whatever follows, a published version has the bindings that it has, and no run of it finds
another tool than those. -/
def BindingsFrozen (permits : Store → BindingCall → Prop) (s : Store) : Prop :=
  ∀ s', (toolBindings.startedAt s).Reach permits s' → ∀ v, Published s v →
    (∀ k b, Bound s' v k b ↔ Bound s v k b) ∧
      ∀ key b, s'.resolveEnabledBinding v key = some b → Usable s v key b

theorem usable_of_resolved {key : String} (h : s.resolveEnabledBinding v key = some b) :
    Usable s v key b := by
  have hfound := List.find?_some h
  simp only [Bool.and_eq_true, decide_eq_true_eq] at hfound
  obtain ⟨k, hk⟩ := List.mem_iff_getElem?.mp (List.mem_of_find?_eq_some h)
  obtain ⟨d, hd, hkey⟩ := (Option.any_eq_true _ _).mp hfound.2
  simp only [Bool.and_eq_true, decide_eq_true_eq] at hkey
  exact ⟨⟨k, hk, hfound.1.1⟩, hfound.1.2, d, hd, hkey.1⟩

/-- What later states have for a published version, an earlier state had already. -/
structure Frozen (s : Store) (v : Nat) (t : Store) : Prop where
  published : Published t v
  bound : ∀ k b, Bound t v k b ↔ Bound s v k b
  definitions : Rows SameKey s.definitions.rows t.definitions.rows

theorem Frozen.step {t t' : Store} (ht : Frozen s v t) (hp : Guarded t l)
    (h : toolBindings.step l t = some t') : Frozen s v t' := by
  have hchange := step_change h
  refine ⟨ht.published.kept hchange, fun k b => ?_, fun i d hd => ?_⟩
  · exact (ht.published.bound_iff hp hchange k b).trans (ht.bound k b)
  · obtain ⟨d', hd', hkey⟩ := ht.definitions i d hd
    obtain ⟨d'', hd'', hkey'⟩ := hchange.definitions i d' hd'
    exact ⟨d'', hd'', hkey'.trans hkey⟩

theorem Frozen.usable {t : Store} {key : String} (ht : Frozen s v t) (hs : Catalogued s)
    (h : Usable t v key b) : Usable s v key b := by
  obtain ⟨⟨k, hk⟩, henabled, d', hd', hkey⟩ := h
  have hbound := (ht.bound k b).mp hk
  have hlt := hs b (List.mem_of_getElem? hbound.1)
  obtain ⟨d'', hd'', hsame⟩ := ht.definitions _ _ (List.getElem?_eq_getElem hlt)
  rw [hd'] at hd''
  cases hd''
  exact ⟨⟨k, hbound⟩, henabled, _, List.getElem?_eq_getElem hlt, hsame.symm.trans hkey⟩

/-- When bindings are written only while their version is a draft, a published version keeps the
bindings that it was published with. -/
theorem bindings_frozen (h : toolBindings.Reach Guarded s) : BindingsFrozen Guarded s := by
  intro s' h' v hv
  have hfrozen : Frozen s v s' := by
    refine System.Reach.continued (I := fun t => Frozen s v t) h' ?_
      fun t l t' ht hp hstep => ht.step hp hstep
    exact ⟨hv, fun _ _ => Iff.rfl, .refl SameKey.refl _⟩
  exact ⟨hfrozen.bound, fun key b hb => hfrozen.usable (catalogued h) (usable_of_resolved hb)⟩

def toolBindingsEnd (permits : Store → BindingCall → Prop) [∀ s l, Decidable (permits s l)]
    (calls : List BindingCall) : Store :=
  toolBindings.replayEnd permits calls .empty

theorem reaches_toolBindingsEnd (permits : Store → BindingCall → Prop)
    [∀ s l, Decidable (permits s l)] (calls : List BindingCall) :
    toolBindings.Reach permits (toolBindingsEnd permits calls) :=
  System.reach_replayEnd (.init rfl) calls

def draftVersion : Object AgentVersion := ⟨0, { agentDefinition := 0, version := 1 }⟩

def lookupTool : Object ToolDefinition := ⟨0, ⟨"crm.lookup", true⟩⟩

/-- A tool is bound and disabled, and the version is published. -/
def publishedDisabled : List BindingCall :=
  [.createAgentVersion 0, .syncOne "crm.lookup" true, .createToolBinding draftVersion lookupTool "",
    .setToolBindingEnabled 0 draftVersion false, .publishAgentVersion 0 1]

theorem bindings_frozen_disabled :
    BindingsFrozen Guarded (toolBindingsEnd Guarded publishedDisabled) ∧
      (toolBindingsEnd Guarded publishedDisabled).versions.rows.map (·.status) = [.published] ∧
      (toolBindingsEnd Guarded publishedDisabled).bindings.map (·.enabled) = [false] :=
  ⟨bindings_frozen (reaches_toolBindingsEnd Guarded publishedDisabled), by decide, by decide⟩

/-- The tool is enabled after the publication, through the draft that its object carries, and runs
of the published version then find it. -/
theorem bindings_changed :
    ¬ ∀ s, toolBindings.Reach (fun _ _ => True) s → BindingsFrozen (fun _ _ => True) s := by
  intro hlaw
  let t := toolBindingsEnd (fun _ _ => True) publishedDisabled
  have henabled : (toolBindings.step (.setToolBindingEnabled 0 draftVersion true) t).map
      (fun t' => (t.versions.rows.map (·.status), t.bindings.map (·.enabled),
        t'.bindings.map (·.enabled))) = some ([.published], [false], [true]) := by decide
  obtain ⟨t', ht', hfields⟩ := Option.map_eq_some_iff.mp henabled
  simp only [Prod.mk.injEq] at hfields
  obtain ⟨hstatus, hbefore, hafter⟩ := hfields
  obtain ⟨version, hversion, hpublished⟩ := List.map_eq_singleton_iff.mp hstatus
  obtain ⟨b, hb, hdisabled⟩ := List.map_eq_singleton_iff.mp hbefore
  obtain ⟨b', hb', henabled'⟩ := List.map_eq_singleton_iff.mp hafter
  have hlater : (toolBindings.startedAt t).Reach (fun _ _ => True) t' :=
    .step (l := .setToolBindingEnabled 0 draftVersion true) (.init rfl) trivial ht'
  have hversion0 : Published t 0 := by
    refine ⟨version, by rw [hversion]; rfl, ?_⟩
    rw [hpublished]
    nofun
  have hfrozen := (hlaw t (reaches_toolBindingsEnd _ publishedDisabled) t' hlater 0 hversion0).1 0 b
  have hbound : Bound t 0 0 b := by
    refine ⟨by rw [hb]; rfl, ?_⟩
    have hversions : t.bindings.map (·.agentVersion) = [0] := by decide
    rw [hb] at hversions
    exact List.head_eq_of_cons_eq hversions
  have hsame := (hfrozen.mpr hbound).1
  rw [hb'] at hsame
  cases hsame
  rw [hdisabled] at henabled'
  cases henabled'

end SupportPilot.Bindings
