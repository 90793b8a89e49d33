import SupportPilot.Integrations.Services

/-!
# The controls of a connection

A rotation saves the status and the version of its object, and a health recording decides on the
status of its object. While these fit the row, a disabled connection stays disabled until it is
enabled, a call with other credentials never marks it invalid, and versions increase.
-/

namespace SupportPilot.Integrations

open Library

variable {s s' : IntegrationState} {l : IntegrationCall} {k : Nat} {c : IntegrationConnection}
  {permits : IntegrationState → IntegrationCall → Prop}

/-! ## What a call writes -/

/-- What the call saves in a row, as a function of the row. -/
inductive Write (s : IntegrationState) :
    IntegrationCall → Nat → (IntegrationConnection → IntegrationConnection) → Prop
  | configure {connection : ConnectionObject} {displayName configuration : Option String} :
      Write s (.configure connection displayName configuration) connection.pk fun row =>
        { row with
          displayName := displayName.getD row.displayName
          configuration := configuration.getD row.configuration }
  | rotate {connection : ConnectionObject} {newCiphertext : String} :
      Write s (.rotate connection newCiphertext) connection.pk fun row =>
        { row with
          encryptedCredentials := newCiphertext
          credentialVersion := connection.value.credentialVersion + 1
          lastErrorCode := ""
          status :=
            if connection.value.status = .invalidCredentials then .active
            else connection.value.status }
  | setEnabled {connection : ConnectionObject} {enabled : Bool} :
      Write s (.setEnabled connection enabled) connection.pk fun row =>
        { row with status := if enabled then .active else .disabled }
  | record {i : Nat} {call : ProviderCall} {error : Option IntegrationError} {now : Nat} :
      s.calls[i]? = some call →
      Write s (.record i error now) call.connection.pk fun row =>
        { row with
          lastCheckedAt := some now
          lastSuccessAt := if error.isNone then some now else row.lastSuccessAt
          lastErrorCode := error.elim "" IntegrationError.code
          status := (healthStatus call.connection.value.status error).getD row.status }

/-- A call inserts a row, writes one, or leaves the table alone. -/
inductive TableChange (s : IntegrationState) : IntegrationCall → ConnectionTable → Prop
  | created {displayName ciphertext configuration : String} :
      TableChange s (.create displayName ciphertext configuration)
        (createConnection s.connections displayName ciphertext configuration)
  | written {l : IntegrationCall} {k : Nat} {f : IntegrationConnection → IntegrationConnection} :
      Write s l k f → TableChange s l (s.connections.update k f)
  | same {l : IntegrationCall} : TableChange s l s.connections

theorem step_table (h : integrations.step l s = some s') : TableChange s l s'.connections := by
  have hstep : integrationStep l s = some s' := h
  unfold integrationStep at hstep
  split at hstep
  · cases l with
    | create displayName ciphertext configuration =>
      cases hstep
      exact .created
    | configure connection displayName configuration =>
      cases hstep
      exact .written .configure
    | rotate connection newCiphertext =>
      cases hstep
      exact .written .rotate
    | setEnabled connection enabled =>
      cases hstep
      exact .written .setEnabled
    | start k =>
      simp only [IntegrationCall.run] at hstep
      split at hstep
      · cases hstep
      · cases hstep
        exact .same
    | test connection =>
      simp only [IntegrationCall.run] at hstep
      split at hstep
      · cases hstep
        exact .same
      · cases hstep
    | record i error now =>
      simp only [IntegrationCall.run] at hstep
      split at hstep
      · cases hstep
      · rename_i call hcall
        split at hstep
        · cases hstep
        · cases hstep
          exact .written (.record hcall)
  · cases hstep

/-! ## Objects that fit the row -/

/-- The object of a rotation has the version of the row, and says disabled if the row does. A
recording that writes a status does not write it over a disabled row, and one that marks the
credentials as invalid holds an object with the version of the row. -/
def Current (s : IntegrationState) : IntegrationCall → Bool
  | .rotate connection _ =>
    (s.connections.rows[connection.pk]?).all fun row =>
      row.credentialVersion = connection.value.credentialVersion &&
        (row.status ≠ .disabled || connection.value.status = .disabled)
  | .record i error _ =>
    (s.calls[i]?).all fun call =>
      (s.connections.rows[call.connection.pk]?).all fun row =>
        (healthStatus call.connection.value.status error).all fun status =>
          row.status ≠ .disabled &&
            (status ≠ .invalidCredentials ||
              row.credentialVersion = call.connection.value.credentialVersion)
  | _ => true

/-- The call enables this connection. -/
def IntegrationCall.enables (k : Nat) : IntegrationCall → Bool
  | .setEnabled connection true => connection.pk = k
  | _ => false

/-- What a current call does to the status and the version of a row. -/
structure Keeps (l : IntegrationCall) (k : Nat) (c c' : IntegrationConnection) : Prop where
  disabled : c.status = .disabled → l.enables k = false → c'.status = .disabled
  version : c.credentialVersion < c'.credentialVersion ∨
    c'.credentialVersion = c.credentialVersion ∧ c'.encryptedCredentials = c.encryptedCredentials

theorem Keeps.refl (l : IntegrationCall) (k : Nat) (c : IntegrationConnection) : Keeps l k c c :=
  ⟨fun h _ => h, .inr ⟨rfl, rfl⟩⟩

theorem Keeps.le {c' : IntegrationConnection} (h : Keeps l k c c') :
    c.credentialVersion ≤ c'.credentialVersion := by
  have hversion := h.version
  omega

theorem Write.keeps {f : IntegrationConnection → IntegrationConnection} (h : Write s l k f)
    (hp : Current s l = true) (hc : s.connections.rows[k]? = some c) : Keeps l k c (f c) := by
  cases h with
  | configure => exact ⟨fun h _ => h, .inr ⟨rfl, rfl⟩⟩
  | @rotate connection newCiphertext =>
    simp only [Current, hc, Option.all_some, Bool.and_eq_true, Bool.or_eq_true,
      decide_eq_true_eq] at hp
    obtain ⟨hversion, hstatus⟩ := hp
    constructor
    · intro hdisabled _
      have hobject := hstatus.resolve_left fun hne => hne hdisabled
      show (if connection.value.status = .invalidCredentials then _ else _) = _
      rw [hobject]
      rfl
    · left
      show c.credentialVersion < connection.value.credentialVersion + 1
      omega
  | @setEnabled connection enabled =>
    refine ⟨fun _ hno => ?_, .inr ⟨rfl, rfl⟩⟩
    cases enabled with
    | true =>
      have hyes : (IntegrationCall.setEnabled connection true).enables connection.pk = true :=
        decide_eq_true rfl
      rw [hyes] at hno
      cases hno
    | false => rfl
  | @record i call error now hcall =>
    refine ⟨fun hdisabled _ => ?_, .inr ⟨rfl, rfl⟩⟩
    show (healthStatus call.connection.value.status error).getD c.status = _
    cases hstatus : healthStatus call.connection.value.status error with
    | none => exact hdisabled
    | some status =>
      simp [Current, hcall, hc, hstatus, hdisabled] at hp

theorem step_keeps (h : integrations.step l s = some s') (hp : Current s l = true)
    (hc : s.connections.rows[k]? = some c) :
    ∃ c', s'.connections.rows[k]? = some c' ∧ Keeps l k c c' := by
  have hchange := step_table h
  generalize s'.connections = t at hchange ⊢
  cases hchange with
  | created =>
    exact ⟨c, getElem?_append_some hc _, .refl _ _ _⟩
  | @written _ j f hwrite =>
    by_cases hjk : j = k
    · subst hjk
      exact ⟨f c, by simp [hc], hwrite.keeps hp hc⟩
    · exact ⟨c, by simp [hjk, hc], .refl _ _ _⟩
  | same => exact ⟨c, hc, .refl _ _ _⟩

/-! ## A disabled connection -/

/-- The row is there and disabled. -/
def DisabledRow (k : Nat) (s : IntegrationState) : Prop :=
  ∃ c, s.connections.rows[k]? = some c ∧ c.status = .disabled

theorem DisabledRow.step (hs : DisabledRow k s) (hp : Current s l = true)
    (hno : l.enables k = false) (h : integrations.step l s = some s') : DisabledRow k s' := by
  obtain ⟨c, hc, hdisabled⟩ := hs
  obtain ⟨c', hc', hkeeps⟩ := step_keeps h hp hc
  exact ⟨c', hc', hkeeps.disabled hdisabled hno⟩

/-- No call passes `_require_usable_connection` while the row is disabled. -/
theorem DisabledRow.refused (hs : DisabledRow k s) :
    requireUsableConnection s.connections k = .error .disabled := by
  obtain ⟨c, hc, hdisabled⟩ := hs
  unfold requireUsableConnection
  rw [hc]
  exact if_pos hdisabled

/-- Whatever is called after a disable, but for an enable, leaves the connection disabled. -/
def StaysDisabled (permits : IntegrationState → IntegrationCall → Prop)
    (s : IntegrationState) : Prop :=
  ∀ (k : Nat) (s' : IntegrationState), DisabledRow k s →
    (integrations.startedAt s).Reach (fun t l => permits t l ∧ l.enables k = false) s' →
      DisabledRow k s' ∧ requireUsableConnection s'.connections k = .error .disabled

theorem staysDisabled (s : IntegrationState) :
    StaysDisabled (fun t l => Current t l = true) s := by
  intro k s' hs hrun
  have hs' : DisabledRow k s' :=
    hrun.continued (I := fun t => DisabledRow k t) hs
      fun t l t' ht hp hstep => ht.step hp.1 hp.2 hstep
  exact ⟨hs', hs'.refused⟩

/-! ## Versions -/

/-- A version of a connection stands for one ciphertext, and the row has the latest. -/
structure Versions (s : IntegrationState) : Prop where
  newest : s.connections.Newest (·.credentialVersion)
  tagged : s.connections.Tagged (·.credentialVersion) (·.encryptedCredentials)
  held : ∀ call ∈ s.calls, s.connections.Loaded call.connection

theorem requireUsable_loaded {t : ConnectionTable} {connection : ConnectionObject}
    (h : requireUsableConnection t k = .ok connection) : t.Loaded connection := by
  unfold requireUsableConnection at h
  split at h
  · cases h
  · rename_i c hc
    split_ifs at h
    cases h
    exact t.current k c hc

/-- The objects of the calls after a step were loaded before it. -/
theorem step_held (hs : ∀ call ∈ s.calls, s.connections.Loaded call.connection)
    (h : integrations.step l s = some s') :
    ∀ call ∈ s'.calls, s.connections.Loaded call.connection := by
  have hstep : integrationStep l s = some s' := h
  unfold integrationStep at hstep
  split at hstep
  · rename_i hloaded
    cases l with
    | create | configure | rotate | setEnabled =>
      cases hstep
      exact hs
    | start k =>
      simp only [IntegrationCall.run] at hstep
      split at hstep
      · cases hstep
      · rename_i connection husable
        cases hstep
        refine List.forall_mem_append.mpr ⟨hs, fun call hcall => ?_⟩
        rw [List.mem_singleton.mp hcall]
        exact requireUsable_loaded husable
    | test connection =>
      simp only [IntegrationCall.run] at hstep
      split at hstep
      · cases hstep
        refine List.forall_mem_append.mpr ⟨hs, fun call hcall => ?_⟩
        rw [List.mem_singleton.mp hcall]
        exact hloaded connection rfl
      · cases hstep
    | record i error now =>
      simp only [IntegrationCall.run] at hstep
      split at hstep
      · cases hstep
      · rename_i held hheld
        split at hstep
        · cases hstep
        · cases hstep
          intro call hcall
          rcases List.mem_or_eq_of_mem_set hcall with hold | rfl
          · exact hs call hold
          · exact hs held (List.mem_of_getElem? hheld)
  · cases hstep

theorem TableChange.loaded {t : ConnectionTable} {connection : ConnectionObject}
    (h : TableChange s l t) (hloaded : s.connections.Loaded connection) : t.Loaded connection := by
  cases h with
  | created => exact List.mem_cons_of_mem _ hloaded
  | written => exact List.mem_append_right _ hloaded
  | same => exact hloaded

theorem Versions.step (hs : Versions s) (hp : Current s l = true)
    (h : integrations.step l s = some s') : Versions s' := by
  have hheld := step_held hs.held h
  have hchange := step_table h
  have hafter : ∀ call ∈ s'.calls, s'.connections.Loaded call.connection :=
    fun call hcall => hchange.loaded (hheld call hcall)
  obtain ⟨hnewest, htagged⟩ : s'.connections.Newest (·.credentialVersion) ∧
      s'.connections.Tagged (·.credentialVersion) (·.encryptedCredentials) := by
    generalize s'.connections = t at hchange ⊢
    cases hchange with
    | created => exact ⟨hs.newest.insert, hs.tagged.insert⟩
    | written hwrite =>
      have hkeeps := fun c hc => hwrite.keeps (c := c) hp hc
      exact ⟨hs.newest.update fun c hc => (hkeeps c hc).le,
        hs.tagged.update hs.newest fun c hc => (hkeeps c hc).version⟩
    | same => exact ⟨hs.newest, hs.tagged⟩
  exact ⟨hnewest, htagged, hafter⟩

/-- In a run whose calls hold current objects, a version stands for one ciphertext. -/
theorem versions (h : integrations.Reach (fun s l => Current s l = true) s) : Versions s := by
  refine System.Reach.invariant (I := Versions) ?_ ?_ h
  · rintro s rfl
    exact ⟨.empty _, .empty _ _, List.forall_mem_nil _⟩
  · exact fun s l s' _ hs hp hstep => hs.step hp hstep

/-- A rotation gives the connection a version that it has never had. -/
def VersionIncreases (permits : IntegrationState → IntegrationCall → Prop)
    (s : IntegrationState) : Prop :=
  ∀ (connection : ConnectionObject) (newCiphertext : String) (s' : IntegrationState),
    permits s (.rotate connection newCiphertext) →
    integrations.step (.rotate connection newCiphertext) s = some s' →
    ∃ c', s'.connections.rows[connection.pk]? = some c' ∧
      ∀ older ∈ s.connections.past, older.pk = connection.pk →
        older.value.credentialVersion < c'.credentialVersion

theorem versionIncreases (hs : Versions s) :
    VersionIncreases (fun t l => Current t l = true) s := by
  intro connection newCiphertext s' hp h
  have hstep : integrationStep (.rotate connection newCiphertext) s = some s' := h
  unfold integrationStep at hstep
  split at hstep
  · rename_i hloaded
    cases hstep
    have hbound := s.connections.bound _ (hloaded connection rfl)
    obtain ⟨c, hc⟩ : ∃ c, s.connections.rows[connection.pk]? = some c :=
      ⟨_, List.getElem?_eq_getElem hbound⟩
    have hversion :
        ((rotateCredentials s.connections connection newCiphertext).rows[connection.pk]?).map
          (·.credentialVersion) = some (connection.value.credentialVersion + 1) := by
      simp [rotateCredentials, hc]
    obtain ⟨c', hc', hnew⟩ := Option.map_eq_some_iff.mp hversion
    refine ⟨c', hc', fun older hmem hpk => ?_⟩
    have hold : older.value.credentialVersion ≤ c.credentialVersion :=
      hs.newest older hmem c (hpk ▸ hc)
    simp only [Current, hc, Option.all_some, Bool.and_eq_true, decide_eq_true_eq] at hp
    have hcurrent := hp.1
    omega
  · cases hstep

/-! ## Rotated credentials -/

/-- A call whose credentials are no longer those of the row does not mark them as invalid. -/
def SparesRotated (permits : IntegrationState → IntegrationCall → Prop)
    (s : IntegrationState) : Prop :=
  ∀ (i : Nat) (call : ProviderCall) (error : Option IntegrationError) (now : Nat)
    (c : IntegrationConnection), permits s (.record i error now) → s.calls[i]? = some call →
      s.connections.rows[call.connection.pk]? = some c →
      c.encryptedCredentials ≠ call.connection.value.encryptedCredentials →
      healthStatus call.connection.value.status error ≠ some .invalidCredentials

theorem sparesRotated (hs : Versions s) :
    SparesRotated (fun t l => Current t l = true) s := by
  intro i call error now c hp hcall hc hother hmarks
  simp only [Current, hcall, hc, hmarks, Option.all_some, Bool.and_eq_true, Bool.or_eq_true,
    decide_eq_true_eq, ne_eq, not_true_eq_false, false_or] at hp
  have hloaded := hs.held call (List.mem_of_getElem? hcall)
  exact hother (hs.tagged _ hloaded c hc hp.2.symm).symm

/-! ## Main result -/

/-- The kill switch holds, rotated credentials are spared, and versions increase. -/
structure Controlled (permits : IntegrationState → IntegrationCall → Prop)
    (s : IntegrationState) : Prop where
  disabled : StaysDisabled permits s
  rotated : SparesRotated permits s
  version : VersionIncreases permits s

/-- In every run whose rotations and health recordings hold objects that fit the row, a disabled
connection stays disabled until it is enabled, other credentials never mark it as invalid, and
every rotation has a version of its own. -/
theorem connection_controls (h : integrations.Reach (fun s l => Current s l = true) s) :
    Controlled (fun s l => Current s l = true) s :=
  ⟨staysDisabled s, sparesRotated (versions h), versionIncreases (versions h)⟩

def integrationsEnd (permits : IntegrationState → IntegrationCall → Prop)
    [∀ s l, Decidable (permits s l)] (calls : List IntegrationCall) : IntegrationState :=
  integrations.replayEnd permits calls ⟨.empty, []⟩

theorem reaches_integrationsEnd (permits : IntegrationState → IntegrationCall → Prop)
    [∀ s l, Decidable (permits s l)] (calls : List IntegrationCall) :
    integrations.Reach permits (integrationsEnd permits calls) :=
  System.reach_replayEnd (.init rfl) calls

def stripe : IntegrationConnection :=
  { displayName := "Stripe", status := .active, encryptedCredentials := "c1",
    credentialVersion := 1 }

def created : IntegrationCall := .create "Stripe" "c1" stripe.configuration

/-- A call is under way while the credentials are rotated, and then succeeds; the connection is
disabled. -/
def rotatedDuringCall : List IntegrationCall :=
  [created, .start 0, .rotate ⟨0, stripe⟩ "c2", .record 0 none 5,
    .setEnabled ⟨0, stripe⟩ false]

theorem connection_controls_rotated :
    let s := integrationsEnd (fun s l => Current s l = true) rotatedDuringCall
    s.connections.rows.map (fun c => (c.status, c.credentialVersion)) = [(.disabled, 2)] ∧
      Controlled (fun s l => Current s l = true) s :=
  ⟨by decide, connection_controls (reaches_integrationsEnd _ _)⟩

/-- A rotation with an object from before enables a disabled connection, a call that was under way
marks the new credentials as invalid, and two rotations of one object have one version. -/
theorem connection_not_always_controlled :
    (¬ ∀ s, integrations.Reach (fun _ _ => True) s → StaysDisabled (fun _ _ => True) s) ∧
    (¬ ∀ s, integrations.Reach (fun _ _ => True) s → SparesRotated (fun _ _ => True) s) ∧
    ¬ ∀ s, integrations.Reach (fun _ _ => True) s → VersionIncreases (fun _ _ => True) s := by
  refine ⟨fun hlaw => ?_, fun hlaw => ?_, fun hlaw => ?_⟩
  · let s := integrationsEnd (fun _ _ => True) [created, .setEnabled ⟨0, stripe⟩ false]
    have hdisabled : DisabledRow 0 s := ⟨{ stripe with status := .disabled }, by decide, rfl⟩
    have hactive : (integrations.step (.rotate ⟨0, stripe⟩ "c2") s).map
        (fun s' => s'.connections.rows.map (·.status)) = some [.active] := by decide
    obtain ⟨s', hstep, hstatus⟩ := Option.map_eq_some_iff.mp hactive
    have hstays := hlaw s (reaches_integrationsEnd _ _) 0 s' hdisabled
      (.step (l := .rotate ⟨0, stripe⟩ "c2") (.init rfl) ⟨trivial, rfl⟩ hstep)
    obtain ⟨c, hc, hstill⟩ := hstays.1
    obtain ⟨c', hrows, hactive⟩ := List.map_eq_singleton_iff.mp hstatus
    rw [hrows] at hc
    cases hc
    rw [hactive] at hstill
    cases hstill
  · let s := integrationsEnd (fun _ _ => True) [created, .start 0, .rotate ⟨0, stripe⟩ "c2"]
    have hspares := hlaw s (reaches_integrationsEnd _ _) 0 ⟨⟨0, stripe⟩, false⟩
      (some .authenticationFailed) 5
      { stripe with encryptedCredentials := "c2", credentialVersion := 2 } trivial
      (by decide) (by decide) (by decide)
    exact hspares rfl
  · let s := integrationsEnd (fun _ _ => True) [created, .rotate ⟨0, stripe⟩ "c2"]
    have hversion : (integrations.step (.rotate ⟨0, stripe⟩ "c3") s).map
        (fun s' => s'.connections.rows.map (·.credentialVersion)) = some [2] := by decide
    obtain ⟨s', hstep, hrows⟩ := Option.map_eq_some_iff.mp hversion
    obtain ⟨c, hc, hnewer⟩ := hlaw s (reaches_integrationsEnd _ _) _ _ s' trivial hstep
    have hlt := hnewer ⟨0, { stripe with encryptedCredentials := "c2", credentialVersion := 2 }⟩
      (by decide) rfl
    obtain ⟨c', hrow, htwo⟩ := List.map_eq_singleton_iff.mp hrows
    rw [hrow] at hc
    cases hc
    rw [htwo] at hlt
    exact absurd hlt (by decide)

end SupportPilot.Integrations
