import SupportPilot.Frontend.AuthProvider
import SupportPilot.Library.Table

/-!
# Whose outcome the authentication state is

A bootstrap commits only under the latest request number, which every login and logout takes
forward, so that its state is never older than they are. The token store, the session-expired
handler and the marker have no such fence: what they do is right exactly if no stale refresh and no
stale logout retry fails.
-/

namespace SupportPilot.Frontend

open Library

variable {s s' : Provider} {l : AuthEvent}

/-! ## What is asked of a step -/

/-- The author has started after the latest completed login or logout, or is the latest. -/
def Provider.Current (s : Provider) : Prop :=
  match s.author with
  | .completed number => number = s.completed
  | .bootstrap since => since = s.completed
  | .refresh since => since = s.completed

/-- The start of the operation that a step ends or continues, if it is a bootstrap or a refresh. -/
def Provider.startedAt (s : Provider) : AuthEvent → Option Nat
  | .refreshSucceeded _ | .refreshFailed _ => s.refreshInFlight
  | .retrySettled i _ | .meSucceeded i _ | .meFailed i _ | .afterRefresh i =>
    (s.bootstraps[i]?).map (·.since)
  | .login .. | .startLogout | .logoutSettled .. | .protectedCall | .startBootstrap => none

/-- The operation was in flight when a login succeeded. -/
def Provider.Overtaken (s : Provider) (l : AuthEvent) : Prop :=
  ∃ since, s.startedAt l = some since ∧ since < s.lastLogin

/-- The failure that the step ends a check of the session with. -/
def Provider.failure (s : Provider) : AuthEvent → Option ApiError
  | .refreshFailed error => some error
  | .meFailed _ error => some error
  | .afterRefresh i => (s.bootstraps[i]?).bind fun b =>
    match b.phase with
    | .refreshed error => error
    | _ => none
  | _ => none

/-- What is asked of a step. -/
structure Respects (s : Provider) (l : AuthEvent) (s' : Provider) : Prop where
  current : s'.Current
  token : s.Overtaken l → s.accessToken.isSome → s'.accessToken.isSome
  authenticated : s.Overtaken l → s.state.status = .authenticated →
    s'.state.status = .authenticated
  marker : s.Overtaken l → s.logoutPending = false → s'.logoutPending = false
  uncertain : ∀ error, s.failure l = some error → error.uncertain = true →
    s'.state.status = .unauthenticated → s.state.status = .unauthenticated

/-- No stale failure: a refresh fails while the user is authenticated only if it has started after
the latest login and logout, and while there is an access token only if it has started after the
latest login; and a logout retry fails only if its bootstrap has started after the latest login, or
if the marker is set anyway. -/
def Fenced (s : Provider) : AuthEvent → Prop
  | .refreshFailed _ => ∀ since ∈ s.refreshInFlight,
      (s.state.status = .authenticated → since = s.completed) ∧
        (s.accessToken.isSome → s.lastLogin ≤ since)
  | .retrySettled i false => ∀ b ∈ s.bootstraps[i]?,
      s.lastLogin ≤ b.since ∨ s.logoutPending = true
  | _ => True

instance (s : Provider) (l : AuthEvent) : Decidable (Fenced s l) :=
  match l with
  | .refreshFailed _ => inferInstanceAs (Decidable (∀ since ∈ s.refreshInFlight,
      (s.state.status = .authenticated → since = s.completed) ∧
        (s.accessToken.isSome → s.lastLogin ≤ since)))
  | .retrySettled i false => inferInstanceAs (Decidable (∀ b ∈ s.bootstraps[i]?,
      s.lastLogin ≤ b.since ∨ s.logoutPending = true))
  | .retrySettled _ true | .login .. | .startLogout | .logoutSettled .. | .protectedCall
  | .refreshSucceeded _ | .startBootstrap | .meSucceeded .. | .meFailed .. | .afterRefresh _ =>
    isTrue trivial

/-! ## Numbers of requests and operations -/

/-- The latest request number belongs to a bootstrap since the latest login and logout, and no
operation has started in the future. -/
structure Provider.Numbered (s : Provider) : Prop where
  bootstraps : AllRows (fun _ b => b.id ≤ s.requestId ∧ b.since ≤ s.completed ∧
    (b.id = s.requestId → b.since = s.completed)) s.bootstraps
  lastLogin : s.lastLogin ≤ s.completed
  current : s.Current

theorem Provider.Numbered.ensure (hs : s.Numbered) : s.ensureFreshAccessToken.Numbered := by
  unfold Provider.ensureFreshAccessToken
  split
  · exact hs
  · exact ⟨hs.bootstraps, hs.lastLogin, hs.current⟩

theorem Provider.ensureFreshAccessToken_eq (s : Provider) :
    s.ensureFreshAccessToken =
      { s with refreshInFlight := s.ensureFreshAccessToken.refreshInFlight } := by
  unfold Provider.ensureFreshAccessToken
  split <;> rfl

/-- A login or logout completes: every bootstrap of before is stale. -/
theorem Provider.Numbered.completed (hs : s.Numbered) (hrequest : s'.requestId = s.requestId + 1)
    (hcompleted : s'.completed = s.completed + 1) (hbootstraps : s'.bootstraps = s.bootstraps)
    (hlastLogin : s'.lastLogin ≤ s'.completed) (hauthor : s'.author = .completed s'.completed) :
    s'.Numbered where
  bootstraps := by
    rw [hbootstraps]
    refine hs.bootstraps.imp fun i b _ hb => ?_
    rw [hrequest, hcompleted]
    refine ⟨by omega, by omega, fun hid => ?_⟩
    omega
  lastLogin := hlastLogin
  current := by
    unfold Provider.Current
    rw [hauthor]

/-! ## Bootstraps -/

/-- A bootstrap goes to another phase, and commits at most under the latest request number. -/
inductive Moves (s : Provider) (i : Nat) (b : Bootstrap) : Provider → Prop
  | quiet (phase : BootstrapPhase) : Moves s i b (s.setPhase i b phase)
  | committed (phase : BootstrapPhase) (state : AuthState) : b.id = s.requestId →
      Moves s i b ((s.setPhase i b phase).commit (.bootstrap b.since) state)

theorem Moves.numbered {i : Nat} {b : Bootstrap} (h : Moves s i b s') (hs : s.Numbered)
    (hb : s.bootstraps[i]? = some b) : s'.Numbered := by
  have hrow := hs.bootstraps i b hb
  cases h with
  | quiet phase => exact ⟨hs.bootstraps.set hrow, hs.lastLogin, hs.current⟩
  | committed phase state hid => exact ⟨hs.bootstraps.set hrow, hs.lastLogin, hrow.2.2 hid⟩

/-- A bootstrap that a login has overtaken commits nothing. -/
theorem Moves.overtaken {i : Nat} {b : Bootstrap} (h : Moves s i b s') (hs : s.Numbered)
    (hb : s.bootstraps[i]? = some b) (hlt : b.since < s.lastLogin) : s'.state = s.state := by
  cases h with
  | quiet phase => rfl
  | committed phase state hid =>
    have hsince := (hs.bootstraps i b hb).2.2 hid
    have hlast := hs.lastLogin
    omega

theorem Moves.store {i : Nat} {b : Bootstrap} (h : Moves s i b s') :
    s'.accessToken = s.accessToken ∧ s'.logoutPending = s.logoutPending := by
  cases h <;> exact ⟨rfl, rfl⟩

theorem bootstrapFailed_moves (s : Provider) (i : Nat) (b : Bootstrap) (error : ApiError) :
    Moves s i b (s.bootstrapFailed i b error) := by
  unfold Provider.bootstrapFailed
  split
  · exact .quiet .ended
  · rename_i hid
    split
    · exact .committed .ended _ (not_not.mp hid)
    · exact .committed .ended _ (not_not.mp hid)

theorem bootstrapFailed_uncertain {i : Nat} {b : Bootstrap} {error : ApiError}
    (herror : error.uncertain = true)
    (h : (s.bootstrapFailed i b error).state.status = .unauthenticated) :
    s.state.status = .unauthenticated := by
  simp only [Provider.bootstrapFailed, herror, if_true] at h
  split at h
  · exact h
  · cases h

theorem Provider.meSucceeded_some {i user : Nat} (h : s.meSucceeded i user = some s') :
    ∃ b, s.bootstraps[i]? = some b ∧ Moves s i b s' := by
  obtain ⟨b, hb, h⟩ := Option.bind_eq_some_iff.mp h
  refine ⟨b, hb, ?_⟩
  split at h
  · split at h
    · rename_i hid
      cases h
      exact .committed .ended _ hid
    · cases h
      exact .quiet .ended
  · cases h

theorem Provider.meFailed_some {i : Nat} {error : ApiError} (h : s.meFailed i error = some s') :
    ∃ b, s.bootstraps[i]? = some b ∧
      (s' = s.ensureFreshAccessToken.setPhase i b .refreshing ∨
        s' = s.bootstrapFailed i b error) := by
  obtain ⟨b, hb, h⟩ := Option.bind_eq_some_iff.mp h
  refine ⟨b, hb, ?_⟩
  split at h
  · split at h
    · exact .inl (Option.some.inj h).symm
    · exact .inr (Option.some.inj h).symm
  · exact .inr (Option.some.inj h).symm
  · cases h

theorem Provider.afterRefresh_some {i : Nat} (h : s.afterRefresh i = some s') :
    ∃ b, s.bootstraps[i]? = some b ∧
      (s' = s.setPhase i b .rechecking ∨ ∃ error, s.failure (.afterRefresh i) = some error ∧
        s' = s.bootstrapFailed i b error) := by
  obtain ⟨b, hb, h⟩ := Option.bind_eq_some_iff.mp h
  refine ⟨b, hb, ?_⟩
  split at h
  · exact .inl (Option.some.inj h).symm
  · rename_i error hphase
    refine .inr ⟨error, ?_, (Option.some.inj h).symm⟩
    show (s.bootstraps[i]?).bind _ = _
    rw [hb]
    simp only [Option.bind_some, hphase]
  · cases h

/-- The marker is written by the retry, whether its bootstrap is stale or not. -/
theorem Provider.retrySettled_some {i : Nat} {confirmed : Bool}
    (h : s.retrySettled i confirmed = some s') :
    ∃ b, s.bootstraps[i]? = some b ∧ Moves { s with logoutPending := !confirmed } i b s' := by
  obtain ⟨b, hb, h⟩ := Option.bind_eq_some_iff.mp h
  refine ⟨b, hb, ?_⟩
  simp only at h
  split at h
  · split at h
    · cases h
      exact .quiet .ended
    · rename_i hid
      split at h
      · cases h
        exact .quiet .checking
      · cases h
        exact .committed .ended _ (not_not.mp hid)
  · cases h

/-! ## Refreshes -/

theorem Provider.Numbered.resume (hs : s.Numbered) (error : Option ApiError) :
    (s.resume error).Numbered where
  bootstraps := by
    refine .map fun i b hb => ?_
    split
    · exact hs.bootstraps i b hb
    · exact hs.bootstraps i b hb
  lastLogin := hs.lastLogin
  current := hs.current

/-- The handler does nothing, or takes the state of an authenticated user down under a new request
number. -/
theorem sessionExpired_cases (s : Provider) (since : Nat) (error : ApiError) :
    s.state.status ≠ .authenticated ∧ s.sessionExpired since error = s ∨
      s.state.status = .authenticated ∧ ∃ state : AuthState,
        s.sessionExpired since error =
          ({ s with requestId := s.requestId + 1 } : Provider).commit (.refresh since) state ∧
        state.status ≠ .authenticated ∧
        (error.uncertain = true → state.status ≠ .unauthenticated) := by
  unfold Provider.sessionExpired
  by_cases hstatus : s.state.status = .authenticated
  · refine .inr ⟨hstatus, ?_⟩
    simp only [hstatus, ne_eq, not_true_eq_false, if_false]
    split
    · exact ⟨_, rfl, nofun, fun _ => nofun⟩
    · rename_i hcertain
      exact ⟨_, rfl, nofun, fun huncertain => absurd huncertain hcertain⟩
  · exact .inl ⟨hstatus, if_pos hstatus⟩

theorem Provider.refreshFailed_some {error : ApiError} (h : s.refreshFailed error = some s') :
    ∃ since, s.refreshInFlight = some since ∧
      s' = { (s.resume (some error)).sessionExpired since error with accessToken := none } := by
  obtain ⟨since, hsince, rfl⟩ := Option.map_eq_some_iff.mp h
  exact ⟨since, hsince, rfl⟩

theorem Provider.Numbered.refreshFailed {error : ApiError} (hs : s.Numbered)
    (hfenced : Fenced s (.refreshFailed error)) (h : s.refreshFailed error = some s') :
    s'.Numbered := by
  obtain ⟨since, hsince, rfl⟩ := Provider.refreshFailed_some h
  have hresumed := hs.resume (some error)
  rcases sessionExpired_cases (s.resume (some error)) since error with
    ⟨-, heq⟩ | ⟨hstatus, state, heq, -⟩
  · rw [heq]
    exact ⟨hresumed.bootstraps, hresumed.lastLogin, hresumed.current⟩
  · rw [heq]
    refine ⟨?_, hresumed.lastLogin, (hfenced since hsince).1 hstatus⟩
    refine hresumed.bootstraps.imp fun i b _ hb => ⟨Nat.le_succ_of_le hb.1, hb.2.1, fun hid => ?_⟩
    have hle := hb.1
    have hnext : b.id = (s.resume (some error)).requestId + 1 := hid
    omega

/-- The number of a new bootstrap is the latest. -/
theorem Provider.Numbered.startBootstrap (hs : s.Numbered) : s.startBootstrap.Numbered where
  bootstraps := by
    have hold : AllRows (fun _ b => b.id ≤ s.requestId + 1 ∧ b.since ≤ s.completed ∧
        (b.id = s.requestId + 1 → b.since = s.completed)) s.bootstraps := by
      refine hs.bootstraps.imp fun i b _ hb => ⟨Nat.le_succ_of_le hb.1, hb.2.1, fun hid => ?_⟩
      have hle := hb.1
      omega
    exact hold.append ⟨Nat.le_refl _, Nat.le_refl _, fun _ => rfl⟩
  lastLogin := hs.lastLogin
  current := rfl

theorem numbered_step (hs : s.Numbered) (hfenced : Fenced s l) (h : authStep l s = some s') :
    s'.Numbered := by
  cases l with
  | login =>
    cases h
    exact hs.completed rfl rfl rfl (Nat.le_refl _) rfl
  | startLogout =>
    cases h
    exact ⟨hs.bootstraps, hs.lastLogin, hs.current⟩
  | logoutSettled =>
    simp only [authStep, Provider.logoutSettled] at h
    split at h
    · cases h
      exact hs.completed rfl rfl rfl (Nat.le_succ_of_le hs.lastLogin) rfl
    · cases h
  | protectedCall =>
    cases h
    exact hs.ensure
  | refreshSucceeded =>
    obtain ⟨since, -, rfl⟩ := Option.map_eq_some_iff.mp h
    have hresumed := hs.resume none
    exact ⟨hresumed.bootstraps, hresumed.lastLogin, hresumed.current⟩
  | refreshFailed => exact hs.refreshFailed hfenced h
  | startBootstrap =>
    cases h
    exact hs.startBootstrap
  | retrySettled =>
    obtain ⟨b, hb, hmoves⟩ := Provider.retrySettled_some h
    exact hmoves.numbered ⟨hs.bootstraps, hs.lastLogin, hs.current⟩ hb
  | meSucceeded =>
    obtain ⟨b, hb, hmoves⟩ := Provider.meSucceeded_some h
    exact hmoves.numbered hs hb
  | meFailed i error =>
    obtain ⟨b, hb, rfl | rfl⟩ := Provider.meFailed_some h
    · have hensured := hs.ensure
      have hrow : s.ensureFreshAccessToken.bootstraps[i]? = some b := by
        rw [s.ensureFreshAccessToken_eq]
        exact hb
      exact (Moves.quiet .refreshing).numbered hensured hrow
    · exact (bootstrapFailed_moves s i b error).numbered hs hb
  | afterRefresh i =>
    obtain ⟨b, hb, rfl | ⟨error, -, rfl⟩⟩ := Provider.afterRefresh_some h
    · exact (Moves.quiet .rechecking).numbered hs hb
    · exact (bootstrapFailed_moves s i b error).numbered hs hb

theorem numbered_reach (h : providers.Reach Fenced s) : s.Numbered := by
  refine h.invariant (I := Provider.Numbered) ?_
    fun _ _ _ _ hs hfenced hstep => numbered_step hs hfenced hstep
  intro s hinit
  have hnew : s = { logoutPending := s.logoutPending } := hinit
  rw [hnew]
  exact ⟨(fun i b hb => by cases hb), Nat.le_refl _, rfl⟩

/-! ## What stale operations do -/

theorem Respects.fresh (hcurrent : s'.Current) (hstart : s.startedAt l = none)
    (hfailure : s.failure l = none) : Respects s l s' where
  current := hcurrent
  token hover := by
    obtain ⟨since, hsince, -⟩ := hover
    rw [hstart] at hsince
    cases hsince
  authenticated hover := by
    obtain ⟨since, hsince, -⟩ := hover
    rw [hstart] at hsince
    cases hsince
  marker hover := by
    obtain ⟨since, hsince, -⟩ := hover
    rw [hstart] at hsince
    cases hsince
  uncertain error herror := by
    rw [hfailure] at herror
    cases herror

theorem Provider.Overtaken.since {i : Nat} {b : Bootstrap} (h : s.Overtaken l)
    (hstart : s.startedAt l = (s.bootstraps[i]?).map (·.since)) (hb : s.bootstraps[i]? = some b) :
    b.since < s.lastLogin := by
  obtain ⟨since, hsince, hlt⟩ := h
  rw [hstart, hb] at hsince
  cases hsince
  exact hlt

/-- A bootstrap keeps the store, and commits nothing once a login has overtaken it. -/
theorem Moves.respects {i : Nat} {b : Bootstrap} (h : Moves s i b s') (hs : s.Numbered)
    (hb : s.bootstraps[i]? = some b) (hstart : s.startedAt l = (s.bootstraps[i]?).map (·.since))
    (huncertain : ∀ error, s.failure l = some error → error.uncertain = true →
      s'.state.status = .unauthenticated → s.state.status = .unauthenticated) :
    Respects s l s' where
  current := (h.numbered hs hb).current
  token _ htoken := by
    rw [h.store.1]
    exact htoken
  authenticated hover hstatus := by
    rw [h.overtaken hs hb (hover.since hstart hb)]
    exact hstatus
  marker _ hmarker := by
    rw [h.store.2]
    exact hmarker
  uncertain := huncertain

theorem respects_meFailed {i : Nat} {error : ApiError} (hs : s.Numbered)
    (h : s.meFailed i error = some s') : Respects s (.meFailed i error) s' := by
  obtain ⟨b, hb, rfl | rfl⟩ := Provider.meFailed_some h
  · have hnumbered := numbered_step (l := .meFailed i error) hs trivial h
    rw [s.ensureFreshAccessToken_eq] at hnumbered ⊢
    exact ⟨hnumbered.current, fun _ htoken => htoken, fun _ hstatus => hstatus,
      fun _ hmarker => hmarker, fun _ _ _ hstatus => hstatus⟩
  · refine (bootstrapFailed_moves s i b error).respects hs hb rfl fun found hfound huncertain => ?_
    cases hfound
    exact bootstrapFailed_uncertain huncertain

theorem respects_afterRefresh {i : Nat} (hs : s.Numbered) (h : s.afterRefresh i = some s') :
    Respects s (.afterRefresh i) s' := by
  obtain ⟨b, hb, rfl | ⟨error, herror, rfl⟩⟩ := Provider.afterRefresh_some h
  · exact (Moves.quiet .rechecking).respects hs hb rfl fun _ _ _ hstatus => hstatus
  · refine (bootstrapFailed_moves s i b error).respects hs hb rfl fun found hfound huncertain => ?_
    rw [herror] at hfound
    cases hfound
    exact bootstrapFailed_uncertain huncertain

theorem respects_retrySettled {i : Nat} {confirmed : Bool} (hs : s.Numbered)
    (hfenced : Fenced s (.retrySettled i confirmed)) (h : s.retrySettled i confirmed = some s') :
    Respects s (.retrySettled i confirmed) s' := by
  obtain ⟨b, hb, hmoves⟩ := Provider.retrySettled_some h
  have hmarked : ({ s with logoutPending := !confirmed } : Provider).Numbered :=
    ⟨hs.bootstraps, hs.lastLogin, hs.current⟩
  constructor
  · exact (hmoves.numbered hmarked hb).current
  · intro _ htoken
    rw [hmoves.store.1]
    exact htoken
  · intro hover hstatus
    rw [hmoves.overtaken hmarked hb (hover.since rfl hb)]
    exact hstatus
  · intro hover hmarker
    have hlt := hover.since rfl hb
    rw [hmoves.store.2]
    cases confirmed with
    | true => rfl
    | false =>
      rcases hfenced b hb with hle | hset
      · omega
      · rw [hmarker] at hset
        cases hset
  · intro error herror
    cases herror

theorem respects_refreshFailed {error : ApiError} (hs : s.Numbered)
    (hfenced : Fenced s (.refreshFailed error)) (h : s.refreshFailed error = some s') :
    Respects s (.refreshFailed error) s' := by
  have hnumbered := hs.refreshFailed hfenced h
  obtain ⟨since, hsince, rfl⟩ := Provider.refreshFailed_some h
  have hover : s.Overtaken (.refreshFailed error) → since < s.lastLogin := by
    rintro ⟨found, hfound, hlt⟩
    have hfound : s.refreshInFlight = some found := hfound
    rw [hsince] at hfound
    cases hfound
    exact hlt
  obtain ⟨hstatus, htoken⟩ := hfenced since hsince
  have hlast := hs.lastLogin
  refine ⟨hnumbered.current, fun hstale hsome => ?_, fun hstale hauthenticated => ?_, ?_, ?_⟩
  · have hlt := hover hstale
    have hle := htoken hsome
    omega
  · have hlt := hover hstale
    have heq := hstatus hauthenticated
    omega
  · intro _ hmarker
    rcases sessionExpired_cases (s.resume (some error)) since error with
      ⟨-, heq⟩ | ⟨-, state, heq, -⟩
    · rw [heq]
      exact hmarker
    · rw [heq]
      exact hmarker
  · intro found hfound huncertain hunauthenticated
    cases hfound
    rcases sessionExpired_cases (s.resume (some error)) since error with
      ⟨-, heq⟩ | ⟨-, state, heq, -, hcertain⟩
    · rw [heq] at hunauthenticated
      exact hunauthenticated
    · rw [heq] at hunauthenticated
      exact absurd hunauthenticated (hcertain huncertain)

theorem respects_of_fenced (hs : s.Numbered) (hfenced : Fenced s l)
    (h : authStep l s = some s') : Respects s l s' := by
  have hcurrent := (numbered_step hs hfenced h).current
  cases l with
  | login | startLogout | logoutSettled | protectedCall | startBootstrap =>
    exact .fresh hcurrent rfl rfl
  | refreshSucceeded =>
    obtain ⟨since, -, rfl⟩ := Option.map_eq_some_iff.mp h
    exact ⟨hcurrent, fun _ _ => rfl, fun _ hstatus => hstatus, fun _ hmarker => hmarker, nofun⟩
  | refreshFailed => exact respects_refreshFailed hs hfenced h
  | retrySettled => exact respects_retrySettled hs hfenced h
  | meSucceeded =>
    obtain ⟨b, hb, hmoves⟩ := Provider.meSucceeded_some h
    exact hmoves.respects hs hb rfl nofun
  | meFailed => exact respects_meFailed hs h
  | afterRefresh => exact respects_afterRefresh hs h

/-- A stale failure is seen in its step. -/
theorem fenced_of_respects (h : authStep l s = some s') (hr : Respects s l s') : Fenced s l := by
  cases l with
  | refreshFailed error =>
    intro since hsince
    obtain ⟨found, hfound, rfl⟩ := Provider.refreshFailed_some h
    rw [hsince] at hfound
    cases hfound
    constructor
    · intro hstatus
      rcases sessionExpired_cases (s.resume (some error)) since error with
        ⟨hnot, -⟩ | ⟨-, state, heq, -⟩
      · exact absurd hstatus hnot
      · have hcurrent := hr.current
        rw [heq] at hcurrent
        exact hcurrent
    · intro htoken
      by_contra hlt
      have hover : s.Overtaken (.refreshFailed error) := ⟨since, hsince, by omega⟩
      exact absurd (hr.token hover htoken) nofun
  | retrySettled i confirmed =>
    cases confirmed with
    | true => trivial
    | false =>
      intro b hb
      obtain ⟨found, hfound, hmoves⟩ := Provider.retrySettled_some h
      rw [hb] at hfound
      cases hfound
      by_cases hle : s.lastLogin ≤ b.since
      · exact .inl hle
      · have hover : s.Overtaken (.retrySettled i false) := by
          refine ⟨b.since, ?_, by omega⟩
          show (s.bootstraps[i]?).map _ = _
          rw [hb]
          rfl
        cases hmarker : s.logoutPending with
        | true => exact .inr rfl
        | false =>
          have hkept := hr.marker hover hmarker
          rw [hmoves.store.2] at hkept
          cases hkept
  | login | startLogout | logoutSettled | protectedCall | refreshSucceeded | startBootstrap
  | meSucceeded | meFailed | afterRefresh => trivial

/-- In every run without stale failures the committed state is that of the latest completed login
or logout, or of a bootstrap or refresh that has started after it; and a step does what is asked of
it exactly if it is no stale failure either. -/
theorem auth_outcomes (h : providers.Reach Fenced s) :
    s.Current ∧ ∀ l s', providers.step l s = some s' → (Respects s l s' ↔ Fenced s l) := by
  have hs := numbered_reach h
  refine ⟨hs.current, fun l s' hstep => ?_⟩
  constructor
  · exact fenced_of_respects hstep
  · exact fun hfenced => respects_of_fenced hs hfenced hstep

def mountedProvider : Provider := {}

def networkError : ApiError := ⟨.networkError, none⟩

/-- The user signs in, a protected call finds the access token expired, the user signs out and in
again, and the refresh is still in flight. -/
def overtakenRefresh : List AuthEvent :=
  [.startBootstrap, .meFailed 0 ⟨.authenticationFailed, some 401⟩,
    .refreshFailed ⟨.authenticationFailed, some 401⟩, .afterRefresh 0, .login 7 1, .protectedCall,
    .startLogout, .logoutSettled 0 true, .login 7 2]

def authAfter (permits : Provider → AuthEvent → Prop) [∀ s l, Decidable (permits s l)]
    (events : List AuthEvent) : Provider :=
  providers.replayEnd permits events mountedProvider

theorem reach_authAfter (permits : Provider → AuthEvent → Prop) [∀ s l, Decidable (permits s l)]
    (events : List AuthEvent) : providers.Reach permits (authAfter permits events) := by
  have hinit : providers.initial mountedProvider := rfl
  exact System.reach_replayEnd (.init hinit) events

/-- The refresh of the first session may still succeed, and the state stays that of the second
login. -/
theorem auth_outcomes_overtaken :
    (authAfter Fenced overtakenRefresh).state.status = .authenticated ∧
      (authAfter Fenced overtakenRefresh).Current ∧
      ∀ l s', providers.step l (authAfter Fenced overtakenRefresh) = some s' →
        (Respects (authAfter Fenced overtakenRefresh) l s' ↔
          Fenced (authAfter Fenced overtakenRefresh) l) := by
  refine ⟨by decide, ?_⟩
  exact auth_outcomes (reach_authAfter Fenced overtakenRefresh)

/-- The refresh fails: the access token of the second login is gone, and its state with it. -/
theorem auth_not_always_current :
    ¬ ∀ (s s' : Provider) (l : AuthEvent), providers.Reach (fun _ _ => True) s →
      providers.step l s = some s' → Respects s l s' := by
  intro hall
  have hstep : providers.step (.refreshFailed networkError)
      (authAfter (fun _ _ => True) overtakenRefresh) =
        some (authAfter (fun _ _ => True) (overtakenRefresh ++ [.refreshFailed networkError])) := by
    decide
  have hr := hall _ _ _ (reach_authAfter (fun _ _ => True) overtakenRefresh) hstep
  have hcurrent : (1 : Nat) = 3 := hr.current
  cases hcurrent

end SupportPilot.Frontend
