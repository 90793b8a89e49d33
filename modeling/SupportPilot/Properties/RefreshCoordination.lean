import Mathlib.Data.List.Perm.Subperm
import SupportPilot.Frontend.RefreshCoordinator

/-!
# One refresh for all calls

While the callback of an attempt has not returned, the document holds its promise, so that there
is one refresh request at most, and a call that waits for an attempt has joined it before it
succeeded. An attempt whose lock is rejected is held for ever, and nothing else is.
-/

namespace SupportPilot.Frontend

open Library

/-! ## What a step does -/

section Moves

variable {locks : Bool} {s s' : RefreshCoordinator} {l : CoordinatorEvent}

/-- The steps, with what they require. -/
inductive CoordinatorMove (locks : Bool) (s : RefreshCoordinator) :
    CoordinatorEvent → RefreshCoordinator → Prop
  | call : CoordinatorMove locks s .call { s with calls := s.calls ++ [.first] }
  | unauthorized {c : Nat} {error : ApiError} (hcall : s.calls[c]? = some .first)
      (hstatus : error.status = some 401) :
      CoordinatorMove locks s (.respond c (some error)) (s.ensureFreshAccessToken locks c)
  | answered {c : Nat} {call : ProtectedCall} {response : Option ApiError} {outcome : CallOutcome}
      (hcall : s.calls[c]? = some call) (hopen : call = .first ∨ call = .second)
      (hother : ∀ error, response = some error → error.status = some 401 → call = .second) :
      CoordinatorMove locks s (.respond c response) (s.setCall c (.ended outcome))
  | retried {c a : Nat} (hcall : s.calls[c]? = some (.awaiting a))
      (hattempt : s.attempts[a]? = some (.fulfilled .ok)) :
      CoordinatorMove locks s (.resume c) (s.setCall c .second)
  | refused {c a : Nat} {outcome : CallOutcome} (hcall : s.calls[c]? = some (.awaiting a)) :
      CoordinatorMove locks s (.resume c) (s.setCall c (.ended outcome))
  | lockGranted {a : Nat} (hattempt : s.attempts[a]? = some .queued) :
      CoordinatorMove locks s (.lockAnswer a true) (s.setAttempt a .priming)
  | lockRejected {a : Nat} (hattempt : s.attempts[a]? = some .queued) :
      CoordinatorMove locks s (.lockAnswer a false) (s.setAttempt a .rejected)
  | sent {a : Nat} (hattempt : s.attempts[a]? = some .priming) :
      CoordinatorMove locks s (.sendRefresh a) (s.setAttempt a .requesting)
  | succeeded {a token : Nat} (hattempt : s.attempts[a]? = some .requesting) :
      CoordinatorMove locks s (.refreshSucceeds a token)
        { s.setAttempt a (.returned .ok) with accessToken := some token, refreshInFlight := none }
  | failed {a : Nat} {error : ApiError} {attempt : RefreshAttempt}
      (hattempt : s.attempts[a]? = some attempt)
      (hrunning : attempt = .priming ∨ attempt = .requesting) :
      CoordinatorMove locks s (.refreshFails a error)
        { s.setAttempt a (.returned (.failed error)) with
          accessToken := none
          refreshInFlight := none
          expired := s.expired ++ [error] }
  | settled {a : Nat} {result : RefreshResult}
      (hattempt : s.attempts[a]? = some (.returned result)) :
      CoordinatorMove locks s (.settle a) (s.setAttempt a (.fulfilled result))
  | direct (event : DirectEvent) : CoordinatorMove locks s (.direct event) (s.direct event)

theorem respond_move {c : Nat} {response : Option ApiError}
    (h : s.respond locks c response = some s') :
    CoordinatorMove locks s (.respond c response) s' := by
  unfold RefreshCoordinator.respond at h
  split at h
  · obtain rfl := Option.some.inj h
    exact .answered ‹_› (.inl rfl) nofun
  · obtain rfl := Option.some.inj h
    exact .answered ‹_› (.inr rfl) nofun
  · split at h
    · obtain rfl := Option.some.inj h
      exact .unauthorized ‹_› ‹_›
    · rename_i hstatus
      obtain rfl := Option.some.inj h
      exact .answered ‹_› (.inl rfl) fun error herror h401 =>
        absurd (Option.some.inj herror ▸ h401) hstatus
  · obtain rfl := Option.some.inj h
    exact .answered ‹_› (.inr rfl) fun _ _ _ => rfl
  · cases h

theorem resume_move {c : Nat} (h : s.resume c = some s') :
    CoordinatorMove locks s (.resume c) s' := by
  unfold RefreshCoordinator.resume at h
  split at h
  · split at h
    · obtain rfl := Option.some.inj h
      exact .retried ‹_› ‹_›
    · obtain rfl := Option.some.inj h
      exact .refused ‹_›
    · obtain rfl := Option.some.inj h
      exact .refused ‹_›
    · cases h
  · cases h

theorem coordinatorStep_move (h : coordinatorStep locks l s = some s') :
    CoordinatorMove locks s l s' := by
  cases l with
  | call =>
    obtain rfl := Option.some.inj h
    exact .call
  | respond c response => exact respond_move h
  | resume c => exact resume_move h
  | lockAnswer a granted =>
    obtain ⟨hattempt, hs'⟩ := Option.ite_none_right_eq_some.mp h
    obtain rfl := Option.some.inj hs'
    cases granted with
    | true => exact .lockGranted hattempt
    | false => exact .lockRejected hattempt
  | sendRefresh a =>
    obtain ⟨hattempt, hs'⟩ := Option.ite_none_right_eq_some.mp h
    obtain rfl := Option.some.inj hs'
    exact .sent hattempt
  | refreshSucceeds a token =>
    obtain ⟨hattempt, hs'⟩ := Option.ite_none_right_eq_some.mp h
    obtain rfl := Option.some.inj hs'
    exact .succeeded hattempt
  | refreshFails a error =>
    simp only [coordinatorStep, RefreshCoordinator.refreshFails] at h
    split at h
    · obtain rfl := Option.some.inj h
      exact .failed ‹_› (.inl rfl)
    · obtain rfl := Option.some.inj h
      exact .failed ‹_› (.inr rfl)
    · cases h
  | settle a =>
    simp only [coordinatorStep, RefreshCoordinator.settle] at h
    split at h
    · obtain rfl := Option.some.inj h
      exact .settled ‹_›
    · cases h
  | direct event =>
    obtain rfl := Option.some.inj h
    exact .direct event

end Moves

/-! ## The attempt in flight -/

/-- The callback of the attempt has not returned. -/
def RefreshAttempt.live : RefreshAttempt → Bool
  | .queued | .priming | .requesting => true
  | _ => false

/-- Only an attempt whose callback has not returned or never ran is in flight, and each one whose
callback has not returned is. -/
structure Coherent (s : RefreshCoordinator) : Prop where
  inFlight : ∀ a, s.refreshInFlight = some a →
    ∃ x, s.attempts[a]? = some x ∧ (x.live = true ∨ x = .rejected)
  live : ∀ a x, s.attempts[a]? = some x → x.live = true → s.refreshInFlight = some a
  awaiting : ∀ c a : Nat, s.calls[c]? = some (.awaiting a) → a < s.attempts.length

namespace Coherent

variable {locks : Bool} {s s' : RefreshCoordinator} {l : CoordinatorEvent} {a : Nat}

theorem setCall (h : Coherent s) {c : Nat} {call : ProtectedCall}
    (hcall : ∀ b, call = .awaiting b → b < s.attempts.length) : Coherent (s.setCall c call) := by
  refine ⟨h.inFlight, h.live, fun d b hd => ?_⟩
  simp only [RefreshCoordinator.setCall, List.getElem?_set] at hd
  split at hd
  · split at hd
    · exact hcall b (Option.some.inj hd)
    · cases hd
  · exact h.awaiting d b hd

theorem getElem?_setAttempt {x : RefreshAttempt} (hx : s.attempts[a]? = some x)
    (y : RefreshAttempt) (b : Nat) :
    (s.setAttempt a y).attempts[b]? = if a = b then some y else s.attempts[b]? := by
  obtain ⟨ha, -⟩ := List.getElem?_eq_some_iff.mp hx
  rw [RefreshCoordinator.setAttempt, List.getElem?_set, if_pos ha]

/-- An attempt goes on and keeps its promise, or was rejected, or has returned before. -/
theorem setAttempt (h : Coherent s) {x y : RefreshAttempt} (hx : s.attempts[a]? = some x)
    (hkept : (x.live = true ∧ (y.live = true ∨ y = .rejected)) ∨
      (x.live = false ∧ x ≠ .rejected ∧ y.live = false)) : Coherent (s.setAttempt a y) := by
  refine ⟨fun b hb => ?_, fun b z hz hlive => ?_, fun c b hb => ?_⟩
  · rw [getElem?_setAttempt hx]
    obtain ⟨z, hz, hpending⟩ := h.inFlight b hb
    split
    · subst b
      obtain rfl := Option.some.inj (hx.symm.trans hz)
      rcases hkept with ⟨-, hy⟩ | ⟨hdead, hne, -⟩
      · exact ⟨y, rfl, hy⟩
      · rcases hpending with hlive | hrejected
        · rw [hdead] at hlive
          cases hlive
        · exact absurd hrejected hne
    · exact ⟨z, hz, hpending⟩
  · rw [getElem?_setAttempt hx] at hz
    split at hz
    · subst b
      obtain rfl := Option.some.inj hz
      rcases hkept with ⟨hx', -⟩ | ⟨-, -, hdead⟩
      · exact h.live a x hx hx'
      · rw [hdead] at hlive
        cases hlive
    · exact h.live b z hz hlive
  · exact Nat.lt_of_lt_of_eq (h.awaiting c b hb) (List.length_set ..).symm

/-- When the callback of an attempt returns, no other attempt is in flight. -/
theorem returned (h : Coherent s) {x : RefreshAttempt} (hx : s.attempts[a]? = some x)
    (hlive : x.live = true) (result : RefreshResult) (token : Option Nat)
    (expired : List ApiError) : Coherent
      { s.setAttempt a (.returned result) with
        accessToken := token
        refreshInFlight := none
        expired := expired } := by
  refine ⟨nofun, fun b z hz hz' => ?_, fun c b hb => ?_⟩
  · have hget := getElem?_setAttempt hx (.returned result) b
    rw [hget] at hz
    split at hz
    · obtain rfl := Option.some.inj hz
      cases hz'
    · rename_i hne
      exact absurd (Option.some.inj ((h.live a x hx hlive).symm.trans (h.live b z hz hz'))) hne
  · exact Nat.lt_of_lt_of_eq (h.awaiting c b hb) (List.length_set ..).symm

theorem ensureFreshAccessToken (h : Coherent s) (c : Nat) :
    Coherent (s.ensureFreshAccessToken locks c) := by
  unfold RefreshCoordinator.ensureFreshAccessToken
  split
  · rename_i a hflight
    refine h.setCall fun b hb => ?_
    obtain rfl := ProtectedCall.awaiting.inj hb
    obtain ⟨x, hx, -⟩ := h.inFlight a hflight
    exact (List.getElem?_eq_some_iff.mp hx).1
  · rename_i hnone
    have hnew : (if locks then RefreshAttempt.queued else .priming).live = true := by
      cases locks <;> rfl
    have hold : ∀ (b : Nat) (x : RefreshAttempt), s.attempts[b]? = some x → ¬ x.live = true := by
      intro b x hx hlive
      rw [h.live b x hx hlive] at hnone
      cases hnone
    refine ⟨fun b hb => ?_, fun b x hx hlive => ?_, fun d b hd => ?_⟩
    · obtain rfl := Option.some.inj hb
      exact ⟨_, List.getElem?_concat_length, .inl hnew⟩
    · have hb := (List.getElem?_eq_some_iff.mp hx).1
      rw [List.length_append, List.length_singleton] at hb
      rw [List.getElem?_append] at hx
      split at hx
      · exact absurd hlive (hold b x hx)
      · exact congrArg some (by omega)
    · rw [List.length_append, List.length_singleton]
      simp only [RefreshCoordinator.setCall, List.getElem?_set] at hd
      split at hd
      · split at hd
        · obtain rfl := ProtectedCall.awaiting.inj (Option.some.inj hd)
          exact Nat.lt_succ_self _
        · cases hd
      · exact Nat.lt_succ_of_lt (h.awaiting d b hd)

theorem step (h : Coherent s) (hmove : CoordinatorMove locks s l s') : Coherent s' := by
  cases hmove with
  | call =>
    refine ⟨h.inFlight, h.live, fun c a hc => ?_⟩
    rw [List.getElem?_append] at hc
    split at hc
    · exact h.awaiting c a hc
    · rw [List.getElem?_singleton] at hc
      split at hc <;> cases hc
  | unauthorized hcall hstatus => exact h.ensureFreshAccessToken _
  | answered hcall hopen hother => exact h.setCall nofun
  | retried hcall hattempt => exact h.setCall nofun
  | refused hcall => exact h.setCall nofun
  | lockGranted hattempt => exact h.setAttempt hattempt (.inl ⟨rfl, .inl rfl⟩)
  | lockRejected hattempt => exact h.setAttempt hattempt (.inl ⟨rfl, .inr rfl⟩)
  | sent hattempt => exact h.setAttempt hattempt (.inl ⟨rfl, .inl rfl⟩)
  | succeeded hattempt => exact h.returned hattempt rfl _ _ _
  | failed hattempt hrunning =>
    exact h.returned hattempt (by rcases hrunning with rfl | rfl <;> rfl) _ _ _
  | settled hattempt => exact h.setAttempt hattempt (.inr ⟨rfl, nofun, rfl⟩)
  | direct event => cases event <;> exact ⟨h.inFlight, h.live, h.awaiting⟩

end Coherent

/-! ## The invocations of a call -/

inductive CallNote
  | invoked (c : Nat)
  | unauthorized (c : Nat)
  | refreshed (a : Nat)
  deriving DecidableEq, Repr

abbrev CoordinatorSteps := List (RefreshCoordinator × CoordinatorEvent × RefreshCoordinator)

/-- What a step shows: `callFactory` is invoked, a protected call gets a 401, a refresh
succeeds. -/
def note (t : RefreshCoordinator) (l : CoordinatorEvent) (t' : RefreshCoordinator) :
    Option CallNote :=
  match l with
  | .call => some (.invoked t.calls.length)
  | .respond c (some error) => if error.status = some 401 then some (.unauthorized c) else none
  | .resume c => if t'.calls[c]? = some .second then some (.invoked c) else none
  | .refreshSucceeds a _ => some (.refreshed a)
  | _ => none

/-- What the steps of a run show, the latest first. -/
def callTrace : CoordinatorSteps → List CallNote
  | [] => []
  | (t, l, t') :: earlier => (note t l t').toList ++ callTrace earlier

def RefreshAttempt.succeeded : RefreshAttempt → Bool
  | .returned .ok | .fulfilled .ok => true
  | _ => false

/-- What the trace shows of a call. -/
def Tracked (s : RefreshCoordinator) (trace : List CallNote) (c : Nat) :
    Option ProtectedCall → Prop
  | none => trace.count (.invoked c) = 0
  | some .first => trace.count (.invoked c) = 1
  | some (.awaiting a) => trace.count (.invoked c) = 1 ∧
      List.Sublist [.unauthorized c, .invoked c] trace ∧
      ∀ x, s.attempts[a]? = some x → x.succeeded = true →
        List.Sublist [.refreshed a, .unauthorized c, .invoked c] trace
  | some .second | some (.ended _) => trace.count (.invoked c) ≤ 2

/-- Before a call is invoked again it was invoked, got a 401, and a refresh has succeeded, in this
order. -/
def Ordered (trace : List CallNote) : Prop :=
  ∀ c later earlier, trace = later ++ .invoked c :: earlier → .invoked c ∈ earlier →
    ∃ a, List.Sublist [.refreshed a, .unauthorized c, .invoked c] earlier

structure Traced (s : RefreshCoordinator) (trace : List CallNote) : Prop where
  calls : ∀ c, Tracked s trace c s.calls[c]?
  order : Ordered trace

section Traced

variable {locks : Bool} {s s' : RefreshCoordinator} {l : CoordinatorEvent}
  {trace : List CallNote} {c : Nat}

theorem Ordered.cons (h : Ordered trace) {n : CallNote}
    (hn : ∀ c, n = .invoked c → .invoked c ∈ trace →
      ∃ a, List.Sublist [.refreshed a, .unauthorized c, .invoked c] trace) :
    Ordered (n :: trace) := by
  intro c later earlier htrace hmem
  cases later with
  | nil =>
    obtain ⟨rfl, rfl⟩ := List.cons.inj htrace
    exact hn c rfl hmem
  | cons m later => exact h c later earlier (List.cons.inj htrace).2 hmem

/-- A call does not change while others do. -/
theorem Tracked.mono {call : Option ProtectedCall} (h : Tracked s trace c call)
    {n : Option CallNote} (hn : n ≠ some (.invoked c))
    (hattempts : ∀ (a : Nat) (x : RefreshAttempt), s'.attempts[a]? = some x →
      x.succeeded = true → (∃ y, s.attempts[a]? = some y ∧ y.succeeded = true) ∨
        n = some (.refreshed a)) : Tracked s' (n.toList ++ trace) c call := by
  have hcount : (n.toList ++ trace).count (.invoked c) = trace.count (.invoked c) := by
    cases n with
    | none => rfl
    | some m => exact List.count_cons_of_ne fun hm => hn (congrArg some hm)
  unfold Tracked at h ⊢
  split at h
  · rw [hcount]
    exact h
  · rw [hcount]
    exact h
  · rename_i a
    obtain ⟨hone, hsublist, hsucceeded⟩ := h
    refine ⟨hcount.trans hone, hsublist.trans (List.sublist_append_right _ _), fun x hx hok => ?_⟩
    rcases hattempts a x hx hok with ⟨y, hy, hyok⟩ | rfl
    · exact (hsucceeded y hy hyok).trans (List.sublist_append_right _ _)
    · exact hsublist.cons_cons _
  · rw [hcount]
    exact h
  · rw [hcount]
    exact h

/-- The attempts that succeeded had succeeded before, or the step shows it. -/
theorem succeeded_step (hmove : CoordinatorMove locks s l s') (a : Nat) (x : RefreshAttempt)
    (hx : s'.attempts[a]? = some x) (hok : x.succeeded = true) :
    (∃ y, s.attempts[a]? = some y ∧ y.succeeded = true) ∨
      note s l s' = some (.refreshed a) := by
  have hset : ∀ {b : Nat} {y z : RefreshAttempt}, s.attempts[b]? = some y →
      (s.setAttempt b z).attempts[a]? = some x → (z.succeeded = true → y.succeeded = true) →
      ∃ y, s.attempts[a]? = some y ∧ y.succeeded = true := by
    intro b y z hy hget hkept
    rw [Coherent.getElem?_setAttempt hy] at hget
    split at hget
    · subst b
      obtain rfl := Option.some.inj hget
      exact ⟨y, hy, hkept hok⟩
    · exact ⟨x, hget, hok⟩
  cases hmove with
  | call => exact .inl ⟨x, hx, hok⟩
  | unauthorized hcall hstatus =>
    unfold RefreshCoordinator.ensureFreshAccessToken at hx
    split at hx
    · exact .inl ⟨x, hx, hok⟩
    · rw [List.getElem?_append] at hx
      split at hx
      · exact .inl ⟨x, hx, hok⟩
      · rw [List.getElem?_singleton] at hx
        split at hx
        · obtain rfl := Option.some.inj hx
          cases locks <;> cases hok
        · cases hx
  | answered hcall hopen hother => exact .inl ⟨x, hx, hok⟩
  | retried hcall hattempt => exact .inl ⟨x, hx, hok⟩
  | refused hcall => exact .inl ⟨x, hx, hok⟩
  | lockGranted hattempt => exact .inl (hset hattempt hx nofun)
  | lockRejected hattempt => exact .inl (hset hattempt hx nofun)
  | sent hattempt => exact .inl (hset hattempt hx nofun)
  | succeeded hattempt =>
    have hget := Coherent.getElem?_setAttempt hattempt (.returned .ok) a
    rw [hget] at hx
    split at hx
    · subst a
      exact .inr rfl
    · exact .inl ⟨x, hx, hok⟩
  | failed hattempt hrunning => exact .inl (hset hattempt hx nofun)
  | settled hattempt =>
    rename_i b result
    refine .inl (hset hattempt hx fun hz => ?_)
    cases result with
    | ok => rfl
    | failed error => cases hz
  | direct event => cases event <;> exact .inl ⟨x, hx, hok⟩

theorem getElem?_setCall {d : Nat} {old : ProtectedCall} (hold : s.calls[d]? = some old)
    (call : ProtectedCall) (c : Nat) :
    (s.setCall d call).calls[c]? = if d = c then some call else s.calls[c]? := by
  obtain ⟨hd, -⟩ := List.getElem?_eq_some_iff.mp hold
  rw [RefreshCoordinator.setCall, List.getElem?_set, if_pos hd]

theorem Traced.mono (h : Traced s trace) (hmove : CoordinatorMove locks s l s')
    (hc : note s l s' ≠ some (.invoked c)) (hcall : s'.calls[c]? = s.calls[c]?) :
    Tracked s' ((note s l s').toList ++ trace) c s'.calls[c]? := by
  rw [hcall]
  exact (h.calls c).mono hc (succeeded_step hmove)

/-- A call that ends or is answered again has been invoked twice at most. -/
theorem Traced.ended (h : Traced s trace) {call : ProtectedCall} (hcall : s.calls[c]? = some call)
    {n : Option CallNote} (hn : n ≠ some (.invoked c)) :
    (n.toList ++ trace).count (.invoked c) ≤ 2 := by
  have hcount : (n.toList ++ trace).count (.invoked c) = trace.count (.invoked c) := by
    cases n with
    | none => rfl
    | some m => exact List.count_cons_of_ne fun hm => hn (congrArg some hm)
  have hcalls := h.calls c
  rw [hcall] at hcalls
  rw [hcount]
  cases call with
  | first => exact Nat.le_succ_of_le (Nat.le_of_eq hcalls)
  | awaiting a => exact Nat.le_succ_of_le (Nat.le_of_eq hcalls.1)
  | second => exact hcalls
  | ended outcome => exact hcalls

/-- The attempt that a call joins has not succeeded. -/
theorem joined_not_succeeded (hs : Coherent s) {d a : Nat} {x : RefreshAttempt}
    (hcall : (s.ensureFreshAccessToken locks d).calls[d]? = some (.awaiting a))
    (hx : (s.ensureFreshAccessToken locks d).attempts[a]? = some x) : x.succeeded = false := by
  have hd := (List.getElem?_eq_some_iff.mp hcall).1
  unfold RefreshCoordinator.ensureFreshAccessToken at hcall hx hd
  split at hcall
  · rename_i b hflight
    simp only [hflight] at hx hd
    rw [RefreshCoordinator.setCall, List.length_set] at hd
    rw [RefreshCoordinator.setCall, List.getElem?_set, if_pos rfl, if_pos hd] at hcall
    obtain rfl := ProtectedCall.awaiting.inj (Option.some.inj hcall)
    obtain ⟨y, hy, hpending⟩ := hs.inFlight b hflight
    obtain rfl := Option.some.inj (hy.symm.trans hx)
    rcases hpending with hlive | rfl
    · cases y <;> first | rfl | cases hlive
    · rfl
  · rename_i hflight
    simp only [hflight] at hx hd
    rw [RefreshCoordinator.setCall, List.length_set] at hd
    rw [RefreshCoordinator.setCall, List.getElem?_set, if_pos rfl, if_pos hd] at hcall
    obtain rfl := ProtectedCall.awaiting.inj (Option.some.inj hcall)
    rw [List.getElem?_concat_length] at hx
    obtain rfl := Option.some.inj hx
    cases locks <;> rfl

/-- A 401 makes the call wait, and changes no other call. -/
theorem calls_ensureFreshAccessToken (locks : Bool) {d : Nat} {old : ProtectedCall}
    (hold : s.calls[d]? = some old) : ∃ a, ∀ c : Nat,
      (s.ensureFreshAccessToken locks d).calls[c]? =
        if d = c then some (.awaiting a) else s.calls[c]? := by
  unfold RefreshCoordinator.ensureFreshAccessToken
  split
  · exact ⟨_, getElem?_setCall hold _⟩
  · exact ⟨_, getElem?_setCall hold _⟩

theorem Traced.step (hs : Coherent s) (h : Traced s trace)
    (hmove : CoordinatorMove locks s l s') : Traced s' ((note s l s').toList ++ trace) := by
  have hmono : ∀ c, note s l s' ≠ some (.invoked c) → s'.calls[c]? = s.calls[c]? →
      Tracked s' ((note s l s').toList ++ trace) c s'.calls[c]? := fun c => h.mono hmove
  cases hmove with
  | call =>
    refine ⟨fun c => ?_, h.order.cons fun c hc hmem => ?_⟩
    · by_cases hc : c = s.calls.length
      · subst hc
        have hnone := h.calls s.calls.length
        rw [List.getElem?_eq_none (Nat.le_refl _)] at hnone
        simp only [List.getElem?_concat_length]
        exact List.count_cons_self.trans (congrArg (· + 1) hnone)
      · refine hmono c (fun hn => hc (CallNote.invoked.inj (Option.some.inj hn)).symm) ?_
        rw [List.getElem?_append]
        split
        · rfl
        · rw [List.getElem?_eq_none (by simp; omega), List.getElem?_eq_none (by omega)]
    · obtain rfl := CallNote.invoked.inj hc
      have hnone := h.calls s.calls.length
      rw [List.getElem?_eq_none (Nat.le_refl _)] at hnone
      exact absurd hmem (List.count_eq_zero.mp hnone)
  | unauthorized hcall hstatus =>
    rename_i d error
    obtain ⟨a, hcalls⟩ := calls_ensureFreshAccessToken locks hcall
    have hnote : note s (.respond d (some error)) (s.ensureFreshAccessToken locks d) =
        some (.unauthorized d) := if_pos hstatus
    rw [hnote] at hmono ⊢
    refine ⟨fun c => ?_, h.order.cons nofun⟩
    by_cases hc : d = c
    · subst hc
      have hold := h.calls d
      rw [hcall] at hold
      have hmem : .invoked d ∈ trace := List.count_pos_iff.mp (by rw [hold]; exact Nat.one_pos)
      have hawaiting := hcalls d
      rw [if_pos rfl] at hawaiting
      rw [hawaiting]
      have hne : CallNote.unauthorized d ≠ .invoked d := nofun
      refine ⟨(List.count_cons_of_ne hne).trans hold,
        (List.singleton_sublist.mpr hmem).cons_cons _, fun x hx hok => ?_⟩
      rw [joined_not_succeeded hs hawaiting hx] at hok
      cases hok
    · exact hmono c nofun (by rw [hcalls c, if_neg hc])
  | answered hcall hopen hother =>
    rename_i d call response outcome
    have hnote : ∀ c, note s (.respond d response) (s.setCall d (.ended outcome)) ≠
        some (.invoked c) := by
      intro c
      cases response with
      | none => exact nofun
      | some error =>
        rw [note]
        split <;> exact nofun
    refine ⟨fun c => ?_, ?_⟩
    · by_cases hc : d = c
      · subst hc
        rw [getElem?_setCall hcall, if_pos rfl]
        exact h.ended hcall (hnote d)
      · exact hmono c (hnote c) (by rw [getElem?_setCall hcall, if_neg hc])
    · cases hn : note s (.respond d response) (s.setCall d (.ended outcome)) with
      | none => exact h.order
      | some n => exact h.order.cons fun c hc => absurd (hc ▸ hn) (hnote c)
  | retried hcall hattempt =>
    rename_i d a
    have hsecond : (s.setCall d .second).calls[d]? = some .second := by
      rw [getElem?_setCall hcall, if_pos rfl]
    have hnote : note s (.resume d) (s.setCall d .second) = some (.invoked d) := if_pos hsecond
    have hold := h.calls d
    rw [hcall] at hold
    rw [hnote] at hmono ⊢
    refine ⟨fun c => ?_, h.order.cons fun c hc _ => ?_⟩
    · by_cases hc : d = c
      · subst hc
        rw [hsecond]
        have hcount : (CallNote.invoked d :: trace).count (.invoked d) = 2 :=
          List.count_cons_self.trans (congrArg (· + 1) hold.1)
        exact Nat.le_of_eq hcount
      · refine hmono c (fun hn => hc (CallNote.invoked.inj (Option.some.inj hn))) ?_
        rw [getElem?_setCall hcall, if_neg hc]
    · obtain rfl := CallNote.invoked.inj hc
      exact ⟨a, hold.2.2 _ hattempt rfl⟩
  | refused hcall =>
    rename_i d a outcome
    have hended : (s.setCall d (.ended outcome)).calls[d]? = some (.ended outcome) := by
      rw [getElem?_setCall hcall, if_pos rfl]
    have hnote : note s (.resume d) (s.setCall d (.ended outcome)) = none :=
      if_neg (by rw [hended]; exact nofun)
    rw [hnote] at hmono ⊢
    refine ⟨fun c => ?_, h.order⟩
    by_cases hc : d = c
    · subst hc
      rw [hended]
      exact h.ended hcall nofun
    · exact hmono c nofun (by rw [getElem?_setCall hcall, if_neg hc])
  | lockGranted hattempt => exact ⟨fun c => hmono c nofun rfl, h.order⟩
  | lockRejected hattempt => exact ⟨fun c => hmono c nofun rfl, h.order⟩
  | sent hattempt => exact ⟨fun c => hmono c nofun rfl, h.order⟩
  | succeeded hattempt => exact ⟨fun c => hmono c nofun rfl, h.order.cons nofun⟩
  | failed hattempt hrunning => exact ⟨fun c => hmono c nofun rfl, h.order⟩
  | settled hattempt => exact ⟨fun c => hmono c nofun rfl, h.order⟩
  | direct event => exact ⟨fun c => hmono c nofun (by cases event <;> rfl), h.order⟩

end Traced

/-! ## Attempts that are never given up -/

/-- The attempt in flight was rejected by the lock manager. -/
def Stuck (s : RefreshCoordinator) : Prop :=
  ∃ a, s.refreshInFlight = some a ∧ s.attempts[a]? = some .rejected

/-- No settled attempt is in flight. -/
def GivenUp (s : RefreshCoordinator) : Prop :=
  ∀ (a : Nat) (x : RefreshAttempt), s.attempts[a]? = some x → x.settled = true →
    s.refreshInFlight ≠ some a

section Stuck

variable {locks : Bool} {s s' : RefreshCoordinator} {l : CoordinatorEvent}

theorem givenUp_iff (h : Coherent s) : GivenUp s ↔ ¬ Stuck s := by
  constructor
  · rintro hgiven ⟨a, hflight, hrejected⟩
    exact hgiven a .rejected hrejected rfl hflight
  · intro hstuck a x hx hsettled hflight
    obtain ⟨y, hy, hpending⟩ := h.inFlight a hflight
    obtain rfl := Option.some.inj (hx.symm.trans hy)
    rcases hpending with hlive | rfl
    · cases x <;> simp [RefreshAttempt.live, RefreshAttempt.settled] at hlive hsettled
    · exact hstuck ⟨a, hflight, hx⟩

/-- Where an attempt goes on that is not the one in flight, nothing is stuck. -/
theorem not_stuck_of_live (h : Coherent s) {a : Nat} {x : RefreshAttempt}
    (hx : s.attempts[a]? = some x) (hlive : x.live = true) : ¬ Stuck s := by
  rintro ⟨b, hflight, hrejected⟩
  obtain rfl := Option.some.inj ((h.live a x hx hlive).symm.trans hflight)
  obtain rfl := Option.some.inj (hx.symm.trans hrejected)
  cases hlive

/-- A step leaves the document stuck when it was, or when it rejects the lock. -/
theorem stuck_step (h : Coherent s) (hmove : CoordinatorMove locks s l s') :
    Stuck s' ↔ Stuck s ∨ ∃ a, l = .lockAnswer a false := by
  have hkept : ∀ {a : Nat} {x : RefreshAttempt}, s.attempts[a]? = some x → x ≠ .rejected →
      ∀ y : RefreshAttempt, y ≠ .rejected → (Stuck (s.setAttempt a y) ↔ Stuck s) := by
    intro a x hx hold y hnew
    refine exists_congr fun b => and_congr_right fun _ => ?_
    rw [Coherent.getElem?_setAttempt hx]
    split
    · subst b
      rw [hx]
      exact iff_of_false (fun heq => hnew (Option.some.inj heq))
        fun heq => hold (Option.some.inj heq)
    · rfl
  cases hmove with
  | call => exact ⟨.inl, fun hor => hor.resolve_right nofun⟩
  | unauthorized hcall hstatus =>
    rename_i c error
    have hnone : ¬ ∃ a, CoordinatorEvent.respond c (some error) = .lockAnswer a false := nofun
    rw [or_iff_left hnone]
    unfold RefreshCoordinator.ensureFreshAccessToken
    split
    · rfl
    · rename_i hflight
      refine iff_of_false ?_ ?_
      · rintro ⟨b, hb, hrejected⟩
        obtain rfl := Option.some.inj hb
        rw [List.getElem?_concat_length] at hrejected
        cases locks <;> cases hrejected
      · rintro ⟨b, hb, -⟩
        rw [hflight] at hb
        cases hb
  | answered hcall hopen hother => exact ⟨.inl, fun hor => hor.resolve_right nofun⟩
  | retried hcall hattempt => exact ⟨.inl, fun hor => hor.resolve_right nofun⟩
  | refused hcall => exact ⟨.inl, fun hor => hor.resolve_right nofun⟩
  | lockGranted hattempt =>
    rw [hkept hattempt nofun .priming nofun]
    exact ⟨.inl, fun hor => hor.resolve_right nofun⟩
  | lockRejected hattempt =>
    rename_i a
    refine iff_of_true ⟨a, h.live a _ hattempt rfl, ?_⟩ (.inr ⟨a, rfl⟩)
    rw [Coherent.getElem?_setAttempt hattempt, if_pos rfl]
  | sent hattempt =>
    rw [hkept hattempt nofun .requesting nofun]
    exact ⟨.inl, fun hor => hor.resolve_right nofun⟩
  | succeeded hattempt =>
    refine iff_of_false ?_ ?_
    · rintro ⟨b, hb, -⟩
      cases hb
    · rintro (hstuck | ⟨b, hb⟩)
      · exact not_stuck_of_live h hattempt rfl hstuck
      · cases hb
  | failed hattempt hrunning =>
    refine iff_of_false ?_ ?_
    · rintro ⟨b, hb, -⟩
      cases hb
    · rintro (hstuck | ⟨b, hb⟩)
      · exact not_stuck_of_live h hattempt (by rcases hrunning with rfl | rfl <;> rfl) hstuck
      · cases hb
  | settled hattempt =>
    rw [hkept hattempt nofun (.fulfilled _) nofun]
    exact ⟨.inl, fun hor => hor.resolve_right nofun⟩
  | direct event =>
    cases event <;> exact ⟨.inl, fun hor => hor.resolve_right nofun⟩

end Stuck

/-! ## Runs -/

/-- The refresh requests that are outstanding. -/
def RefreshCoordinator.outstanding (s : RefreshCoordinator) : List Nat :=
  (List.range s.attempts.length).filter fun a => s.attempts[a]? = some .requesting

/-- A first 401 while no attempt is in flight. -/
def StartsRefresh (t : RefreshCoordinator) (l : CoordinatorEvent) : Prop :=
  t.refreshInFlight = none ∧ ∃ c error, l = .respond c (some error) ∧
    error.status = some 401 ∧ t.calls[c]? = some .first

section Run

variable {locks : Bool} {steps : CoordinatorSteps} {s s' : RefreshCoordinator}
  {l : CoordinatorEvent}

theorem Coherent.outstanding (h : Coherent s) : s.outstanding.length ≤ 1 := by
  have hsubset : s.outstanding ⊆ s.refreshInFlight.toList := by
    intro a ha
    have hrequesting := of_decide_eq_true (List.mem_filter.mp ha).2
    rw [h.live a .requesting hrequesting rfl]
    exact List.mem_cons_self
  have hnodup : s.outstanding.Nodup := List.nodup_range.filter _
  refine Nat.le_trans (hnodup.subperm hsubset).length_le ?_
  cases s.refreshInFlight <;> simp

theorem attempts_step (hmove : CoordinatorMove locks s l s') :
    s.attempts.length < s'.attempts.length ↔ StartsRefresh s l := by
  have hset : ∀ (a : Nat) (x : RefreshAttempt),
      ¬ s.attempts.length < (s.setAttempt a x).attempts.length := fun a x => by
    rw [RefreshCoordinator.setAttempt, List.length_set]
    exact Nat.lt_irrefl _
  cases hmove with
  | unauthorized hcall hstatus =>
    unfold RefreshCoordinator.ensureFreshAccessToken
    split
    · rename_i hflight
      refine iff_of_false (Nat.lt_irrefl _) fun hstarts => ?_
      rw [hstarts.1] at hflight
      cases hflight
    · rename_i hflight
      refine iff_of_true ?_ ⟨hflight, _, _, rfl, hstatus, hcall⟩
      rw [List.length_append]
      exact Nat.lt_succ_self _
  | answered hcall hopen hother =>
    refine iff_of_false (Nat.lt_irrefl _) ?_
    rintro ⟨-, c, error, hevent, hstatus, hfirst⟩
    obtain ⟨rfl, hresponse⟩ := CoordinatorEvent.respond.inj hevent
    obtain rfl := hother error hresponse hstatus
    rw [hcall] at hfirst
    cases hfirst
  | lockGranted hattempt => exact iff_of_false (hset _ _) fun ⟨_, _, _, hevent, _⟩ => nomatch hevent
  | lockRejected hattempt =>
    exact iff_of_false (hset _ _) fun ⟨_, _, _, hevent, _⟩ => nomatch hevent
  | sent hattempt => exact iff_of_false (hset _ _) fun ⟨_, _, _, hevent, _⟩ => nomatch hevent
  | succeeded hattempt => exact iff_of_false (hset _ _) fun ⟨_, _, _, hevent, _⟩ => nomatch hevent
  | failed hattempt hrunning =>
    exact iff_of_false (hset _ _) fun ⟨_, _, _, hevent, _⟩ => nomatch hevent
  | settled hattempt => exact iff_of_false (hset _ _) fun ⟨_, _, _, hevent, _⟩ => nomatch hevent
  | direct event =>
    cases event <;>
      exact iff_of_false (Nat.lt_irrefl _) fun ⟨_, _, _, hevent, _⟩ => nomatch hevent
  | _ => exact iff_of_false (Nat.lt_irrefl _) fun ⟨_, _, _, hevent, _⟩ => nomatch hevent

theorem coherent_empty : Coherent {} := by
  refine ⟨fun a ha => ?_, fun a x hx => ?_, fun c a hc => ?_⟩
  · cases ha
  · cases hx
  · cases hc

theorem traced_empty : Traced {} (callTrace []) := by
  refine ⟨fun c => rfl, fun c later earlier htrace _ => ?_⟩
  cases later <;> cases htrace

theorem coordinator_invariant (h : (coordinator locks).Run (fun _ _ => True) steps s) :
    Coherent s ∧ Traced s (callTrace steps) ∧
      (¬ Stuck s ↔ ∀ step ∈ steps, ∀ a, step.2.1 ≠ .lockAnswer a false) ∧
      ∀ step ∈ steps, (step.1.attempts.length < step.2.2.attempts.length ↔
        StartsRefresh step.1 step.2.1) := by
  refine h.invariant (I := fun steps s => Coherent s ∧ Traced s (callTrace steps) ∧
    (¬ Stuck s ↔ ∀ step ∈ steps, ∀ a, step.2.1 ≠ .lockAnswer a false) ∧
      ∀ step ∈ steps, (step.1.attempts.length < step.2.2.attempts.length ↔
        StartsRefresh step.1 step.2.1)) ?_ ?_
  · rintro s rfl
    refine ⟨coherent_empty, traced_empty, iff_of_true ?_ fun step hstep => ?_,
      fun step hstep => ?_⟩
    · rintro ⟨a, ha, -⟩
      cases ha
    · cases hstep
    · cases hstep
  · rintro steps s l s' - ⟨hs, htraced, hstuck, hstarts⟩ - hstep
    have hmove := coordinatorStep_move hstep
    refine ⟨hs.step hmove, htraced.step hs hmove, ?_, ?_⟩
    · rw [stuck_step hs hmove, not_or, hstuck, not_exists, List.forall_mem_cons, and_comm]
    · exact List.forall_mem_cons.mpr ⟨attempts_step hmove, hstarts⟩

end Run

/-- One refresh request at most is outstanding; a call is invoked twice at most, the second time
behind its 401 and a refresh that has succeeded since; only the first 401 of a protected call starts
a refresh, and does so when none is in flight. A settled attempt is always given up exactly when no
request of the lock was rejected. -/
theorem refresh_coordinated_iff {locks : Bool} {steps : CoordinatorSteps} {s : RefreshCoordinator}
    (hrun : (coordinator locks).Run (fun _ _ => True) steps s) :
    s.outstanding.length ≤ 1 ∧
      (∀ c, (callTrace steps).count (.invoked c) ≤ 2) ∧ Ordered (callTrace steps) ∧
      (∀ step ∈ steps, (step.1.attempts.length < step.2.2.attempts.length ↔
        StartsRefresh step.1 step.2.1)) ∧
      (GivenUp s ↔ ∀ step ∈ steps, ∀ a, step.2.1 ≠ .lockAnswer a false) := by
  obtain ⟨hcoherent, htraced, hstuck, hstarts⟩ := coordinator_invariant hrun
  refine ⟨hcoherent.outstanding, fun c => ?_, htraced.order, hstarts,
    (givenUp_iff hcoherent).trans hstuck⟩
  have hcalls := htraced.calls c
  cases hcall : s.calls[c]? with
  | none =>
    rw [hcall] at hcalls
    exact Nat.le_trans (Nat.le_of_eq hcalls) (by decide)
  | some call => exact htraced.ended hcall (n := none) nofun

/-! ### A rejected lock -/

/-- A protected call gets a 401, and the lock manager rejects the request for the lock. -/
def rejectedLock : CoordinatorSteps × RefreshCoordinator :=
  (coordinator true).retrace
    [.call, .respond 0 (some ⟨.authenticationFailed, some 401⟩), .lockAnswer 0 false, .resume 0,
      .call, .respond 1 (some ⟨.authenticationFailed, some 401⟩)] [] {}

/-- The next 401 joins the rejected attempt. -/
theorem rejectedLock_kept : (coordinator true).Run (fun _ _ => True) rejectedLock.1 rejectedLock.2 ∧
    rejectedLock.2.attempts = [.rejected] ∧ rejectedLock.2.refreshInFlight = some 0 ∧
    rejectedLock.2.calls = [.ended .lockRejected, .awaiting 0] :=
  ⟨System.run_retrace _ (fun _ _ _ => trivial) (.init rfl), by decide, by decide, by decide⟩

/-- A call whose refresh succeeds. -/
def retriedCall : CoordinatorSteps × RefreshCoordinator :=
  (coordinator true).retrace
    [.call, .respond 0 (some ⟨.authenticationFailed, some 401⟩), .lockAnswer 0 true,
      .sendRefresh 0, .refreshSucceeds 0 7, .settle 0, .resume 0] [] {}

theorem retriedCall_coordinated :
    (callTrace retriedCall.1).count (.invoked 0) = 2 ∧ Ordered (callTrace retriedCall.1) ∧
      GivenUp retriedCall.2 := by
  have hrun : (coordinator true).Run (fun _ _ => True) retriedCall.1 retriedCall.2 :=
    System.run_retrace _ (fun _ _ _ => trivial) (.init rfl)
  obtain ⟨-, -, hordered, -, hgiven⟩ := refresh_coordinated_iff hrun
  have hevents : retriedCall.1.map (·.2.1) =
      [.resume 0, .settle 0, .refreshSucceeds 0 7, .sendRefresh 0, .lockAnswer 0 true,
        .respond 0 (some ⟨.authenticationFailed, some 401⟩), .call] := by decide
  have hgranted : ∀ step ∈ retriedCall.1, ∀ a, step.2.1 ≠ .lockAnswer a false := by
    intro step hstep a hevent
    have hmem := List.mem_map_of_mem (f := (·.2.1)) hstep
    rw [hevents, hevent] at hmem
    simp at hmem
  exact ⟨by decide, hordered, hgiven.mpr hgranted⟩

end SupportPilot.Frontend
