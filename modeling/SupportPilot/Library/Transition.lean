import Mathlib.Logic.Relation

/-!
# Labelled transition systems with partial steps

A label names who acts and with which inputs, and the step function says what
happens, or that the label is not enabled. `Reach` is the set of states of runs
whose every step satisfies a permission on the state before it. Replaying a list
of labels gives reachable states by evaluation.
-/

namespace SupportPilot.Library

/-- A deterministic step function on labels, with a set of initial states. -/
structure System (State Label : Type) where
  initial : State → Prop
  step : Label → State → Option State

namespace System

variable {State Label : Type} (M : System State Label)

/-- States of runs all of whose steps are permitted in the state they leave. -/
inductive Reach (permits : State → Label → Prop) : State → Prop
  | init {s : State} : M.initial s → Reach permits s
  | step {s s' : State} {l : Label} :
      Reach permits s → permits s l → M.step l s = some s' → Reach permits s'

variable {M} {permits permits' : State → Label → Prop}

/-- What holds initially and survives every permitted step holds in every run. -/
theorem Reach.invariant {I : State → Prop} (hinit : ∀ s, M.initial s → I s)
    (hstep : ∀ s l s', M.Reach permits s → I s → permits s l → M.step l s = some s' → I s')
    {s : State} (h : M.Reach permits s) : I s := by
  induction h with
  | init hs => exact hinit _ hs
  | step hr hp hs ih => exact hstep _ _ _ hr ih hp hs

/-- A weaker permission admits every run of a stronger one. -/
theorem Reach.mono (himp : ∀ s l, M.Reach permits s → permits s l → permits' s l)
    {s : State} (h : M.Reach permits s) : M.Reach permits' s := by
  induction h with
  | init hs => exact .init hs
  | step hr hp hs ih => exact .step ih (himp _ _ hr hp) hs

/-- A run together with the steps that it has taken, the latest first. -/
inductive Run (M : System State Label) (permits : State → Label → Prop) :
    List (State × Label × State) → State → Prop
  | init {s : State} : M.initial s → Run M permits [] s
  | step {steps : List (State × Label × State)} {s s' : State} {l : Label} :
      Run M permits steps s → permits s l → M.step l s = some s' →
      Run M permits ((s, l, s') :: steps) s'

theorem Run.reach {steps : List (State × Label × State)} {s : State}
    (h : M.Run permits steps s) : M.Reach permits s := by
  induction h with
  | init hs => exact .init hs
  | step _ hp hs ih => exact .step ih hp hs

theorem Reach.run {s : State} (h : M.Reach permits s) : ∃ steps, M.Run permits steps s := by
  induction h with
  | init hs => exact ⟨[], .init hs⟩
  | step _ hp hs ih =>
    obtain ⟨steps, hrun⟩ := ih
    exact ⟨_, .step hrun hp hs⟩

/-- What holds initially and survives every step, of a run and its history. -/
theorem Run.invariant {I : List (State × Label × State) → State → Prop}
    (hinit : ∀ s, M.initial s → I [] s)
    (hstep : ∀ steps s l s', M.Run permits steps s → I steps s → permits s l →
      M.step l s = some s' → I ((s, l, s') :: steps) s')
    {steps : List (State × Label × State)} {s : State} (h : M.Run permits steps s) :
    I steps s := by
  induction h with
  | init hs => exact hinit _ hs
  | step hr hp hs ih => exact hstep _ _ _ _ hr ih hp hs

/-- The same steps from one given state. -/
def startedAt (M : System State Label) (s : State) : System State Label :=
  { M with initial := (· = s) }

/-- What holds of a state and survives every permitted step holds along every continuation. -/
theorem Reach.continued {I : State → Prop} {s s' : State} (h : (M.startedAt s).Reach permits s')
    (hs : I s) (hstep : ∀ t l t', I t → permits t l → M.step l t = some t' → I t') : I s' := by
  refine Reach.invariant ?_ ?_ h
  · rintro t rfl
    exact hs
  · exact fun t l t' _ hI hp hlast => hstep t l t' hI hp hlast

/-- A continuation of a continuation is one. -/
theorem Reach.trans {s t u : State} (h : (M.startedAt s).Reach permits t)
    (h' : (M.startedAt t).Reach permits u) : (M.startedAt s).Reach permits u :=
  h'.continued h fun _ _ _ ht hp hstep => .step ht hp hstep

/-- A continuation of a run is a run. -/
theorem Reach.follow {s t : State} (h : M.Reach (fun _ _ => True) s)
    (h' : (M.startedAt s).Reach permits t) : M.Reach (fun _ _ => True) t :=
  h'.continued h fun _ _ _ ht _ hstep => .step ht trivial hstep

/-- While a permitted step decreases a measure, the system can be run up to its goal. -/
theorem Reach.descend {I goal : State → Prop} (measure : State → Nat)
    (hstep : ∀ s, I s → ¬ goal s →
      ∃ l s', permits s l ∧ M.step l s = some s' ∧ I s' ∧ measure s' < measure s)
    {s : State} (h : M.Reach permits s) (hs : I s) :
    ∃ s', M.Reach permits s' ∧ I s' ∧ goal s' := by
  induction hn : measure s using Nat.strongRecOn generalizing s with
  | _ n ih =>
    by_cases hgoal : goal s
    · exact ⟨s, h, hs, hgoal⟩
    · obtain ⟨l, s', hp, hout, hI, hlt⟩ := hstep s hs hgoal
      exact ih (measure s') (hn ▸ hlt) (.step h hp hout) hI rfl

/-- The states that a state can still lead to. -/
def Later (M : System State Label) (s s' : State) : Prop :=
  Relation.ReflTransGen (fun s s' => ∃ l, M.step l s = some s') s s'

/-- What every step keeps is kept for ever. -/
theorem Later.kept {P : State → Prop} (hstep : ∀ s l s', P s → M.step l s = some s' → P s')
    {s s' : State} (h : M.Later s s') (hs : P s) : P s' := by
  induction h with
  | refl => exact hs
  | tail _ hlast ih =>
    obtain ⟨l, hl⟩ := hlast
    exact hstep _ l _ ih hl

variable (M)

/-- Run a list of labels, stopping at the first one that is disabled or not permitted. -/
def replay (permits : State → Label → Prop) [∀ s l, Decidable (permits s l)] :
    List Label → State → Option State
  | [], s => some s
  | l :: ls, s => if permits s l then (M.step l s).bind (replay permits ls) else none

/-- The history that a list of labels adds to a run, up to the first one that is disabled, and
the state in which it ends. -/
def retrace : List Label → List (State × Label × State) → State →
    List (State × Label × State) × State
  | [], steps, s => (steps, s)
  | l :: ls, steps, s =>
    match M.step l s with
    | none => (steps, s)
    | some s' => retrace ls ((s, l, s') :: steps) s'

theorem run_retrace {ls : List Label} (hpermits : ∀ s, ∀ l ∈ ls, permits s l)
    {steps : List (State × Label × State)} {s : State} (h : M.Run permits steps s) :
    M.Run permits (M.retrace ls steps s).1 (M.retrace ls steps s).2 := by
  induction ls generalizing steps s with
  | nil => exact h
  | cons l ls ih =>
    rw [retrace]
    cases hstep : M.step l s with
    | none => exact h
    | some s' =>
      exact ih (fun t m hm => hpermits t m (List.mem_cons_of_mem l hm))
        (.step h (hpermits s l List.mem_cons_self) hstep)

variable {M} [∀ s l, Decidable (permits s l)]

theorem reach_replay {ls : List Label} {s s' : State} (hs : M.Reach permits s)
    (h : M.replay permits ls s = some s') : M.Reach permits s' := by
  induction ls generalizing s with
  | nil =>
    simp only [replay, Option.some.injEq] at h
    exact h ▸ hs
  | cons l ls ih =>
    rw [replay] at h
    split at h
    · rename_i hp
      obtain ⟨t, ht, hrest⟩ := Option.bind_eq_some_iff.mp h
      exact ih (.step hs hp ht) hrest
    · cases h

variable (M permits) in
/-- Where the replay of some labels ends; labels that do not replay end where they start. -/
def replayEnd (ls : List Label) (s : State) : State :=
  (M.replay permits ls s).getD s

theorem reach_replayEnd {s : State} (hs : M.Reach permits s) (ls : List Label) :
    M.Reach permits (M.replayEnd permits ls s) := by
  unfold replayEnd
  cases hend : M.replay permits ls s with
  | none => exact hs
  | some s' => exact reach_replay hs hend

end System

end SupportPilot.Library
