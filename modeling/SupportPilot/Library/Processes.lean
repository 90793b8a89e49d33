import SupportPilot.Library.Table
import SupportPilot.Library.Transition

/-!
# Processes over a shared store

A program is a family of processes that act on one store, and an environment
that acts on the store and may start new processes. A process keeps its own local
state between its steps. The rules below are the two that a proof about such a
program needs: a store invariant with assertions on the local states that no
other process can break, and mutual exclusion for a resource that a process
takes only while it is free.
-/

namespace SupportPilot.Library

/-- Environment events and process actions, both partial functions on the store. -/
structure Program (Env Action Local Store : Type) where
  initial : Store → Prop
  env : Env → Store → Option (Store × Option Local)
  work : Nat → Action → Local → Store → Option (Store × Local)

/-- The store together with the local state of every process started so far. -/
structure Config (Local Store : Type) where
  store : Store
  procs : List Local

/-- One step of a program: an event of the environment or an action of one process. -/
inductive Label (Env Action : Type)
  | env (e : Env)
  | work (i : Nat) (a : Action)

namespace Config

variable {Local Store : Type}

/-- The store invariant and the assertions of all processes, in one configuration. -/
structure Annotated (c : Config Local Store) (I : Store → Prop) (A : Store → Local → Prop) :
    Prop where
  store : I c.store
  procs : ∀ (i : Nat) (l : Local), c.procs[i]? = some l → A c.store l

end Config

namespace Program

variable {Env Action Local Store : Type} (P : Program Env Action Local Store)

def step : Label Env Action → Config Local Store → Option (Config Local Store)
  | .env e, c => (P.env e c.store).map fun out => ⟨out.1, c.procs ++ out.2.toList⟩
  | .work i a, c =>
    (c.procs[i]?).bind fun l =>
      (P.work i a l c.store).map fun out => ⟨out.1, c.procs.set i out.2⟩

/-- The labelled system of a program, which starts without any process. -/
def system : System (Config Local Store) (Label Env Action) where
  initial c := P.initial c.store ∧ c.procs = []
  step := P.step

variable {P}

theorem step_env {e : Env} {c c' : Config Local Store} (h : P.step (.env e) c = some c') :
    ∃ s' started, P.env e c.store = some (s', started) ∧
      c' = ⟨s', c.procs ++ started.toList⟩ := by
  obtain ⟨⟨s', started⟩, henv, rfl⟩ := Option.map_eq_some_iff.mp h
  exact ⟨s', started, henv, rfl⟩

theorem step_work {i : Nat} {a : Action} {c c' : Config Local Store}
    (h : P.step (.work i a) c = some c') :
    ∃ l s' l', c.procs[i]? = some l ∧ P.work i a l c.store = some (s', l') ∧
      c' = ⟨s', c.procs.set i l'⟩ := by
  obtain ⟨l, hl, hwork⟩ := Option.bind_eq_some_iff.mp h
  obtain ⟨⟨s', l'⟩, hout, rfl⟩ := Option.map_eq_some_iff.mp hwork
  exact ⟨l, s', l', hl, hout, rfl⟩

/-- After an event a process is an old one, or the one that the event has started. -/
theorem proc_append {procs : List Local} {started : Option Local} {j : Nat} {l : Local}
    (h : (procs ++ started.toList)[j]? = some l) : procs[j]? = some l ∨ started = some l := by
  rcases Nat.lt_or_ge j procs.length with hlt | hge
  · exact .inl (by rwa [List.getElem?_append_left hlt] at h)
  · rw [List.getElem?_append_right hge] at h
    exact .inr (by simpa using List.mem_of_getElem? h)

variable {permits : Config Local Store → Label Env Action → Prop}

section Assertions

variable {I : Store → Prop} {A : Store → Local → Prop}

/-- The premise on the environment: it keeps the invariant, disturbs no assertion, and starts
processes whose assertion holds. -/
def EnvKeeps (P : Program Env Action Local Store)
    (permits : Config Local Store → Label Env Action → Prop)
    (I : Store → Prop) (A : Store → Local → Prop) : Prop :=
  ∀ (c : Config Local Store) (e : Env) (s' : Store) (started : Option Local),
    P.system.Reach permits c → permits c (.env e) → c.Annotated I A →
    P.env e c.store = some (s', started) →
    I s' ∧ (∀ l ∈ started, A s' l) ∧
      ∀ (j : Nat) (k : Local), c.procs[j]? = some k → A c.store k → A s' k

/-- The premise on a process: it keeps the invariant, reaches its own next assertion, and
disturbs the assertion of no other process. -/
def WorkKeeps (P : Program Env Action Local Store)
    (permits : Config Local Store → Label Env Action → Prop)
    (I : Store → Prop) (A : Store → Local → Prop) : Prop :=
  ∀ (c : Config Local Store) (i : Nat) (a : Action) (l : Local) (s' : Store) (l' : Local),
    P.system.Reach permits c → permits c (.work i a) → c.Annotated I A →
    c.procs[i]? = some l → P.work i a l c.store = some (s', l') →
    I s' ∧ A s' l' ∧
      ∀ (j : Nat) (k : Local), j ≠ i → c.procs[j]? = some k → A c.store k → A s' k

theorem annotated_step (henv : EnvKeeps P permits I A) (hwork : WorkKeeps P permits I A)
    {c c' : Config Local Store} {l : Label Env Action} (hr : P.system.Reach permits c)
    (hc : c.Annotated I A) (hp : permits c l) (hs : P.step l c = some c') :
    c'.Annotated I A := by
  cases l with
  | env e =>
    obtain ⟨s', started, hout, rfl⟩ := step_env hs
    obtain ⟨hI, hnew, hold⟩ := henv c e s' started hr hp hc hout
    refine ⟨hI, fun j k hk => ?_⟩
    rcases proc_append hk with hbefore | hstarted
    · exact hold j k hbefore (hc.procs j k hbefore)
    · exact hnew k hstarted
  | work i a =>
    obtain ⟨l, s', l', hl, hout, rfl⟩ := step_work hs
    obtain ⟨hI, hself, hothers⟩ := hwork c i a l s' l' hr hp hc hl hout
    refine ⟨hI, fun j k hk => ?_⟩
    rcases getElem?_set_cases hk with ⟨-, rfl⟩ | ⟨hji, hbefore⟩
    · exact hself
    · exact hothers j k hji hbefore (hc.procs j k hbefore)

/-- Store invariant and local assertions over whole runs, from one premise on the
environment and one on the processes. -/
theorem annotated_reach (hinit : ∀ s, P.initial s → I s) (henv : EnvKeeps P permits I A)
    (hwork : WorkKeeps P permits I A) {c : Config Local Store}
    (h : P.system.Reach permits c) : c.Annotated I A := by
  refine h.invariant (fun c hc => ⟨hinit _ hc.1, fun j k hk => ?_⟩)
    (fun c l c' hr hI hp hs => annotated_step henv hwork hr hI hp hs)
  rw [hc.2] at hk
  cases hk

end Assertions

section Exclusion

variable {Key : Type} {holds : Local → Key → Prop}

/-- No two processes hold the same key. -/
def Exclusive (holds : Local → Key → Prop) (c : Config Local Store) : Prop :=
  ∀ (i j : Nat) (l m : Local) (k : Key), c.procs[i]? = some l → c.procs[j]? = some m →
    holds l k → holds m k → i = j

theorem exclusive_append {c : Config Local Store} {s' : Store} {started : Option Local}
    (hc : Exclusive holds c)
    (hfree : ∀ l ∈ started, ∀ k, holds l k → ∀ (j : Nat) (m : Local),
      c.procs[j]? = some m → ¬ holds m k) :
    Exclusive holds (⟨s', c.procs ++ started.toList⟩ : Config Local Store) := by
  have hnew : ∀ (i : Nat) (l : Local), c.procs.length ≤ i →
      (c.procs ++ started.toList)[i]? = some l → l ∈ started ∧ i = c.procs.length := by
    intro i l hge hl
    rw [List.getElem?_append_right hge] at hl
    refine ⟨by simpa using List.mem_of_getElem? hl, ?_⟩
    have hlt := (List.getElem?_eq_some_iff.mp hl).1
    cases started <;> simp at hlt
    omega
  intro i j l m k hl hm hlk hmk
  rcases Nat.lt_or_ge i c.procs.length with hi | hi <;>
    rcases Nat.lt_or_ge j c.procs.length with hj | hj
  · rw [List.getElem?_append_left hi] at hl
    rw [List.getElem?_append_left hj] at hm
    exact hc i j l m k hl hm hlk hmk
  · rw [List.getElem?_append_left hi] at hl
    exact absurd hlk (hfree m (hnew j m hj hm).1 k hmk i l hl)
  · rw [List.getElem?_append_left hj] at hm
    exact absurd hmk (hfree l (hnew i l hi hl).1 k hlk j m hm)
  · rw [(hnew i l hi hl).2, (hnew j m hj hm).2]

theorem exclusive_set {c : Config Local Store} {s' : Store} {i : Nat} {l l' : Local}
    (hc : Exclusive holds c) (hl : c.procs[i]? = some l)
    (hkeep : ∀ k, holds l' k → holds l k ∨
      ∀ (j : Nat) (m : Local), j ≠ i → c.procs[j]? = some m → ¬ holds m k) :
    Exclusive holds (⟨s', c.procs.set i l'⟩ : Config Local Store) := by
  have hlt : i < c.procs.length := (List.getElem?_eq_some_iff.mp hl).1
  have hself : ∀ m, (c.procs.set i l')[i]? = some m → m = l' := by
    intro m hm
    simpa [List.getElem?_set_self hlt] using hm.symm
  have hother : ∀ (j : Nat) (m : Local) (k : Key), j ≠ i → c.procs[j]? = some m →
      holds l' k → ¬ holds m k := by
    intro j m k hji hm hk hmk
    rcases hkeep k hk with hlk | hfree
    · exact hji (hc i j l m k hl hm hlk hmk).symm
    · exact hfree j m hji hm hmk
  intro j₁ j₂ m₁ m₂ k h₁ h₂ hk₁ hk₂
  by_cases e₁ : j₁ = i <;> by_cases e₂ : j₂ = i
  · exact e₁.trans e₂.symm
  · subst e₁
    rw [hself m₁ h₁] at hk₁
    exact absurd hk₂ (hother j₂ m₂ k e₂ (by simpa [List.getElem?_set_ne (Ne.symm e₂)] using h₂) hk₁)
  · subst e₂
    rw [hself m₂ h₂] at hk₂
    exact absurd hk₁ (hother j₁ m₁ k e₁ (by simpa [List.getElem?_set_ne (Ne.symm e₁)] using h₁) hk₂)
  · rw [List.getElem?_set_ne (Ne.symm e₁)] at h₁
    rw [List.getElem?_set_ne (Ne.symm e₂)] at h₂
    exact hc j₁ j₂ m₁ m₂ k h₁ h₂ hk₁ hk₂

end Exclusion

end Program

end SupportPilot.Library
