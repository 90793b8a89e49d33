import Mathlib.Logic.Basic

/-!
# Threads within a boundary

A thread makes its steps on a shared state one by one and ends with a value or an exception. It can
be cut off and left to go on beside another one, and as a transaction it is a single step. A
boundary says which states look alike from the inside and what has to be left alone on the outside;
a confined thread goes on alike in states that look alike, leaves them looking alike, and leaves
the outside alone.
-/

namespace SupportPilot.Library

/-- A thread has ended, or it makes one step and goes on by what it finds. -/
inductive Thread (σ ε α : Type) : Type
  | done (result : Except ε α)
  | step (write : σ → σ) (next : σ → Thread σ ε α)

namespace Thread

variable {σ ε ε' α β : Type}

def raise (e : ε) : Thread σ ε α := .done (.error e)

def bind : Thread σ ε α → (α → Thread σ ε β) → Thread σ ε β
  | .done (.ok a), f => f a
  | .done (.error e), _ => .done (.error e)
  | .step write next, f => .step write fun s => (next s).bind f

instance : Monad (Thread σ ε) where
  pure a := .done (.ok a)
  bind := bind

/-- How a thread ends, as a value. -/
def outcome : Thread σ ε α → Thread σ ε' (Except ε α)
  | .done result => .done (.ok result)
  | .step write next => .step write fun s => (next s).outcome

/-- `try` with an `except` clause for each exception. -/
def handle (m : Thread σ ε α) (handler : ε → Thread σ ε' α) : Thread σ ε' α :=
  m.outcome.bind fun
    | .ok a => pure a
    | .error e => handler e

/-- A step that only reads. -/
def read (f : σ → α) : Thread σ ε α := .step id fun s => pure (f s)

/-- The first steps of a thread; what is left of it is the value. -/
def limit : Nat → Thread σ ε α → Thread σ ε' (Thread σ ε α)
  | 0, m => pure m
  | _ + 1, .done result => pure (.done result)
  | n + 1, .step write next => .step write fun s => limit n (next s)

/-- A thread goes on while another one does, which takes the turns that are `true`; when the turns
are over, it stands still. -/
def interleave : List Bool → Thread σ ε' β → Thread σ ε α → Thread σ ε α
  | [], _, main => main
  | true :: turns, .done result, main => interleave turns (.done result) main
  | true :: turns, .step write next, main =>
    .step write fun s => interleave turns (next s) main
  | false :: turns, other, .done result => interleave turns other (.done result)
  | false :: turns, other, .step write next =>
    .step write fun s => interleave turns other (next s)

/-- All steps of a thread, with nothing in between. -/
def run : Thread σ ε α → σ → Except ε α × σ
  | .done result, s => (result, s)
  | .step write next, s => (next s).run (write s)

/-- The state behind a transaction: what an exception left is taken back. -/
def settle (restore : σ → σ → σ) (s : σ) : Except ε α × σ → σ
  | (.ok _, s') => s'
  | (.error _, s') => restore s s'

/-- A transaction is one step. -/
def atomic (restore : σ → σ → σ) (m : Thread σ ε α) : Thread σ ε α :=
  .step (fun s => settle restore s (m.run s)) fun s => .done (m.run s).1

end Thread

structure Boundary (σ : Type) where
  agree : σ → σ → Prop
  keeps : σ → σ → Prop
  agree_symm : ∀ {s t}, agree s t → agree t s
  keeps_refl : ∀ s, keeps s s
  keeps_trans : ∀ {s t u}, keeps s t → keeps t u → keeps s u

variable {σ ε ε' α β : Type} {B : Boundary σ}

/-- The thread stays within the boundary, and what it ends with satisfies `post`. -/
def Confined (B : Boundary σ) (post : α → Prop) : Thread σ ε α → Prop
  | .done (.ok a) => post a
  | .done (.error _) => True
  | .step write next => ∀ s t, B.agree s t →
      B.agree (write s) (write t) ∧ B.keeps s (write s) ∧ next s = next t ∧
        Confined B post (next s)

namespace Confined

variable {m : Thread σ ε α} {f : α → Thread σ ε β} {post : α → Prop} {post' : β → Prop}

theorem pure {a : α} (ha : post a) : Confined B post (Pure.pure a : Thread σ ε α) := ha

theorem raise {e : ε} : Confined B post (Thread.raise e : Thread σ ε α) := True.intro

theorem mono {weaker : α → Prop} (hpost : ∀ a, post a → weaker a) (h : Confined B post m) :
    Confined B weaker m := by
  induction m with
  | done result =>
    cases result with
    | ok a => exact hpost a h
    | error e => exact True.intro
  | step write next ih =>
    intro s t hst
    obtain ⟨hagree, hkeeps, hnext, hrest⟩ := h s t hst
    exact ⟨hagree, hkeeps, hnext, ih s hrest⟩

theorem bind (hm : Confined B post m) (hf : ∀ a, post a → Confined B post' (f a)) :
    Confined B post' (m >>= f) := by
  induction m with
  | done result =>
    cases result with
    | ok a => exact hf a hm
    | error e => exact True.intro
  | step write next ih =>
    intro s t hst
    obtain ⟨hagree, hkeeps, hnext, hrest⟩ := hm s t hst
    exact ⟨hagree, hkeeps, congrArg (Thread.bind · f) hnext, ih s hrest⟩

theorem outcome (hm : Confined B post m) :
    Confined B (fun r => ∀ a, r = .ok a → post a)
      (m.outcome : Thread σ ε' (Except ε α)) := by
  induction m with
  | done result =>
    intro a ha
    subst ha
    exact hm
  | step write next ih =>
    intro s t hst
    obtain ⟨hagree, hkeeps, hnext, hrest⟩ := hm s t hst
    exact ⟨hagree, hkeeps, congrArg Thread.outcome hnext, ih s hrest⟩

theorem handle {handler : ε → Thread σ ε' α} (hm : Confined B post m)
    (hhandler : ∀ e, Confined B post (handler e)) : Confined B post (m.handle handler) := by
  refine hm.outcome.bind fun result hresult => ?_
  cases result with
  | ok a => exact hresult a rfl
  | error e => exact hhandler e

/-- What is left of a thread is as confined as the thread. -/
theorem limit (n : Nat) (hm : Confined B post m) :
    Confined B (Confined B post) (m.limit n : Thread σ ε' (Thread σ ε α)) := by
  induction n generalizing m with
  | zero => exact hm
  | succ n ih =>
    cases m with
    | done result => exact hm
    | step write next =>
      intro s t hst
      obtain ⟨hagree, hkeeps, hnext, hrest⟩ := hm s t hst
      exact ⟨hagree, hkeeps, congrArg (Thread.limit n) hnext, ih hrest⟩

theorem interleave (turns : List Bool) {other : Thread σ ε' β} (hother : Confined B post' other)
    (hm : Confined B post m) : Confined B post (Thread.interleave turns other m) := by
  induction turns generalizing other m with
  | nil => exact hm
  | cons turn turns ih =>
    cases turn with
    | true =>
      cases other with
      | done result => exact ih hother hm
      | step write next =>
        intro s t hst
        obtain ⟨hagree, hkeeps, hnext, hrest⟩ := hother s t hst
        exact ⟨hagree, hkeeps, congrArg (Thread.interleave turns · m) hnext, ih hrest hm⟩
    | false =>
      cases m with
      | done result => exact ih hother hm
      | step write next =>
        intro s t hst
        obtain ⟨hagree, hkeeps, hnext, hrest⟩ := hm s t hst
        exact ⟨hagree, hkeeps, congrArg (Thread.interleave turns other) hnext, ih hother hrest⟩

/-- What two runs of a confined thread have in common. -/
structure Runs (B : Boundary σ) (post : α → Prop) (m : Thread σ ε α) (s t : σ) : Prop where
  same : (m.run s).1 = (m.run t).1
  agree : B.agree (m.run s).2 (m.run t).2
  keeps : B.keeps s (m.run s).2
  post : ∀ a, (m.run s).1 = .ok a → post a

theorem runs (hm : Confined B post m) {s t : σ} (hst : B.agree s t) : Runs B post m s t := by
  induction m generalizing s t with
  | done result =>
    refine ⟨rfl, hst, B.keeps_refl s, ?_⟩
    intro a ha
    have hresult : result = .ok a := ha
    subst hresult
    exact hm
  | step write next ih =>
    obtain ⟨hagree, hkeeps, hnext, hrest⟩ := hm s t hst
    have h := ih s hrest hagree
    refine ⟨?_, ?_, B.keeps_trans hkeeps h.keeps, h.post⟩
    · show ((next s).run (write s)).1 = ((next t).run (write t)).1
      rw [← hnext]
      exact h.same
    · show B.agree ((next s).run (write s)).2 ((next t).run (write t)).2
      rw [← hnext]
      exact h.agree

theorem done {result : Except ε α} (h : ∀ a, result = .ok a → post a) :
    Confined B post (.done result : Thread σ ε α) := by
  cases result with
  | ok a => exact h a rfl
  | error e => exact True.intro

/-- A transaction is confined when taking it back is. -/
theorem atomic {restore : σ → σ → σ} (hm : Confined B post m)
    (hrestore : ∀ {s t s' t'}, B.agree s t → B.agree s' t' → B.keeps s s' → B.keeps t t' →
      B.agree (restore s s') (restore t t') ∧ B.keeps s (restore s s')) :
    Confined B post (m.atomic restore) := by
  have hsettle : ∀ {s t}, B.agree s t →
      B.agree (Thread.settle restore s (m.run s)) (Thread.settle restore t (m.run t)) ∧
        B.keeps s (Thread.settle restore s (m.run s)) := by
    intro s t hst
    obtain ⟨hsame, hagree, hkeeps, -⟩ := hm.runs hst
    have hkeeps' := (hm.runs (B.agree_symm hst)).keeps
    generalize m.run s = out at hsame hagree hkeeps
    generalize m.run t = out' at hsame hagree hkeeps'
    obtain ⟨result, s'⟩ := out
    obtain ⟨result', t'⟩ := out'
    cases hsame
    cases result with
    | ok a => exact ⟨hagree, hkeeps⟩
    | error e => exact hrestore hst hagree hkeeps hkeeps'
  intro s t hst
  have h := hm.runs hst
  exact ⟨(hsettle hst).1, (hsettle hst).2, congrArg Thread.done h.same, done h.post⟩

end Confined

end SupportPilot.Library
