import Mathlib.Data.List.Nodup
import SupportPilot.Webhooks.Fanout

/-!
# The statements of a transaction

A transaction keeps the lock of the row that it has changed until its commit, so that the row is as
the transaction has read it. A statement changes no table, and a commit makes the row, its event
and the deliveries visible together.
-/

namespace SupportPilot.Webhooks

open Library Notifications

variable {cfg : DeliverySettings} {s s' : EventStore}

/-! ## Transactions and their locks -/

/-- Transaction `i` has locked the approval request of an execution, which is as it was then. -/
structure Holds (s : EventStore) (i k workspace : Nat) (request : Option ApprovalRequest) :
    Prop where
  lock : (.approval k, i) ∈ s.locks
  row : ∃ row, s.executions[k]? = some row ∧ row.workspace = workspace ∧
    row.approvalRequest = request

/-- What transaction `i` knows of the row that it has changed: the request is pending, or there is
none yet. -/
def Change.Guarded (s : EventStore) (i : Nat) : Change → Prop
  | .requested workspace k approval _ _ _ => approval.status = .pending ∧ Holds s i k workspace none
  | .decided workspace k approval _ _ _ =>
    approval.status = .pending ∧ Holds s i k workspace (some approval)
  | .expired workspace k approval _ =>
    approval.status = .pending ∧ Holds s i k workspace (some approval)
  | .cancelled k _ => ∃ workspace approval, approval.status = .pending ∧
      Holds s i k workspace (some approval)
  | .handedOff workspace handoff => s.conversations[handoff.conversation]? = some workspace

def DomainPoint.change : DomainPoint → Option Change
  | .changed change | .emitted change _ => some change
  | _ => none

theorem Holds.approval {i k workspace : Nat} {request : Option ApprovalRequest}
    (h : Holds s i k workspace request) : s.approval k = request := by
  obtain ⟨row, hrow, -, hrequest⟩ := h.row
  unfold EventStore.approval
  rw [hrow]
  exact hrequest

theorem Holds.mono {i k workspace : Nat} {request : Option ApprovalRequest}
    (h : Holds s i k workspace request) (hlock : (.approval k, i) ∈ s'.locks)
    (hkeeps : Keeps s s') (happroval : s'.approval k = s.approval k) :
    Holds s' i k workspace request where
  lock := hlock
  row := by
    obtain ⟨row, hrow, hworkspace, hrequest⟩ := h.row
    obtain ⟨row', hrow', hsame⟩ := hkeeps.executions k row hrow
    refine ⟨row', hrow', hsame.trans hworkspace, ?_⟩
    unfold EventStore.approval at happroval
    rw [hrow, hrow'] at happroval
    exact happroval.trans hrequest

/-- The execution whose approval request a change writes. -/
def Change.target : Change → Option Nat
  | .requested _ k _ _ _ _ => some k
  | .decided _ k _ _ _ _ => some k
  | .expired _ k _ _ => some k
  | .cancelled k _ => some k
  | .handedOff _ _ => none

theorem Change.Guarded.lock {i k : Nat} {change : Change} (h : change.Guarded s i)
    (htarget : change.target = some k) : (.approval k, i) ∈ s.locks := by
  cases change with
  | requested | decided | expired =>
    cases htarget
    exact h.2.lock
  | cancelled =>
    cases htarget
    obtain ⟨workspace, approval, -, hholds⟩ := h
    exact hholds.lock
  | handedOff => cases htarget

theorem Change.Guarded.mono {i : Nat} {change : Change} (h : change.Guarded s i)
    (hkeeps : Keeps s s')
    (hholds : ∀ k, change.target = some k →
      (.approval k, i) ∈ s'.locks ∧ s'.approval k = s.approval k) : change.Guarded s' i := by
  cases change with
  | requested | decided | expired =>
    obtain ⟨hlock, happroval⟩ := hholds _ rfl
    exact ⟨h.1, h.2.mono hlock hkeeps happroval⟩
  | cancelled =>
    obtain ⟨hlock, happroval⟩ := hholds _ rfl
    obtain ⟨workspace, approval, hpending, hold⟩ := h
    exact ⟨workspace, approval, hpending, hold.mono hlock hkeeps happroval⟩
  | handedOff workspace handoff =>
    obtain ⟨found, hfound, heq⟩ := hkeeps.conversations _ _ h
    show s'.conversations[handoff.conversation]? = some workspace
    rw [hfound, heq]

/-- How a statement of transaction `i` changes the locks. -/
inductive Locking (s : EventStore) (i : Nat) : List (LockKey × Nat) → Prop
  | same : Locking s i s.locks
  | released : Locking s i (s.locks.filter (·.2 ≠ i))
  | acquired (key : LockKey) : s.Free key → Locking s i ((key, i) :: s.locks)

theorem Locking.kept {i j : Nat} {key : LockKey} {locks : List (LockKey × Nat)}
    (h : Locking s i locks) (hji : j ≠ i) (hkey : (key, j) ∈ s.locks) : (key, j) ∈ locks := by
  cases h with
  | same => exact hkey
  | released => exact List.mem_filter.mpr ⟨hkey, by simpa using hji⟩
  | acquired key' hfree => exact List.mem_cons_of_mem _ hkey

theorem Locking.nodup {i : Nat} {locks : List (LockKey × Nat)} (h : Locking s i locks)
    (hs : (s.locks.map (·.1)).Nodup) : (locks.map (·.1)).Nodup := by
  cases h with
  | same => exact hs
  | released => exact hs.sublist (List.filter_sublist.map _)
  | acquired key hfree =>
    rw [List.map_cons, List.nodup_cons]
    refine ⟨?_, hs⟩
    intro hmem
    obtain ⟨x, hx, heq⟩ := List.mem_map.mp hmem
    exact hfree x hx heq

/-- A statement that changes no table, and leaves its transaction with what it knows. -/
structure Stated (s : EventStore) (i : Nat) (out : EventStore × DomainPoint) : Prop where
  locks : ∃ locks, out.1 = { s with locks := locks } ∧ Locking s i locks
  guarded : ∀ change, out.2.change = some change → change.Guarded out.1 i

theorem Stated.same {i : Nat} {point : DomainPoint} (h : point.change = none) :
    Stated s i (s, point) where
  locks := ⟨_, rfl, .same⟩
  guarded change hchange := by
    rw [h] at hchange
    cases hchange

theorem Stated.released {i : Nat} {point : DomainPoint} (h : point.change = none) :
    Stated s i (s.release i, point) where
  locks := ⟨_, rfl, .released⟩
  guarded change hchange := by
    rw [h] at hchange
    cases hchange

theorem Stated.acquired {i : Nat} {key : LockKey} {point : DomainPoint} (hfree : s.Free key)
    (h : ∀ change, point.change = some change → change.Guarded (s.acquire key i) i) :
    Stated s i (s.acquire key i, point) where
  locks := ⟨_, rfl, .acquired key hfree⟩
  guarded := h

/-- A lock is taken on the row as it is. -/
theorem Holds.acquired {i k : Nat} {row : ToolExecution} (hrow : s.executions[k]? = some row) :
    Holds (s.acquire (.approval k) i) i k row.workspace row.approvalRequest where
  lock := List.mem_cons_self
  row := ⟨row, hrow, rfl, rfl⟩

theorem lockAndDecide_stated {i workspace k actor checkedAt now : Nat} {actorRole : String}
    {decision : ApprovalDecisionValue} {out : EventStore × DomainPoint}
    (h : s.lockAndDecide i workspace k actor actorRole decision checkedAt now = some out) :
    Stated s i out := by
  obtain ⟨row, hrow, hout⟩ := Option.bind_eq_some_iff.mp h
  cases hrequest : row.approvalRequest with
  | none =>
    simp only [hrequest] at hout
    cases hout
    exact .same rfl
  | some approval =>
    have hholds := Holds.acquired (i := i) hrow
    rw [hrequest] at hholds
    simp only [hrequest] at hout
    split at hout
    · cases hout
      exact .same rfl
    · rename_i hworkspace
      split at hout
      · rename_i hfree
        split at hout
        · rename_i hdecide
          cases hout
          refine .acquired hfree fun change hchange => ?_
          cases hchange
          exact ⟨(decideApproval_expired hdecide).1, hholds⟩
        · rename_i hdecide
          cases hout
          refine .acquired hfree fun change hchange => ?_
          cases hchange
          rw [not_not.mp hworkspace] at hholds
          exact ⟨(decideApproval_decided hdecide).1, hholds⟩
        all_goals
          cases hout
          exact .acquired hfree fun change hchange => by cases hchange
      · cases hout

theorem lockAndExpire_stated {i k checkedAt now : Nat} {out : EventStore × DomainPoint}
    (h : s.lockAndExpire i k checkedAt now = some out) : Stated s i out := by
  obtain ⟨row, hrow, hout⟩ := Option.bind_eq_some_iff.mp h
  obtain ⟨approval, hrequest, hout⟩ := Option.bind_eq_some_iff.mp hout
  have hholds := Holds.acquired (i := i) hrow
  rw [hrequest] at hholds
  split at hout
  · rename_i hfree
    split at hout
    · rename_i hexpire
      cases hout
      refine .acquired hfree fun change hchange => ?_
      cases hchange
      exact ⟨(expireStaleApproval_some hexpire).1, hholds⟩
    · cases hout
      exact .acquired hfree fun change hchange => by cases hchange
  · cases hout

theorem lockAndCancel_stated {i k now : Nat} {out : EventStore × DomainPoint}
    (h : s.lockAndCancel i k now = some out) : Stated s i out := by
  obtain ⟨row, hrow, hout⟩ := Option.bind_eq_some_iff.mp h
  cases hrequest : row.approvalRequest with
  | none =>
    simp only [hrequest] at hout
    cases hout
    exact .same rfl
  | some approval =>
    have hholds := Holds.acquired (i := i) hrow
    rw [hrequest] at hholds
    simp only [hrequest] at hout
    split at hout
    · rename_i hfree
      split at hout
      · cases hout
        exact .acquired hfree fun change hchange => by cases hchange
      · rename_i hpending
        cases hout
        refine .acquired hfree fun change hchange => ?_
        cases hchange
        exact ⟨row.workspace, approval, not_not.mp hpending, hholds⟩
    · cases hout

theorem findHandoff_stated {i workspace conversation agentRun : Nat}
    {out : EventStore × DomainPoint}
    (h : s.findHandoff i workspace conversation agentRun = some out) : Stated s i out := by
  unfold EventStore.findHandoff at h
  split at h
  · cases h
    exact .same rfl
  · split at h
    · split at h
      · rename_i hfree
        cases h
        exact .acquired hfree fun change hchange => by cases hchange
      · cases h
    · cases h
      exact .same rfl

/-- A handoff is inserted after the check of its conversation. -/
def DomainCall.Checked (s : EventStore) : DomainCall → Prop
  | .createOrReuseHandoff workspace conversation _ _ _ =>
    s.conversations[conversation]? = some workspace
  | _ => True

theorem findHandoff_checked {i workspace conversation agentRun : Nat} {s' : EventStore}
    (h : s.findHandoff i workspace conversation agentRun = some (s', .inserting)) :
    s'.conversations[conversation]? = some workspace := by
  unfold EventStore.findHandoff at h
  split at h
  · cases h
  · rename_i hchecked
    rw [not_or, not_not] at hchecked
    split at h
    · split at h <;> cases h
    · cases h
      exact hchecked.1

theorem insertApproval_stated {i k ttlSeconds now : Nat} {createdBy : Option Nat}
    {requiredRole toolKey riskLevel summary : String} {out : EventStore × DomainPoint}
    (h : s.insertApproval i k createdBy requiredRole toolKey riskLevel summary ttlSeconds now =
      some out) : Stated s i out := by
  obtain ⟨row, hrow, hout⟩ := Option.bind_eq_some_iff.mp h
  split at hout
  · cases hout
    exact .released rfl
  · rename_i hnone
    split at hout
    · rename_i hfree
      have hrequest : row.approvalRequest = none := by simpa using hnone
      have hholds := Holds.acquired (i := i) hrow
      rw [hrequest] at hholds
      split at hout
      · cases hout
        exact .released rfl
      · rename_i created hcreate
        obtain ⟨approval, happroval, rfl⟩ := Option.map_eq_some_iff.mp hout
        refine .acquired hfree fun change hchange => ?_
        cases hchange
        refine ⟨?_, hholds⟩
        unfold createOrReuseApprovalRequest at hcreate
        rw [hrequest] at hcreate
        simp only at hcreate
        split at hcreate
        · cases hcreate
        · cases hcreate
          cases happroval
          rfl
    · cases hout

theorem insertHandoff_stated {i workspace conversation agentRun : Nat}
    {reasonCode safeSummary : String} {out : EventStore × DomainPoint}
    (hchecked : s.conversations[conversation]? = some workspace)
    (h : s.insertHandoff i workspace conversation agentRun reasonCode safeSummary = some out) :
    Stated s i out := by
  unfold EventStore.insertHandoff at h
  split at h
  · cases h
    exact .same rfl
  · split at h
    · rename_i hfree
      cases h
      refine .acquired hfree fun change hchange => ?_
      cases hchange
      exact hchecked
    · cases h

theorem rereadHandoff_stated (s : EventStore) (i conversation : Nat) :
    Stated s i (s.rereadHandoff i conversation) := by
  unfold EventStore.rereadHandoff
  split
  · exact .same rfl
  · exact .released rfl

theorem queryStep_stated {i checkedAt now : Nat} {call : DomainCall}
    {out : EventStore × DomainPoint} (h : queryStep i call checkedAt now s = some out) :
    Stated s i out ∧ (out.2 = .inserting → call.Checked out.1) := by
  cases call with
  | requestApproval k =>
    obtain ⟨point, hpoint, rfl⟩ := Option.map_eq_some_iff.mp h
    obtain ⟨row, -, rfl⟩ := Option.map_eq_some_iff.mp hpoint
    refine ⟨.same ?_, fun _ => trivial⟩
    split <;> rfl
  | decideApproval => exact ⟨lockAndDecide_stated h, fun _ => trivial⟩
  | expireStaleApproval => exact ⟨lockAndExpire_stated h, fun _ => trivial⟩
  | cancelApproval => exact ⟨lockAndCancel_stated h, fun _ => trivial⟩
  | createOrReuseHandoff =>
    refine ⟨findHandoff_stated h, fun hpoint => ?_⟩
    obtain ⟨t, point⟩ := out
    cases hpoint
    exact findHandoff_checked h

theorem insertStep_stated {i now : Nat} {call : DomainCall} {out : EventStore × DomainPoint}
    (hchecked : call.Checked s) (h : insertStep i call now s = some out) : Stated s i out := by
  cases call with
  | requestApproval => exact insertApproval_stated h
  | createOrReuseHandoff => exact insertHandoff_stated hchecked h
  | decideApproval | expireStaleApproval | cancelApproval => cases h

theorem queryStep_not_emitted {i checkedAt now : Nat} {call : DomainCall}
    {out : EventStore × DomainPoint} (h : queryStep i call checkedAt now s = some out)
    (change : Change) (endpoints : List SubscribedEndpoint) :
    out.2 ≠ .emitted change endpoints := by
  cases call with
  | requestApproval => grind [queryStep, EventStore.findApproval]
  | decideApproval => grind [queryStep, EventStore.lockAndDecide]
  | expireStaleApproval =>
    grind [queryStep, EventStore.lockAndExpire, Option.bind_eq_some_iff]
  | cancelApproval => grind [queryStep, EventStore.lockAndCancel]
  | createOrReuseHandoff => grind [queryStep, EventStore.findHandoff]

theorem insertStep_not_emitted {i now : Nat} {call : DomainCall}
    {out : EventStore × DomainPoint} (h : insertStep i call now s = some out)
    (change : Change) (endpoints : List SubscribedEndpoint) :
    out.2 ≠ .emitted change endpoints := by
  cases call with
  | requestApproval => grind [insertStep, EventStore.insertApproval, Option.map_eq_some_iff]
  | createOrReuseHandoff => grind [insertStep, EventStore.insertHandoff]
  | decideApproval | expireStaleApproval | cancelApproval => cases h

/-- What a transaction knows between its statements. -/
structure Knows (s : EventStore) (i : Nat) (t : DomainTransaction) : Prop where
  checked : t.point = .inserting → t.call.Checked s
  guarded : ∀ change, t.point.change = some change → change.Guarded s i

/-- The commit of a change. -/
inductive Committed (cfg : DeliverySettings) (s : EventStore) (i : Nat) (change : Change)
    (s' : EventStore) : Prop
  | emitted (endpoints : List SubscribedEndpoint) (now : Int) :
      s.commitEmitted cfg i change endpoints now = some s' → Committed cfg s i change s'
  | silent : s.commitSilent i change = some s' → Committed cfg s i change s'

/-- What a statement of a transaction does: it changes no table, reads the endpoints for an event,
or commits the change of the transaction. -/
inductive TransactionStep (cfg : DeliverySettings) (s : EventStore) (i : Nat)
    (t : DomainTransaction) : DomainAction → EventStore → DomainTransaction → Prop
  | stated {a : DomainAction} {s' : EventStore} {t' : DomainTransaction} :
      (∃ locks, s' = { s with locks := locks } ∧ Locking s i locks) → Knows s' i t' →
      (∀ change endpoints, t'.point ≠ .emitted change endpoints) →
      TransactionStep cfg s i t a s' t'
  | read {change : Change} : Knows s i { t with point := .emitted change s.endpoints } →
      TransactionStep cfg s i t .emit s { t with point := .emitted change s.endpoints }
  | silent {now : Int} {change : Change} {s' : EventStore} : t.point = .changed change →
      s.commitSilent i change = some s' →
      TransactionStep cfg s i t (.commit now) s' { t with point := .ended }
  | emitted {now : Int} {change : Change} {endpoints : List SubscribedEndpoint}
      {s' : EventStore} : t.point = .emitted change endpoints →
      s.commitEmitted cfg i change endpoints now = some s' →
      TransactionStep cfg s i t (.commit now) s' { t with point := .ended }

/-- A statement changes no table, or it commits the change and ends its transaction. -/
theorem TransactionStep.ends {i : Nat} {a : DomainAction} {t t' : DomainTransaction}
    (h : TransactionStep cfg s i t a s' t') :
    (∃ locks, s' = { s with locks := locks } ∧ Locking s i locks) ∧ Knows s' i t' ∨
      t'.point = .ended ∧ ∃ change, t.point.change = some change ∧ Committed cfg s i change s' := by
  cases h with
  | stated hlocks hknows => exact .inl ⟨hlocks, hknows⟩
  | read hknows => exact .inl ⟨⟨_, rfl, .same⟩, hknows⟩
  | silent hpoint hcommit => exact .inr ⟨rfl, _, by rw [hpoint]; rfl, .silent hcommit⟩
  | emitted hpoint hcommit => exact .inr ⟨rfl, _, by rw [hpoint]; rfl, .emitted _ _ hcommit⟩

theorem Knows.ended (s : EventStore) (i : Nat) (call : DomainCall) : Knows s i ⟨call, .ended⟩ where
  checked hpoint := by cases hpoint
  guarded change hchange := by cases hchange

theorem domainStep_cases {i : Nat} {a : DomainAction} {t t' : DomainTransaction}
    (ht : Knows s i t) (h : domainStep cfg i a t s = some (s', t')) :
    TransactionStep cfg s i t a s' t' := by
  obtain ⟨call, point⟩ := t
  have hrollback : TransactionStep cfg s i ⟨call, point⟩ a (s.release i) ⟨call, .ended⟩ :=
    .stated ⟨_, rfl, .released⟩ (.ended _ _ _) fun _ _ hpoint => by cases hpoint
  unfold domainStep at h
  cases point with
  | called =>
    cases a with
    | query checkedAt now =>
      obtain ⟨out, hquery, heq⟩ := Option.map_eq_some_iff.mp h
      cases heq
      have hstated := queryStep_stated hquery
      exact .stated hstated.1.locks ⟨hstated.2, hstated.1.guarded⟩ (queryStep_not_emitted hquery)
    | overtaken =>
      cases call with
      | createOrReuseHandoff =>
        simp only at h
        split at h
        · rename_i hchecked
          cases h
          exact .stated ⟨_, rfl, .same⟩
            ⟨fun _ => hchecked.1, fun change hchange => by cases hchange⟩
            fun _ _ hpoint => by cases hpoint
        · cases h
      | requestApproval | decideApproval | expireStaleApproval | cancelApproval => cases h
    | rollback =>
      cases h
      exact hrollback
    | insert | reread | emit | commit => cases h
  | inserting =>
    cases a with
    | insert now =>
      obtain ⟨out, hinsert, heq⟩ := Option.map_eq_some_iff.mp h
      cases heq
      have hstated := insertStep_stated (ht.checked rfl) hinsert
      refine .stated hstated.locks ⟨fun hpoint => ?_, hstated.guarded⟩
        (insertStep_not_emitted hinsert)
      obtain ⟨locks, hstore, -⟩ := hstated.locks
      have hchecked : call.Checked s := ht.checked rfl
      rw [hstore]
      cases call <;> exact hchecked
    | rollback =>
      cases h
      exact hrollback
    | query | overtaken | reread | emit | commit => cases h
  | conflicted =>
    cases a with
    | reread =>
      cases call with
      | createOrReuseHandoff workspace conversation agentRun reasonCode safeSummary =>
        cases h
        have hstated := rereadHandoff_stated s i conversation
        refine .stated hstated.locks ⟨fun hpoint => ?_, hstated.guarded⟩
          fun change endpoints hpoint => ?_
        · unfold EventStore.rereadHandoff at hpoint
          split at hpoint <;> cases hpoint
        · unfold EventStore.rereadHandoff at hpoint
          dsimp only at hpoint
          split at hpoint <;> cases hpoint
      | requestApproval | decideApproval | expireStaleApproval | cancelApproval => cases h
    | rollback =>
      cases h
      exact hrollback
    | query | overtaken | insert | emit | commit => cases h
  | reusing =>
    cases a with
    | commit | rollback =>
      cases h
      exact hrollback
    | query | overtaken | insert | reread | emit => cases h
  | changed change =>
    cases a with
    | emit =>
      simp only at h
      split at h
      · cases h
        exact .read ⟨(by intro hpoint; cases hpoint), ht.guarded⟩
      · cases h
    | commit now =>
      obtain ⟨out, hcommit, heq⟩ := Option.map_eq_some_iff.mp h
      cases heq
      exact .silent rfl hcommit
    | rollback =>
      cases h
      exact hrollback
    | query | overtaken | insert | reread => cases h
  | emitted change endpoints =>
    cases a with
    | commit now =>
      obtain ⟨out, hcommit, heq⟩ := Option.map_eq_some_iff.mp h
      cases heq
      exact .emitted rfl hcommit
    | rollback =>
      cases h
      exact hrollback
    | query | overtaken | insert | reread | emit => cases h
  | ended =>
    cases a <;> cases h

/-! ## Commits -/

theorem approval_set {k : Nat} {row : ToolExecution} (hlt : k < s.executions.length) (n : Nat) :
    EventStore.approval { s with executions := s.executions.set k row } n =
      if n = k then row.approvalRequest else s.approval n := by
  unfold EventStore.approval
  show ((s.executions.set k row)[n]?).bind _ = _
  by_cases hn : n = k
  · subst hn
    rw [List.getElem?_set_self hlt, if_pos rfl]
    rfl
  · rw [List.getElem?_set_ne (Ne.symm hn), if_neg hn]

/-- The write of an execution that keeps its workspace and gives it this request. -/
structure Writes (s : EventStore) (k : Nat) (request : ApprovalRequest) (s' : EventStore) :
    Prop where
  keeps : Keeps s s'
  handoffs : s'.handoffs = s.handoffs
  approval : ∀ n, s'.approval n = if n = k then some request else s.approval n

theorem writeExecution_writes {k : Nat} {f : ToolExecution → Option ToolExecution}
    {request : ApprovalRequest}
    (hf : ∀ row row', s.executions[k]? = some row → f row = some row' →
      row'.workspace = row.workspace ∧ row'.approvalRequest = some request)
    (h : s.writeExecution k f = some s') : Writes s k request s' := by
  obtain ⟨row, hrow, hout⟩ := Option.bind_eq_some_iff.mp h
  obtain ⟨row', hf', rfl⟩ := Option.map_eq_some_iff.mp hout
  obtain ⟨hworkspace, hrequest⟩ := hf row row' hrow hf'
  constructor
  · exact { Keeps.refl s with
      executions := Rows.set (R := fun a b : ToolExecution => b.workspace = a.workspace)
        (fun _ => rfl) hrow hworkspace }
  · rfl
  · intro n
    rw [approval_set (List.getElem?_eq_some_iff.mp hrow).1, hrequest]

theorem transitionWaitingForApproval_ok {row row' : ToolExecution}
    (h : (transitionWaitingForApproval row).toOption = some row') :
    row'.workspace = row.workspace ∧ row'.approvalRequest = row.approvalRequest := by
  unfold transitionWaitingForApproval at h
  split at h
  · cases h
  · cases h
    exact ⟨rfl, rfl⟩

/-- The request that a change leaves on its execution. -/
def Change.request : Change → Option (Nat × ApprovalRequest)
  | .requested _ k approval _ _ _ => some (k, approval)
  | .decided _ k approval actor decision now =>
    some (k, { approval with
      status := decision.status
      resolvedAt := some now
      decision := some ⟨decision, actor⟩ })
  | .expired _ k approval now =>
    some (k, { approval with status := .expired, resolvedAt := some now })
  | .cancelled _ _ | .handedOff _ _ => none

theorem applyChange_request {change : Change} {k : Nat} {request : ApprovalRequest}
    (hrequest : change.request = some (k, request)) (h : s.applyChange change = some s') :
    Writes s k request s' := by
  cases change with
  | requested =>
    cases hrequest
    refine writeExecution_writes (fun row row' _ hf => ?_) h
    exact transitionWaitingForApproval_ok hf
  | decided =>
    cases hrequest
    refine writeExecution_writes (fun row row' _ hf => ?_) h
    cases hf
    exact ⟨recordDecision_workspace _ _ _ _ _, recordDecision_request _ _ _ _ _⟩
  | expired =>
    cases hrequest
    refine writeExecution_writes (fun row row' _ hf => ?_) h
    cases hf
    exact ⟨terminateExecution_workspace _ _ _ _, terminateExecution_request _ _ _ _⟩
  | cancelled | handedOff => cases hrequest

/-- No other table is written by a change. -/
theorem applyChange_frame {change : Change} (h : s.applyChange change = some s') :
    s'.emissions = s.emissions ∧ s'.deliveries = s.deliveries ∧
      s'.webhookDeliveries = s.webhookDeliveries ∧ s'.locks = s.locks := by
  cases change with
  | handedOff =>
    cases h
    exact ⟨rfl, rfl, rfl, rfl⟩
  | requested | decided | expired | cancelled =>
    obtain ⟨row, -, hout⟩ := Option.bind_eq_some_iff.mp h
    obtain ⟨row', -, rfl⟩ := Option.map_eq_some_iff.mp hout
    exact ⟨rfl, rfl, rfl, rfl⟩

/-- A new handoff is the last row. -/
theorem handedOff_owes {workspace : Nat} {handoff : HumanHandoff}
    (h : s.applyChange (.handedOff workspace handoff) = some s') (eventType : WebhookEventType)
    (n : Nat) :
    (if s'.owes eventType n then 1 else 0) = (if s.owes eventType n then 1 else 0) +
      if eventType = .handoffCreated ∧ n = s.handoffs.length then 1 else 0 := by
  cases h
  by_cases hcreated : eventType = .handoffCreated
  · subst hcreated
    simp only [EventStore.owes, List.length_append, List.length_singleton, decide_eq_true_eq]
    grind
  · rw [EventStore.owes_eq hcreated, EventStore.owes_eq hcreated]
    simp only [hcreated, false_and, if_false, Nat.add_zero]
    rfl

/-- A write whose request calls for one more event than before. -/
theorem Writes.owes {k : Nat} {request : ApprovalRequest} {emitted : WebhookEventType}
    (h : Writes s k request s') (hemitted : emitted ≠ .handoffCreated)
    (hcalls : ∀ eventType, (if callsFor eventType (some request) then 1 else 0) =
      (if callsFor eventType (s.approval k) then 1 else 0) + if eventType = emitted then 1 else 0)
    (eventType : WebhookEventType) (n : Nat) :
    (if s'.owes eventType n then 1 else 0) =
      (if s.owes eventType n then 1 else 0) + if eventType = emitted ∧ n = k then 1 else 0 := by
  by_cases hcreated : eventType = .handoffCreated
  · subst hcreated
    have hrows : s'.owes .handoffCreated n = s.owes .handoffCreated n := by
      show decide (n < s'.handoffs.length) = decide (n < s.handoffs.length)
      rw [h.handoffs]
    simp [hrows, Ne.symm hemitted]
  · rw [EventStore.owes_eq hcreated, EventStore.owes_eq hcreated, h.approval]
    by_cases hn : n = k
    · subst hn
      simpa using hcalls eventType
    · simp [hn]

/-- The event of a guarded change is the one that its row now calls for. -/
theorem applyChange_owes {i : Nat} {change : Change} {event : WebhookEvent}
    (hguard : change.Guarded s i) (hevent : change.event s.handoffs.length = some event)
    (h : s.applyChange change = some s') (eventType : WebhookEventType) (n : Nat) :
    (if s'.owes eventType n then 1 else 0) =
      (if s.owes eventType n then 1 else 0) + if event.reports eventType n then 1 else 0 := by
  have hreports : event.reports eventType n =
      decide (eventType = event.eventType ∧ n = event.payloadSnapshot.subject) := by
    simp [WebhookEvent.reports, eq_comm]
  rw [hreports]
  simp only [decide_eq_true_eq]
  cases change with
  | requested workspace k approval =>
    cases hevent
    obtain ⟨hpending, hholds⟩ := hguard
    have hwrites : Writes s k _ s' := applyChange_request rfl h
    have hemitted : WebhookEventType.approvalRequested ≠ .handoffCreated := by decide
    refine hwrites.owes hemitted (fun other => ?_) eventType n
    rw [hholds.approval]
    cases other <;> simp [callsFor, hpending]
  | decided workspace k approval actor decision =>
    cases hevent
    obtain ⟨hpending, hholds⟩ := hguard
    have hwrites : Writes s k _ s' := applyChange_request rfl h
    have hemitted : decisionEventType decision ≠ .handoffCreated := by
      cases decision <;> decide
    refine hwrites.owes hemitted (fun other => ?_) eventType n
    rw [hholds.approval]
    cases other <;> cases decision <;>
      simp [callsFor, hpending, decisionEventType, ApprovalDecisionValue.status]
  | expired workspace k approval =>
    cases hevent
    obtain ⟨hpending, hholds⟩ := hguard
    have hwrites : Writes s k _ s' := applyChange_request rfl h
    have hemitted : WebhookEventType.approvalExpired ≠ .handoffCreated := by decide
    refine hwrites.owes hemitted (fun other => ?_) eventType n
    rw [hholds.approval]
    cases other <;> simp [callsFor, hpending]
  | cancelled => cases hevent
  | handedOff workspace handoff =>
    cases hevent
    exact handedOff_owes h eventType n

/-- A cancellation of a pending request, in the terms of a write. -/
theorem cancelled_writes {i k now : Nat} (hguard : (Change.cancelled k now).Guarded s i)
    (h : s.applyChange (.cancelled k now) = some s') :
    ∃ approval request : ApprovalRequest, s.approval k = some approval ∧
      approval.status = .pending ∧ request.status = .cancelled ∧ Writes s k request s' := by
  obtain ⟨workspace, approval, hpending, hholds⟩ := hguard
  refine ⟨approval, { approval with status := .cancelled, resolvedAt := some now },
    hholds.approval, hpending, rfl, writeExecution_writes (fun row row' hrow hf => ?_) h⟩
  obtain ⟨locked, hlocked, -, hrequest⟩ := hholds.row
  rw [hrow] at hlocked
  cases hlocked
  cases hf
  unfold cancelApprovalForExecution
  rw [hrequest]
  simp [hpending]

theorem applyChange_keeps {i : Nat} {change : Change} (hguard : change.Guarded s i)
    (h : s.applyChange change = some s') : Keeps s s' := by
  cases change with
  | requested | decided | expired => exact (applyChange_request rfl h).keeps
  | cancelled =>
    obtain ⟨approval, request, -, -, -, hwrites⟩ := cancelled_writes hguard h
    exact hwrites.keeps
  | handedOff workspace handoff =>
    cases h
    exact { Keeps.refl s with
      handoffs := Rows.append (R := fun a b : HumanHandoff => b.conversation = a.conversation)
        (fun _ => rfl) _ _ }

theorem applyChange_others {i n : Nat} {change : Change} (hguard : change.Guarded s i)
    (h : s.applyChange change = some s') (hn : change.target ≠ some n) :
    s'.approval n = s.approval n := by
  cases change with
  | requested _ k | decided _ k | expired _ k =>
    have hwrites : Writes s k _ s' := applyChange_request rfl h
    rw [hwrites.approval, if_neg]
    rintro rfl
    exact hn rfl
  | cancelled k =>
    obtain ⟨approval, request, -, -, -, hwrites⟩ := cancelled_writes hguard h
    rw [hwrites.approval, if_neg]
    rintro rfl
    exact hn rfl
  | handedOff =>
    cases h
    rfl

/-- A cancelled request calls for what a pending one does. -/
theorem cancelled_owes {i k now : Nat} (hguard : (Change.cancelled k now).Guarded s i)
    (h : s.applyChange (.cancelled k now) = some s') (eventType : WebhookEventType) (n : Nat) :
    s'.owes eventType n = s.owes eventType n := by
  obtain ⟨approval, request, hold, hpending, hcancelled, hwrites⟩ := cancelled_writes hguard h
  by_cases hcreated : eventType = .handoffCreated
  · subst hcreated
    show decide (n < s'.handoffs.length) = decide (n < s.handoffs.length)
    rw [hwrites.handoffs]
  · rw [EventStore.owes_eq hcreated, EventStore.owes_eq hcreated, hwrites.approval]
    split
    · rename_i heq
      rw [heq, hold]
      cases eventType <;> simp [callsFor, hpending, hcancelled]
    · rfl

/-- The event of a change has the workspace of its row. -/
theorem applyChange_placed {i : Nat} {change : Change} {event : WebhookEvent}
    (hguard : change.Guarded s i) (hevent : change.event s.handoffs.length = some event)
    (h : s.applyChange change = some s') : s'.Placed event := by
  have hkeeps := applyChange_keeps hguard h
  have hplaced : ∀ {k workspace : Nat} {request : Option ApprovalRequest},
      Holds s i k workspace request →
        ∃ row, s'.executions[k]? = some row ∧ row.workspace = workspace := by
    intro k workspace request hholds
    obtain ⟨row, hrow, hworkspace, -⟩ := hholds.row
    obtain ⟨row', hrow', hsame⟩ := hkeeps.executions k row hrow
    exact ⟨row', hrow', hsame.trans hworkspace⟩
  cases change with
  | requested =>
    cases hevent
    exact hplaced hguard.2
  | decided _ _ _ _ decision =>
    cases hevent
    cases decision <;> exact hplaced hguard.2
  | expired =>
    cases hevent
    exact hplaced hguard.2
  | cancelled => cases hevent
  | handedOff workspace handoff =>
    cases hevent
    cases h
    refine ⟨handoff, ?_, hguard⟩
    show (s.handoffs ++ [handoff])[s.handoffs.length]? = some handoff
    simp

theorem SameLinks.of_eq (hlinks : s'.webhookDeliveries = s.webhookDeliveries)
    (hdeliveries : s'.deliveries = s.deliveries) : SameLinks s s' := by
  constructor
  · exact hlinks
  · intro d delivery hdelivery
    rw [hdeliveries]
    exact ⟨delivery, hdelivery, rfl, rfl⟩
  · intro d delivery hdelivery hchannel
    rw [hdeliveries] at hdelivery
    exact ⟨delivery, hdelivery, hchannel⟩

/-- What a commit does for the law and for the other transactions. -/
theorem committed_spec {i : Nat} {change : Change} (hs : Exact s) (hguard : change.Guarded s i)
    (h : Committed cfg s i change s') :
    Exact s' ∧ Keeps s s' ∧ (∀ n, change.target ≠ some n → s'.approval n = s.approval n) ∧
      s'.locks = s.locks.filter (·.2 ≠ i) := by
  cases h with
  | emitted endpoints now h =>
    obtain ⟨changed, hchange, hout⟩ := Option.bind_eq_some_iff.mp h
    obtain ⟨event, hevent, hout⟩ := Option.bind_eq_some_iff.mp hout
    obtain ⟨emitted, hemit, rfl⟩ := Option.map_eq_some_iff.mp hout
    have hok : changed.emitEvent cfg event endpoints now = .ok emitted := by
      cases hresult : changed.emitEvent cfg event endpoints now with
      | error e =>
        rw [hresult] at hemit
        cases hemit
      | ok t =>
        rw [hresult] at hemit
        cases hemit
        rfl
    have hkeeps := applyChange_keeps hguard hchange
    obtain ⟨hemissions, hdeliveries, hlinks, hlocks⟩ := applyChange_frame hchange
    obtain ⟨hexact, hframe⟩ := hs.emit (applyChange_owes hguard hevent hchange) hkeeps
      (applyChange_placed hguard hevent hchange) ⟨hemissions, hdeliveries, hlinks⟩ hok
    refine ⟨⟨hexact.events, hexact.placed, hexact.fannedOut,
        ⟨hexact.linked.rows, hexact.linked.once⟩⟩,
      ?_, ?_, ?_⟩
    · rw [hframe]
      exact ⟨hkeeps.executions, hkeeps.handoffs, hkeeps.conversations⟩
    · intro n hn
      have hothers : changed.approval n = s.approval n := applyChange_others hguard hchange hn
      rw [hframe]
      exact hothers
    · rw [hframe, ← hlocks]
      rfl
  | silent h =>
    unfold EventStore.commitSilent at h
    split at h
    · cases h
    · rename_i hsilent
      obtain ⟨changed, hchange, rfl⟩ := Option.map_eq_some_iff.mp h
      have hkeeps := applyChange_keeps hguard hchange
      obtain ⟨hemissions, hdeliveries, hlinks, hlocks⟩ := applyChange_frame hchange
      have howes : ∀ eventType n, changed.owes eventType n = s.owes eventType n := by
        cases change with
        | cancelled => exact cancelled_owes hguard hchange
        | requested | decided | expired | handedOff => cases hsilent
      have hreleased : Keeps s (changed.release i) :=
        ⟨hkeeps.executions, hkeeps.handoffs, hkeeps.conversations⟩
      refine ⟨hs.quiet hreleased howes hemissions (.of_eq hlinks hdeliveries), hreleased, ?_, ?_⟩
      · intro n hn
        have hothers : changed.approval n = s.approval n := applyChange_others hguard hchange hn
        exact hothers
      · rw [← hlocks]
        rfl

end SupportPilot.Webhooks
