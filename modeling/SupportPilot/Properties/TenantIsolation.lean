import SupportPilot.BusinessTools.Boundary

/-!
# Tool calls of different workspaces

Two databases that have the same rows of a workspace and the same tool catalogue, and that may have
any rows of other workspaces, cannot be told apart by a tool call of this workspace, and the call
leaves the rows of the others alone. The keys of new rows, the times and the answers of the
providers are those of one environment.
-/

namespace SupportPilot.BusinessTools

open Library

/-- The run and its version have rows in its workspace, its creator exists, and no key of the
supply is taken. -/
structure Loaded (env : Environment) (run : RunObject) (s : Database) : Prop where
  row : ∃ row ∈ (s.tables .agentRun).of run.workspace, row.id = run.pk
  version : ∃ row ∈ (s.tables .agentVersion).of run.workspace, row.id = run.version
  creator : ∀ user ∈ run.createdBy, user ∈ s.shared.users
  fresh : ∀ k n, env.ids n ∉ (s.tables k).keys

/-- The same rows of the workspace and the same catalogue, at the same point of the environment. -/
structure AgreeOn (workspace : Nat) (s t : Database) : Prop where
  rows : ∀ k, (s.tables k).of workspace = (t.tables k).of workspace
  definitions : s.shared.definitions = t.shared.definitions
  drawn : s.drawn = t.drawn
  ticks : s.shared.ticks = t.shared.ticks
  requests : s.shared.requests = t.shared.requests

/-- The rows of the other workspaces are as they were, and so is what no workspace owns. -/
structure Untouched (workspace : Nat) (s s' : Database) : Prop where
  rows : ∀ k other, other ≠ workspace → (s'.tables k).of other = (s.tables k).of other
  definitions : s'.shared.definitions = s.shared.definitions
  users : s'.shared.users = s.shared.users

/-- What two databases that agree on a workspace make of a statement. -/
structure Isolated {α : Type} (workspace : Nat) (m : Statement α) (s t : Database) : Prop where
  result : (m.run s).1 = (m.run t).1
  agree : AgreeOn workspace (m.run s).2 (m.run t).2
  untouched : Untouched workspace s (m.run s).2
  untouched' : Untouched workspace t (m.run t).2

section

variable {α : Type} {env : Environment} {run : RunObject} {s t : Database}

/-- The workspace of a run, with the keys of its rows. -/
def tenancyOf (env : Environment) (run : RunObject) (s : Database) : Tenancy Nat Nat Kind :=
  Tenancy.ofStore env.ids env.distinct run.workspace s

theorem tenancyOf_mine {k : Kind} {pk : Nat}
    (h : ∃ row ∈ (s.tables k).of run.workspace, row.id = pk) : (tenancyOf env run s).mine k pk :=
  .inl h

theorem Loaded.runOf (h : Loaded env run s) : RunOf (tenancyOf env run s) run.createdBy run where
  workspace := rfl
  row := tenancyOf_mine h.row
  version := tenancyOf_mine h.version
  createdBy := rfl

theorem AgreeOn.alike (h : AgreeOn run.workspace s t) (hs : Loaded env run s)
    (ht : Loaded env run t) :
    (tenancyOf env run s).Alike (worldBoundary run.createdBy) s t :=
  Tenancy.alike_ofStore h.rows hs.fresh ht.fresh h.drawn
    ⟨h.definitions, h.ticks, h.requests,
      fun user huser => iff_of_true (hs.creator user huser) (ht.creator user huser)⟩

theorem untouched_of_spares {s' : Database}
    (h : (tenancyOf env run s).Spares (worldBoundary run.createdBy) t s') :
    Untouched run.workspace t s' :=
  ⟨h.others, h.shared.1, h.shared.2⟩

/-- A statement within the workspace is isolated. -/
theorem Within.isolated {post : α → Prop} {m : Statement α}
    (hm : Within (tenancyOf env run s) run.createdBy post m) (hs : Loaded env run s)
    (ht : Loaded env run t) (h : AgreeOn run.workspace s t) :
    Isolated run.workspace m s t := by
  have halike := h.alike hs ht
  obtain ⟨hsame, hagree, hkeeps, -⟩ := hm.runs halike
  have hkeeps' := (hm.runs (Boundary.agree_symm _ halike)).keeps
  obtain ⟨hdefinitions, hticks, hrequests, -⟩ := hagree.shared
  exact ⟨hsame, ⟨hagree.rows, hdefinitions, hagree.drawn, hticks, hrequests⟩,
    untouched_of_spares hkeeps, untouched_of_spares hkeeps'⟩

end

/-- A call of a business tool is isolated, whatever its arguments and its idempotency key are. -/
theorem executeTool_isolated {env : Environment} (tool : BusinessTool) {run : RunObject}
    (arguments : JsonObject) (idempotencyKey : String) {s t : Database} (hs : Loaded env run s)
    (ht : Loaded env run t) (h : AgreeOn run.workspace s t) :
    Isolated run.workspace (executeTool env tool run arguments idempotencyKey) s t :=
  (within_executeTool rfl hs.runOf arguments idempotencyKey).isolated hs ht h

/-! ## Two databases that differ in a customer of another workspace -/

def foreignCustomerId : String := "00000000-0000-0000-0000-000000000007"

theorem add_hundred_injective : Function.Injective (· + 100 : Nat → Nat) :=
  fun _ _ h => Nat.add_right_cancel h

/-- The texts are those of a call with the identifier of the customer and nothing else. -/
def sampleEnvironment : Environment where
  ids := (· + 100)
  distinct := add_hundred_injective
  clock ticks := ticks
  lib :=
    { integer := fun _ => none
      number := fun _ => none
      moment := fun _ => none
      dumpMoment := fun _ => ""
      validEmail := fun _ => false
      upper := String.toUpper
      lower := String.toLower }
  py := { lower := String.toLower, str := fun _ => "" }
  parseUuid text := if text = foreignCustomerId then some 7 else none
  float _ := none
  isoformat _ := ""
  jsonLength _ := some 55
  jsonText _ := "\x7b\"customer_id\": \"00000000-0000-0000-0000-000000000007\", " ++
    "\"email\": null, \"external_reference\": null\x7d"
  jsonbAccepts _ := true
  fingerprint _ := "89bbb9ff56d1ee776ed01db352f7b012520b3efee72c663bb3896c8f6e7c8a0f"
  decrypt _ := none
  accepts _ _ := true
  providers :=
    { getOrder := fun _ _ => .error .uncaught
      getShipment := fun _ _ => .error .uncaught
      getPayment := fun _ _ => .error .uncaught
      refundPayment := fun _ _ => .error .uncaught
      getAvailability := fun _ _ => .error .uncaught
      createBooking := fun _ _ => .error .uncaught }
  settings :=
    { defaultTimeoutSeconds := 8
      maxTimeoutSeconds := 15
      calendarMaxHorizon := 7776000000000
      calendarMaxTitleLength := 200
      notificationMaxSubjectLength := 200
      notificationMaxBodyLength := 5000
      deliveryDefaultMaxAttempts := 5
      riskBumpFinancialAmountMinor := 100000
      policies :=
        { predicate := fun _ => none
          defaultApprovalTtlSeconds := 86400
          refundAutoAllowMaxMinor := 5000
          refundApprovalMaxMinor := 50000
          repr := id
          upper := String.toUpper } }
  deadline _ := none
  turns := []

def sampleRun : RunObject where
  workspace := 1
  agentVersion := {}
  createdBy := some 5
  status := .running
  startedAt := some 0
  pk := 1
  version := 2

def oneRow {α : Type} (row : TenantRow Nat Nat α) : TenantTable Nat Nat α where
  rows := [row]
  nodup := List.nodup_singleton _

/-- The run of workspace 1 with its version, which is bound to the lookup of customers. -/
def sampleTables (customers : TenantTable Nat Nat Customer) :
    (k : Kind) → TenantTable Nat Nat (Columns k)
  | .customer => customers
  | .agentRun => oneRow ⟨1, 1, { toAgentRun := sampleRun.toAgentRun }⟩
  | .agentVersion => oneRow ⟨2, 1, { bindings := [⟨3, "customer.lookup", true, []⟩] }⟩
  | _ => .empty

def sampleDatabase (customers : TenantTable Nat Nat Customer) : Database where
  tables := sampleTables customers
  drawn := 0
  shared := { definitions := [⟨"customer.lookup", true, .readOnly, .read⟩], users := [5] }

def foreignCustomer : TenantTable Nat Nat Customer := oneRow ⟨7, 2, { displayName := "Ada" }⟩

theorem sampleDatabase_loaded {customers : TenantTable Nat Nat Customer}
    (hfresh : ∀ n, n + 100 ∉ customers.keys) :
    Loaded sampleEnvironment sampleRun (sampleDatabase customers) where
  row := ⟨_, TenantTable.mem_of.mpr ⟨List.mem_singleton_self _, rfl⟩, rfl⟩
  version := ⟨_, TenantTable.mem_of.mpr ⟨List.mem_singleton_self _, rfl⟩, rfl⟩
  creator user huser := by
    cases huser
    exact List.mem_singleton_self 5
  fresh k n := by
    cases k with
    | customer => exact hfresh n
    | agentRun | agentVersion =>
      exact fun h => absurd (List.mem_singleton.mp h) (by simp [sampleEnvironment])
    | _ => exact List.not_mem_nil

theorem sampleDatabases_agree :
    AgreeOn sampleRun.workspace (sampleDatabase .empty) (sampleDatabase foreignCustomer) where
  rows k := by cases k <;> rfl
  definitions := rfl
  drawn := rfl
  ticks := rfl
  requests := rfl

/-- The model names a customer of workspace 2, who exists in one of the databases. -/
theorem executeTool_isolated_foreignCustomer :
    Isolated 1
      (executeTool sampleEnvironment .customerLookup sampleRun
        [("customer_id", .string foreignCustomerId)] "k")
      (sampleDatabase .empty) (sampleDatabase foreignCustomer) :=
  executeTool_isolated .customerLookup _ "k" (sampleDatabase_loaded fun _ => List.not_mem_nil)
    (sampleDatabase_loaded fun n h => absurd (List.mem_singleton.mp h) (by simp))
    sampleDatabases_agree

end SupportPilot.BusinessTools
