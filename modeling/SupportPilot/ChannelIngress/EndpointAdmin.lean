import SupportPilot.ChannelIngress.Adapters
import SupportPilot.ChannelIngress.Models
import SupportPilot.Integrations.SigningSecrets

/-!
# Channel endpoints

How channel endpoints are created and changed, and the secret that inbound requests are verified
with. Web chat has no secret.
-/

namespace SupportPilot.ChannelIngress

open Library Integrations

inductive EndpointError
  | invalidAgentVersion (message : String)
  | valueError
  | integrityError
  | crypto (error : CryptoError)
  deriving DecidableEq, Repr

/-- A version of an agent: its workspace, and whether it is published. -/
structure AgentVersionRow where
  workspace : Nat
  published : Bool

structure EndpointRow where
  workspace : Nat
  channel : ChannelType
  name : String
  agentVersion : AgentVersionRow
  integrationConnection : Option Nat := none
  unknownCustomerPolicy : UnknownCustomerPolicy := .create
  status : String := "active"
  encryptedSigningSecret : String := ""
  secretCreatedAt : Option Int := none
  configuration : JsonFields := []

def endpointStatuses : List String := ["active", "disabled"]

def maxNameLength : Nat := 200

/-- `name[:MAX_NAME_LENGTH]` -/
def boundedName (name : String) : String := .ofList (name.toList.take maxNameLength)

/-- The constraint of the table. -/
def EndpointRow.save (row : EndpointRow) : Except EndpointError EndpointRow :=
  if row.name = "" then .error .integrityError else .ok row

def validateAgentVersion (workspace : Nat) (agentVersion : AgentVersionRow) :
    Except EndpointError Unit :=
  if agentVersion.workspace ≠ workspace then
    .error (.invalidAgentVersion "Agent version does not belong to this workspace.")
  else if agentVersion.published = false then
    .error (.invalidAgentVersion "Agent version must be published.")
  else .ok ()

def needsSigningSecret (channel : ChannelType) : Bool := channel ≠ .webChat

variable {K : Type} (platform : CryptoPlatform K)

/-- The row of the new endpoint; the secret is returned beside it, if the channel has one. -/
def createEndpoint (keys : List String) (nonce : Nat) (plaintextSecret : SigningSecret)
    (workspace : Nat) (channel : ChannelType) (name : String) (agentVersion : AgentVersionRow)
    (integrationConnection : Option Nat) (unknownCustomerPolicy : UnknownCustomerPolicy)
    (configuration : JsonFields) (now : Int) : Except EndpointError EndpointRow := do
  validateAgentVersion workspace agentVersion
  let row : EndpointRow := {
    workspace, channel, agentVersion, integrationConnection, unknownCustomerPolicy, configuration
    name := boundedName name }
  if needsSigningSecret channel then
    let encryptedSecret ← encryptSecret platform .crypto keys nonce plaintextSecret
    EndpointRow.save { row with
      encryptedSigningSecret := encryptedSecret
      secretCreatedAt := some now }
  else row.save

def updateEndpoint (row : EndpointRow) (name : Option String)
    (agentVersion : Option AgentVersionRow) (unknownCustomerPolicy : Option UnknownCustomerPolicy)
    (configuration : Option JsonFields) : Except EndpointError EndpointRow := do
  agentVersion.elim (.ok ()) (validateAgentVersion row.workspace)
  EndpointRow.save { row with
    name := (name.map boundedName).getD row.name
    agentVersion := agentVersion.getD row.agentVersion
    unknownCustomerPolicy := unknownCustomerPolicy.getD row.unknownCustomerPolicy
    configuration := configuration.getD row.configuration }

def setEndpointStatus (row : EndpointRow) (status : String) : Except EndpointError EndpointRow :=
  if status ∈ endpointStatuses then .ok { row with status } else .error .valueError

def rotateSecret (keys : List String) (nonce : Nat) (plaintextSecret : SigningSecret)
    (row : EndpointRow) (now : Int) : Except EndpointError EndpointRow :=
  if needsSigningSecret row.channel then do
    let encryptedSecret ← encryptSecret platform .crypto keys nonce plaintextSecret
    .ok { row with encryptedSigningSecret := encryptedSecret, secretCreatedAt := some now }
  else .error .valueError

/-- `_endpoint_signing_secret` -/
def storedSigningSecret (keys : List String) (row : EndpointRow) :
    Except (Raised ⊕ CryptoError) CodePoints :=
  readSecret platform (.inl (.ingress .unsupportedEvent)) .inr keys row.encryptedSigningSecret

/-! ## What becomes of the secret -/

variable {platform} {keys : List String} {nonce workspace : Nat} {secret : SigningSecret}
  {row row' : EndpointRow} {channel : ChannelType} {name : String}
  {agentVersion : AgentVersionRow} {connection : Option Nat} {policy : UnknownCustomerPolicy}
  {configuration : JsonFields} {now : Int}

theorem EndpointRow.save_ok (h : row.save = .ok row') : row' = row := by
  unfold EndpointRow.save at h
  split at h
  · cases h
  · exact (Except.ok.inj h).symm

/-- A new endpoint has a secret exactly when its channel needs one. -/
theorem createEndpoint_ok (h : createEndpoint platform keys nonce secret workspace channel name
    agentVersion connection policy configuration now = .ok row) :
    row.channel = channel ∧
      (needsSigningSecret channel = true →
        ∃ key ring, multiFernet platform keys = .ok (key :: ring) ∧
          row.encryptedSigningSecret = secretToken platform key nonce secret) ∧
      (needsSigningSecret channel = false → row.encryptedSigningSecret = "") := by
  obtain ⟨-, -, h⟩ := bind_eq_ok.mp h
  cases hneeds : needsSigningSecret channel with
  | false =>
    simp only [hneeds, Bool.false_eq_true, if_false] at h
    obtain rfl := EndpointRow.save_ok h
    exact ⟨rfl, nofun, fun _ => rfl⟩
  | true =>
    simp only [hneeds, if_true] at h
    obtain ⟨token, htoken, hrow⟩ := bind_eq_ok.mp h
    obtain ⟨key, ring, hring, rfl⟩ := encryptSecret_ok htoken
    obtain rfl := EndpointRow.save_ok hrow
    exact ⟨rfl, fun _ => ⟨key, ring, hring, rfl⟩, nofun⟩

theorem updateEndpoint_secret {name : Option String} {agentVersion : Option AgentVersionRow}
    {policy : Option UnknownCustomerPolicy} {configuration : Option JsonFields}
    (h : updateEndpoint row name agentVersion policy configuration = .ok row') :
    row'.encryptedSigningSecret = row.encryptedSigningSecret ∧ row'.channel = row.channel := by
  obtain ⟨-, -, h⟩ := bind_eq_ok.mp h
  rw [EndpointRow.save_ok h]
  exact ⟨rfl, rfl⟩

theorem setEndpointStatus_secret {status : String}
    (h : setEndpointStatus row status = .ok row') :
    row'.encryptedSigningSecret = row.encryptedSigningSecret ∧ row'.channel = row.channel := by
  unfold setEndpointStatus at h
  split at h
  · rw [← Except.ok.inj h]
    exact ⟨rfl, rfl⟩
  · cases h

theorem rotateSecret_ok (h : rotateSecret platform keys nonce secret row now = .ok row') :
    row'.channel = row.channel ∧ needsSigningSecret row.channel = true ∧
      ∃ key ring, multiFernet platform keys = .ok (key :: ring) ∧
        row'.encryptedSigningSecret = secretToken platform key nonce secret := by
  unfold rotateSecret at h
  split at h
  · rename_i hneeds
    obtain ⟨token, htoken, hrow⟩ := bind_eq_ok.mp h
    obtain ⟨key, ring, hring, rfl⟩ := encryptSecret_ok htoken
    rw [← Except.ok.inj hrow]
    exact ⟨rfl, hneeds, key, ring, hring, rfl⟩
  · cases h

end SupportPilot.ChannelIngress
