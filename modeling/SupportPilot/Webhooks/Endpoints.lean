import SupportPilot.Integrations.SigningSecrets
import SupportPilot.Webhooks.Transport

/-!
# Webhook endpoints

How endpoints are created and changed, and the secret that their requests are signed with. A secret
is returned once, when it is drawn; later it is read back from its token.
-/

namespace SupportPilot.Webhooks

open Library Integrations

inductive EndpointError
  | webhook (error : WebhookError)
  | invalidEventType
  | valueError
  | integrityError
  | crypto (error : CryptoError)
  deriving DecidableEq, Repr

structure EndpointRow where
  workspace : Nat
  name : String
  url : String
  subscribedEventTypes : List String
  status : String := "active"
  encryptedSigningSecret : String := ""
  secretCreatedAt : Option Int := none

def endpointStatuses : List String := ["active", "disabled"]

def validEventTypes : List String :=
  ["approval.requested", "approval.approved", "approval.rejected", "approval.expired",
    "handoff.created"]

def maxNameLength : Nat := 200

/-- `name[:MAX_NAME_LENGTH]` -/
def boundedName (name : String) : String := .ofList (name.toList.take maxNameLength)

/-- The constraints of the table. -/
def EndpointRow.save (row : EndpointRow) : Except EndpointError EndpointRow :=
  if row.name = "" ∨ row.url = "" then .error .integrityError else .ok row

def validateEventTypes (eventTypes : List String) : Except EndpointError Unit :=
  if eventTypes = [] then .error .invalidEventType
  else if ¬ eventTypes.Nodup then .error .invalidEventType
  else if ¬ eventTypes ⊆ validEventTypes then .error .invalidEventType
  else .ok ()

variable {K : Type} (lib : Stdlib) (settings : WebhookSettings) (platform : CryptoPlatform K)

/-- `parse_webhook_url` and `_best_effort_ssrf_check` -/
def checkUrl (url : String) (answer : Answer) : Except EndpointError Unit :=
  match parseWebhookUrl lib settings url with
  | none => .error (.webhook .invalidUrl)
  | some parsed =>
    match (resolveAndValidate lib parsed.hostname parsed.port answer).2 with
    | .error e => .error (.webhook e.webhook)
    | .ok _ => .ok ()

/-- The row of the new endpoint; the secret is returned beside it. -/
def createEndpoint (keys : List String) (nonce : Nat) (plaintextSecret : SigningSecret)
    (workspace : Nat) (name url : String) (answer : Answer) (subscribedEventTypes : List String)
    (now : Int) : Except EndpointError EndpointRow := do
  checkUrl lib settings url answer
  validateEventTypes subscribedEventTypes
  let encryptedSecret ← encryptSecret platform .crypto keys nonce plaintextSecret
  EndpointRow.save {
    workspace, url, subscribedEventTypes
    name := boundedName name
    encryptedSigningSecret := encryptedSecret
    secretCreatedAt := some now }

def updateEndpoint (row : EndpointRow) (name url : Option String) (answer : Answer)
    (subscribedEventTypes : Option (List String)) : Except EndpointError EndpointRow := do
  url.elim (.ok ()) fun url => checkUrl lib settings url answer
  subscribedEventTypes.elim (.ok ()) validateEventTypes
  EndpointRow.save { row with
    name := (name.map boundedName).getD row.name
    url := url.getD row.url
    subscribedEventTypes := subscribedEventTypes.getD row.subscribedEventTypes }

def setEndpointStatus (row : EndpointRow) (status : String) : Except EndpointError EndpointRow :=
  if status ∈ endpointStatuses then .ok { row with status } else .error .valueError

def rotateSecret (keys : List String) (nonce : Nat) (plaintextSecret : SigningSecret)
    (row : EndpointRow) (now : Int) : Except EndpointError EndpointRow := do
  let encryptedSecret ← encryptSecret platform .crypto keys nonce plaintextSecret
  .ok { row with encryptedSigningSecret := encryptedSecret, secretCreatedAt := some now }

def currentSecret (keys : List String) (row : EndpointRow) : Except EndpointError CodePoints :=
  readSecret platform (.webhook .signingNotConfigured) .crypto keys row.encryptedSigningSecret

/-! ## What becomes of the secret -/

variable {lib settings platform} {keys : List String} {nonce workspace : Nat}
  {secret : SigningSecret} {row row' : EndpointRow} {name url : String} {answer : Answer}
  {eventTypes : List String} {now : Int}

theorem EndpointRow.save_ok (h : row.save = .ok row') : row' = row := by
  unfold EndpointRow.save at h
  split at h
  · cases h
  · exact (Except.ok.inj h).symm

theorem createEndpoint_ok (h : createEndpoint lib settings platform keys nonce secret workspace
    name url answer eventTypes now = .ok row) :
    ∃ key ring, multiFernet platform keys = .ok (key :: ring) ∧
      row.encryptedSigningSecret = secretToken platform key nonce secret := by
  obtain ⟨-, -, h⟩ := bind_eq_ok.mp h
  obtain ⟨-, -, h⟩ := bind_eq_ok.mp h
  obtain ⟨token, htoken, hrow⟩ := bind_eq_ok.mp h
  obtain ⟨key, ring, hring, rfl⟩ := encryptSecret_ok htoken
  obtain rfl := EndpointRow.save_ok hrow
  exact ⟨key, ring, hring, rfl⟩

theorem updateEndpoint_secret {name url : Option String} {eventTypes : Option (List String)}
    (h : updateEndpoint lib settings row name url answer eventTypes = .ok row') :
    row'.encryptedSigningSecret = row.encryptedSigningSecret := by
  obtain ⟨-, -, h⟩ := bind_eq_ok.mp h
  obtain ⟨-, -, h⟩ := bind_eq_ok.mp h
  rw [EndpointRow.save_ok h]

theorem setEndpointStatus_secret {status : String}
    (h : setEndpointStatus row status = .ok row') :
    row'.encryptedSigningSecret = row.encryptedSigningSecret := by
  unfold setEndpointStatus at h
  split at h
  · rw [← Except.ok.inj h]
  · cases h

theorem rotateSecret_ok (h : rotateSecret platform keys nonce secret row now = .ok row') :
    ∃ key ring, multiFernet platform keys = .ok (key :: ring) ∧
      row'.encryptedSigningSecret = secretToken platform key nonce secret := by
  obtain ⟨token, htoken, hrow⟩ := bind_eq_ok.mp h
  obtain ⟨key, ring, hring, rfl⟩ := encryptSecret_ok htoken
  exact ⟨key, ring, hring, by rw [← Except.ok.inj hrow]⟩

end SupportPilot.Webhooks
