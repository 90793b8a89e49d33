import SupportPilot.Integrations.Crypto
import SupportPilot.Library.Identifiers

/-!
# Signing secrets at rest

A signing secret is drawn by the server and stored as a dictionary with this one field. Webhook and
channel endpoints read it back alike; they differ in the error for a secret that cannot be read.
-/

namespace SupportPilot.Integrations

open Library

/-- `secrets.token_hex(32)` -/
structure SigningSecret where
  digits : List (Fin 16)
  length_digits : digits.length = 64
  deriving DecidableEq

def SigningSecret.text (secret : SigningSecret) : CodePoints :=
  (secret.digits.map Uuid.hexDigit).map codePoint

def secretField : CodePoints := codePoints "secret"

/-- `{"secret": plaintext_secret}` -/
def secretEnvelope (secret : SigningSecret) : JsonFields := [(secretField, .string secret.text)]

variable {K E : Type} (platform : CryptoPlatform K)

/-- `encrypt_credentials({"secret": plaintext_secret})` -/
def encryptSecret (uncaught : CryptoError → E) (keys : List String) (nonce : Nat)
    (plaintextSecret : SigningSecret) : Except E String :=
  match encryptCredentials platform keys nonce (secretEnvelope plaintextSecret) with
  | .ok token => .ok token
  | .error e => .error (uncaught e)

/-- `refused` is raised where there is no secret that can be read. -/
def readSecret (refused : E) (uncaught : CryptoError → E) (keys : List String)
    (ciphertext : String) : Except E CodePoints :=
  if ciphertext = "" then .error refused
  else
    match decryptCredentials platform keys ciphertext with
    | .error (.credentialEncryption _) => .error refused
    | .error e => .error (uncaught e)
    | .ok data =>
      match data.lookup secretField with
      | some (.string (c :: rest)) => .ok (c :: rest)
      | _ => .error refused

/-! ## A stored secret is read back -/

theorem unpaired_chars (text : List Char) : Unpaired (text.map codePoint) := by
  have hchar : ∀ c : Char, isHighSurrogate (codePoint c).val = false := by
    intro c
    have hvalid : c.toNat < 0xD800 ∨ 0xDFFF < c.toNat ∧ c.toNat < 0x110000 := c.valid
    refine Bool.eq_false_iff.mpr fun h => ?_
    obtain ⟨hlow, hhigh⟩ := Bool.and_eq_true_iff.mp h
    have hlow : 0xD800 ≤ c.toNat := of_decide_eq_true hlow
    have hhigh : c.toNat ≤ 0xDBFF := of_decide_eq_true hhigh
    omega
  refine List.isChain_map_of_isChain _ (R := fun _ _ => True) (fun c d _ => ?_)
    (List.pairwise_of_forall fun _ _ => trivial).isChain
  rw [hchar, Bool.false_and]

theorem proper_secretEnvelope (secret : SigningSecret) :
    Proper (.object (secretEnvelope secret)) := by
  refine ⟨List.nodup_singleton _, ⟨?_, unpaired_chars _⟩, trivial⟩
  exact unpaired_chars _

theorem lookup_secretEnvelope {secret : SigningSecret} {fields : JsonFields}
    (h : JsonValue.object fields = sorted (.object (secretEnvelope secret))) :
    fields.lookup secretField = some (.string secret.text) := by
  obtain rfl : fields = sortedFields [(secretField, .string secret.text)] :=
    JsonValue.object.inj h
  rw [sortedFields, List.mergeSort_singleton]
  exact List.lookup_cons_self

theorem secret_text_cons (secret : SigningSecret) : ∃ c rest, secret.text = c :: rest := by
  obtain ⟨digits, hlength⟩ := secret
  cases digits with
  | nil => cases hlength
  | cons d digits => exact ⟨_, _, rfl⟩

/-- The token of a secret under a key. -/
def secretToken (key : K) (nonce : Nat) (secret : SigningSecret) : String :=
  platform.fernet.encrypt key nonce (asciiBytes (dumps (.object (secretEnvelope secret))))

variable {platform} {keys : List String} {key : K} {nonce : Nat} {secret : SigningSecret}
  {refused : E} {uncaught : CryptoError → E}

theorem encryptSecret_ok {token : String}
    (h : encryptSecret platform uncaught keys nonce secret = .ok token) :
    ∃ key ring, multiFernet platform keys = .ok (key :: ring) ∧
      token = secretToken platform key nonce secret := by
  unfold encryptSecret at h
  cases htoken : encryptCredentials platform keys nonce (secretEnvelope secret) with
  | error e =>
    rw [htoken] at h
    cases h
  | ok token' =>
    rw [htoken] at h
    obtain rfl := Except.ok.inj h
    obtain ⟨key, ring, hring, -, -, htoken⟩ := encryptCredentials_ok htoken
    exact ⟨key, ring, hring, htoken⟩

theorem readSecret_of_opens (hsound : platform.Sound) (hdepth : 0 < platform.readerDepth)
    (hkey : Opens platform keys key) :
    readSecret platform refused uncaught keys (secretToken platform key nonce secret) =
      .ok secret.text := by
  have hread : ∃ fields, readCredentials platform
      (asciiBytes (dumps (.object (secretEnvelope secret)))) = .ok fields ∧
      JsonValue.object fields = sorted (.object (secretEnvelope secret)) :=
    readCredentials_dumps (proper_secretEnvelope secret) hdepth ⟨trivial, trivial⟩
  obtain ⟨fields, hfields, hsorted⟩ := hread
  obtain ⟨c, rest, htext⟩ := secret_text_cons secret
  unfold readSecret
  rw [secretToken, if_neg (hsound.token_ne _ _ _), decryptCredentials_of_opens hsound hkey,
    hfields]
  simp only [lookup_secretEnvelope hsorted, htext]

theorem readSecret_of_not_opens (hsound : platform.Sound) (hkey : ¬ Opens platform keys key) :
    readSecret platform refused uncaught keys (secretToken platform key nonce secret) =
      .error refused := by
  have hdecrypted : ∃ message, decryptCredentials platform keys
      (secretToken platform key nonce secret) = .error (.credentialEncryption message) :=
    decryptCredentials_of_not_opens hsound hkey
  obtain ⟨message, hmessage⟩ := hdecrypted
  unfold readSecret
  rw [hmessage]
  exact if_neg (hsound.token_ne _ _ _)

end SupportPilot.Integrations
