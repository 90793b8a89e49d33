import SupportPilot.Library.CanonicalJson
import SupportPilot.Library.KeyRing
import SupportPilot.Library.Utf8

/-!
# Credentials at rest

A dictionary is written as canonical JSON and encrypted under the first of the configured keys; a
token is decrypted with any of them. The cryptographic library is a parameter. What it and the
interpreter raise is turned into one error, except for what nothing catches.
-/

namespace SupportPilot.Integrations

open Library

/-- The cryptographic library and the limits of the interpreter: `fernetKey` is what `Fernet` makes
of a configured key. -/
structure CryptoPlatform (K : Type) where
  fernet : Cipher K Bytes String
  fernetKey : String → Option K
  maxDigits : Nat
  encoderDepth : Nat
  readerDepth : Nat

inductive CryptoError
  | credentialEncryption (message : String)
  | valueError
  | recursionError
  | typeError
  deriving DecidableEq, Repr

def CryptoError.ofEncode : EncodeError → CryptoError
  | .tooManyDigits => .valueError
  | .tooDeep => .recursionError
  | .notSerializable => .typeError

variable {K : Type} (platform : CryptoPlatform K)

/-- `_multi_fernet()` with the configured keys. -/
def multiFernet (keys : List String) : Except CryptoError (List K) :=
  if keys = [] then
    .error (.credentialEncryption "Credential encryption is not configured.")
  else
    match keys.mapM platform.fernetKey with
    | none => .error (.credentialEncryption "Credential encryption key is misconfigured.")
    | some ring => .ok ring

/-- `MultiFernet.encrypt`; the library raises for an empty ring. -/
def encryptFirst (nonce : Nat) (plaintext : Bytes) : List K → Except CryptoError String
  | [] => .error .valueError
  | key :: _ => .ok (platform.fernet.encrypt key nonce plaintext)

def encryptCredentials (keys : List String) (nonce : Nat) (data : JsonFields) :
    Except CryptoError String :=
  match encode (.canonical platform.maxDigits) platform.encoderDepth (.object data) with
  | .error e => .error (.ofEncode e)
  | .ok text => do
    let ring ← multiFernet platform keys
    encryptFirst platform nonce (asciiBytes text) ring

/-- `json.loads` of a decrypted text that has to be a dictionary. -/
def readCredentials (plaintext : Bytes) : Except CryptoError JsonFields :=
  let corrupt := CryptoError.credentialEncryption "Stored credentials are corrupt."
  match decodeUtf8 plaintext with
  | none => .error corrupt
  | some text =>
    match loads ⟨platform.maxDigits, platform.readerDepth⟩ text with
    | .error .malformed => .error corrupt
    | .error .tooManyDigits => .error .valueError
    | .error .tooDeep => .error .recursionError
    | .ok (.object fields) => .ok fields
    | .ok _ => .error corrupt

def decryptCredentials (keys : List String) (ciphertext : String) :
    Except CryptoError JsonFields :=
  if ciphertext = "" then .error (.credentialEncryption "No credentials are configured.")
  else do
    let ring ← multiFernet platform keys
    if ciphertext.toList.all fun c => c.toNat < 0x80 then
      match platform.fernet.decryptAny ring ciphertext with
      | none => .error (.credentialEncryption "Stored credentials could not be decrypted.")
      | some plaintext => readCredentials platform plaintext
    else .error (.credentialEncryption "Stored credentials are malformed.")

/-! ## The round trip -/

/-- What the cryptographic library promises: its tokens are ASCII texts, and a key opens exactly
what was encrypted under it. -/
structure CryptoPlatform.Sound : Prop extends Cipher.Authentic platform.fernet where
  token_ne : ∀ k n m, platform.fernet.encrypt k n m ≠ ""
  token_ascii : ∀ k n m,
    (platform.fernet.encrypt k n m).toList.all (fun c => c.toNat < 0x80) = true

/-- The keys are well formed, and this is one of them. -/
def Opens (keys : List String) (key : K) : Prop :=
  ∃ ring, multiFernet platform keys = .ok ring ∧ key ∈ ring

variable {platform} {keys keys' : List String} {nonce : Nat} {data : JsonFields} {token : String}

theorem encryptCredentials_ok (h : encryptCredentials platform keys nonce data = .ok token) :
    ∃ key ring, multiFernet platform keys = .ok (key :: ring) ∧
      nesting (.object data) ≤ platform.encoderDepth ∧
      Writable (.canonical platform.maxDigits) (.object data) ∧
      token = platform.fernet.encrypt key nonce (asciiBytes (dumps (.object data))) := by
  unfold encryptCredentials at h
  cases htext : encode (.canonical platform.maxDigits) platform.encoderDepth (.object data) with
  | error e =>
    rw [htext] at h
    cases h
  | ok text =>
    rw [htext] at h
    obtain ⟨ring, hring, htoken⟩ := bind_eq_ok.mp h
    obtain ⟨hdepth, hwritable⟩ := (encode_ok_iff _ _ _).mp ⟨text, htext⟩
    obtain rfl := encode_eq_dumps ⟨rfl, rfl, rfl⟩ htext
    cases ring with
    | nil => cases htoken
    | cons key ring => exact ⟨key, ring, hring, hdepth, hwritable, (Except.ok.inj htoken).symm⟩

theorem readCredentials_dumps (hproper : Proper (.object data))
    (hdepth : nesting (.object data) ≤ platform.readerDepth)
    (hwritable : Writable (.canonical platform.maxDigits) (.object data)) :
    ∃ fields, readCredentials platform (asciiBytes (dumps (.object data))) = .ok fields ∧
      JsonValue.object fields = sorted (.object data) := by
  have hread := loads_dumps (.canonical platform.maxDigits) hproper hdepth hwritable
  refine ⟨sortedFields (sortedEach data), ?_, rfl⟩
  unfold readCredentials
  rw [decodeUtf8_asciiBytes (plain_dumps _)]
  have hlimits : loads ⟨platform.maxDigits, platform.readerDepth⟩ (dumps (.object data)) =
      .ok (.object (sortedFields (sortedEach data))) := hread
  simp only [hlimits]

/-- A token that was encrypted under a key is decrypted by whoever has this key among theirs. -/
theorem decryptCredentials_of_opens (hsound : platform.Sound) {key : K} {plaintext : Bytes}
    (hkey : Opens platform keys key) :
    decryptCredentials platform keys (platform.fernet.encrypt key nonce plaintext) =
      readCredentials platform plaintext := by
  obtain ⟨ring, hring, hmem⟩ := hkey
  unfold decryptCredentials
  rw [if_neg (hsound.token_ne _ _ _), hring]
  exact (if_pos (hsound.token_ascii _ _ _)).trans
    (by rw [hsound.decryptAny_of_mem hmem])

/-- Nobody else gets anything but the typed error. -/
theorem decryptCredentials_of_not_opens (hsound : platform.Sound) {key : K} {plaintext : Bytes}
    (hkey : ¬ Opens platform keys key) :
    ∃ message, decryptCredentials platform keys (platform.fernet.encrypt key nonce plaintext) =
      .error (.credentialEncryption message) := by
  unfold decryptCredentials
  rw [if_neg (hsound.token_ne _ _ _)]
  unfold Opens at hkey
  cases hring : multiFernet platform keys with
  | error e =>
    unfold multiFernet at hring
    split at hring
    · cases hring
      exact ⟨_, rfl⟩
    · split at hring
      · cases hring
        exact ⟨_, rfl⟩
      · cases hring
  | ok ring =>
    have hmem : key ∉ ring := fun hmem => hkey ⟨ring, hring, hmem⟩
    exact ⟨_, (if_pos (hsound.token_ascii _ _ _)).trans
      (by rw [hsound.decryptAny_of_not_mem hmem])⟩

end SupportPilot.Integrations
