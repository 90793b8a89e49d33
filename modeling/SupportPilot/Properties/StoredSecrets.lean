import SupportPilot.ChannelIngress.EndpointAdmin
import SupportPilot.Library.Table
import SupportPilot.Library.Transition
import SupportPilot.Webhooks.Endpoints

/-!
# Stored signing secrets

The tables of webhook and channel endpoints are a safe: whatever administrators do, and whatever
keys each process is configured with, an endpoint signs or verifies with the secret that was handed
out for it last, and where the key of that secret is missing, with none.
-/

namespace SupportPilot.Integrations

open Library

/-! ## The tables -/

inductive Holder
  | webhook (k : Nat)
  | channel (k : Nat)
  deriving DecidableEq, Repr

/-- The endpoints, and for each of them the secret that its administrator was given last, with the
key of the process that drew it. -/
structure SecretStore (K : Type) where
  webhooks : List Webhooks.EndpointRow := []
  channels : List ChannelIngress.EndpointRow := []
  drawn : Nat := 0
  safe : Safe Holder K SigningSecret := .empty

/-- What an administrator asks of a process, with the keys that the process is configured with
where it encrypts. -/
inductive SecretLabel
  | createWebhook (keys : List String) (workspace : Nat) (name url : String)
      (answer : Webhooks.Answer) (eventTypes : List String) (now : Int)
  | updateWebhook (k : Nat) (name url : Option String) (answer : Webhooks.Answer)
      (eventTypes : Option (List String))
  | setWebhookStatus (k : Nat) (status : String)
  | rotateWebhook (keys : List String) (k : Nat) (now : Int)
  | createChannel (keys : List String) (workspace : Nat) (channel : ChannelIngress.ChannelType)
      (name : String) (agentVersion : ChannelIngress.AgentVersionRow)
      (integrationConnection : Option Nat)
      (unknownCustomerPolicy : ChannelIngress.UnknownCustomerPolicy)
      (configuration : JsonFields) (now : Int)
  | updateChannel (k : Nat) (name : Option String)
      (agentVersion : Option ChannelIngress.AgentVersionRow)
      (unknownCustomerPolicy : Option ChannelIngress.UnknownCustomerPolicy)
      (configuration : Option JsonFields)
  | setChannelStatus (k : Nat) (status : String)
  | rotateChannel (keys : List String) (k : Nat) (now : Int)

structure SecretMachine (K : Type) where
  platform : CryptoPlatform K
  lib : Webhooks.Stdlib
  settings : Webhooks.WebhookSettings
  /-- `generate_signing_secret()` -/
  draw : Nat → SigningSecret

variable {K : Type} (m : SecretMachine K)

/-- The secret is returned to the caller; it is encrypted under the first key. -/
def SecretMachine.handOut (keys : List String) (holder : Holder) (s : SecretStore K) :
    Safe Holder K SigningSecret :=
  match multiFernet m.platform keys with
  | .ok (key :: _) => s.safe.put holder key (m.draw s.drawn)
  | _ => s.safe

/-- A call that raises is rolled back and is no step. -/
def secretStep : SecretLabel → SecretStore K → Option (SecretStore K)
  | .createWebhook keys workspace name url answer eventTypes now, s => do
    let row ← (Webhooks.createEndpoint m.lib m.settings m.platform keys s.drawn (m.draw s.drawn)
      workspace name url answer eventTypes now).toOption
    some { s with
      webhooks := s.webhooks ++ [row]
      drawn := s.drawn + 1
      safe := m.handOut keys (.webhook s.webhooks.length) s }
  | .updateWebhook k name url answer eventTypes, s => do
    let row ← s.webhooks[k]?
    let row' ← (Webhooks.updateEndpoint m.lib m.settings row name url answer eventTypes).toOption
    some { s with webhooks := s.webhooks.set k row' }
  | .setWebhookStatus k status, s => do
    let row ← s.webhooks[k]?
    let row' ← (Webhooks.setEndpointStatus row status).toOption
    some { s with webhooks := s.webhooks.set k row' }
  | .rotateWebhook keys k now, s => do
    let row ← s.webhooks[k]?
    let row' ← (Webhooks.rotateSecret m.platform keys s.drawn (m.draw s.drawn) row now).toOption
    some { s with
      webhooks := s.webhooks.set k row'
      drawn := s.drawn + 1
      safe := m.handOut keys (.webhook k) s }
  | .createChannel keys workspace channel name agentVersion connection policy configuration now,
      s => do
    let row ← (ChannelIngress.createEndpoint m.platform keys s.drawn (m.draw s.drawn) workspace
      channel name agentVersion connection policy configuration now).toOption
    some { s with
      channels := s.channels ++ [row]
      drawn := s.drawn + 1
      safe :=
        if ChannelIngress.needsSigningSecret channel then
          m.handOut keys (.channel s.channels.length) s
        else s.safe }
  | .updateChannel k name agentVersion policy configuration, s => do
    let row ← s.channels[k]?
    let row' ←
      (ChannelIngress.updateEndpoint row name agentVersion policy configuration).toOption
    some { s with channels := s.channels.set k row' }
  | .setChannelStatus k status, s => do
    let row ← s.channels[k]?
    let row' ← (ChannelIngress.setEndpointStatus row status).toOption
    some { s with channels := s.channels.set k row' }
  | .rotateChannel keys k now, s => do
    let row ← s.channels[k]?
    let row' ←
      (ChannelIngress.rotateSecret m.platform keys s.drawn (m.draw s.drawn) row now).toOption
    some { s with
      channels := s.channels.set k row'
      drawn := s.drawn + 1
      safe := m.handOut keys (.channel k) s }

def secretSystem : System (SecretStore K) SecretLabel where
  initial s := s = {}
  step := secretStep m

/-! ## The tables represent the safe -/

variable {m} {s s' : SecretStore K}

/-- The text is the token of what is in the safe. -/
def Holds (platform : CryptoPlatform K) (safe : Safe Holder K SigningSecret) (holder : Holder)
    (ciphertext : String) : Prop :=
  ∃ key secret nonce, safe holder = some (key, secret) ∧
    ciphertext = secretToken platform key nonce secret

/-- A channel that needs no secret has none. -/
def ChannelHolds (platform : CryptoPlatform K) (safe : Safe Holder K SigningSecret) (k : Nat)
    (row : ChannelIngress.EndpointRow) : Prop :=
  if ChannelIngress.needsSigningSecret row.channel then
    Holds platform safe (.channel k) row.encryptedSigningSecret
  else row.encryptedSigningSecret = "" ∧ safe (.channel k) = none

/-- A row has what the safe has for it, and nothing is kept for rows that are not there. -/
structure Represents (platform : CryptoPlatform K) (s : SecretStore K) : Prop where
  webhooks : AllRows (fun k row =>
    Holds platform s.safe (.webhook k) row.encryptedSigningSecret) s.webhooks
  channels : AllRows (ChannelHolds platform s.safe) s.channels
  unborn : ∀ k, s.channels.length ≤ k → s.safe (.channel k) = none

theorem handOut_eq {keys : List String} {key : K} {ring : List K} (holder : Holder)
    (h : multiFernet m.platform keys = .ok (key :: ring)) :
    m.handOut keys holder s = s.safe.put holder key (m.draw s.drawn) := by
  rw [SecretMachine.handOut, h]

theorem Holds.put_self (safe : Safe Holder K SigningSecret) (holder : Holder) (key : K)
    (nonce : Nat) (secret : SigningSecret) :
    Holds m.platform (safe.put holder key secret) holder
      (secretToken m.platform key nonce secret) :=
  ⟨key, secret, nonce, Safe.put_self, rfl⟩

theorem Holds.put_of_ne {safe : Safe Holder K SigningSecret} {holder other : Holder}
    {ciphertext : String} (h : Holds m.platform safe other ciphertext) (hne : other ≠ holder)
    (key : K) (secret : SigningSecret) :
    Holds m.platform (safe.put holder key secret) other ciphertext := by
  obtain ⟨key', secret', nonce, hsafe, htoken⟩ := h
  exact ⟨key', secret', nonce, (Safe.put_of_ne hne).trans hsafe, htoken⟩

theorem ChannelHolds.put_of_ne {safe : Safe Holder K SigningSecret} {holder : Holder} {k : Nat}
    {row : ChannelIngress.EndpointRow} (h : ChannelHolds m.platform safe k row)
    (hne : .channel k ≠ holder) (key : K) (secret : SigningSecret) :
    ChannelHolds m.platform (safe.put holder key secret) k row := by
  unfold ChannelHolds at h ⊢
  split
  · rename_i hneeds
    rw [if_pos hneeds] at h
    exact h.put_of_ne hne key secret
  · rename_i hneeds
    rw [if_neg hneeds] at h
    exact ⟨h.1, (Safe.put_of_ne hne).trans h.2⟩

theorem toOption_eq_some {E A : Type} {x : Except E A} {a : A} :
    x.toOption = some a ↔ x = .ok a := by
  cases x <;> simp [Except.toOption]

namespace Represents

/-- A webhook row that keeps its text keeps its secret. -/
theorem set_webhook (h : Represents m.platform s) {k : Nat} {row row' : Webhooks.EndpointRow}
    (hk : s.webhooks[k]? = some row)
    (hrow : row'.encryptedSigningSecret = row.encryptedSigningSecret) :
    Represents m.platform { s with webhooks := s.webhooks.set k row' } :=
  ⟨h.webhooks.set (hrow ▸ h.webhooks k row hk), h.channels, h.unborn⟩

theorem set_channel (h : Represents m.platform s) {k : Nat}
    {row row' : ChannelIngress.EndpointRow} (hk : s.channels[k]? = some row)
    (hrow : row'.encryptedSigningSecret = row.encryptedSigningSecret ∧
      row'.channel = row.channel) :
    Represents m.platform { s with channels := s.channels.set k row' } := by
  refine ⟨h.webhooks, h.channels.set ?_, fun j hj => h.unborn j ?_⟩
  · have hold := h.channels k row hk
    unfold ChannelHolds at hold ⊢
    rwa [hrow.1, hrow.2]
  · rwa [List.length_set] at hj

/-- What is put for a webhook endpoint leaves the channels as they are. -/
theorem put_webhook (h : Represents m.platform s) {k : Nat} {key : K} {secret : SigningSecret}
    {rows : List Webhooks.EndpointRow} (hrows : AllRows (fun j row =>
      Holds m.platform (s.safe.put (.webhook k) key secret) (.webhook j)
        row.encryptedSigningSecret) rows) (drawn : Nat) :
    Represents m.platform { s with
      webhooks := rows, drawn := drawn, safe := s.safe.put (.webhook k) key secret } :=
  have hne : ∀ j, Holder.channel j ≠ .webhook k := fun _ heq => by cases heq
  have hsafe : ∀ j, s.safe.put (.webhook k) key secret (.channel j) = s.safe (.channel j) :=
    fun j => Safe.put_of_ne (hne j)
  ⟨hrows, h.channels.imp fun j _ _ hrow => hrow.put_of_ne (hne j) key secret,
    fun j hj => (hsafe j).trans (h.unborn j hj)⟩

theorem put_channel (h : Represents m.platform s) {k : Nat} {key : K} {secret : SigningSecret}
    {rows : List ChannelIngress.EndpointRow}
    (hrows : AllRows (ChannelHolds m.platform (s.safe.put (.channel k) key secret)) rows)
    (hk : k < rows.length) (hlength : s.channels.length ≤ rows.length) (drawn : Nat) :
    Represents m.platform { s with
      channels := rows, drawn := drawn, safe := s.safe.put (.channel k) key secret } := by
  have hother : ∀ j, Holder.webhook j ≠ .channel k := fun _ heq => by cases heq
  refine ⟨h.webhooks.imp fun j _ _ hrow => hrow.put_of_ne (hother j) key secret, hrows,
    fun j hj => ?_⟩
  have hne : Holder.channel j ≠ .channel k := by
    rintro ⟨⟩
    exact absurd hk (Nat.not_lt.mpr hj)
  have hsafe : s.safe.put (.channel k) key secret (.channel j) = s.safe (.channel j) :=
    Safe.put_of_ne hne
  exact hsafe.trans (h.unborn j (hlength.trans hj))

theorem step (h : Represents m.platform s) {l : SecretLabel} (hstep : secretStep m l s = some s') :
    Represents m.platform s' := by
  cases l with
  | createWebhook keys workspace name url answer eventTypes now =>
    obtain ⟨row, hrow, hs'⟩ := Option.bind_eq_some_iff.mp hstep
    obtain rfl := Option.some.inj hs'
    obtain ⟨key, ring, hring, htoken⟩ := Webhooks.createEndpoint_ok (toOption_eq_some.mp hrow)
    rw [handOut_eq _ hring]
    refine h.put_webhook (AllRows.append (fun k old hk => ?_) (htoken ▸ Holds.put_self ..)) _
    refine (h.webhooks k old hk).put_of_ne ?_ _ _
    rintro ⟨⟩
    exact absurd (List.getElem?_eq_some_iff.mp hk).1 (Nat.lt_irrefl _)
  | updateWebhook k name url answer eventTypes =>
    obtain ⟨row, hk, hs'⟩ := Option.bind_eq_some_iff.mp hstep
    obtain ⟨row', hrow, hs'⟩ := Option.bind_eq_some_iff.mp hs'
    obtain rfl := Option.some.inj hs'
    exact h.set_webhook hk (Webhooks.updateEndpoint_secret (toOption_eq_some.mp hrow))
  | setWebhookStatus k status =>
    obtain ⟨row, hk, hs'⟩ := Option.bind_eq_some_iff.mp hstep
    obtain ⟨row', hrow, hs'⟩ := Option.bind_eq_some_iff.mp hs'
    obtain rfl := Option.some.inj hs'
    exact h.set_webhook hk (Webhooks.setEndpointStatus_secret (toOption_eq_some.mp hrow))
  | rotateWebhook keys k now =>
    obtain ⟨row, hk, hs'⟩ := Option.bind_eq_some_iff.mp hstep
    obtain ⟨row', hrow, hs'⟩ := Option.bind_eq_some_iff.mp hs'
    obtain rfl := Option.some.inj hs'
    obtain ⟨key, ring, hring, htoken⟩ := Webhooks.rotateSecret_ok (toOption_eq_some.mp hrow)
    rw [handOut_eq _ hring]
    refine h.put_webhook (AllRows.set_of_ne (fun j old hne hj => ?_)
      (htoken ▸ Holds.put_self ..)) _
    exact (h.webhooks j old hj).put_of_ne (fun heq => hne (Holder.webhook.inj heq)) _ _
  | createChannel keys workspace channel name agentVersion connection policy configuration now =>
    obtain ⟨row, hrow, hs'⟩ := Option.bind_eq_some_iff.mp hstep
    obtain rfl := Option.some.inj hs'
    obtain ⟨hchannel, hsome, hnone⟩ :=
      ChannelIngress.createEndpoint_ok (toOption_eq_some.mp hrow)
    cases hneeds : ChannelIngress.needsSigningSecret channel with
    | true =>
      obtain ⟨key, ring, hring, htoken⟩ := hsome hneeds
      rw [if_pos rfl, handOut_eq _ hring]
      refine h.put_channel (AllRows.append (fun k old hk => ?_) ?_) (by simp) (by simp) _
      · refine (h.channels k old hk).put_of_ne ?_ _ _
        rintro ⟨⟩
        exact absurd (List.getElem?_eq_some_iff.mp hk).1 (Nat.lt_irrefl _)
      · rw [ChannelHolds, hchannel, if_pos hneeds, htoken]
        exact Holds.put_self ..
    | false =>
      rw [if_neg Bool.false_ne_true]
      refine ⟨h.webhooks, h.channels.append ?_, fun k hk => h.unborn k ?_⟩
      · rw [ChannelHolds, hchannel, hneeds, if_neg Bool.false_ne_true]
        exact ⟨hnone hneeds, h.unborn _ (Nat.le_refl _)⟩
      · rw [List.length_append] at hk
        exact Nat.le_of_add_right_le hk
  | updateChannel k name agentVersion policy configuration =>
    obtain ⟨row, hk, hs'⟩ := Option.bind_eq_some_iff.mp hstep
    obtain ⟨row', hrow, hs'⟩ := Option.bind_eq_some_iff.mp hs'
    obtain rfl := Option.some.inj hs'
    exact h.set_channel hk (ChannelIngress.updateEndpoint_secret (toOption_eq_some.mp hrow))
  | setChannelStatus k status =>
    obtain ⟨row, hk, hs'⟩ := Option.bind_eq_some_iff.mp hstep
    obtain ⟨row', hrow, hs'⟩ := Option.bind_eq_some_iff.mp hs'
    obtain rfl := Option.some.inj hs'
    exact h.set_channel hk (ChannelIngress.setEndpointStatus_secret (toOption_eq_some.mp hrow))
  | rotateChannel keys k now =>
    obtain ⟨row, hk, hs'⟩ := Option.bind_eq_some_iff.mp hstep
    obtain ⟨row', hrow, hs'⟩ := Option.bind_eq_some_iff.mp hs'
    obtain rfl := Option.some.inj hs'
    obtain ⟨hchannel, hneeds, key, ring, hring, htoken⟩ :=
      ChannelIngress.rotateSecret_ok (toOption_eq_some.mp hrow)
    rw [handOut_eq _ hring]
    have hlength : (s.channels.set k row').length = s.channels.length := List.length_set
    refine h.put_channel (AllRows.set_of_ne (fun j old hne hj => ?_) ?_)
      (hlength ▸ (List.getElem?_eq_some_iff.mp hk).1) hlength.ge _
    · exact (h.channels j old hj).put_of_ne (fun heq => hne (Holder.channel.inj heq)) _ _
    · rw [ChannelHolds, hchannel, if_pos hneeds, htoken]
      exact Holds.put_self ..

end Represents

theorem represents_of_reach (h : (secretSystem m).Reach (fun _ _ => True) s) :
    Represents m.platform s := by
  refine System.Reach.invariant ?_ (fun _ _ _ _ hs _ hstep => hs.step hstep) h
  rintro _ rfl
  exact ⟨fun _ _ hk => by simp at hk, fun _ _ hk => by simp at hk, fun _ _ => rfl⟩

/-! ## The secret of an endpoint -/

/-- What the adapters are given for the secret of an endpoint. -/
def AdapterSecret (keys : List String) (row : ChannelIngress.EndpointRow)
    (stored : ChannelIngress.Adapters.StoredSecret) (m : SecretMachine K) : Prop :=
  ChannelIngress.storedSigningSecret m.platform keys row =
    (ChannelIngress.Adapters.endpointSigningSecret stored).mapError .inl

/-- In every run of administration by processes with any keys: an endpoint has the secret that was
handed out for it last in each process that has the key of that secret, and none in any other. -/
theorem endpoints_keep_secrets (hsound : m.platform.Sound) (hdepth : 0 < m.platform.readerDepth)
    (h : (secretSystem m).Reach (fun _ _ => True) s) :
    (∀ k row, s.webhooks[k]? = some row →
      ∃ key secret, s.safe (.webhook k) = some (key, secret) ∧ ∀ keys,
        (Opens m.platform keys key →
          Webhooks.currentSecret m.platform keys row = .ok secret.text) ∧
        (¬ Opens m.platform keys key →
          Webhooks.currentSecret m.platform keys row = .error (.webhook .signingNotConfigured))) ∧
    ∀ k row, s.channels[k]? = some row →
      if ChannelIngress.needsSigningSecret row.channel then
        ∃ key secret, s.safe (.channel k) = some (key, secret) ∧ ∀ keys,
          (Opens m.platform keys key → AdapterSecret keys row (.generated secret.digits) m) ∧
          (¬ Opens m.platform keys key → AdapterSecret keys row .undecryptable m)
      else ∀ keys, AdapterSecret keys row .missing m := by
  have hrep := represents_of_reach h
  refine ⟨fun k row hk => ?_, fun k row hk => ?_⟩
  · obtain ⟨key, secret, nonce, hsafe, htoken⟩ := hrep.webhooks k row hk
    refine ⟨key, secret, hsafe, fun keys => ?_⟩
    rw [Webhooks.currentSecret, htoken]
    exact ⟨readSecret_of_opens hsound hdepth, readSecret_of_not_opens hsound⟩
  · have hrow := hrep.channels k row hk
    unfold ChannelHolds at hrow
    split
    · rename_i hneeds
      rw [if_pos hneeds] at hrow
      obtain ⟨key, secret, nonce, hsafe, htoken⟩ := hrow
      refine ⟨key, secret, hsafe, fun keys => ?_⟩
      rw [AdapterSecret, AdapterSecret, ChannelIngress.storedSigningSecret, htoken]
      refine ⟨fun hkey => ?_, readSecret_of_not_opens hsound⟩
      rw [readSecret_of_opens hsound hdepth hkey]
      obtain ⟨digits, hlength⟩ := secret
      cases digits with
      | nil => cases hlength
      | cons d digits => rfl
    · rename_i hneeds
      rw [if_neg hneeds] at hrow
      intro keys
      rw [AdapterSecret, ChannelIngress.storedSigningSecret, readSecret, if_pos hrow.1]
      rfl

/-! ## Rotation of keys -/

theorem opens_cons {platform : CryptoPlatform K} {keys : List String} {key : K} {newKey : String}
    (hnew : (platform.fernetKey newKey).isSome = true) (h : Opens platform keys key) :
    Opens platform (newKey :: keys) key := by
  obtain ⟨ring, hring, hmem⟩ := h
  obtain ⟨k, hk⟩ := Option.isSome_iff_exists.mp hnew
  unfold multiFernet at hring
  split at hring
  · cases hring
  · split at hring
    · cases hring
    · rename_i ring' hkeys
      obtain rfl := Except.ok.inj hring
      refine ⟨k :: ring', ?_, List.mem_cons_of_mem _ hmem⟩
      rw [multiFernet, if_neg (List.cons_ne_nil _ _), List.mapM_cons, hk, hkeys]
      rfl

/-- Credentials are read back, with their fields in order, by every process that has the key that
was the first when they were written, and refused by any other; a new key in front of the others
takes nothing away. -/
theorem credentials_round_trip {platform : CryptoPlatform K} (hsound : platform.Sound)
    {keys : List String} {nonce : Nat} {data : JsonFields} {token : String}
    (hproper : Proper (.object data)) (hread : nesting (.object data) ≤ platform.readerDepth)
    (h : encryptCredentials platform keys nonce data = .ok token) :
    ∃ key ring, multiFernet platform keys = .ok (key :: ring) ∧ ∀ keys',
      (Opens platform keys' key → ∃ fields, decryptCredentials platform keys' token = .ok fields ∧
        JsonValue.object fields = sorted (.object data)) ∧
      (¬ Opens platform keys' key → ∃ message,
        decryptCredentials platform keys' token = .error (.credentialEncryption message)) ∧
      ∀ newKey, (platform.fernetKey newKey).isSome = true → Opens platform keys' key →
        Opens platform (newKey :: keys') key := by
  obtain ⟨key, ring, hring, -, hwritable, rfl⟩ := encryptCredentials_ok h
  refine ⟨key, ring, hring, fun keys' => ⟨fun hkey => ?_,
    decryptCredentials_of_not_opens hsound, fun _ => opens_cons⟩⟩
  rw [decryptCredentials_of_opens hsound hkey]
  exact readCredentials_dumps hproper hread hwritable

/-! ## A cipher with two keys -/

/-- A byte as two characters. -/
def bytePair (b : UInt8) : List Char :=
  [Char.ofNat (0x30 + b.toNat / 16), Char.ofNat (0x30 + b.toNat % 16)]

def readPairs : List Char → Option Bytes
  | [] => some []
  | [_] => none
  | high :: low :: rest =>
    (readPairs rest).map (.ofNat ((high.toNat - 0x30) * 16 + (low.toNat - 0x30)) :: ·)

theorem readPairs_flatMap (bytes : Bytes) : readPairs (bytes.flatMap bytePair) = some bytes := by
  have hdigit : ∀ n < 16, (Char.ofNat (0x30 + n)).toNat - 0x30 = n := by decide
  induction bytes with
  | nil => rfl
  | cons b bytes ih =>
    have hb := b.toNat_lt
    have hvalue : (b.toNat / 16) * 16 + b.toNat % 16 = b.toNat := Nat.div_add_mod' _ _
    simp only [List.flatMap_cons, bytePair, List.cons_append, List.nil_append, readPairs, ih,
      Option.map_some]
    rw [hdigit _ (by omega), hdigit _ (by omega), hvalue, UInt8.ofNat_toNat]

def labelledCipher : Cipher Bool Bytes String where
  encrypt key _ message := .ofList ((if key then 'A' else 'B') :: message.flatMap bytePair)
  decrypt key box :=
    match box.toList with
    | [] => none
    | label :: rest => if label = (if key then 'A' else 'B') then readPairs rest else none

def labelledPlatform : CryptoPlatform Bool where
  fernet := labelledCipher
  fernetKey text := if text = "new" then some true else if text = "old" then some false else none
  maxDigits := 4300
  encoderDepth := 900
  readerDepth := 900

theorem labelledPlatform_sound : labelledPlatform.Sound where
  own key nonce message := by
    simp only [labelledPlatform, labelledCipher, String.toList_ofList, if_true, readPairs_flatMap]
  foreign key key' nonce message hne := by
    simp only [labelledPlatform, labelledCipher, String.toList_ofList]
    cases key <;> cases key' <;> first | rfl | exact absurd rfl hne
  token_ne key nonce message := by
    intro h
    have hlist := congrArg String.toList h
    simp [labelledPlatform, labelledCipher] at hlist
  token_ascii key nonce message := by
    have hdigit : ∀ n < 16, (Char.ofNat (0x30 + n)).toNat < 0x80 := by decide
    simp only [labelledPlatform, labelledCipher, String.toList_ofList, List.all_cons,
      List.all_eq_true, Bool.and_eq_true, decide_eq_true_eq, List.mem_flatMap]
    refine ⟨by cases key <;> decide, ?_⟩
    rintro c ⟨b, -, hc⟩
    have hb := b.toNat_lt
    rcases List.mem_pair.mp hc with rfl | rfl
    · exact hdigit _ (by omega)
    · exact hdigit _ (by omega)

def labelledMachine : SecretMachine Bool where
  platform := labelledPlatform
  lib := ⟨⟨[], [], [], [], []⟩, fun _ => none, fun _ => "", id, id, fun _ => none⟩
  settings := {}
  draw n := ⟨List.replicate 64 (Fin.ofNat 16 n), List.length_replicate⟩

/-- An endpoint for e-mail is created with the old key alone and rotated with the new one in
front. -/
theorem labelledRun_keeps :
    ∃ s row, (secretSystem labelledMachine).Reach (fun _ _ => True) s ∧
      s.channels[0]? = some row ∧
      ∃ key secret, s.safe (.channel 0) = some (key, secret) ∧ ∀ keys,
        (Opens labelledPlatform keys key →
          AdapterSecret keys row (.generated secret.digits) labelledMachine) ∧
        (¬ Opens labelledPlatform keys key →
          AdapterSecret keys row .undecryptable labelledMachine) := by
  have hreach : (secretSystem labelledMachine).Reach (fun _ _ => True) _ :=
    .step (l := .rotateChannel ["new", "old"] 0 60) (.step (l := .createChannel ["old"] 0 .email
      "Support" ⟨0, true⟩ none .create [] 0) (.init rfl) trivial rfl) trivial rfl
  exact ⟨_, _, hreach, rfl,
    (endpoints_keep_secrets labelledPlatform_sound (by decide) hreach).2 0 _ rfl⟩

/-- Two fields, the second one first in the order of their names. -/
def sampleCredentials : JsonFields :=
  [(codePoints "webhook_secret", .string (codePoints "w1")),
    (codePoints "api_key", .string (codePoints "k1"))]

def orderedCredentials : JsonFields :=
  [(codePoints "api_key", .string (codePoints "k1")),
    (codePoints "webhook_secret", .string (codePoints "w1"))]

theorem sorted_sampleCredentials :
    sorted (.object sampleCredentials) = .object orderedCredentials := by
  have horder : ¬ codePoints "webhook_secret" ≤ codePoints "api_key" := by decide
  simp [sorted, sortedEach, sortedFields, sampleCredentials, orderedCredentials, List.mergeSort,
    horder]

theorem proper_sampleCredentials : Proper (.object sampleCredentials) :=
  ⟨by decide, ⟨unpaired_chars _, unpaired_chars _⟩, ⟨unpaired_chars _, unpaired_chars _⟩, trivial⟩

theorem labelledToken_read :
    ∃ token key ring, encryptCredentials labelledPlatform ["old"] 0 sampleCredentials = .ok token ∧
      multiFernet labelledPlatform ["old"] = .ok (key :: ring) ∧ ∀ keys',
      (Opens labelledPlatform keys' key →
        decryptCredentials labelledPlatform keys' token = .ok orderedCredentials) ∧
      (¬ Opens labelledPlatform keys' key → ∃ message,
        decryptCredentials labelledPlatform keys' token =
          .error (.credentialEncryption message)) ∧
      ∀ newKey, (labelledPlatform.fernetKey newKey).isSome = true →
        Opens labelledPlatform keys' key → Opens labelledPlatform (newKey :: keys') key := by
  have htoken : encryptCredentials labelledPlatform ["old"] 0 sampleCredentials = .ok _ := rfl
  obtain ⟨key, ring, hring, hread⟩ :=
    credentials_round_trip labelledPlatform_sound proper_sampleCredentials (by decide) htoken
  refine ⟨_, key, ring, htoken, hring, fun keys' => ⟨fun hopens => ?_, (hread keys').2⟩⟩
  obtain ⟨fields, hfields, hsorted⟩ := (hread keys').1 hopens
  rw [sorted_sampleCredentials] at hsorted
  rw [hfields, JsonValue.object.inj hsorted]

end SupportPilot.Integrations
