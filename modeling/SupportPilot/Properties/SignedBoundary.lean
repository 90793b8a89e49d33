import SupportPilot.ChannelIngress.Adapters
import SupportPilot.Library.Outcomes
import SupportPilot.Properties.SignedRequests

/-!
# What escapes the signed boundary

A request ends in a typed error or in a message that can be stored, unless it gets to one of the
steps whose exceptions nothing catches, or keeps a text that a column does not take.
-/

namespace SupportPilot.ChannelIngress.Adapters

open Library

/-- The errors of channel ingress. -/
def Typed (e : Raised) : Prop := ∃ error, e = .ingress error

@[simp] theorem typed_ingress (error : ChannelIngressError) : Typed (.ingress error) := ⟨error, rfl⟩

@[simp] theorem not_typed_typeError : ¬ Typed .typeError := nofun

@[simp] theorem not_typed_valueError : ¬ Typed .valueError := nofun

@[simp] theorem not_typed_recursionError : ¬ Typed .recursionError := nofun

/-! ## Signatures -/

section Signatures

variable {platform : Platform} {cfg : SignatureSettings} {secret : CodePoints} {key rawBody : Bytes}
  {timestampHeader signatureHeader : Option CodePoints} {now : Int} {Q : Prop}

variable (platform cfg timestampHeader signatureHeader now) in
/-- The headers get to the comparison of the signatures. -/
structure Comparable (timestamp : Int) (signature : CodePoints) : Prop where
  signed : signatureHeader = some signature
  version : (codePoints signatureVersion ++ codePoints "=").isPrefixOf signature = true
  stamped : ∃ text, timestampHeader = some text ∧
    parseInt platform.decimal platform.maxDigits text = some timestamp
  fresh : now - cfg.maxPastSkewSeconds ≤ timestamp ∧ timestamp ≤ now + cfg.maxFutureSkewSeconds

theorem compareDigest_settles {expected signature : CodePoints} (h : isAscii expected = true) :
    Settles Typed (fun _ => Q) (do
      let same ← compareDigest expected signature
      if same then .ok () else .error (.ingress .signatureInvalid) : Except Raised Unit) ↔
      isAscii signature = true ∧ (signature = expected → Q) := by
  rw [settles_bind, compareDigest, h, Bool.true_and]
  split
  case isTrue hascii =>
    by_cases hsame : signature = expected
    · simp [hsame, h]
    · simp [hascii, hsame, Ne.symm hsame]
  case isFalse hascii => simp [hascii]

/-- The verifier raises nothing but its own errors exactly when no signature that is compared has
a character beyond ASCII. -/
theorem verifyInboundSignature_settles (hkey : encodeUtf8 secret = some key) :
    Settles Typed (fun _ => Q) (verifyInboundSignature platform cfg secret rawBody timestampHeader
        signatureHeader now) ↔
      ∀ timestamp signature,
        Comparable platform cfg timestampHeader signatureHeader now timestamp signature →
        isAscii signature = true ∧
          (signature = signatureText (platform.hmacSha256 key (signedPayload timestamp rawBody)) →
            Q) := by
  unfold verifyInboundSignature
  split
  case h_1 =>
    refine iff_of_true (typed_ingress _) fun timestamp signature h => ?_
    cases h.signed
  case h_2 =>
    refine iff_of_true (typed_ingress _) fun timestamp signature h => ?_
    obtain rfl := Option.some.inj h.signed
    cases h.version
  case h_3 =>
    refine iff_of_true (typed_ingress _) fun timestamp signature h => ?_
    obtain ⟨text, htext, -⟩ := h.stamped
    cases htext
  case h_4 =>
    refine iff_of_true (typed_ingress _) fun timestamp signature h => ?_
    obtain ⟨text, htext, hparse⟩ := h.stamped
    obtain rfl := Option.some.inj htext
    rw [parseInt_nil] at hparse
    cases hparse
  case h_5 signature timestampText _ _ =>
    cases hparse : parseInt platform.decimal platform.maxDigits timestampText with
    | none =>
      refine iff_of_true (typed_ingress _) fun timestamp signature h => ?_
      obtain ⟨text, htext, hread⟩ := h.stamped
      obtain rfl := Option.some.inj htext
      rw [hparse] at hread
      cases hread
    | some timestamp =>
      have honly : ∀ {t s}, Comparable platform cfg (some timestampText) (some signature) now t s →
          t = timestamp ∧ s = signature := by
        intro t s h
        obtain ⟨text, htext, hread⟩ := h.stamped
        obtain rfl := Option.some.inj htext
        exact ⟨Option.some.inj (hread.symm.trans hparse), (Option.some.inj h.signed).symm⟩
      dsimp only
      split_ifs with hskew hversion
      · refine iff_of_true (typed_ingress _) fun t s h => ?_
        obtain ⟨rfl, rfl⟩ := honly h
        have hfresh := h.fresh
        omega
      · refine iff_of_true (typed_ingress _) fun t s h => ?_
        obtain ⟨rfl, rfl⟩ := honly h
        simp [h.version] at hversion
      · have hcomputed : computeSignature platform secret timestamp rawBody =
            .ok (signatureText (platform.hmacSha256 key (signedPayload timestamp rawBody))) :=
          computeSignature_ok.mpr ⟨showInt_of_parseInt hparse, key, hkey, rfl⟩
        rw [hcomputed]
        refine (compareDigest_settles (isAscii_signatureText _)).trans ⟨fun h t s hreached => ?_,
          fun h => h timestamp signature ⟨rfl, by simpa using hversion, ⟨_, rfl, hparse⟩, by omega⟩⟩
        obtain ⟨rfl, rfl⟩ := honly hreached
        exact h

end Signatures

section Boundary

variable (platform : AdapterPlatform) (cfg : AdapterSettings) (adapter : Adapter)
  (secret : StoredSecret) (request : InboundRequest)

/-- The request gets to the comparison of the signatures. -/
structure Compared (digits : List (Fin 16)) (timestamp : Int) (signature : CodePoints) : Prop where
  size : request.rawBody.length ≤ cfg.maxInboundBodyBytes
  secret : secret = .generated digits
  secret_ne : digits ≠ []
  headers : Comparable platform.toPlatform cfg.toSignatureSettings request.timestampHeader
    request.signatureHeader request.now timestamp signature

/-- The request is fresh and carries the signature of its body. -/
def Authentic : Prop :=
  ∃ digits timestamp key,
    encodeUtf8 ((digits.map Uuid.hexDigit).map codePoint) = some key ∧
      Compared platform cfg secret request digits timestamp
        (signatureText (platform.hmacSha256 key (signedPayload timestamp request.rawBody)))

variable {platform cfg adapter secret request} {Q : Prop}

theorem enforceBodySize_settles :
    Settles Typed (fun _ => Q) (enforceBodySize cfg request.rawBody) ↔
      (request.rawBody.length ≤ cfg.maxInboundBodyBytes → Q) := by
  unfold enforceBodySize
  split
  case isTrue hsize => simp [Nat.not_le_of_lt hsize]
  case isFalse hsize => simp [Nat.le_of_not_lt hsize]

theorem endpointSigningSecret_settles {post : CodePoints → Prop} :
    Settles Typed post (endpointSigningSecret secret) ↔ ∀ digits, secret = .generated digits →
      digits ≠ [] → post ((digits.map Uuid.hexDigit).map codePoint) := by
  unfold endpointSigningSecret
  split <;> simp_all

theorem verifySignature_settles :
    Settles Typed (fun _ => Q) (verifySignature platform cfg secret request) ↔
      (∀ digits timestamp signature,
        Compared platform cfg secret request digits timestamp signature →
          isAscii signature = true) ∧
      (Authentic platform cfg secret request → Q) := by
  unfold verifySignature
  rw [settles_bind, enforceBodySize_settles, settles_bind, endpointSigningSecret_settles]
  constructor
  · intro h
    constructor
    · intro digits timestamp signature hcompared
      obtain ⟨key, hkey⟩ := encodeUtf8_chars (digits.map Uuid.hexDigit)
      have hverified := h hcompared.size digits hcompared.secret hcompared.secret_ne
      rw [verifyInboundSignature_settles hkey] at hverified
      exact (hverified timestamp signature hcompared.headers).1
    · rintro ⟨digits, timestamp, key, hkey, hcompared⟩
      have hverified := h hcompared.size digits hcompared.secret hcompared.secret_ne
      rw [verifyInboundSignature_settles hkey] at hverified
      exact (hverified timestamp _ hcompared.headers).2 rfl
  · rintro ⟨hascii, hauthentic⟩ hsize digits hsecret hne
    obtain ⟨key, hkey⟩ := encodeUtf8_chars (digits.map Uuid.hexDigit)
    rw [verifyInboundSignature_settles hkey]
    intro timestamp signature hheaders
    refine ⟨hascii digits timestamp signature ⟨hsize, hsecret, hne, hheaders⟩, ?_⟩
    rintro rfl
    exact hauthentic ⟨digits, timestamp, key, hkey, hsize, hsecret, hne, hheaders⟩

/-! ## Bodies -/

variable (platform adapter request) in
/-- The body is a document with the fields that the adapter requires. -/
def Parses (parsed : JsonFields) : Prop :=
  (∃ text, decodeUtf8 request.rawBody = some text ∧
    loads platform.limits text = .ok (.object parsed)) ∧
  ∀ name ∈ adapter.requiredFields, isText (field parsed name) = true

theorem parseEvent_settles {post : JsonFields → Prop} :
    Settles Typed post (parseEvent platform adapter request.rawBody) ↔
      (∀ text, decodeUtf8 request.rawBody = some text →
        loads platform.limits text ≠ .error .tooManyDigits ∧
        loads platform.limits text ≠ .error .tooDeep) ∧
      ∀ parsed, Parses platform adapter request parsed → post parsed := by
  unfold parseEvent Parses
  cases hdecoded : decodeUtf8 request.rawBody with
  | none => simp
  | some text =>
    simp only [Option.some.injEq, forall_eq', exists_eq_left']
    split
    case h_4 parsed hloads =>
      rw [hloads]
      split
      case isTrue hrequired => simp_all
      case isFalse hrequired => simp_all
    case h_5 value hother hloads =>
      rw [hloads]
      refine iff_of_true (typed_ingress _) ⟨by simp, ?_⟩
      rintro parsed ⟨hparsed, -⟩
      exact absurd (Except.ok.inj hparsed) (hother parsed)
    all_goals rename_i hloads; simp [hloads]

/-! ## Messages -/

/-- The text of a value, empty where it is no string. -/
def textOf : JsonValue → CodePoints
  | .string s => s
  | _ => []

/-- An optional field may be missing, and a text otherwise. -/
def Texty (value : JsonValue) : Prop := value.truthy = true → ∃ s, value = .string s

theorem exists_text {value : JsonValue} (h : isText value = true) : ∃ s, value = .string s := by
  unfold isText at h
  split at h
  · exact ⟨_, rfl⟩
  · cases h

theorem boundedStr_settles {maxLength : Nat} {value : JsonValue} {post : CodePoints → Prop} :
    Settles Typed post (boundedStr maxLength value) ↔
      ((∃ s, value = .string s) → post ((textOf value).take maxLength)) := by
  unfold boundedStr
  split
  · simp [textOf]
  · simp_all

theorem optionalStr_settles {value : JsonValue} {post : Option CodePoints → Prop} :
    Settles Typed post (optionalStr value) ↔
      (Texty value → post (if value.truthy then some ((textOf value).take 255) else none)) := by
  unfold optionalStr Texty
  by_cases htruthy : value.truthy = true
  · rw [if_pos htruthy, if_pos htruthy]
    unfold boundedStr
    split
    · simp [textOf, Except.map]
    · simp_all [Except.map]
  · simp [htruthy]

theorem textOf_orEmpty (value : JsonValue) : textOf (orEmpty value) = textOf value := by
  unfold orEmpty
  split
  case isTrue => rfl
  case isFalse hfalsy => cases value <;> simp_all [textOf, JsonValue.truthy]

theorem orEmpty_string {value : JsonValue} : (∃ s, orEmpty value = .string s) ↔ Texty value := by
  unfold orEmpty Texty
  split
  case isTrue htruthy => simp [htruthy]
  case isFalse hfalsy => simp [hfalsy]

variable (platform) in
/-- The date is none that `parse_datetime` rejects for not existing. -/
def Dated (value : JsonValue) : Prop :=
  ∀ raw, value = .string raw → raw ≠ [] → platform.parseDatetime raw ≠ .invalid

theorem receivedAt_settles {now : Int} {value : JsonValue} :
    Settles Typed (fun _ => Q) (receivedAt platform now value) ↔ Dated platform value ∧ Q := by
  unfold receivedAt Dated
  split
  case h_1 c raw =>
    split
    all_goals simp_all
  case h_2 hother =>
    rw [settles_ok, iff_and_self]
    rintro - raw rfl hne
    obtain ⟨c, raw, rfl⟩ := List.exists_cons_of_ne_nil hne
    exact absurd rfl (hother c raw)

/-- What is no address of a sender is rejected. -/
def IsAddress (address : CodePoints) : Prop :=
  minEmailLength ≤ address.length ∧ codePoint '@' ∈ address ∧
    address.head? ≠ some (codePoint '@')

variable (platform) in
/-- The address that a sender is normalized to, before it is cut off. -/
def addressOf (parsed : JsonFields) : CodePoints :=
  platform.lower (stripCodePoints (textOf (field parsed "from")))

theorem normalizeEmail_settles {parsed : JsonFields} {post : CodePoints → Prop}
    (h : isText (field parsed "from") = true) :
    Settles Typed post (normalizeEmail platform (field parsed "from")) ↔
      (IsAddress (addressOf platform parsed) → post ((addressOf platform parsed).take 320)) := by
  obtain ⟨sender, hsender⟩ := exists_text h
  unfold normalizeEmail addressOf IsAddress
  rw [hsender]
  dsimp only [textOf]
  split
  case isTrue hrejected =>
    refine iff_of_true (typed_ingress _) ?_
    rintro ⟨hlength, hat, hhead⟩
    obtain hshort | hnone | hfirst := hrejected
    · omega
    · exact absurd hat hnone
    · exact absurd hfirst hhead
  case isFalse haccepted =>
    obtain ⟨hlength, hat, hhead⟩ : ¬ _ ∧ ¬ _ ∧ ¬ _ := by simpa only [not_or] using haccepted
    rw [settles_ok]
    have haddress : minEmailLength ≤ (platform.lower (stripCodePoints sender)).length ∧
        codePoint '@' ∈ platform.lower (stripCodePoints sender) ∧
        (platform.lower (stripCodePoints sender)).head? ≠ some (codePoint '@') :=
      ⟨Nat.le_of_not_lt hlength, Classical.not_not.mp hat, hhead⟩
    exact ⟨fun hpost _ => hpost, fun hpost => hpost haddress⟩

variable (platform adapter) in
/-- The fields that are not required are texts or missing, and an e-mail has a sender. -/
structure WellTyped (parsed : JsonFields) : Prop where
  threadId : Texty (field parsed "thread_id")
  messageId : Texty (field parsed "message_id")
  subject : Texty (field parsed "subject")
  sender : adapter = .emailInbound → IsAddress (addressOf platform parsed)

variable (platform) in
/-- The identity of the sender fits its column. -/
def IdentityFits (parsed : JsonFields) : Adapter → Prop
  | .genericSignedWebhook => Storable ((textOf (field parsed "external_id")).take 255)
  | .emailInbound => FitsColumn 255 (addressOf platform parsed)

variable (platform cfg adapter) in
/-- What is kept of the fields fits the columns. -/
structure Kept (parsed : JsonFields) : Prop where
  eventId : Storable ((textOf (field parsed "event_id")).take 255)
  threadId : Storable ((textOf (field parsed "thread_id")).take 255)
  messageId : Storable ((textOf (field parsed "message_id")).take 255)
  subject : Storable ((textOf (field parsed "subject")).take 300)
  body : Storable ((textOf (field parsed "body")).take cfg.maxMessageBodyLength)
  identity : IdentityFits platform parsed adapter

theorem Storable.take {text : CodePoints} (h : Storable text) (n : Nat) : Storable (text.take n) :=
  fun c hc => h c (List.mem_of_mem_take hc)

theorem fitsColumn_take {n : Nat} {text : CodePoints} :
    FitsColumn n (text.take n) ↔ Storable (text.take n) :=
  and_iff_right (List.length_take_le n text)

/-- A missing identifier is the empty text. -/
theorem optional_getD (value : JsonValue) :
    (if value.truthy then some ((textOf value).take 255) else none).getD [] =
      (textOf value).take 255 := by
  have hkept := textOf_orEmpty value
  unfold orEmpty at hkept
  split at hkept
  case isTrue htruthy => rw [if_pos htruthy, Option.getD_some]
  case isFalse hfalsy => rw [if_neg hfalsy, ← hkept, Option.getD_none, textOf, List.take_nil]

theorem fitsColumn_cut {text : CodePoints} :
    FitsColumn 255 (text.take 320) ↔ FitsColumn 255 text := by
  constructor
  · rintro ⟨hlength, hstorable⟩
    have hwhole : text.length ≤ 255 := by
      rw [List.length_take] at hlength
      omega
    rw [List.take_of_length_le (by omega)] at hstorable
    exact ⟨hwhole, hstorable⟩
  · rintro ⟨hlength, hstorable⟩
    exact ⟨by rw [List.length_take]; omega, hstorable.take 320⟩

/-- What is made of the fields fits the columns exactly when what is kept of them does. -/
theorem fits_iff {parsed : JsonFields} {message : CanonicalInboundMessage}
    (heventId : message.providerEventId = (textOf (field parsed "event_id")).take 255)
    (hthreadId : message.providerThreadId.getD [] = (textOf (field parsed "thread_id")).take 255)
    (hmessageId :
      message.providerMessageId.getD [] = (textOf (field parsed "message_id")).take 255)
    (hsubject : message.subject = (textOf (field parsed "subject")).take 300)
    (hbody : message.body = (textOf (field parsed "body")).take cfg.maxMessageBodyLength)
    (hidentity : FitsColumn 255 message.externalIdentity ↔ IdentityFits platform parsed adapter) :
    message.Fits ↔ Kept platform cfg adapter parsed := by
  constructor
  · rintro ⟨h₁, h₂, h₃, h₄, h₅, h₆⟩
    rw [heventId] at h₁
    rw [hthreadId] at h₂
    rw [hmessageId] at h₃
    rw [hsubject] at h₅
    rw [hbody] at h₆
    exact ⟨h₁.2, h₂.2, h₃.2, h₅.2, h₆, hidentity.mp h₄⟩
  · rintro ⟨h₁, h₂, h₃, h₄, h₅, h₆⟩
    refine ⟨?_, ?_, ?_, hidentity.mpr h₆, ?_, ?_⟩
    · rw [heventId]
      exact fitsColumn_take.mpr h₁
    · rw [hthreadId]
      exact fitsColumn_take.mpr h₂
    · rw [hmessageId]
      exact fitsColumn_take.mpr h₃
    · rw [hsubject]
      exact fitsColumn_take.mpr h₄
    · rw [hbody]
      exact h₅

variable (adapter) in
/-- The last step of both adapters. -/
theorem dated_settles {now : Int} {parsed : JsonFields} {message : Int → CanonicalInboundMessage}
    (h : ∀ moment, (message moment).Fits ↔ Kept platform cfg adapter parsed) :
    Settles Typed (fun moment => (message moment).Fits)
        (receivedAt platform now (field parsed "received_at")) ↔
      Dated platform (field parsed "received_at") ∧ Kept platform cfg adapter parsed :=
  (settles_congr fun moment _ => h moment).trans receivedAt_settles

theorem normalizeGeneric_settles {now : Int} {parsed : JsonFields}
    (h : ∀ name ∈ Adapter.genericSignedWebhook.requiredFields, isText (field parsed name) = true) :
    Settles Typed CanonicalInboundMessage.Fits (normalizeGeneric platform cfg now parsed) ↔
      (WellTyped platform .genericSignedWebhook parsed →
        Dated platform (field parsed "received_at") ∧
          Kept platform cfg .genericSignedWebhook parsed) := by
  have heventId := exists_text (h "event_id" (by decide))
  have hexternalId := exists_text (h "external_id" (by decide))
  have hbody := exists_text (h "body" (by decide))
  unfold normalizeGeneric
  simp only [settles_bind, boundedStr_settles, optionalStr_settles, orEmpty_string,
    textOf_orEmpty, heventId, hexternalId, hbody, forall_const, settles_ok]
  rw [dated_settles .genericSignedWebhook
    fun moment => fits_iff rfl (optional_getD _) (optional_getD _) rfl rfl fitsColumn_take]
  constructor
  · intro hkept htyped
    exact hkept htyped.threadId htyped.messageId htyped.subject
  · intro hkept hthread hmessage hsubject
    refine hkept ⟨hthread, hmessage, hsubject, fun hemail => ?_⟩
    cases hemail

theorem normalizeInboundEmail_settles {now : Int} {parsed : JsonFields}
    (h : ∀ name ∈ Adapter.emailInbound.requiredFields, isText (field parsed name) = true) :
    Settles Typed CanonicalInboundMessage.Fits (normalizeInboundEmail platform cfg now parsed) ↔
      (WellTyped platform .emailInbound parsed →
        Dated platform (field parsed "received_at") ∧
          Kept platform cfg .emailInbound parsed) := by
  have heventId := exists_text (h "event_id" (by decide))
  have hbody := exists_text (h "body" (by decide))
  unfold normalizeInboundEmail
  simp only [settles_bind, normalizeEmail_settles (h "from" (by decide)), boundedStr_settles,
    optionalStr_settles, orEmpty_string, textOf_orEmpty, heventId, hbody, forall_const, settles_ok]
  rw [dated_settles .emailInbound
    fun moment => fits_iff rfl (optional_getD _) (optional_getD _) rfl rfl fitsColumn_cut]
  constructor
  · intro hkept htyped
    exact hkept (htyped.sender rfl) htyped.threadId htyped.messageId htyped.subject
  · intro hkept hsender hthread hmessage hsubject
    exact hkept ⟨hthread, hmessage, hsubject, fun _ => hsender⟩

/-! ## The boundary -/

variable (platform cfg adapter secret request) in
/-- No step is reached whose exceptions escape, and what is kept fits the columns. -/
structure Manageable : Prop where
  /-- A signature that is compared is ASCII. -/
  comparable : ∀ digits timestamp signature,
    Compared platform cfg secret request digits timestamp signature → isAscii signature = true
  /-- A signed body is within the limits of the decoder. -/
  readable : Authentic platform cfg secret request →
    ∀ text, decodeUtf8 request.rawBody = some text →
      loads platform.limits text ≠ .error .tooManyDigits ∧
        loads platform.limits text ≠ .error .tooDeep
  /-- A signed document that is accepted names a date that exists, if any, and fits the columns. -/
  kept : Authentic platform cfg secret request →
    ∀ parsed, Parses platform adapter request parsed → WellTyped platform adapter parsed →
      Dated platform (field parsed "received_at") ∧ Kept platform cfg adapter parsed

variable (platform cfg adapter secret request) in
/-- A request ends in a typed error or in a message that fits the columns exactly when it is
manageable. -/
theorem receive_contained_iff :
    Settles Typed CanonicalInboundMessage.Fits (receive platform cfg adapter secret request) ↔
      Manageable platform cfg adapter secret request := by
  have hnormalize : ∀ parsed, Parses platform adapter request parsed →
      (Settles Typed CanonicalInboundMessage.Fits
          (normalize platform cfg adapter request.now parsed) ↔
        (WellTyped platform adapter parsed →
          Dated platform (field parsed "received_at") ∧ Kept platform cfg adapter parsed)) := by
    rintro parsed ⟨-, hrequired⟩
    cases adapter with
    | genericSignedWebhook => exact normalizeGeneric_settles hrequired
    | emailInbound => exact normalizeInboundEmail_settles hrequired
  unfold receive
  rw [settles_bind, verifySignature_settles]
  constructor
  · rintro ⟨hascii, hreceived⟩
    refine ⟨hascii, fun hauthentic => ?_, fun hauthentic parsed hparses => ?_⟩
    · have hparsed := hreceived hauthentic
      rw [settles_bind, parseEvent_settles] at hparsed
      exact hparsed.1
    · have hparsed := hreceived hauthentic
      rw [settles_bind, parseEvent_settles] at hparsed
      exact (hnormalize parsed hparses).mp (hparsed.2 parsed hparses)
  · rintro ⟨hascii, hreadable, hkept⟩
    refine ⟨hascii, fun hauthentic => ?_⟩
    rw [settles_bind, parseEvent_settles]
    refine ⟨hreadable hauthentic, fun parsed hparses => ?_⟩
    exact (hnormalize parsed hparses).mpr (hkept hauthentic parsed hparses)

end Boundary

/-! ## A signature beyond ASCII -/

/-- The HMAC-SHA256 of the body of two braces, stamped with second 1700000000, under the secret
`5ec2e7`. -/
def bracesDigest : List (Fin 16) :=
  [7, 8, 12, 15, 12, 11, 12, 9, 9, 7, 9, 9, 2, 5, 15, 8, 6, 15, 0, 11, 4, 3, 14, 7, 13, 11, 2, 1,
    0, 8, 4, 6, 6, 11, 10, 10, 12, 4, 15, 4, 15, 10, 0, 15, 7, 5, 8, 3, 2, 4, 1, 6, 3, 15, 0, 13,
    5, 2, 4, 0, 4, 4, 12, 7]

/-- An interpreter that knows this one digest, and no letters or dates beyond ASCII. -/
def asciiPlatform : AdapterPlatform where
  hmacSha256 key payload :=
    if key = asciiBytes "5ec2e7".toList ∧ payload = asciiBytes "1700000000.{}".toList then
      bracesDigest
    else []
  decimal := fun _ => none
  maxDigits := 4300
  depth := 900
  lower text := text.map fun c => codePoint (Char.ofNat c.val).toLower
  parseDatetime := fun _ => .malformed
  makeAware := id

def accentedRequest : InboundRequest where
  rawBody := asciiBytes "{}".toList
  timestampHeader := some (codePoints "1700000000")
  signatureHeader := some (codePoints "v1=é")
  now := 1700000000

/-- The comparison of the signatures raises `TypeError`. -/
theorem accentedSignature_escapes :
    receive asciiPlatform {} .genericSignedWebhook (.generated [5, 14, 12, 2, 14, 7])
        accentedRequest = .error .typeError ∧
      ¬ Settles Typed CanonicalInboundMessage.Fits
        (receive asciiPlatform {} .genericSignedWebhook (.generated [5, 14, 12, 2, 14, 7])
          accentedRequest) := by
  have hraised : receive asciiPlatform {} .genericSignedWebhook (.generated [5, 14, 12, 2, 14, 7])
      accentedRequest = .error .typeError := by
    rfl
  exact ⟨hraised, hraised ▸ not_typed_typeError⟩

end SupportPilot.ChannelIngress.Adapters
