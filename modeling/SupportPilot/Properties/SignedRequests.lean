import SupportPilot.ChannelIngress.Security
import SupportPilot.Webhooks.Signing

/-!
# Signed requests and their verification

Signer and verifier join the time stamp and the body in the same way, and both can be read off
the joined bytes, as the digits of the stamp hold no dot.
-/

namespace SupportPilot.ChannelIngress

open Library

/-! ## Signatures -/

theorem isAscii_map {text : List Char} (h : Plain text) : isAscii (text.map codePoint) = true := by
  rw [isAscii, List.all_map, List.all_eq_true]
  intro c hc
  exact decide_eq_true (Nat.lt_of_le_of_lt (h c hc).2 (by decide))

theorem plain_hexDigits (digest : List (Fin 16)) : Plain (digest.map Uuid.hexDigit) := by
  intro c hc
  obtain ⟨d, -, rfl⟩ := List.mem_map.mp hc
  have hdigit : ∀ d, Printable (Uuid.hexDigit d) := by decide
  exact hdigit d

/-- The text of a signature. -/
def signatureText (digest : List (Fin 16)) : CodePoints :=
  codePoints signatureVersion ++ codePoints "=" ++ (digest.map Uuid.hexDigit).map codePoint

/-- The bytes that a signature covers. -/
def signedPayload (timestamp : Int) (rawBody : Bytes) : Bytes :=
  asciiBytes (intText timestamp ++ ['.']) ++ rawBody

theorem signatureText_injective : Function.Injective signatureText := by
  intro digest other h
  have htext := List.append_cancel_left h
  exact Uuid.hexDigit_injective.list_map (codePoint_injective.list_map htext)

theorem isAscii_signatureText (digest : List (Fin 16)) : isAscii (signatureText digest) = true := by
  have hdigits := isAscii_map (plain_hexDigits digest)
  rw [isAscii] at hdigits
  rw [signatureText, isAscii, List.all_append, hdigits]
  decide

theorem signatureText_prefix (digest : List (Fin 16)) :
    (codePoints signatureVersion ++ codePoints "=").isPrefixOf (signatureText digest) = true :=
  List.isPrefixOf_iff_prefix.mpr (List.prefix_append _ _)

/-- The stamp and the body can be read off the signed bytes. -/
theorem signedPayload_injective {t t' : Int} {body body' : Bytes}
    (h : signedPayload t body = signedPayload t' body') : t = t' ∧ body = body' := by
  have hdot : ∀ n, UInt8.ofNat '.'.toNat ∉ asciiBytes (intText n) := by
    intro n
    refine not_mem_asciiBytes (plain_intText n) (by decide) ?_
    rw [intText]
    split
    · rintro (_ | ⟨_, hmem⟩)
      exact not_mem_toDigits_ten rfl _ hmem
    · exact not_mem_toDigits_ten rfl _
  simp only [signedPayload, asciiBytes_append, List.append_assoc] at h
  obtain ⟨htext, hbody⟩ := append_separator_inj (hdot t) (hdot t') h
  exact ⟨intText_injective (asciiBytes_injective (plain_intText t) (plain_intText t') htext), hbody⟩

/-! ## Acceptance -/

section Acceptance

variable {platform : Platform} {cfg : SignatureSettings} {secret signature : CodePoints}
  {rawBody : Bytes} {timestamp now : Int} {timestampHeader signatureHeader : Option CodePoints}

theorem computeSignature_ok :
    computeSignature platform secret timestamp rawBody = .ok signature ↔
      showInt platform.maxDigits timestamp = some (intText timestamp) ∧
        ∃ key, encodeUtf8 secret = some key ∧
          signature =
            signatureText (platform.hmacSha256 key (signedPayload timestamp rawBody)) := by
  unfold computeSignature
  cases hshow : showInt platform.maxDigits timestamp with
  | none => simp
  | some text =>
    obtain rfl : text = intText timestamp := by
      rw [showInt] at hshow
      split at hshow
      · exact (Option.some.inj hshow).symm
      · cases hshow
    cases encodeUtf8 secret with
    | none => simp
    | some key =>
      simp only [Except.ok.injEq, true_and, Option.some.injEq, exists_eq_left']
      exact eq_comm

theorem parseInt_nil (decimal : CodePoint → Option (Fin 10)) (maxDigits : Nat) :
    parseInt decimal maxDigits [] = none := rfl

/-- The check of a signature against the one that is expected. -/
theorem compare_computed {expected : CodePoints}
    (hexpected : computeSignature platform secret timestamp rawBody = .ok expected) :
    (do
      let same ← compareDigest expected signature
      if same then .ok () else .error (.ingress .signatureInvalid) : Except Raised Unit) = .ok () ↔
      expected = signature := by
  obtain ⟨-, key, -, rfl⟩ := computeSignature_ok.mp hexpected
  rw [compareDigest, isAscii_signatureText]
  constructor
  · intro h
    by_cases hascii : isAscii signature = true
    · by_cases hsame : signatureText (platform.hmacSha256 key (signedPayload timestamp rawBody)) =
          signature
      · exact hsame
      · simp [hascii, hsame, bind, Except.bind] at h
    · simp [hascii, bind, Except.bind] at h
  · rintro rfl
    simp [isAscii_signatureText, bind, Except.bind]

/-- The verifier accepts exactly the signature that it computes itself, within the skew. -/
theorem verifyInboundSignature_ok :
    verifyInboundSignature platform cfg secret rawBody timestampHeader signatureHeader now = .ok ()
      ↔ ∃ timestampText timestamp signature, timestampHeader = some timestampText ∧
        signatureHeader = some signature ∧
        parseInt platform.decimal platform.maxDigits timestampText = some timestamp ∧
        (now - cfg.maxPastSkewSeconds ≤ timestamp ∧ timestamp ≤ now + cfg.maxFutureSkewSeconds) ∧
        computeSignature platform secret timestamp rawBody = .ok signature := by
  constructor
  · intro h
    unfold verifyInboundSignature at h
    split at h
    case h_5 signature timestampText _ _ =>
      refine ⟨timestampText, ?_⟩
      cases hparse : parseInt platform.decimal platform.maxDigits timestampText with
      | none => simp [hparse] at h
      | some timestamp =>
        simp only [hparse] at h
        split_ifs at h with hskew hversion
        obtain ⟨expected, hexpected⟩ : ∃ expected,
            computeSignature platform secret timestamp rawBody = .ok expected := by
          cases hcomputed : computeSignature platform secret timestamp rawBody with
          | error => simp [hcomputed, bind, Except.bind] at h
          | ok expected => exact ⟨expected, rfl⟩
        rw [hexpected] at h
        obtain rfl := (compare_computed hexpected).mp h
        exact ⟨timestamp, expected, rfl, rfl, rfl, by omega, hexpected⟩
    all_goals cases h
  · rintro ⟨timestampText, timestamp, signature, rfl, rfl, hparse, hskew, hcomputed⟩
    obtain ⟨-, key, -, hsignature⟩ := computeSignature_ok.mp hcomputed
    have hversion :=
      signatureText_prefix (platform.hmacSha256 key (signedPayload timestamp rawBody))
    rw [← hsignature] at hversion
    have hstamp : timestampText ≠ [] := by
      rintro rfl
      rw [parseInt_nil] at hparse
      cases hparse
    have hne : signature ≠ [] := by
      rintro rfl
      cases hversion
    obtain ⟨c, stamp, rfl⟩ := List.exists_cons_of_ne_nil hstamp
    obtain ⟨d, rest, rfl⟩ := List.exists_cons_of_ne_nil hne
    have hfresh : ¬ (timestamp < now - cfg.maxPastSkewSeconds ∨
        timestamp > now + cfg.maxFutureSkewSeconds) := by omega
    simp only [verifyInboundSignature, hparse, if_neg hfresh, hversion, Bool.not_true,
      Bool.false_eq_true, if_false, hcomputed]
    exact (compare_computed hcomputed).mpr rfl

/-- What is built when nothing raises. -/
theorem buildSignedRequest_eq {envelope : JsonFields} {eventId deliveryId : CodePoints}
    {request : Webhooks.SignedRequest}
    (h : Webhooks.buildSignedRequest platform.hmacSha256 platform.maxDigits secret envelope eventId
      deliveryId now = some request) :
    request.header "X-SupportPilot-Timestamp" = some ((intText now).map codePoint) ∧
      showInt platform.maxDigits now = some (intText now) ∧
        ∃ signature, request.header "X-SupportPilot-Signature" = some signature ∧
          computeSignature platform secret now request.rawBody = .ok signature := by
  unfold Webhooks.buildSignedRequest Webhooks.sign at h
  cases hshow : showInt platform.maxDigits now with
  | none => simp [hshow] at h
  | some text =>
    cases hkey : encodeUtf8 secret with
    | none => simp [hshow, hkey] at h
    | some key =>
      obtain rfl : text = intText now := by
        rw [showInt] at hshow
        split at hshow
        · exact (Option.some.inj hshow).symm
        · cases hshow
      simp only [hshow, hkey, Option.bind_eq_bind, Option.bind_some, Option.some.injEq] at h
      subst h
      exact ⟨rfl, rfl, _, rfl, computeSignature_ok.mpr ⟨hshow, key, hkey, rfl⟩⟩

/-- A request that was built is accepted with the same secret exactly within the skew of its time
stamp, and one signature is accepted for one stamp and one body only. -/
theorem signedRequest_accepted_iff (platform : Platform)
    (hhmac : ∀ key, Function.Injective (platform.hmacSha256 key)) (cfg : SignatureSettings)
    (secret : CodePoints) :
    (∀ envelope eventId deliveryId now request,
      Webhooks.buildSignedRequest platform.hmacSha256 platform.maxDigits secret envelope eventId
          deliveryId now = some request →
        ∀ clock : Int,
          verifyInboundSignature platform cfg secret request.rawBody
              (request.header "X-SupportPilot-Timestamp")
              (request.header "X-SupportPilot-Signature") clock = .ok () ↔
            clock - cfg.maxPastSkewSeconds ≤ now ∧ now ≤ clock + cfg.maxFutureSkewSeconds) ∧
    ∀ signature timestampHeader timestampHeader' rawBody rawBody' clock clock',
      verifyInboundSignature platform cfg secret rawBody timestampHeader (some signature)
          clock = .ok () →
        verifyInboundSignature platform cfg secret rawBody' timestampHeader' (some signature)
            clock' = .ok () →
          rawBody = rawBody' ∧
            timestampHeader.bind (parseInt platform.decimal platform.maxDigits) =
              timestampHeader'.bind (parseInt platform.decimal platform.maxDigits) := by
  constructor
  · intro envelope eventId deliveryId now request hbuilt clock
    obtain ⟨hstamp, hshow, signature, hsignature, hcomputed⟩ := buildSignedRequest_eq hbuilt
    rw [verifyInboundSignature_ok, hstamp, hsignature]
    constructor
    · rintro ⟨text, timestamp, _, htext, -, hparse, hskew, -⟩
      rw [← Option.some.inj htext, parseInt_showInt platform.decimal hshow] at hparse
      obtain rfl := Option.some.inj hparse
      exact hskew
    · intro hskew
      exact ⟨_, now, signature, rfl, rfl, parseInt_showInt platform.decimal hshow, hskew, hcomputed⟩
  · intro signature timestampHeader timestampHeader' rawBody rawBody' clock clock' h h'
    obtain ⟨text, t, own, rfl, hown, hparse, -, hcomputed⟩ := verifyInboundSignature_ok.mp h
    obtain ⟨text', t', own', rfl, hown', hparse', -, hcomputed'⟩ := verifyInboundSignature_ok.mp h'
    obtain ⟨-, key, hkey, hsignature⟩ := computeSignature_ok.mp hcomputed
    obtain ⟨-, key', hkey', hsignature'⟩ := computeSignature_ok.mp hcomputed'
    obtain rfl : key = key' := Option.some.inj (hkey.symm.trans hkey')
    rw [← Option.some.inj hown', Option.some.inj hown, hsignature] at hsignature'
    obtain ⟨rfl, hbody⟩ :=
      signedPayload_injective (hhmac key (signatureText_injective hsignature'))
    exact ⟨hbody, hparse.trans hparse'.symm⟩

end Acceptance

/-! ## A request -/

def sampleSecret : CodePoints := codePoints "s3cret"

def sampleEnvelope : JsonFields := [(codePoints "id", .string (codePoints "e1"))]

/-- The bytes that are signed for the sample at second 1700000000. -/
def samplePayload : Bytes := asciiBytes "1700000000.\x7b\"id\":\"e1\"\x7d".toList

/-- Their HMAC-SHA256 under the sample secret. -/
def sampleDigest : List (Fin 16) :=
  [14, 5, 8, 4, 14, 10, 1, 11, 10, 14, 1, 0, 11, 11, 11, 12, 1, 0, 5, 12, 1, 9, 3, 11, 14, 14, 4,
    5, 14, 14, 1, 2, 8, 15, 3, 9, 11, 6, 0, 8, 0, 3, 1, 8, 9, 11, 2, 6, 7, 3, 11, 3, 14, 8, 7, 8,
    11, 9, 4, 9, 9, 7, 12, 8]

def byteDigits (b : UInt8) : List (Fin 16) :=
  [⟨b.toNat / 16, Nat.div_lt_of_lt_mul b.toNat_lt⟩, ⟨b.toNat % 16, Nat.mod_lt _ (by decide)⟩]

/-- The digest of the sample; of other bytes, a text of odd length that shows them all. -/
def sampleHmac (key payload : Bytes) : List (Fin 16) :=
  if key = asciiBytes "s3cret".toList ∧ payload = samplePayload then sampleDigest
  else 0 :: payload.flatMap byteDigits

theorem byteDigits_flatMap_injective {payload other : Bytes}
    (h : payload.flatMap byteDigits = other.flatMap byteDigits) : payload = other := by
  induction payload generalizing other with
  | nil =>
    cases other with
    | nil => rfl
    | cons => cases h
  | cons b payload ih =>
    cases other with
    | nil => cases h
    | cons b' other =>
      simp only [List.flatMap_cons, byteDigits, List.cons_append, List.nil_append, List.cons.injEq,
        Fin.mk.injEq] at h
      obtain ⟨hhigh, hlow, hrest⟩ := h
      have hbyte : b = b' := UInt8.toNat_inj.mp (by omega)
      rw [hbyte, ih hrest]

theorem length_flatMap_byteDigits (payload : Bytes) :
    (payload.flatMap byteDigits).length = 2 * payload.length := by
  induction payload with
  | nil => rfl
  | cons b payload ih =>
    rw [List.flatMap_cons, List.length_append, ih, List.length_cons]
    show 2 + 2 * payload.length = 2 * (payload.length + 1)
    omega

theorem sampleHmac_injective (key : Bytes) : Function.Injective (sampleHmac key) := by
  have hodd : ∀ payload : Bytes, sampleDigest ≠ 0 :: payload.flatMap byteDigits := by
    intro payload h
    have hlength := congrArg List.length h
    rw [List.length_cons, length_flatMap_byteDigits] at hlength
    have hdigest : sampleDigest.length = 64 := rfl
    omega
  intro payload other h
  unfold sampleHmac at h
  split_ifs at h with hsample hother hother
  · exact hsample.2.trans hother.2.symm
  · exact absurd h (hodd other)
  · exact absurd h.symm (hodd payload)
  · exact byteDigits_flatMap_injective (List.cons.inj h).2

def samplePlatform : Platform where
  hmacSha256 := sampleHmac
  decimal := fun _ => none
  maxDigits := 4300

theorem signedRequest_accepted_sample :
    ∃ request, Webhooks.buildSignedRequest sampleHmac 4300 sampleSecret sampleEnvelope
        (codePoints "e1") (codePoints "d1") 1700000000 = some request ∧
      verifyInboundSignature samplePlatform {} sampleSecret request.rawBody
          (request.header "X-SupportPilot-Timestamp")
          (request.header "X-SupportPilot-Signature") 1700000300 = .ok () ∧
      verifyInboundSignature samplePlatform {} sampleSecret request.rawBody
          (request.header "X-SupportPilot-Timestamp")
          (request.header "X-SupportPilot-Signature") 1700000301 ≠ .ok () := by
  have haccepted := (signedRequest_accepted_iff samplePlatform sampleHmac_injective {}
    sampleSecret).1 sampleEnvelope (codePoints "e1") (codePoints "d1") 1700000000
  obtain ⟨request, hrequest⟩ : ∃ request, Webhooks.buildSignedRequest sampleHmac 4300 sampleSecret
      sampleEnvelope (codePoints "e1") (codePoints "d1") 1700000000 = some request := ⟨_, rfl⟩
  refine ⟨request, hrequest, (haccepted request hrequest _).mpr (by decide), ?_⟩
  rw [Ne, haccepted request hrequest]
  decide

end SupportPilot.ChannelIngress
