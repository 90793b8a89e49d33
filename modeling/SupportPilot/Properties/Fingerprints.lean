import SupportPilot.Library.CanonicalJson
import SupportPilot.Tools.Execution
import SupportPilot.Tools.Idempotency

/-!
# A fingerprint stands for one action

Two objects of arguments have one fingerprint exactly when they are the same up to the order of
their fields at every depth, an integer and a float being different values. The two checks that
compare fingerprints therefore tell apart exactly the actions that differ.
-/

namespace SupportPilot.Idempotency

open Library

theorem canonicalOptions_isCanonical (maxDigits : Nat) :
    (canonicalOptions maxDigits).IsCanonical := ⟨rfl, rfl, rfl⟩

section Injective

variable {sha256 : Bytes → String} {maxDigits depth depth' : Nat}
  {arguments others : JsonFields} {fingerprint other : String}

theorem fingerprint_eq_iff (hinjective : Function.Injective sha256)
    (harguments : Proper (.object arguments)) (hothers : Proper (.object others))
    (h : fingerprintArguments sha256 maxDigits depth arguments = .ok fingerprint)
    (h' : fingerprintArguments sha256 maxDigits depth' others = .ok other) :
    fingerprint = other ↔ SameValue (.object arguments) (.object others) := by
  obtain ⟨text, htext, hdigest⟩ := bind_eq_ok.mp h
  obtain ⟨text', htext', hdigest'⟩ := bind_eq_ok.mp h'
  have hcanonical := canonicalOptions_isCanonical maxDigits
  rw [← encode_eq_iff hcanonical harguments hothers htext htext', ← Except.ok.inj hdigest,
    ← Except.ok.inj hdigest']
  refine hinjective.eq_iff.trans ⟨asciiBytes_injective ?_ ?_, congrArg _⟩
  · rw [encode_eq_dumps hcanonical htext]
    exact plain_dumps _
  · rw [encode_eq_dumps hcanonical htext']
    exact plain_dumps _

end Injective

/-! ## The checks -/

/-- The claim refuses a key as conflicting exactly when the fingerprints differ. -/
theorem resolveExisting_conflict_iff {existing : ToolExecution} {fingerprint : String}
    {tool : ToolSpec} :
    resolveExisting existing fingerprint tool = .error (.raise .idempotencyConflict) ↔
      existing.argumentsFingerprint ≠ fingerprint := by
  constructor
  · intro h heq
    rw [resolveExisting, if_neg (not_not.mpr heq)] at h
    repeat' split at h
    all_goals cases h
  · intro hne
    rw [resolveExisting, if_pos hne]

/-- The failure of a resume that finds another action than the approved one. -/
def changedExit : CallExit :=
  .failure .failed "approval_action_changed"
    "The approved action no longer matches what was requested." (.raise .approvalActionChanged)

/-- A resume ends so exactly when the request carries a fingerprint that is not the one of the
row. -/
theorem checkResume_changed_iff {claimed : ToolExecution} {approval : ApprovalRequest}
    {lookup : ResumeLookup} (happroval : claimed.approvalRequest = some approval)
    (hrecorded : approval.argumentsFingerprint ≠ "") :
    checkResume claimed lookup = .error changedExit ↔
      approval.argumentsFingerprint ≠ claimed.argumentsFingerprint := by
  have hchanged : claimed.actionChanged = true ↔
      approval.argumentsFingerprint ≠ claimed.argumentsFingerprint := by
    rw [ToolExecution.actionChanged, happroval]
    simp [hrecorded]
  rw [← hchanged]
  constructor
  · intro h
    by_contra hsame
    rw [checkResume, if_neg hsame] at h
    repeat' split at h
    all_goals simp [changedExit] at h
  · intro h
    rw [checkResume, if_pos h, changedExit]

/-- Two fingerprints are equal exactly when the objects are the same up to the order of their
fields, and both checks refuse a call exactly when its arguments are not the same. -/
theorem fingerprints_tell_actions_apart {sha256 : Bytes → String}
    (hinjective : Function.Injective sha256) (hdigits : ∀ bytes, sha256 bytes ≠ "")
    {maxDigits depth depth' : Nat} {arguments others : JsonFields} {fingerprint other : String}
    (harguments : Proper (.object arguments)) (hothers : Proper (.object others))
    (h : fingerprintArguments sha256 maxDigits depth arguments = .ok fingerprint)
    (h' : fingerprintArguments sha256 maxDigits depth' others = .ok other) :
    (fingerprint = other ↔ SameValue (.object arguments) (.object others)) ∧
      (∀ existing tool, existing.argumentsFingerprint = fingerprint →
        (resolveExisting existing other tool = .error (.raise .idempotencyConflict) ↔
          ¬ SameValue (.object arguments) (.object others))) ∧
      ∀ claimed approval lookup, claimed.approvalRequest = some approval →
        approval.argumentsFingerprint = fingerprint → claimed.argumentsFingerprint = other →
        (checkResume claimed lookup = .error changedExit ↔
          ¬ SameValue (.object arguments) (.object others)) := by
  have hsame := fingerprint_eq_iff hinjective harguments hothers h h'
  refine ⟨hsame, ?_, ?_⟩
  · intro existing tool hrow
    rw [resolveExisting_conflict_iff, hrow, ← hsame]
  · intro claimed approval lookup happroval hrecorded hrow
    have hne : approval.argumentsFingerprint ≠ "" := by
      obtain ⟨text, -, hdigest⟩ := bind_eq_ok.mp h
      rw [hrecorded, ← Except.ok.inj hdigest]
      exact hdigits _
    rw [checkResume_changed_iff happroval hne, hrecorded, hrow, ← hsame]

/-- The SHA-256 of one text, and an injective stand-in for other bytes. -/
def sampleSha256 (bytes : Bytes) : String :=
  if bytes = asciiBytes "\x7b\"amount\":10,\"currency\":\"EUR\"\x7d".toList then
    "5f19111fbbc74b0d131074d03b389a0125fea1f9d6f001532dad555dc57ca8af"
  else "#" ++ String.ofList (bytes.map fun b => Char.ofNat b.toNat)

theorem ofList_cons_ne {c d : Char} (hne : c ≠ d) (l l' : List Char) (u : String) :
    String.ofList (c :: l) ≠ String.ofList (d :: l') ++ u := by
  intro h
  have hchars := congrArg String.toList h
  rw [String.toList_append, String.toList_ofList, String.toList_ofList] at hchars
  exact hne (List.cons.inj hchars).1

theorem sampleSha256_injective : Function.Injective sampleSha256 := by
  intro s t h
  have hhash : ∀ u : String,
      "5f19111fbbc74b0d131074d03b389a0125fea1f9d6f001532dad555dc57ca8af" ≠ "#" ++ u := by
    exact ofList_cons_ne (by decide) _ _
  have hbyte : Function.Injective fun b : UInt8 => Char.ofNat b.toNat := by
    intro b c hbc
    have hvalid : ∀ b : UInt8, (Char.ofNat b.toNat).toNat = b.toNat := by
      intro b
      have hvalid : b.toNat.isValidChar := .inl (Nat.lt_of_lt_of_le b.toNat_lt (by decide))
      rw [Char.ofNat, dif_pos hvalid]
      rfl
    exact UInt8.toNat_inj.mp ((hvalid b).symm.trans ((congrArg Char.toNat hbc).trans (hvalid c)))
  unfold sampleSha256 at h
  split_ifs at h with hs ht ht
  · rw [hs, ht]
  · exact absurd h (hhash _)
  · exact absurd h.symm (hhash _)
  · exact hbyte.list_map (String.ofList_injective ((String.append_right_inj "#").mp h))

theorem sampleSha256_ne (bytes : Bytes) : sampleSha256 bytes ≠ "" := by
  rw [sampleSha256]
  split
  · decide
  · intro h
    have hchars := congrArg String.toList h
    simp at hchars

def sampleArguments : JsonFields :=
  [(codePoints "amount", .int 10), (codePoints "currency", .string (codePoints "EUR"))]

theorem sortedFields_sample :
    sortedFields (dumpsFields sampleArguments) = dumpsFields sampleArguments := by
  refine List.mergeSort_of_pairwise ?_
  decide

theorem sampleArguments_fingerprint :
    fingerprintArguments sampleSha256 4300 1000 sampleArguments =
      .ok "5f19111fbbc74b0d131074d03b389a0125fea1f9d6f001532dad555dc57ca8af" := by
  have hwritten : canonicalizeArguments 4300 1000 sampleArguments =
      .ok (fieldsText (canonicalOptions 4300) (dumpsFields sampleArguments)) := rfl
  rw [fingerprintArguments, hwritten, fieldsText_canonical (canonicalOptions_isCanonical 4300),
    sortedFields_sample]
  rfl

theorem sampleArguments_reversed :
    fingerprintArguments sampleSha256 4300 1000 sampleArguments.reverse =
      .ok "5f19111fbbc74b0d131074d03b389a0125fea1f9d6f001532dad555dc57ca8af" := by
  have hwritten : canonicalizeArguments 4300 1000 sampleArguments.reverse =
      .ok (fieldsText (canonicalOptions 4300) (dumpsFields sampleArguments.reverse)) := rfl
  have hperm : (dumpsFields sampleArguments.reverse).Perm (dumpsFields sampleArguments) := by
    decide
  rw [fingerprintArguments, hwritten, fieldsText_canonical (canonicalOptions_isCanonical 4300),
    sortedFields_perm hperm (by decide), sortedFields_sample]
  rfl

theorem sampleArguments_proper :
    Proper (.object sampleArguments) ∧ Proper (.object sampleArguments.reverse) :=
  have hcurrency : Unpaired (codePoints "EUR") := by decide
  ⟨⟨by decide, ⟨by decide, trivial⟩, ⟨by decide, hcurrency⟩, trivial⟩,
    ⟨by decide, ⟨by decide, hcurrency⟩, ⟨by decide, trivial⟩, trivial⟩⟩

/-- The two fields the other way round. -/
theorem fingerprints_tell_actions_apart_sample :
    SameValue (.object sampleArguments) (.object sampleArguments.reverse) :=
  (fingerprints_tell_actions_apart sampleSha256_injective sampleSha256_ne sampleArguments_proper.1
    sampleArguments_proper.2 sampleArguments_fingerprint sampleArguments_reversed).1.mp rfl

end SupportPilot.Idempotency
