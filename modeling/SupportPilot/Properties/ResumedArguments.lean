import SupportPilot.Tools.Inputs

/-!
# The arguments of a resumed execution

`resume_after_approval` validates the stored redacted dump again and gives the result to the
handler. Field by field, a value that is not redacted comes back as it was unless it is upper
cased, and the placeholder is refused unless the field is a text that admits it.
-/

namespace SupportPilot.Tools

open Library

variable {lib : Validation}

section Resume

variable (lib) (tool : ToolInput)

/-- The fields whose values are redacted in the snapshot. -/
def ToolInput.hidden (name : String) : Bool :=
  hiddenKey lib.lower (tool.inputSensitiveFields.map lib.lower) name

/-- The `arguments_redacted` of the execution. -/
def ToolInput.snapshot (values : List (String × Value)) : JsonObject :=
  hideFields (tool.hidden lib) (dump lib values)

/-- The arguments that the handler is invoked with at the resume. -/
def ToolInput.resume (values : List (String × Value)) : Option (List (String × Value)) :=
  tool.model.validate lib (tool.snapshot lib values)

def ToolInput.Redacted : Prop :=
  ∃ field ∈ tool.model.fields, tool.hidden lib field.name = true

/-- What is promised of the resume of an action that was requested with these values. -/
structure ResumesAsApproved (values : List (String × Value)) : Prop where
  same : ∀ resumed, tool.resume lib values = some resumed → resumed = values
  redacted : tool.Redacted lib → tool.resume lib values = none
  kept : ¬ tool.Redacted lib → (tool.resume lib values).isSome

end Resume

/-! ## One field -/

section Field

variable (lib) (hidden : String → Bool)

/-- The value of a field in the snapshot. -/
def storedJson (field : Field) (value : Value) : Json :=
  if hidden field.name then .string redactedText else dumpValue lib value

/-- Some texts of the kind admit the placeholder. -/
def FieldKind.admitsPlaceholder : FieldKind → Bool
  | .text lo hi => fits lo hi redactedText
  | .upperText lo hi => fits lo (some hi) redactedText
  | .choice values => redactedText ∈ values
  | _ => false

/-- The field accepts what the snapshot has for it. -/
def fieldKept (field : Field) (value : Value) : Bool :=
  if hidden field.name then field.kind.admitsPlaceholder
  else match field.kind, value with
    | .upperText lo hi, .text s => fits lo (some hi) s
    | _, _ => true

/-- The value that the field then has. -/
def resumedValue (field : Field) (value : Value) : Value :=
  match field.kind, (if hidden field.name then .text redactedText else value) with
  | .upperText _ _, .text s => .text (lib.upper s)
  | _, value => value

/-- The value is the null of the field, or one that its kind gives. -/
def Field.Holds (field : Field) (value : Value) : Prop :=
  (field.nullable = true ∧ value = .null) ∨ ∃ json, validateKind lib field.kind json = some value

end Field

/-- A default is one of the values that the kind gives. -/
theorem default_holds (hlib : lib.Documented) {field : Field} {value : Value}
    (hdefault : field.defaultOk = true) (hvalue : field.default = some value) :
    field.Holds lib value := by
  unfold Field.defaultOk at hdefault
  rw [hvalue] at hdefault
  cases value with
  | null => exact .inl ⟨hdefault, rfl⟩
  | text s =>
    right
    cases hkind : field.kind with
    | text lo hi =>
      rw [hkind] at hdefault
      exact ⟨.string s, if_pos hdefault⟩
    | _ => simp [hkind] at hdefault
  | integer n =>
    right
    cases hkind : field.kind with
    | integer lo hi =>
      simp only [hkind, Bool.and_eq_true, decide_eq_true_eq] at hdefault
      exact ⟨.int n, by simp [validateKind, hlib.integer, hdefault]⟩
    | _ => simp [hkind] at hdefault
  | number q =>
    right
    cases hkind : field.kind with
    | number lo hi =>
      simp only [hkind, Bool.and_eq_true, decide_eq_true_eq] at hdefault
      exact ⟨.float q, by simp [validateKind, hlib.number, hdefault]⟩
    | _ => simp [hkind] at hdefault
  | moment m => cases field.kind <;> simp at hdefault

theorem readField_holds (hlib : lib.Documented) {field : Field} {raw : JsonObject} {value : Value}
    (hdefault : field.defaultOk = true) (h : readField lib field raw = some value) :
    field.Holds lib value := by
  unfold readField at h
  cases hjson : raw.lookup field.name with
  | none =>
    rw [hjson] at h
    exact default_holds hlib hdefault h
  | some json =>
    simp only [hjson, validateField] at h
    split at h
    · simp only [Option.some.injEq] at h
      exact .inl ⟨by assumption, h.symm⟩
    · exact .inr ⟨_, h⟩

theorem validateField_string (field : Field) (s : String) :
    validateField lib field (.string s) = validateKind lib field.kind (.string s) := by
  unfold validateField
  cases field.nullable <;> rfl

/-- No kind admits the placeholder but a text. -/
theorem validateKind_placeholder (hlib : lib.Documented) (kind : FieldKind) :
    validateKind lib kind (.string redactedText) =
      if kind.admitsPlaceholder then
        some (match kind with
          | .upperText _ _ => .text (lib.upper redactedText)
          | _ => .text redactedText)
      else none := by
  cases kind with
  | text lo hi => rfl
  | upperText lo hi => rfl
  | choice values => simp [validateKind, FieldKind.admitsPlaceholder]
  | email => simp [validateKind, FieldKind.admitsPlaceholder, hlib.noEmail]
  | integer lo hi => simp [validateKind, FieldKind.admitsPlaceholder, hlib.noInteger]
  | number lo hi => simp [validateKind, FieldKind.admitsPlaceholder, hlib.noNumber]
  | moment => simp [validateKind, FieldKind.admitsPlaceholder, hlib.noMoment]

/-- A validated value is read again as it was, unless its text is upper cased. -/
theorem validateKind_dump (hlib : lib.Documented) {kind : FieldKind} {json : Json} {value : Value} :
    validateKind lib kind json = some value →
      validateKind lib kind (dumpValue lib value) =
        match kind, value with
        | .upperText lo hi, .text s =>
          if fits lo (some hi) s then some (.text (lib.upper s)) else none
        | _, value => some value := by
  intro h
  cases kind with
  | upperText lo hi =>
    cases json with
    | string s =>
      simp only [validateKind] at h
      split at h
      · cases h
        rfl
      · cases h
    | _ => cases h
  | text lo hi =>
    cases json with
    | string s =>
      simp only [validateKind] at h
      split at h
      · rename_i hfits
        cases h
        simp [dumpValue, validateKind, hfits]
      · cases h
    | _ => cases h
  | choice values =>
    cases json with
    | string s =>
      simp only [validateKind] at h
      split at h
      · rename_i hmem
        cases h
        simp [dumpValue, validateKind, hmem]
      · cases h
    | _ => cases h
  | email =>
    cases json with
    | string s =>
      simp only [validateKind] at h
      split at h
      · rename_i hvalid
        cases h
        simp [dumpValue, validateKind, hvalid]
      · cases h
    | _ => cases h
  | integer lo hi =>
    simp only [validateKind] at h
    split at h
    · split at h
      · rename_i hbounds
        cases h
        simp [dumpValue, validateKind, hlib.integer, hbounds]
      · cases h
    · cases h
  | number lo hi =>
    simp only [validateKind] at h
    split at h
    · split at h
      · rename_i hbounds
        cases h
        simp [dumpValue, validateKind, hlib.number, hbounds]
      · cases h
    · cases h
  | moment =>
    simp only [validateKind, Option.map_eq_some_iff] at h
    obtain ⟨m, hm, rfl⟩ := h
    simp [dumpValue, validateKind, hlib.moment json m hm]

theorem validateKind_ne_null {kind : FieldKind} {json : Json} :
    validateKind lib kind json ≠ some .null := by
  fun_cases validateKind lib kind json <;> simp

theorem validateField_dump {field : Field} {value : Value} (hvalue : value ≠ .null) :
    validateField lib field (dumpValue lib value) =
      validateKind lib field.kind (dumpValue lib value) := by
  unfold validateField
  cases value with
  | null => exact absurd rfl hvalue
  | _ => cases field.nullable <;> rfl

/-- What becomes of a field of the snapshot when it is validated again. -/
theorem validateField_stored (hlib : lib.Documented) {hidden : String → Bool} {field : Field}
    {value : Value} (hholds : field.Holds lib value) :
    validateField lib field (storedJson lib hidden field value) =
      if fieldKept hidden field value then some (resumedValue lib hidden field value)
      else none := by
  cases hhidden : hidden field.name with
  | true =>
    simp only [storedJson, fieldKept, resumedValue, hhidden, if_true]
    rw [validateField_string, validateKind_placeholder hlib]
    cases field.kind <;> rfl
  | false =>
    simp only [storedJson, fieldKept, resumedValue, hhidden, Bool.false_eq_true, if_false]
    rcases hholds with ⟨hnullable, rfl⟩ | ⟨json, hjson⟩
    · simp [dumpValue, validateField, hnullable]
    · have hne : value ≠ .null := fun h => validateKind_ne_null (h ▸ hjson)
      rw [validateField_dump hne, validateKind_dump hlib hjson]
      cases field.kind with
      | upperText lo hi => cases value <;> rfl
      | _ => rfl

/-! ## The whole snapshot -/

/-- The value that was read for a field. -/
def taken (lib : Validation) (raw : JsonObject) (field : Field) : Value :=
  (readField lib field raw).getD .null

theorem hideFields_dump (hidden : String → Bool) (values : List (String × Value)) :
    hideFields hidden (dump lib values) =
      values.map fun (name, value) =>
        (name, if hidden name then .string redactedText else dumpValue lib value) := by
  induction values with
  | nil => rfl
  | cons entry rest ih =>
    obtain ⟨name, value⟩ := entry
    have hscalar : hide hidden (dumpValue lib value) = dumpValue lib value := by
      cases value <;> rfl
    simp only [dump, List.map_cons, hideFields] at ih ⊢
    rw [hscalar, ih]

/-- A name that no other entry has is looked up. -/
theorem lookup_map_of_nodup {f : Field → Json} {fields : List Field} {field : Field}
    (hnodup : (fields.map (·.name)).Nodup) (hmem : field ∈ fields) :
    (fields.map fun field => (field.name, f field)).lookup field.name = some (f field) := by
  induction fields with
  | nil => cases hmem
  | cons first rest ih =>
    rw [List.map_cons, List.nodup_cons] at hnodup
    rw [List.map_cons, List.lookup_cons]
    rcases List.mem_cons.mp hmem with rfl | hrest
    · simp
    · have hname : field.name ≠ first.name := fun heq =>
        hnodup.1 (heq ▸ List.mem_map_of_mem hrest)
      rw [beq_false_of_ne hname]
      exact ih hnodup.2 hrest

section Snapshot

variable {tool : ToolInput} {raw : JsonObject} {values : List (String × Value)}

theorem validated_eq (h : tool.model.validate lib raw = some values) :
    (∀ field ∈ tool.model.fields, readField lib field raw = some (taken lib raw field)) ∧
      values = tool.model.fields.map fun field => (field.name, taken lib raw field) := by
  have hread := (InputModel.validate_eq_some lib h).1
  rw [validateFields_eq] at hread
  split at hread
  · rename_i hall
    refine ⟨fun field hmem => ?_, (Option.some.inj hread).symm⟩
    obtain ⟨value, hvalue⟩ := Option.isSome_iff_exists.mp (hall field hmem)
    rw [taken, hvalue]
    rfl
  · cases hread

theorem snapshot_eq (h : tool.model.validate lib raw = some values) :
    tool.snapshot lib values =
      tool.model.fields.map fun field =>
        (field.name, storedJson lib (tool.hidden lib) field (taken lib raw field)) := by
  rw [ToolInput.snapshot, hideFields_dump, (validated_eq h).2, List.map_map]
  rfl

/-- The arguments that the resume reads, if it reads any. -/
def resumedValues (lib : Validation) (tool : ToolInput) (raw : JsonObject) :
    List (String × Value) :=
  tool.model.fields.map fun field =>
    (field.name, resumedValue lib (tool.hidden lib) field (taken lib raw field))

/-- Every field accepts what the snapshot has for it. -/
def AllKept (lib : Validation) (tool : ToolInput) (raw : JsonObject) : Prop :=
  ∀ field ∈ tool.model.fields, fieldKept (tool.hidden lib) field (taken lib raw field) = true

instance : Decidable (AllKept lib tool raw) :=
  inferInstanceAs (Decidable (∀ field ∈ tool.model.fields, _ = true))

/-- What the resume gives to the handler. -/
theorem resume_eq (hlib : lib.Documented) (h : tool.model.validate lib raw = some values) :
    tool.resume lib values =
      if AllKept lib tool raw ∧
          tool.model.valid (fun name => (resumedValues lib tool raw).lookup name) = true then
        some (resumedValues lib tool raw)
      else none := by
  have hread : ∀ field ∈ tool.model.fields,
      readField lib field (tool.snapshot lib values) =
        if fieldKept (tool.hidden lib) field (taken lib raw field) then
          some (resumedValue lib (tool.hidden lib) field (taken lib raw field))
        else none := by
    intro field hmem
    have hholds := readField_holds hlib (tool.model.defaults_ok field hmem)
      ((validated_eq h).1 field hmem)
    rw [← validateField_stored hlib hholds, readField, snapshot_eq h,
      lookup_map_of_nodup tool.model.names_nodup hmem]
  have hvalidate : tool.resume lib values =
      (validateFields lib (tool.snapshot lib values) tool.model.fields).filter fun values =>
        tool.model.valid fun name => values.lookup name := by
    refine if_pos ?_
    rw [snapshot_eq h, List.all_map, List.all_eq_true]
    intro field hmem
    exact List.any_eq_true.mpr ⟨field, hmem, by simp⟩
  rw [hvalidate, validateFields_eq]
  by_cases hkept : AllKept lib tool raw
  · have hvalues : ∀ field ∈ tool.model.fields,
        readField lib field (tool.snapshot lib values) =
          some (resumedValue lib (tool.hidden lib) field (taken lib raw field)) := by
      intro field hmem
      rw [hread field hmem, if_pos (hkept field hmem)]
    have hmap : (tool.model.fields.map fun field =>
        (field.name, (readField lib field (tool.snapshot lib values)).getD .null)) =
          resumedValues lib tool raw :=
      List.map_congr_left fun field hmem => by rw [hvalues field hmem]; rfl
    rw [if_pos fun field hmem => by rw [hvalues field hmem]; rfl, hmap, Option.filter_some]
    simp only [hkept, true_and]
  · have hlost : ¬ ∀ field ∈ tool.model.fields,
        (readField lib field (tool.snapshot lib values)).isSome := by
      intro hall
      refine hkept fun field hmem => ?_
      have hsome := hall field hmem
      rw [hread field hmem] at hsome
      by_contra hnot
      rw [if_neg hnot] at hsome
      cases hsome
    rw [if_neg hlost, if_neg fun h => hkept h.1]
    rfl

/-- An upper-cased text that its own field reads again as it is. -/
def Settled (lib : Validation) (field : Field) (value : Value) : Prop :=
  match field.kind, value with
  | .upperText lo hi, .text s => fits lo (some hi) s = true ∧ lib.upper s = s
  | _, _ => True

theorem settled_iff {hidden : String → Bool} {field : Field} {value : Value}
    (hvisible : hidden field.name = false) :
    Settled lib field value ↔
      fieldKept hidden field value = true ∧ resumedValue lib hidden field value = value := by
  simp only [Settled, fieldKept, resumedValue, hvisible, Bool.false_eq_true, if_false]
  cases field.kind with
  | upperText lo hi => cases value <;> simp
  | _ => simp

/-- When the resume keeps its promise: a redacted value is refused by its field or by the check
of the model, and where nothing is redacted every upper-cased text is read as it is. -/
structure SafeToResume (lib : Validation) (tool : ToolInput) (raw : JsonObject) : Prop where
  refused : tool.Redacted lib → AllKept lib tool raw →
    tool.model.valid (fun name => (resumedValues lib tool raw).lookup name) = false
  settled : ¬ tool.Redacted lib →
    ∀ field ∈ tool.model.fields, Settled lib field (taken lib raw field)

theorem resumedValues_eq_iff (h : tool.model.validate lib raw = some values)
    (hvisible : ¬ tool.Redacted lib) :
    AllKept lib tool raw ∧ resumedValues lib tool raw = values ↔
      ∀ field ∈ tool.model.fields, Settled lib field (taken lib raw field) := by
  have hname : ∀ field ∈ tool.model.fields, tool.hidden lib field.name = false := by
    intro field hmem
    by_contra hnot
    exact hvisible ⟨field, hmem, by simpa using hnot⟩
  have hsame : resumedValues lib tool raw = values ↔ ∀ field ∈ tool.model.fields,
      resumedValue lib (tool.hidden lib) field (taken lib raw field) = taken lib raw field := by
    rw [(validated_eq h).2, resumedValues, List.map_inj_left]
    simp
  rw [hsame]
  constructor
  · rintro ⟨hkept, hvalues⟩ field hmem
    exact (settled_iff (hname field hmem)).mpr ⟨hkept field hmem, hvalues field hmem⟩
  · intro hsettled
    have hboth := fun field hmem => (settled_iff (hname field hmem)).mp (hsettled field hmem)
    exact ⟨fun field hmem => (hboth field hmem).1, fun field hmem => (hboth field hmem).2⟩

/-- The handler of an approved action is invoked with the approved arguments, and never with
redacted ones, exactly when the snapshot is safe to resume. -/
theorem resumes_as_approved_iff (hlib : lib.Documented)
    (h : tool.model.validate lib raw = some values) :
    ResumesAsApproved lib tool values ↔ SafeToResume lib tool raw := by
  have hresume := resume_eq hlib h
  by_cases hredacted : tool.Redacted lib
  · constructor
    · intro hpromise
      refine ⟨fun _ hkept => ?_, fun hnot => absurd hredacted hnot⟩
      have hnone := hpromise.redacted hredacted
      rw [hresume] at hnone
      by_contra hvalid
      rw [if_pos ⟨hkept, by simpa using hvalid⟩] at hnone
      cases hnone
    · intro hsafe
      have hnone : tool.resume lib values = none := by
        rw [hresume, if_neg]
        rintro ⟨hkept, hvalid⟩
        rw [hsafe.refused hredacted hkept] at hvalid
        cases hvalid
      refine ⟨fun resumed hresumed => ?_, fun _ => hnone, fun hnot => absurd hredacted hnot⟩
      rw [hnone] at hresumed
      cases hresumed
  · constructor
    · intro hpromise
      refine ⟨fun hnot => absurd hnot hredacted, fun _ => ?_⟩
      rw [← resumedValues_eq_iff h hredacted]
      obtain ⟨resumed, hresumed⟩ := Option.isSome_iff_exists.mp (hpromise.kept hredacted)
      have hvalues := hpromise.same resumed hresumed
      rw [hresume] at hresumed
      split at hresumed
      · rename_i hread
        exact ⟨hread.1, (Option.some.inj hresumed).trans hvalues⟩
      · cases hresumed
    · intro hsafe
      obtain ⟨hkept, hvalues⟩ :=
        (resumedValues_eq_iff h hredacted).mpr (hsafe.settled hredacted)
      have hsome : tool.resume lib values = some values := by
        rw [hresume, hvalues, if_pos ⟨hkept, (InputModel.validate_eq_some lib h).2⟩]
      refine ⟨fun resumed hresumed => ?_, fun hnot => absurd hnot hredacted, fun _ => ?_⟩
      · rw [hsome] at hresumed
        exact (Option.some.inj hresumed).symm
      · rw [hsome]
        rfl

end Snapshot

/-! ## The registered tools -/

def isFieldName (name : String) : Bool :=
  name.toList.all fun c => c.isLower || c = '_'

/-- No registered tool has a field that is redacted. -/
theorem registered_visible (hlower : ∀ name, isFieldName name = true → lib.lower name = name)
    {tool : ToolInput} (htool : tool ∈ registeredTools) : ¬ tool.Redacted lib := by
  have hnames : ∀ tool ∈ registeredTools, tool.inputSensitiveFields = [] ∧
      ∀ field ∈ tool.model.fields, isFieldName field.name = true ∧
        isSensitiveKey id field.name = false := by
    decide +kernel
  rintro ⟨field, hmem, hhidden⟩
  obtain ⟨hnone, hfields⟩ := hnames tool htool
  obtain ⟨hname, hclear⟩ := hfields field hmem
  have hsensitive : isSensitiveKey lib.lower field.name = isSensitiveKey id field.name := by
    unfold isSensitiveKey
    rw [hlower field.name hname]
    rfl
  unfold ToolInput.hidden hiddenKey at hhidden
  rw [hnone, hsensitive, hclear] at hhidden
  cases hhidden

/-- Upper case on ASCII and the sharp s, and the readers on their own dumps. -/
def sampleValidation : Validation where
  integer
    | .int n => some n
    | _ => none
  number
    | .float q => some q
    | .int n => some n
    | _ => none
  moment _ := none
  dumpMoment _ := ""
  validEmail s := '@' ∈ s.toList
  upper s := String.ofList (s.toList.flatMap fun c => if c = 'ß' then ['S', 'S'] else [c.toUpper])
  lower s := String.ofList (s.toList.map Char.toLower)

theorem sampleValidation_documented : sampleValidation.Documented where
  integer _ := rfl
  number _ := rfl
  moment _ _ h := by cases h
  noInteger := rfl
  noNumber := rfl
  noMoment := rfl
  noEmail := by decide

theorem toLower_of_fieldName {c : Char} (hc : c.isLower = true ∨ c = '_') : c.toLower = c := by
  rcases hc with hlower | rfl
  · have hrange : (decide (97 ≤ c.val) && decide (c.val ≤ 122)) = true := hlower
    rw [Bool.and_eq_true, decide_eq_true_eq] at hrange
    have hbound : 97 ≤ c.val.toNat := UInt32.le_iff_toNat_le.mp hrange.1
    refine dif_neg fun hupper => ?_
    have hbound' : c.val.toNat ≤ 90 := UInt32.le_iff_toNat_le.mp hupper.2
    omega
  · rfl

theorem sampleValidation_lower (name : String) (hname : isFieldName name = true) :
    sampleValidation.lower name = name := by
  have hsame : name.toList.map Char.toLower = name.toList := by
    refine (List.map_congr_left fun c hc => ?_).trans (List.map_id _)
    have hc' := List.all_eq_true.mp hname c hc
    rw [Bool.or_eq_true, decide_eq_true_eq] at hc'
    exact toLower_of_fieldName hc'
  show String.ofList (name.toList.map Char.toLower) = name
  rw [hsame, String.ofList_toList]

def paymentRefund : ToolInput := { key := "payment.refund", model := paymentRefundInput }

/-- A refund, as the model asks for it. -/
def refundArguments (currency : String) : JsonObject :=
  [("payment_reference", .string "pay_1"), ("amount_minor", .int 500),
    ("currency", .string currency)]

def refundValues (currency : String) : List (String × Value) :=
  [("payment_reference", .text "pay_1"), ("amount_minor", .integer 500),
    ("currency", .text currency), ("reason", .text "requested_by_customer")]

theorem refund_validate :
    paymentRefundInput.validate sampleValidation (refundArguments "eur") =
      some (refundValues "EUR") := by
  decide +kernel

theorem resumes_refund :
    ResumesAsApproved sampleValidation paymentRefund (refundValues "EUR") ↔
      SafeToResume sampleValidation paymentRefund (refundArguments "eur") :=
  resumes_as_approved_iff sampleValidation_documented refund_validate

/-- A refund in a currency whose upper case is a letter longer is approved and then lost. -/
theorem not_always_resumes_as_approved :
    ¬ ∀ (lib : Validation) (tool : ToolInput) (raw : JsonObject) (values : List (String × Value)),
      lib.Documented → tool ∈ registeredTools → tool.model.validate lib raw = some values →
        ResumesAsApproved lib tool values := by
  intro hpromise
  have hmem : paymentRefund ∈ registeredTools := by simp [registeredTools, paymentRefund]
  have hkept := (hpromise sampleValidation paymentRefund (refundArguments "abß")
    (refundValues "ABSS") sampleValidation_documented hmem
    (by decide)).kept (registered_visible sampleValidation_lower hmem)
  have hlost : paymentRefund.resume sampleValidation (refundValues "ABSS") = none := by
    decide
  rw [hlost] at hkept
  cases hkept

end SupportPilot.Tools
