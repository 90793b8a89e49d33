import SupportPilot.Library.Outcomes
import SupportPilot.Policies.Accepted
import SupportPilot.Policies.Predicates

/-!
# Accepted rules and what an evaluation can store

`add_policy_rule` checks the name of a predicate but none of its parameters, and the length of a
rule's name but not that of the code that an evaluation makes of it. An evaluation succeeds, and
its code fits its column, exactly when the entries that it reaches suit their predicates and the
name or the default that it reports is short enough.
-/

namespace SupportPilot.Policies

open Library

variable {py : Python} {facts : Facts} {params : JsonObject}

/-! ## Parameters that suit a predicate -/

def HasParam (params : JsonObject) (key : String) : Prop := (params.lookup key).isSome = true

/-- The parameter `value` is there, and `float` reads it. -/
def FloatParam (py : Python) (params : JsonObject) : Prop :=
  ∃ bound limit, params.lookup "value" = some bound ∧ toFloat py bound = .ok limit

/-- The parameter `value` is one of the risk levels. -/
def RiskParam (params : JsonObject) : Prop :=
  ∃ level, params.lookup "value" = some (.string level) ∧ (riskOrder.lookup level).isSome = true

/-- The amount is no number, or both it and the bound can be read as numbers of binary64. -/
def SuitsAmount (py : Python) (facts : Facts) (params : JsonObject) : Prop :=
  numericArgument py facts "amount_minor" = .ok none ∨
    (∃ amount, numericArgument py facts "amount_minor" = .ok (some amount)) ∧ FloatParam py params

def SuitsCurrency (facts : Facts) (params : JsonObject) : Prop :=
  ∀ currency, facts.arguments.lookup "currency" = some (.string currency) → HasParam params "value"

/-- The parameter `field` is there and can be looked up. -/
def FieldParam (params : JsonObject) : Prop :=
  ∃ field, params.lookup "field" = some field ∧ field.hashable = true

/-- The values are a list, or a container that the argument can be looked up in. -/
def SuitsValues (facts : Facts) (params : JsonObject) : Prop :=
  ∃ field argument values, params.lookup "field" = some field ∧
    Json.get facts.arguments field = some argument ∧ params.lookup "values" = some values ∧
    match values with
    | .list _ => True
    | .string _ => ∃ part, argument = .string part
    | .object _ => argument.hashable = true
    | _ => False

/-- Where both ends are dates, they both have offsets or neither has, and the bound can be read. -/
def SuitsBooking (py : Python) (facts : Facts) (params : JsonObject) : Prop :=
  ∀ start finish from_ to_, facts.arguments.lookup "start" = some (.string start) →
    facts.arguments.lookup "end" = some (.string finish) →
    py.fromisoformat start = some from_ → py.fromisoformat finish = some to_ →
    from_.utcOffset.isSome = to_.utcOffset.isSome ∧ FloatParam py params

/-- The parameters of an entry suit its predicate on these facts. -/
def Suits (py : Python) (facts : Facts) (name : String) (params : JsonObject) : Prop :=
  if name = "risk_level_at_least" then RiskParam params
  else if name = "currency_is" then SuitsCurrency facts params
  else if name = "argument_equals" then FieldParam params ∧ HasParam params "value"
  else if name = "argument_in_allowed_values" then SuitsValues facts params
  else if name = "booking_duration_minutes_gt" then SuitsBooking py facts params
  else if name = "tool_is" ∨ name = "side_effect_type_is" then HasParam params "value"
  else SuitsAmount py facts params

/-- A computation of a predicate ends without an error. -/
def Returns {α : Type} (result : Except Raised α) : Prop := ∃ a, result = .ok a

theorem returns_ok {α : Type} (a : α) : Returns (Except.ok a : Except Raised α) := ⟨a, rfl⟩

theorem not_returns_error {α : Type} (e : Raised) :
    ¬ Returns (Except.error e : Except Raised α) := by
  rintro ⟨a, h⟩
  cases h

theorem returns_bind {α β : Type} {result : Except Raised α} {f : α → Except Raised β} :
    Returns (result >>= f) ↔ ∃ a, result = .ok a ∧ Returns (f a) := by
  constructor
  · rintro ⟨b, hb⟩
    cases result with
    | error e => cases hb
    | ok a => exact ⟨a, rfl, b, hb⟩
  · rintro ⟨a, rfl, b, hb⟩
    exact ⟨b, hb⟩

theorem param_ok {key : String} {value : Json} :
    param params key = .ok value ↔ params.lookup key = some value := by
  unfold param
  cases params.lookup key with
  | none => simp
  | some found => simp

theorem returns_toolIs : Returns (toolIs py facts params) ↔ HasParam params "value" := by
  unfold toolIs HasParam
  rw [returns_bind, Option.isSome_iff_exists]
  simp only [param_ok, returns_ok, and_true]

theorem returns_sideEffectTypeIs :
    Returns (sideEffectTypeIs py facts params) ↔ HasParam params "value" := by
  unfold sideEffectTypeIs HasParam
  rw [returns_bind, Option.isSome_iff_exists]
  simp only [param_ok, returns_ok, and_true]

theorem returns_riskLevelAtLeast :
    Returns (riskLevelAtLeast py facts params) ↔ RiskParam params := by
  unfold riskLevelAtLeast RiskParam
  rw [returns_bind]
  simp only [param_ok]
  constructor
  · rintro ⟨threshold, hthreshold, hreturns⟩
    cases threshold with
    | string level =>
      refine ⟨level, hthreshold, ?_⟩
      cases horder : riskOrder.lookup level with
      | none =>
        simp only [horder] at hreturns
        exact absurd hreturns (not_returns_error _)
      | some order => rfl
    | null | bool | int | float | list | object => exact absurd hreturns (not_returns_error _)
  · rintro ⟨level, hlevel, hknown⟩
    obtain ⟨order, horder⟩ := Option.isSome_iff_exists.mp hknown
    refine ⟨_, hlevel, ?_⟩
    simp only [horder]
    exact returns_ok _

theorem returns_amountMinor (compare : Binary64 → Binary64 → Bool) :
    Returns (amountMinor compare py facts params) ↔ SuitsAmount py facts params := by
  unfold amountMinor SuitsAmount FloatParam
  rw [returns_bind]
  constructor
  · rintro ⟨argument, hargument, hreturns⟩
    cases argument with
    | none => exact .inl hargument
    | some amount =>
      obtain ⟨bound, hbound, hrest⟩ := returns_bind.mp hreturns
      obtain ⟨limit, hlimit, -⟩ := returns_bind.mp hrest
      exact .inr ⟨⟨amount, hargument⟩, bound, limit, param_ok.mp hbound, hlimit⟩
  · rintro (hnone | ⟨⟨amount, hamount⟩, bound, limit, hbound, hlimit⟩)
    · exact ⟨none, hnone, returns_ok _⟩
    · refine ⟨some amount, hamount, ?_⟩
      exact returns_bind.mpr ⟨bound, param_ok.mpr hbound,
        returns_bind.mpr ⟨limit, hlimit, returns_ok _⟩⟩

theorem returns_currencyIs :
    Returns (currencyIs py facts params) ↔ SuitsCurrency facts params := by
  unfold currencyIs SuitsCurrency HasParam
  split
  · rename_i currency hcurrency
    rw [returns_bind]
    simp only [param_ok, returns_ok, and_true, hcurrency, ← Option.isSome_iff_exists]
    constructor
    · exact fun hvalue _ _ => hvalue
    · exact fun hvalue => hvalue currency rfl
  · rename_i hother
    constructor
    · intro _ currency hcurrency
      exact absurd hcurrency (hother currency)
    · exact fun _ => returns_ok _

theorem get_isSome (fields : JsonObject) {field : Json} :
    (∃ value, Json.get fields field = some value) ↔ field.hashable = true := by
  cases field <;> simp [Json.get, Json.hashable]

theorem fieldArgument_ok {argument : Json} :
    fieldArgument facts params = .ok argument ↔
      ∃ field, params.lookup "field" = some field ∧
        Json.get facts.arguments field = some argument := by
  unfold fieldArgument
  rw [bind_eq_ok]
  refine exists_congr fun field => ?_
  rw [param_ok]
  refine and_congr_right fun _ => ?_
  cases Json.get facts.arguments field with
  | none => simp
  | some value => simp

theorem returns_argumentEquals :
    Returns (argumentEquals py facts params) ↔ FieldParam params ∧ HasParam params "value" := by
  unfold argumentEquals FieldParam HasParam
  rw [returns_bind]
  simp only [fieldArgument_ok, returns_bind, param_ok, returns_ok, and_true,
    ← get_isSome facts.arguments, Option.isSome_iff_exists]
  constructor
  · rintro ⟨argument, ⟨field, hfield, hget⟩, hvalue⟩
    exact ⟨⟨field, hfield, argument, hget⟩, hvalue⟩
  · rintro ⟨⟨field, hfield, argument, hget⟩, hvalue⟩
    exact ⟨argument, ⟨field, hfield, hget⟩, hvalue⟩

theorem member_isSome {argument values : Json} :
    (∃ found, argument.member values = some found) ↔
      match values with
      | .list _ => True
      | .string _ => ∃ part, argument = .string part
      | .object _ => argument.hashable = true
      | _ => False := by
  cases values <;> cases argument <;> simp [Json.member, Json.hashable]

theorem returns_argumentInAllowedValues :
    Returns (argumentInAllowedValues py facts params) ↔ SuitsValues facts params := by
  unfold argumentInAllowedValues SuitsValues
  simp only [returns_bind, fieldArgument_ok, param_ok, ← member_isSome]
  constructor
  · rintro ⟨argument, ⟨field, hfield, hget⟩, values, hvalues, hreturns⟩
    refine ⟨field, argument, values, hfield, hget, hvalues, ?_⟩
    cases hmember : argument.member values with
    | none =>
      rw [hmember] at hreturns
      exact absurd hreturns (not_returns_error _)
    | some found => exact ⟨found, rfl⟩
  · rintro ⟨field, argument, values, hfield, hget, hvalues, found, hmember⟩
    refine ⟨argument, ⟨field, hfield, hget⟩, values, hvalues, ?_⟩
    rw [hmember]
    exact returns_ok _

theorem returns_durationMinutes {start finish : Moment} :
    Returns (durationMinutes start finish) ↔
      start.utcOffset.isSome = finish.utcOffset.isSome := by
  unfold durationMinutes
  cases start.utcOffset <;> cases finish.utcOffset <;> simp [returns_ok, not_returns_error]

theorem returns_bookingDurationMinutesGt :
    Returns (bookingDurationMinutesGt py facts params) ↔ SuitsBooking py facts params := by
  unfold bookingDurationMinutesGt SuitsBooking FloatParam
  split
  · rename_i start finish hstart hfinish
    split
    · rename_i moment moment' hmoment hmoment'
      rw [returns_bind]
      constructor
      · rintro ⟨duration, hduration, hreturns⟩
        obtain ⟨bound, hbound, hrest⟩ := returns_bind.mp hreturns
        obtain ⟨limit, hlimit, -⟩ := returns_bind.mp hrest
        intro _ _ from_ to_ hstart' hfinish' hfrom hto
        rw [hstart] at hstart'
        rw [hfinish] at hfinish'
        cases hstart'
        cases hfinish'
        rw [hmoment] at hfrom
        rw [hmoment'] at hto
        cases hfrom
        cases hto
        exact ⟨returns_durationMinutes.mp ⟨duration, hduration⟩, bound, limit,
          param_ok.mp hbound, hlimit⟩
      · intro hsuits
        obtain ⟨hoffsets, bound, limit, hbound, hlimit⟩ :=
          hsuits start finish moment moment' hstart hfinish hmoment hmoment'
        obtain ⟨duration, hduration⟩ := returns_durationMinutes.mpr hoffsets
        exact ⟨duration, hduration, returns_bind.mpr ⟨bound, param_ok.mpr hbound,
          returns_bind.mpr ⟨limit, hlimit, returns_ok _⟩⟩⟩
    · rename_i hnot
      constructor
      · intro _ _ _ from_ to_ hstart' hfinish' hfrom hto
        rw [hstart] at hstart'
        rw [hfinish] at hfinish'
        cases hstart'
        cases hfinish'
        exact absurd hto (hnot from_ to_ hfrom)
      · exact fun _ => returns_ok _
  · rename_i hnot
    constructor
    · intro _ start finish _ _ hstart hfinish
      exact absurd hfinish (hnot start finish hstart)
    · exact fun _ => returns_ok _

/-- A registered predicate returns exactly on the parameters that suit it. -/
theorem returns_iff_suits {name : String} {predicate : Predicate}
    (h : registry.lookup name = some predicate) :
    Returns (predicate py facts params) ↔ Suits py facts name params := by
  obtain ⟨before, after, hregistry, -⟩ := List.lookup_eq_some_iff.mp h
  have hmem : (name, predicate) ∈ registry := by
    rw [hregistry]
    exact List.mem_append_right _ List.mem_cons_self
  simp only [registry, List.mem_cons, Prod.mk.injEq, List.not_mem_nil, or_false] at hmem
  rcases hmem with ⟨rfl, rfl⟩ | ⟨rfl, rfl⟩ | ⟨rfl, rfl⟩ | ⟨rfl, rfl⟩ | ⟨rfl, rfl⟩ | ⟨rfl, rfl⟩ |
    ⟨rfl, rfl⟩ | ⟨rfl, rfl⟩ | ⟨rfl, rfl⟩ | ⟨rfl, rfl⟩ | ⟨rfl, rfl⟩
  · simpa [Suits] using returns_toolIs
  · simpa [Suits] using returns_riskLevelAtLeast
  · simpa [Suits] using returns_sideEffectTypeIs
  · simpa [Suits, amountMinorGt] using returns_amountMinor _
  · simpa [Suits, amountMinorGte] using returns_amountMinor _
  · simpa [Suits, amountMinorLt] using returns_amountMinor _
  · simpa [Suits, amountMinorLte] using returns_amountMinor _
  · simpa [Suits] using returns_currencyIs
  · simpa [Suits] using returns_argumentEquals
  · simpa [Suits] using returns_argumentInAllowedValues
  · simpa [Suits] using returns_bookingDurationMinutesGt

/-! ## Codes -/

section Codes

variable {cfg : PolicySettings} {action : PolicyAction} {s : Store} {v : Nat}

/-- The matching rule that names the decision: a strictest one, and the first of those. -/
structure Deciding (cfg : PolicySettings) (action : PolicyAction) (s : Store) (v : Nat)
    (rule : PolicyRule) : Prop where
  matching : Matching cfg action s v rule
  strictest : ∀ other, Matching cfg action s v other →
    other.effect.strictness ≤ rule.effect.strictness
  first : ∀ other, Matching cfg action s v other → other.effect = rule.effect →
    rule.priority ≤ other.priority

theorem strictness_injective {a b : PolicyEffect} (h : a.strictness = b.strictness) : a = b := by
  cases a <;> cases b <;> first | rfl | cases h

theorem Deciding.unique (haccepted : Accepted cfg s.rules) {rule other : PolicyRule}
    (h : Deciding cfg action s v rule) (h' : Deciding cfg action s v other) : rule = other := by
  have heffect : rule.effect = other.effect := strictness_injective
    (le_antisymm (h'.strictest rule h.matching) (h.strictest other h'.matching))
  have hsame : rule.priority = other.priority :=
    le_antisymm (h.first other h'.matching heffect.symm) (h'.first rule h.matching heffect)
  obtain ⟨⟨i, hi⟩, -⟩ := h.matching
  obtain ⟨⟨j, hj⟩, -⟩ := h'.matching
  obtain rfl := haccepted.priority_inj hi hj hsame
  exact Option.some.inj (hi.1.symm.trans hj.1)

@[simp] theorem finalizeDecision_decisionCode (decision : PolicyEffect) (code reason : String)
    (ids : List Nat) (version : Option Nat) (winning : List PolicyRule) (risk : RiskOutcome) :
    (finalizeDecision cfg decision code reason ids version winning risk).decisionCode = code := by
  unfold finalizeDecision
  split <;> rfl

/-- The code names the deciding rule, or the default where no rule matches. -/
theorem judge_decisionCode (h : NoneFails cfg action s v) :
    ∃ d, judge cfg action s v = .ok d ∧
      ((∃ rule, Deciding cfg action s v rule ∧ d.decisionCode = "rule_matched:" ++ rule.name) ∨
        (∀ rule, ¬ Matching cfg action s v rule) ∧
          d.decisionCode = "no_matching_rule_fallback:" ++
            (evaluateSystemDefault cfg action.toolKey action.risk
              action.arguments).decisionCode) := by
  obtain ⟨matched, hjudge, hmatched, hmatching⟩ := judge_ok h
  refine ⟨_, hjudge, ?_⟩
  by_cases hempty : matched = []
  · subst hempty
    refine .inr ⟨fun rule hrule => ?_, ?_⟩
    · obtain ⟨id, hmem⟩ := (hmatching rule).mp hrule
      cases hmem
    · rw [matchedDecision_nil, finalizeDecision_decisionCode]
  · left
    rw [matchedDecision_of_ne_nil hempty, finalizeDecision_decisionCode]
    have heffect : winningEffect matched = decisionOf (Matching cfg action s v) .allow :=
      winningEffect_eq hempty hmatching
    have hwinning : ∀ r, r ∈ matched.filter (·.2.effect = winningEffect matched) ↔
        r ∈ matched ∧ r.2.effect = winningEffect matched := by
      intro r
      rw [List.mem_filter, decide_eq_true_eq]
    have hordered := (matchedRules_ordered hmatched).sublist
      (List.filter_sublist (p := (·.2.effect = winningEffect matched)))
    generalize matched.filter (·.2.effect = winningEffect matched) = winning at hwinning hordered
    cases winning with
    | nil =>
      have hany : ∃ rule, Matching cfg action s v rule := by
        obtain ⟨r, hr⟩ := List.exists_mem_of_ne_nil matched hempty
        exact ⟨r.2, (hmatching r.2).mpr ⟨r.1, hr⟩⟩
      obtain ⟨rule, hrule, hsame⟩ := exists_effect_decisionOf .allow hany
      obtain ⟨id, hmem⟩ := (hmatching rule).mp hrule
      have hnil := (hwinning (id, rule)).mpr ⟨hmem, hsame.trans heffect.symm⟩
      cases hnil
    | cons r rest =>
      obtain ⟨hmem, hsame⟩ := (hwinning r).mp List.mem_cons_self
      refine ⟨r.2, ⟨(hmatching r.2).mpr ⟨r.1, hmem⟩, ?_, ?_⟩, rfl⟩
      · intro other hother
        rw [hsame, heffect]
        exact strictness_le_decisionOf hother
      · intro other hother hequal
        obtain ⟨id, hother⟩ := (hmatching other).mp hother
        rcases List.mem_cons.mp ((hwinning (id, other)).mpr ⟨hother, hequal.trans hsame⟩) with
          heq | hrest
        · rw [← heq]
        · exact (List.pairwise_cons.mp hordered).1 (id, other) hrest

/-- The defaults whose codes leave room for the prefix of the fallback. -/
def ShortDefault (default : DefaultDecision) : Prop :=
  default.decision ≠ .requireApproval ∧
    default.decisionCode ≠ "system_default_refund_below_auto_threshold"

theorem shortDefault_iff (toolKey : String) (risk : RiskOutcome) (arguments : Arguments) :
    ("no_matching_rule_fallback:" ++
        (evaluateSystemDefault cfg toolKey risk arguments).decisionCode).length ≤ 64 ↔
      ShortDefault (evaluateSystemDefault cfg toolKey risk arguments) := by
  have hstart : ∀ code : String,
      ("no_matching_rule_fallback:" ++ code).length ≤ 64 ↔ code.length ≤ 38 := by
    intro code
    rw [String.length_append, show "no_matching_rule_fallback:".length = 26 from rfl]
    omega
  rw [hstart]
  unfold evaluateSystemDefault refundDefault refundDefault.unconfigured ShortDefault
  split_ifs <;> (try split) <;> (try split_ifs) <;> decide +kernel

end Codes

/-! ## Main results -/

section Main

variable {ttl : Nat} {refundAutoAllowMaxMinor refundApprovalMaxMinor : Rat}
  {action : PolicyAction} {s : Store} {v : Nat}

/-- An entry with a registered predicate raises nothing exactly where its parameters suit it. -/
theorem not_raises_iff {cfg : PolicySettings}
    (hcfg : cfg = registeredSettings py ttl refundAutoAllowMaxMinor refundApprovalMaxMinor)
    {entry : ConditionEntry} {context : PredicateContext}
    (hknown : ∃ predicate, cfg.predicate entry.predicate = some predicate) :
    ¬ Raises cfg context entry ↔
      Suits py (factsOf py context) entry.predicate (py.fields entry.params) := by
  subst hcfg
  obtain ⟨wrapped, hwrapped⟩ := hknown
  obtain ⟨predicate, hpredicate, rfl⟩ := Option.map_eq_some_iff.mp hwrapped
  rw [← evaluatePredicate_isOk, ← returns_iff_suits hpredicate]
  unfold evaluatePredicate
  rw [hwrapped]
  show (∃ holds, normalized py entry.predicate _ = .ok holds) ↔ _
  cases hresult : predicate py (factsOf py context) (py.fields entry.params) with
  | ok holds => exact ⟨fun _ => returns_ok holds, fun _ => ⟨holds, rfl⟩⟩
  | error e =>
    constructor
    · rintro ⟨holds, hok⟩
      cases e <;> cases hok
    · exact fun hreturns => absurd hreturns (not_returns_error e)

/-- The evaluation returns a decision whose code fits its column. -/
def Persistable (result : Except String PolicyDecision) : Prop :=
  ∃ d, result = .ok d ∧ d.decisionCode.length ≤ 64

/-- What the rules and the defaults of a version must be like for an action. -/
structure WellConfigured (py : Python) (cfg : PolicySettings) (action : PolicyAction) (s : Store)
    (v : Nat) : Prop where
  suited : ∀ id rule, s.Enabled v id rule → Concerns action.context rule →
    ∀ entry, Reached cfg action.context rule.conditionConfig entry →
      Suits py (factsOf py action.context) entry.predicate (py.fields entry.params)
  named : ∀ rule, Deciding cfg action s v rule → rule.name.length ≤ 51
  defaulted : (∀ rule, ¬ Matching cfg action s v rule) →
    ShortDefault (evaluateSystemDefault cfg action.toolKey action.risk action.arguments)

theorem length_rule_matched (name : String) :
    ("rule_matched:" ++ name).length ≤ 64 ↔ name.length ≤ 51 := by
  rw [String.length_append, show "rule_matched:".length = 13 from rfl]
  omega

/-- The rules that were accepted decide an action, with a code that can be stored, exactly when
the version is well configured for it. -/
theorem decision_persistable_iff (py : Python) (ttl : Nat)
    (refundAutoAllowMaxMinor refundApprovalMaxMinor : Rat) (action : PolicyAction) (s : Store)
    (v : Nat)
    (haccepted : Accepted
      (registeredSettings py ttl refundAutoAllowMaxMinor refundApprovalMaxMinor) s.rules) :
    Persistable (judge
        (registeredSettings py ttl refundAutoAllowMaxMinor refundApprovalMaxMinor) action s v) ↔
      WellConfigured py
        (registeredSettings py ttl refundAutoAllowMaxMinor refundApprovalMaxMinor) action s v := by
  generalize hcfg : registeredSettings py ttl refundAutoAllowMaxMinor refundApprovalMaxMinor = cfg
    at haccepted
  have hsuits : NoneFails cfg action s v ↔ ∀ id rule, s.Enabled v id rule →
      Concerns action.context rule →
      ∀ entry, Reached cfg action.context rule.conditionConfig entry →
        Suits py (factsOf py action.context) entry.predicate (py.fields entry.params) := by
    have hentry : ∀ id rule, s.Enabled v id rule →
        ∀ entry, Reached cfg action.context rule.conditionConfig entry →
          (¬ Raises cfg action.context entry ↔
            Suits py (factsOf py action.context) entry.predicate (py.fields entry.params)) := by
      rintro id rule henabled entry ⟨before, after, hsplit, -⟩
      refine not_raises_iff hcfg.symm ?_
      refine haccepted.known rule (List.mem_of_getElem? henabled.1) entry ?_
      rw [hsplit]
      exact List.mem_append_right _ List.mem_cons_self
    constructor
    · intro hnone id rule henabled hconcerns entry hreached
      refine (hentry id rule henabled entry hreached).mp fun hraises => ?_
      exact hnone id rule henabled ⟨hconcerns, entry, hreached, hraises⟩
    · rintro hall id rule henabled ⟨hconcerns, entry, hreached, hraises⟩
      have hsuited := hall id rule henabled hconcerns entry hreached
      exact (hentry id rule henabled entry hreached).mpr hsuited hraises
  constructor
  · rintro ⟨d, hd, hlength⟩
    have hnone : NoneFails cfg action s v := by
      by_contra hfails
      obtain ⟨message, hmessage⟩ := judge_fails hfails
      rw [hd] at hmessage
      cases hmessage
    obtain ⟨d', hd', hcode⟩ := judge_decisionCode hnone
    obtain rfl : d = d' := Except.ok.inj (hd.symm.trans hd')
    refine ⟨hsuits.mp hnone, fun rule hrule => ?_, fun hnomatch => ?_⟩
    · rcases hcode with ⟨rule', hdeciding, hcode⟩ | ⟨hnomatch, -⟩
      · obtain rfl := hrule.unique haccepted hdeciding
        rw [hcode] at hlength
        exact (length_rule_matched _).mp hlength
      · exact absurd hrule.matching (hnomatch rule)
    · rcases hcode with ⟨rule, hdeciding, -⟩ | ⟨-, hcode⟩
      · exact absurd hdeciding.matching (hnomatch rule)
      · rw [hcode] at hlength
        exact (shortDefault_iff _ _ _).mp hlength
  · intro hwell
    obtain ⟨d, hd, hcode⟩ := judge_decisionCode (hsuits.mpr hwell.suited)
    refine ⟨d, hd, ?_⟩
    rcases hcode with ⟨rule, hdeciding, hcode⟩ | ⟨hnomatch, hcode⟩
    · rw [hcode]
      exact (length_rule_matched _).mpr (hwell.named rule hdeciding)
    · rw [hcode]
      exact (shortDefault_iff _ _ _).mpr (hwell.defaulted hnomatch)

end Main

/-! ## Examples -/

/-- The arguments of a refund in euros, as JSON text. -/
def refundText : String :=
  "\x7b\"amount_minor\": 6000, \"currency\": \"EUR\", \"payment_reference\": \"p1\", " ++
    "\"reason\": \"requested_by_customer\"\x7d"

/-- The parameters of the examples' entries, as JSON text. -/
def refundTool : String := "\x7b\"value\": \"payment.refund\"\x7d"
def ticketTool : String := "\x7b\"value\": \"ticket.create\"\x7d"
def limit5000 : String := "\x7b\"value\": 5000\x7d"

/-- Python on the documents of the examples. -/
def samplePython : Python where
  upper text := text
  str _ := ""
  repr
    | .string text => "'" ++ text ++ "'"
    | _ => ""
  floatOfText _ := none
  fromisoformat _ := none
  loads text :=
    if text = "\x7b\x7d" then some (.object [])
    else if text = refundTool then some (.object [("value", .string "payment.refund")])
    else if text = ticketTool then some (.object [("value", .string "ticket.create")])
    else if text = limit5000 then some (.object [("value", .int 5000)])
    else if text = refundText then
      some (.object [("amount_minor", .int 6000), ("currency", .string "EUR"),
        ("payment_reference", .string "p1"), ("reason", .string "requested_by_customer")])
    else none

def sampleSettings : PolicySettings := registeredSettings samplePython 3600 5000 50000

def refund : PolicyAction :=
  ⟨1, "payment.refund", ⟨.critical, .critical, .financial⟩,
    { amountMinor := some 6000, currency := some "EUR", canonical := refundText }⟩

/-- A version with one rule. -/
def oneRule (rule : PolicyRule) : Store := { Store.empty with rules := [rule] }

theorem accepted_oneRule {rule : PolicyRule} (hclean : rule.clean = true)
    (hknown : ∀ entry ∈ rule.conditionConfig,
      (sampleSettings.predicate entry.predicate).isSome = true) :
    Accepted sampleSettings (oneRule rule).rules := by
  have hinsert : Store.empty.insertPolicyRule sampleSettings rule = some (oneRule rule) := by
    unfold Store.insertPolicyRule
    rw [if_neg, if_neg (by simp [hclean]), if_neg (by simp [Store.empty])]
    · rfl
    · simp only [List.any_eq_true, not_exists, not_and]
      intro entry hentry hnone
      have hsome := hknown entry hentry
      rw [Option.isNone_iff_eq_none.mp hnone] at hsome
      cases hsome
  exact .insert .nil hinsert

theorem judge_oneRule {rule : PolicyRule} (hversion : rule.policyVersion = 0)
    (henabled : rule.enabled = true) (action : PolicyAction) :
    judge sampleSettings action (oneRule rule) 0 =
      (matchedRules sampleSettings action.context [(0, rule)]).map
        (matchedDecision sampleSettings action 0) := by
  have hrules : (oneRule rule).enabledRules 0 = [(0, rule)] := by
    simp [Store.enabledRules, Store.rulesOf, oneRule, Store.empty, hversion, henabled]
  rw [judge_eq, hrules]

/-- A rule that denies every action. -/
def denyAll : PolicyRule := { policyVersion := 0, name := "Deny", priority := 1, effect := .deny }

/-- A rule that denies large refunds. -/
def largeRefunds : PolicyRule :=
  { denyAll with conditionConfig := [⟨"tool_is", refundTool⟩, ⟨"amount_minor_gt", limit5000⟩] }

theorem applies_largeRefunds : Applies sampleSettings refund.context largeRefunds :=
  ruleApplies_true.mp (by decide +kernel)

theorem decision_persistable_deny :
    Persistable (judge sampleSettings refund (oneRule largeRefunds) 0) ∧
      WellConfigured samplePython sampleSettings refund (oneRule largeRefunds) 0 := by
  have hknown : ∀ entry ∈ largeRefunds.conditionConfig,
      (sampleSettings.predicate entry.predicate).isSome = true := by decide
  have hpersistable : Persistable (judge sampleSettings refund (oneRule largeRefunds) 0) := by
    rw [judge_oneRule rfl rfl]
    simp only [matchedRules, ruleApplies_true.mpr applies_largeRefunds]
    exact ⟨_, rfl, by decide +kernel⟩
  exact ⟨hpersistable, (decision_persistable_iff samplePython 3600 5000 50000 refund
    (oneRule largeRefunds) 0 (accepted_oneRule (by decide) hknown)).mp hpersistable⟩

/-- A rule without the parameter of its predicate. -/
def incompleteRule : PolicyRule :=
  { denyAll with conditionConfig := [⟨"tool_is", "\x7b\x7d"⟩] }

/-- A rule with a name of 60 characters. -/
def longRule : PolicyRule :=
  { denyAll with name := "Refunds by the assistant are denied outside of working hours" }

/-- A rule for another tool. -/
def otherRule : PolicyRule := { denyAll with toolKey := "ticket.create" }

/-- An accepted rule makes the evaluation raise, or gives a code that is too long, or leaves the
action to a default whose code is too long. -/
theorem decisions_not_always_persistable :
    (Accepted sampleSettings (oneRule incompleteRule).rules ∧
      ¬ Persistable (judge sampleSettings refund (oneRule incompleteRule) 0)) ∧
    (Accepted sampleSettings (oneRule longRule).rules ∧
      ¬ Persistable (judge sampleSettings refund (oneRule longRule) 0)) ∧
    (Accepted sampleSettings (oneRule otherRule).rules ∧
      ¬ Persistable (judge sampleSettings refund (oneRule otherRule) 0)) := by
  refine ⟨⟨accepted_oneRule (by decide) ?_, ?_⟩, ⟨accepted_oneRule (by decide) nofun, ?_⟩,
    accepted_oneRule (by decide) nofun, ?_⟩
  · intro entry hentry
    rw [List.mem_singleton.mp hentry]
    decide
  · rw [judge_oneRule rfl rfl]
    rintro ⟨d, hd, -⟩
    cases hd
  · rw [judge_oneRule rfl rfl]
    rintro ⟨d, hd, hlength⟩
    obtain rfl := Except.ok.inj hd
    revert hlength
    decide +kernel
  · rw [judge_oneRule rfl rfl]
    rintro ⟨d, hd, hlength⟩
    obtain rfl := Except.ok.inj hd
    revert hlength
    decide +kernel

end SupportPilot.Policies
