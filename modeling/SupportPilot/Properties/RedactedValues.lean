import SupportPilot.Common.Redaction

/-!
# What redaction hides and what it keeps

A path is visible when it goes through no secret key: one that holds a marker in lower case, or
that is an extra key, as it stands or in lower case. `redact` keeps the head of every value at a
visible path, so shape, keys, lengths and scalars, and puts the placeholder under every secret key.
What it returns is then a function of what is visible.
-/

namespace SupportPilot.Common

open Library Nested

variable {κ σ : Type}

/-- The keys under which nothing may be shown. -/
def SecretKey (lower : String → String) (extraKeys : List String) : Atom κ → Prop
  | .text key =>
    (∃ marker ∈ Tools.sensitiveKeyMarkers, marker.toList <:+: (lower key).toList) ∨
      key ∈ extraKeys ∨ lower key ∈ extraKeys
  | .other _ => False

/-- The path goes through no secret key. -/
def Visible (lower : String → String) (extraKeys : List String)
    (path : List (Nested.Step (Atom κ))) : Prop :=
  ∀ key, Nested.Step.field key ∈ path → ¬ SecretKey lower extraKeys key

/-- The two values differ only beneath secret keys. -/
def SameVisible [DecidableEq κ] (lower : String → String) (extraKeys : List String)
    (value other : Value κ σ) : Prop :=
  ∀ path, Visible lower extraKeys path →
    (value.find path).map head = (other.find path).map head

section Keys

variable {lower : String → String} {extraKeys : List String}

/-- With extra keys in lower case the code's test finds the secret keys. -/
theorem isHidden_iff (hlower : ∀ key ∈ extraKeys, lower key = key) (key : Atom κ) :
    isHidden lower extraKeys key = true ↔ SecretKey lower extraKeys key := by
  cases key with
  | other x => simp [isHidden, isSensitiveKey, isExtraKey, SecretKey]
  | text key =>
    have hextra : key ∈ extraKeys → lower key ∈ extraKeys := by
      intro hkey
      rw [hlower key hkey]
      exact hkey
    simp only [isHidden, isSensitiveKey, Tools.isSensitiveKey, isExtraKey, SecretKey,
      Bool.or_eq_true, List.any_eq_true, decide_eq_true_eq, List.contains_iff_mem]
    exact or_congr_right ⟨Or.inr, fun h => h.elim hextra id⟩

theorem visible_nil : Visible lower extraKeys ([] : List (Nested.Step (Atom κ))) :=
  fun _ hkey => nomatch hkey

theorem visible_cons {step : Nested.Step (Atom κ)} {path : List (Nested.Step (Atom κ))} :
    Visible lower extraKeys (step :: path) ↔
      Visible lower extraKeys [step] ∧ Visible lower extraKeys path := by
  simp only [Visible, List.mem_cons, List.not_mem_nil, or_false, or_imp, forall_and]

end Keys

section Redacted

variable [DecidableEq κ] {lower : String → String} {extraKeys : List String}

/-- What a visible step leads to is redacted, and the placeholder stands at any other. -/
theorem redactChild_cases (hlower : ∀ key ∈ extraKeys, lower key = key)
    (step : Nested.Step (Atom κ)) :
    (Visible lower extraKeys [step] ∧
        ∀ below : Value κ σ,
          redactChild lower extraKeys step below = redact lower extraKeys below) ∨
      (∃ key, step = .field key ∧ SecretKey lower extraKeys key ∧
        ∀ below : Value κ σ, redactChild lower extraKeys step below = redactedValue) := by
  cases step with
  | item i =>
    refine .inl ⟨?_, fun _ => rfl⟩
    intro key hkey
    simp at hkey
  | field key =>
    by_cases hkey : SecretKey lower extraKeys key
    · refine .inr ⟨key, rfl, hkey, fun below => ?_⟩
      exact if_pos ((isHidden_iff hlower key).mpr hkey)
    · refine .inl ⟨?_, fun below => ?_⟩
      · intro other hother
        simp only [List.mem_singleton, Nested.Step.field.injEq] at hother
        rwa [hother]
      · exact if_neg fun h => hkey ((isHidden_iff hlower key).mp h)

theorem redactChild_visible (hlower : ∀ key ∈ extraKeys, lower key = key)
    {step : Nested.Step (Atom κ)} (h : Visible lower extraKeys [step]) (below : Value κ σ) :
    redactChild lower extraKeys step below = redact lower extraKeys below := by
  rcases redactChild_cases (σ := σ) hlower step with ⟨-, hredact⟩ | ⟨key, rfl, hkey, -⟩
  · exact hredact below
  · exact absurd hkey (h key List.mem_cons_self)

theorem redactChild_secret (hlower : ∀ key ∈ extraKeys, lower key = key) {key : Atom κ}
    (h : SecretKey lower extraKeys key) (below : Value κ σ) :
    redactChild lower extraKeys (.field key) below = redactedValue :=
  if_pos ((isHidden_iff hlower key).mpr h)

/-- Nothing lies below the placeholder. -/
theorem find_redactedValue {step : Nested.Step (Atom κ)} (path : List (Nested.Step (Atom κ))) :
    (redactedValue : Value κ σ).find (step :: path) = none := by
  cases step <;> rfl

/-- At a visible path stands what stood there, redacted. -/
theorem find_redact (hlower : ∀ key ∈ extraKeys, lower key = key) {value : Value κ σ}
    (hvalue : value.DistinctKeys) {path : List (Nested.Step (Atom κ))}
    (hpath : Visible lower extraKeys path) :
    (redact lower extraKeys value).find path = (value.find path).map (redact lower extraKeys) := by
  induction path generalizing value with
  | nil => rfl
  | cons step path ih =>
    rw [visible_cons] at hpath
    rw [find, find, child_redact hvalue]
    cases hbelow : value.child step with
    | none => rfl
    | some below =>
      simp only [Option.map_some, Option.bind_some]
      rw [redactChild_visible hlower hpath.1, ih (hvalue.child step hbelow) hpath.2]

theorem head_find_redact (hlower : ∀ key ∈ extraKeys, lower key = key) {value : Value κ σ}
    (hvalue : value.DistinctKeys) {path : List (Nested.Step (Atom κ))}
    (hpath : Visible lower extraKeys path) :
    ((redact lower extraKeys value).find path).map head = (value.find path).map head := by
  rw [find_redact hlower hvalue hpath]
  cases hfound : value.find path with
  | none => rfl
  | some below =>
    rw [Option.map_some, Option.map_some, Option.map_some, head_redact (hvalue.find hfound)]

/-- Under a secret key stands nothing but the placeholder, wherever the key stands. -/
theorem find_secret (hlower : ∀ key ∈ extraKeys, lower key = key) {value new : Value κ σ}
    (hvalue : value.DistinctKeys) {path : List (Nested.Step (Atom κ))} {key : Atom κ}
    (hkey : SecretKey lower extraKeys key)
    (hnew : (redact lower extraKeys value).find (path ++ [.field key]) = some new) :
    new = redactedValue := by
  induction path generalizing value with
  | nil =>
    rw [List.nil_append, find, child_redact hvalue] at hnew
    cases hbelow : value.child (.field key) with
    | none => simp [hbelow] at hnew
    | some below =>
      rw [hbelow, Option.map_some, redactChild_secret hlower hkey] at hnew
      exact (Option.some.inj hnew).symm
  | cons step path ih =>
    rw [List.cons_append, find, child_redact hvalue] at hnew
    cases hbelow : value.child step with
    | none => simp [hbelow] at hnew
    | some below =>
      rw [hbelow, Option.map_some, Option.bind_some] at hnew
      rcases redactChild_cases (σ := σ) hlower step with ⟨-, hredact⟩ | ⟨other, -, -, hredact⟩
      · rw [hredact] at hnew
        exact ih (hvalue.child step hbelow) hnew
      · rw [hredact] at hnew
        cases path with
        | nil => rw [List.nil_append, find_redactedValue] at hnew; cases hnew
        | cons next path => rw [List.cons_append, find_redactedValue] at hnew; cases hnew

/-- No dictionary of the result repeats a key. -/
theorem distinctKeys_redact (hlower : ∀ key ∈ extraKeys, lower key = key) {value : Value κ σ}
    (hvalue : value.DistinctKeys) : (redact lower extraKeys value).DistinctKeys := by
  intro path keys hkeys
  induction path generalizing value with
  | nil =>
    rw [find, Option.map_some, head_redact hvalue] at hkeys
    exact hvalue [] keys hkeys
  | cons step path ih =>
    rw [find, child_redact hvalue] at hkeys
    cases hbelow : value.child step with
    | none => simp [hbelow] at hkeys
    | some below =>
      rw [hbelow, Option.map_some, Option.bind_some] at hkeys
      rcases redactChild_cases (σ := σ) hlower step with ⟨-, hredact⟩ | ⟨other, -, -, hredact⟩
      · rw [hredact] at hkeys
        exact ih (hvalue.child step hbelow) hkeys
      · rw [hredact] at hkeys
        cases path with
        | nil => cases hkeys
        | cons next path => rw [find_redactedValue] at hkeys; cases hkeys

/-- Values that differ only beneath secret keys have the same redaction. -/
theorem redact_eq_of_sameVisible (hlower : ∀ key ∈ extraKeys, lower key = key)
    {value other : Value κ σ} (hvalue : value.DistinctKeys) (hother : other.DistinctKeys)
    (h : SameVisible lower extraKeys value other) :
    redact lower extraKeys value = redact lower extraKeys other := by
  induction value using child_induction generalizing other with
  | h value ih =>
    have hhead : value.head = other.head := Option.some.inj (h [] visible_nil)
    apply ext_child (distinctKeys_redact hlower hvalue)
    · rw [head_redact hvalue, head_redact hother, hhead]
    · intro step
      rw [child_redact hvalue, child_redact hother]
      have hsome : (value.child step).isSome = (other.child step).isSome := by
        rw [child_isSome, child_isSome, hhead]
      cases hbelow : value.child step with
      | none =>
        rw [hbelow, Option.isSome_none, eq_comm, Option.isSome_eq_false_iff,
          Option.isNone_iff_eq_none] at hsome
        rw [hsome]
      | some below =>
        rw [hbelow, Option.isSome_some, eq_comm, Option.isSome_iff_exists] at hsome
        obtain ⟨below', hbelow'⟩ := hsome
        rw [hbelow', Option.map_some, Option.map_some]
        rcases redactChild_cases (σ := σ) hlower step with ⟨hstep, hredact⟩ | ⟨key, -, -, hredact⟩
        · rw [hredact, hredact]
          congr 1
          apply ih step below hbelow (hvalue.child step hbelow) (hother.child step hbelow')
          intro path hpath
          have hlong := h (step :: path) (visible_cons.mpr ⟨hstep, hpath⟩)
          rwa [find, find, hbelow, hbelow'] at hlong
        · rw [hredact, hredact]

/-- `redact` keeps the shape, the keys, the lengths and the scalars at every visible path, and puts
the placeholder under every secret key at any depth; its results are equal exactly when the values
differ only beneath secret keys; and a second redaction changes nothing. -/
theorem redact_hides (lower : String → String) {extraKeys : List String}
    (hlower : ∀ key ∈ extraKeys, lower key = key) {value : Value κ σ}
    (hvalue : value.DistinctKeys) :
    SameVisible lower extraKeys (redact lower extraKeys value) value ∧
    (∀ path key, Visible lower extraKeys path → SecretKey lower extraKeys key →
      (value.find (path ++ [.field key])).isSome →
      (redact lower extraKeys value).find (path ++ [.field key]) = some redactedValue) ∧
    (∀ path key new, SecretKey lower extraKeys key →
      (redact lower extraKeys value).find (path ++ [.field key]) = some new →
      new = redactedValue) ∧
    (∀ other, other.DistinctKeys →
      (redact lower extraKeys value = redact lower extraKeys other ↔
        SameVisible lower extraKeys value other)) ∧
    redact lower extraKeys (redact lower extraKeys value) = redact lower extraKeys value := by
  have hkept : SameVisible lower extraKeys (redact lower extraKeys value) value :=
    fun path hpath => head_find_redact hlower hvalue hpath
  refine ⟨hkept, ?_, fun path key new hkey hnew => find_secret hlower hvalue hkey hnew, ?_,
    redact_eq_of_sameVisible hlower (distinctKeys_redact hlower hvalue) hvalue hkept⟩
  · intro path key hpath hkey hsome
    rw [find_append] at hsome ⊢
    rw [find_redact hlower hvalue hpath]
    cases hfound : value.find path with
    | none => simp [hfound] at hsome
    | some below =>
      rw [hfound, Option.bind_some, find] at hsome
      obtain ⟨old, hold⟩ : ∃ old, below.child (.field key) = some old := by
        cases hchild : below.child (.field key) with
        | none => simp [hchild] at hsome
        | some old => exact ⟨old, rfl⟩
      rw [Option.map_some, Option.bind_some, find, child_redact (hvalue.find hfound), hold,
        Option.map_some, redactChild_secret hlower hkey]
      rfl
  · intro other hother
    refine ⟨fun heq path hpath => ?_, redact_eq_of_sameVisible hlower hvalue hother⟩
    rw [← head_find_redact hlower hvalue hpath, heq, head_find_redact hlower hother hpath]

end Redacted

/-- A card beneath a key that is no string, in a tuple. -/
def sampleCard (digits : String) : Value Nat Nat :=
  .dict
    [(.text "email", .scalar (.text "a@example.com")),
      (.other 42, .tuple [.dict [(.text "Card_Last_Four", .scalar (.text digits))]])]

def lowerAscii (s : String) : String := String.ofList (s.toList.map Char.toLower)

theorem sampleCard_distinctKeys (digits : String) : (sampleCard digits).DistinctKeys := by
  simp [sampleCard]

theorem redact_hides_sample :
    (redact lowerAscii ["card_last_four"] (sampleCard "4242")).find
        [.field (.other 42), .item 0, .field (.text "Card_Last_Four")] = some redactedValue ∧
      SameVisible lowerAscii ["card_last_four"] (sampleCard "4242") (sampleCard "1881") ∧
      redact lowerAscii ["card_last_four"]
          (redact lowerAscii ["card_last_four"] (sampleCard "4242")) =
        redact lowerAscii ["card_last_four"] (sampleCard "4242") := by
  have hlower : ∀ key ∈ ["card_last_four"], lowerAscii key = key := by decide
  have hsample := redact_hides lowerAscii hlower (sampleCard_distinctKeys "4242")
  have hvisible : Visible lowerAscii ["card_last_four"]
      [Nested.Step.field (.other 42 : Atom Nat), Nested.Step.item 0] := by
    intro key hkey
    simp only [List.mem_cons, Nested.Step.field.injEq, reduceCtorEq, List.not_mem_nil, or_self,
      or_false] at hkey
    rw [hkey]
    exact id
  have hsecret : SecretKey lowerAscii ["card_last_four"] (.text "Card_Last_Four" : Atom Nat) :=
    .inr (.inr (by decide))
  refine ⟨hsample.2.1 _ _ hvisible hsecret rfl, ?_, hsample.2.2.2.2⟩
  apply (hsample.2.2.2.1 _ (sampleCard_distinctKeys "1881")).mp
  rfl

end SupportPilot.Common
