import Mathlib.Data.List.Nodup
import SupportPilot.Library.JsonRoundTrip

/-!
# Canonical texts of JSON values

Two values have one canonical text exactly when they are the same up to the order of the fields at
every depth. In one direction the sorted fields are the same list, in the other the text is read.
-/

namespace SupportPilot.Library

mutual

/-- The same value up to the order of the fields of its objects. -/
inductive SameValue : JsonValue → JsonValue → Prop
  | refl (value : JsonValue) : SameValue value value
  | list {items others : List JsonValue} (h : SameItems items others) :
      SameValue (.list items) (.list others)
  | object {fields others : JsonFields} (h : SameFields fields others) :
      SameValue (.object fields) (.object others)

inductive SameItems : List JsonValue → List JsonValue → Prop
  | nil : SameItems [] []
  | cons {item other : JsonValue} {items others : List JsonValue} (h : SameValue item other)
      (hrest : SameItems items others) : SameItems (item :: items) (other :: others)

/-- Each field stands somewhere among the others, under its name. -/
inductive SameFields : JsonFields → JsonFields → Prop
  | nil : SameFields [] []
  | cons {name : CodePoints} {value other : JsonValue} {fields before after : JsonFields}
      (h : SameValue value other) (hrest : SameFields fields (before ++ after)) :
      SameFields ((name, value) :: fields) (before ++ (name, other) :: after)

end

theorem SameValue.of_eq {value other : JsonValue} (h : value = other) : SameValue value other :=
  h ▸ .refl value

/-! ## Sorting -/

theorem sortedFields_pairwise {α : Type} (fields : List (CodePoints × α)) :
    (sortedFields fields).Pairwise fun a b => a.1 ≤ b.1 := by
  have hsorted : (sortedFields fields).Pairwise fun a b => decide (a.1 ≤ b.1) = true := by
    apply List.pairwise_mergeSort
    · intro a b c hab hbc
      exact decide_eq_true (le_trans (of_decide_eq_true hab) (of_decide_eq_true hbc))
    · intro a b
      simpa using le_total a.1 b.1
  exact hsorted.imp of_decide_eq_true

/-- The order of fields with names that differ does not matter to the sorted ones. -/
theorem sortedFields_perm {α : Type} {fields others : List (CodePoints × α)}
    (h : fields.Perm others) (hnames : (fields.map Prod.fst).Nodup) :
    sortedFields fields = sortedFields others := by
  have hsorted := List.mergeSort_perm fields fun a b => decide (a.1 ≤ b.1)
  have hothers := List.mergeSort_perm others fun a b => decide (a.1 ≤ b.1)
  refine ((hsorted.trans h).trans hothers.symm).eq_of_pairwise ?_ (sortedFields_pairwise fields)
    (sortedFields_pairwise others)
  intro a b ha hb hab hba
  have hb := h.mem_iff.mpr (mem_sortedFields.mp hb)
  exact List.inj_on_of_nodup_map hnames (mem_sortedFields.mp ha) hb (le_antisymm hab hba)

mutual

/-- The same values have the same text. -/
theorem SameValue.dumps_eq {value other : JsonValue} (h : SameValue value other)
    (hproper : Proper value) : dumps value = dumps other := by
  cases h with
  | refl => rfl
  | list hitems => rw [dumps, dumps, hitems.dumps_eq hproper]
  | object hfields =>
    have hnames := hproper.1
    rw [dumps, dumps, sortedFields_perm (hfields.dumps_perm hproper.2)]
    rwa [dumpsFields_eq, List.map_map]

theorem SameItems.dumps_eq {items others : List JsonValue} (h : SameItems items others)
    (hproper : ProperItems items) : dumpsItems items = dumpsItems others := by
  cases h with
  | nil => rfl
  | cons hitem hrest =>
    rw [dumpsItems, dumpsItems, hitem.dumps_eq hproper.1, hrest.dumps_eq hproper.2]

theorem SameFields.dumps_perm {fields others : JsonFields} (h : SameFields fields others)
    (hproper : ProperFields fields) : (dumpsFields fields).Perm (dumpsFields others) := by
  cases h with
  | nil => exact .refl _
  | cons hvalue hrest =>
    have hperm := hrest.dumps_perm hproper.2
    rw [dumpsFields, hvalue.dumps_eq hproper.1.2]
    rw [dumpsFields_eq, dumpsFields_eq] at hperm ⊢
    simp only [List.map_append, List.map_cons] at hperm ⊢
    exact (hperm.cons _).trans List.perm_middle.symm

end

mutual

/-- Values with the same sorted fields are the same. -/
theorem sameValue_of_sorted {value other : JsonValue} (h : sorted value = sorted other) :
    SameValue value other := by
  cases value with
  | list items =>
    cases other with
    | list others =>
      rw [sorted, sorted] at h
      exact .list (sameItems_of_sorted (JsonValue.list.inj h))
    | _ => cases h
  | object fields =>
    cases other with
    | object others =>
      rw [sorted, sorted] at h
      have hfields := JsonValue.object.inj h
      refine .object (sameFields_of_sorted ?_)
      exact (List.mergeSort_perm _ _).symm.trans
        ((List.Perm.of_eq hfields).trans (List.mergeSort_perm _ _))
    | _ => cases h
  | null | bool | int | float | negativeZero | string | other =>
    cases other with
    | list | object => cases h
    | _ => exact .of_eq h

theorem sameItems_of_sorted {items others : List JsonValue}
    (h : sortedItems items = sortedItems others) : SameItems items others := by
  cases items with
  | nil =>
    cases others with
    | nil => exact .nil
    | cons => cases h
  | cons item items =>
    cases others with
    | nil => cases h
    | cons other others =>
      obtain ⟨hitem, hrest⟩ := List.cons.inj h
      exact .cons (sameValue_of_sorted hitem) (sameItems_of_sorted hrest)

theorem sameFields_of_sorted {fields others : JsonFields}
    (h : (sortedEach fields).Perm (sortedEach others)) : SameFields fields others := by
  cases fields with
  | nil =>
    cases others with
    | nil => exact .nil
    | cons => exact absurd h.length_eq (by simp [sortedEach_eq])
  | cons field fields =>
    obtain ⟨name, value⟩ := field
    have hmem : (name, sorted value) ∈ sortedEach others := h.subset List.mem_cons_self
    rw [sortedEach_eq, List.mem_map] at hmem
    obtain ⟨⟨name', other⟩, hother, heq⟩ := hmem
    obtain ⟨rfl, hvalue⟩ := Prod.mk.inj heq
    obtain ⟨before, after, rfl⟩ := List.append_of_mem hother
    refine .cons (sameValue_of_sorted hvalue.symm) (sameFields_of_sorted ?_)
    rw [sortedEach_eq, sortedEach_eq] at h ⊢
    simp only [List.map_cons, List.map_append, hvalue] at h ⊢
    exact (h.trans List.perm_middle).cons_inv

end

/-! ## The encoder -/

section Encoder

/-- The options of a canonical text, with or without a text for what is no JSON. -/
structure EncoderOptions.IsCanonical (options : EncoderOptions) : Prop where
  itemSeparator : options.itemSeparator = [',']
  keySeparator : options.keySeparator = [':']
  sortKeys : options.sortKeys = true

variable {options : EncoderOptions}

theorem fieldsText_canonical (hoptions : options.IsCanonical)
    (fields : List (CodePoints × List Char)) :
    fieldsText options fields =
      '\x7b' :: [','].intercalate ((sortedFields fields).map fieldText) ++ ['\x7d'] := by
  have htext : (fun field : CodePoints × List Char =>
      stringText field.1 ++ options.keySeparator ++ field.2) = fieldText := by
    funext field
    rw [hoptions.keySeparator, fieldText, List.append_assoc]
    rfl
  rw [fieldsText, hoptions.sortKeys, hoptions.itemSeparator, htext]
  rfl

mutual

/-- The encoder writes the canonical text, unless a limit stops it. -/
theorem encode_eq_dumps (hoptions : options.IsCanonical) {depth : Nat} {value : JsonValue}
    {text : List Char} (h : encode options depth value = .ok text) : text = dumps value := by
  cases value with
  | int n =>
    rw [encode, showInt] at h
    split at h
    case h_1 shown hshown =>
      obtain rfl := Except.ok.inj h
      split at hshown
      case isTrue => exact (Option.some.inj hshown).symm
      case isFalse => cases hshown
    case h_2 => cases h
  | list items =>
    cases depth with
    | zero => cases h
    | succ depth =>
      obtain ⟨texts, hitems, htext⟩ := bind_eq_ok.mp h
      obtain rfl := Except.ok.inj htext
      rw [encodeItems_eq_dumps hoptions hitems, hoptions.itemSeparator, dumps]
  | object fields =>
    cases depth with
    | zero => cases h
    | succ depth =>
      obtain ⟨texts, hfields, htext⟩ := bind_eq_ok.mp h
      obtain rfl := Except.ok.inj htext
      rw [encodeFields_eq_dumps hoptions hfields, fieldsText_canonical hoptions, dumps]
  | other shown =>
    rw [encode] at h
    split at h
    case isTrue => cases h
    case isFalse =>
      split at h
      case isTrue => cases h
      case isFalse => exact (Except.ok.inj h).symm
  | bool b => cases b <;> exact (Except.ok.inj h).symm
  | null | float | negativeZero | string => exact (Except.ok.inj h).symm

theorem encodeItems_eq_dumps (hoptions : options.IsCanonical) {depth : Nat}
    {items : List JsonValue} {texts : List (List Char)}
    (h : encodeItems options depth items = .ok texts) : texts = dumpsItems items := by
  cases items with
  | nil => exact (Except.ok.inj h).symm
  | cons item rest =>
    obtain ⟨text, hitem, hrest⟩ := bind_eq_ok.mp h
    obtain ⟨later, hlater, htexts⟩ := bind_eq_ok.mp hrest
    obtain rfl := Except.ok.inj htexts
    rw [encode_eq_dumps hoptions hitem, encodeItems_eq_dumps hoptions hlater, dumpsItems]

theorem encodeFields_eq_dumps (hoptions : options.IsCanonical) {depth : Nat}
    {fields : JsonFields} {texts : List (CodePoints × List Char)}
    (h : encodeFields options depth fields = .ok texts) : texts = dumpsFields fields := by
  cases fields with
  | nil => exact (Except.ok.inj h).symm
  | cons field rest =>
    obtain ⟨name, value⟩ := field
    obtain ⟨text, hvalue, hrest⟩ := bind_eq_ok.mp h
    obtain ⟨later, hlater, htexts⟩ := bind_eq_ok.mp hrest
    obtain rfl := Except.ok.inj htexts
    rw [encode_eq_dumps hoptions hvalue, encodeFields_eq_dumps hoptions hlater, dumpsFields]

end

/-- Texts that were written are equal exactly when the values are the same. -/
theorem encode_eq_iff (hoptions : options.IsCanonical) {depth depth' : Nat}
    {value other : JsonValue} {text text' : List Char} (hproper : Proper value)
    (hother : Proper other) (h : encode options depth value = .ok text)
    (h' : encode options depth' other = .ok text') : text = text' ↔ SameValue value other := by
  obtain rfl := encode_eq_dumps hoptions h
  obtain rfl := encode_eq_dumps hoptions h'
  constructor
  · intro heq
    obtain ⟨hdepth, hwritable⟩ := (encode_ok_iff options depth value).mp ⟨_, h⟩
    obtain ⟨hdepth', hwritable'⟩ := (encode_ok_iff options depth' other).mp ⟨_, h'⟩
    have hread := loads_dumps options hproper (hdepth.trans (Nat.le_max_left depth depth'))
      hwritable
    rw [heq, loads_dumps options hother (hdepth'.trans (Nat.le_max_right depth depth'))
      hwritable'] at hread
    exact sameValue_of_sorted (Except.ok.inj hread).symm
  · exact fun hsame => hsame.dumps_eq hproper

end Encoder

end SupportPilot.Library
