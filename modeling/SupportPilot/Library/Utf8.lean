import SupportPilot.Library.JsonText

/-!
# UTF-8

Strict encoding and decoding: a lone surrogate has no encoding, and neither overlong forms nor
surrogates are decoded.
-/

namespace SupportPilot.Library

abbrev Bytes := List UInt8

def encodeCodePoint (c : CodePoint) : Option Bytes :=
  if h : c.val.isValidChar then some (String.utf8EncodeChar (.ofNatAux c.val h)) else none

/-- `text.encode("utf-8")`; `none` where it raises `UnicodeEncodeError`. -/
def encodeUtf8 : CodePoints → Option Bytes
  | [] => some []
  | c :: rest =>
    match encodeCodePoint c, encodeUtf8 rest with
    | some bytes, some later => some (bytes ++ later)
    | _, _ => none

/-- The value of a continuation byte. -/
def continuation (b : UInt8) : Option Nat :=
  if 0x80 ≤ b ∧ b < 0xC0 then some (b.toNat - 0x80) else none

/-- The first character of some bytes, and the bytes behind it. -/
def decodeChar : Bytes → Option (Char × Bytes)
  | [] => none
  | a :: l =>
    if a < 0x80 then some (.ofNat a.toNat, l)
    else if 0xC2 ≤ a ∧ a < 0xE0 then
      match l with
      | b :: l => do
        let y ← continuation b
        some (.ofNat ((a.toNat - 0xC0) * 64 + y), l)
      | [] => none
    else if 0xE0 ≤ a ∧ a < 0xF0 then
      match l with
      | b :: c :: l => do
        let y ← continuation b
        let z ← continuation c
        let n := ((a.toNat - 0xE0) * 64 + y) * 64 + z
        if 0x800 ≤ n ∧ n.isValidChar then some (.ofNat n, l) else none
      | _ => none
    else if 0xF0 ≤ a ∧ a < 0xF5 then
      match l with
      | b :: c :: d :: l => do
        let x ← continuation b
        let y ← continuation c
        let z ← continuation d
        let n := (((a.toNat - 0xF0) * 64 + x) * 64 + y) * 64 + z
        if 0x10000 ≤ n ∧ n.isValidChar then some (.ofNat n, l) else none
      | _ => none
    else none

def decodeLoop : Nat → Bytes → Option (List Char)
  | _, [] => some []
  | 0, _ :: _ => none
  | fuel + 1, bytes =>
    match decodeChar bytes with
    | none => none
    | some (c, later) => (decodeLoop fuel later).map (c :: ·)

/-- `raw.decode("utf-8")`; `none` where it raises `UnicodeDecodeError`. Every turn of the loop
uses up some byte. -/
def decodeUtf8 (raw : Bytes) : Option (List Char) := decodeLoop raw.length raw

/-- The bytes of an ASCII text. -/
def asciiBytes (text : List Char) : Bytes := text.map fun c => .ofNat c.toNat

/-- A text of characters has an encoding. -/
theorem encodeUtf8_chars (text : List Char) :
    ∃ bytes, encodeUtf8 (text.map codePoint) = some bytes := by
  induction text with
  | nil => exact ⟨[], rfl⟩
  | cons c text ih =>
    obtain ⟨later, hlater⟩ := ih
    have hvalid : (codePoint c).val.isValidChar := c.valid
    rw [List.map_cons, encodeUtf8, encodeCodePoint, dif_pos hvalid, hlater]
    exact ⟨_, rfl⟩

theorem asciiBytes_append (text later : List Char) :
    asciiBytes (text ++ later) = asciiBytes text ++ asciiBytes later := List.map_append

theorem byte_injective {c d : Char} (hc : Printable c) (hd : Printable d)
    (h : UInt8.ofNat c.toNat = UInt8.ofNat d.toNat) : c = d := by
  have hvalue := congrArg UInt8.toNat h
  rw [UInt8.toNat_ofNat', UInt8.toNat_ofNat',
    Nat.mod_eq_of_lt (Nat.lt_of_le_of_lt hc.2 (by decide)),
    Nat.mod_eq_of_lt (Nat.lt_of_le_of_lt hd.2 (by decide))] at hvalue
  exact Char.toNat_inj.mp hvalue

/-- A byte that stands for no character of a text is not among its bytes. -/
theorem not_mem_asciiBytes {text : List Char} {c : Char} (htext : Plain text) (hc : Printable c)
    (h : c ∉ text) : UInt8.ofNat c.toNat ∉ asciiBytes text := by
  intro hmem
  obtain ⟨d, hd, hbyte⟩ := List.mem_map.mp hmem
  exact h (byte_injective (htext d hd) hc hbyte ▸ hd)

theorem asciiBytes_injective {text other : List Char} (htext : Plain text) (hother : Plain other)
    (h : asciiBytes text = asciiBytes other) : text = other := by
  induction text generalizing other with
  | nil => exact (List.map_eq_nil_iff.mp h.symm).symm
  | cons c text ih =>
    cases other with
    | nil => cases h
    | cons d other =>
      obtain ⟨hbyte, hrest⟩ := List.cons.inj h
      rw [plain_cons] at htext hother
      rw [byte_injective htext.1 hother.1 hbyte, ih htext.2 hother.2 hrest]

theorem decodeChar_ascii {c : Char} (hc : Printable c) (later : Bytes) :
    decodeChar (.ofNat c.toNat :: later) = some (c, later) := by
  have hvalue : (UInt8.ofNat c.toNat).toNat = c.toNat := by
    rw [UInt8.toNat_ofNat', Nat.mod_eq_of_lt (Nat.lt_of_le_of_lt hc.2 (by decide))]
  have hlow : UInt8.ofNat c.toNat < 0x80 := by
    rw [UInt8.lt_iff_toNat_lt, hvalue]
    exact Nat.lt_of_le_of_lt hc.2 (by decide)
  unfold decodeChar
  simp only [if_pos hlow, hvalue, Char.ofNat_toNat]

/-- Printable ASCII is read back. -/
theorem decodeUtf8_asciiBytes {text : List Char} (h : Plain text) :
    decodeUtf8 (asciiBytes text) = some text := by
  have hloop : ∀ fuel, text.length ≤ fuel → decodeLoop fuel (asciiBytes text) = some text := by
    intro fuel hfuel
    induction text generalizing fuel with
    | nil => cases fuel <;> rfl
    | cons c text ih =>
      rw [plain_cons] at h
      cases fuel with
      | zero => cases hfuel
      | succ fuel =>
        have hrest := ih h.2 fuel (Nat.le_of_succ_le_succ hfuel)
        rw [asciiBytes] at hrest
        simp only [asciiBytes, List.map_cons, decodeLoop, decodeChar_ascii h.1, hrest,
          Option.map_some]
  exact hloop _ (by rw [asciiBytes, List.length_map])

end SupportPilot.Library
