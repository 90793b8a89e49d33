import SupportPilot.Library.JsonText

/-!
# Lines

A text is its lines, joined with a separator. Readers differ in the characters besides the newline
that end a line for them. Removing what is blank at the end of every line is a recursion over the
characters, too, and that form is the one to reason about.
-/

namespace SupportPilot.Library

theorem rdropWhile_cons {α : Type} (p : α → Bool) (c : α) (rest : List α) :
    (c :: rest).rdropWhile p =
      if p c ∧ rest.rdropWhile p = [] then [] else c :: rest.rdropWhile p := by
  have hconcat : (rest.reverse ++ [c]).dropWhile p =
      if (rest.reverse.dropWhile p).isEmpty then [c].dropWhile p
      else rest.reverse.dropWhile p ++ [c] := List.dropWhile_append
  simp only [List.rdropWhile, List.reverse_cons, hconcat]
  by_cases hrest : rest.reverse.dropWhile p = []
  · by_cases hc : p c = true
    · simp [hrest, hc]
    · simp [hrest, hc]
  · simp [hrest]

/-! ## The lines of joined texts -/

section Joined

variable {α : Type} {p : α → Bool} {sep : α}

/-- The lines of texts that are joined with a separator are the lines of the texts. -/
theorem splitOnP_join (hsep : p sep = true) {texts : List (List α)} (h : texts ≠ []) :
    ([sep].intercalate texts).splitOnP p = texts.flatMap (List.splitOnP p) := by
  induction texts with
  | nil => exact absurd rfl h
  | cons text rest ih =>
    cases rest with
    | nil => simp
    | cons next others =>
      rw [List.intercalate_cons_cons, List.append_assoc, List.singleton_append,
        List.splitOnP_append_cons _ _ hsep, ih (List.cons_ne_nil _ _)]
      rfl

/-- Between texts that are joined with two separators there is an empty line. -/
theorem splitOnP_join_blank (hsep : p sep = true) (text : List α) (rest : List (List α)) :
    ([sep, sep].intercalate (text :: rest)).splitOnP p =
      text.splitOnP p ++ rest.flatMap fun next => [] :: next.splitOnP p := by
  induction rest generalizing text with
  | nil => simp
  | cons next others ih =>
    have hblank : [sep, sep] ++ [sep, sep].intercalate (next :: others) =
        sep :: ([] ++ sep :: [sep, sep].intercalate (next :: others)) := rfl
    rw [List.intercalate_cons_cons, List.append_assoc, hblank,
      List.splitOnP_append_cons _ _ hsep, List.splitOnP_append_cons _ _ hsep, ih,
      List.splitOnP_nil, List.flatMap_cons]
    rfl

/-- What stands before a text becomes part of its first line. -/
theorem splitOnP_append {front : List α} (h : ∀ c ∈ front, p c = false) (text : List α) :
    (front ++ text).splitOnP p = (text.splitOnP p).modifyHead (front ++ ·) := by
  induction front with
  | nil =>
    obtain ⟨first, others, hsplit⟩ := List.exists_cons_of_ne_nil (List.splitOnP_ne_nil p text)
    rw [List.nil_append, hsplit]
    rfl
  | cons c rest ih =>
    have hc : ¬ p c = true := by simp [h c List.mem_cons_self]
    rw [List.cons_append, List.splitOnP_cons_eq_if_modifyHead, if_neg hc,
      ih fun d hd => h d (List.mem_cons_of_mem _ hd)]
    obtain ⟨first, others, hsplit⟩ := List.exists_cons_of_ne_nil (List.splitOnP_ne_nil p text)
    rw [hsplit]
    rfl

theorem splitOnP_congr {q : α → Bool} {text : List α} (h : ∀ c ∈ text, p c = q c) :
    text.splitOnP p = text.splitOnP q := by
  induction text with
  | nil => rfl
  | cons c rest ih =>
    rw [List.splitOnP_cons_eq_if_modifyHead, List.splitOnP_cons_eq_if_modifyHead,
      h c List.mem_cons_self, ih fun d hd => h d (List.mem_cons_of_mem _ hd)]

end Joined

/-! ## Readers -/

/-- The characters at which `splitlines` ends a line. -/
def isLineBreak (c : Char) : Bool :=
  let n := c.toNat
  (0x0A ≤ n && n ≤ 0x0D) || (0x1C ≤ n && n ≤ 0x1E) || n = 0x85 || n = 0x2028 || n = 0x2029

theorem not_isLineBreak {c : Char} (h : Printable c) : isLineBreak c = false := by
  obtain ⟨hlow, hhigh⟩ := h
  simp only [isLineBreak, Bool.or_eq_false_iff, Bool.and_eq_false_iff, decide_eq_false_iff_not]
  omega

/-- What a reader takes for the end of a line: the newline, and otherwise only characters that are
line breaks for `splitlines`. -/
structure Reader where
  breaks : Char → Bool
  newline : breaks '\n' = true
  known : ∀ c, breaks c = true → isLineBreak c = true

namespace Reader

/-- The reader that splits at newlines. -/
def newlines : Reader where
  breaks c := c == '\n'
  newline := rfl
  known c h := by
    rw [beq_iff_eq.mp h]
    decide

/-- The reader that splits like `splitlines`. -/
def splitlines : Reader := ⟨isLineBreak, by decide, fun _ h => h⟩

variable (reader : Reader)

def lines (text : List Char) : List (List Char) := text.splitOnP reader.breaks

variable {reader}

theorem not_breaks {c : Char} (h : isLineBreak c = false) : reader.breaks c = false := by
  rw [Bool.eq_false_iff]
  intro hbreaks
  rw [reader.known c hbreaks] at h
  cases h

theorem lines_of_unbroken {text : List Char} (h : ∀ c ∈ text, isLineBreak c = false) :
    reader.lines text = [text] :=
  List.splitOnP_eq_singleton fun c hc => not_breaks (h c hc)

theorem lines_of_plain {text : List Char} (h : Plain text) : reader.lines text = [text] :=
  lines_of_unbroken fun c hc => not_isLineBreak (h c hc)

/-- Without another line break than newlines all readers see the same lines. -/
theorem lines_eq_splitOn {text : List Char}
    (h : (text.all fun c => c == '\n' || !isLineBreak c) = true) :
    reader.lines text = text.splitOn '\n' := by
  refine splitOnP_congr fun c hc => ?_
  have hc := List.all_eq_true.mp h c hc
  rw [Bool.or_eq_true, beq_iff_eq, Bool.not_eq_true'] at hc
  rcases hc with rfl | hnot
  · rw [reader.newline, beq_self_eq_true]
  · rw [not_breaks hnot, eq_comm, beq_eq_false_iff_ne]
    rintro rfl
    cases hnot

end Reader

/-! ## The ends of lines -/

variable {α : Type} [DecidableEq α] {p : α → Bool} {sep : α}

theorem not_mem_splitOn {text line : List α} (h : line ∈ text.splitOn sep) : sep ∉ line := by
  induction text generalizing line with
  | nil =>
    rw [List.splitOn_nil, List.mem_singleton] at h
    rw [h]
    exact List.not_mem_nil
  | cons c rest ih =>
    rw [List.splitOn_cons_eq_if_modifyHead] at h
    split at h
    · rcases List.mem_cons.mp h with rfl | htail
      · exact List.not_mem_nil
      · exact ih htail
    · rename_i hc
      obtain ⟨first, others, hsplit⟩ := List.exists_cons_of_ne_nil (List.splitOn_ne_nil sep rest)
      rw [hsplit, List.modifyHead_cons] at h
      rw [hsplit] at ih
      rcases List.mem_cons.mp h with rfl | htail
      · intro hmem
        rcases List.mem_cons.mp hmem with rfl | hfirst
        · simp at hc
        · exact ih List.mem_cons_self hfirst
      · exact ih (List.mem_cons_of_mem _ htail)

/-- Nothing of a line is left. -/
def endsLine (sep : α) : List α → Bool
  | [] => true
  | c :: _ => c = sep

/-- What is blank at the end of a line is removed. -/
def trimLines (p : α → Bool) (sep : α) : List α → List α
  | [] => []
  | c :: rest =>
    if p c ∧ c ≠ sep ∧ endsLine sep (trimLines p sep rest) then trimLines p sep rest
    else c :: trimLines p sep rest

theorem endsLine_join {line : List α} (lines : List (List α)) (h : sep ∉ line) :
    endsLine sep ([sep].intercalate (line :: lines)) = true ↔ line = [] := by
  cases line with
  | nil =>
    cases lines with
    | nil => simp [endsLine]
    | cons next others => simp [List.intercalate_cons_cons, endsLine]
  | cons c rest =>
    have hc : c ≠ sep := fun heq => h (heq ▸ List.mem_cons_self)
    cases lines with
    | nil => simp [endsLine, hc]
    | cons next others => simp [List.intercalate_cons_cons, endsLine, hc]

/-- Trimming every line is the recursion over the characters. -/
theorem join_rdropWhile (p : α → Bool) (sep : α) (text : List α) :
    [sep].intercalate ((text.splitOn sep).map (·.rdropWhile p)) = trimLines p sep text := by
  induction text with
  | nil => rfl
  | cons c rest ih =>
    obtain ⟨first, others, hsplit⟩ := List.exists_cons_of_ne_nil (List.splitOn_ne_nil sep rest)
    have hfirst : sep ∉ first.rdropWhile p := by
      intro hmem
      exact not_mem_splitOn (hsplit ▸ List.mem_cons_self : first ∈ rest.splitOn sep)
        ((List.rdropWhile_prefix p first).subset hmem)
    rw [hsplit, List.map_cons] at ih
    rw [List.splitOn_cons_eq_if_modifyHead, trimLines, hsplit]
    by_cases hc : c = sep
    · subst hc
      rw [if_pos (by simp), if_neg (by simp), List.map_cons, List.map_cons, List.rdropWhile_nil,
        List.intercalate_cons_cons, List.nil_append, ih]
      rfl
    · have hends := endsLine_join (others.map (·.rdropWhile p)) hfirst
      rw [ih] at hends
      rw [if_neg (by simp [hc]), List.modifyHead_cons, List.map_cons, rdropWhile_cons]
      by_cases hblank : p c = true ∧ first.rdropWhile p = []
      · rw [if_pos hblank, if_pos ⟨hblank.1, hc, hends.mpr hblank.2⟩, ← ih, hblank.2]
      · rw [if_neg hblank, if_neg fun h => hblank ⟨h.1, hends.mp h.2.2⟩,
          List.intercalate_cons_cons_left, ih]

/-! ## Trimmed texts -/

theorem trimLines_sublist (p : α → Bool) (sep : α) (text : List α) :
    (trimLines p sep text).Sublist text := by
  induction text with
  | nil => exact List.Sublist.refl _
  | cons c rest ih =>
    rw [trimLines]
    split
    · exact ih.cons c
    · exact ih.cons_cons c

/-- A text is trimmed if its rest is and its first character is not blank at the end of a line. -/
theorem trimLines_cons_eq_self {c : α} {rest : List α} :
    trimLines p sep (c :: rest) = c :: rest ↔
      trimLines p sep rest = rest ∧ ¬ (p c ∧ c ≠ sep ∧ endsLine sep rest) := by
  rw [trimLines]
  constructor
  · intro h
    split at h
    · have hle := (trimLines_sublist p sep rest).length_le
      rw [h, List.length_cons] at hle
      omega
    · rename_i hc
      have hrest : trimLines p sep rest = rest := (List.cons.inj h).2
      rw [hrest] at hc
      exact ⟨hrest, hc⟩
  · rintro ⟨hrest, hc⟩
    rw [hrest, if_neg hc]

theorem trimLines_trimLines (p : α → Bool) (sep : α) (text : List α) :
    trimLines p sep (trimLines p sep text) = trimLines p sep text := by
  induction text with
  | nil => rfl
  | cons c rest ih =>
    rw [trimLines]
    split
    · exact ih
    · rename_i hc
      exact trimLines_cons_eq_self.mpr ⟨ih, hc⟩

theorem trimLines_suffix {text later : List α} (hsuffix : later <:+ text)
    (h : trimLines p sep text = text) : trimLines p sep later = later := by
  induction text with
  | nil =>
    rw [List.suffix_nil.mp hsuffix]
    rfl
  | cons c rest ih =>
    rcases List.suffix_cons_iff.mp hsuffix with rfl | hrest
    · exact h
    · exact ih hrest (trimLines_cons_eq_self.mp h).1

/-- A trimmed text that is cut behind a character that is not blank is trimmed. -/
theorem trimLines_append_left {text later : List α}
    (hlast : ∀ hne : text ≠ [], ¬ p (text.getLast hne))
    (h : trimLines p sep (text ++ later) = text ++ later) : trimLines p sep text = text := by
  induction text with
  | nil => rfl
  | cons c rest ih =>
    obtain ⟨hrest, hc⟩ := trimLines_cons_eq_self.mp h
    cases rest with
    | nil => exact trimLines_cons_eq_self.mpr ⟨rfl, fun hblank => hlast (by simp) hblank.1⟩
    | cons d others =>
      refine trimLines_cons_eq_self.mpr ⟨ih (fun hne => ?_) hrest, hc⟩
      have hsame := hlast (List.cons_ne_nil _ _)
      rwa [List.getLast_cons hne] at hsame

end SupportPilot.Library
