import SupportPilot.Knowledge.Normalization
import SupportPilot.Library.Lines
import SupportPilot.Library.Table

/-!
# Normalized documents

A text that has passed every operation of the normalization is a fixed point of each of them: no
later operation undoes an earlier one. The sections of a normalized document tile its text.
-/

namespace SupportPilot.Knowledge

open Library

/-! ## Newlines -/

theorem replaceCrLf_of_not_mem {text : List Char} (h : '\r' ∉ text) : replaceCrLf text = text := by
  fun_induction replaceCrLf text with
  | case1 rest ih => exact absurd List.mem_cons_self h
  | case2 c rest hpair ih => rw [ih fun hmem => h (List.mem_cons_of_mem _ hmem)]
  | case3 => rfl

/-- No carriage return is left. -/
theorem cr_not_mem_unifyNewlines (text : List Char) : '\r' ∉ unifyNewlines text := by
  intro h
  obtain ⟨c, -, hc⟩ := List.mem_map.mp h
  split at hc
  · exact absurd hc (by decide)
  · rename_i hne
    exact hne hc

theorem unifyNewlines_of_not_mem {text : List Char} (h : '\r' ∉ text) :
    unifyNewlines text = text := by
  rw [unifyNewlines, replaceCrLf_of_not_mem h]
  refine (List.map_congr_left fun c hc => ?_).trans (List.map_id text)
  exact if_neg fun (heq : c = '\r') => h (heq ▸ hc)

theorem mem_replaceCrLf {c : Char} {text : List Char} (h : c ∈ replaceCrLf text) : c ∈ text := by
  fun_induction replaceCrLf text with
  | case1 rest ih =>
    rcases List.mem_cons.mp h with rfl | hrest
    · simp
    · exact List.mem_cons_of_mem _ (List.mem_cons_of_mem _ (ih hrest))
  | case2 d rest hpair ih =>
    rcases List.mem_cons.mp h with rfl | hrest
    · exact List.mem_cons_self
    · exact List.mem_cons_of_mem _ (ih hrest)
  | case3 => exact h

theorem nul_not_mem_unifyNewlines {text : List Char} (h : '\x00' ∉ text) :
    '\x00' ∉ unifyNewlines text := by
  intro hmem
  obtain ⟨c, hc, heq⟩ := List.mem_map.mp hmem
  split at heq
  · exact absurd heq (by decide)
  · exact h (heq ▸ mem_replaceCrLf hc)

theorem rstripLines_eq (text : List Char) : rstripLines text = trimLines isSpace '\n' text :=
  join_rdropWhile isSpace '\n' text

/-! ## Collapsed newlines -/

theorem collapseNewlines_sublist (kept : Nat) (text : List Char) :
    (collapseNewlines kept text).Sublist text := by
  fun_induction collapseNewlines kept text with
  | case1 => exact List.Sublist.refl _
  | case2 kept rest hkept ih => exact ih.cons_cons _
  | case3 kept rest hkept ih => exact ih.cons _
  | case4 kept c rest hc ih => exact ih.cons_cons _

theorem collapseNewlines_collapseNewlines (kept : Nat) (text : List Char) :
    collapseNewlines kept (collapseNewlines kept text) = collapseNewlines kept text := by
  fun_induction collapseNewlines kept text with
  | case1 => rfl
  | case2 kept rest hkept ih => rw [collapseNewlines, if_pos rfl, if_pos hkept, ih]
  | case3 kept rest hkept ih => exact ih
  | case4 kept c rest hc ih => rw [collapseNewlines, if_neg hc, ih]

/-- The fewer newlines have been kept, the fewer are removed. -/
theorem collapseNewlines_mono {kept fewer : Nat} {text : List Char} (hle : fewer ≤ kept)
    (h : collapseNewlines kept text = text) : collapseNewlines fewer text = text := by
  induction text generalizing kept fewer with
  | nil => rfl
  | cons c rest ih =>
    rw [collapseNewlines] at h ⊢
    split at h
    · rename_i hc
      rw [if_pos hc]
      split at h
      · rw [if_pos (by omega), ih (by omega) (List.cons.inj h).2]
      · have hlength := (collapseNewlines_sublist kept rest).length_le
        rw [h, List.length_cons] at hlength
        omega
    · rename_i hc
      rw [if_neg hc]
      exact h

theorem collapseNewlines_tail {kept : Nat} {c : Char} {rest : List Char}
    (h : collapseNewlines kept (c :: rest) = c :: rest) : collapseNewlines 0 rest = rest := by
  rw [collapseNewlines] at h
  split at h
  · split at h
    · exact collapseNewlines_mono (Nat.zero_le _) (List.cons.inj h).2
    · have hlength := (collapseNewlines_sublist kept rest).length_le
      rw [h, List.length_cons] at hlength
      omega
  · exact (List.cons.inj h).2

theorem collapseNewlines_suffix {text later : List Char} (hsuffix : later <:+ text)
    (h : collapseNewlines 0 text = text) : collapseNewlines 0 later = later := by
  induction text with
  | nil =>
    rw [List.suffix_nil.mp hsuffix]
    rfl
  | cons c rest ih =>
    rcases List.suffix_cons_iff.mp hsuffix with rfl | hrest
    · exact h
    · exact ih hrest (collapseNewlines_tail h)

theorem collapseNewlines_append_left {kept : Nat} {text later : List Char}
    (h : collapseNewlines kept (text ++ later) = text ++ later) :
    collapseNewlines kept text = text := by
  induction text generalizing kept with
  | nil => rfl
  | cons c rest ih =>
    rw [List.cons_append, collapseNewlines] at h
    rw [collapseNewlines]
    split at h
    · rename_i hc
      rw [if_pos hc]
      split at h
      · rename_i hkept
        rw [if_pos hkept, ih (List.cons.inj h).2]
      · have hlength := (collapseNewlines_sublist kept (rest ++ later)).length_le
        rw [h, List.length_cons] at hlength
        omega
    · rename_i hc
      rw [if_neg hc, ih (List.cons.inj h).2]

/-- Collapsed lines do not end earlier than before, nor later. -/
theorem endsLine_collapseNewlines (text : List Char) :
    endsLine '\n' (collapseNewlines 0 text) = endsLine '\n' text := by
  cases text with
  | nil => rfl
  | cons c rest =>
    rw [collapseNewlines]
    split
    · rfl
    · rfl

theorem trimLines_collapseNewlines {text : List Char} (kept : Nat)
    (h : trimLines isSpace '\n' text = text) :
    trimLines isSpace '\n' (collapseNewlines kept text) = collapseNewlines kept text := by
  fun_induction collapseNewlines kept text with
  | case1 => rfl
  | case2 kept rest hkept ih =>
    obtain ⟨hrest, -⟩ := trimLines_cons_eq_self.mp h
    exact trimLines_cons_eq_self.mpr ⟨ih hrest, fun hblank => hblank.2.1 rfl⟩
  | case3 kept rest hkept ih => exact ih (trimLines_cons_eq_self.mp h).1
  | case4 kept c rest hc ih =>
    obtain ⟨hrest, hblank⟩ := trimLines_cons_eq_self.mp h
    refine trimLines_cons_eq_self.mpr ⟨ih hrest, ?_⟩
    rwa [endsLine_collapseNewlines]

/-! ## Normalized texts -/

/-- What is assumed of the composition of characters: composing twice is composing once, no NUL
comes out of it that was not there, and it can be done before or after every line operation. -/
structure Composes (nfc : List Char → List Char) : Prop where
  idempotent : ∀ text, nfc (nfc text) = nfc text
  noNul : ∀ text, '\x00' ∉ text → '\x00' ∉ nfc text
  unify : ∀ text, nfc (unifyNewlines text) = unifyNewlines (nfc text)
  rstrip : ∀ text, nfc (rstripLines text) = rstripLines (nfc text)
  collapse : ∀ text, nfc (collapseNewlines 0 text) = collapseNewlines 0 (nfc text)
  strip : ∀ text, nfc (stripText text) = stripText (nfc text)

/-- No operation of the normalization has anything left to do. -/
structure Normalized (nfc : List Char → List Char) (text : List Char) : Prop where
  noNul : '\x00' ∉ text
  composed : nfc text = text
  noCr : '\r' ∉ text
  trimmed : trimLines isSpace '\n' text = text
  collapsed : collapseNewlines 0 text = text
  stripped : stripText text = text

variable {nfc : List Char → List Char}

theorem Normalized.normalizeText {text : List Char} (h : Normalized nfc text) :
    normalizeText nfc text = text := by
  have hfilter : text.filter (· ≠ '\x00') = text := by
    rw [List.filter_eq_self]
    intro c hc
    rw [decide_eq_true_eq]
    exact fun heq => h.noNul (heq ▸ hc)
  rw [Knowledge.normalizeText, hfilter, h.composed, unifyNewlines_of_not_mem h.noCr,
    rstripLines_eq, h.trimmed, h.collapsed, h.stripped]

theorem stripText_sublist (text : List Char) : (stripText text).Sublist text :=
  (List.rdropWhile_prefix _ _).sublist.trans (List.dropWhile_sublist _)

theorem stripText_stripText (text : List Char) : stripText (stripText text) = stripText text := by
  simp only [stripText]
  rw [dropWhile_rdropWhile, List.rdropWhile_idempotent]

theorem trimLines_stripText {text : List Char} (h : trimLines isSpace '\n' text = text) :
    trimLines isSpace '\n' (stripText text) = stripText text := by
  have hsuffix : trimLines isSpace '\n' (text.dropWhile isSpace) = text.dropWhile isSpace :=
    trimLines_suffix (List.dropWhile_suffix isSpace) h
  rw [← List.rdropWhile_append_rtakeWhile (p := isSpace) (l := text.dropWhile isSpace)] at hsuffix
  exact trimLines_append_left (fun hne => List.rdropWhile_last_not isSpace _ hne) hsuffix

theorem collapseNewlines_stripText {text : List Char} (h : collapseNewlines 0 text = text) :
    collapseNewlines 0 (stripText text) = stripText text := by
  have hsuffix : collapseNewlines 0 (text.dropWhile isSpace) = text.dropWhile isSpace :=
    collapseNewlines_suffix (List.dropWhile_suffix isSpace) h
  rw [← List.rdropWhile_append_rtakeWhile (p := isSpace) (l := text.dropWhile isSpace)] at hsuffix
  exact collapseNewlines_append_left hsuffix

/-- The operations of the normalization do not undo one another. -/
theorem normalized_normalizeText (hnfc : Composes nfc) (text : List Char) :
    Normalized nfc (normalizeText nfc text) := by
  have hlines : ∀ later : List Char, (stripText (collapseNewlines 0 (rstripLines later))).Sublist
      later := by
    intro later
    rw [rstripLines_eq]
    exact ((stripText_sublist _).trans (collapseNewlines_sublist _ _)).trans
      (trimLines_sublist _ _ _)
  have hnul : '\x00' ∉ text.filter (· ≠ '\x00') := by simp
  constructor
  · exact fun h => nul_not_mem_unifyNewlines (hnfc.noNul _ hnul) ((hlines _).subset h)
  · rw [normalizeText]
    simp only [hnfc.strip, hnfc.collapse, hnfc.rstrip, hnfc.unify, hnfc.idempotent]
  · exact fun h => cr_not_mem_unifyNewlines _ ((hlines _).subset h)
  · simp only [normalizeText, rstripLines_eq]
    exact trimLines_stripText (trimLines_collapseNewlines _ (trimLines_trimLines _ _ _))
  · exact collapseNewlines_stripText (collapseNewlines_collapseNewlines _ _)
  · exact stripText_stripText _

theorem normalizeText_normalizeText (hnfc : Composes nfc) (text : List Char) :
    normalizeText nfc (normalizeText nfc text) = normalizeText nfc text :=
  (normalized_normalizeText hnfc text).normalizeText

/-! ## Normalized documents -/

/-- What is kept of a section besides its offsets. -/
abbrev Content := List Char × Option Nat × Option (List Char)

def contentOf (sec : ExtractedSection) : Content := (sec.text, sec.pageNumber, sec.title)

/-- The normalized contents of the sections that are not empty, in their order. -/
def keptContents (nfc : List Char → List Char) (sections : List ExtractedSection) :
    List Content :=
  (sections.map fun sec => (normalizeText nfc sec.text, sec.pageNumber, sec.title)).filter
    fun content => content.1 ≠ []

/-- Sections tile a text: each of them is its slice of the text, the first one starts where the
text starts, the last one ends where it ends, and two newlines stand between any two of them. -/
structure Tiles (text : List Char) (sections : List ExtractedSection) : Prop where
  nonempty : ∀ sec ∈ sections, sec.text ≠ []
  spans : ∀ sec ∈ sections, sec.endOffset = sec.startOffset + sec.text.length
  sliced : ∀ sec ∈ sections, slice text sec.startOffset sec.endOffset = sec.text
  within : ∀ sec ∈ sections, sec.endOffset ≤ text.length
  separated : ∀ (i : Nat) (earlier later : ExtractedSection), sections[i]? = some earlier →
    sections[i + 1]? = some later → later.startOffset = earlier.endOffset + 2 ∧
      slice text earlier.endOffset later.startOffset = ['\n', '\n']
  first : ∀ sec, sections.head? = some sec → sec.startOffset = 0
  last : ∀ sec, sections.getLast? = some sec → sec.endOffset = text.length
  empty : sections = [] → text = []

theorem Tiles.nil : Tiles [] [] := by
  constructor <;> simp

theorem Tiles.singleton {sec : ExtractedSection} (hne : sec.text ≠ [])
    (hstart : sec.startOffset = 0) (hend : sec.endOffset = sec.text.length) :
    Tiles sec.text [sec] := by
  constructor
  · simpa using hne
  · simp [hstart, hend]
  · simp [hstart, hend, slice_length]
  · simp [hend]
  · intro i earlier later _ hlater
    simp at hlater
  · simpa using hstart
  · simpa using hend
  · simp

/-- A tiling grows by two newlines and one more section. -/
theorem Tiles.append {text : List Char} {sections : List ExtractedSection} (h : Tiles text sections)
    (hsome : sections ≠ []) {sec : ExtractedSection} (hne : sec.text ≠ [])
    (hstart : sec.startOffset = text.length + 2)
    (hend : sec.endOffset = text.length + 2 + sec.text.length) :
    Tiles (text ++ ['\n', '\n'] ++ sec.text) (sections ++ [sec]) := by
  have hlength : (text ++ ['\n', '\n']).length = text.length + 2 := by simp
  constructor
  · intro other hother
    rcases List.mem_append.mp hother with hold | hnew
    · exact h.nonempty other hold
    · rw [List.mem_singleton.mp hnew]
      exact hne
  · intro other hother
    rcases List.mem_append.mp hother with hold | hnew
    · exact h.spans other hold
    · rw [List.mem_singleton.mp hnew, hstart, hend]
  · intro other hother
    rcases List.mem_append.mp hother with hold | hnew
    · rw [List.append_assoc, slice_append_left _ _ (h.within other hold)]
      exact h.sliced other hold
    · rw [List.mem_singleton.mp hnew, hstart, hend, ← hlength]
      exact slice_append_right _ _
  · intro other hother
    rw [List.length_append, hlength]
    rcases List.mem_append.mp hother with hold | hnew
    · have hwithin := h.within other hold
      omega
    · rw [List.mem_singleton.mp hnew, hend]
  · intro i earlier later hearlier hlater
    rcases getElem?_concat_cases hlater with hold | ⟨hi, rfl⟩
    · have hi : i + 1 < sections.length := (List.getElem?_eq_some_iff.mp hold).1
      rw [List.getElem?_append_left (by omega)] at hearlier
      obtain ⟨hgap, hbetween⟩ := h.separated i earlier later hearlier hold
      have hwithin := h.within later (List.mem_of_getElem? hold)
      have hspans := h.spans later (List.mem_of_getElem? hold)
      refine ⟨hgap, ?_⟩
      rw [List.append_assoc, slice_append_left _ _ (by omega)]
      exact hbetween
    · rw [List.getElem?_append_left (by omega)] at hearlier
      have hlast : earlier.endOffset = text.length := by
        refine h.last earlier ?_
        rw [List.getLast?_eq_getElem?, ← hi]
        exact hearlier
      refine ⟨by rw [hstart, hlast], ?_⟩
      rw [hlast, hstart, slice_append_left _ _ (by rw [hlength])]
      exact slice_append_right text ['\n', '\n']
  · intro other hother
    rw [List.head?_append_of_ne_nil _ hsome] at hother
    exact h.first other hother
  · intro other hother
    rw [List.getLast?_concat] at hother
    cases hother
    rw [hend, List.length_append, hlength]
  · intro hnil
    simp at hnil

/-- What the loop over the sections has built: a tiling of the joined parts by the sections, which
hold the contents that are kept, and which the loop would build from themselves again. -/
structure Built (nfc : List Char → List Char) (sections : List ExtractedSection)
    (built : Normalizing) : Prop where
  tiles : Tiles built.parts.flatten built.sections
  kept : built.sections.map contentOf = keptContents nfc sections
  offset : built.offset = built.parts.flatten.length
  started : built.parts = [] ↔ built.sections = []
  again : Composes nfc → built.sections.foldl (normalizeSection nfc) {} = built

theorem keptContents_concat (sections : List ExtractedSection) (sec : ExtractedSection) :
    keptContents nfc (sections ++ [sec]) = keptContents nfc sections ++
      if normalizeText nfc sec.text = [] then [] else
        [(normalizeText nfc sec.text, sec.pageNumber, sec.title)] := by
  rw [keptContents, List.map_append, List.filter_append]
  congr 1
  split
  · rename_i hnil
    simp [hnil]
  · rename_i hne
    simp [hne]

/-- The loop looks at the normalized text, the page and the title of a section only. -/
theorem normalizeSection_congr {sec other : ExtractedSection} (built : Normalizing)
    (htext : normalizeText nfc sec.text = normalizeText nfc other.text)
    (hpage : sec.pageNumber = other.pageNumber) (htitle : sec.title = other.title) :
    normalizeSection nfc built sec = normalizeSection nfc built other := by
  unfold normalizeSection
  rw [htext, hpage, htitle]

/-- The section that a turn of the loop adds. -/
def addedSection (nfc : List Char → List Char) (start : Nat) (sec : ExtractedSection) :
    ExtractedSection where
  text := normalizeText nfc sec.text
  startOffset := start
  endOffset := start + (normalizeText nfc sec.text).length
  pageNumber := sec.pageNumber
  title := sec.title

theorem normalizeSection_first {built : Normalizing} {sec : ExtractedSection}
    (hne : normalizeText nfc sec.text ≠ []) (hparts : built.parts = []) :
    normalizeSection nfc built sec =
      ⟨[normalizeText nfc sec.text], built.sections ++ [addedSection nfc built.offset sec],
        built.offset + (normalizeText nfc sec.text).length⟩ := by
  simp only [normalizeSection, if_neg hne, hparts]
  rfl

theorem normalizeSection_next {built : Normalizing} {sec : ExtractedSection}
    (hne : normalizeText nfc sec.text ≠ []) (hparts : built.parts ≠ []) :
    normalizeSection nfc built sec =
      ⟨built.parts ++ [['\n', '\n']] ++ [normalizeText nfc sec.text],
        built.sections ++ [addedSection nfc (built.offset + 2) sec],
        built.offset + 2 + (normalizeText nfc sec.text).length⟩ := by
  simp only [normalizeSection, if_neg hne, if_neg hparts]
  rfl

/-- Normalizing the section that was added has the same effect as adding it. -/
theorem Built.again_step {sections : List ExtractedSection} {built : Normalizing}
    (h : Built nfc sections built) {sec : ExtractedSection} {start : Nat}
    (hstep : (normalizeSection nfc built sec).sections =
      built.sections ++ [addedSection nfc start sec]) (hnfc : Composes nfc) :
    (normalizeSection nfc built sec).sections.foldl (normalizeSection nfc) {} =
      normalizeSection nfc built sec := by
  rw [hstep, List.foldl_append, h.again hnfc, List.foldl_cons, List.foldl_nil]
  exact normalizeSection_congr built (normalizeText_normalizeText hnfc sec.text) rfl rfl

theorem Built.step {sections : List ExtractedSection} {built : Normalizing}
    (h : Built nfc sections built) (sec : ExtractedSection) :
    Built nfc (sections ++ [sec]) (normalizeSection nfc built sec) := by
  by_cases hnil : normalizeText nfc sec.text = []
  · have hsame : normalizeSection nfc built sec = built := if_pos hnil
    rw [hsame]
    refine ⟨h.tiles, ?_, h.offset, h.started, h.again⟩
    rw [keptContents_concat, if_pos hnil, List.append_nil]
    exact h.kept
  · have hkept : ∀ start, (built.sections ++ [addedSection nfc start sec]).map contentOf =
        keptContents nfc (sections ++ [sec]) := by
      intro start
      rw [keptContents_concat, if_neg hnil, List.map_append, h.kept]
      rfl
    by_cases hparts : built.parts = []
    · have hstep := normalizeSection_first hnil hparts
      have hsections : built.sections = [] := h.started.mp hparts
      have hoffset : built.offset = 0 := by
        rw [h.offset, hparts]
        rfl
      constructor
      · rw [hstep, hsections, List.flatten_singleton, hoffset]
        have hnew : Tiles (addedSection nfc 0 sec).text ([] ++ [addedSection nfc 0 sec]) :=
          Tiles.singleton hnil rfl (Nat.zero_add _)
        exact hnew
      · rw [hstep]
        exact hkept _
      · rw [hstep, List.flatten_singleton, hoffset]
        exact Nat.zero_add _
      · rw [hstep]
        simp
      · exact h.again_step (congrArg Normalizing.sections hstep)
    · have hstep := normalizeSection_next hnil hparts
      have hsections : built.sections ≠ [] := fun hnone => hparts (h.started.mpr hnone)
      constructor
      · rw [hstep, List.flatten_append, List.flatten_append, List.flatten_singleton,
          List.flatten_singleton, h.offset]
        let added := addedSection nfc (built.parts.flatten.length + 2) sec
        have hnew : Tiles (built.parts.flatten ++ ['\n', '\n'] ++ added.text)
            (built.sections ++ [added]) := h.tiles.append hsections hnil rfl rfl
        exact hnew
      · rw [hstep]
        exact hkept _
      · rw [hstep, List.flatten_append, List.flatten_append, List.flatten_singleton,
          List.flatten_singleton, List.length_append, List.length_append, ← h.offset]
        rfl
      · rw [hstep]
        simp
      · exact h.again_step (congrArg Normalizing.sections hstep)

/-- The loop over all sections. -/
theorem built_foldl (nfc : List Char → List Char) (sections : List ExtractedSection) :
    Built nfc sections (sections.foldl (normalizeSection nfc) {}) := by
  induction sections using List.reverseRecOn with
  | nil => exact ⟨Tiles.nil, rfl, rfl, by simp, fun _ => rfl⟩
  | append_singleton sections sec ih =>
    rw [List.foldl_append]
    exact ih.step sec

/-- The sections of a normalized document hold the normalized contents that are not empty, in
order, and tile its text; and a document or a text that has been normalized is not changed by
normalizing it again. -/
theorem normalizeExtractedDocument_tiles (nfc : List Char → List Char)
    (document : ExtractedDocument) :
    (normalizeExtractedDocument nfc document).sections.map contentOf =
        keptContents nfc document.sections ∧
      Tiles (normalizeExtractedDocument nfc document).text
        (normalizeExtractedDocument nfc document).sections ∧
      (Composes nfc →
        (∀ text, normalizeText nfc (normalizeText nfc text) = normalizeText nfc text) ∧
        normalizeExtractedDocument nfc (normalizeExtractedDocument nfc document) =
          normalizeExtractedDocument nfc document) := by
  have hbuilt := built_foldl nfc document.sections
  refine ⟨hbuilt.kept, hbuilt.tiles, ?_⟩
  intro hnfc
  refine ⟨normalizeText_normalizeText hnfc, ?_⟩
  have hagain := hbuilt.again hnfc
  simp only [normalizeExtractedDocument, hagain]

def samplePdf : ExtractedDocument where
  text := []
  sections :=
    [{ text := " a \r\nb".toList, startOffset := 0, endOffset := 6, pageNumber := some 1 },
      { text := " ".toList, startOffset := 8, endOffset := 9, pageNumber := some 2 },
      { text := "c".toList, startOffset := 11, endOffset := 12, pageNumber := some 3 }]

theorem normalizeExtractedDocument_tiles_sample :
    (normalizeExtractedDocument id samplePdf).text = "a\nb\n\nc".toList ∧
      Tiles "a\nb\n\nc".toList (normalizeExtractedDocument id samplePdf).sections ∧
      normalizeExtractedDocument id (normalizeExtractedDocument id samplePdf) =
        normalizeExtractedDocument id samplePdf := by
  have hcomposes : Composes id := by
    constructor <;> intros <;> first | rfl | assumption
  have htext : (normalizeExtractedDocument id samplePdf).text = "a\nb\n\nc".toList := by
    decide
  obtain ⟨-, htiles, hagain⟩ := normalizeExtractedDocument_tiles id samplePdf
  rw [htext] at htiles
  exact ⟨htext, htiles, (hagain hcomposes).2⟩

end SupportPilot.Knowledge
