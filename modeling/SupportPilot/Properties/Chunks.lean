import Mathlib.Data.List.ReduceOption
import Mathlib.Order.Bounds.Basic
import SupportPilot.Knowledge.Chunking

/-!
# The chunks of a text

Every turn of the loop looks at one window of the text, strips it and keeps the piece that is
left. The cursor never passes the end of that piece, so that no character is left behind between
two turns, except in a window that is blank up to its preferred end.
-/

namespace SupportPilot.Knowledge

open Library

/-! ## Windows -/

section Window

variable (cfg : ChunkSettings) (text : List Char) (cursor : Nat)

/-- The end of the window at a cursor, before a preferred end is looked for. -/
def rawEnd : Nat := min text.length (cursor + cfg.chunkSize)

def windowEnd : Nat := preferredEnd text cursor (rawEnd cfg text cursor)

/-- The piece of a window: its text without the white space around it. -/
def piece : List Char := stripText (slice text cursor (windowEnd cfg text cursor))

def pieceStart : Nat :=
  cursor + ((slice text cursor (windowEnd cfg text cursor)).takeWhile isSpace).length

def pieceStop : Nat := pieceStart cfg text cursor + (piece cfg text cursor).length

/-- The draft of the piece of a window. -/
def draftAt (sections : List ExtractedSection) (ordinal : Nat) : ChunkDraft :=
  let pages := pagesForRange (pieceStart cfg text cursor) (pieceStop cfg text cursor) sections
  ⟨ordinal, piece cfg text cursor, pieceStart cfg text cursor, pieceStop cfg text cursor,
    pages.1, pages.2⟩

end Window

variable {cfg : ChunkSettings} {text : List Char} {sections : List ExtractedSection}
  {cursor next : Nat} {drafts drafts' : List ChunkDraft}

theorem rfind_le {sub : List Char} {start stop found : Nat}
    (h : rfind text sub start stop = some found) : found ≤ stop := by
  have hmem : found ∈ occurrences text sub start stop := List.mem_of_getLast? h
  obtain ⟨-, hfound⟩ := List.mem_filter.mp hmem
  simp only [Bool.and_eq_true, decide_eq_true_eq] at hfound
  omega

theorem preferredEnd_le (start maximum : Nat) : preferredEnd text start maximum ≤ maximum := by
  unfold preferredEnd
  split
  · assumption
  · extract_lets floor candidates
    split
    · rename_i boundary hboundary
      split
      · have hmem : some boundary ∈ candidates :=
          List.reduceOption_mem_iff.mp (List.max?_mem hboundary)
        simp only [candidates, List.mem_cons, List.not_mem_nil, or_false] at hmem
        rcases hmem with h | h | h
        · exact rfind_le h.symm
        · exact rfind_le h.symm
        · exact rfind_le h.symm
      · exact Nat.le_refl _
    · exact Nat.le_refl _

theorem windowEnd_le (cfg : ChunkSettings) (text : List Char) (cursor : Nat) :
    windowEnd cfg text cursor ≤ rawEnd cfg text cursor := preferredEnd_le _ _

theorem lt_windowEnd (cfg : ChunkSettings) (hsize : cfg.chunkSize ≠ 0)
    (hcursor : cursor < text.length) : cursor < windowEnd cfg text cursor := by
  have hraw : cursor < rawEnd cfg text cursor := by
    unfold rawEnd
    omega
  unfold windowEnd preferredEnd
  split
  · exact hcursor
  · extract_lets floor candidates
    split
    · split
      · assumption
      · exact hraw
    · exact hraw

/-- The piece and what is stripped behind it are the window from the start of the piece on. -/
theorem dropWhile_window : (slice text cursor (windowEnd cfg text cursor)).dropWhile isSpace =
    slice text (pieceStart cfg text cursor) (windowEnd cfg text cursor) := by
  rw [dropWhile_eq_drop, drop_slice]
  rfl

theorem prefix_piece (cfg : ChunkSettings) (text : List Char) (cursor : Nat) :
    piece cfg text cursor <+:
    slice text (pieceStart cfg text cursor) (windowEnd cfg text cursor) := by
  rw [← dropWhile_window]
  exact List.rdropWhile_prefix _ _

/-- The text between the two ends of a piece is the piece. -/
theorem slice_piece :
    slice text (pieceStart cfg text cursor) (pieceStop cfg text cursor) = piece cfg text cursor :=
  slice_of_prefix ((prefix_piece cfg text cursor).trans (prefix_slice _ _ _))

theorem le_pieceStart (cfg : ChunkSettings) (text : List Char) (cursor : Nat) :
    cursor ≤ pieceStart cfg text cursor := Nat.le_add_right _ _

theorem pieceStop_le (h : piece cfg text cursor ≠ []) :
    pieceStop cfg text cursor ≤ windowEnd cfg text cursor := by
  have hlength := (prefix_piece cfg text cursor).length_le
  have hpos := List.length_pos_iff.mpr h
  rw [length_slice] at hlength
  unfold pieceStop
  omega

theorem length_piece_le : (piece cfg text cursor).length ≤ cfg.chunkSize := by
  have hlength := (prefix_piece cfg text cursor).length_le
  have hend := windowEnd_le cfg text cursor
  have hstart := le_pieceStart cfg text cursor
  rw [length_slice] at hlength
  unfold rawEnd at hend
  omega

/-- Stripping a piece again changes nothing. -/
theorem stripText_piece : stripText (piece cfg text cursor) = piece cfg text cursor := by
  simp only [piece, stripText]
  rw [dropWhile_rdropWhile, List.rdropWhile_idempotent]

/-- What is no white space in a window lies in its piece. -/
theorem piece_covers {i : Nat} {c : Char} (hcursor : cursor ≤ i)
    (hend : i < windowEnd cfg text cursor) (hc : text[i]? = some c) (hspace : isSpace c = false) :
    pieceStart cfg text cursor ≤ i ∧ i < pieceStop cfg text cursor := by
  rw [← getElem?_slice hcursor hend] at hc
  have hkeeps := strip_keeps hc hspace
  unfold pieceStart pieceStop pieceStart piece stripText
  omega

/-! ## Turns -/

/-- What one turn of the loop does. -/
theorem chunkTurn_eq : chunkTurn cfg text sections cursor drafts =
    if piece cfg text cursor = [] then (drafts, some (rawEnd cfg text cursor))
    else
      (if cfg.minimumChars ≤ (piece cfg text cursor).length ∨ drafts = [] then
          drafts ++ [draftAt cfg text cursor sections drafts.length] else drafts,
        if text.length ≤ pieceStop cfg text cursor then none
        else some (cursorAfter cfg text (pieceStart cfg text cursor) (pieceStop cfg text cursor)))
    := by
  by_cases hpiece : piece cfg text cursor = []
  · rw [if_pos hpiece]
    exact if_pos hpiece
  · rw [if_neg hpiece]
    refine (if_neg hpiece).trans ?_
    by_cases hlast : text.length ≤ pieceStop cfg text cursor
    · rw [if_pos hlast]
      exact if_pos hlast
    · rw [if_neg hlast]
      exact if_neg hlast

/-- The three things that a turn can do: skip a blank window, end the loop, or move on behind the
piece of its window. -/
theorem chunkTurn_cases {result : List ChunkDraft} {later : Option Nat}
    (h : chunkTurn cfg text sections cursor drafts = (result, later)) :
    (piece cfg text cursor = [] ∧ result = drafts ∧ later = some (rawEnd cfg text cursor)) ∨
    (piece cfg text cursor ≠ [] ∧
      result = (if cfg.minimumChars ≤ (piece cfg text cursor).length ∨ drafts = [] then
        drafts ++ [draftAt cfg text cursor sections drafts.length] else drafts) ∧
      ((text.length ≤ pieceStop cfg text cursor ∧ later = none) ∨
        (pieceStop cfg text cursor < text.length ∧ later =
          some (cursorAfter cfg text (pieceStart cfg text cursor)
            (pieceStop cfg text cursor))))) := by
  rw [chunkTurn_eq] at h
  split at h
  · rename_i hpiece
    cases h
    exact .inl ⟨hpiece, rfl, rfl⟩
  · rename_i hpiece
    obtain ⟨hresult, hlater⟩ := Prod.mk.inj h
    refine .inr ⟨hpiece, hresult.symm, ?_⟩
    split at hlater
    · rename_i hlast
      exact .inl ⟨hlast, hlater.symm⟩
    · rename_i hmore
      exact .inr ⟨Nat.lt_of_not_le hmore, hlater.symm⟩

theorem find_le {sub : List Char} {start stop found : Nat}
    (h : find text sub start stop = some found) : found + sub.length ≤ stop := by
  have hmem : found ∈ occurrences text sub start stop := List.mem_of_head? h
  obtain ⟨-, hfound⟩ := List.mem_filter.mp hmem
  simp only [Bool.and_eq_true, decide_eq_true_eq] at hfound
  omega

/-- The cursor moves on from the start of a piece, but not past its end. -/
theorem cursorAfter_le (cfg : ChunkSettings) (text : List Char) (start stop : Nat)
    (h : start < stop) : cursorAfter cfg text start stop ≤ stop := by
  simp only [cursorAfter]
  split
  · omega
  · split
    · rename_i found hfound
      have hle := find_le hfound
      simp only [List.length_singleton] at hle
      omega
    · omega

/-- The states at the head of the loop in the run over a text. -/
inductive Reaches (cfg : ChunkSettings) (text : List Char) (sections : List ExtractedSection) :
    Nat → List ChunkDraft → Prop
  | start : Reaches cfg text sections 0 []
  | turn {cursor next : Nat} {drafts drafts' : List ChunkDraft}
    (hreach : Reaches cfg text sections cursor drafts) (hcursor : cursor < text.length)
    (hturn : chunkTurn cfg text sections cursor drafts = (drafts', some next)) :
    Reaches cfg text sections next drafts'

/-- The loop ends with this result from a state at its head. -/
def Ends (cfg : ChunkSettings) (text : List Char) (sections : List ExtractedSection)
    (cursor : Nat) (drafts result : List ChunkDraft) : Prop :=
  (text.length ≤ cursor ∧ result = drafts) ∨
    (cursor < text.length ∧ chunkTurn cfg text sections cursor drafts = (result, none))

/-- The loop ends, and what it returns is the result that it ends with. -/
theorem chunkLoop_ends (hsize : cfg.chunkSize ≠ 0) {fuel : Nat}
    (hreach : Reaches cfg text sections cursor drafts) (hfuel : text.length - cursor < fuel) :
    ∃ last kept, Reaches cfg text sections last kept ∧
      Ends cfg text sections last kept (chunkLoop cfg text sections fuel cursor drafts) := by
  induction fuel generalizing cursor drafts with
  | zero => omega
  | succ fuel ih =>
    rw [chunkLoop]
    by_cases hcursor : text.length ≤ cursor
    · rw [if_pos hcursor]
      exact ⟨cursor, drafts, hreach, .inl ⟨hcursor, rfl⟩⟩
    · rw [if_neg hcursor]
      have hinside : cursor < text.length := Nat.lt_of_not_le hcursor
      split
      · rename_i later next hturn
        have hlt : cursor < next := chunkTurn_advances hsize hinside (congrArg Prod.snd hturn)
        exact ih (hreach.turn hinside hturn) (by omega)
      · rename_i later hturn
        exact ⟨cursor, drafts, hreach, .inr ⟨hinside, hturn⟩⟩

/-! ## Well-formed chunks -/

/-- A section and a chunk overlap if each of them starts before the other one ends. -/
def Overlaps (sec : ExtractedSection) (draft : ChunkDraft) : Prop :=
  draft.startOffset < sec.endOffset ∧ sec.startOffset < draft.endOffset

/-- The pages of the sections that overlap a chunk. -/
def pagesOf (sections : List ExtractedSection) (draft : ChunkDraft) : Set Nat :=
  {page | ∃ sec ∈ sections, sec.pageNumber = some page ∧ Overlaps sec draft}

structure WellCut (cfg : ChunkSettings) (text : List Char) (sections : List ExtractedSection)
    (draft : ChunkDraft) : Prop where
  sliced : slice text draft.startOffset draft.endOffset = draft.text
  spans : draft.endOffset = draft.startOffset + draft.text.length
  stripped : stripText draft.text = draft.text
  nonempty : 1 ≤ draft.text.length
  bounded : draft.text.length ≤ cfg.chunkSize
  pageStart : ∀ page, draft.pageStart = some page ↔ IsLeast (pagesOf sections draft) page
  pageEnd : ∀ page, draft.pageEnd = some page ↔ IsGreatest (pagesOf sections draft) page

structure WellChunked (cfg : ChunkSettings) (text : List Char) (sections : List ExtractedSection)
    (drafts : List ChunkDraft) : Prop where
  cut : ∀ draft ∈ drafts, WellCut cfg text sections draft
  numbered : Numbered drafts
  increasing : (drafts.map (·.startOffset)).Pairwise (· < ·)

/-- A section with any text at all overlaps a chunk exactly when they share a position. -/
theorem overlaps_iff {sec : ExtractedSection} {draft : ChunkDraft}
    (hsec : sec.startOffset < sec.endOffset) (hdraft : draft.startOffset < draft.endOffset) :
    Overlaps sec draft ↔ ∃ i, (sec.startOffset ≤ i ∧ i < sec.endOffset) ∧
      draft.startOffset ≤ i ∧ i < draft.endOffset := by
  unfold Overlaps
  constructor
  · intro h
    exact ⟨max sec.startOffset draft.startOffset, by omega, by omega⟩
  · rintro ⟨i, hleft, hright⟩
    omega

/-- The pages that `_pages_for_range` collects. -/
theorem mem_pages {start stop page : Nat} :
    page ∈ (sections.filter fun sec => start < sec.endOffset && sec.startOffset < stop).filterMap
        (·.pageNumber) ↔
      ∃ sec ∈ sections, sec.pageNumber = some page ∧ start < sec.endOffset ∧
        sec.startOffset < stop := by
  simp only [List.mem_filterMap, List.mem_filter, Bool.and_eq_true, decide_eq_true_eq]
  constructor
  · rintro ⟨sec, ⟨hsec, hoverlap⟩, hpage⟩
    exact ⟨sec, hsec, hpage, hoverlap⟩
  · rintro ⟨sec, hsec, hpage, hoverlap⟩
    exact ⟨sec, ⟨hsec, hoverlap⟩, hpage⟩

theorem wellCut_draftAt (h : piece cfg text cursor ≠ []) (ordinal : Nat) :
    WellCut cfg text sections (draftAt cfg text cursor sections ordinal) := by
  constructor
  · exact slice_piece
  · rfl
  · exact stripText_piece
  · exact List.length_pos_iff.mpr h
  · exact length_piece_le
  · intro page
    refine List.min?_eq_some_iff.trans ?_
    simp only [mem_pages]
    exact Iff.rfl
  · intro page
    refine List.max?_eq_some_iff.trans ?_
    simp only [mem_pages]
    exact Iff.rfl

/-- What holds at the head of the loop: the chunks are well-formed, and they all start before the
cursor. -/
structure Recorded (cfg : ChunkSettings) (text : List Char) (sections : List ExtractedSection)
    (cursor : Nat) (drafts : List ChunkDraft) : Prop extends
    WellChunked cfg text sections drafts where
  behind : ∀ draft ∈ drafts, draft.startOffset < cursor

theorem Recorded.append (h : Recorded cfg text sections cursor drafts)
    (hpiece : piece cfg text cursor ≠ []) :
    Recorded cfg text sections (pieceStart cfg text cursor + 1)
      (drafts ++ [draftAt cfg text cursor sections drafts.length]) := by
  have hstart := le_pieceStart cfg text cursor
  constructor
  · constructor
    · intro draft hdraft
      rcases List.mem_append.mp hdraft with hold | hnew
      · exact h.cut draft hold
      · rw [List.mem_singleton.mp hnew]
        exact wellCut_draftAt hpiece _
    · exact h.numbered.append rfl
    · rw [List.map_append, List.pairwise_append]
      refine ⟨h.increasing, List.pairwise_singleton _ _, ?_⟩
      intro earlier hearlier later hlater
      obtain ⟨draft, hdraft, rfl⟩ := List.mem_map.mp hearlier
      rw [List.mem_singleton.mp hlater]
      exact Nat.lt_of_lt_of_le (h.behind draft hdraft) hstart
  · intro draft hdraft
    rcases List.mem_append.mp hdraft with hold | hnew
    · have hbehind := h.behind draft hold
      omega
    · rw [List.mem_singleton.mp hnew]
      exact Nat.lt_succ_self _

theorem Recorded.mono (h : Recorded cfg text sections cursor drafts) (hle : cursor ≤ next) :
    Recorded cfg text sections next drafts :=
  ⟨h.toWellChunked, fun draft hdraft => Nat.lt_of_lt_of_le (h.behind draft hdraft) hle⟩

/-- Every turn keeps the chunks well-formed. -/
theorem Recorded.turn (h : Recorded cfg text sections cursor drafts) {later : Option Nat}
    (hturn : chunkTurn cfg text sections cursor drafts = (drafts', later)) :
    Recorded cfg text sections (pieceStart cfg text cursor + 1) drafts' := by
  have hstart := le_pieceStart cfg text cursor
  obtain ⟨-, rfl, -⟩ | ⟨hpiece, rfl, -⟩ := chunkTurn_cases hturn
  · exact h.mono (by omega)
  · split
    · exact h.append hpiece
    · exact h.mono (by omega)

theorem Reaches.recorded (h : Reaches cfg text sections cursor drafts) :
    Recorded cfg text sections cursor drafts := by
  induction h with
  | start =>
    constructor
    · exact ⟨nofun, rfl, .nil⟩
    · exact nofun
  | @turn cursor next drafts drafts' hreach hcursor hturn ih =>
    obtain ⟨-, rfl, hnext⟩ | ⟨-, -, ⟨-, hnone⟩ | ⟨-, hnext⟩⟩ := chunkTurn_cases hturn
    · refine ih.mono ?_
      cases hnext
      unfold rawEnd
      omega
    · cases hnone
    · refine (ih.turn hturn).mono ?_
      cases hnext
      exact lt_cursorAfter _ _ _ _

theorem Ends.wellChunked {result : List ChunkDraft}
    (hreach : Reaches cfg text sections cursor drafts)
    (h : Ends cfg text sections cursor drafts result) : WellChunked cfg text sections result := by
  have hrecorded := hreach.recorded
  rcases h with ⟨-, rfl⟩ | ⟨-, hturn⟩
  · exact hrecorded.toWellChunked
  · exact (hrecorded.turn hturn).toWellChunked

/-- The run over a text ends, with what `chunk_text` computes. -/
theorem chunkText_ends (cfg : ChunkSettings) (text : List Char)
    (sections : List ExtractedSection) (hsize : 0 < cfg.chunkSize) :
    ∃ cursor drafts, Reaches cfg text sections cursor drafts ∧
      Ends cfg text sections cursor drafts
        (chunkLoop cfg text sections (text.length + 1) 0 []) :=
  chunkLoop_ends hsize.ne' .start (Nat.lt_succ_self _)

/-- The loop ends after finitely many turns, and the chunks that are returned are numbered from
zero on, start one after the other, are slices of the text without white space around them and
within the size, and carry the first and the last page of the sections they overlap. -/
theorem chunkText_wellChunked (cfg : ChunkSettings) (text : List Char)
    (sections : List ExtractedSection) (hsize : 0 < cfg.chunkSize)
    (hoverlap : cfg.overlap < cfg.chunkSize) :
    (∃ cursor drafts, Reaches cfg text sections cursor drafts ∧
      Ends cfg text sections cursor drafts
        (chunkLoop cfg text sections (text.length + 1) 0 [])) ∧
    ∀ drafts, chunkText cfg text sections = some drafts →
      WellChunked cfg text sections drafts := by
  have hends := chunkText_ends cfg text sections hsize
  refine ⟨hends, ?_⟩
  intro drafts h
  unfold chunkText at h
  rw [if_neg (by omega)] at h
  split at h
  · cases h
    exact ⟨nofun, rfl, .nil⟩
  · simp only at h
    split at h
    · cases h
    · cases h
      obtain ⟨cursor, kept, hreach, hend⟩ := hends
      exact hend.wellChunked hreach

def samplePages : List ExtractedSection :=
  [{ startOffset := 0, endOffset := 4, pageNumber := some 1 },
    { startOffset := 4, endOffset := 6, pageNumber := some 2 }]

def sampleChunks : List ChunkDraft :=
  [⟨0, "aaaa".toList, 0, 4, some 1, some 1⟩, ⟨1, "a b".toList, 3, 6, some 1, some 2⟩]

theorem chunkText_wellChunked_sample :
    chunkText ⟨4, 1, 2⟩ "aaaa b".toList samplePages = some sampleChunks ∧
      WellChunked ⟨4, 1, 2⟩ "aaaa b".toList samplePages sampleChunks := by
  have hrun : chunkText ⟨4, 1, 2⟩ "aaaa b".toList samplePages = some sampleChunks := by
    decide
  exact ⟨hrun, (chunkText_wellChunked ⟨4, 1, 2⟩ "aaaa b".toList samplePages (by decide)
    (by decide)).2 _ hrun⟩

/-! ## Coverage -/

/-- A position lies in one of the chunks. -/
def Covered (drafts : List ChunkDraft) (i : Nat) : Prop :=
  ∃ draft ∈ drafts, draft.startOffset ≤ i ∧ i < draft.endOffset

/-- A position lies in a piece, not the first one, that is too short for a chunk. -/
def Skipped (cfg : ChunkSettings) (text : List Char) (sections : List ExtractedSection)
    (i : Nat) : Prop :=
  ∃ cursor drafts, Reaches cfg text sections cursor drafts ∧ cursor < text.length ∧
    drafts ≠ [] ∧ (piece cfg text cursor).length < cfg.minimumChars ∧
    pieceStart cfg text cursor ≤ i ∧ i < pieceStop cfg text cursor

/-- A position lies behind the preferred end of a window that is blank up to there. -/
def BehindBlank (cfg : ChunkSettings) (text : List Char) (sections : List ExtractedSection)
    (i : Nat) : Prop :=
  ∃ cursor drafts, Reaches cfg text sections cursor drafts ∧ cursor < text.length ∧
    piece cfg text cursor = [] ∧ windowEnd cfg text cursor ≤ i ∧ i < rawEnd cfg text cursor

/-- Where a character that is no white space can be once the cursor has passed it. -/
def Settled (cfg : ChunkSettings) (text : List Char) (sections : List ExtractedSection)
    (drafts : List ChunkDraft) (i : Nat) : Prop :=
  Covered drafts i ∨ (drafts ≠ [] ∧ Skipped cfg text sections i) ∨ BehindBlank cfg text sections i

/-- A turn keeps the chunks that there are. -/
theorem chunkTurn_prefix {later : Option Nat}
    (hturn : chunkTurn cfg text sections cursor drafts = (drafts', later)) :
    drafts <+: drafts' := by
  obtain ⟨-, rfl, -⟩ | ⟨-, rfl, -⟩ := chunkTurn_cases hturn
  · exact List.prefix_refl _
  · split
    · exact List.prefix_append _ _
    · exact List.prefix_refl _

theorem Settled.turn {later : Option Nat} {i : Nat} (h : Settled cfg text sections drafts i)
    (hturn : chunkTurn cfg text sections cursor drafts = (drafts', later)) :
    Settled cfg text sections drafts' i := by
  have hprefix := chunkTurn_prefix hturn
  rcases h with ⟨draft, hdraft, hin⟩ | ⟨hsome, hskipped⟩ | hblank
  · exact .inl ⟨draft, hprefix.subset hdraft, hin⟩
  · refine .inr (.inl ⟨?_, hskipped⟩)
    intro hnil
    rw [hnil] at hprefix
    exact hsome (List.prefix_nil.mp hprefix)
  · exact .inr (.inr hblank)

/-- A turn leaves no character behind up to the end of its window or of its piece. -/
theorem chunkTurn_settles {later : Option Nat} (hreach : Reaches cfg text sections cursor drafts)
    (hinside : cursor < text.length)
    (hturn : chunkTurn cfg text sections cursor drafts = (drafts', later))
    {i limit : Nat} {c : Char} (hlater : later = some limit ∨ limit = text.length ∧ later = none)
    (hc : text[i]? = some c) (hspace : isSpace c = false) (hcursor : cursor ≤ i)
    (hlimit : i < limit) : Settled cfg text sections drafts' i := by
  obtain ⟨hpiece, rfl, hnext⟩ | ⟨hpiece, rfl, hnext⟩ := chunkTurn_cases hturn
  · have hraw : i < rawEnd cfg text cursor := by
      rcases hlater with h | ⟨-, h⟩
      · rw [hnext] at h
        cases h
        exact hlimit
      · rw [hnext] at h
        cases h
    have hblank : windowEnd cfg text cursor ≤ i := by
      by_contra hlt
      have hin := piece_covers hcursor (Nat.lt_of_not_le hlt) hc hspace
      unfold pieceStop at hin
      rw [hpiece, List.length_nil] at hin
      omega
    exact .inr (.inr ⟨cursor, _, hreach, hinside, hpiece, hblank, hraw⟩)
  · have hstop : i < pieceStop cfg text cursor := by
      rcases hnext with ⟨hend, hnone⟩ | ⟨-, hnext⟩
      · rcases hlater with h | ⟨h, -⟩
        · rw [hnone] at h
          cases h
        · omega
      · rcases hlater with h | ⟨-, h⟩
        · rw [hnext] at h
          cases h
          have hpos := List.length_pos_iff.mpr hpiece
          have hle := cursorAfter_le cfg text (pieceStart cfg text cursor)
            (pieceStop cfg text cursor) (by unfold pieceStop; omega)
          omega
        · rw [hnext] at h
          cases h
    have hin : pieceStart cfg text cursor ≤ i :=
      (piece_covers hcursor (Nat.lt_of_lt_of_le hstop (pieceStop_le hpiece)) hc hspace).1
    split
    · exact .inl ⟨_, List.mem_append_right _ (List.mem_singleton_self _), hin, hstop⟩
    · rename_i hshort
      rw [not_or] at hshort
      exact .inr (.inl ⟨hshort.2, cursor, _, hreach, hinside, hshort.2, by omega, hin, hstop⟩)

/-- At the head of the loop everything before the cursor is settled. -/
theorem Reaches.settled (h : Reaches cfg text sections cursor drafts) {i : Nat} {c : Char}
    (hc : text[i]? = some c) (hspace : isSpace c = false) (hi : i < cursor) :
    Settled cfg text sections drafts i := by
  induction h with
  | start => omega
  | @turn cursor next drafts drafts' hreach hcursor hturn ih =>
    by_cases hold : i < cursor
    · exact (ih hold).turn hturn
    · exact chunkTurn_settles hreach hcursor hturn (.inl rfl) hc hspace (Nat.le_of_not_lt hold) hi

theorem Ends.settled {result : List ChunkDraft} (hreach : Reaches cfg text sections cursor drafts)
    (h : Ends cfg text sections cursor drafts result) {i : Nat} {c : Char}
    (hc : text[i]? = some c) (hspace : isSpace c = false) :
    Settled cfg text sections result i := by
  have hi : i < text.length := (List.getElem?_eq_some_iff.mp hc).1
  rcases h with ⟨hend, rfl⟩ | ⟨hinside, hturn⟩
  · exact hreach.settled hc hspace (Nat.lt_of_lt_of_le hi hend)
  · by_cases hold : i < cursor
    · exact (hreach.settled hc hspace hold).turn hturn
    · exact chunkTurn_settles hreach hinside hturn (.inr ⟨rfl, rfl⟩) hc hspace
        (Nat.le_of_not_lt hold) hi

/-- Every character that is no white space is in a chunk or in a piece that was too short for one,
if it is not behind the preferred end of a window that is blank up to there. -/
theorem chunkText_covers (cfg : ChunkSettings) (text : List Char)
    (sections : List ExtractedSection) (hsize : 0 < cfg.chunkSize)
    (hoverlap : cfg.overlap < cfg.chunkSize) (i : Nat) (c : Char) (hc : text[i]? = some c)
    (hspace : isSpace c = false) (hblank : ¬ BehindBlank cfg text sections i) :
    ∃ drafts, chunkText cfg text sections = some drafts ∧
      (Covered drafts i ∨ Skipped cfg text sections i) := by
  obtain ⟨cursor, kept, hreach, hends⟩ := chunkText_ends cfg text sections hsize
  have hsettled := hends.settled hreach hc hspace
  have hall : text.all isSpace = false := by
    rw [List.all_eq_false]
    exact ⟨c, List.mem_of_getElem? hc, by simp [hspace]⟩
  have hsome : chunkLoop cfg text sections (text.length + 1) 0 [] ≠ [] := by
    rcases hsettled with ⟨draft, hdraft, -⟩ | ⟨hsome, -⟩ | h
    · exact List.ne_nil_of_mem hdraft
    · exact hsome
    · exact absurd h hblank
  refine ⟨chunkLoop cfg text sections (text.length + 1) 0 [], ?_, ?_⟩
  · unfold chunkText
    rw [if_neg (by omega), if_neg (by simp [hall])]
    exact if_neg hsome
  · rcases hsettled with hcovered | ⟨-, hskipped⟩ | h
    · exact .inl hcovered
    · exact .inr hskipped
    · exact absurd h hblank

theorem chunkText_covers_sample :
    ∃ drafts, chunkText ⟨4, 0, 2⟩ "aaaa b".toList [] = some drafts ∧
      (Covered drafts 0 ∨ Skipped ⟨4, 0, 2⟩ "aaaa b".toList [] 0) := by
  refine chunkText_covers ⟨4, 0, 2⟩ "aaaa b".toList [] (by decide) (by decide) 0 'a' (by decide)
    (by decide) ?_
  rintro ⟨cursor, drafts, -, hinside, -, hend, -⟩
  have hlt := lt_windowEnd ⟨4, 0, 2⟩ (by decide) hinside
  omega

/-- A short piece behind the first one is in no chunk. -/
theorem chunkText_skips_short : ¬ ∀ (cfg : ChunkSettings) (text : List Char),
    0 < cfg.chunkSize → cfg.overlap < cfg.chunkSize → ∀ (i : Nat) (c : Char),
      text[i]? = some c → isSpace c = false →
      ∃ drafts, chunkText cfg text [] = some drafts ∧ Covered drafts i := by
  intro hcovers
  obtain ⟨drafts, hdrafts, draft, hdraft, -, hstop⟩ :=
    hcovers ⟨4, 0, 2⟩ "aaaa b".toList (by decide) (by decide) 5 'b' (by decide) (by decide)
  have hrun : chunkText ⟨4, 0, 2⟩ "aaaa b".toList [] =
      some [⟨0, "aaaa".toList, 0, 4, none, none⟩] := by
    decide
  rw [hrun] at hdrafts
  cases hdrafts
  rw [List.mem_singleton.mp hdraft] at hstop
  exact absurd hstop (by decide)

end SupportPilot.Knowledge
