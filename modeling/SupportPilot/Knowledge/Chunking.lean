import SupportPilot.Knowledge.Normalization

/-!
# The chunker

A text is cut at positions that the chunker prefers, from a cursor that moves forward with every
turn of its loop.
-/

namespace SupportPilot.Knowledge

open Library (isSpace)

structure ChunkDraft where
  ordinal : Nat
  text : List Char
  startOffset : Nat
  endOffset : Nat
  pageStart : Option Nat
  pageEnd : Option Nat
  deriving DecidableEq, Repr

/-- The positions of `sub` within a slice of the text. -/
def occurrences (text sub : List Char) (start stop : Nat) : List Nat :=
  (List.range text.length).filter fun i =>
    start ≤ i && i + sub.length ≤ min stop text.length && sub.isPrefixOf (text.drop i)

/-- `str.find`, with no position in place of `-1`. -/
def find (text sub : List Char) (start stop : Nat) : Option Nat :=
  (occurrences text sub start stop).head?

/-- `str.rfind`, with no position in place of `-1`. -/
def rfind (text sub : List Char) (start stop : Nat) : Option Nat :=
  (occurrences text sub start stop).getLast?

/-- `_preferred_end` -/
def preferredEnd (text : List Char) (start maximum : Nat) : Nat :=
  if text.length ≤ maximum then text.length
  else
    let floor := start + max 1 ((maximum - start) / 2)
    let candidates := [rfind text ['\n', '\n'] floor maximum, rfind text ['\n'] floor maximum,
      rfind text [' '] floor maximum]
    match candidates.reduceOption.max? with
    | some boundary => if start < boundary then boundary else maximum
    | none => maximum

/-- `_pages_for_range` -/
def pagesForRange (start stop : Nat) (sections : List ExtractedSection) :
    Option Nat × Option Nat :=
  let pages := (sections.filter fun sec => start < sec.endOffset && sec.startOffset < stop)
    |>.filterMap (·.pageNumber)
  (pages.min?, pages.max?)

structure ChunkSettings where
  chunkSize : Nat
  overlap : Nat
  minimumChars : Int
  deriving DecidableEq, Repr

/-- Where the next chunk may start: after the first blank of the overlap, if there is one. -/
def cursorAfter (cfg : ChunkSettings) (text : List Char) (start stop : Nat) : Nat :=
  let nextCursor := max (start + 1) (stop - cfg.overlap)
  if cfg.overlap = 0 then nextCursor
  else match find text [' '] nextCursor (min stop (nextCursor + 80)) with
    | some boundary => boundary + 1
    | none => nextCursor

/-- One turn of the loop: the drafts so far, and the next cursor unless the loop ends. -/
def chunkTurn (cfg : ChunkSettings) (text : List Char) (sections : List ExtractedSection)
    (cursor : Nat) (drafts : List ChunkDraft) : List ChunkDraft × Option Nat :=
  let rawEnd := min text.length (cursor + cfg.chunkSize)
  let slice := (text.drop cursor).take (preferredEnd text cursor rawEnd - cursor)
  let start := cursor + (slice.takeWhile isSpace).length
  let content := (slice.dropWhile isSpace).rdropWhile isSpace
  let stop := start + content.length
  if content = [] then (drafts, some rawEnd)
  else
    let pages := pagesForRange start stop sections
    let drafts := if cfg.minimumChars ≤ content.length ∨ drafts = [] then
      drafts ++ [⟨drafts.length, content, start, stop, pages.1, pages.2⟩] else drafts
    if text.length ≤ stop then (drafts, none)
    else (drafts, some (cursorAfter cfg text start stop))

def chunkLoop (cfg : ChunkSettings) (text : List Char) (sections : List ExtractedSection) :
    Nat → Nat → List ChunkDraft → List ChunkDraft
  | 0, _, drafts => drafts
  | fuel + 1, cursor, drafts =>
    if text.length ≤ cursor then drafts
    else match chunkTurn cfg text sections cursor drafts with
      | (drafts, some cursor) => chunkLoop cfg text sections fuel cursor drafts
      | (drafts, none) => drafts

/-- `chunk_text`, where no drafts at all stand for `ChunkingError`. -/
def chunkText (cfg : ChunkSettings) (text : List Char) (sections : List ExtractedSection) :
    Option (List ChunkDraft) :=
  if cfg.chunkSize = 0 ∨ cfg.chunkSize ≤ cfg.overlap then none
  else if text.all isSpace then some []
  else
    let drafts := chunkLoop cfg text sections (text.length + 1) 0 []
    if drafts = [] then none else some drafts

section Turn

variable {cfg : ChunkSettings} {text : List Char} {sections : List ExtractedSection}
  {cursor next : Nat} {drafts drafts' : List ChunkDraft}

/-- The drafts are numbered from zero on. -/
def Numbered (drafts : List ChunkDraft) : Prop :=
  drafts.map (·.ordinal) = List.range drafts.length

theorem Numbered.append (h : Numbered drafts) {draft : ChunkDraft}
    (hordinal : draft.ordinal = drafts.length) : Numbered (drafts ++ [draft]) := by
  unfold Numbered
  rw [List.map_append, h, List.length_append, List.length_singleton, List.range_succ,
    List.map_singleton, hordinal]

theorem chunkTurn_numbered (h : Numbered drafts) :
    Numbered (chunkTurn cfg text sections cursor drafts).1 := by
  unfold chunkTurn
  extract_lets rawEnd slice start content stop pages drafts'
  have hdrafts : Numbered drafts' := by
    show Numbered (if _ then _ else _)
    split
    · exact h.append rfl
    · exact h
  split
  · exact h
  · split
    · exact hdrafts
    · exact hdrafts

theorem find_bounds {sub : List Char} {start stop found : Nat}
    (h : find text sub start stop = some found) : start ≤ found := by
  have hmem : found ∈ occurrences text sub start stop := List.mem_of_head? h
  obtain ⟨-, hfound⟩ := List.mem_filter.mp hmem
  simp only [Bool.and_eq_true, decide_eq_true_eq] at hfound
  exact hfound.1.1

theorem lt_cursorAfter (cfg : ChunkSettings) (text : List Char) (start stop : Nat) :
    start < cursorAfter cfg text start stop := by
  have hnext : start + 1 ≤ max (start + 1) (stop - cfg.overlap) := Nat.le_max_left _ _
  simp only [cursorAfter]
  split
  · omega
  · split
    · rename_i found hfound
      have hle := find_bounds hfound
      omega
    · omega

/-- Every turn moves the cursor forward. -/
theorem chunkTurn_advances (hsize : cfg.chunkSize ≠ 0) (hcursor : cursor < text.length)
    (h : (chunkTurn cfg text sections cursor drafts).2 = some next) : cursor < next := by
  unfold chunkTurn at h
  extract_lets rawEnd slice start content stop pages drafts' at h
  split at h
  · have hraw : min text.length (cursor + cfg.chunkSize) = next := Option.some.inj h
    omega
  · split at h
    · cases h
    · have hstart : cursor ≤ start := Nat.le_add_right _ _
      have hlt := lt_cursorAfter cfg text start stop
      have hnext : cursorAfter cfg text start stop = next := Option.some.inj h
      omega

theorem chunkLoop_numbered (fuel : Nat) (h : Numbered drafts) :
    Numbered (chunkLoop cfg text sections fuel cursor drafts) := by
  induction fuel generalizing cursor drafts with
  | zero => exact h
  | succ fuel ih =>
    rw [chunkLoop]
    split
    · exact h
    · have hturn : Numbered (chunkTurn cfg text sections cursor drafts).1 := chunkTurn_numbered h
      split
      · rename_i later next heq
        rw [heq] at hturn
        exact ih hturn
      · rename_i later heq
        rw [heq] at hturn
        exact hturn

/-- The drafts of a text are numbered without a gap. -/
theorem chunkText_numbered (h : chunkText cfg text sections = some drafts) :
    Numbered drafts := by
  have hnil : Numbered [] := rfl
  unfold chunkText at h
  split at h
  · cases h
  · split at h
    · cases h
      exact hnil
    · simp only at h
      split at h
      · cases h
      · cases h
        exact chunkLoop_numbered _ hnil

end Turn

end SupportPilot.Knowledge
