import SupportPilot.Agents.Rag
import SupportPilot.Library.Budget

/-!
# Retrieved references and their limit

The loop over the results fills a budget of characters with their texts, and its flag says that
the budget overflowed or that a result without a text was passed over.
-/

namespace SupportPilot.Agents

open Library

abbrev resultText (item : RetrievedContext) : List Char := item.text

theorem selectLoop_eq (chosen : Selection) (results : List RetrievedContext) :
    (selectLoop chosen results).references =
        chosen.references ++ fill resultText referenceTo chosen.remaining results ∧
      (selectLoop chosen results).truncated =
        (chosen.truncated || overflows resultText chosen.remaining results) := by
  induction results generalizing chosen with
  | nil => simp [selectLoop, fill, overflows]
  | cons item rest ih =>
    rw [selectLoop, fill, overflows]
    by_cases hzero : chosen.remaining = 0
    · simp [hzero]
    · rw [if_neg hzero, if_neg hzero, if_neg hzero]
      by_cases hempty : item.text = []
      · simpa [resultText, hempty] using ih chosen
      · rw [if_neg hempty]
        have hcontent : item.text.take chosen.remaining ≠ [] := by
          simp [List.take_eq_nil_iff, hzero, hempty]
        by_cases hfits : item.text.length ≤ chosen.remaining
        · have hwhole : item.text.take chosen.remaining = item.text :=
            List.take_of_length_le hfits
          have hlater := ih
            { chosen with references := chosen.references ++ [referenceTo item item.text]
                          remaining := chosen.remaining - item.text.length }
          simpa [resultText, hwhole, hempty, hfits] using hlater
        · have hcut : (item.text.take chosen.remaining).length < item.text.length := by
            rw [List.length_take]
            omega
          have hnone : chosen.remaining - item.text.length = 0 := by omega
          simp [resultText, hcontent, hfits, hcut, hnone, fill_zero, -List.length_take]

/-- A reference is to a result: everything but the content, the end of the cited range and the
flag are those of the result. -/
structure RefersTo (item : RetrievedContext) (reference : KnowledgeReference) : Prop where
  chunkId : reference.chunkId = item.chunkId
  documentId : reference.documentId = item.documentId
  documentTitle : reference.documentTitle = item.documentTitle
  sourceId : reference.sourceId = item.sourceId
  sourceName : reference.sourceName = item.sourceName
  rank : reference.rank = item.rank
  citation : reference.citation = { item.citation with endOffset := reference.citation.endOffset }

/-- A reference to a whole result. -/
def RefersToWhole (item : RetrievedContext) (reference : KnowledgeReference) : Prop :=
  RefersTo item reference ∧ reference.content = item.text ∧ reference.truncated = false

/-- A reference to a result that is cut. -/
def RefersToPart (item : RetrievedContext) (reference : KnowledgeReference) : Prop :=
  RefersTo item reference ∧
    (∃ n, 0 < n ∧ n < item.text.length ∧ reference.content = item.text.take n) ∧
    reference.truncated = true

theorem refersTo_referenceTo (item : RetrievedContext) (content : List Char) :
    RefersTo item (referenceTo item content) := by
  refine ⟨rfl, rfl, rfl, rfl, rfl, rfl, ?_⟩
  unfold referenceTo
  split
  · rfl
  · rfl

theorem refersToWhole_referenceTo (item : RetrievedContext) :
    RefersToWhole item (referenceTo item item.text) :=
  ⟨refersTo_referenceTo item item.text, rfl, decide_eq_false (Nat.lt_irrefl _)⟩

theorem refersToPart_referenceTo (item : RetrievedContext) (n : Nat) (hsome : n ≠ 0)
    (hcut : n < item.text.length) : RefersToPart item (referenceTo item (item.text.take n)) := by
  refine ⟨refersTo_referenceTo item _, ⟨n, by omega, hcut, rfl⟩, decide_eq_true ?_⟩
  rw [List.length_take]
  omega

/-- A citation spans the text of its chunk. -/
def Spans (citation : Citation) (text : List Char) : Prop :=
  citation.endOffset = citation.startOffset + text.length

theorem spans_referenceTo {item : RetrievedContext} {content : List Char}
    (hcontent : content <+: item.text) (h : Spans item.citation item.text) :
    Spans (referenceTo item content).citation content := by
  have hle := hcontent.length_le
  unfold Spans at h ⊢
  unfold referenceTo
  split
  · show min item.citation.endOffset (item.citation.startOffset + content.length) =
      item.citation.startOffset + content.length
    omega
  · show item.citation.endOffset = item.citation.startOffset + content.length
    omega

/-- The selected limit of a retrieval. -/
def selectedLimit (cfg : RagSettings) (maxCharacters : Option Int) : Int :=
  maxCharacters.getD cfg.ragMaxCharacters

/-- The results that a search gives to a retrieval. -/
def searched (cfg : RagSettings) (searchKnowledge : List Char → Int → SearchResult)
    (query : List Char) (topK : Option Int) : SearchResult :=
  searchKnowledge ((Knowledge.stripText query).take cfg.maxQueryLength) (topK.getD cfg.ragTopK)

theorem retrieveAgentKnowledge_eq (cfg : RagSettings)
    (searchKnowledge : List Char → Int → SearchResult) (query : List Char) (topK : Option Int)
    {maxCharacters : Option Int} (hlimit : 0 < selectedLimit cfg maxCharacters) :
    retrieveAgentKnowledge cfg searchKnowledge query topK maxCharacters =
      let found := searched cfg searchKnowledge query topK
      let limit := (selectedLimit cfg maxCharacters).toNat
      let references := fill resultText referenceTo limit found.results
      .ok ⟨found.eventId, found.query, references,
        overflows resultText limit found.results ||
          references.length < found.results.length⟩ := by
  have hloop := selectLoop_eq { remaining := (selectedLimit cfg maxCharacters).toNat }
    (searched cfg searchKnowledge query topK).results
  simp only [List.nil_append, Bool.false_or] at hloop
  have hpositive : ¬ selectedLimit cfg maxCharacters < 1 := by omega
  simp only [selectedLimit, searched] at hloop hpositive ⊢
  simp only [retrieveAgentKnowledge, if_neg hpositive, hloop]
  rfl

/-- The flag of the whole retrieval says that the contents are not the texts, one for one. -/
theorem truncated_iff (remaining : Nat) (results : List RetrievedContext) :
    (overflows resultText remaining results ||
        (fill resultText referenceTo remaining results).length < results.length) = true ↔
      (fill resultText referenceTo remaining results).map (·.content) ≠
        results.map resultText := by
  cases hflag : overflows resultText remaining results with
  | true => simpa using fill_ne (fun _ _ => rfl) hflag
  | false =>
    have hwhole : (fill resultText referenceTo remaining results).map (·.content) =
        (results.map resultText).filter fun text => !text.isEmpty :=
      fill_whole (fun _ _ => rfl) hflag
    have hlength := congrArg List.length hwhole
    rw [List.length_map] at hlength
    rw [Bool.false_or, decide_eq_true_eq, hwhole, hlength, Ne, List.filter_eq_self]
    constructor
    · intro hlt hall
      rw [List.filter_eq_self.mpr hall, List.length_map] at hlt
      omega
    · intro hsome
      by_contra hle
      have hsub := (results.map resultText).filter_sublist (p := fun text => !text.isEmpty)
      refine hsome (List.filter_eq_self.mp (hsub.eq_of_length_le ?_))
      rw [List.length_map]
      omega

/-- Without empty results the flag says that there are more characters than the limit. -/
theorem truncated_iff_overflow {limit : Int} (hlimit : 0 < limit)
    {results : List RetrievedContext} (h : ∀ item ∈ results, item.text ≠ []) :
    (fill resultText referenceTo limit.toNat results).map (·.content) ≠ results.map resultText ↔
      limit < (results.map (·.text.length)).sum := by
  have hflag : overflows resultText limit.toNat results = true ↔
      limit.toNat < (results.map (·.text.length)).sum := overflows_iff h
  constructor
  · intro hne
    by_contra hle
    have hnone : overflows resultText limit.toNat results = false := by
      rw [Bool.eq_false_iff, Ne, hflag]
      omega
    refine hne ((fill_whole (fun _ _ => rfl) hnone).trans (List.filter_eq_self.mpr ?_))
    intro text htext
    obtain ⟨item, hitem, rfl⟩ := List.mem_map.mp htext
    simpa [resultText] using h item hitem
  · intro hlt
    exact fill_ne (fun _ _ => rfl) (hflag.mpr (by omega))

/-- The references are a prefix of the results that are not empty, whole but for the last, and
within the limit; the flag says that they are not all of the results, whole; and a citation spans
what is supplied, from the start of the chunk on. -/
theorem retrieveAgentKnowledge_references (cfg : RagSettings)
    (searchKnowledge : List Char → Int → SearchResult) (query : List Char)
    (topK maxCharacters : Option Int) (hlimit : 0 < selectedLimit cfg maxCharacters) :
    ∃ context, retrieveAgentKnowledge cfg searchKnowledge query topK maxCharacters = .ok context ∧
      let results := (searched cfg searchKnowledge query topK).results
      CutPrefix RefersToWhole RefersToPart (results.filter fun item => !item.text.isEmpty)
        context.references ∧
      (context.characterCount : Int) ≤ selectedLimit cfg maxCharacters ∧
      (context.truncated = true ↔
        context.references.map (·.content) ≠ results.map (·.text)) ∧
      ((∀ item ∈ results, item.text ≠ []) → (context.truncated = true ↔
        selectedLimit cfg maxCharacters < (results.map (·.text.length)).sum)) ∧
      ((∀ item ∈ results, Spans item.citation item.text) →
        ∀ reference ∈ context.references, Spans reference.citation reference.content) := by
  have heq := retrieveAgentKnowledge_eq cfg searchKnowledge query topK hlimit
  refine ⟨_, heq, ?_⟩
  intro results
  refine ⟨?_, ?_, truncated_iff _ _, ?_, ?_⟩
  · exact fill_cutPrefix refersToWhole_referenceTo refersToPart_referenceTo _ results
  · have hlength : ((fill resultText referenceTo (selectedLimit cfg maxCharacters).toNat
        results).map (·.content.length)).sum ≤ (selectedLimit cfg maxCharacters).toNat :=
      fill_sum_le (fun reference : KnowledgeReference => reference.content.length)
        (fun _ _ => rfl) _ results
    show ((((fill resultText referenceTo (selectedLimit cfg maxCharacters).toNat results).map
      (·.content.length)).sum : Nat) : Int) ≤ _
    omega
  · intro hall
    exact (truncated_iff _ _).trans (truncated_iff_overflow hlimit hall)
  · intro hspans reference hreference
    refine fill_forall (fun reference => Spans reference.citation reference.content) ?_ hreference
    intro item hitem content hcontent _
    exact spans_referenceTo hcontent (hspans item hitem)

def sampleUuid : Uuid := .replicate 0

def sampleResult (rank : Nat) (text : List Char) : RetrievedContext where
  chunkId := sampleUuid
  documentId := sampleUuid
  documentTitle := "Refund Policy".toList
  sourceId := sampleUuid
  sourceName := "Support Handbook".toList
  rank := rank
  text := text
  citation := ⟨none, none, 0, text.length, rank - 1⟩

def sampleSearch (query : List Char) (_ : Int) : SearchResult where
  eventId := sampleUuid
  query := query
  results := [sampleResult 1 "abcdefghij".toList, sampleResult 2 "should-be-dropped".toList]

theorem retrieveAgentKnowledge_references_sample :
    ∃ context, retrieveAgentKnowledge ⟨5, 8000, 1000⟩ sampleSearch "refund".toList (some 2)
        (some 6) = .ok context ∧
      context.truncated = true ∧
      ∀ reference ∈ context.references, Spans reference.citation reference.content := by
  obtain ⟨context, heq, -, -, -, hflag, hspans⟩ := retrieveAgentKnowledge_references
    ⟨5, 8000, 1000⟩ sampleSearch "refund".toList (some 2) (some 6) (by decide)
  refine ⟨context, heq, (hflag (by decide)).mpr (by decide), hspans ?_⟩
  intro item hitem
  simp only [searched, sampleSearch, List.mem_cons, List.not_mem_nil, or_false] at hitem
  rcases hitem with rfl | rfl
  · rfl
  · rfl

end SupportPilot.Agents
