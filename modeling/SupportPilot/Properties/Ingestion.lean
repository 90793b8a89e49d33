import Mathlib.Data.List.Forall2
import SupportPilot.Knowledge.Services
import SupportPilot.Library.Table

/-!
# Documents and their chunks

A document has one job, and their statuses change together. Only the completion of a job that is
in process stores chunks, and it replaces whatever chunks the document has by those of one
execution.
-/

namespace SupportPilot.Knowledge

open Library

variable {cfg : Settings} {s s' : Store} {c c' : Ingestion} {e e' : Execution}
  {job : IngestionJob} {document : Document} {ingested : Ingested}

/-! ## What a transaction does -/

/-- The status of the document of a job. -/
def IngestionStatus.mirror : IngestionStatus → DocumentStatus
  | queued => .queued
  | processing => .processing
  | succeeded => .ready
  | failed => .failed

theorem IngestionStatus.mirror_ready {status : IngestionStatus} (h : status.mirror = .ready) :
    status = .succeeded := by
  cases status with
  | succeeded => rfl
  | _ => cases h

/-- A transaction that stores no chunks moves a job that has not succeeded, and its document. -/
inductive Moved (s : Store) : Store → Prop
  | same : Moved s s
  | moved {j : Nat} {job : IngestionJob} {f : IngestionJob → IngestionJob}
      {g : Document → Document} : s.jobs[j]? = some job → job.status ≠ .succeeded →
      (f job).document = job.document → (f job).status ≠ .succeeded →
      (∀ d, (g d).status = (f job).status.mirror) →
      Moved s ((s.modifyJob j f).modifyDocument job.document g)

/-- The store after the chunks of a job have been stored. -/
def Store.completed (s : Store) (j document : Nat) (ingested : Ingested) : Store where
  documents := s.documents.modify document fun document =>
    { document with
      status := .ready
      extractedCharCount := ingested.charCount
      chunkCount := ingested.chunks.length
      lastErrorCode := "" }
  jobs := s.jobs.modify j fun job => { job with status := .succeeded, errorCode := "" }
  chunks := s.chunks.filter (·.document ≠ document) ++
    ingested.chunks.map fun chunk => ⟨document, chunk.1, chunk.2⟩

theorem Moved.unlessSucceeded {j : Nat} {job : IngestionJob} {f : IngestionJob → IngestionJob}
    {g : Document → Document} (hjob : s.jobs[j]? = some job)
    (hdocument : (f job).document = job.document) (hstatus : (f job).status ≠ .succeeded)
    (hmirror : ∀ d, (g d).status = (f job).status.mirror) :
    Moved s (if job.status = .succeeded then s
      else (s.modifyJob j f).modifyDocument job.document g) := by
  split
  · exact .same
  · rename_i hopen
    exact .moved hjob hopen hdocument hstatus hmirror

theorem claimIngestion_moved {j : Nat} {goes : Bool}
    (h : s.claimIngestion j = some (s', goes)) : Moved s s' := by
  obtain ⟨job, hjob, hout⟩ := Option.map_eq_some_iff.mp h
  obtain rfl : _ = s' := (apply_ite Prod.fst _ _ _).symm.trans (congrArg Prod.fst hout)
  exact .unlessSucceeded hjob rfl nofun fun _ => rfl

theorem markFailed_moved {j : Nat} {error : KnowledgeError}
    (h : s.markFailed j error = some s') : Moved s s' := by
  obtain ⟨job, hjob, rfl⟩ := Option.map_eq_some_iff.mp h
  exact .unlessSucceeded hjob rfl nofun fun _ => rfl

theorem markRetryableFailure_moved {j : Nat} {error : KnowledgeError}
    (h : s.markRetryableFailure j error = some s') : Moved s s' := by
  obtain ⟨job, hjob, rfl⟩ := Option.map_eq_some_iff.mp h
  exact .unlessSucceeded hjob rfl nofun fun _ => rfl

theorem completeIngestion_cases {j : Nat} (h : s.completeIngestion j ingested = some s') :
    s' = s ∨ ∃ job, s.jobs[j]? = some job ∧ job.status = .processing ∧
      s' = s.completed j job.document ingested := by
  obtain ⟨job, hjob, hout⟩ := Option.map_eq_some_iff.mp h
  split at hout
  · exact .inl hout.symm
  · rename_i hprocessing
    exact .inr ⟨job, hjob, not_not.mp hprocessing, hout.symm⟩

/-- What an execution does in one step. -/
inductive Worked (cfg : Settings) (e : Execution) (s : Store) : Store → Execution → Prop
  | moved {s' : Store} {phase : Phase} : phase ≠ .delivered →
      (phase = .claimed → e.phase = .delivered) → Moved s s' →
      Worked cfg e s s' { e with phase }
  | computed {extracted : Except KnowledgeError ExtractedDocument}
      {embedded : Except KnowledgeError (List (List (Option Rat)))} {ingested : Ingested} :
      e.phase = .claimed → ingest cfg extracted embedded = .ok ingested →
      Worked cfg e s s { e with phase := .computed, ingested := some ingested }
  | completed {ingested : Ingested} {job : IngestionJob} : e.ingested = some ingested →
      s.jobs[e.job]? = some job → job.status = .processing →
      Worked cfg e s (s.completed e.job job.document ingested) { e with phase := .returned }

theorem ingestionStep_cases {a : IngestionAction}
    (h : ingestionStep cfg a e s = some (s', e')) : Worked cfg e s s' e' := by
  unfold ingestionStep at h
  split at h
  · rename_i hphase
    obtain ⟨⟨t, goes⟩, hclaim, hout⟩ := Option.map_eq_some_iff.mp h
    cases hout
    refine .moved ?_ (fun _ => hphase) (claimIngestion_moved hclaim)
    cases goes <;> nofun
  · rename_i hphase
    split at h
    · rename_i hingest
      cases h
      exact .computed hphase hingest
    · cases h
      exact .moved nofun nofun .same
    · cases h
      exact .moved nofun nofun .same
  · obtain ⟨ingested, hingested, hcomplete⟩ := Option.bind_eq_some_iff.mp h
    obtain ⟨t, ht, hout⟩ := Option.map_eq_some_iff.mp hcomplete
    cases hout
    rcases completeIngestion_cases ht with rfl | ⟨job, hjob, hprocessing, rfl⟩
    · exact .moved nofun nofun .same
    · exact .completed hingested hjob hprocessing
  · obtain ⟨t, ht, hout⟩ := Option.map_eq_some_iff.mp h
    cases hout
    exact .moved nofun nofun (markFailed_moved ht)
  · obtain ⟨t, ht, hout⟩ := Option.map_eq_some_iff.mp h
    cases hout
    exact .moved nofun nofun (markRetryableFailure_moved ht)
  · obtain ⟨job, -, hout⟩ := Option.map_eq_some_iff.mp h
    cases hout
    refine .moved ?_ ?_ .same
    · split <;> nofun
    · split <;> nofun
  · obtain ⟨t, ht, hout⟩ := Option.map_eq_some_iff.mp h
    cases hout
    exact .moved nofun nofun (markFailed_moved ht)
  · cases h

/-! ## Jobs and documents -/

/-- Documents and jobs are created in pairs, and the statuses of a pair fit. -/
structure Mirrored (s : Store) : Prop where
  length : s.jobs.length = s.documents.length
  pair : AllRows (fun j job => job.document = j ∧
    ∃ document, s.documents[j]? = some document ∧ document.status = job.status.mirror) s.jobs

theorem Mirrored.own (h : Mirrored s) {k : Nat} (hdocument : s.documents[k]? = some document) :
    ∃ job, s.jobs[k]? = some job ∧ job.document = k ∧ document.status = job.status.mirror := by
  have hlt : k < s.jobs.length := by
    rw [h.length]
    exact (List.getElem?_eq_some_iff.mp hdocument).1
  obtain ⟨hpair, d, hd, hstatus⟩ := h.pair k _ (List.getElem?_eq_getElem hlt)
  rw [hdocument] at hd
  cases hd
  exact ⟨_, List.getElem?_eq_getElem hlt, hpair, hstatus⟩

/-- The latest job of a document is its only one. -/
theorem Mirrored.latestJob (h : Mirrored s) {k : Nat}
    (hdocument : s.documents[k]? = some document) : s.latestJob k = some k := by
  obtain ⟨job, hjob, hpair, -⟩ := h.own hdocument
  have hmem : k ∈ (List.range s.jobs.length).filter fun j =>
      (s.jobs[j]?).any (·.document = k) := by
    refine List.mem_filter.mpr ⟨List.mem_range.mpr (List.getElem?_eq_some_iff.mp hjob).1, ?_⟩
    rw [hjob, Option.any_some, decide_eq_true_eq]
    exact hpair
  unfold Store.latestJob
  cases hlast : ((List.range s.jobs.length).filter fun j =>
      (s.jobs[j]?).any (·.document = k)).getLast? with
  | none =>
    rw [List.getLast?_eq_none_iff.mp hlast] at hmem
    cases hmem
  | some j =>
    obtain ⟨-, hdocument⟩ := List.mem_filter.mp (List.mem_of_getLast? hlast)
    obtain ⟨other, hother, hsame⟩ := (Option.any_eq_true _ _).mp hdocument
    rw [← (h.pair j other hother).1, of_decide_eq_true hsame]

theorem Moved.chunks (h : Moved s s') : s'.chunks = s.chunks := by
  cases h <;> rfl

/-- A document that is ready has been so before. -/
theorem Moved.ready (h : Moved s s') {k : Nat} (hdocument : s'.documents[k]? = some document)
    (hready : document.status = .ready) : s.documents[k]? = some document := by
  cases h with
  | same => exact hdocument
  | @moved j job f g hjob hopen hpair hnew hmirror =>
    have hrow : (s.documents.modify job.document g)[k]? = some document := hdocument
    rw [List.getElem?_modify] at hrow
    obtain ⟨d, hd, hout⟩ := Option.map_eq_some_iff.mp hrow
    split at hout
    · rw [← hout, hmirror] at hready
      exact absurd (IngestionStatus.mirror_ready hready) hnew
    · rw [hd, ← hout]

theorem Moved.succeeded (h : Moved s s') {j : Nat} (hjob : s.jobs[j]? = some job)
    (hsucceeded : job.status = .succeeded) : s'.jobs[j]? = some job := by
  cases h with
  | same => exact hjob
  | @moved i other f g hother hopen hpair hnew hmirror =>
    show (s.jobs.modify i f)[j]? = some job
    rw [List.getElem?_modify, hjob]
    split
    · rename_i hij
      rw [hij, hjob] at hother
      cases hother
      exact absurd hsucceeded hopen
    · rfl

/-- A pair of a job and its document is moved together. -/
theorem Mirrored.modify (h : Mirrored s) {j : Nat} {f : IngestionJob → IngestionJob}
    {g : Document → Document} {chunks : List Chunk} (hjob : s.jobs[j]? = some job)
    (hpair : (f job).document = job.document)
    (hmirror : ∀ d, (g d).status = (f job).status.mirror) :
    Mirrored ⟨s.documents.modify job.document g, s.jobs.modify j f, chunks⟩ where
  length := by
    show (s.jobs.modify j f).length = (s.documents.modify job.document g).length
    rw [List.length_modify, List.length_modify]
    exact h.length
  pair := by
    have hown := (h.pair j job hjob).1
    intro i job' hjob'
    have hrow : (s.jobs.modify j f)[i]? = some job' := hjob'
    rw [List.getElem?_modify] at hrow
    obtain ⟨a, ha, hout⟩ := Option.map_eq_some_iff.mp hrow
    obtain ⟨hdocument, d, hd, hstatus⟩ := h.pair i a ha
    by_cases hij : j = i
    · subst hij
      rw [hjob] at ha
      cases ha
      rw [if_pos rfl] at hout
      rw [← hout]
      refine ⟨hpair.trans hdocument, g d, ?_, hmirror d⟩
      show (s.documents.modify job.document g)[j]? = some (g d)
      simp [hd, hown]
    · rw [if_neg hij] at hout
      cases hout
      refine ⟨hdocument, d, ?_, hstatus⟩
      show (s.documents.modify job.document g)[i]? = some d
      simp [hd, hown, hij]

theorem Moved.mirrored (h : Moved s s') (hs : Mirrored s) : Mirrored s' := by
  cases h with
  | same => exact hs
  | moved hjob hopen hpair hnew hmirror => exact hs.modify hjob hpair hmirror

theorem Mirrored.completed (h : Mirrored s) {j : Nat} (hjob : s.jobs[j]? = some job) :
    Mirrored (s.completed j job.document ingested) :=
  h.modify hjob rfl fun _ => rfl

theorem Mirrored.upload (h : Mirrored s) : Mirrored s.uploadDocument where
  length := by
    show (s.jobs ++ [_]).length = (s.documents ++ [_]).length
    rw [List.length_append, List.length_append, h.length]
    rfl
  pair := by
    show AllRows _ (s.jobs ++ [_])
    refine AllRows.append (fun j job hjob => ?_) ⟨h.length.symm, { status := .queued }, ?_, rfl⟩
    · obtain ⟨hpair, document, hdocument, hstatus⟩ := h.pair j job hjob
      refine ⟨hpair, document, ?_, hstatus⟩
      exact getElem?_append_some hdocument _
    · show (s.documents ++ [_])[s.jobs.length]? = _
      rw [h.length, List.getElem?_concat_length]

/-- A retry moves the job of a document that has failed. -/
theorem retryDocument_moved (hs : Mirrored s) {k : Nat} (h : s.retryDocument k = some s') :
    Moved s s' := by
  obtain ⟨locked, hlocked, hrest⟩ := Option.bind_eq_some_iff.mp h
  split at hrest
  · cases hrest
  · rename_i hfailed
    obtain ⟨job, hjob, hpair, hstatus⟩ := hs.own hlocked
    rw [hs.latestJob hlocked] at hrest
    cases hrest
    have hopen : job.status ≠ .succeeded := by
      intro hsucceeded
      rw [hsucceeded] at hstatus
      rw [hstatus] at hfailed
      exact hfailed nofun
    have hmoved := Moved.moved (s := s) (f := fun job =>
      { job with status := .queued, attemptCount := 0, errorCode := "" })
      (g := fun locked => { locked with status := .queued, lastErrorCode := "" })
      hjob hopen rfl nofun fun _ => rfl
    rwa [hpair] at hmoved

/-! ## Executions -/

theorem mapM_eq_some {α β : Type} {f : α → Option β} {l : List α} {m : List β}
    (h : l.mapM f = some m) : List.Forall₂ (fun a b => f a = some b) l m := by
  induction l generalizing m with
  | nil =>
    cases h
    exact .nil
  | cons a l ih =>
    rw [List.mapM_cons] at h
    obtain ⟨b, hb, hrest⟩ := Option.bind_eq_some_iff.mp h
    obtain ⟨n, hn, hout⟩ := Option.bind_eq_some_iff.mp hrest
    cases hout
    exact .cons hb (ih hn)

/-- Validation lets the expected number of vectors through, all of finite numbers and of one
dimension, and changes none of them. -/
theorem validateEmbeddings_some {vectors : List (List (Option Rat))}
    {expectedCount dimension : Nat} {validated : List (List Rat)}
    (h : validateEmbeddings vectors expectedCount dimension = some validated) :
    vectors = validated.map (List.map some) ∧ validated.length = expectedCount ∧
      ∀ vector ∈ validated, vector.length = dimension := by
  unfold validateEmbeddings at h
  split at h
  · cases h
  · rename_i hcount
    have heach : List.Forall₂ (fun (v : List Rat) (vector : List (Option Rat)) =>
        v.length = dimension ∧ vector = v.map some) validated vectors := by
      refine ((mapM_eq_some h).imp fun vector v hvector => ?_).flip
      split at hvector
      · cases hvector
      · rename_i hdimension
        have hsame : vector = v.map some := by
          rw [← List.forall₂_eq_eq_eq, List.forall₂_map_right_iff]
          exact mapM_eq_some hvector
        refine ⟨?_, hsame⟩
        rw [← not_not.mp hdimension, hsame, List.length_map]
    obtain ⟨hlength, hsame⟩ := (List.forall₂_and_left _ _).mp heach
    refine ⟨?_, heach.length_eq.trans (not_not.mp hcount), hlength⟩
    rw [← List.forall₂_eq_eq_eq, List.forall₂_map_right_iff]
    exact hsame.flip

/-- The drafts of a text, with a vector for each. -/
structure Drafted (cfg : Settings) (extracted : ExtractedDocument) (vectors : List (List Rat))
    (drafts : List ChunkDraft) : Prop where
  chunked : chunkText ⟨cfg.chunkSize, cfg.chunkOverlap, cfg.minChunkChars⟩ extracted.text
    extracted.sections = some drafts
  embedded : vectors.length = drafts.length
  dimension : ∀ vector ∈ vectors, vector.length = cfg.embeddingDimension

/-- What an execution computes are the drafts of its text with the vectors of the provider. -/
theorem ingest_ok {extracted : Except KnowledgeError ExtractedDocument}
    {embedded : Except KnowledgeError (List (List (Option Rat)))}
    (h : ingest cfg extracted embedded = .ok ingested) :
    ∃ (document : ExtractedDocument) (vectors : List (List Rat)) (drafts : List ChunkDraft),
      extracted = .ok document ∧ embedded = .ok (vectors.map (List.map some)) ∧
      Drafted cfg document vectors drafts ∧ ingested.chunks = drafts.zip vectors := by
  cases extracted with
  | error error => cases h
  | ok document =>
    simp only [ingest, bind, Except.bind] at h
    split at h
    · cases h
    · simp only [pure, Except.pure] at h
      split at h
      · cases h
      · rename_i drafts hdrafts
        cases embedded with
        | error error => cases h
        | ok vectors =>
          simp only at h
          split at h
          · cases h
          · rename_i validated hvalidated
            cases h
            obtain ⟨hsame, hcount, hdimension⟩ := validateEmbeddings_some hvalidated
            exact ⟨document, validated, drafts, rfl, by rw [hsame], ⟨hdrafts, hcount, hdimension⟩,
              rfl⟩

theorem Drafted.ordinals {extracted : ExtractedDocument} {vectors : List (List Rat)}
    {drafts : List ChunkDraft} (h : Drafted cfg extracted vectors drafts) :
    (drafts.zip vectors).map (·.1.ordinal) = List.range drafts.length := by
  have hnumbered : Numbered drafts := chunkText_numbered h.chunked
  show (drafts.zip vectors).map ((·.ordinal) ∘ Prod.fst) = _
  rw [← List.map_map, List.map_fst_zip (Nat.le_of_eq h.embedded.symm)]
  exact hnumbered

/-- An execution computes at most once. -/
def Computes (e : Execution) : Prop :=
  e.phase = .delivered ∨ e.phase = .claimed → e.ingested = none

theorem Worked.computes (h : Worked cfg e s s' e') (he : Computes e) : Computes e' := by
  cases h with
  | moved hdelivered hclaimed =>
    intro hphase
    refine he ?_
    rcases hphase with hphase | hphase
    · exact absurd hphase hdelivered
    · exact .inl (hclaimed hphase)
  | computed | completed =>
    intro hlater
    rcases hlater with hlater | hlater <;> cases hlater

/-- What an execution has computed stays with it. -/
theorem Worked.keeps (h : Worked cfg e s s' e') (he : Computes e) :
    e'.job = e.job ∧ ∀ ingested, e.ingested = some ingested → e'.ingested = some ingested := by
  cases h with
  | moved | completed => exact ⟨rfl, fun _ hingested => hingested⟩
  | computed hphase =>
    refine ⟨rfl, fun other hother => ?_⟩
    rw [he (.inr hphase)] at hother
    cases hother

theorem Worked.mirrored (h : Worked cfg e s s' e') (hs : Mirrored s) : Mirrored s' := by
  cases h with
  | moved _ _ hmoved => exact hmoved.mirrored hs
  | computed => exact hs
  | completed _ hjob => exact hs.completed hjob

theorem knowledgeStep_mirrored {event : KnowledgeEvent} {started : Option Execution}
    (h : knowledgeStep event s = some (s', started)) (hs : Mirrored s) : Mirrored s' := by
  cases event with
  | upload =>
    cases h
    exact hs.upload
  | retry k =>
    obtain ⟨t, ht, hout⟩ := Option.map_eq_some_iff.mp h
    cases hout
    exact (retryDocument_moved hs ht).mirrored hs
  | deliver j =>
    cases h
    exact hs

theorem knowledgeStep_started {event : KnowledgeEvent} {started : Option Execution}
    (h : knowledgeStep event s = some (s', started)) : ∀ e ∈ started, Computes e := by
  intro e he
  cases event with
  | upload =>
    cases h
    cases he
  | retry k =>
    obtain ⟨t, -, hout⟩ := Option.map_eq_some_iff.mp h
    cases hout
    cases he
  | deliver j =>
    cases h
    cases he
    exact fun _ => rfl

/-- Statuses are mirrored, and executions compute once, in every run. -/
theorem annotated (h : (knowledge cfg).system.Reach (fun _ _ => True) c) :
    c.Annotated Mirrored fun _ e => Computes e := by
  refine Program.annotated_reach ?_ ?_ ?_ h
  · rintro s rfl
    exact ⟨rfl, fun _ _ hjob => by cases hjob⟩
  · intro c event s' started _ _ hc hout
    exact ⟨knowledgeStep_mirrored hout hc.store, knowledgeStep_started hout,
      fun _ _ _ he => he⟩
  · intro c i a e s' e' _ _ hc he hout
    have hworked := ingestionStep_cases hout
    exact ⟨hworked.mirrored hc.store, hworked.computes (hc.procs i e he),
      fun _ _ _ _ hother => hother⟩

/-! ## The chunks of a document -/

/-- The chunks of the document are what one execution of its job has computed. -/
def StoredFrom (c : Ingestion) (k : Nat) (document : Document) : Prop :=
  ∃ (i : Nat) (e : Execution) (ingested : Ingested), c.procs[i]? = some e ∧ e.job = k ∧
    e.ingested = some ingested ∧
    c.store.chunksOf k = ingested.chunks.map (fun chunk => ⟨k, chunk.1, chunk.2⟩) ∧
    document.chunkCount = ingested.chunks.length

def AllStored (c : Ingestion) : Prop :=
  ∀ (k : Nat) (document : Document), c.store.documents[k]? = some document →
    document.status = .ready → StoredFrom c k document

/-- Executions keep their jobs and what they have computed. -/
def KeepsComputed (c c' : Ingestion) : Prop :=
  Rows (fun e e' => e'.job = e.job ∧
    ∀ ingested, e.ingested = some ingested → e'.ingested = some ingested) c.procs c'.procs

theorem StoredFrom.later {k : Nat} (h : StoredFrom c k document) (hprocs : KeepsComputed c c')
    (hchunks : c'.store.chunksOf k = c.store.chunksOf k) : StoredFrom c' k document := by
  obtain ⟨i, e, ingested, he, hjob, hingested, hstored, hcount⟩ := h
  obtain ⟨e', he', hjob', hkeeps⟩ := hprocs i e he
  exact ⟨i, e', ingested, he', hjob'.trans hjob, hkeeps ingested hingested,
    hchunks.trans hstored, hcount⟩

theorem chunksOf_completed (s : Store) (j k : Nat) (ingested : Ingested) :
    (s.completed j k ingested).chunksOf k =
      ingested.chunks.map (fun chunk => ⟨k, chunk.1, chunk.2⟩) := by
  show (s.chunks.filter _ ++ ingested.chunks.map _).filter _ = _
  rw [List.filter_append, List.filter_filter]
  have hold : s.chunks.filter (fun chunk => decide (chunk.document = k) &&
      decide (chunk.document ≠ k)) = [] := by
    refine List.filter_eq_nil_iff.mpr fun chunk _ => ?_
    by_cases hk : chunk.document = k <;> simp [hk]
  have hnew : (ingested.chunks.map fun chunk => (⟨k, chunk.1, chunk.2⟩ : Chunk)).filter
      (fun chunk => decide (chunk.document = k)) =
        ingested.chunks.map fun chunk => ⟨k, chunk.1, chunk.2⟩ := by
    refine List.filter_eq_self.mpr fun chunk hchunk => ?_
    obtain ⟨source, -, rfl⟩ := List.mem_map.mp hchunk
    exact decide_eq_true rfl
  rw [hold, hnew, List.nil_append]

theorem chunksOf_completed_other {j k other : Nat} (hne : other ≠ k) :
    (s.completed j k ingested).chunksOf other = s.chunksOf other := by
  show (s.chunks.filter _ ++ ingested.chunks.map _).filter _ = s.chunks.filter _
  rw [List.filter_append, List.filter_filter]
  have hold : s.chunks.filter (fun chunk => decide (chunk.document = other) &&
      decide (chunk.document ≠ k)) = s.chunks.filter fun chunk => chunk.document = other := by
    refine List.filter_congr fun chunk _ => ?_
    by_cases hother : chunk.document = other
    · simp [hother, hne]
    · simp [hother]
  have hnew : (ingested.chunks.map fun chunk => (⟨k, chunk.1, chunk.2⟩ : Chunk)).filter
      (fun chunk => decide (chunk.document = other)) = [] := by
    refine List.filter_eq_nil_iff.mpr fun chunk hchunk => ?_
    obtain ⟨source, -, rfl⟩ := List.mem_map.mp hchunk
    simp [Ne.symm hne]
  rw [hold, hnew, List.append_nil]

/-- A transaction that stores no chunks leaves the documents that are ready as they were. -/
theorem AllStored.moved (h : AllStored c) (hmoved : Moved c.store c'.store)
    (hprocs : KeepsComputed c c') : AllStored c' := by
  intro k document hdocument hready
  refine (h k document (hmoved.ready hdocument hready) hready).later hprocs ?_
  unfold Store.chunksOf
  rw [hmoved.chunks]

/-- A completion stores the chunks of the execution that completes. -/
theorem AllStored.completed (h : AllStored c) {i k : Nat} (he : c'.procs[i]? = some e')
    (hjob : e'.job = k) (hingested : e'.ingested = some ingested)
    (hstore : c'.store = c.store.completed k k ingested) (hprocs : KeepsComputed c c') :
    AllStored c' := by
  intro other document hdocument hready
  rw [hstore] at hdocument
  by_cases hother : other = k
  · subst hother
    have hrow : (c.store.documents.modify other _)[other]? = some document := hdocument
    rw [List.getElem?_modify_eq] at hrow
    obtain ⟨d, -, rfl⟩ := Option.map_eq_some_iff.mp hrow
    refine ⟨i, e', ingested, he, hjob, hingested, ?_, rfl⟩
    rw [hstore]
    exact chunksOf_completed _ _ _ _
  · have hrow : (c.store.documents.modify k _)[other]? = some document := hdocument
    rw [List.getElem?_modify_ne _ _ (Ne.symm hother)] at hrow
    refine (h other document hrow hready).later hprocs ?_
    rw [hstore]
    exact chunksOf_completed_other hother

theorem allStored_env {event : KnowledgeEvent} {started : Option Execution}
    (hs : Mirrored c.store) (h : AllStored c)
    (hout : knowledgeStep event c.store = some (s', started)) :
    AllStored ⟨s', c.procs ++ started.toList⟩ := by
  have hprocs : KeepsComputed c ⟨s', c.procs ++ started.toList⟩ :=
    .append (fun _ => ⟨rfl, fun _ hingested => hingested⟩) _ _
  cases event with
  | upload =>
    cases hout
    intro k document hdocument hready
    rcases getElem?_concat_cases hdocument with hold | ⟨-, rfl⟩
    · exact (h k document hold hready).later hprocs rfl
    · cases hready
  | retry k =>
    obtain ⟨t, ht, heq⟩ := Option.map_eq_some_iff.mp hout
    cases heq
    exact h.moved (retryDocument_moved hs ht) hprocs
  | deliver j =>
    cases hout
    exact h.moved .same hprocs

theorem allStored_work {i : Nat} {a : IngestionAction} (hs : Mirrored c.store)
    (h : AllStored c) (hcomputes : Computes e) (he : c.procs[i]? = some e)
    (hout : ingestionStep cfg a e c.store = some (s', e')) :
    AllStored ⟨s', c.procs.set i e'⟩ := by
  have hworked := ingestionStep_cases hout
  have hprocs : KeepsComputed c ⟨s', c.procs.set i e'⟩ :=
    .set (fun _ => ⟨rfl, fun _ hingested => hingested⟩) he (hworked.keeps hcomputes)
  have hself : (c.procs.set i e')[i]? = some e' :=
    List.getElem?_set_self (List.getElem?_eq_some_iff.mp he).1
  cases hworked with
  | moved _ _ hmoved => exact h.moved hmoved hprocs
  | computed => exact h.moved .same hprocs
  | completed hingested hjob _ =>
    have hown := (hs.pair _ _ hjob).1
    exact h.completed hself rfl hingested (by rw [hown]) hprocs

theorem allStored (h : (knowledge cfg).system.Reach (fun _ _ => True) c) : AllStored c := by
  refine h.invariant (I := AllStored) ?_ ?_
  · rintro c ⟨hstore, -⟩ k document hdocument
    have hempty : c.store = {} := hstore
    rw [hempty] at hdocument
    cases hdocument
  · intro c l c' hr hc _ hstep
    have hannotated := annotated hr
    cases l with
    | env event =>
      obtain ⟨s', started, hout, rfl⟩ := Program.step_env hstep
      exact allStored_env hannotated.store hc hout
    | work i a =>
      obtain ⟨e, s', e', he, hout, rfl⟩ := Program.step_work hstep
      exact allStored_work hannotated.store hc (hannotated.procs i e he) he hout

theorem Worked.succeeded (h : Worked cfg e s s' e') {j : Nat} (hjob : s.jobs[j]? = some job)
    (hsucceeded : job.status = .succeeded) : s'.jobs[j]? = some job := by
  cases h with
  | moved _ _ hmoved => exact hmoved.succeeded hjob hsucceeded
  | computed => exact hjob
  | completed _ hother hprocessing =>
    by_cases hij : e.job = j
    · rw [hij, hjob] at hother
      cases hother
      rw [hsucceeded] at hprocessing
      cases hprocessing
    · show (s.jobs.modify e.job _)[j]? = some job
      rw [List.getElem?_modify_ne _ _ hij]
      exact hjob

/-- No step leaves a job that has succeeded. -/
theorem succeeded_step {l : IngestionLabel} (hs : Mirrored c.store)
    (h : (knowledge cfg).system.step l c = some c') {j : Nat}
    (hjob : c.store.jobs[j]? = some job) (hsucceeded : job.status = .succeeded) :
    c'.store.jobs[j]? = some job := by
  cases l with
  | env event =>
    obtain ⟨s', started, hout, rfl⟩ := Program.step_env h
    cases event with
    | upload =>
      cases hout
      exact getElem?_append_some hjob _
    | retry k =>
      obtain ⟨t, ht, heq⟩ := Option.map_eq_some_iff.mp hout
      cases heq
      exact (retryDocument_moved hs ht).succeeded hjob hsucceeded
    | deliver j =>
      cases hout
      exact hjob
  | work i a =>
    obtain ⟨e, s', e', he, hout, rfl⟩ := Program.step_work h
    exact (ingestionStep_cases hout).succeeded hjob hsucceeded

/-! ## Main result -/

/-- The steps of a run, the latest first. -/
abbrev IngestionHistory := List (Ingestion × IngestionLabel × Ingestion)

/-- Execution `i` has computed on this text, for which the provider gave these vectors. -/
def ComputedOn (steps : IngestionHistory) (i : Nat) (extracted : ExtractedDocument)
    (vectors : List (List Rat)) : Prop :=
  ∃ d d', (d, .work i (.compute (.ok extracted) (.ok (vectors.map (List.map some)))), d') ∈ steps

/-- The chunks of the document are the drafts of the text that one execution of its job has
computed on, each with the vector that the provider gave for it. -/
def ProducedBy (cfg : Settings) (steps : IngestionHistory) (c : Ingestion) (k : Nat)
    (document : Document) : Prop :=
  ∃ (i : Nat) (e : Execution) (extracted : ExtractedDocument) (vectors : List (List Rat))
      (drafts : List ChunkDraft), c.procs[i]? = some e ∧ e.job = k ∧
    ComputedOn steps i extracted vectors ∧ Drafted cfg extracted vectors drafts ∧
    c.store.chunksOf k = (drafts.zip vectors).map (fun chunk => ⟨k, chunk.1, chunk.2⟩) ∧
    document.chunkCount = drafts.length

/-- The computations of executions are steps of the run. -/
def Traced (cfg : Settings) (steps : IngestionHistory) (c : Ingestion) : Prop :=
  ∀ (i : Nat) (e : Execution) (ingested : Ingested), c.procs[i]? = some e →
    e.ingested = some ingested → ∃ extracted vectors drafts, ComputedOn steps i extracted vectors ∧
      Drafted cfg extracted vectors drafts ∧ ingested.chunks = drafts.zip vectors

theorem ingestionStep_ingested {a : IngestionAction}
    (h : ingestionStep cfg a e s = some (s', e')) :
    e'.ingested = e.ingested ∨ ∃ extracted embedded ingested, a = .compute extracted embedded ∧
      ingest cfg extracted embedded = .ok ingested ∧ e'.ingested = some ingested := by
  unfold ingestionStep at h
  split at h
  case h_2 =>
    split at h
    · rename_i hingest
      cases h
      exact .inr ⟨_, _, _, rfl, hingest, rfl⟩
    · cases h
      exact .inl rfl
    · cases h
      exact .inl rfl
  case h_3 =>
    obtain ⟨ingested, -, hout⟩ := Option.bind_eq_some_iff.mp h
    obtain ⟨t, -, heq⟩ := Option.map_eq_some_iff.mp hout
    cases heq
    exact .inl rfl
  case h_8 => cases h
  all_goals
    obtain ⟨t, -, heq⟩ := Option.map_eq_some_iff.mp h
    cases heq
    exact .inl rfl

theorem traced_run {steps : IngestionHistory}
    (h : (knowledge cfg).system.Run (fun _ _ => True) steps c) : Traced cfg steps c := by
  refine h.invariant ?_ ?_
  · rintro ⟨store, procs⟩ ⟨-, hprocs⟩ i e ingested he
    cases hprocs
    cases he
  · intro steps c l c' _ hc _ hstep
    have hold : ∀ i e ingested, c.procs[i]? = some e → e.ingested = some ingested →
        ∃ extracted vectors drafts, ComputedOn ((c, l, c') :: steps) i extracted vectors ∧
          Drafted cfg extracted vectors drafts ∧ ingested.chunks = drafts.zip vectors := by
      intro i e ingested he hingested
      obtain ⟨extracted, vectors, drafts, ⟨d, d', hmem⟩, hrest⟩ := hc i e ingested he hingested
      exact ⟨extracted, vectors, drafts, ⟨d, d', List.mem_cons_of_mem _ hmem⟩, hrest⟩
    intro i e ingested he hingested
    cases l with
    | env event =>
      obtain ⟨s', started, hout, rfl⟩ := Program.step_env hstep
      rcases Program.proc_append he with hbefore | hnew
      · exact hold i e ingested hbefore hingested
      · cases event with
        | upload =>
          cases hout
          cases hnew
        | retry k =>
          obtain ⟨t, -, heq⟩ := Option.map_eq_some_iff.mp hout
          cases heq
          cases hnew
        | deliver j =>
          cases hout
          cases hnew
          cases hingested
    | work j a =>
      obtain ⟨w, s', w', hw, hout, rfl⟩ := Program.step_work hstep
      rcases getElem?_set_cases he with ⟨rfl, rfl⟩ | ⟨-, hother⟩
      · rcases ingestionStep_ingested hout with hsame | ⟨extracted, embedded, out, rfl, hout, hnew⟩
        · exact hold _ w ingested hw (hsame ▸ hingested)
        · obtain rfl : out = ingested := Option.some.inj (hnew.symm.trans hingested)
          obtain ⟨document, vectors, drafts, rfl, rfl, hdrafted, hchunks⟩ := ingest_ok hout
          exact ⟨document, vectors, drafts, ⟨_, _, List.mem_cons_self⟩, hdrafted, hchunks⟩
      · exact hold i e ingested hother hingested

theorem producedBy_run {steps : IngestionHistory}
    (h : (knowledge cfg).system.Run (fun _ _ => True) steps c) {k : Nat}
    (hdocument : c.store.documents[k]? = some document) (hready : document.status = .ready) :
    ProducedBy cfg steps c k document := by
  obtain ⟨i, e, ingested, he, hjob, hingested, hstored, hcount⟩ :=
    allStored h.reach k document hdocument hready
  obtain ⟨extracted, vectors, drafts, hcomputed, hdrafted, hchunks⟩ :=
    traced_run h i e ingested he hingested
  refine ⟨i, e, extracted, vectors, drafts, he, hjob, hcomputed, hdrafted, ?_, ?_⟩
  · rw [hstored, hchunks]
  · rw [hcount, hchunks, List.length_zip, hdrafted.embedded, Nat.min_self]

/-- In every state of a run the status of a document mirrors that of its latest job, and a document
that is ready has exactly the chunks of one execution of that job, numbered without a gap; a job
that has succeeded stays so. -/
theorem ingestion_consistent (cfg : Settings) (steps : IngestionHistory) (c : Ingestion)
    (h : (knowledge cfg).system.Run (fun _ _ => True) steps c) :
    (∀ (k : Nat) (document : Document), c.store.documents[k]? = some document →
      (∃ j job, c.store.latestJob k = some j ∧ c.store.jobs[j]? = some job ∧
        document.status = job.status.mirror) ∧
      (document.status = .ready → ProducedBy cfg steps c k document ∧
        (c.store.chunksOf k).map (·.draft.ordinal) = List.range document.chunkCount)) ∧
    ∀ l c', (knowledge cfg).system.step l c = some c' → ∀ (j : Nat) (job : IngestionJob),
      c.store.jobs[j]? = some job → job.status = .succeeded → c'.store.jobs[j]? = some job := by
  have hannotated := annotated h.reach
  refine ⟨fun k document hdocument => ⟨?_, fun hready => ?_⟩, ?_⟩
  · obtain ⟨job, hjob, -, hstatus⟩ := hannotated.store.own hdocument
    exact ⟨k, job, hannotated.store.latestJob hdocument, hjob, hstatus⟩
  · have hproduced := producedBy_run h hdocument hready
    refine ⟨hproduced, ?_⟩
    obtain ⟨i, e, extracted, vectors, drafts, -, -, -, hdrafted, hstored, hcount⟩ := hproduced
    rw [hstored, hcount, ← hdrafted.ordinals, List.map_map]
    rfl
  · exact fun l c' hstep j job hjob hsucceeded =>
      succeeded_step hannotated.store hstep hjob hsucceeded

def sampleSettings : Settings where
  minChunkChars := 2
  chunkSize := 8
  chunkOverlap := 0
  embeddingDimension := 1
  maxAttempts := 3

def sampleDocument : ExtractedDocument := { text := "one two three".toList, sections := [] }

/-- A worker fails the job while another one computes; the document is retried, and the chunks of
the second worker complete it while a third one has claimed it. -/
def overlappingExecutions : List IngestionLabel :=
  [.env .upload, .env (.deliver 0), .env (.deliver 0), .work 0 .claim, .work 1 .claim,
    .work 0 (.compute (.error .extractionFailed) (.ok [])), .work 0 .markFailed,
    .env (.retry 0), .env (.deliver 0), .work 2 .claim,
    .work 1 (.compute (.ok sampleDocument) (.ok [[some 0], [some 1]])), .work 1 .complete]

def ingestionEnd (labels : List IngestionLabel) : Ingestion :=
  (knowledge sampleSettings).system.replayEnd (fun _ _ => True) labels ⟨{}, []⟩

theorem reaches_ingestionEnd (labels : List IngestionLabel) :
    (knowledge sampleSettings).system.Reach (fun _ _ => True) (ingestionEnd labels) := by
  have hinit : (knowledge sampleSettings).system.initial ⟨{}, []⟩ := ⟨rfl, rfl⟩
  exact System.reach_replayEnd (.init hinit) labels

theorem ingestion_consistent_overlapping :
    (∃ steps, (knowledge sampleSettings).system.Run (fun _ _ => True) steps
        (ingestionEnd overlappingExecutions) ∧
      ∀ (k : Nat) (document : Document),
        (ingestionEnd overlappingExecutions).store.documents[k]? = some document →
        document.status = .ready →
        ProducedBy sampleSettings steps (ingestionEnd overlappingExecutions) k document) ∧
      (ingestionEnd overlappingExecutions).store.documents.map (·.status) = [.ready] ∧
      (ingestionEnd overlappingExecutions).store.chunks.map (·.draft.ordinal) = [0, 1] := by
  obtain ⟨steps, hrun⟩ := (reaches_ingestionEnd overlappingExecutions).run
  have hconsistent := (ingestion_consistent sampleSettings steps _ hrun).1
  exact ⟨⟨steps, hrun, fun k document hdocument hready =>
    ((hconsistent k document hdocument).2 hready).1⟩, by decide, by decide⟩

end SupportPilot.Knowledge
