import SupportPilot.Knowledge.Chunking
import SupportPilot.Library.Processes

/-!
# Ingestion of documents

Every transaction locks the job and its document together, so that each of them is one step. An
execution claims its job, computes the chunks of the document outside of any transaction, and
completes or fails the job at last. Messages may be delivered at any time and any number of times,
and an execution may stop between any two of its transactions.
-/

namespace SupportPilot.Knowledge

open Library

inductive DocumentStatus
  | pending
  | queued
  | processing
  | ready
  | failed
  deriving DecidableEq, Repr

inductive IngestionStatus
  | queued
  | processing
  | succeeded
  | failed
  deriving DecidableEq, Repr

/-- The errors of an ingestion. Any other exception counts as a temporary failure. -/
inductive KnowledgeError
  | temporaryFailure
  | malformedPdf
  | encryptedPdf
  | pdfPageLimit
  | noExtractableText
  | extractionFailed
  | chunkingFailed
  | invalidEmbedding
  deriving DecidableEq, Repr

def KnowledgeError.code : KnowledgeError → String
  | temporaryFailure => "knowledge_temporary_failure"
  | malformedPdf => "knowledge_malformed_pdf"
  | encryptedPdf => "knowledge_encrypted_pdf"
  | pdfPageLimit => "knowledge_pdf_page_limit"
  | noExtractableText => "knowledge_no_extractable_text"
  | extractionFailed => "knowledge_extraction_failed"
  | chunkingFailed => "knowledge_chunking_failed"
  | invalidEmbedding => "knowledge_invalid_embedding"

structure Document where
  status : DocumentStatus := .pending
  extractedCharCount : Nat := 0
  chunkCount : Nat := 0
  lastErrorCode : String := ""
  deriving DecidableEq, Repr

structure IngestionJob where
  document : Nat
  status : IngestionStatus := .queued
  attemptCount : Nat := 0
  errorCode : String := ""
  deriving DecidableEq, Repr

structure Chunk where
  document : Nat
  draft : ChunkDraft
  embedding : List Rat
  deriving DecidableEq, Repr

structure Settings where
  minChunkChars : Nat
  chunkSize : Nat
  chunkOverlap : Nat
  embeddingDimension : Nat
  maxAttempts : Nat
  deriving DecidableEq, Repr

structure Store where
  documents : List Document := []
  jobs : List IngestionJob := []
  chunks : List Chunk := []
  deriving DecidableEq, Repr

/-- The chunks of a document. -/
def Store.chunksOf (s : Store) (document : Nat) : List Chunk :=
  s.chunks.filter (·.document = document)

/-! ## What an execution computes -/

/-- The drafts and their embeddings. -/
structure Ingested where
  charCount : Nat
  chunks : List (ChunkDraft × List Rat)
  deriving DecidableEq, Repr

/-- `validate_embeddings`, where a value that is no finite number is missing. -/
def validateEmbeddings (vectors : List (List (Option Rat))) (expectedCount dimension : Nat) :
    Option (List (List Rat)) :=
  if vectors.length ≠ expectedCount then none
  else vectors.mapM fun vector => if vector.length ≠ dimension then none else vector.mapM id

/-- The computation between the two transactions of `run_ingestion`, from the document as it is
after its extraction and normalization. -/
def ingest (cfg : Settings) (extracted : Except KnowledgeError ExtractedDocument)
    (embedded : Except KnowledgeError (List (List (Option Rat)))) :
    Except KnowledgeError Ingested := do
  let document ← extracted
  let stripped := (document.text.dropWhile isSpace).rdropWhile isSpace
  if stripped.length < cfg.minChunkChars then throw .noExtractableText
  match chunkText ⟨cfg.chunkSize, cfg.chunkOverlap, cfg.minChunkChars⟩ document.text
      document.sections with
  | none => throw .chunkingFailed
  | some drafts =>
    let vectors ← embedded
    match validateEmbeddings vectors drafts.length cfg.embeddingDimension with
    | none => throw .invalidEmbedding
    | some validated => return ⟨document.text.length, drafts.zip validated⟩

/-! ## Transactions -/

namespace Store

def modifyJob (s : Store) (j : Nat) (f : IngestionJob → IngestionJob) : Store :=
  { s with jobs := s.jobs.modify j f }

def modifyDocument (s : Store) (k : Nat) (f : Document → Document) : Store :=
  { s with documents := s.documents.modify k f }

def uploadDocument (s : Store) : Store :=
  { s with documents := s.documents ++ [{ status := .queued }]
           jobs := s.jobs ++ [{ document := s.documents.length }] }

/-- The job of the document that was created last. -/
def latestJob (s : Store) (document : Nat) : Option Nat :=
  ((List.range s.jobs.length).filter fun j =>
    (s.jobs[j]?).any (·.document = document)).getLast?

def retryDocument (s : Store) (document : Nat) : Option Store :=
  (s.documents[document]?).bind fun locked =>
    if locked.status ≠ .failed then none
    else (s.latestJob document).map fun j =>
      let s := s.modifyJob j fun job =>
        { job with status := .queued, attemptCount := 0, errorCode := "" }
      s.modifyDocument document fun locked =>
        { locked with status := .queued, lastErrorCode := "" }

/-- `_mark_failed` -/
def markFailed (s : Store) (j : Nat) (error : KnowledgeError) : Option Store :=
  (s.jobs[j]?).map fun job =>
    if job.status = .succeeded then s
    else
      let s := s.modifyJob j fun job =>
        { job with status := .failed, errorCode := error.code }
      s.modifyDocument job.document fun document =>
        { document with status := .failed, lastErrorCode := error.code }

def markRetryableFailure (s : Store) (j : Nat) (error : KnowledgeError) : Option Store :=
  (s.jobs[j]?).map fun job =>
    if job.status = .succeeded then s
    else
      let s := s.modifyJob j fun job =>
        { job with status := .queued, errorCode := error.code }
      s.modifyDocument job.document fun document => { document with status := .queued }

/-- The first transaction of `run_ingestion`, and whether the execution goes on. -/
def claimIngestion (s : Store) (j : Nat) : Option (Store × Bool) :=
  (s.jobs[j]?).map fun job =>
    if job.status = .succeeded then (s, false)
    else
      let s := s.modifyJob j fun job =>
        { job with status := .processing, attemptCount := job.attemptCount + 1 }
      (s.modifyDocument job.document fun document => { document with status := .processing }, true)

/-- The last transaction of `run_ingestion`. -/
def completeIngestion (s : Store) (j : Nat) (ingested : Ingested) : Option Store :=
  (s.jobs[j]?).map fun job =>
    if job.status ≠ .processing then s
    else
      let s : Store := { s with
        chunks := s.chunks.filter (·.document ≠ job.document) ++
          ingested.chunks.map fun chunk => ⟨job.document, chunk.1, chunk.2⟩ }
      let s := s.modifyDocument job.document fun document =>
        { document with
          status := .ready
          extractedCharCount := ingested.charCount
          chunkCount := ingested.chunks.length
          lastErrorCode := "" }
      s.modifyJob j fun job => { job with status := .succeeded, errorCode := "" }

end Store

/-! ## Executions -/

inductive Phase
  | delivered
  | claimed
  | computed
  | failing (error : KnowledgeError)
  | retrying
  | raised
  | exhausted
  | returned
  deriving DecidableEq, Repr

/-- A call of `ingest_knowledge_document`: its job, where it is, and what it has computed. -/
structure Execution where
  job : Nat
  phase : Phase := .delivered
  ingested : Option Ingested := none
  deriving DecidableEq, Repr

inductive KnowledgeEvent
  | upload
  | retry (document : Nat)
  | deliver (job : Nat)
  deriving DecidableEq

inductive IngestionAction
  | claim
  | compute (extracted : Except KnowledgeError ExtractedDocument)
    (embedded : Except KnowledgeError (List (List (Option Rat))))
  | complete
  | markFailed
  | markRetryableFailure
  | checkAttempts
  | failIngestion

def knowledgeStep : KnowledgeEvent → Store → Option (Store × Option Execution)
  | .upload, s => some (s.uploadDocument, none)
  | .retry document, s => (s.retryDocument document).map (·, none)
  | .deliver job, s => some (s, some { job })

/-- `run_ingestion` and the task around it. -/
def ingestionStep (cfg : Settings) (a : IngestionAction) (e : Execution) (s : Store) :
    Option (Store × Execution) :=
  match a, e.phase with
  | .claim, .delivered =>
    (s.claimIngestion e.job).map fun out =>
      (out.1, { e with phase := if out.2 then .claimed else .returned })
  | .compute extracted embedded, .claimed =>
    match ingest cfg extracted embedded with
    | .ok ingested => some (s, { e with phase := .computed, ingested := some ingested })
    | .error .temporaryFailure => some (s, { e with phase := .retrying })
    | .error error => some (s, { e with phase := .failing error })
  | .complete, .computed =>
    e.ingested.bind fun ingested =>
      (s.completeIngestion e.job ingested).map (·, { e with phase := .returned })
  | .markFailed, .failing error =>
    (s.markFailed e.job error).map (·, { e with phase := .returned })
  | .markRetryableFailure, .retrying =>
    (s.markRetryableFailure e.job .temporaryFailure).map (·, { e with phase := .raised })
  | .checkAttempts, .raised =>
    (s.jobs[e.job]?).map fun job =>
      (s, { e with phase := if cfg.maxAttempts ≤ job.attemptCount then .exhausted else .returned })
  | .failIngestion, .exhausted =>
    (s.markFailed e.job .temporaryFailure).map (·, { e with phase := .returned })
  | _, _ => none

/-- Ingestion over empty tables. -/
def knowledge (cfg : Settings) : Program KnowledgeEvent IngestionAction Execution Store where
  initial s := s = {}
  env := knowledgeStep
  work _ := ingestionStep cfg

abbrev Ingestion := Config Execution Store

abbrev IngestionLabel := Label KnowledgeEvent IngestionAction

end SupportPilot.Knowledge
