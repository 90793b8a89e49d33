import Mathlib.Algebra.Order.Ring.Rat
import Mathlib.Data.List.Lex
import Mathlib.Data.List.Sort
import Mathlib.Data.Prod.Lex
import Mathlib.Order.WithBot
import SupportPilot.Agents.Rag
import SupportPilot.Knowledge.Services

/-!
# Retrieval of chunks

A search reads the chunks of its workspace in one query and records its results in a later
transaction. Before, between and after the two, workers ingest documents and sources change. The
tables of an ingestion are extended by the columns and the rows that a search reads and writes.
-/

namespace SupportPilot.Knowledge

open Library
open Agents (Citation RetrievedContext)

structure KnowledgeSource where
  id : Uuid
  workspace : Uuid
  name : List Char
  isActive : Bool := true
  deriving DecidableEq

/-- The columns of a document that no ingestion writes. -/
structure DocumentRecord where
  id : Uuid
  workspace : Uuid
  source : Nat
  title : List Char
  isActive : Bool := true
  deriving DecidableEq

/-- The columns of a chunk that no ingestion computes. -/
structure ChunkKey where
  id : Uuid
  workspace : Uuid
  deriving DecidableEq

structure RetrievalEvent where
  id : Uuid
  workspace : Uuid
  actor : Option Uuid
  query : List Char
  embeddingProvider : String
  embeddingModel : String
  topK : Nat
  minimumScore : Option Rat
  resultCount : Nat
  deriving DecidableEq

structure RetrievalHit where
  event : Uuid
  workspace : Uuid
  chunk : Uuid
  rank : Nat
  score : Rat
  citation : Citation
  deriving DecidableEq

/-- The tables. The rows of `records` belong to the documents of the store and those of `keys` to
its chunks, in the same order. -/
structure KnowledgeBase where
  store : Store := {}
  sources : List KnowledgeSource := []
  records : List DocumentRecord := []
  keys : List ChunkKey := []
  events : List RetrievalEvent := []
  hits : List RetrievalHit := []
  deriving DecidableEq

structure SearchRequest where
  workspace : Uuid
  actor : Option Uuid := none
  query : List Char
  topK : Option Int := none
  sourceIds : List Uuid := []
  documentIds : List Uuid := []
  minimumScore : Option Rat := none
  deriving DecidableEq

structure SearchSettings where
  maxQueryLength : Nat
  defaultTopK : Int
  maxTopK : Int
  embeddingDimension : Nat
  embeddingProvider : String
  embeddingModel : String

/-- A `RetrievedContext` with its score. -/
structure ScoredContext extends RetrievedContext where
  score : Rat
  deriving DecidableEq

structure SearchResponse where
  eventId : Uuid
  query : List Char
  results : List ScoredContext
  sufficientContext : Bool
  deriving DecidableEq

inductive SearchError
  | invalidRetrievalQuery (message : String)
  | notFound (message : String)
  | invalidEmbedding
  | providerFailure
  deriving DecidableEq

/-- The errors of the constraints of the tables. -/
inductive DatabaseError
  | integrityError
  | protectedError
  deriving DecidableEq

/-! ## Sources and documents -/

namespace KnowledgeBase

/-- `" ".join(name.split())` -/
def joinWords (name : List Char) : List Char :=
  [' '].intercalate ((name.splitOnP isSpace).filter (· ≠ []))

def createSource (b : KnowledgeBase) (workspace id : Uuid) (name : List Char) :
    Option KnowledgeBase :=
  if joinWords name = [] ∨ id ∈ b.sources.map (·.id) then none
  else some { b with sources := b.sources ++ [{ id, workspace, name := joinWords name }] }

/-- The row has been read before, and all of its columns are saved. -/
def updateSource (b : KnowledgeBase) (workspace : Uuid) (source : Nat) (read : KnowledgeSource)
    (name : Option (List Char)) (isActive : Option Bool) : Option KnowledgeBase :=
  let saved := { read with
    name := joinWords (name.getD read.name)
    isActive := isActive.getD read.isActive }
  if read.workspace ≠ workspace ∨ saved.name = [] then none
  else some { b with sources := b.sources.set source saved }

def uploadDocument (b : KnowledgeBase) (workspace id : Uuid) (source : Nat)
    (read : KnowledgeSource) (title originalFilename : List Char) : Option KnowledgeBase :=
  if read.workspace ≠ workspace ∨ read.isActive = false ∨ id ∈ b.records.map (·.id) then none
  else
    let title := if stripText title = [] then originalFilename else stripText title
    some { b with store := b.store.uploadDocument
                  records := b.records ++ [{ id, workspace, source, title }] }

/-- The row that was read has not changed but for its name and its activity. -/
def readBefore (b : KnowledgeBase) (source : Nat) (read : KnowledgeSource) : Bool :=
  (b.sources[source]?).any fun row => row.id = read.id && row.workspace = read.workspace

def sourceGetForWorkspaceOr404 (b : KnowledgeBase) (workspace id : Uuid) :
    Except SearchError KnowledgeSource :=
  match b.sources.find? fun row => row.workspace = workspace && row.id = id with
  | some source => .ok source
  | none => .error (.notFound "Knowledge source not found.")

def documentGetForWorkspaceOr404 (b : KnowledgeBase) (workspace id : Uuid) :
    Except SearchError DocumentRecord :=
  match b.records.find? fun row => row.workspace = workspace && row.id = id with
  | some document => .ok document
  | none => .error (.notFound "Knowledge document not found.")

/-- The rows of the chunks. -/
def chunkRows (b : KnowledgeBase) : List (ChunkKey × Chunk) := b.keys.zip b.store.chunks

end KnowledgeBase

/-! ## The query -/

/-- A chunk with its document and the source of its document. -/
structure IndexedChunk where
  key : ChunkKey
  chunk : Chunk
  record : DocumentRecord
  status : DocumentStatus
  source : KnowledgeSource
  deriving DecidableEq

/-- What the query is made of. -/
structure ResolvedSearch where
  workspace : Uuid
  actor : Option Uuid
  query : List Char
  topK : Nat
  sources : List Uuid
  documents : List Uuid
  vector : List Rat
  minimumScore : Option Rat
  deriving DecidableEq

namespace KnowledgeBase

def join (b : KnowledgeBase) (row : ChunkKey × Chunk) : Option IndexedChunk :=
  (b.records[row.2.document]?).bind fun record =>
    (b.store.documents[row.2.document]?).bind fun document =>
      (b.sources[record.source]?).map fun source =>
        ⟨row.1, row.2, record, document.status, source⟩

def joined (b : KnowledgeBase) : List IndexedChunk := b.chunkRows.filterMap b.join

end KnowledgeBase

/-- The conditions of the query. -/
def eligible (q : ResolvedSearch) (row : IndexedChunk) : Bool :=
  row.key.workspace = q.workspace && row.record.workspace = q.workspace &&
    row.status = .ready && row.record.isActive && row.source.isActive &&
    (q.sources = [] || row.source.id ∈ q.sources) &&
    (q.documents = [] || row.record.id ∈ q.documents)

/-- The distance of a vector to another one, the largest where it is not a number. -/
abbrev CosineDistance := List Rat → List Rat → WithTop Rat

section Query

variable (distance : CosineDistance) (q : ResolvedSearch)

/-- The order of the query. -/
def sortKey (row : IndexedChunk) : WithTop Rat ×ₗ List (Fin 16) ×ₗ Nat ×ₗ List (Fin 16) :=
  toLex (distance row.chunk.embedding q.vector,
    toLex (row.record.id.digits, toLex (row.chunk.draft.ordinal, row.key.id.digits)))

/-- The rows of the query. An index on the vectors may visit only some of the chunks. -/
def rankedChunks (b : KnowledgeBase) (visited : Uuid → Bool) : List IndexedChunk :=
  ((b.joined.filter fun row => eligible q row && visited row.key.id).insertionSort
    fun row other => sortKey distance q row ≤ sortKey distance q other).take q.topK

/-- `max(-1.0, min(1.0, 1.0 - distance))`, and `min` keeps `1.0` against what is not a number. -/
def scoreOf (row : IndexedChunk) : Rat :=
  match distance row.chunk.embedding q.vector with
  | WithTop.some away => max (-1) (min 1 (1 - away))
  | ⊤ => 1

def IndexedChunk.context (row : IndexedChunk) (rank : Nat) (score : Rat) : ScoredContext where
  chunkId := row.key.id
  documentId := row.record.id
  documentTitle := row.record.title
  sourceId := row.source.id
  sourceName := row.source.name
  rank := rank
  text := row.chunk.draft.text
  citation :=
    { pageStart := row.chunk.draft.pageStart
      pageEnd := row.chunk.draft.pageEnd
      startOffset := row.chunk.draft.startOffset
      endOffset := row.chunk.draft.endOffset
      chunkOrdinal := row.chunk.draft.ordinal }
  score := score

/-- The loop over the rows. -/
def collectContexts : List ScoredContext → List IndexedChunk → List ScoredContext
  | contexts, [] => contexts
  | contexts, row :: rest =>
    let score := scoreOf distance q row
    if q.minimumScore.any (score < ·) then collectContexts contexts rest
    else collectContexts (contexts ++ [row.context (contexts.length + 1) score]) rest

def searchContexts (b : KnowledgeBase) (visited : Uuid → Bool) : List ScoredContext :=
  collectContexts distance q [] (rankedChunks distance q b visited)

end Query

/-! ## Searches -/

/-- The checks of `search_knowledge`, with the query and the limit that it goes on with. -/
def checkRequest (cfg : SearchSettings) (r : SearchRequest) :
    Except SearchError (List Char × Nat) :=
  let normalizedQuery := stripText r.query
  let requestedTopK := r.topK.getD cfg.defaultTopK
  if normalizedQuery = [] ∨ cfg.maxQueryLength < normalizedQuery.length then
    .error (.invalidRetrievalQuery "The retrieval query is invalid.")
  else if ¬ (1 ≤ requestedTopK ∧ requestedTopK ≤ cfg.maxTopK) then
    .error (.invalidRetrievalQuery "top_k is outside the allowed range.")
  else if r.minimumScore.any fun minimumScore => ¬ (0 ≤ minimumScore ∧ minimumScore ≤ 1) then
    .error (.invalidRetrievalQuery "minimum_score must be between 0 and 1.")
  else .ok (normalizedQuery, requestedTopK.toNat)

/-- Everything before the query. `embedded` is what the provider returns, if it returns. -/
def resolveSearch (cfg : SearchSettings) (b : KnowledgeBase) (r : SearchRequest)
    (embedded : Option (List (Option Rat))) : Except SearchError ResolvedSearch := do
  let (query, topK) ← checkRequest cfg r
  let sources ← r.sourceIds.mapM (b.sourceGetForWorkspaceOr404 r.workspace)
  let documents ← r.documentIds.mapM (b.documentGetForWorkspaceOr404 r.workspace)
  match embedded with
  | none => throw .providerFailure
  | some vector =>
    match validateEmbeddings [vector] 1 cfg.embeddingDimension with
    | some [vector] =>
      return ⟨r.workspace, r.actor, query, topK, sources.map (·.id), documents.map (·.id), vector,
        r.minimumScore⟩
    | _ => throw .invalidEmbedding

inductive SearchPhase
  | requested
  | resolved (q : ResolvedSearch)
  | ranked (q : ResolvedSearch) (contexts : List ScoredContext)
  | returned (response : SearchResponse)
  | failed (error : SearchError)
  deriving DecidableEq

/-- A call of `search_knowledge`: its arguments, and where it is. -/
structure Search where
  request : SearchRequest
  phase : SearchPhase := .requested
  deriving DecidableEq

def retrievalEvent (cfg : SearchSettings) (q : ResolvedSearch) (event : Uuid)
    (contexts : List ScoredContext) : RetrievalEvent where
  id := event
  workspace := q.workspace
  actor := q.actor
  query := q.query
  embeddingProvider := cfg.embeddingProvider
  embeddingModel := cfg.embeddingModel
  topK := q.topK
  minimumScore := q.minimumScore
  resultCount := contexts.length

def retrievalHit (workspace event : Uuid) (context : ScoredContext) : RetrievalHit where
  event := event
  workspace := workspace
  chunk := context.chunkId
  rank := context.rank
  score := context.score
  citation := context.citation

namespace KnowledgeBase

/-- The transaction at the end of a search. -/
def recordSearch (b : KnowledgeBase) (cfg : SearchSettings) (q : ResolvedSearch) (event : Uuid)
    (contexts : List ScoredContext) : KnowledgeBase :=
  { b with events := b.events ++ [retrievalEvent cfg q event contexts]
           hits := b.hits ++ contexts.map (retrievalHit q.workspace event) }

/-- The chunks of the hits exist, and no two hits of the event have the same rank. -/
def acceptsHits (b : KnowledgeBase) (contexts : List ScoredContext) : Bool :=
  contexts.all (fun context => b.keys.any (·.id = context.chunkId)) &&
    (contexts.map (·.rank)).Nodup

/-- The view of a recorded search, for a member of the workspace. -/
def eventDetail (b : KnowledgeBase) (workspace event : Uuid) : Option SearchResponse :=
  (b.events.find? fun row => row.workspace = workspace && row.id = event).map fun row =>
    { eventId := row.id
      query := row.query
      results := ((b.hits.filter (·.event = row.id)).insertionSort
        fun hit other => hit.rank ≤ other.rank).filterMap fun hit =>
          (b.joined.find? (·.key.id = hit.chunk)).map fun row =>
            { row.context hit.rank hit.score with citation := hit.citation }
      sufficientContext := 0 < row.resultCount }

end KnowledgeBase

inductive SearchAction
  | resolve (embedded : Option (List (Option Rat)))
  | rank (visited : Uuid → Bool)
  | record (event : Uuid)

def searchStep (cfg : SearchSettings) (distance : CosineDistance) (a : SearchAction) (s : Search)
    (b : KnowledgeBase) : Option (Except DatabaseError (KnowledgeBase × Search)) :=
  match a, s.phase with
  | .resolve embedded, .requested =>
    match resolveSearch cfg b s.request embedded with
    | .ok q => some (.ok (b, { s with phase := .resolved q }))
    | .error error => some (.ok (b, { s with phase := .failed error }))
  | .rank visited, .resolved q =>
    some (.ok (b, { s with phase := .ranked q (searchContexts distance q b visited) }))
  | .record event, .ranked q contexts =>
    if event ∈ b.events.map (·.id) then none
    else if b.acceptsHits contexts then
      some (.ok (b.recordSearch cfg q event contexts,
        { s with phase := .returned ⟨event, q.query, contexts, !contexts.isEmpty⟩ }))
    else some (.error .integrityError)
  | _, _ => none

/-! ## Ingestions -/

namespace KnowledgeBase

/-- The rows of the chunks that a completion deletes. -/
def chunksOf (b : KnowledgeBase) (document : Nat) : List (ChunkKey × Chunk) :=
  b.chunkRows.filter (·.2.document = document)

/-- The last transaction of `run_ingestion` over all tables, where a hit protects its chunk. The
chunks that it stores get the given ids. -/
def completeIngestion (b : KnowledgeBase) (j : Nat) (ingested : Ingested) (ids : List Uuid) :
    Option (Except DatabaseError KnowledgeBase) :=
  (b.store.jobs[j]?).bind fun job =>
    (b.records[job.document]?).bind fun record =>
      (b.store.completeIngestion j ingested).bind fun store =>
        if job.status ≠ .processing then some (.ok { b with store })
        else if b.hits.any fun hit => (b.chunksOf job.document).any (·.1.id = hit.chunk) then
          some (.error .protectedError)
        else if ids.length = ingested.chunks.length ∧ (b.keys.map (·.id) ++ ids).Nodup then
          let kept := b.chunkRows.filter (·.2.document ≠ job.document)
          let stored := ids.map fun id => ({ id, workspace := record.workspace } : ChunkKey)
          some (.ok { b with store, keys := kept.map (·.1) ++ stored })
        else none

end KnowledgeBase

/-- A call of `ingest_knowledge_document` or of `search_knowledge`, or a call that an error of the
database has ended. -/
inductive Worker
  | ingestion (e : Execution)
  | search (s : Search)
  | raised (error : DatabaseError)
  deriving DecidableEq

inductive BaseAction
  | ingestion (a : IngestionAction)
  | complete (ids : List Uuid)
  | search (a : SearchAction)

inductive BaseEvent
  | createSource (workspace id : Uuid) (name : List Char)
  | updateSource (workspace : Uuid) (source : Nat) (read : KnowledgeSource)
    (name : Option (List Char)) (isActive : Option Bool)
  | upload (workspace id : Uuid) (source : Nat) (read : KnowledgeSource)
    (title originalFilename : List Char)
  | retry (document : Nat)
  | deliver (job : Nat)
  | search (request : SearchRequest)

def baseEnv : BaseEvent → KnowledgeBase → Option (KnowledgeBase × Option Worker)
  | .createSource workspace id name, b => (b.createSource workspace id name).map (·, none)
  | .updateSource workspace source read name isActive, b =>
    if b.readBefore source read then
      (b.updateSource workspace source read name isActive).map (·, none)
    else none
  | .upload workspace id source read title originalFilename, b =>
    if b.readBefore source read then
      (b.uploadDocument workspace id source read title originalFilename).map (·, none)
    else none
  | .retry document, b =>
    (b.store.retryDocument document).map fun store => ({ b with store }, none)
  | .deliver job, b => some (b, some (.ingestion { job }))
  | .search request, b => some (b, some (.search { request }))

def baseStep (cfg : Settings) (searching : SearchSettings) (distance : CosineDistance)
    (a : BaseAction) (w : Worker) (b : KnowledgeBase) : Option (KnowledgeBase × Worker) :=
  match a, w with
  | .ingestion .complete, .ingestion _ => none
  | .ingestion a, .ingestion e =>
    (ingestionStep cfg a e b.store).map fun out => ({ b with store := out.1 }, .ingestion out.2)
  | .complete ids, .ingestion e =>
    if e.phase = .computed then
      e.ingested.bind fun ingested =>
        (b.completeIngestion e.job ingested ids).map fun
          | .ok completed => (completed, .ingestion { e with phase := .returned })
          | .error error => (b, .raised error)
    else none
  | .search a, .search s =>
    (searchStep searching distance a s b).map fun
      | .ok (searched, s) => (searched, .search s)
      | .error error => (b, .raised error)
  | _, _ => none

/-- Ingestions and searches over empty tables. -/
def knowledgeBase (cfg : Settings) (searching : SearchSettings) (distance : CosineDistance) :
    Program BaseEvent BaseAction Worker KnowledgeBase where
  initial b := b = {}
  env := baseEnv
  work _ := baseStep cfg searching distance

abbrev Retrieval := Config Worker KnowledgeBase

abbrev RetrievalLabel := Label BaseEvent BaseAction

end SupportPilot.Knowledge
