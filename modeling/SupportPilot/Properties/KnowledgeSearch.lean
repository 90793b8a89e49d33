import SupportPilot.Knowledge.Retrieval
import SupportPilot.Library.Outcomes
import SupportPilot.Library.Pages
import SupportPilot.Properties.Ingestion

/-!
# Searches and their records

A document has chunks only after its job has succeeded, and no worker completes that job again, so
that no chunk is ever deleted. What a search has recorded can be read again in every later state.
-/

namespace SupportPilot.Knowledge

open Library

variable {cfg : Settings} {searching : SearchSettings} {distance : CosineDistance}
  {b b' : KnowledgeBase} {q : ResolvedSearch} {w w' : Worker}

/-! ## What a step does to the tables -/

theorem ingestionStep_moved {a : IngestionAction} {e e' : Execution} {s s' : Store}
    (ha : a ≠ .complete) (h : ingestionStep cfg a e s = some (s', e')) : Moved s s' := by
  unfold ingestionStep at h
  split at h
  · obtain ⟨⟨t, goes⟩, hclaim, hout⟩ := Option.map_eq_some_iff.mp h
    cases hout
    exact claimIngestion_moved hclaim
  · split at h <;> cases h <;> exact .same
  · exact absurd rfl ha
  · obtain ⟨t, ht, hout⟩ := Option.map_eq_some_iff.mp h
    cases hout
    exact markFailed_moved ht
  · obtain ⟨t, ht, hout⟩ := Option.map_eq_some_iff.mp h
    cases hout
    exact markRetryableFailure_moved ht
  · obtain ⟨job, -, hout⟩ := Option.map_eq_some_iff.mp h
    cases hout
    exact .same
  · obtain ⟨t, ht, hout⟩ := Option.map_eq_some_iff.mp h
    cases hout
    exact markFailed_moved ht
  · cases h

/-- One step changes one kind of rows. -/
inductive Altered (b : KnowledgeBase) : KnowledgeBase → Prop
  | moved {store : Store} : Moved b.store store → Altered b { b with store }
  | completed {j : Nat} {job : IngestionJob} {record : DocumentRecord} {ingested : Ingested}
      {ids : List Uuid} : b.store.jobs[j]? = some job → job.status = .processing →
      b.records[job.document]? = some record → ids.length = ingested.chunks.length →
      (b.keys.map (·.id) ++ ids).Nodup →
      Altered b { b with
        store := b.store.completed j job.document ingested
        keys := (b.chunkRows.filter (·.2.document ≠ job.document)).map (·.1) ++
          ids.map fun id => ({ id, workspace := record.workspace } : ChunkKey) }
  | sourceCreated {source : KnowledgeSource} :
      Altered b { b with sources := b.sources ++ [source] }
  | sourceSaved {k : Nat} {source saved : KnowledgeSource} : b.sources[k]? = some source →
      saved.id = source.id → saved.workspace = source.workspace →
      Altered b { b with sources := b.sources.set k saved }
  | uploaded {record : DocumentRecord} {source : KnowledgeSource} :
      b.sources[record.source]? = some source → source.workspace = record.workspace →
      Altered b { b with store := b.store.uploadDocument, records := b.records ++ [record] }
  | recorded {used : SearchSettings} {q : ResolvedSearch} {event : Uuid}
      {contexts : List ScoredContext} : event ∉ b.events.map (·.id) →
      Altered b (b.recordSearch used q event contexts)

theorem readBefore_row {k : Nat} {read : KnowledgeSource} (h : b.readBefore k read = true) :
    ∃ source, b.sources[k]? = some source ∧ source.id = read.id ∧
      source.workspace = read.workspace := by
  obtain ⟨source, hsource, hsame⟩ := (Option.any_eq_true _ _).mp h
  rw [Bool.and_eq_true, decide_eq_true_eq, decide_eq_true_eq] at hsame
  exact ⟨source, hsource, hsame⟩

theorem baseEnv_altered {event : BaseEvent} {started : Option Worker} (hb : Mirrored b.store)
    (h : baseEnv event b = some (b', started)) : Altered b b' := by
  cases event with
  | createSource workspace id name =>
    obtain ⟨created, hcreated, hout⟩ := Option.map_eq_some_iff.mp h
    cases hout
    unfold KnowledgeBase.createSource at hcreated
    split at hcreated
    · cases hcreated
    · cases hcreated
      exact .sourceCreated
  | updateSource workspace k read name isActive =>
    simp only [baseEnv] at h
    split at h
    · rename_i hread
      obtain ⟨source, hsource, hid, hworkspace⟩ := readBefore_row hread
      obtain ⟨updated, hupdated, hout⟩ := Option.map_eq_some_iff.mp h
      cases hout
      unfold KnowledgeBase.updateSource at hupdated
      simp only at hupdated
      split at hupdated
      · cases hupdated
      · cases hupdated
        exact .sourceSaved hsource hid.symm hworkspace.symm
    · cases h
  | upload workspace id k read title originalFilename =>
    simp only [baseEnv] at h
    split at h
    · rename_i hread
      obtain ⟨source, hsource, hid, hworkspace⟩ := readBefore_row hread
      obtain ⟨uploaded, huploaded, hout⟩ := Option.map_eq_some_iff.mp h
      cases hout
      unfold KnowledgeBase.uploadDocument at huploaded
      split at huploaded
      · cases huploaded
      · rename_i hopen
        rw [not_or, not_not] at hopen
        cases huploaded
        exact .uploaded hsource (hworkspace.trans hopen.1)
    · cases h
  | retry document =>
    obtain ⟨store, hstore, hout⟩ := Option.map_eq_some_iff.mp h
    cases hout
    exact .moved (retryDocument_moved hb hstore)
  | deliver job =>
    cases h
    exact .moved .same
  | search request =>
    cases h
    exact .moved .same

/-- What a completion does over all tables. -/
theorem completeIngestion_altered {j : Nat} {ingested : Ingested} {ids : List Uuid}
    (h : b.completeIngestion j ingested ids = some (.ok b')) :
    Altered b b' := by
  obtain ⟨job, hjob, h⟩ := Option.bind_eq_some_iff.mp h
  obtain ⟨record, hrecord, h⟩ := Option.bind_eq_some_iff.mp h
  obtain ⟨store, hstore, h⟩ := Option.bind_eq_some_iff.mp h
  unfold Store.completeIngestion at hstore
  rw [hjob, Option.map_some, Option.some.injEq] at hstore
  split at h
  · rename_i hopen
    cases h
    rw [if_pos hopen] at hstore
    subst hstore
    exact .moved .same
  · rename_i hprocessing
    rw [if_neg hprocessing] at hstore
    subst hstore
    split at h
    · cases h
    · split at h
      · rename_i hids
        cases h
        exact .completed hjob (not_not.mp hprocessing) hrecord hids.1 hids.2
      · cases h

theorem searchStep_altered {a : SearchAction} {s s' : Search}
    (h : searchStep searching distance a s b = some (.ok (b', s'))) :
    Altered b b' := by
  unfold searchStep at h
  split at h
  · split at h
    · cases h
      exact .moved .same
    · cases h
      exact .moved .same
  · cases h
    exact .moved .same
  · split at h
    · cases h
    · rename_i hfresh
      split at h
      · cases h
        exact .recorded hfresh
      · cases h
  · cases h

theorem baseStep_altered {a : BaseAction}
    (h : baseStep cfg searching distance a w b = some (b', w')) :
    Altered b b' := by
  unfold baseStep at h
  split at h
  · cases h
  · rename_i a e hne
    obtain ⟨out, hout, heq⟩ := Option.map_eq_some_iff.mp h
    cases heq
    exact .moved (ingestionStep_moved hne hout)
  · split at h
    · obtain ⟨ingested, -, h⟩ := Option.bind_eq_some_iff.mp h
      obtain ⟨out, hout, heq⟩ := Option.map_eq_some_iff.mp h
      cases out with
      | ok completed =>
        cases heq
        exact completeIngestion_altered hout
      | error error =>
        cases heq
        exact .moved .same
    · cases h
  · obtain ⟨out, hout, heq⟩ := Option.map_eq_some_iff.mp h
    cases out with
    | ok searched =>
      cases heq
      exact searchStep_altered hout
    | error error =>
      cases heq
      exact .moved .same
  · cases h

/-! ## The tables of a run -/

/-- The chunks are those of jobs that have succeeded, and every row refers to rows that exist. -/
structure Sound (b : KnowledgeBase) : Prop where
  mirrored : Mirrored b.store
  records : b.records.length = b.store.documents.length
  keys : b.keys.length = b.store.chunks.length
  distinct : (b.keys.map (·.id)).Nodup
  ingested : ∀ chunk ∈ b.store.chunks, ∃ job, b.store.jobs[chunk.document]? = some job ∧
    job.status = .succeeded
  sourced : ∀ record ∈ b.records, ∃ source, b.sources[record.source]? = some source ∧
    source.workspace = record.workspace
  events : (b.events.map (·.id)).Nodup
  hits : ∀ hit ∈ b.hits, hit.event ∈ b.events.map (·.id)

/-- A job in process has no chunks yet. -/
theorem Sound.unprocessed (hb : Sound b) {j : Nat} {job : IngestionJob}
    (hjob : b.store.jobs[j]? = some job) (hprocessing : job.status = .processing) :
    ∀ chunk ∈ b.store.chunks, chunk.document ≠ job.document := by
  intro chunk hchunk heq
  obtain ⟨other, hother, hsucceeded⟩ := hb.ingested chunk hchunk
  rw [heq, (hb.mirrored.pair j job hjob).1, hjob] at hother
  cases hother
  rw [hsucceeded] at hprocessing
  cases hprocessing

theorem mem_chunkRows_chunk {row : ChunkKey × Chunk} (h : row ∈ b.chunkRows) :
    row.2 ∈ b.store.chunks := (List.of_mem_zip h).2

theorem mem_chunkRows_key {row : ChunkKey × Chunk} (h : row ∈ b.chunkRows) : row.1 ∈ b.keys :=
  (List.of_mem_zip h).1

/-- A completion deletes nothing. -/
theorem Sound.completed_keys (hb : Sound b) {j : Nat} {job : IngestionJob}
    (hjob : b.store.jobs[j]? = some job) (hprocessing : job.status = .processing) :
    (b.chunkRows.filter (·.2.document ≠ job.document)).map (·.1) = b.keys := by
  have hkept : b.chunkRows.filter (·.2.document ≠ job.document) = b.chunkRows := by
    refine List.filter_eq_self.mpr fun row hrow => decide_eq_true ?_
    exact hb.unprocessed hjob hprocessing row.2 (mem_chunkRows_chunk hrow)
  rw [hkept]
  exact List.map_fst_zip (Nat.le_of_eq hb.keys)

theorem Sound.completed_chunks (hb : Sound b) {j : Nat} {job : IngestionJob}
    {ingested : Ingested} (hjob : b.store.jobs[j]? = some job)
    (hprocessing : job.status = .processing) :
    (b.store.completed j job.document ingested).chunks = b.store.chunks ++
      ingested.chunks.map fun chunk => ⟨job.document, chunk.1, chunk.2⟩ := by
  have hkept : b.store.chunks.filter (·.document ≠ job.document) = b.store.chunks := by
    refine List.filter_eq_self.mpr fun chunk hchunk => decide_eq_true ?_
    exact hb.unprocessed hjob hprocessing chunk hchunk
  unfold Store.completed
  rw [hkept]

theorem Sound.empty : Sound {} where
  mirrored := ⟨rfl, fun _ _ hjob => by cases hjob⟩
  records := rfl
  keys := rfl
  distinct := .nil
  ingested := nofun
  sourced := nofun
  events := .nil
  hits := nofun

theorem Moved.length (h : Moved s s') : s'.documents.length = s.documents.length := by
  cases h with
  | same => rfl
  | moved => exact List.length_modify ..

theorem Sound.moved (hb : Sound b) {store : Store} (h : Moved b.store store) :
    Sound { b with store } where
  mirrored := h.mirrored hb.mirrored
  records := hb.records.trans h.length.symm
  keys := hb.keys.trans (congrArg List.length h.chunks).symm
  distinct := hb.distinct
  ingested := by
    intro chunk hchunk
    obtain ⟨job, hjob, hsucceeded⟩ := hb.ingested chunk (h.chunks ▸ hchunk)
    exact ⟨job, h.succeeded hjob hsucceeded, hsucceeded⟩
  sourced := hb.sourced
  events := hb.events
  hits := hb.hits

theorem Sound.completed (hb : Sound b) {j : Nat} {job : IngestionJob} {record : DocumentRecord}
    {ingested : Ingested} {ids : List Uuid} (hjob : b.store.jobs[j]? = some job)
    (hprocessing : job.status = .processing) (hlength : ids.length = ingested.chunks.length)
    (hids : (b.keys.map (·.id) ++ ids).Nodup) :
    Sound { b with
      store := b.store.completed j job.document ingested
      keys := b.keys ++ ids.map fun id => ({ id, workspace := record.workspace } : ChunkKey) } where
  mirrored := hb.mirrored.completed hjob
  records := hb.records.trans (List.length_modify ..).symm
  keys := by
    show (b.keys ++ ids.map _).length = (b.store.completed j job.document ingested).chunks.length
    rw [hb.completed_chunks hjob hprocessing, List.length_append, List.length_append,
      List.length_map, List.length_map, hb.keys, hlength]
  distinct := by
    rw [List.map_append, List.map_map]
    exact (List.map_id ids).symm ▸ hids
  ingested := by
    intro chunk hchunk
    have hpair := (hb.mirrored.pair j job hjob).1
    have hmem : chunk ∈ (b.store.completed j job.document ingested).chunks := hchunk
    rw [hb.completed_chunks hjob hprocessing] at hmem
    rcases List.mem_append.mp hmem with hold | hnew
    · obtain ⟨other, hother, hsucceeded⟩ := hb.ingested chunk hold
      have hne := hb.unprocessed hjob hprocessing chunk hold
      rw [hpair] at hne
      refine ⟨other, ?_, hsucceeded⟩
      show (b.store.jobs.modify j _)[chunk.document]? = some other
      rw [List.getElem?_modify_ne _ _ (Ne.symm hne)]
      exact hother
    · obtain ⟨draft, -, rfl⟩ := List.mem_map.mp hnew
      refine ⟨{ job with status := .succeeded, errorCode := "" }, ?_, rfl⟩
      show (b.store.jobs.modify j _)[job.document]? = some _
      rw [congrArg (_[·]?) hpair, List.getElem?_modify_eq, hjob]
      rfl
  sourced := hb.sourced
  events := hb.events
  hits := hb.hits

theorem Sound.uploaded (hb : Sound b) {record : DocumentRecord} {source : KnowledgeSource}
    (hsource : b.sources[record.source]? = some source)
    (hworkspace : source.workspace = record.workspace) :
    Sound { b with store := b.store.uploadDocument, records := b.records ++ [record] } where
  mirrored := hb.mirrored.upload
  records := by
    show (b.records ++ [record]).length = (b.store.documents ++ [_]).length
    rw [List.length_append, List.length_append, hb.records]
    rfl
  keys := hb.keys
  distinct := hb.distinct
  ingested := by
    intro chunk hchunk
    obtain ⟨job, hjob, hsucceeded⟩ := hb.ingested chunk hchunk
    exact ⟨job, getElem?_append_some hjob _, hsucceeded⟩
  sourced := by
    intro other hother
    rcases List.mem_append.mp hother with hold | hnew
    · exact hb.sourced other hold
    · cases List.mem_singleton.mp hnew
      exact ⟨source, hsource, hworkspace⟩
  events := hb.events
  hits := hb.hits

theorem Sound.recorded (hb : Sound b) {event : Uuid} {contexts : List ScoredContext}
    (hfresh : event ∉ b.events.map (·.id)) :
    Sound (b.recordSearch searching q event contexts) where
  mirrored := hb.mirrored
  records := hb.records
  keys := hb.keys
  distinct := hb.distinct
  ingested := hb.ingested
  sourced := hb.sourced
  events := by
    show ((b.events ++ [retrievalEvent searching q event contexts]).map (·.id)).Nodup
    rw [List.map_append, List.nodup_append]
    refine ⟨hb.events, List.nodup_singleton _, fun id hid other hother heq => ?_⟩
    have hevent : id = event := heq.trans (List.mem_singleton.mp hother)
    exact hfresh (hevent ▸ hid)
  hits := by
    intro hit hhit
    show hit.event ∈ (b.events ++ [retrievalEvent searching q event contexts]).map (·.id)
    rw [List.map_append, List.mem_append]
    rcases List.mem_append.mp hhit with hold | hnew
    · exact .inl (hb.hits hit hold)
    · obtain ⟨context, -, rfl⟩ := List.mem_map.mp hnew
      exact .inr (List.mem_singleton.mpr rfl)

/-- A saved source keeps its id and its workspace. -/
def SameSource (source saved : KnowledgeSource) : Prop :=
  saved.id = source.id ∧ saved.workspace = source.workspace

theorem SameSource.refl (source : KnowledgeSource) : SameSource source source := ⟨rfl, rfl⟩

/-- Sources may be added, and saved. -/
theorem Sound.changed (hb : Sound b) {sources : List KnowledgeSource}
    (h : Rows SameSource b.sources sources) : Sound { b with sources } where
  mirrored := hb.mirrored
  records := hb.records
  keys := hb.keys
  distinct := hb.distinct
  ingested := hb.ingested
  sourced := by
    intro record hrecord
    obtain ⟨source, hsource, hworkspace⟩ := hb.sourced record hrecord
    obtain ⟨saved, hsaved, -, hsame⟩ := h _ source hsource
    exact ⟨saved, hsaved, hsame.trans hworkspace⟩
  events := hb.events
  hits := hb.hits

theorem Sound.altered (hb : Sound b) (h : Altered b b') : Sound b' := by
  cases h with
  | moved hmoved => exact hb.moved hmoved
  | completed hjob hprocessing hrecord hlength hids =>
    rw [hb.completed_keys hjob hprocessing]
    exact hb.completed hjob hprocessing hlength hids
  | sourceCreated => exact hb.changed (.append SameSource.refl _ _)
  | sourceSaved hsource hid hworkspace =>
    exact hb.changed (.set SameSource.refl hsource ⟨hid, hworkspace⟩)
  | uploaded hsource hworkspace => exact hb.uploaded hsource hworkspace
  | recorded hfresh => exact hb.recorded hfresh

/-! ## What later tables keep -/

/-- Rows are added at the ends of the tables, and only sources are saved again. -/
structure Extends (b b' : KnowledgeBase) : Prop where
  keys : b.keys <+: b'.keys
  chunks : b.store.chunks <+: b'.store.chunks
  records : b.records <+: b'.records
  sources : Rows SameSource b.sources b'.sources
  events : b.events <+: b'.events
  hits : ∀ event ∈ b.events.map (·.id),
    b'.hits.filter (·.event = event) = b.hits.filter (·.event = event)

theorem Extends.refl (b : KnowledgeBase) : Extends b b :=
  ⟨List.prefix_rfl, List.prefix_rfl, List.prefix_rfl, .refl SameSource.refl _, List.prefix_rfl,
    fun _ _ => rfl⟩

theorem Sound.extends (hb : Sound b) (h : Altered b b') : Extends b b' := by
  have hsame := Extends.refl b
  cases h with
  | moved hmoved => exact { hsame with chunks := hmoved.chunks ▸ List.prefix_rfl }
  | completed hjob hprocessing =>
    rw [hb.completed_keys hjob hprocessing]
    refine { hsame with keys := List.prefix_append _ _, chunks := ?_ }
    show b.store.chunks <+: (b.store.completed _ _ _).chunks
    rw [hb.completed_chunks hjob hprocessing]
    exact List.prefix_append _ _
  | sourceCreated => exact { hsame with sources := .append SameSource.refl _ _ }
  | sourceSaved hsource hid hworkspace =>
    exact { hsame with sources := .set SameSource.refl hsource ⟨hid, hworkspace⟩ }
  | uploaded => exact { hsame with records := List.prefix_append _ _ }
  | @recorded used q event contexts hfresh =>
    refine { hsame with events := List.prefix_append _ _, hits := fun other hother => ?_ }
    show (b.hits ++ contexts.map (retrievalHit q.workspace event)).filter _ = _
    rw [List.filter_append, List.append_right_eq_self, List.filter_eq_nil_iff]
    intro hit hhit heq
    obtain ⟨context, -, rfl⟩ := List.mem_map.mp hhit
    have hsame : event = other := of_decide_eq_true heq
    exact hfresh (hsame ▸ hother)

theorem mem_joined {row : IndexedChunk} :
    row ∈ b.joined ↔ (row.key, row.chunk) ∈ b.chunkRows ∧
      b.records[row.chunk.document]? = some row.record ∧
      (∃ document, b.store.documents[row.chunk.document]? = some document ∧
        document.status = row.status) ∧
      b.sources[row.record.source]? = some row.source := by
  unfold KnowledgeBase.joined
  rw [List.mem_filterMap]
  constructor
  · rintro ⟨⟨key, chunk⟩, hmem, hjoin⟩
    obtain ⟨record, hrecord, hjoin⟩ := Option.bind_eq_some_iff.mp hjoin
    obtain ⟨document, hdocument, hjoin⟩ := Option.bind_eq_some_iff.mp hjoin
    obtain ⟨source, hsource, rfl⟩ := Option.map_eq_some_iff.mp hjoin
    exact ⟨hmem, hrecord, ⟨document, hdocument, rfl⟩, hsource⟩
  · rintro ⟨hmem, hrecord, ⟨document, hdocument, hstatus⟩, hsource⟩
    refine ⟨(row.key, row.chunk), hmem, ?_⟩
    show (b.records[row.chunk.document]?).bind _ = _
    rw [hrecord, Option.bind_some, hdocument, Option.bind_some, hsource, Option.map_some, hstatus]

/-- The same chunk of the same document, from the same source. -/
def SameChunk (row row' : IndexedChunk) : Prop :=
  row'.key = row.key ∧ row'.chunk = row.chunk ∧ row'.record = row.record ∧
    SameSource row.source row'.source

theorem Extends.chunkRows (h : Extends b b') (hb : Sound b) {row : ChunkKey × Chunk}
    (hrow : row ∈ b.chunkRows) : row ∈ b'.chunkRows := by
  obtain ⟨keys, hkeys⟩ := h.keys
  obtain ⟨chunks, hchunks⟩ := h.chunks
  unfold KnowledgeBase.chunkRows at hrow ⊢
  rw [← hkeys, ← hchunks, List.zip_append hb.keys]
  exact List.mem_append_left _ hrow

theorem prefix_getElem? {α : Type} {l l' : List α} (h : l <+: l') {i : Nat} {a : α}
    (ha : l[i]? = some a) : l'[i]? = some a := by
  obtain ⟨rest, rfl⟩ := h
  exact getElem?_append_some ha rest

theorem Extends.joined (h : Extends b b') (hb : Sound b) (hb' : Sound b') {row : IndexedChunk}
    (hrow : row ∈ b.joined) : ∃ row' ∈ b'.joined, SameChunk row row' := by
  obtain ⟨hmem, hrecord, -, hsource⟩ := mem_joined.mp hrow
  have hrecord' := prefix_getElem? h.records hrecord
  obtain ⟨source, hsource', hsame⟩ := h.sources _ _ hsource
  have hlt : row.chunk.document < b'.store.documents.length :=
    hb'.records ▸ (List.getElem?_eq_some_iff.mp hrecord').1
  have hdocument := List.getElem?_eq_getElem hlt
  exact ⟨⟨row.key, row.chunk, row.record, _, source⟩,
    mem_joined.mpr ⟨h.chunkRows hb hmem, hrecord', ⟨_, hdocument, rfl⟩, hsource'⟩,
    rfl, rfl, rfl, hsame⟩

theorem map_filterMap_sublist {α β γ : Type} {f : α → Option β} {g : β → γ} {k : α → γ}
    (hf : ∀ a b, f a = some b → g b = k a) (l : List α) :
    ((l.filterMap f).map g).Sublist (l.map k) := by
  induction l with
  | nil => exact .slnil
  | cons a l ih =>
    cases ha : f a with
    | none =>
      rw [List.filterMap_cons_none ha, List.map_cons]
      exact ih.cons _
    | some b =>
      rw [List.filterMap_cons_some ha, List.map_cons, List.map_cons, hf a b ha]
      exact ih.cons_cons _

theorem Sound.joined_ids (hb : Sound b) : (b.joined.map (·.key.id)).Nodup := by
  have hsub : (b.joined.map (·.key.id)).Sublist (b.chunkRows.map (·.1.id)) := by
    refine map_filterMap_sublist ?_ _
    intro row joined hjoin
    obtain ⟨record, -, hjoin⟩ := Option.bind_eq_some_iff.mp hjoin
    obtain ⟨document, -, hjoin⟩ := Option.bind_eq_some_iff.mp hjoin
    obtain ⟨source, -, rfl⟩ := Option.map_eq_some_iff.mp hjoin
    rfl
  have hkeys : b.chunkRows.map (·.1.id) = b.keys.map (·.id) := by
    have hfst := congrArg (List.map ChunkKey.id) (List.map_fst_zip (Nat.le_of_eq hb.keys))
    rwa [List.map_map] at hfst
  exact (hkeys ▸ hb.distinct).sublist hsub

theorem find?_of_nodup {α β : Type} [DecidableEq β] (key : α → β) {l : List α}
    (h : (l.map key).Nodup) {a : α} (ha : a ∈ l) : l.find? (key · = key a) = some a := by
  cases hfind : l.find? (key · = key a) with
  | none =>
    have hnot := List.find?_eq_none.mp hfind a ha
    exact absurd (decide_eq_true rfl) hnot
  | some c =>
    have hsame : key c = key a :=
      of_decide_eq_true (List.find?_some (p := fun x => decide (key x = key a)) hfind)
    rw [List.inj_on_of_nodup_map h (List.mem_of_find?_eq_some hfind) ha hsame]

/-! ## What the query finds -/

/-- The first row comes before the second one in the order of the query. -/
def Nearer (distance : CosineDistance) (q : ResolvedSearch) (row other : IndexedChunk) : Prop :=
  sortKey distance q row < sortKey distance q other

instance (distance : CosineDistance) (q : ResolvedSearch) : DecidableRel (Nearer distance q) :=
  fun row other => inferInstanceAs (Decidable (sortKey distance q row < sortKey distance q other))

/-- The chunks that a query reads, of those that it visits. -/
def candidates (q : ResolvedSearch) (b : KnowledgeBase) (visited : Uuid → Bool) :
    List IndexedChunk :=
  b.joined.filter fun row => eligible q row && visited row.key.id

theorem sortKey_injective {row other : IndexedChunk}
    (h : sortKey distance q row = sortKey distance q other) : row.key.id = other.key.id := by
  have hdigits : row.key.id.digits = other.key.id.digits :=
    congrArg (fun key => (ofLex (ofLex (ofLex key).2).2).2) h
  cases hrow : row.key.id
  cases hother : other.key.id
  rw [hrow, hother] at hdigits
  cases hdigits
  rfl

/-- The query as a list in strict order. -/
theorem Sound.candidates_sorted (hb : Sound b) (distance : CosineDistance) (q : ResolvedSearch)
    (visited : Uuid → Bool) :
    ((candidates q b visited).insertionSort fun row other =>
      sortKey distance q row ≤ sortKey distance q other).Pairwise (Nearer distance q) := by
  have htotal : Std.Total fun row other : IndexedChunk =>
      sortKey distance q row ≤ sortKey distance q other := ⟨fun _ _ => le_total _ _⟩
  have htrans : IsTrans IndexedChunk fun row other =>
      sortKey distance q row ≤ sortKey distance q other := ⟨fun _ _ _ => le_trans⟩
  have hsorted := List.pairwise_insertionSort (fun row other : IndexedChunk =>
    sortKey distance q row ≤ sortKey distance q other) (candidates q b visited)
  have hids : ((candidates q b visited).map (·.key.id)).Nodup :=
    hb.joined_ids.sublist (List.filter_sublist.map _)
  have hperm := List.perm_insertionSort (fun row other : IndexedChunk =>
    sortKey distance q row ≤ sortKey distance q other) (candidates q b visited)
  have hdistinct := (hperm.map (·.key.id)).nodup_iff.mpr hids
  refine (hsorted.and (List.pairwise_map.mp hdistinct)).imp ?_
  rintro row other ⟨hle, hne⟩
  exact lt_of_le_of_ne hle fun heq => hne (sortKey_injective heq)

theorem Sound.mem_rankedChunks (hb : Sound b) {visited : Uuid → Bool} {row : IndexedChunk} :
    row ∈ rankedChunks distance q b visited ↔ row ∈ candidates q b visited ∧
      (candidates q b visited).countP (Nearer distance q · row) < q.topK := by
  have hperm := List.perm_insertionSort (fun row other : IndexedChunk =>
    sortKey distance q row ≤ sortKey distance q other) (candidates q b visited)
  have hasymm : ∀ row other, Nearer distance q row other → ¬ Nearer distance q other row :=
    fun _ _ => lt_asymm
  have htake := mem_take_of_pairwise hasymm (hb.candidates_sorted distance q visited)
    (n := q.topK) (x := row)
  rw [hperm.mem_iff, hperm.countP_eq] at htake
  exact htake

/-- The loop keeps a row that reaches the minimum score. -/
def reachesMinimum (distance : CosineDistance) (q : ResolvedSearch) (row : IndexedChunk) : Bool :=
  !q.minimumScore.any (scoreOf distance q row < ·)

theorem reachesMinimum_iff {row : IndexedChunk} : reachesMinimum distance q row = true ↔
    ∀ minimumScore ∈ q.minimumScore, minimumScore ≤ scoreOf distance q row := by
  unfold reachesMinimum
  cases q.minimumScore with
  | none => simp
  | some minimumScore => simp

/-- The contexts of rows, numbered from a rank on. -/
def numbered (distance : CosineDistance) (q : ResolvedSearch) (rank : Nat)
    (rows : List IndexedChunk) : List ScoredContext :=
  (rows.zipIdx rank).map fun row => row.1.context row.2 (scoreOf distance q row.1)

theorem collectContexts_eq (contexts : List ScoredContext) (rows : List IndexedChunk) :
    collectContexts distance q contexts rows = contexts ++
      numbered distance q (contexts.length + 1) (rows.filter (reachesMinimum distance q)) := by
  induction rows generalizing contexts with
  | nil => simp [collectContexts, numbered]
  | cons row rest ih =>
    rw [collectContexts]
    by_cases hkeep : reachesMinimum distance q row = true
    · have hscore : q.minimumScore.any (scoreOf distance q row < ·) = false := by
        simpa [reachesMinimum] using hkeep
      rw [List.filter_cons_of_pos hkeep]
      simp only [hscore, Bool.false_eq_true, if_false]
      rw [ih, List.length_append, List.append_assoc]
      rfl
    · have hscore : q.minimumScore.any (scoreOf distance q row < ·) = true := by
        simpa [reachesMinimum] using hkeep
      rw [List.filter_cons_of_neg hkeep]
      simp only [hscore, if_true]
      exact ih contexts

theorem searchContexts_eq (visited : Uuid → Bool) : searchContexts distance q b visited =
    numbered distance q 1
      ((rankedChunks distance q b visited).filter (reachesMinimum distance q)) :=
  collectContexts_eq [] _

theorem numbered_ranks (rank : Nat) (rows : List IndexedChunk) :
    (numbered distance q rank rows).map (·.rank) = List.range' rank rows.length := by
  unfold numbered
  rw [List.map_map]
  exact List.zipIdx_map_snd rank rows

theorem mem_numbered {rank : Nat} {rows : List IndexedChunk} {context : ScoredContext}
    (h : context ∈ numbered distance q rank rows) :
    ∃ row ∈ rows, context = row.context context.rank (scoreOf distance q row) := by
  obtain ⟨⟨row, k⟩, hmem, rfl⟩ := List.mem_map.mp h
  exact ⟨row, List.fst_mem_of_mem_zipIdx hmem, rfl⟩

/-- A row that comes later has no higher score, unless its distance is not a number. -/
theorem score_le_of_nearer {row other : IndexedChunk} (h : Nearer distance q row other) :
    scoreOf distance q other ≤ scoreOf distance q row ∨
      distance other.chunk.embedding q.vector = ⊤ := by
  have haway : distance row.chunk.embedding q.vector ≤
      distance other.chunk.embedding q.vector := Prod.Lex.monotone_fst _ _ h.le
  unfold scoreOf
  cases hother : distance other.chunk.embedding q.vector with
  | top => exact .inr rfl
  | coe away =>
    left
    cases hrow : distance row.chunk.embedding q.vector with
    | top => exact max_le (by decide) (min_le_left _ _)
    | coe nearer =>
      rw [hrow, hother] at haway
      have hle : nearer ≤ away := WithTop.coe_le_coe.mp haway
      exact max_le_max_left _ (min_le_min_left _ (sub_le_sub_left hle _))

theorem length_searchContexts_le (visited : Uuid → Bool) :
    (searchContexts distance q b visited).length ≤ q.topK := by
  rw [searchContexts_eq, numbered, List.length_map, List.length_zipIdx]
  exact (List.length_filter_le _ _).trans (List.length_take_le _ _)

/-! ## Searches and what they have found -/

/-- A context shows a chunk of the workspace, under a name that its source has or had. -/
def Shows (workspace : Uuid) (row : IndexedChunk) (context : ScoredContext) : Prop :=
  row.record.workspace = workspace ∧ row.source.workspace = workspace ∧
    context = { row.context context.rank context.score with sourceName := context.sourceName }

theorem Shows.same {workspace : Uuid} {row row' : IndexedChunk} {context : ScoredContext}
    (h : Shows workspace row context) (hsame : SameChunk row row') :
    Shows workspace row' context := by
  obtain ⟨hrecord, hsource, hcontext⟩ := h
  obtain ⟨hkey, hchunk, hdocument, hid, hworkspace⟩ := hsame
  refine ⟨hdocument ▸ hrecord, hworkspace.trans hsource, hcontext.trans ?_⟩
  unfold IndexedChunk.context
  rw [hkey, hchunk, hdocument, hid]

/-- The contexts of a search are ranked from one on, and their chunks are stored. -/
structure Found (b : KnowledgeBase) (workspace : Uuid) (contexts : List ScoredContext) :
    Prop where
  ranks : contexts.map (·.rank) = List.range' 1 contexts.length
  shown : ∀ context ∈ contexts, ∃ row ∈ b.joined, Shows workspace row context

theorem Found.extends {workspace : Uuid} {contexts : List ScoredContext}
    (hfound : Found b workspace contexts) (hb : Sound b) (hb' : Sound b') (h : Extends b b') :
    Found b' workspace contexts where
  ranks := hfound.ranks
  shown := by
    intro context hcontext
    obtain ⟨row, hrow, hshows⟩ := hfound.shown context hcontext
    obtain ⟨row', hrow', hsame⟩ := h.joined hb hb' hrow
    exact ⟨row', hrow', hshows.same hsame⟩

theorem mem_candidates {visited : Uuid → Bool} {row : IndexedChunk} :
    row ∈ candidates q b visited ↔
      row ∈ b.joined ∧ eligible q row = true ∧ visited row.key.id = true := by
  rw [candidates, List.mem_filter, Bool.and_eq_true]

/-- Everything about a row that is read is of the workspace of the query. -/
theorem Sound.workspaces (hb : Sound b) {row : IndexedChunk} (hrow : row ∈ b.joined)
    (heligible : eligible q row = true) :
    row.record.workspace = q.workspace ∧ row.source.workspace = q.workspace := by
  obtain ⟨-, hrecord, -, hsource⟩ := mem_joined.mp hrow
  obtain ⟨source, hsource', hworkspace⟩ :=
    hb.sourced row.record (List.mem_of_getElem? hrecord)
  rw [hsource] at hsource'
  cases hsource'
  simp only [eligible, Bool.and_eq_true, decide_eq_true_eq] at heligible
  have hown : row.record.workspace = q.workspace := heligible.1.1.1.1.1.2
  exact ⟨hown, hworkspace.trans hown⟩

theorem Sound.found (hb : Sound b) (visited : Uuid → Bool) :
    Found b q.workspace (searchContexts distance q b visited) where
  ranks := by
    rw [searchContexts_eq, numbered_ranks, numbered, List.length_map, List.length_zipIdx]
  shown := by
    rw [searchContexts_eq]
    intro context hcontext
    obtain ⟨row, hmem, heq⟩ := mem_numbered hcontext
    have hcandidate := (hb.mem_rankedChunks.mp (List.mem_filter.mp hmem).1).1
    obtain ⟨hrow, heligible, -⟩ := mem_candidates.mp hcandidate
    obtain ⟨hrecord, hsource⟩ := hb.workspaces hrow heligible
    refine ⟨row, hrow, hrecord, hsource, ?_⟩
    rw [heq]
    rfl

/-- The record of a response. -/
structure Archived (b : KnowledgeBase) (workspace : Uuid) (response : SearchResponse) : Prop where
  event : ∃ row ∈ b.events, row.id = response.eventId ∧ row.workspace = workspace ∧
    row.query = response.query ∧ row.resultCount = response.results.length
  hits : b.hits.filter (·.event = response.eventId) =
    response.results.map (retrievalHit workspace response.eventId)
  sufficient : response.sufficientContext = !response.results.isEmpty

theorem Archived.extends {workspace : Uuid} {response : SearchResponse}
    (harchived : Archived b workspace response) (h : Extends b b') :
    Archived b' workspace response := by
  obtain ⟨row, hrow, hid, hrest⟩ := harchived.event
  refine ⟨⟨row, h.events.subset hrow, hid, hrest⟩, ?_, harchived.sufficient⟩
  rw [h.hits _ (List.mem_map.mpr ⟨row, hrow, hid⟩)]
  exact harchived.hits

/-- What holds of a search where it is. -/
structure Search.Holds (b : KnowledgeBase) (s : Search) : Prop where
  resolved : ∀ q, s.phase = .resolved q → q.workspace = s.request.workspace
  ranked : ∀ q contexts, s.phase = .ranked q contexts →
    q.workspace = s.request.workspace ∧ Found b s.request.workspace contexts
  returned : ∀ response, s.phase = .returned response →
    Found b s.request.workspace response.results ∧ Archived b s.request.workspace response

theorem Search.Holds.extends {s : Search} (hs : s.Holds b) (hb : Sound b) (hb' : Sound b')
    (h : Extends b b') : s.Holds b' where
  resolved := hs.resolved
  ranked q contexts hphase :=
    ⟨(hs.ranked q contexts hphase).1, (hs.ranked q contexts hphase).2.extends hb hb' h⟩
  returned response hphase :=
    ⟨(hs.returned response hphase).1.extends hb hb' h,
      (hs.returned response hphase).2.extends h⟩

/-- No error of the database has ended a call. -/
def Asserts (b : KnowledgeBase) (w : Worker) : Prop :=
  (∀ error, w ≠ .raised error) ∧ ∀ s, w = .search s → s.Holds b

/-! ## Runs -/

theorem resolveSearch_workspace {r : SearchRequest} {embedded : Option (List (Option Rat))}
    (h : resolveSearch searching b r embedded = .ok q) : q.workspace = r.workspace := by
  obtain ⟨checked, -, h⟩ := bind_eq_ok.mp h
  obtain ⟨sources, -, h⟩ := bind_eq_ok.mp h
  obtain ⟨documents, -, h⟩ := bind_eq_ok.mp h
  cases embedded with
  | none => cases h
  | some vector =>
    simp only at h
    split at h
    · cases h
      rfl
    · cases h

theorem Found.accepted {workspace : Uuid} {contexts : List ScoredContext}
    (h : Found b workspace contexts) : b.acceptsHits contexts = true := by
  unfold KnowledgeBase.acceptsHits
  rw [Bool.and_eq_true, List.all_eq_true, decide_eq_true_eq, h.ranks]
  refine ⟨fun context hcontext => ?_, List.nodup_range'⟩
  obtain ⟨row, hrow, -, -, heq⟩ := h.shown context hcontext
  have hkey := mem_chunkRows_key (mem_joined.mp hrow).1
  rw [List.any_eq_true]
  refine ⟨row.key, hkey, decide_eq_true ?_⟩
  rw [heq]
  rfl

/-- No chunk is in the way of a completion. -/
theorem Sound.not_protected (hb : Sound b) {j : Nat} {ingested : Ingested} {ids : List Uuid}
    {error : DatabaseError} : b.completeIngestion j ingested ids ≠ some (.error error) := by
  intro h
  obtain ⟨job, hjob, h⟩ := Option.bind_eq_some_iff.mp h
  obtain ⟨record, -, h⟩ := Option.bind_eq_some_iff.mp h
  obtain ⟨store, -, h⟩ := Option.bind_eq_some_iff.mp h
  split at h
  · cases h
  · rename_i hprocessing
    split at h
    · rename_i hprotected
      obtain ⟨hit, -, hany⟩ := List.any_eq_true.mp hprotected
      obtain ⟨row, hrow, -⟩ := List.any_eq_true.mp hany
      obtain ⟨hmem, hdocument⟩ := List.mem_filter.mp hrow
      exact hb.unprocessed hjob (not_not.mp hprocessing) row.2 (mem_chunkRows_chunk hmem)
        (of_decide_eq_true hdocument)
    · split at h <;> cases h

theorem archived_recordSearch (hb : Sound b) {event : Uuid} {contexts : List ScoredContext}
    (hfresh : event ∉ b.events.map (·.id)) :
    Archived (b.recordSearch searching q event contexts) q.workspace
      ⟨event, q.query, contexts, !contexts.isEmpty⟩ where
  event := ⟨retrievalEvent searching q event contexts,
    List.mem_append_right _ (List.mem_singleton.mpr rfl), rfl, rfl, rfl, rfl⟩
  hits := by
    show (b.hits ++ contexts.map (retrievalHit q.workspace event)).filter _ = _
    have hold : b.hits.filter (·.event = event) = [] := by
      refine List.filter_eq_nil_iff.mpr fun hit hhit heq => hfresh ?_
      exact of_decide_eq_true heq ▸ hb.hits hit hhit
    have hnew : (contexts.map (retrievalHit q.workspace event)).filter (·.event = event) =
        contexts.map (retrievalHit q.workspace event) := by
      refine List.filter_eq_self.mpr fun hit hhit => ?_
      obtain ⟨context, -, rfl⟩ := List.mem_map.mp hhit
      exact decide_eq_true rfl
    rw [List.filter_append, hold, hnew, List.nil_append]
  sufficient := rfl

/-- What one step of a search establishes, and that it ends without an error. -/
theorem searchStep_holds (hb : Sound b) {a : SearchAction} {s : Search} (hs : s.Holds b)
    {out : Except DatabaseError (KnowledgeBase × Search)}
    (h : searchStep searching distance a s b = some out) :
    ∃ b' s', out = .ok (b', s') ∧ s'.Holds b' := by
  unfold searchStep at h
  split at h
  · split at h
    · rename_i hresolve
      cases h
      refine ⟨_, _, rfl, ⟨fun q' hq' => ?_, nofun, nofun⟩⟩
      cases hq'
      exact resolveSearch_workspace hresolve
    · cases h
      exact ⟨_, _, rfl, ⟨nofun, nofun, nofun⟩⟩
  · rename_i q' hphase
    cases h
    refine ⟨_, _, rfl, ⟨nofun, fun q'' contexts hranked => ?_, nofun⟩⟩
    cases hranked
    have hown := hs.resolved q' hphase
    exact ⟨hown, hown ▸ hb.found _⟩
  · rename_i event q' contexts hphase
    obtain ⟨hown, hfound⟩ := hs.ranked q' contexts hphase
    split at h
    · cases h
    · rename_i hfresh
      rw [if_pos hfound.accepted] at h
      cases h
      refine ⟨_, _, rfl, ⟨nofun, nofun, fun response hreturned => ?_⟩⟩
      cases hreturned
      refine ⟨⟨hfound.ranks, hfound.shown⟩, ?_⟩
      show Archived _ s.request.workspace _
      rw [← hown]
      exact archived_recordSearch hb hfresh
  · cases h

theorem Asserts.extends (hw : Asserts b w) (hb : Sound b) (hb' : Sound b')
    (h : Extends b b') : Asserts b' w :=
  ⟨hw.1, fun s hs => (hw.2 s hs).extends hb hb' h⟩

theorem asserts_ingestion (b : KnowledgeBase) (e : Execution) : Asserts b (.ingestion e) := by
  refine ⟨fun error h => ?_, fun s h => ?_⟩
  · cases h
  · cases h

theorem asserts_search {s : Search} (hs : s.Holds b) : Asserts b (.search s) := by
  refine ⟨nofun, fun other heq => ?_⟩
  cases heq
  exact hs

theorem baseStep_asserts (hb : Sound b) {a : BaseAction} (hw : Asserts b w)
    (h : baseStep cfg searching distance a w b = some (b', w')) : Asserts b' w' := by
  unfold baseStep at h
  split at h
  · cases h
  · obtain ⟨out, -, heq⟩ := Option.map_eq_some_iff.mp h
    cases heq
    exact asserts_ingestion _ _
  · split at h
    · obtain ⟨ingested, -, h⟩ := Option.bind_eq_some_iff.mp h
      obtain ⟨out, hout, heq⟩ := Option.map_eq_some_iff.mp h
      cases out with
      | ok completed =>
        cases heq
        exact asserts_ingestion _ _
      | error error => exact absurd hout hb.not_protected
    · cases h
  · rename_i s
    obtain ⟨out, hout, heq⟩ := Option.map_eq_some_iff.mp h
    obtain ⟨b'', s', rfl, hholds⟩ := searchStep_holds hb (hw.2 s rfl) hout
    cases heq
    exact asserts_search hholds
  · cases h

theorem baseEnv_started {event : BaseEvent} {started : Option Worker}
    (h : baseEnv event b = some (b', started)) : ∀ w ∈ started, Asserts b' w := by
  intro w hw
  cases event with
  | createSource workspace id name =>
    obtain ⟨created, -, hout⟩ := Option.map_eq_some_iff.mp h
    cases hout
    cases hw
  | updateSource workspace k read name isActive =>
    simp only [baseEnv] at h
    split at h
    · obtain ⟨updated, -, hout⟩ := Option.map_eq_some_iff.mp h
      cases hout
      cases hw
    · cases h
  | upload workspace id k read title originalFilename =>
    simp only [baseEnv] at h
    split at h
    · obtain ⟨uploaded, -, hout⟩ := Option.map_eq_some_iff.mp h
      cases hout
      cases hw
    · cases h
  | retry document =>
    obtain ⟨store, -, hout⟩ := Option.map_eq_some_iff.mp h
    cases hout
    cases hw
  | deliver job =>
    cases h
    cases hw
    exact asserts_ingestion _ _
  | search request =>
    cases h
    cases hw
    exact asserts_search ⟨nofun, nofun, nofun⟩

theorem searches_sound {c : Retrieval}
    (h : (knowledgeBase cfg searching distance).system.Reach (fun _ _ => True) c) :
    c.Annotated Sound Asserts := by
  refine Program.annotated_reach ?_ ?_ ?_ h
  · rintro b rfl
    exact Sound.empty
  · intro c event b' started _ _ hc hout
    have haltered := baseEnv_altered hc.store.mirrored hout
    have hsound := hc.store.altered haltered
    exact ⟨hsound, baseEnv_started hout,
      fun _ _ _ hw => hw.extends hc.store hsound (hc.store.extends haltered)⟩
  · intro c i a w b' w' _ _ hc hw hout
    have haltered := baseStep_altered hout
    have hsound := hc.store.altered haltered
    exact ⟨hsound, baseStep_asserts hc.store (hc.procs i w hw) hout,
      fun _ _ _ _ hother => hother.extends hc.store hsound (hc.store.extends haltered)⟩

/-! ## Main results -/

/-- In every reachable state a query gives the first of its chunks in its order that reach the
minimum score, ranked without a gap; all of them belong to its workspace, and a score is no higher
than those before it, unless its distance is not a number. -/
theorem search_results (cfg : Settings) (searching : SearchSettings) (distance : CosineDistance)
    (c : Retrieval)
    (h : (knowledgeBase cfg searching distance).system.Reach (fun _ _ => True) c)
    (q : ResolvedSearch) (visited : Uuid → Bool) :
    (searchContexts distance q c.store visited).length ≤ q.topK ∧
    ∃ rows : List IndexedChunk,
      searchContexts distance q c.store visited = numbered distance q 1 rows ∧
      (rows.Pairwise fun row other => Nearer distance q row other ∧
        (scoreOf distance q other ≤ scoreOf distance q row ∨
          distance other.chunk.embedding q.vector = ⊤)) ∧
      (∀ row, row ∈ rows ↔ row ∈ candidates q c.store visited ∧
        (candidates q c.store visited).countP (Nearer distance q · row) < q.topK ∧
        ∀ minimumScore ∈ q.minimumScore, minimumScore ≤ scoreOf distance q row) ∧
      ∀ row ∈ rows, row.record.workspace = q.workspace ∧ row.source.workspace = q.workspace := by
  have hb := (searches_sound h).store
  refine ⟨length_searchContexts_le visited, _, searchContexts_eq visited, ?_, ?_, ?_⟩
  · have hsorted := (hb.candidates_sorted distance q visited).sublist
      (List.take_sublist q.topK _)
    exact (hsorted.filter _).imp fun hnearer => ⟨hnearer, score_le_of_nearer hnearer⟩
  · intro row
    rw [List.mem_filter, hb.mem_rankedChunks, reachesMinimum_iff, and_assoc]
  · intro row hrow
    have hcandidate := (hb.mem_rankedChunks.mp (List.mem_filter.mp hrow).1).1
    obtain ⟨hjoined, heligible, -⟩ := mem_candidates.mp hcandidate
    exact hb.workspaces hjoined heligible

def sampleSearchSettings : SearchSettings where
  maxQueryLength := 2000
  defaultTopK := 5
  maxTopK := 20
  embeddingDimension := 1
  embeddingProvider := "supportpilot-deterministic"
  embeddingModel := "hashed-token-projection-v1"

/-- The distance of vectors of one dimension. -/
def sampleDistance : CosineDistance := fun u v =>
  if u = [0] ∨ v = [0] then ⊤
  else WithTop.some (if u.head?.any (0 < ·) = v.head?.any (0 < ·) then 0 else 2)

def sampleSource : KnowledgeSource where
  id := .replicate 2
  workspace := .replicate 1
  name := "Support Handbook".toList

def sampleRequest : SearchRequest where
  workspace := .replicate 1
  query := " two ".toList

def sampleResolved : ResolvedSearch where
  workspace := .replicate 1
  actor := none
  query := "two".toList
  topK := 5
  sources := []
  documents := []
  vector := [1]
  minimumScore := none

/-- The source is renamed between the query and the record of a search. -/
def renamedSource : List RetrievalLabel :=
  [.env (.createSource (.replicate 1) (.replicate 2) "Support  Handbook".toList),
    .env (.upload (.replicate 1) (.replicate 3) 0 sampleSource "Policies".toList []),
    .env (.deliver 0), .work 0 (.ingestion .claim),
    .work 0 (.ingestion (.compute (.ok sampleDocument) (.ok [[some (-1)], [some 1]]))),
    .work 0 (.complete [.replicate 4, .replicate 5]),
    .env (.search sampleRequest),
    .work 1 (.search (.resolve (some [some 1]))), .work 1 (.search (.rank fun _ => true)),
    .env (.updateSource (.replicate 1) 0 sampleSource (some "Handbook".toList) none),
    .work 1 (.search (.record (.replicate 6)))]

def retrievalEnd (labels : List RetrievalLabel) : Retrieval :=
  (knowledgeBase sampleSettings sampleSearchSettings sampleDistance).system.replayEnd
    (fun _ _ => True) labels ⟨{}, []⟩

theorem reaches_retrievalEnd (labels : List RetrievalLabel) :
    (knowledgeBase sampleSettings sampleSearchSettings sampleDistance).system.Reach
      (fun _ _ => True) (retrievalEnd labels) := by
  have hinit : (knowledgeBase sampleSettings sampleSearchSettings sampleDistance).system.initial
      ⟨{}, []⟩ := ⟨rfl, rfl⟩
  exact System.reach_replayEnd (.init hinit) labels

theorem search_results_renamed :
    (searchContexts sampleDistance sampleResolved (retrievalEnd renamedSource).store
      fun _ => true).map (·.score) = [1, -1] ∧
    (searchContexts sampleDistance sampleResolved (retrievalEnd renamedSource).store
      fun _ => true).length ≤ 5 :=
  ⟨by decide +kernel, (search_results sampleSettings sampleSearchSettings sampleDistance _
    (reaches_retrievalEnd renamedSource) sampleResolved fun _ => true).1⟩

/-- A response but for the names of the sources, which may change. -/
def SearchResponse.withoutNames (response : SearchResponse) : SearchResponse :=
  { response with results := response.results.map fun context => { context with sourceName := [] } }

/-- What the view of a recorded search shows of a hit. -/
theorem Found.detail {workspace : Uuid} {contexts : List ScoredContext} (hb : Sound b)
    (h : Found b workspace contexts) (event : Uuid) :
    ((contexts.map (retrievalHit workspace event)).filterMap fun hit =>
        (b.joined.find? (·.key.id = hit.chunk)).map fun row =>
          { row.context hit.rank hit.score with citation := hit.citation }).map
      (fun context : ScoredContext => { context with sourceName := [] }) =
    contexts.map fun context => { context with sourceName := [] } := by
  rw [List.filterMap_map, List.map_filterMap, ← List.filterMap_eq_map]
  refine List.filterMap_congr fun context hcontext => ?_
  obtain ⟨row, hrow, -, -, heq⟩ := h.shown context hcontext
  have hid : context.chunkId = row.key.id := by
    rw [heq]
    rfl
  have hfind := find?_of_nodup (fun row : IndexedChunk => row.key.id) hb.joined_ids hrow
  show ((b.joined.find? (·.key.id = context.chunkId)).map _).map _ = _
  rw [hid, hfind, heq]
  rfl

/-- The event of a response is the only one with its id. -/
theorem Archived.unique {workspace : Uuid} {response : SearchResponse} (hb : Sound b)
    (h : Archived b workspace response) :
    ∃ row, row.id = response.eventId ∧ row.workspace = workspace ∧ row.query = response.query ∧
      row.resultCount = response.results.length ∧ row ∈ b.events ∧
      ∀ other ∈ b.events, other.id = response.eventId → other = row := by
  obtain ⟨row, hrow, hid, hworkspace, hquery, hcount⟩ := h.event
  refine ⟨row, hid, hworkspace, hquery, hcount, hrow, fun other hother hsame => ?_⟩
  exact List.inj_on_of_nodup_map hb.events hother hrow (hsame.trans hid.symm)

theorem Archived.find {workspace : Uuid} {response : SearchResponse} (hb : Sound b)
    (h : Archived b workspace response) :
    ∃ row, b.events.find? (fun row => row.workspace = workspace && row.id = response.eventId) =
        some row ∧
      row.id = response.eventId ∧ row.query = response.query ∧
      row.resultCount = response.results.length := by
  obtain ⟨row, hid, hworkspace, hquery, hcount, hrow, hunique⟩ := h.unique hb
  refine ⟨row, ?_, hid, hquery, hcount⟩
  cases hfind : b.events.find? fun row =>
      row.workspace = workspace && row.id = response.eventId with
  | none =>
    have hnot := List.find?_eq_none.mp hfind row hrow
    simp [hworkspace, hid] at hnot
  | some other =>
    have hother := List.find?_some hfind
    simp only [Bool.and_eq_true, decide_eq_true_eq] at hother
    rw [hunique other (List.mem_of_find?_eq_some hfind) hother.2]

/-- A member of another workspace does not find the event. -/
theorem Archived.elsewhere {workspace other : Uuid} {response : SearchResponse} (hb : Sound b)
    (h : Archived b workspace response) (hne : other ≠ workspace) :
    b.eventDetail other response.eventId = none := by
  obtain ⟨row, -, hworkspace, -, -, -, hunique⟩ := h.unique hb
  unfold KnowledgeBase.eventDetail
  rw [Option.map_eq_none_iff, List.find?_eq_none]
  intro found hfound hsame
  simp only [Bool.and_eq_true, decide_eq_true_eq] at hsame
  rw [hunique found hfound hsame.2, hworkspace] at hsame
  exact hne hsame.1.symm

/-- The hits of a response are stored in the order of their ranks. -/
theorem Found.hits_sorted {workspace : Uuid} {contexts : List ScoredContext}
    (h : Found b workspace contexts) (event : Uuid) :
    (contexts.map (retrievalHit workspace event)).Pairwise fun hit other =>
      hit.rank ≤ other.rank := by
  have hranks : (contexts.map (·.rank)).Pairwise (· ≤ ·) := by
    rw [h.ranks]
    exact List.pairwise_le_range'
  rw [List.pairwise_map] at hranks ⊢
  exact hranks

theorem Archived.detail {workspace : Uuid} {response : SearchResponse} (hb : Sound b)
    (h : Archived b workspace response) (hfound : Found b workspace response.results) :
    ∃ detail, b.eventDetail workspace response.eventId = some detail ∧
      detail.withoutNames = response.withoutNames := by
  obtain ⟨row, hfind, hid, hquery, hcount⟩ := h.find hb
  have hsorted := (hfound.hits_sorted response.eventId).insertionSort_eq
  have hsufficient : decide (0 < row.resultCount) = response.sufficientContext := by
    rw [h.sufficient, hcount]
    cases response.results <;> rfl
  refine ⟨_, by rw [KnowledgeBase.eventDetail, hfind, Option.map_some], ?_⟩
  unfold SearchResponse.withoutNames
  rw [hid, h.hits, hsorted, hfound.detail hb, hquery, hsufficient]

/-- In every reachable state of searches, ingestions and changes of the sources, in any
interleaving, no call has ended with an error of the database, and no step deletes a chunk. What a
search has returned can be read again, the names of the sources aside, and in its workspace
only. -/
theorem retrieval_provenance (cfg : Settings) (searching : SearchSettings)
    (distance : CosineDistance) (c : Retrieval)
    (h : (knowledgeBase cfg searching distance).system.Reach (fun _ _ => True) c) :
    (∀ (i : Nat) (error : DatabaseError), c.procs[i]? ≠ some (.raised error)) ∧
    (∀ l c', (knowledgeBase cfg searching distance).system.step l c = some c' →
      c.store.chunkRows ⊆ c'.store.chunkRows) ∧
    ∀ (i : Nat) (s : Search) (response : SearchResponse), c.procs[i]? = some (.search s) →
      s.phase = .returned response →
      (∃ detail, c.store.eventDetail s.request.workspace response.eventId = some detail ∧
        detail.withoutNames = response.withoutNames) ∧
      ∀ workspace, workspace ≠ s.request.workspace →
        c.store.eventDetail workspace response.eventId = none := by
  have hc := searches_sound h
  refine ⟨fun i error hi => (hc.procs i _ hi).1 error rfl, ?_, ?_⟩
  · intro l c' hstep row hrow
    cases l with
    | env event =>
      obtain ⟨b', started, hout, rfl⟩ := Program.step_env hstep
      exact (hc.store.extends (baseEnv_altered hc.store.mirrored hout)).chunkRows hc.store hrow
    | work i a =>
      obtain ⟨w, b', w', -, hout, rfl⟩ := Program.step_work hstep
      exact (hc.store.extends (baseStep_altered hout)).chunkRows hc.store hrow
  · intro i s response hi hphase
    obtain ⟨hfound, harchived⟩ := ((hc.procs i _ hi).2 s rfl).returned response hphase
    exact ⟨harchived.detail hc.store hfound, fun _ hne => harchived.elsewhere hc.store hne⟩

def sampleContext (chunk : Uuid) (rank : Nat) (text : List Char) (citation : Agents.Citation)
    (score : Rat) : ScoredContext where
  chunkId := chunk
  documentId := .replicate 3
  documentTitle := "Policies".toList
  sourceId := .replicate 2
  sourceName := "Support Handbook".toList
  rank := rank
  text := text
  citation := citation
  score := score

def renamedResponse : SearchResponse where
  eventId := .replicate 6
  query := "two".toList
  results :=
    [(sampleContext (.replicate 5) 1 "three".toList ⟨none, none, 8, 13, 1⟩ 1),
      (sampleContext (.replicate 4) 2 "one two".toList ⟨none, none, 0, 7, 0⟩ (-1))]
  sufficientContext := true

theorem retrieval_provenance_renamed :
    (retrievalEnd renamedSource).procs[1]? =
        some (.search ⟨sampleRequest, .returned renamedResponse⟩) ∧
      ∃ detail, (retrievalEnd renamedSource).store.eventDetail (.replicate 1) (.replicate 6) =
          some detail ∧
        detail.withoutNames = renamedResponse.withoutNames := by
  have hreturned : (retrievalEnd renamedSource).procs[1]? =
      some (.search ⟨sampleRequest, .returned renamedResponse⟩) := by decide +kernel
  exact ⟨hreturned, ((retrieval_provenance sampleSettings sampleSearchSettings sampleDistance _
    (reaches_retrievalEnd renamedSource)).2.2 1 _ _ hreturned rfl).1⟩

end SupportPilot.Knowledge
