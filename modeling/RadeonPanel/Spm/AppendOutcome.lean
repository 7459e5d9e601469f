import RadeonPanel.Spm.Append
import RadeonPanel.Spm.ChunkRoundTrip

set_option autoImplicit false

namespace RadeonPanel.Spm

def Trace.Extends : Trace → Trace → Prop
  | .legacy before, .legacy after => before <+: after
  | .rdf before, .rdf after => before <+: after
  | .legacy _, .rdf _ | .rdf _, .legacy _ => False

section Outcome
variable (a : Answers)

-- Behind what the trace held stands everything that its SPM data gives.
def Appended : Trace → Trace → Prop
  | .legacy before, .legacy after => ∃ timing raw db, a.loadRawSpmLegacy = some (timing, raw) ∧
      a.build a.openCounterContext raw timing.sampleInterval = some db ∧ serializeChunkDerivedSpmDb db timing ≠ [] ∧
      after = before ++ serializeChunkDerivedSpmDb db timing
  | .rdf before, .rdf after => ∃ session raw db, loadSpmSessionRdf a.chunkFile = some session ∧
      loadRawSpmRdf a.chunkFile (uint32 session.timestamps.length) = some raw ∧
      a.build true raw session.sampleInterval = some db ∧ after = before ++ derivedChunks a.afterText db
  | .legacy _, .rdf _ | .rdf _, .legacy _ => False

structure AppendsOrFails (before : Trace) (outcome : Outcome) : Prop where
  appends : outcome.status = .ok → Appended a before outcome.trace
  releases : outcome.status ≠ .ok → outcome.handles = .none
  keeps : outcome.status ≠ .ok → before.Extends outcome.trace

def ContextClosed : Prop := a.openCounterContext = true → a.builderCloses = true

section Legacy
variable (content : List UInt8)

-- The calls before the counter context is opened.
structure LegacyReads : Prop where
  size : a.getSize = true
  present : content ≠ []
  start : a.seekStart = true
  read : a.read = some content.length
  asicInfo : a.asicInfoFound = true
  spmDb : a.spmDbFound = true

def Written (db : DerivedSpmDataBase) (timing : SpmTiming) : Prop :=
  a.seekEnd = true ∧ a.write = true ∧ a.written = (serializeChunkDerivedSpmDb db timing).length

instance (db : DerivedSpmDataBase) (timing : SpmTiming) : Decidable (Written a db timing) :=
  inferInstanceAs (Decidable (_ ∧ _ ∧ _))

def LegacyMeets : Prop :=
  LegacyReads a content →
    match a.loadRawSpmLegacy with
    | none => a.openCounterContext = false
    | some (timing, raw) =>
        match a.build a.openCounterContext raw timing.sampleInterval with
        | none => ContextClosed a
        | some db => if Written a db timing then Flat db else ContextClosed a

theorem serialized_iff (db : DerivedSpmDataBase) (timing : SpmTiming) :
    serializeChunkDerivedSpmDb db timing ≠ [] ↔ Flat db := by
  constructor
  · intro some
    by_contra nested
    exact some (nested_unwritten db timing nested)
  · intro flat
    rw [serializeChunkDerivedSpmDb, (flat_iff db).mpr flat, if_neg (by simp)]
    simp [writeChunk, writeChunkHeader, Bytes.le]

theorem builder_closes :
    builderEnds a { Handles.none with counterContext := a.openCounterContext } = .none ↔ ContextClosed a := by
  cases opened : a.openCounterContext <;> cases closes : a.builderCloses <;>
    simp [builderEnds, Handles.none, ContextClosed, opened, closes]

theorem appends_iff (before after : Trace) (handles : Handles) :
    AppendsOrFails a before ⟨.ok, after, handles⟩ ↔ Appended a before after :=
  ⟨fun sound => sound.appends rfl, fun appended => ⟨fun _ => appended, by simp, by simp⟩⟩

-- An error that wrote nothing or wrote behind the trace.
theorem fails_iff (status : RgpFileWriterStatus) (handles : Handles) (tail : List UInt8) (failed : status ≠ .ok) :
    AppendsOrFails a (.legacy content) ⟨status, .legacy (content ++ tail), handles⟩ ↔ handles = .none := by
  constructor
  · intro sound
    exact sound.releases failed
  · intro released
    exact ⟨fun ok => absurd ok failed, fun _ => released, fun _ => List.prefix_append content tail⟩

theorem legacy_unread (unread : ¬LegacyReads a content) :
    ∃ status, status ≠ .ok ∧ appendChunkDerivedSpmDbLegacy a content = ⟨status, .legacy content, .none⟩ := by
  unfold appendChunkDerivedSpmDbLegacy
  split
  · exact ⟨_, by simp, rfl⟩
  · split
    · exact ⟨_, by simp, rfl⟩
    · split
      · exact ⟨_, by simp, rfl⟩
      · split
        · exact ⟨_, by simp, rfl⟩
        · rename_i size start asicInfo spmDb
          exact absurd ⟨by simp_all, by simp_all, by simp_all, by simp_all, by simp_all, by simp_all⟩ unread

theorem fails_unwritten_iff (status : RgpFileWriterStatus) (handles : Handles) (failed : status ≠ .ok) :
    AppendsOrFails a (.legacy content) ⟨status, .legacy content, handles⟩ ↔ handles = .none := by
  have unwritten := fails_iff a content status handles [] failed
  rwa [List.append_nil] at unwritten

abbrev contextOnly : Handles := { Handles.none with counterContext := a.openCounterContext }

section Read
variable (reads : LegacyReads a content)
include reads

theorem legacy_unloaded (load : a.loadRawSpmLegacy = none) :
    appendChunkDerivedSpmDbLegacy a content = ⟨.spmDbError, .legacy content, contextOnly a⟩ := by
  obtain ⟨size, present, start, read, asicInfo, spmDb⟩ := reads
  simp [appendChunkDerivedSpmDbLegacy, size, present, start, read, asicInfo, spmDb, load]

variable (timing : SpmTiming) (raw : List RawSpmCounter) (load : a.loadRawSpmLegacy = some (timing, raw))
include load

theorem legacy_unbuilt (built : a.build a.openCounterContext raw timing.sampleInterval = none) :
    appendChunkDerivedSpmDbLegacy a content = ⟨.spmDbError, .legacy content, builderEnds a (contextOnly a)⟩ := by
  obtain ⟨size, present, start, read, asicInfo, spmDb⟩ := reads
  simp [appendChunkDerivedSpmDbLegacy, size, present, start, read, asicInfo, spmDb, load, built]

variable (db : DerivedSpmDataBase) (built : a.build a.openCounterContext raw timing.sampleInterval = some db)
include built

theorem legacy_written (written : Written a db timing) :
    appendChunkDerivedSpmDbLegacy a content =
      ⟨.ok, .legacy (content ++ serializeChunkDerivedSpmDb db timing), builderEnds a (contextOnly a)⟩ := by
  obtain ⟨size, present, start, read, asicInfo, spmDb⟩ := reads
  obtain ⟨seek, write, all⟩ := written
  simp [appendChunkDerivedSpmDbLegacy, size, present, start, read, asicInfo, spmDb, load, built, seek, write, all]

theorem legacy_unwritten (unwritten : ¬Written a db timing) :
    ∃ tail, appendChunkDerivedSpmDbLegacy a content =
      ⟨.fileWriteError, .legacy (content ++ tail), builderEnds a (contextOnly a)⟩ := by
  obtain ⟨size, present, start, read, asicInfo, spmDb⟩ := reads
  cases seek : a.seekEnd with
  | false =>
      refine ⟨[], ?_⟩
      simp [appendChunkDerivedSpmDbLegacy, size, present, start, read, asicInfo, spmDb, load, built, seek]
  | true =>
      have short : a.write = true → a.written ≠ (serializeChunkDerivedSpmDb db timing).length :=
        fun write all => unwritten ⟨seek, write, all⟩
      refine ⟨(serializeChunkDerivedSpmDb db timing).take a.written, ?_⟩
      simp only [appendChunkDerivedSpmDbLegacy, size, start, read, asicInfo, spmDb, load, built, seek]
      cases write : a.write <;> simp_all

end Read

theorem legacy_appends_or_fails :
    AppendsOrFails a (.legacy content) (appendChunkDerivedSpmDbLegacy a content) ↔ LegacyMeets a content := by
  by_cases reads : LegacyReads a content
  · have meets : LegacyMeets a content ↔ _ := ⟨fun meets => meets reads, fun meets _ => meets⟩
    rw [meets]
    cases load : a.loadRawSpmLegacy with
    | none =>
        rw [legacy_unloaded a content reads load, fails_unwritten_iff a content _ _ (by simp)]
        simp [Handles.none]
    | some loaded =>
        obtain ⟨timing, raw⟩ := loaded
        cases built : a.build a.openCounterContext raw timing.sampleInterval with
        | none =>
            rw [legacy_unbuilt a content reads timing raw load built, fails_unwritten_iff a content _ _ (by simp),
              builder_closes]
            simp [built]
        | some db =>
            by_cases written : Written a db timing
            · have appended : Appended a (.legacy content) (.legacy (content ++ serializeChunkDerivedSpmDb db timing)) ↔
                  serializeChunkDerivedSpmDb db timing ≠ [] := by
                simp [Appended, load, built]
              rw [legacy_written a content reads timing raw load db built written, appends_iff, appended, serialized_iff]
              simp [built, written]
            · obtain ⟨tail, outcome⟩ := legacy_unwritten a content reads timing raw load db built written
              rw [outcome, fails_iff a content _ _ tail (by simp), builder_closes]
              simp [built, written]
  · obtain ⟨status, failed, outcome⟩ := legacy_unread a content reads
    rw [outcome]
    exact iff_of_true ((fails_unwritten_iff a content status .none failed).mpr rfl) fun read => absurd read reads

end Legacy

section Rdf
variable (chunks : List RdfChunk)

-- The calls before the derived database is built.
structure RdfLoads (session : SpmTiming) (raw : List RawSpmCounter) : Prop where
  stream : a.createStream = true
  file : a.openChunkFile = true
  asicInfo : deserializeChunkAsicInfo a.chunkFile = .ok
  timing : loadSpmSessionRdf a.chunkFile = some session
  loaded : loadRawSpmRdf a.chunkFile (uint32 session.timestamps.length) = some raw
  context : a.openCounterContext = true

def RdfMeets : Prop :=
  ∀ session raw, RdfLoads a session raw → ∃ db, a.build true raw session.sampleInterval = some db ∧ a.createWriter = true ∧
    (∀ call < (derivedChunks a.afterText db).length, a.writeChunk call = true) ∧ a.destroyWriter = true

theorem write_chunks_iff (list : List RdfChunk) (first : Nat) :
    (writeChunks a list first).2 = list ↔ ∀ call < list.length, a.writeChunk (first + call) = true := by
  induction list generalizing first with
  | nil => simp [writeChunks]
  | cons chunk rest ih =>
      cases here : a.writeChunk first with
      | false =>
          have stopped : writeChunks a (chunk :: rest) first = (.fileWriteError, []) := by simp [writeChunks, here]
          rw [stopped]
          constructor
          · intro wrong
            contradiction
          · intro all
            have first := all 0 (by simp)
            rw [Nat.add_zero, here] at first
            contradiction
      | true =>
          have goes : (writeChunks a (chunk :: rest) first).2 = chunk :: (writeChunks a rest (first + 1)).2 := by
            simp [writeChunks, here]
          rw [goes, List.cons.injEq, ih]
          constructor
          · rintro ⟨-, later⟩ call inside
            cases call with
            | zero => exact here
            | succ call =>
                rw [← Nat.add_assoc, Nat.add_right_comm]
                exact later call (Nat.lt_of_succ_lt_succ inside)
          · intro all
            refine ⟨rfl, fun call inside => ?_⟩
            have later := all (call + 1) (Nat.succ_lt_succ inside)
            rwa [← Nat.add_assoc, Nat.add_right_comm] at later

theorem rdf_unloaded (unloaded : ∀ session raw, ¬RdfLoads a session raw) :
    ∃ status, status ≠ .ok ∧ appendChunkDerivedSpmDbRdf a chunks = ⟨status, .rdf chunks, .none⟩ := by
  unfold appendChunkDerivedSpmDbRdf
  split
  · exact ⟨_, by simp, rfl⟩
  · rename_i stream
    simp only
    split
    · exact ⟨_, by simp, rfl⟩
    · rename_i file
      split
      · rename_i asicInfo
        split
        · exact ⟨_, by simp, rfl⟩
        · rename_i session found
          split
          · exact ⟨_, by simp, rfl⟩
          · rename_i raw loaded
            split
            · exact ⟨_, by simp, rfl⟩
            · rename_i context
              exact absurd ⟨by simpa using stream, by simpa using file, asicInfo, found, loaded, by simpa using context⟩
                (unloaded session raw)
      · rename_i failed
        exact ⟨_, failed, rfl⟩

theorem rdf_fails_iff (status : RgpFileWriterStatus) (handles : Handles) (failed : status ≠ .ok) :
    AppendsOrFails a (.rdf chunks) ⟨status, .rdf chunks, handles⟩ ↔ handles = .none := by
  constructor
  · intro sound
    exact sound.releases failed
  · intro released
    exact ⟨fun ok => absurd ok failed, fun _ => released, fun _ => List.prefix_refl chunks⟩

section Loads
variable (session : SpmTiming) (raw : List RawSpmCounter) (loads : RdfLoads a session raw)
include loads

theorem rdf_unbuilt (built : a.build true raw session.sampleInterval = none) :
    appendChunkDerivedSpmDbRdf a chunks = ⟨.spmDbError, .rdf chunks, builderEnds a ⟨true, true, false, true⟩⟩ := by
  obtain ⟨stream, file, asicInfo, timing, loaded, context⟩ := loads
  simp [appendChunkDerivedSpmDbRdf, stream, file, asicInfo, timing, loaded, context, built, Handles.none]

variable (db : DerivedSpmDataBase) (built : a.build true raw session.sampleInterval = some db)
include built

-- From here on the status is Ok, whatever becomes of the chunks.
theorem rdf_built : ∃ handles, appendChunkDerivedSpmDbRdf a chunks =
    ⟨.ok, .rdf (if a.createWriter && a.destroyWriter then chunks ++ (appendChunks a db).2 else chunks), handles⟩ := by
  obtain ⟨stream, file, asicInfo, timing, loaded, context⟩ := loads
  cases writer : a.createWriter <;>
    simp [appendChunkDerivedSpmDbRdf, stream, file, asicInfo, timing, loaded, context, built, writer]

theorem rdf_appended_iff (after : List RdfChunk) :
    Appended a (.rdf chunks) (.rdf after) ↔ after = chunks ++ derivedChunks a.afterText db := by
  simp [Appended, loads.timing, loads.loaded, built]

theorem rdf_meets_iff : RdfMeets a ↔ a.createWriter = true ∧
    (∀ call < (derivedChunks a.afterText db).length, a.writeChunk call = true) ∧ a.destroyWriter = true := by
  constructor
  · intro meets
    obtain ⟨other, made, rest⟩ := meets session raw loads
    obtain rfl := Option.some.inj (built.symm.trans made)
    exact rest
  · rintro rest other others ⟨-, -, -, timing, loaded, -⟩
    obtain rfl := Option.some.inj (loads.timing.symm.trans timing)
    obtain rfl := Option.some.inj (loads.loaded.symm.trans loaded)
    exact ⟨db, built, rest⟩

end Loads

theorem rdf_appends_or_fails :
    AppendsOrFails a (.rdf chunks) (appendChunkDerivedSpmDbRdf a chunks) ↔ RdfMeets a := by
  by_cases loads : ∃ session raw, RdfLoads a session raw
  · obtain ⟨session, raw, reached⟩ := loads
    cases built : a.build true raw session.sampleInterval with
    | none =>
        have leaked : builderEnds a ⟨true, true, false, true⟩ ≠ .none := by simp [builderEnds, Handles.none]
        rw [rdf_unbuilt a chunks session raw reached built, rdf_fails_iff a chunks _ _ (by simp)]
        refine iff_of_false leaked fun meets => ?_
        obtain ⟨db, made, _⟩ := meets session raw reached
        rw [built] at made
        contradiction
    | some db =>
        obtain ⟨handles, outcome⟩ := rdf_built a chunks session raw reached db built
        have nonempty : derivedChunks a.afterText db ≠ [] := by simp [derivedChunks]
        have all := write_chunks_iff a (derivedChunks a.afterText db) 0
        simp only [Nat.zero_add] at all
        rw [outcome, appends_iff, rdf_appended_iff a chunks session raw reached db built,
          rdf_meets_iff a session raw reached db built, ← all]
        cases a.createWriter with
        | false => simpa using nonempty
        | true =>
            cases a.destroyWriter with
            | false => simpa using nonempty
            | true => simp [appendChunks]
  · have unloaded : ∀ session raw, ¬RdfLoads a session raw := fun session raw this => loads ⟨session, raw, this⟩
    obtain ⟨status, failed, outcome⟩ := rdf_unloaded a chunks unloaded
    rw [outcome]
    exact iff_of_true ((rdf_fails_iff a chunks status .none failed).mpr rfl) fun session raw this =>
      absurd this (unloaded session raw)

-- Where the status says Ok, everything was written.
def WritesBuilt : Prop :=
  a.openStream = true → ∀ session raw db, RdfLoads a session raw → a.build true raw session.sampleInterval = some db →
    a.createWriter = true ∧ (∀ call < (derivedChunks a.afterText db).length, a.writeChunk call = true) ∧ a.destroyWriter = true

theorem rdf_ok_appended_iff (stream : a.openStream = true) :
    ((appendChunkDerivedSpmDbRdf a chunks).status = .ok →
      Appended a (.rdf chunks) (appendChunkDerivedSpmDbRdf a chunks).trace) ↔ WritesBuilt a := by
  constructor
  · intro truthful _ session raw db reached built
    obtain ⟨handles, outcome⟩ := rdf_built a chunks session raw reached db built
    rw [outcome] at truthful
    have sound : AppendsOrFails a (.rdf chunks) (appendChunkDerivedSpmDbRdf a chunks) := by
      rw [outcome]
      exact ⟨truthful, fun failed => absurd rfl failed, fun failed => absurd rfl failed⟩
    exact (rdf_meets_iff a session raw reached db built).mp ((rdf_appends_or_fails a chunks).mp sound)
  · intro writes ok
    by_cases loads : ∃ session raw, RdfLoads a session raw
    · obtain ⟨session, raw, reached⟩ := loads
      cases built : a.build true raw session.sampleInterval with
      | none =>
          rw [rdf_unbuilt a chunks session raw reached built] at ok
          contradiction
      | some db =>
          have meets := (rdf_meets_iff a session raw reached db built).mpr (writes stream session raw db reached built)
          exact ((rdf_appends_or_fails a chunks).mpr meets).appends ok
    · obtain ⟨status, failed, outcome⟩ := rdf_unloaded a chunks fun session raw this => loads ⟨session, raw, this⟩
      rw [outcome] at ok
      exact absurd ok failed

theorem ok_appended_iff :
    ((appendChunkDerivedSpmDb a (.rdf chunks)).status = .ok →
      Appended a (.rdf chunks) (appendChunkDerivedSpmDb a (.rdf chunks)).trace) ↔ WritesBuilt a := by
  cases stream : a.openStream with
  | false =>
      have outcome : appendChunkDerivedSpmDb a (.rdf chunks) = ⟨.fileReadError, .rdf chunks, .none⟩ := by
        simp [appendChunkDerivedSpmDb, stream]
      rw [outcome, WritesBuilt, stream]
      simp
  | true =>
      have outcome : appendChunkDerivedSpmDb a (.rdf chunks) = appendChunkDerivedSpmDbRdf a chunks := by
        simp [appendChunkDerivedSpmDb, stream]
      rw [outcome]
      exact rdf_ok_appended_iff a chunks stream

end Rdf

def AppendMeets (trace : Trace) : Prop :=
  a.openStream = true →
    match trace with
    | .legacy content => LegacyMeets a content
    | .rdf _ => RdfMeets a

theorem append_iff (trace : Trace) :
    AppendsOrFails a trace (appendChunkDerivedSpmDb a trace) ↔ AppendMeets a trace := by
  cases opened : a.openStream with
  | false =>
      have outcome : appendChunkDerivedSpmDb a trace = ⟨.fileReadError, trace, .none⟩ := by
        simp [appendChunkDerivedSpmDb, opened]
      have same : trace.Extends trace := by cases trace <;> exact List.prefix_refl _
      rw [outcome]
      refine iff_of_true ⟨by simp, fun _ => rfl, fun _ => same⟩ fun opens => ?_
      rw [opened] at opens
      contradiction
  | true =>
      have meets : AppendMeets a trace ↔ _ := ⟨fun meets => meets opened, fun meets _ => meets⟩
      rw [meets]
      cases trace with
      | legacy content =>
          have outcome : appendChunkDerivedSpmDb a (.legacy content) = appendChunkDerivedSpmDbLegacy a content := by
            simp [appendChunkDerivedSpmDb, opened]
          rw [outcome, legacy_appends_or_fails]
      | rdf chunks =>
          have outcome : appendChunkDerivedSpmDb a (.rdf chunks) = appendChunkDerivedSpmDbRdf a chunks := by
            simp [appendChunkDerivedSpmDb, opened]
          rw [outcome, rdf_appends_or_fails]

end Outcome

section Failures

def cacheFile : ChunkFile where
  getChunkCount identifier := if identifier = "SpmCounterData" then some 0 else some 1
  getChunkHeaderSize _ := some 20
  getChunkDataSize _ _ := some 608
  getChunkVersion _ := some 3
  readAsicInfo := true
  readSessionHeader := some ⟨4096, 1⟩
  readTimestamps := some fun _ => 9
  readCounterHeader _ := none
  readCounterData _ := none

def working (db : DerivedSpmDataBase) : Answers where
  openStream := true
  getSize := true
  seekStart := true
  read := some 1
  asicInfoFound := true
  spmDbFound := true
  loadRawSpmLegacy := some (⟨4096, [9]⟩, [])
  seekEnd := true
  write := true
  written := (serializeChunkDerivedSpmDb db ⟨4096, [9]⟩).length
  createStream := true
  openChunkFile := true
  chunkFile := cacheFile
  createWriter := true
  writeChunk _ := true
  destroyWriter := true
  openCounterContext := true
  build _ _ _ := some db
  builderCloses := true
  afterText _ _ := 0

theorem cache_loads (a : Answers) (file : a.chunkFile = cacheFile) (stream : a.createStream = true)
    (opens : a.openChunkFile = true) (context : a.openCounterContext = true) : RdfLoads a ⟨4096, [9]⟩ [] where
  stream := stream
  file := opens
  asicInfo := by simp [file, deserializeChunkAsicInfo, cacheFile, sizeofAsicInfoRdfV3]
  timing := by simp [file, loadSpmSessionRdf, cacheFile, sizeofSpmSessionHeader]
  loaded := by simp [file, loadRawSpmRdf, cacheFile]
  context := context

def withoutWriter : Answers := { working cacheHits with createWriter := false }

def losingChunk : Answers := { working cacheHits with writeChunk := fun call => call != 2 }

def unbuilt : Answers := { working cacheHits with build := fun _ _ _ => none }

-- No writer, a chunk that is not written, a nested component, a build that fails.
theorem appends_misreported :
    ¬AppendsOrFails withoutWriter (.rdf []) (appendChunkDerivedSpmDb withoutWriter (.rdf [])) ∧
      ¬AppendsOrFails losingChunk (.rdf []) (appendChunkDerivedSpmDb losingChunk (.rdf [])) ∧
      ¬AppendsOrFails (working nestedHits) (.legacy [1]) (appendChunkDerivedSpmDb (working nestedHits) (.legacy [1])) ∧
      ¬AppendsOrFails unbuilt (.rdf []) (appendChunkDerivedSpmDb unbuilt (.rdf [])) := by
  refine ⟨fun sound => ?_, fun sound => ?_, fun sound => ?_, fun sound => ?_⟩
  · have meets := (rdf_appends_or_fails _ []).mp sound
    obtain ⟨db, _, writer, _⟩ := meets _ _ (cache_loads _ rfl rfl rfl rfl)
    contradiction
  · have meets := (rdf_appends_or_fails _ []).mp sound
    obtain ⟨db, built, _, all, _⟩ := meets _ _ (cache_loads _ rfl rfl rfl rfl)
    obtain rfl := Option.some.inj built
    have third := all 2 (by decide)
    contradiction
  · have meets := (legacy_appends_or_fails _ [1]).mp sound
    have reads : LegacyReads (working nestedHits) [1] := ⟨rfl, by simp, rfl, rfl, rfl, rfl⟩
    have written : Written (working nestedHits) nestedHits ⟨4096, [9]⟩ := ⟨rfl, rfl, rfl⟩
    have flat : if Written (working nestedHits) nestedHits ⟨4096, [9]⟩ then Flat nestedHits
        else ContextClosed (working nestedHits) := meets reads
    rw [if_pos written, Flat] at flat
    revert flat
    decide
  · have meets := (rdf_appends_or_fails _ []).mp sound
    obtain ⟨db, built, _⟩ := meets _ _ (cache_loads _ rfl rfl rfl rfl)
    contradiction

end Failures

end RadeonPanel.Spm
