import RadeonPanel.Spm.DerivedSpmDb

set_option autoImplicit false

namespace RadeonPanel.Spm

open Bytes

inductive RgpFileWriterStatus where
  | ok | fileReadError | parserError | memoryError | fileWriteError | spmDbError | aborted
deriving DecidableEq, Repr

structure RdfChunk where
  identifier : String
  version : Nat
  header : List UInt8
  data : List UInt8
deriving DecidableEq, Repr

-- A trace in the legacy format is bytes, an RDF file is chunks.
inductive Trace where
  | legacy (bytes : List UInt8)
  | rdf (chunks : List RdfChunk)
deriving DecidableEq, Repr

-- What a call has opened and not closed. The stream is its caller's, who closes it.
structure Handles where
  rdfStream : Bool
  chunkFile : Bool
  chunkFileWriter : Bool
  counterContext : Bool
deriving DecidableEq, Repr

def Handles.none : Handles := ⟨false, false, false, false⟩

structure SpmSessionHeader where
  samplingInterval : UInt32
  numTimestamps : UInt32
deriving DecidableEq, Repr

structure SpmCounterDataHeader where
  gpuBlock : UInt32
  blockInstance : UInt32
  eventIndex : UInt32
  dataSize : UInt32
deriving DecidableEq, Repr

structure RawSpmCounter where
  gpuBlock : UInt32
  blockInstance : UInt32
  eventIndex : UInt32
  samples : List UInt32
deriving DecidableEq, Repr

-- What the chunk file answers, `none` for a call that fails.
structure ChunkFile where
  getChunkCount : String → Option Nat
  getChunkHeaderSize : String → Option Nat
  getChunkDataSize : String → Nat → Option Nat
  getChunkVersion : String → Option Nat
  readAsicInfo : Bool
  readSessionHeader : Option SpmSessionHeader
  readTimestamps : Option (Nat → UInt64)
  readCounterHeader : Nat → Option SpmCounterDataHeader
  readCounterData : Nat → Option (Nat → UInt32)

-- What the stream, the chunk library, the counter library and the builder of the
-- derived database answer. `builderCloses` says whether the builder closes the
-- counter context that it was given; a stream holds what it says was written.
-- `afterText` is what stands in the memory behind the C string made of a text.
structure Answers where
  openStream : Bool
  getSize : Bool
  seekStart : Bool
  read : Option Nat
  asicInfoFound : Bool
  spmDbFound : Bool
  loadRawSpmLegacy : Option (SpmTiming × List RawSpmCounter)
  seekEnd : Bool
  write : Bool
  written : Nat
  createStream : Bool
  openChunkFile : Bool
  chunkFile : ChunkFile
  createWriter : Bool
  writeChunk : Nat → Bool
  destroyWriter : Bool
  openCounterContext : Bool
  build : Bool → List RawSpmCounter → UInt32 → Option DerivedSpmDataBase
  builderCloses : Bool
  afterText : List UInt8 → Nat → UInt8

structure Outcome where
  status : RgpFileWriterStatus
  trace : Trace
  handles : Handles
deriving DecidableEq, Repr

section Legacy
variable (a : Answers)

def builderEnds (handles : Handles) : Handles :=
  { handles with counterContext := handles.counterContext && !a.builderCloses }

def appendChunkDerivedSpmDbLegacy (content : List UInt8) : Outcome :=
  if !a.getSize || content.isEmpty then ⟨.fileReadError, .legacy content, .none⟩
  else if !a.seekStart || a.read != some content.length then ⟨.fileReadError, .legacy content, .none⟩
  else if !a.asicInfoFound then ⟨.parserError, .legacy content, .none⟩
  else if !a.spmDbFound then ⟨.parserError, .legacy content, .none⟩
  else
    let handles := { Handles.none with counterContext := a.openCounterContext }
    match a.loadRawSpmLegacy with
    | none => ⟨.spmDbError, .legacy content, handles⟩
    | some (timing, raw) =>
        match a.build a.openCounterContext raw timing.sampleInterval with
        | none => ⟨.spmDbError, .legacy content, builderEnds a handles⟩
        | some db =>
            let serialized := serializeChunkDerivedSpmDb db timing
            if !a.seekEnd then ⟨.fileWriteError, .legacy content, builderEnds a handles⟩
            else if !a.write || a.written != serialized.length then
              ⟨.fileWriteError, .legacy (content ++ serialized.take a.written), builderEnds a handles⟩
            else ⟨.ok, .legacy (content ++ serialized.take a.written), builderEnds a handles⟩

end Legacy

section Load
variable (file : ChunkFile)

def sizeofAsicInfoRdfV2 : Nat := 576
def sizeofAsicInfoRdfV3 : Nat := 608
def sizeofSpmSessionHeader : Nat := 20

def deserializeChunkAsicInfo : RgpFileWriterStatus :=
  match file.getChunkCount "AsicInfo", file.getChunkDataSize "AsicInfo" 0, file.getChunkVersion "AsicInfo" with
  | some (_ + 1), some chunkSize, some version =>
      let desiredSize := if version = 2 then some sizeofAsicInfoRdfV2 else if version = 3 then some sizeofAsicInfoRdfV3 else none
      if some chunkSize = desiredSize ∧ file.readAsicInfo then .ok else .fileReadError
  | _, _, _ => .fileReadError

-- A count that cannot be had is taken for none.
def loadSpmSessionRdf : Option SpmTiming :=
  match (file.getChunkCount "SpmSession").getD 0 with
  | 0 => none
  | _ + 1 =>
      if file.getChunkHeaderSize "SpmSession" = some sizeofSpmSessionHeader then
        match file.readSessionHeader, file.readTimestamps with
        | some header, some timestamps =>
            some ⟨header.samplingInterval, (List.range header.numTimestamps.toNat).map timestamps⟩
        | _, _ => none
      else none

def loadCounterRdf (numSamples counterIdx : Nat) : Option RawSpmCounter :=
  match file.readCounterHeader counterIdx with
  | none => none
  | some header =>
      let dataSize := (file.getChunkDataSize "SpmCounterData" counterIdx).getD 0
      if dataSize = uint32 (header.dataSize.toNat * numSamples) ∧ (header.dataSize = 2 ∨ header.dataSize = 4) then
        match file.readCounterData counterIdx with
        | none => none
        | some samples =>
            some ⟨header.gpuBlock, header.blockInstance, header.eventIndex, (List.range numSamples).map samples⟩
      else none

def loadRawSpmRdf (numSamples : Nat) : Option (List RawSpmCounter) :=
  (List.range ((file.getChunkCount "SpmCounterData").getD 0)).mapM (loadCounterRdf file numSamples)

end Load

section Chunks
variable (after : List UInt8 → Nat → UInt8) (db : DerivedSpmDataBase)

def pciId : Nat := 0

-- Copies as many bytes from the C string, which ends at the first 0.
def copyText (text : List UInt8) (length : Nat) : List UInt8 :=
  (text.takeWhile (· ≠ 0) ++ 0 :: (List.range length).map (after text)).take length

def counterPositions : CounterIndexMap := (Keyed.keys DerivedSpmCounter.address db.counters).zipIdx

def derivedSpmSession : RdfChunk :=
  ⟨"DerivedSpmSes", 1, [], le 4 pciId ++ le 4 db.counters.length ++ le 4 db.groups.length⟩

def derivedSpmCounter (counter : DerivedSpmCounter) (counterIndex : Nat) : RdfChunk :=
  let nameLength := uint32 counter.displayName.length
  let descLength := uint32 counter.description.length
  let componentCount := uint32 counter.components.length
  ⟨"DerivedSpmCtr", 1,
    le 4 pciId ++ le 4 counterIndex ++ le 4 componentCount ++ le 4 counter.usageType.toNat ++ le 4 nameLength ++
      le 4 descLength,
    writeSamples db counter ++ writeWords ((counter.components.map (counterPositions db).at).take componentCount) ++
      copyText after counter.displayName nameLength ++ copyText after counter.description descLength⟩

def derivedSpmGroup (group : DerivedSpmGroup) (groupIndex : Nat) : RdfChunk :=
  let nameLength := uint32 group.name.length
  let descLength := uint32 group.description.length
  let memberCount := uint32 group.members.length
  ⟨"DerivedSpmGroup", 1,
    le 4 pciId ++ le 4 groupIndex ++ le 4 memberCount ++ le 4 nameLength ++ le 4 descLength,
    writeWords ((group.members.map (counterPositions db).at).take memberCount) ++ group.name.take nameLength ++
      group.description.take descLength⟩

def derivedChunks : List RdfChunk :=
  derivedSpmSession db :: db.counters.zipIdx.map (fun entry => derivedSpmCounter after db entry.1 entry.2) ++
    db.groups.zipIdx.map (fun entry => derivedSpmGroup db entry.1 entry.2)

end Chunks

section Rdf
variable (a : Answers)

-- Stops at the first chunk that cannot be written. Also gives what was.
def writeChunks : List RdfChunk → Nat → RgpFileWriterStatus × List RdfChunk
  | [], _ => (.ok, [])
  | chunk :: rest, call =>
      if a.writeChunk call then
        let later := writeChunks rest (call + 1)
        (later.1, chunk :: later.2)
      else (.fileWriteError, [])

def appendChunks (db : DerivedSpmDataBase) : RgpFileWriterStatus × List RdfChunk := writeChunks a (derivedChunks a.afterText db) 0

-- The chunks get into the file when the writer is destroyed.
def cleanup (handles : Handles) : Handles :=
  { handles with rdfStream := false, chunkFile := false, chunkFileWriter := false }

def appendChunkDerivedSpmDbRdf (chunks : List RdfChunk) : Outcome :=
  if !a.createStream then ⟨.fileReadError, .rdf chunks, cleanup .none⟩
  else
    let handles := { Handles.none with rdfStream := true }
    if !a.openChunkFile then ⟨.fileReadError, .rdf chunks, cleanup handles⟩
    else
      let handles := { handles with chunkFile := true }
      match deserializeChunkAsicInfo a.chunkFile with
      | .ok =>
          match loadSpmSessionRdf a.chunkFile with
          | none => ⟨.parserError, .rdf chunks, cleanup handles⟩
          | some session =>
              match loadRawSpmRdf a.chunkFile (uint32 session.timestamps.length) with
              | none => ⟨.parserError, .rdf chunks, cleanup handles⟩
              | some raw =>
                  if !a.openCounterContext then ⟨.spmDbError, .rdf chunks, cleanup handles⟩
                  else
                    let handles := { handles with counterContext := true }
                    match a.build true raw session.sampleInterval with
                    | none => ⟨.spmDbError, .rdf chunks, builderEnds a handles⟩
                    | some db =>
                        if a.createWriter then
                          let appended := (appendChunks a db).2
                          ⟨.ok, .rdf (if a.destroyWriter then chunks ++ appended else chunks),
                            builderEnds a (cleanup { handles with chunkFileWriter := true })⟩
                        else ⟨.ok, .rdf chunks, builderEnds a (cleanup handles)⟩
      | status => ⟨status, .rdf chunks, cleanup handles⟩

def appendChunkDerivedSpmDb (trace : Trace) : Outcome :=
  if !a.openStream then ⟨.fileReadError, trace, .none⟩
  else
    match trace with
    | .legacy content => appendChunkDerivedSpmDbLegacy a content
    | .rdf chunks => appendChunkDerivedSpmDbRdf a chunks

end Rdf

end RadeonPanel.Spm
