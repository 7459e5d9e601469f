import RadeonPanel.Base.History
import RadeonPanel.Base.Logged
import RadeonPanel.Spm.Append

set_option autoImplicit false

namespace RadeonPanel.CrashAnalysis.RgdUbertraceClient

open Interleaving Logged RadeonPanel.Spm

inductive Handle where
  | memoryStream
  | file
  | iterator
deriving DecidableEq, Repr

-- What Write does with the library's handles and with its own buffers, and what it has
-- the destination take.
inductive CopyEvent where
  | uses (handle : Handle)
  | closes (handle : Handle)
  | accesses (bufferSize count : Nat)
  | writes (chunk : RdfChunk)
deriving DecidableEq, Repr

-- The bytes a read has put into the buffer, be it that it fails then.
structure Filled where
  ok : Bool
  bytes : List UInt8
deriving DecidableEq, Repr

-- What the chunk library answers, `none` or false for a call that fails. The iterator's
-- answers are by how often it has been advanced, the file's by identifier and index.
structure RdfLibrary where
  streamFromReadOnlyMemory : Bool
  chunkFileOpenStream : Bool
  chunkFileCreateChunkIterator : Bool
  iteratorIsAtEnd : Nat → Option Bool
  iteratorGetChunkIdentifier : Nat → Option String
  iteratorGetChunkIndex : Nat → Option Nat
  getChunkDataSize : String → Nat → Option Nat
  readChunkData : String → Nat → Filled
  getChunkHeaderSize : String → Nat → Option Nat
  readChunkHeader : String → Nat → Filled
  getChunkVersion : String → Nat → Option Nat
  writeChunk : Nat → Bool
  iteratorAdvance : Nat → Bool

section Copy

-- `beyond` is what lies behind a buffer.
variable (lib : RdfLibrary) (beyond : Nat → UInt8)

def called (ok : Bool) : Option Unit := if ok then some () else none

def call {α : Type} (handle : Handle) (result : Option α) : Program CopyEvent α := do
  record (.uses handle)
  answer result

-- A vector of so many zeros, and what the library puts into it.
def fillVector (size : Nat) (filled : Filled) : Program CopyEvent (List UInt8) := do
  record (.uses .file)
  record (.accesses size filled.bytes.length)
  answer (if filled.ok then some (filled.bytes.take size ++ List.replicate (size - filled.bytes.length) 0) else none)

def readVector (vector : List UInt8) (count : Nat) : Program CopyEvent (List UInt8) := do
  record (.accesses vector.length count)
  pure ((List.range count).map fun i => vector.getD i (beyond i))

-- The header is read into a vector of the data's size.
def copyChunk (n : Nat) : Program CopyEvent Unit := do
  let identifier ← call .iterator (lib.iteratorGetChunkIdentifier n)
  let index ← call .iterator (lib.iteratorGetChunkIndex n)
  let dataSize ← call .file (lib.getChunkDataSize identifier index)
  let data ← fillVector dataSize (lib.readChunkData identifier index)
  let headerSize ← call .file (lib.getChunkHeaderSize identifier index)
  let headerData ← fillVector dataSize (lib.readChunkHeader identifier index)
  let version ← call .file (lib.getChunkVersion identifier index)
  let header ← readVector beyond headerData headerSize
  let data ← readVector beyond data dataSize
  answer (called (lib.writeChunk n))
  record (.writes ⟨identifier, version, header, data⟩)
  call .iterator (called (lib.iteratorAdvance n))

-- True stands for DD_RESULT_SUCCESS, false for DD_RESULT_UNKNOWN.
def writeChunks : Nat → Nat → List CopyEvent → Option (Bool × List CopyEvent)
  | 0, _, _ => none
  | fuel + 1, n, log =>
      let log := .uses .iterator :: log
      match lib.iteratorIsAtEnd n with
      | some false =>
          match copyChunk lib beyond n log with
          | (some (), log) => writeChunks fuel (n + 1) log
          | (none, log) => some (false, log)
      | none | some true => some (true, log)

-- Where the iterator is not created, the handles are closed and the copying goes on.
def write (fuel : Nat) : Option (Bool × List CopyEvent) :=
  if lib.streamFromReadOnlyMemory then
    let log := [.uses .memoryStream]
    if lib.chunkFileOpenStream then
      let log := .uses .file :: log
      let log := if lib.chunkFileCreateChunkIterator then log else .closes .memoryStream :: .closes .file :: log
      (writeChunks lib beyond fuel 0 log).map fun (result, log) =>
        (result, .closes .memoryStream :: .closes .file :: .closes .iterator :: log)
    else some (false, .closes .memoryStream :: log)
  else some (false, [])

end Copy

@[simp] theorem called_none (ok : Bool) : called ok = none ↔ ok = false := by cases ok <;> simp [called]

@[simp] theorem called_some (ok : Bool) (done : Unit) : called ok = some done ↔ ok = true := by cases ok <;> simp [called]

section Calls
variable {α : Type} {log : List CopyEvent} {failed : List CopyEvent → Prop}

theorem ends_call {done : α → List CopyEvent → Prop} (handle : Handle) (result : Option α)
    (given : ∀ value, result = some value → done value (.uses handle :: log))
    (refused : result = none → failed (.uses handle :: log)) : Ends (call handle result) log done failed :=
  ends_bind (ends_record _ (ends_answer result given refused))

theorem ends_fill {done : List UInt8 → List CopyEvent → Prop} (size : Nat) (filled : Filled)
    (given : filled.ok = true → ∀ vector, vector.length = size → (filled.bytes.length ≤ size → vector.take filled.bytes.length = filled.bytes) →
      done vector (.accesses size filled.bytes.length :: .uses .file :: log))
    (refused : filled.ok = false → failed (.accesses size filled.bytes.length :: .uses .file :: log)) :
    Ends (fillVector size filled) log done failed := by
  refine ends_bind (ends_record _ (ends_bind (ends_record _ (ends_answer _ (fun vector made => ?_) fun unmade => ?_))))
  · obtain ⟨ok, ⟨⟩⟩ := Option.ite_none_right_eq_some.mp made
    refine given ok _ (by simp; omega) fun within => ?_
    simp [List.take_of_length_le within]
  · exact refused (by simpa using unmade)

theorem ends_read {done : List UInt8 → List CopyEvent → Prop} (beyond : Nat → UInt8) (vector : List UInt8) (count : Nat)
    (given : ∀ bytes, (count ≤ vector.length → bytes = vector.take count) → done bytes (.accesses vector.length count :: log)) :
    Ends (readVector beyond vector count) log done failed := by
  refine ends_bind (ends_record _ (ends_pure _ (given _ fun within => ?_)))
  refine List.ext_getElem (by simp [within]) fun i less less' => ?_
  have inside : i < vector.length := by
    simp at less
    omega
  simp [inside]

end Calls

def numbered (dump : List RdfChunk) (identifier : String) (index : Nat) : Option RdfChunk :=
  (dump.filter fun chunk => chunk.identifier = identifier)[index]?

-- How the library reads a dump: a call that succeeds tells what is there, and chunks of
-- one identifier are numbered in their order.
structure RdfLibrary.Reads (lib : RdfLibrary) (dump : List RdfChunk) : Prop where
  atEnd : ∀ n ≤ dump.length, ∀ atEnd, lib.iteratorIsAtEnd n = some atEnd → (atEnd = true ↔ n = dump.length)
  identifier : ∀ n chunk, dump[n]? = some chunk → ∀ identifier, lib.iteratorGetChunkIdentifier n = some identifier →
    identifier = chunk.identifier
  index : ∀ n chunk, dump[n]? = some chunk → ∀ index, lib.iteratorGetChunkIndex n = some index →
    index = (dump.take n).countP fun before => before.identifier = chunk.identifier
  dataSize : ∀ identifier index chunk, numbered dump identifier index = some chunk →
    ∀ size, lib.getChunkDataSize identifier index = some size → size = chunk.data.length
  data : ∀ identifier index chunk, numbered dump identifier index = some chunk →
    (lib.readChunkData identifier index).bytes <+: chunk.data ∧
      ((lib.readChunkData identifier index).ok = true → (lib.readChunkData identifier index).bytes = chunk.data)
  headerSize : ∀ identifier index chunk, numbered dump identifier index = some chunk →
    ∀ size, lib.getChunkHeaderSize identifier index = some size → size = chunk.header.length
  header : ∀ identifier index chunk, numbered dump identifier index = some chunk →
    (lib.readChunkHeader identifier index).bytes <+: chunk.header ∧
      ((lib.readChunkHeader identifier index).ok = true → (lib.readChunkHeader identifier index).bytes = chunk.header)
  version : ∀ identifier index chunk, numbered dump identifier index = some chunk →
    ∀ version, lib.getChunkVersion identifier index = some version → version = chunk.version

-- A library whose calls all succeed.
def RdfLibrary.answering (dump : List RdfChunk) : RdfLibrary where
  streamFromReadOnlyMemory := true
  chunkFileOpenStream := true
  chunkFileCreateChunkIterator := true
  iteratorIsAtEnd n := some (decide (dump.length ≤ n))
  iteratorGetChunkIdentifier n := dump[n]?.map RdfChunk.identifier
  iteratorGetChunkIndex n := dump[n]?.map fun chunk => (dump.take n).countP fun before => before.identifier = chunk.identifier
  getChunkDataSize identifier index := (numbered dump identifier index).map fun chunk => chunk.data.length
  readChunkData identifier index := (numbered dump identifier index).elim ⟨false, []⟩ fun chunk => ⟨true, chunk.data⟩
  getChunkHeaderSize identifier index := (numbered dump identifier index).map fun chunk => chunk.header.length
  readChunkHeader identifier index := (numbered dump identifier index).elim ⟨false, []⟩ fun chunk => ⟨true, chunk.header⟩
  getChunkVersion identifier index := (numbered dump identifier index).map RdfChunk.version
  writeChunk _ := true
  iteratorAdvance _ := true

theorem answering_reads (dump : List RdfChunk) : (RdfLibrary.answering dump).Reads dump := by
  constructor
  case atEnd =>
    rintro n within atEnd ⟨⟩
    simp only [decide_eq_true_eq]
    omega
  all_goals intros; simp_all [RdfLibrary.answering]

theorem numbered_here (dump : List RdfChunk) (n : Nat) (chunk : RdfChunk) (here : dump[n]? = some chunk) :
    numbered dump chunk.identifier ((dump.take n).countP fun before => before.identifier = chunk.identifier) = some chunk := by
  obtain ⟨less, rfl⟩ := List.getElem?_eq_some_iff.mp here
  let same : RdfChunk → Bool := fun before => before.identifier = dump[n].identifier
  have parts : dump.filter same = (dump.take n).filter same ++ dump[n] :: (dump.drop (n + 1)).filter same := by
    conv_lhs => rw [← List.take_append_drop n dump, List.drop_eq_getElem_cons less]
    rw [List.filter_append, List.filter_cons_of_pos (by simp [same])]
  change (dump.filter same)[(dump.take n).countP same]? = some dump[n]
  rw [parts, List.countP_eq_length_filter, List.getElem?_append_right (Nat.le_refl _), Nat.sub_self]
  rfl

-- No handle after it was closed, and no buffer past its end.
def sound (event : CopyEvent) (older : List CopyEvent) : Prop :=
  match event with
  | .uses handle | .closes handle => .closes handle ∉ older
  | .accesses bufferSize count => count ≤ bufferSize
  | .writes _ => True

def written : List CopyEvent → List RdfChunk
  | [] => []
  | .writes chunk :: older => written older ++ [chunk]
  | _ :: older => written older

structure Faithful (dump : List RdfChunk) (success : Bool) (log : List CopyEvent) : Prop where
  sound : AtEach sound log
  copied : success = true → written log = dump

-- Every call about the chunk succeeds; and what is about to be written to the header's buffer.
def RdfLibrary.Copies (lib : RdfLibrary) (n : Nat) : Prop :=
  ∃ identifier index, lib.iteratorGetChunkIdentifier n = some identifier ∧ lib.iteratorGetChunkIndex n = some index ∧
    (lib.getChunkDataSize identifier index).isSome = true ∧ (lib.readChunkData identifier index).ok = true ∧
    (lib.getChunkHeaderSize identifier index).isSome = true ∧ (lib.readChunkHeader identifier index).ok = true ∧
    (lib.getChunkVersion identifier index).isSome = true ∧ lib.writeChunk n = true ∧ lib.iteratorAdvance n = true

def RdfLibrary.HeaderFits (lib : RdfLibrary) (n : Nat) : Prop :=
  ∀ identifier index size, lib.iteratorGetChunkIdentifier n = some identifier → lib.iteratorGetChunkIndex n = some index →
    lib.getChunkDataSize identifier index = some size → (lib.readChunkData identifier index).ok = true →
    (lib.getChunkHeaderSize identifier index).isSome = true → (lib.readChunkHeader identifier index).bytes.length ≤ size

section Keyed
variable {lib : RdfLibrary} {n index : Nat} {identifier : String} (identified : lib.iteratorGetChunkIdentifier n = some identifier)
  (indexed : lib.iteratorGetChunkIndex n = some index)
include identified indexed

theorem copies_iff : lib.Copies n ↔
    (lib.getChunkDataSize identifier index).isSome = true ∧ (lib.readChunkData identifier index).ok = true ∧
      (lib.getChunkHeaderSize identifier index).isSome = true ∧ (lib.readChunkHeader identifier index).ok = true ∧
      (lib.getChunkVersion identifier index).isSome = true ∧ lib.writeChunk n = true ∧ lib.iteratorAdvance n = true := by
  simp [RdfLibrary.Copies, identified, indexed]

theorem header_fits_iff : lib.HeaderFits n ↔
    ∀ size, lib.getChunkDataSize identifier index = some size → (lib.readChunkData identifier index).ok = true →
      (lib.getChunkHeaderSize identifier index).isSome = true → (lib.readChunkHeader identifier index).bytes.length ≤ size := by
  constructor
  · intro fits size
    exact fits identifier index size identified indexed
  · intro fits identifier' index' size identified' indexed'
    cases identified.symm.trans identified'
    cases indexed.symm.trans indexed'
    exact fits size

-- With everything asked that comes before it, the reading of the header is all that matters.
theorem header_fits_read (size : Nat) (sized : lib.getChunkDataSize identifier index = some size)
    (filled : (lib.readChunkData identifier index).ok = true) (headed : (lib.getChunkHeaderSize identifier index).isSome = true) :
    lib.HeaderFits n ↔ (lib.readChunkHeader identifier index).bytes.length ≤ size := by
  rw [header_fits_iff identified indexed]
  constructor
  · intro fits
    exact fits size sized filled headed
  · intro fits size' sized' _ _
    cases sized.symm.trans sized'
    exact fits

end Keyed

-- Nothing is closed while the chunks are copied.
def Open (log : List CopyEvent) : Prop := ∀ handle, .closes handle ∉ log

section Chunk
variable {lib : RdfLibrary} {dump : List RdfChunk} (beyond : Nat → UInt8) (documented : lib.Reads dump)
include documented

theorem copy_chunk_ends (n : Nat) (chunk : RdfChunk) (here : dump[n]? = some chunk) (log : List CopyEvent) (opened : Open log) :
    Ends (copyChunk lib beyond n) log
      (fun _ later => Open later ∧ lib.Copies n ∧ (AtEach sound later ↔ AtEach sound log ∧ lib.HeaderFits n) ∧
        (lib.HeaderFits n → written later = written log ++ [chunk]))
      (fun later => Open later ∧ ¬lib.Copies n ∧ (AtEach sound later ↔ AtEach sound log ∧ lib.HeaderFits n)) := by
  have known := numbered_here dump n chunk here
  unfold Open at opened
  refine ends_bind (ends_call _ _ (fun identifier identified => ?_) fun failed => ?_)
  swap
  · simp [Open, RdfLibrary.Copies, AtEach, sound, RdfLibrary.HeaderFits, failed, opened]
  obtain rfl := documented.identifier n chunk here identifier identified
  refine ends_bind (ends_call _ _ (fun index indexed => ?_) fun failed => ?_)
  swap
  · simp [Open, RdfLibrary.Copies, AtEach, sound, RdfLibrary.HeaderFits, identified, failed, opened]
  obtain rfl := documented.index n chunk here index indexed
  generalize (dump.take n).countP _ = index at known indexed ⊢
  have fits := header_fits_iff identified indexed
  rw [copies_iff identified indexed]
  refine ends_bind (ends_call _ _ (fun dataSize sized => ?_) fun failed => ?_)
  swap
  · simp [Open, AtEach, sound, fits, failed, opened]
  obtain rfl := documented.dataSize _ _ chunk known dataSize sized
  obtain ⟨dataPart, dataWhole⟩ := documented.data _ _ chunk known
  have dataWithin := dataPart.length_le
  refine ends_bind (ends_fill _ _ (fun filled data long copied => ?_) fun failed => ?_)
  swap
  · simp [Open, AtEach, sound, fits, failed, opened, dataWithin]
  refine ends_bind (ends_call _ _ (fun headerSize headed => ?_) fun failed => ?_)
  swap
  · simp [Open, AtEach, sound, fits, failed, opened, dataWithin]
  obtain rfl := documented.headerSize _ _ chunk known headerSize headed
  obtain ⟨headerPart, headerWhole⟩ := documented.header _ _ chunk known
  rw [header_fits_read identified indexed _ sized filled (by rw [headed]; rfl)]
  refine ends_bind (ends_fill _ _ (fun read headerData wide taken => ?_) fun failed => ?_)
  swap
  · simp [Open, AtEach, sound, failed, opened, dataWithin, and_comm]
  rw [headerWhole read] at taken ⊢
  refine ends_bind (ends_call _ _ (fun version versioned => ?_) fun failed => ?_)
  swap
  · simp [Open, AtEach, sound, failed, opened, dataWithin, and_comm]
  obtain rfl := documented.version _ _ chunk known version versioned
  refine ends_bind (ends_read beyond headerData _ fun header same => ends_bind (ends_read beyond data _ fun data' same' => ?_))
  have whole : data' = chunk.data := by
    rw [dataWhole filled] at copied
    rw [same' (Nat.le_of_eq long.symm), copied (Nat.le_refl _)]
  have kept : chunk.header.length ≤ chunk.data.length → header = chunk.header := fun within => by
    rw [same (by rw [wide]; exact within), taken within]
  refine ends_bind (ends_answer _ (fun _ written => ?_) fun failed => ?_)
  swap
  · have unwritten := (called_none _).mp failed
    simp [Open, AtEach, sound, unwritten, opened, dataWithin, wide, long, and_comm]
  have wrote := (called_some _ _).mp written
  refine ends_bind (ends_record _ (ends_call _ _ (fun _ advanced => ?_) fun failed => ?_))
  · have moved := (called_some _ _).mp advanced
    refine ⟨?_, ?_, ?_, fun within => ?_⟩
    · simp [Open, opened]
    · simp [sized, filled, headed, read, versioned, wrote, moved]
    · simp [AtEach, sound, opened, dataWithin, wide, long, and_comm]
    · rw [kept within, whole]
      rfl
  · have unmoved := (called_none _).mp failed
    simp [Open, AtEach, sound, unmoved, opened, dataWithin, wide, long, and_comm]

end Chunk

theorem copy_chunk_grows (lib : RdfLibrary) (beyond : Nat → UInt8) (n : Nat) : Grows (copyChunk lib beyond n) := by
  have calls : ∀ {α : Type} (handle : Handle) (result : Option α), Grows (call handle result) := fun handle result =>
    grows_bind (grows_record _) fun _ => grows_answer _
  have fills : ∀ size filled, Grows (fillVector size filled) := fun size filled =>
    grows_bind (grows_record _) fun _ => grows_bind (grows_record _) fun _ => grows_answer _
  have reads : ∀ vector count, Grows (readVector beyond vector count) := fun vector count =>
    grows_bind (grows_record _) fun _ => grows_pure _
  refine grows_bind (calls _ _) fun identifier => grows_bind (calls _ _) fun index => grows_bind (calls _ _) fun dataSize =>
    grows_bind (fills _ _) fun data => grows_bind (calls _ _) fun headerSize => grows_bind (fills _ _) fun headerData =>
    grows_bind (calls _ _) fun version => grows_bind (reads _ _) fun header => grows_bind (reads _ _) fun data' => ?_
  exact grows_bind (grows_answer _) fun _ => grows_bind (grows_record _) fun _ => calls _ _

theorem write_chunks_grow (lib : RdfLibrary) (beyond : Nat → UInt8) (fuel n : Nat) (log later : List CopyEvent) (success : Bool)
    (run : writeChunks lib beyond fuel n log = some (success, later)) : log <:+ later := by
  induction fuel generalizing n log with
  | zero => cases run
  | succ fuel ih =>
      have used := List.suffix_cons (CopyEvent.uses .iterator) log
      have copied := copy_chunk_grows lib beyond n (.uses .iterator :: log)
      rw [writeChunks] at run
      split at run
      · split at run <;> rename_i made
        · rw [made] at copied
          exact used.trans (copied.trans (ih (n + 1) _ run))
        · cases run
          rw [made] at copied
          exact used.trans copied
      · cases run
        exact used
      · cases run
        exact used

-- From the n-th chunk on, as long as the chunks before are copied.
def RdfLibrary.FitsFrom (lib : RdfLibrary) (count n : Nat) : Prop :=
  ∀ m, n ≤ m → m < count → (∀ k, n ≤ k → k < m → lib.Copies k) → (lib.iteratorIsAtEnd m).isSome = true ∧ lib.HeaderFits m

theorem fits_from_end (lib : RdfLibrary) (count : Nat) : lib.FitsFrom count count := fun _ low high =>
  absurd high (Nat.not_lt_of_le low)

theorem fits_from_step (lib : RdfLibrary) (count n : Nat) (less : n < count) :
    lib.FitsFrom count n ↔ (lib.iteratorIsAtEnd n).isSome = true ∧ lib.HeaderFits n ∧ (lib.Copies n → lib.FitsFrom count (n + 1)) := by
  constructor
  · intro fits
    obtain ⟨asked, header⟩ := fits n (Nat.le_refl n) less fun k low high => absurd high (Nat.not_lt_of_le low)
    refine ⟨asked, header, fun copied m low high before => fits m (Nat.le_of_succ_le low) high fun k from' until' => ?_⟩
    obtain rfl | later := Nat.eq_or_lt_of_le from'
    · exact copied
    · exact before k later until'
  · rintro ⟨asked, header, rest⟩ m low high before
    obtain rfl | later := Nat.eq_or_lt_of_le low
    · exact ⟨asked, header⟩
    · refine rest (before n (Nat.le_refl n) later) m later high fun k from' until' => ?_
      exact before k (Nat.le_of_succ_le from') until'

theorem fits_from_unasked (lib : RdfLibrary) (count n : Nat) (within : n ≤ count) (unknown : lib.iteratorIsAtEnd n = none) :
    lib.FitsFrom count n ↔ n = count := by
  obtain rfl | less := Nat.eq_or_lt_of_le within
  · exact iff_of_true (fits_from_end lib n) rfl
  · rw [fits_from_step lib count n less, unknown]
    exact iff_of_false (fun all => Bool.false_ne_true all.1) (Nat.ne_of_lt less)

-- A loop that has ended with success has copied as many chunks as it passed.
theorem success_faithful (dump : List RdfChunk) (n : Nat) (log : List CopyEvent) (within : n ≤ dump.length)
    (safe : AtEach sound log) (copied : written log = dump.take n) : Faithful dump true log ↔ n = dump.length := by
  constructor
  · intro faithful
    have short := congrArg List.length (copied.symm.trans (faithful.copied rfl))
    rw [List.length_take] at short
    omega
  · rintro rfl
    exact ⟨safe, fun _ => copied.trans List.take_length⟩

section Loop
variable {lib : RdfLibrary} {dump : List RdfChunk} (beyond : Nat → UInt8) (documented : lib.Reads dump)
include documented

theorem write_chunks_return (fuel n : Nat) (log : List CopyEvent) (opened : Open log) (within : n ≤ dump.length)
    (enough : dump.length - n < fuel) : ∃ ended, writeChunks lib beyond fuel n log = some ended := by
  induction fuel generalizing n log with
  | zero => exact absurd enough (Nat.not_lt_zero _)
  | succ fuel ih =>
      rw [writeChunks]
      split
      case h_1 atEnd =>
          have apart : n ≠ dump.length := fun last => Bool.false_ne_true ((documented.atEnd n within false atEnd).mpr last)
          have less : n < dump.length := Nat.lt_of_le_of_ne within apart
          have ends := copy_chunk_ends beyond documented n _ (List.getElem?_eq_getElem less) (.uses .iterator :: log) (by simpa [Open] using opened)
          unfold Ends at ends
          split at ends <;> rename_i made <;> rw [made]
          · exact ih (n + 1) _ ends.1 less (by omega)
          · exact ⟨_, rfl⟩
      case h_2 | h_3 => exact ⟨_, rfl⟩

theorem write_chunks_faithful (fuel n : Nat) (log later : List CopyEvent) (success : Bool) (opened : Open log)
    (within : n ≤ dump.length) (run : writeChunks lib beyond fuel n log = some (success, later)) :
    Open later ∧ (AtEach sound log → written log = dump.take n → (Faithful dump success later ↔ lib.FitsFrom dump.length n)) := by
  induction fuel generalizing n log with
  | zero => cases run
  | succ fuel ih =>
      have asked : Open (.uses .iterator :: log) := by simpa [Open] using opened
      have grown := write_chunks_grow lib beyond (fuel + 1) n log later success run
      rw [writeChunks] at run
      split at run
      case h_1 atEnd =>
          have apart : n ≠ dump.length := fun last => Bool.false_ne_true ((documented.atEnd n within false atEnd).mpr last)
          have less : n < dump.length := Nat.lt_of_le_of_ne within apart
          have ends := copy_chunk_ends beyond documented n _ (List.getElem?_eq_getElem less) (.uses .iterator :: log) asked
          rw [fits_from_step lib _ n less, atEnd]
          unfold Ends at ends
          split at ends <;> rename_i log' made <;> rw [made] at run
          · obtain ⟨opened', copies, safe', written'⟩ := ends
            obtain ⟨finally', rest⟩ := ih (n + 1) _ opened' less run
            refine ⟨finally', fun safe copied => ?_⟩
            by_cases fits : lib.HeaderFits n
            · have here := safe'.mpr ⟨⟨opened .iterator, safe⟩, fits⟩
              have one : written log' = dump.take (n + 1) := by rw [written' fits, List.take_succ_eq_append_getElem less, ← copied]; rfl
              rw [rest here one]
              exact ⟨fun after => ⟨rfl, fits, fun _ => after⟩, fun all => all.2.2 copies⟩
            · refine iff_of_false (fun faithful => fits ?_) fun all => fits all.2.1
              obtain ⟨events, parts⟩ := write_chunks_grow lib beyond fuel (n + 1) _ later success run
              have before := at_each_older sound events _ (parts ▸ faithful.sound)
              exact (safe'.mp before).2
          · cases run
            obtain ⟨opened', uncopied, safe'⟩ := ends
            refine ⟨opened', fun safe copied => ?_⟩
            constructor
            · intro faithful
              exact ⟨rfl, (safe'.mp faithful.sound).2, fun copies => absurd copies uncopied⟩
            · rintro ⟨_, fits, _⟩
              exact ⟨safe'.mpr ⟨⟨opened .iterator, safe⟩, fits⟩, fun success => absurd success Bool.false_ne_true⟩
      case h_2 unknown =>
          cases run
          refine ⟨asked, fun safe copied => ?_⟩
          rw [success_faithful dump n (.uses .iterator :: log) within ⟨opened .iterator, safe⟩ copied, fits_from_unasked lib _ n within unknown]
      case h_3 atEnd =>
          cases run
          refine ⟨asked, fun safe copied => ?_⟩
          obtain rfl := (documented.atEnd n within true atEnd).mp rfl
          rw [success_faithful dump _ (.uses .iterator :: log) within ⟨opened .iterator, safe⟩ copied]
          exact iff_of_true rfl (fits_from_end lib _)

end Loop

theorem header_fits_of_shorter {lib : RdfLibrary} {dump : List RdfChunk} (documented : lib.Reads dump) (n : Nat) (chunk : RdfChunk)
    (here : dump[n]? = some chunk) (shorter : chunk.header.length ≤ chunk.data.length) : lib.HeaderFits n := by
  intro identifier index size identified indexed sized _ _
  have known := numbered_here dump n chunk here
  obtain rfl := documented.identifier n chunk here identifier identified
  obtain rfl := documented.index n chunk here index indexed
  obtain rfl := documented.dataSize _ _ chunk known size sized
  exact Nat.le_trans (documented.header _ _ chunk known).1.length_le shorter

-- The handles are there for the copying, and no chunk that is reached has a longer header
-- than data or an end that cannot be told.
def RdfLibrary.Copyable (lib : RdfLibrary) (dump : List RdfChunk) : Prop :=
  lib.streamFromReadOnlyMemory = true → lib.chunkFileOpenStream = true →
    lib.chunkFileCreateChunkIterator = true ∧ lib.FitsFrom dump.length 0

theorem chunk_copy_faithful_iff (lib : RdfLibrary) (beyond : Nat → UInt8) (dump : List RdfChunk)
    (documented : lib.chunkFileCreateChunkIterator = true → lib.Reads dump) :
    (∃ fuel success log, write lib beyond fuel = some (success, log) ∧ Faithful dump success log) ↔ lib.Copyable dump := by
  by_cases stream : lib.streamFromReadOnlyMemory = true
  swap
  · refine iff_of_true ⟨0, false, [], by rw [write, if_neg stream], trivial, ?_⟩ fun streamed => absurd streamed stream
    exact fun success => absurd success Bool.false_ne_true
  by_cases file : lib.chunkFileOpenStream = true
  swap
  · refine iff_of_true ⟨0, false, _, by rw [write, if_pos stream, if_neg file], ?_, ?_⟩ fun _ opened => absurd opened file
    · simp [AtEach, sound]
    · exact fun success => absurd success Bool.false_ne_true
  simp only [write, RdfLibrary.Copyable, stream, file, if_true, true_implies]
  by_cases iterator : lib.chunkFileCreateChunkIterator = true
  · have reads := documented iterator
    simp only [iterator, if_true, true_and]
    have opened : Open [.uses .file, .uses .memoryStream] := by simp [Open]
    have safe : AtEach sound [.uses .file, .uses .memoryStream] := by simp [AtEach, sound]
    constructor
    · rintro ⟨fuel, success, log, run, faithful⟩
      obtain ⟨⟨result, inner⟩, ended, same⟩ := Option.map_eq_some_iff.mp run
      cases same
      obtain ⟨_, exactly⟩ := write_chunks_faithful beyond reads fuel 0 _ inner result opened (Nat.zero_le _) ended
      exact (exactly safe rfl).mp ⟨faithful.sound.2.2.2, faithful.copied⟩
    · intro fits
      obtain ⟨⟨success, inner⟩, ended⟩ := write_chunks_return beyond reads (dump.length + 1) 0 _ opened (Nat.zero_le _) (Nat.lt_succ_self _)
      obtain ⟨opened', exactly⟩ := write_chunks_faithful beyond reads _ 0 _ inner success opened (Nat.zero_le _) ended
      have faithful := (exactly safe rfl).mpr fits
      refine ⟨_, success, _, Option.map_eq_some_iff.mpr ⟨_, ended, rfl⟩, ?_, faithful.copied⟩
      unfold Open at opened'
      simp [AtEach, sound, opened', faithful.sound]
  · refine iff_of_false ?_ fun all => iterator all.1
    rintro ⟨fuel, success, log, run, faithful⟩
    rw [if_neg iterator] at run
    obtain ⟨⟨result, inner⟩, ended, same⟩ := Option.map_eq_some_iff.mp run
    cases same
    have grown := write_chunks_grow lib beyond fuel 0 _ inner result ended
    -- The file was closed before the copying, and is closed again behind it.
    have again := faithful.sound.2.1
    refine again (List.mem_cons_of_mem _ (grown.subset ?_))
    simp

theorem chunks_with_short_headers_copied :
    let dump : List RdfChunk := [⟨"CodeObject", 1, [1], [2, 3]⟩, ⟨"CrashData", 2, [], [4]⟩, ⟨"CodeObject", 1, [5], [6]⟩]
    ∃ fuel success log, write (.answering dump) (fun _ => 0) fuel = some (success, log) ∧ Faithful dump success log := by
  intro dump
  refine (chunk_copy_faithful_iff (.answering dump) (fun _ => 0) dump fun _ => answering_reads dump).mpr fun _ _ => ⟨rfl, ?_⟩
  intro m _ less _
  have shorter : ∀ chunk ∈ dump, chunk.header.length ≤ chunk.data.length := by decide
  exact ⟨rfl, header_fits_of_shorter (answering_reads dump) m _ (List.getElem?_eq_getElem less) (shorter _ (List.getElem_mem less))⟩

theorem long_header_overruns :
    let dump : List RdfChunk := [⟨"CrashData", 1, [1, 2], [3]⟩]
    (RdfLibrary.answering dump).Reads dump ∧
      ∃ log, write (.answering dump) (fun _ => 0) 2 = some (true, log) ∧ .accesses 1 2 ∈ log ∧ ¬Faithful dump true log := by
  intro dump
  have accessed : ∃ log, write (.answering dump) (fun _ => 0) 2 = some (true, log) ∧ .accesses 1 2 ∈ log := ⟨_, rfl, by decide⟩
  obtain ⟨log, run, member⟩ := accessed
  refine ⟨answering_reads dump, log, run, member, fun faithful => ?_⟩
  obtain ⟨_, within⟩ := at_each_mem sound _ log faithful.sound member
  exact absurd within (by decide : ¬2 ≤ 1)

-- Without an iterator the file and the stream are closed twice, and the iterator that never was is used.
example :
    write { RdfLibrary.answering [] with chunkFileCreateChunkIterator := false } (fun _ => 0) 1 =
      some (true, [.closes .memoryStream, .closes .file, .closes .iterator, .uses .iterator, .closes .memoryStream,
        .closes .file, .uses .file, .uses .memoryStream]) := rfl

end RadeonPanel.CrashAnalysis.RgdUbertraceClient
