import Mathlib.Algebra.Group.Int.Defs
import Mathlib.Algebra.Group.Nat.Defs
import RadeonPanel.Base.Logged
import RadeonPanel.Spm.ChunkLookup

set_option autoImplicit false

namespace RadeonPanel.Profiling.RgpFileValidator

open Logged
open Spm (int32 sizeofChunkHeader)
open Spm.Legacy

inductive RgpFileValidatorStatus where
  | ok
  | fileReadError
  | parserError
  | memoryError
  | spmError
  | missingChunkError
deriving DecidableEq, Repr

def kRgpFileMagicNumber : Nat := 0x50303042

def kRgpFileChunkTypeSpmDatabase : Nat := 8

def kRgpFileChunkTypeSpmDbSizeMembersAddedMajorVersion : Int := 2

def sizeofFileHeader : Nat := 56

-- A sum of 32-bit numbers that is kept in 32 bits.
def wrapped (n : Int) : Int := (BitVec.ofInt 32 n).toInt

-- Where RgpFileChunkSpmDb and RgpFileChunkSpmDbV1 have their number_of_timestamps.
def timestampsMember (header : RgpFileChunkHeader) : Int :=
  if kRgpFileChunkTypeSpmDbSizeMembersAddedMajorVersion ≤ header.versionMajor then 24 else 20

section Validate
variable (bytes : Int → UInt8) (fileSize : Nat)

-- The offset behind the chunk, none at the end of the file.
def rgpFileParserParseNextChunk (nextChunkOffset : Int) : Program Extent (Option Int) :=
  if fileSize ≤ nextChunkOffset then pure none
  else do
    record ⟨nextChunkOffset + 8, 4⟩
    pure (some (wrapped (nextChunkOffset + (readChunkHeader bytes nextChunkOffset).sizeInBytes)))

def Malformed (sizeInBytes nextChunkOffset : Int) : Prop :=
  sizeInBytes ≤ 0 ∨ nextChunkOffset < 0 ∨ fileSize < nextChunkOffset ∨ sizeInBytes < sizeofChunkHeader ∨ fileSize < sizeInBytes

instance (sizeInBytes nextChunkOffset : Int) : Decidable (Malformed fileSize sizeInBytes nextChunkOffset) :=
  inferInstanceAs (Decidable (_ ∨ _))

def validateChunk (chunk nextChunkOffset : Int) : Program Extent RgpFileValidatorStatus := do
  let header := readChunkHeader bytes chunk
  record ⟨chunk + 8, 4⟩
  if Malformed fileSize header.sizeInBytes nextChunkOffset then pure .parserError
  else do
    record ⟨chunk, 1⟩
    if header.chunkType = kRgpFileChunkTypeSpmDatabase then do
      record ⟨chunk + 6, 2⟩
      record ⟨chunk + timestampsMember header, 4⟩
      pure (if readValue bytes (chunk + timestampsMember header) 4 = 0 then .spmError else .ok)
    else pure .ok

-- The next chunk is parsed before the status of the last one is looked at.
def validateChunks : Nat → Int → RgpFileValidatorStatus → Program Extent RgpFileValidatorStatus
  | 0, _, _ => answer none
  | fuel + 1, nextChunkOffset, retVal => do
      let parsed ← rgpFileParserParseNextChunk bytes fileSize nextChunkOffset
      match parsed with
      | none => pure retVal
      | some next =>
          if retVal = .ok then do
            let status ← validateChunk bytes fileSize nextChunkOffset next
            validateChunks fuel next status
          else pure retVal

-- From where the file is in the buffer.
def rgpValidateProfileData : Program Extent RgpFileValidatorStatus :=
  if fileSize < sizeofFileHeader then pure .parserError
  else do
    record ⟨0, sizeofFileHeader⟩
    if readValue bytes 0 4 = kRgpFileMagicNumber then validateChunks bytes fileSize (fileSize + 3) (chunkOffset bytes) .ok
    else pure .parserError

end Validate

section Chunks
variable (file : List UInt8)

def chunkAt (chunk : Int) : RgpFileChunkHeader := readChunkHeader (memory file fun _ => 0) chunk

def behind (chunk : Int) : Int := chunk + (chunkAt file chunk).sizeInBytes

-- The chunk lies completely in the file, and holds its header.
def Complete (chunk : Int) : Prop := 0 ≤ chunk ∧ sizeofChunkHeader ≤ (chunkAt file chunk).sizeInBytes ∧ behind file chunk ≤ file.length

def IsSpm (chunk : Int) : Prop := (chunkAt file chunk).chunkType = kRgpFileChunkTypeSpmDatabase

instance (chunk : Int) : Decidable (IsSpm file chunk) := inferInstanceAs (Decidable (_ = _))

def timestampsAddress (chunk : Int) : Int := chunk + timestampsMember (chunkAt file chunk)

def numberOfTimestamps (chunk : Int) : Nat := readValue (memory file fun _ => 0) (timestampsAddress file chunk) 4

-- A chunk that is long enough for its number of timestamps.
def Counted (chunk : Int) : Prop := timestampsMember (chunkAt file chunk) + 4 ≤ (chunkAt file chunk).sizeInBytes

def ZeroTimestamps (chunk : Int) : Prop := IsSpm file chunk ∧ Counted file chunk ∧ numberOfTimestamps file chunk = 0

-- The chunks from an offset up to the end of the file, which they end at exactly.
inductive ValidChain : Int → Prop where
  | ended : ValidChain file.length
  | chunk (offset : Int) (complete : Complete file offset) (sampled : ¬ ZeroTimestamps file offset)
      (rest : ValidChain (behind file offset)) : ValidChain offset

def fileChunkOffset : Int := chunkOffset (memory file fun _ => 0)

def HasMagic : Prop := readValue (memory file fun _ => 0) 0 4 = kRgpFileMagicNumber

structure ValidFile : Prop where
  header : sizeofFileHeader ≤ file.length
  magic : HasMagic file
  chain : ValidChain file (fileChunkOffset file)

-- A parse at the offset ends the loop or finds a size in the file.
def Parses (offset : Int) : Prop := file.length ≤ offset ∨ Inside file ⟨offset + 8, 4⟩

-- How the walk over the chunks comes to its end without leaving the file.
inductive Handled : Int → Prop where
  | ended : Handled file.length
  | stopped (offset : Int) (before : offset < file.length) (cut : ¬ Complete file offset) (sized : Inside file ⟨offset + 8, 4⟩)
      (refused : 0 ≤ offset ∨ Malformed file.length (chunkAt file offset).sizeInBytes (wrapped (behind file offset)))
      (left : Parses file (wrapped (behind file offset))) : Handled offset
  | passed (offset : Int) (complete : Complete file offset)
      (sampled : IsSpm file offset → Inside file ⟨timestampsAddress file offset, 4⟩ ∧ numberOfTimestamps file offset ≠ 0)
      (rest : Handled (behind file offset)) : Handled offset
  | zero (offset : Int) (complete : Complete file offset) (spm : IsSpm file offset)
      (sized : Inside file ⟨timestampsAddress file offset, 4⟩) (none : numberOfTimestamps file offset = 0)
      (invalid : Counted file offset ∨ ¬ ValidChain file (behind file offset)) (left : Parses file (behind file offset)) : Handled offset

def Sound : Prop := file.length < sizeofFileHeader ∨ ¬ HasMagic file ∨ Handled file (fileChunkOffset file)

end Chunks

theorem wrapped_same (n : Int) (low : -2 ^ 31 ≤ n) (high : n < 2 ^ 31) : wrapped n = n :=
  BitVec.toInt_ofInt_eq_self (by decide) low high

theorem wrapped_above (n : Int) (low : 2 ^ 31 ≤ n) (high : n < 2 ^ 32) : wrapped n < 0 := by
  rw [wrapped, BitVec.toInt_ofInt, Int.bmod_def]
  omega

section Steps
variable {file : List UInt8} (beyond : Int → UInt8)

theorem size_same (offset : Int) (sized : Inside file ⟨offset + 8, 4⟩) :
    (readChunkHeader (memory file beyond) offset).sizeInBytes = (chunkAt file offset).sizeInBytes := by
  have same := read_same beyond (fun _ => 0) (offset + 8) 4 sized
  simp only [chunkAt, readChunkHeader, same]

theorem complete_header (offset : Int) (complete : Complete file offset) : Inside file ⟨offset, sizeofChunkHeader⟩ := by
  obtain ⟨low, long, high⟩ := complete
  rw [behind] at high
  exact ⟨low, by simp only; omega⟩

theorem complete_same (offset : Int) (complete : Complete file offset) :
    readChunkHeader (memory file beyond) offset = chunkAt file offset :=
  header_same beyond (fun _ => 0) offset (complete_header offset complete)

theorem complete_parts (offset : Int) (complete : Complete file offset) :
    Inside file ⟨offset + 8, 4⟩ ∧ Inside file ⟨offset, 1⟩ ∧ Inside file ⟨offset + 6, 2⟩ := by
  obtain ⟨low, high⟩ := complete_header offset complete
  simp only [sizeofChunkHeader] at low high
  refine ⟨⟨?_, ?_⟩, ⟨?_, ?_⟩, ⟨?_, ?_⟩⟩ <;> simp only <;> omega

variable (small : file.length < 2 ^ 31)

include small

-- A chunk that does not lie in the file is refused, whatever was read for its size.
theorem cut_malformed (offset : Int) (low : 0 ≤ offset) (before : offset < file.length) (cut : ¬ Complete file offset) :
    Malformed file.length (readChunkHeader (memory file beyond) offset).sizeInBytes
      (wrapped (offset + (readChunkHeader (memory file beyond) offset).sizeInBytes)) := by
  have bounded : (readChunkHeader (memory file beyond) offset).sizeInBytes < 2 ^ 31 := by
    rw [header_size]
    exact Spm.int32_lt _
  have same : Inside file ⟨offset + 8, 4⟩ →
      (readChunkHeader (memory file beyond) offset).sizeInBytes = (chunkAt file offset).sizeInBytes := size_same beyond offset
  generalize (readChunkHeader (memory file beyond) offset).sizeInBytes = size at bounded same
  by_cases short : size < sizeofChunkHeader
  · exact .inr (.inr (.inr (.inl short)))
  have long : file.length < offset + size := by
    by_contra within
    have sized : Inside file ⟨offset + 8, 4⟩ := by
      simp only [sizeofChunkHeader] at short
      exact ⟨by simp only; omega, by simp only; omega⟩
    refine cut ⟨low, ?_, ?_⟩
    · rw [← same sized]; omega
    · rw [behind, ← same sized]; omega
  by_cases high : offset + size < 2 ^ 31
  · rw [wrapped_same _ (by simp only [sizeofChunkHeader] at short; omega) high]
    exact .inr (.inr (.inl long))
  · exact .inr (.inl (wrapped_above _ (by omega) (by omega)))

theorem complete_regular (offset : Int) (complete : Complete file offset) :
    wrapped (behind file offset) = behind file offset ∧
      ¬ Malformed file.length (chunkAt file offset).sizeInBytes (behind file offset) := by
  obtain ⟨low, long, high⟩ := complete
  have end' : behind file offset = offset + (chunkAt file offset).sizeInBytes := rfl
  simp only [sizeofChunkHeader] at long
  refine ⟨wrapped_same _ (by omega) (by omega), ?_⟩
  simp only [Malformed, sizeofChunkHeader]
  omega

end Steps

section Needs
variable {file : List UInt8} {beyond : Int → UInt8} {fuel : Nat} {offset : Int} {status final : RgpFileValidatorStatus} {checked later : Prop}

theorem parse_end_needs (done : file.length ≤ offset) :
    Needs (rgpFileParserParseNextChunk (memory file beyond) file.length offset) (Inside file) (some none) True := by
  rw [rgpFileParserParseNextChunk, if_pos done]
  exact needs_pure none

theorem parse_needs (before : offset < file.length) :
    Needs (rgpFileParserParseNextChunk (memory file beyond) file.length offset) (Inside file)
      (some (some (wrapped (offset + (readChunkHeader (memory file beyond) offset).sizeInBytes)))) (Inside file ⟨offset + 8, 4⟩) := by
  rw [rgpFileParserParseNextChunk, if_neg (Int.not_le.mpr before)]
  exact needs_congr (needs_bind (needs_record _) (needs_pure _)) (Iff.of_eq (and_true _))

theorem chunks_end_needs (done : file.length ≤ offset) :
    Needs (validateChunks (memory file beyond) file.length (fuel + 1) offset status) (Inside file) (some status) True :=
  needs_congr (needs_bind (parse_end_needs done) (needs_pure status)) (Iff.of_eq (and_true _))

-- After an error there is one more parse.
theorem chunks_stopped_needs (failed : status ≠ .ok) :
    Needs (validateChunks (memory file beyond) file.length (fuel + 1) offset status) (Inside file) (some status) (Parses file offset) := by
  by_cases done : file.length ≤ offset
  · exact needs_congr (chunks_end_needs done) ⟨fun _ => .inl done, fun _ => trivial⟩
  · have stopped (goOn : Program Extent RgpFileValidatorStatus) :
        Needs (if status = .ok then goOn else pure status) (Inside file) (some status) True := by
      rw [if_neg failed]
      exact needs_pure status
    refine needs_congr (needs_bind (parse_needs (Int.not_le.mp done)) (stopped _)) ?_
    exact ⟨fun parsed => .inr parsed.1, fun parses => ⟨parses.resolve_left done, trivial⟩⟩

theorem chunks_step_needs (before : offset < file.length) {next : Int}
    (follows : wrapped (offset + (readChunkHeader (memory file beyond) offset).sizeInBytes) = next)
    (check : Needs (validateChunk (memory file beyond) file.length offset next) (Inside file) (some status) checked)
    (rest : Needs (validateChunks (memory file beyond) file.length fuel next status) (Inside file) (some final) later) :
    Needs (validateChunks (memory file beyond) file.length (fuel + 1) offset .ok) (Inside file) (some final)
      (Inside file ⟨offset + 8, 4⟩ ∧ checked ∧ later) := by
  subst follows
  exact needs_bind (parse_needs before) (needs_bind check rest)

theorem chunk_malformed_needs {next : Int}
    (malformed : Malformed file.length (readChunkHeader (memory file beyond) offset).sizeInBytes next) :
    Needs (validateChunk (memory file beyond) file.length offset next) (Inside file) (some .parserError) (Inside file ⟨offset + 8, 4⟩) := by
  have refused (goOn : Program Extent RgpFileValidatorStatus) :
      Needs (if Malformed file.length (readChunkHeader (memory file beyond) offset).sizeInBytes next then pure .parserError else goOn)
        (Inside file) (some .parserError) True := by
    rw [if_pos malformed]
    exact needs_pure _
  exact needs_congr (needs_bind (needs_record _) (refused _)) (Iff.of_eq (and_true _))

theorem chunk_other_needs {next : Int}
    (regular : ¬ Malformed file.length (readChunkHeader (memory file beyond) offset).sizeInBytes next)
    (other : (readChunkHeader (memory file beyond) offset).chunkType ≠ kRgpFileChunkTypeSpmDatabase) :
    Needs (validateChunk (memory file beyond) file.length offset next) (Inside file) (some .ok)
      (Inside file ⟨offset + 8, 4⟩ ∧ Inside file ⟨offset, 1⟩) := by
  have rest (refuse spm : Program Extent RgpFileValidatorStatus) :
      Needs (if Malformed file.length (readChunkHeader (memory file beyond) offset).sizeInBytes next then refuse
        else do
          record ⟨offset, 1⟩
          if (readChunkHeader (memory file beyond) offset).chunkType = kRgpFileChunkTypeSpmDatabase then spm else pure .ok)
        (Inside file) (some .ok) (Inside file ⟨offset, 1⟩) := by
    rw [if_neg regular, if_neg other]
    exact needs_congr (needs_bind (needs_record _) (needs_pure _)) (Iff.of_eq (and_true _))
  exact needs_bind (needs_record _) (rest _ _)

theorem chunk_spm_needs {next : Int}
    (regular : ¬ Malformed file.length (readChunkHeader (memory file beyond) offset).sizeInBytes next)
    (spm : (readChunkHeader (memory file beyond) offset).chunkType = kRgpFileChunkTypeSpmDatabase) {address : Int}
    (member : offset + timestampsMember (readChunkHeader (memory file beyond) offset) = address) :
    Needs (validateChunk (memory file beyond) file.length offset next) (Inside file)
      (some (if readValue (memory file beyond) address 4 = 0 then .spmError else .ok))
      (Inside file ⟨offset + 8, 4⟩ ∧ Inside file ⟨offset, 1⟩ ∧ Inside file ⟨offset + 6, 2⟩ ∧ Inside file ⟨address, 4⟩) := by
  subst member
  have rest (refuse other : Program Extent RgpFileValidatorStatus) (answered : RgpFileValidatorStatus) (address : Int) :
      Needs (if Malformed file.length (readChunkHeader (memory file beyond) offset).sizeInBytes next then refuse
        else do
          record ⟨offset, 1⟩
          if (readChunkHeader (memory file beyond) offset).chunkType = kRgpFileChunkTypeSpmDatabase then do
            record ⟨offset + 6, 2⟩
            record ⟨address, 4⟩
            pure answered
          else other)
        (Inside file) (some answered) (Inside file ⟨offset, 1⟩ ∧ Inside file ⟨offset + 6, 2⟩ ∧ Inside file ⟨address, 4⟩) := by
    rw [if_neg regular, if_pos spm]
    refine needs_congr (needs_bind (needs_record _) (needs_bind (needs_record _) (needs_bind (needs_record _) (needs_pure _)))) ?_
    rw [and_true]
  exact needs_bind (needs_record _) (rest _ _ _ _)

end Needs

section Walk
variable {file : List UInt8} {offset : Int}

theorem complete_before (complete : Complete file offset) : 0 ≤ offset ∧ offset < file.length := by
  obtain ⟨low, high⟩ := complete_header offset complete
  simp only [sizeofChunkHeader] at low high
  omega

theorem valid_cut (before : offset < file.length) (cut : ¬ Complete file offset) : ¬ ValidChain file offset := by
  intro valid
  cases valid with
  | ended => exact Int.lt_irrefl _ before
  | chunk _ complete => exact cut complete

theorem valid_complete_iff (complete : Complete file offset) :
    ValidChain file offset ↔ ¬ ZeroTimestamps file offset ∧ ValidChain file (behind file offset) := by
  constructor
  · intro valid
    cases valid with
    | ended => exact absurd (complete_before complete).2 (Int.lt_irrefl _)
    | chunk _ _ sampled rest => exact ⟨sampled, rest⟩
  · rintro ⟨sampled, rest⟩
    exact .chunk offset complete sampled rest

theorem handled_cut_iff (before : offset < file.length) (cut : ¬ Complete file offset) :
    Handled file offset ↔ Inside file ⟨offset + 8, 4⟩ ∧
      (0 ≤ offset ∨ Malformed file.length (chunkAt file offset).sizeInBytes (wrapped (behind file offset))) ∧
        Parses file (wrapped (behind file offset)) := by
  constructor
  · intro handled
    cases handled with
    | ended => exact absurd before (Int.lt_irrefl _)
    | stopped _ _ _ sized refused left => exact ⟨sized, refused, left⟩
    | passed _ complete => exact absurd complete cut
    | zero _ complete => exact absurd complete cut
  · rintro ⟨sized, refused, left⟩
    exact .stopped offset before cut sized refused left

theorem handled_complete_iff (complete : Complete file offset) :
    Handled file offset ↔
      (IsSpm file offset → Inside file ⟨timestampsAddress file offset, 4⟩) ∧
        if IsSpm file offset ∧ numberOfTimestamps file offset = 0 then
          (Counted file offset ∨ ¬ ValidChain file (behind file offset)) ∧ Parses file (behind file offset)
        else Handled file (behind file offset) := by
  constructor
  · intro handled
    cases handled with
    | ended => exact absurd (complete_before complete).2 (Int.lt_irrefl _)
    | stopped _ _ cut => exact absurd complete cut
    | passed _ _ sampled rest =>
        refine ⟨fun spm => (sampled spm).1, ?_⟩
        rw [if_neg fun none => (sampled none.1).2 none.2]
        exact rest
    | zero _ _ spm sized none invalid left =>
        refine ⟨fun _ => sized, ?_⟩
        rw [if_pos ⟨spm, none⟩]
        exact ⟨invalid, left⟩
  · rintro ⟨sized, rest⟩
    by_cases none : IsSpm file offset ∧ numberOfTimestamps file offset = 0
    · rw [if_pos none] at rest
      exact .zero offset complete none.1 (sized none.1) none.2 rest.1 rest.2
    · rw [if_neg none] at rest
      exact .passed offset complete (fun spm => ⟨sized spm, fun zero => none ⟨spm, zero⟩⟩) rest

variable (beyond : Int → UInt8) {fuel : Nat}

-- What the loop does from an offset, and that it is right exactly where the walk is handled.
def Walked (file : List UInt8) (fuel : Nat) (offset : Int) : Prop := ∃ status checked,
  Needs (validateChunks (memory file beyond) file.length fuel offset .ok) (Inside file) (some status) checked ∧
    (checked ∧ (status = .ok ↔ ValidChain file offset) ↔ Handled file offset)

theorem walked_end : Walked beyond file (fuel + 1) file.length := by
  refine ⟨.ok, True, chunks_end_needs (Int.le_refl _), ?_⟩
  exact ⟨fun _ => .ended, fun _ => ⟨trivial, fun _ => .ended, fun _ => rfl⟩⟩

theorem walked_past (past : file.length < offset) : Walked beyond file (fuel + 1) offset := by
  refine ⟨.ok, True, chunks_end_needs (Int.le_of_lt past), ?_⟩
  have incomplete : ¬ Complete file offset := fun complete => Int.lt_asymm past (complete_before complete).2
  constructor
  · rintro ⟨_, valid⟩
    cases valid.mp rfl with
    | ended => exact absurd past (Int.lt_irrefl _)
    | chunk _ complete => exact absurd complete incomplete
  · intro handled
    cases handled with
    | ended => exact absurd past (Int.lt_irrefl _)
    | stopped _ before => exact absurd past (Int.lt_asymm before)
    | passed _ complete => exact absurd complete incomplete
    | zero _ complete => exact absurd complete incomplete

-- A chunk that is refused: its size and that of one more parse are read.
theorem walked_refused (before : offset < file.length) (cut : ¬ Complete file offset)
    (malformed : Malformed file.length (readChunkHeader (memory file beyond) offset).sizeInBytes
      (wrapped (offset + (readChunkHeader (memory file beyond) offset).sizeInBytes))) : Walked beyond file (fuel + 2) offset := by
  refine ⟨.parserError, _, chunks_step_needs before rfl (chunk_malformed_needs malformed) (chunks_stopped_needs (by decide)), ?_⟩
  rw [handled_cut_iff before cut]
  have same : Inside file ⟨offset + 8, 4⟩ →
      (readChunkHeader (memory file beyond) offset).sizeInBytes = (chunkAt file offset).sizeInBytes := size_same beyond offset
  constructor
  · rintro ⟨⟨sized, _, left⟩, _⟩
    rw [same sized] at malformed left
    exact ⟨sized, .inr malformed, left⟩
  · rintro ⟨sized, _, left⟩
    rw [same sized]
    refine ⟨⟨sized, sized, left⟩, ?_⟩
    simp only [reduceCtorEq, valid_cut before cut]

variable (small : file.length < 2 ^ 31)

include small

theorem walked_passed (complete : Complete file offset) (other : ¬ IsSpm file offset) (rest : Walked beyond file fuel (behind file offset)) :
    Walked beyond file (fuel + 1) offset := by
  obtain ⟨status, checked, needs, right⟩ := rest
  obtain ⟨same, regular⟩ := complete_regular small offset complete
  obtain ⟨sized, typed, _⟩ := complete_parts offset complete
  have header := complete_same beyond offset complete
  refine ⟨status, _, chunks_step_needs (complete_before complete).2 (by rw [header]; exact same)
    (chunk_other_needs (by rw [header]; exact regular) (by rw [header]; exact other)) needs, ?_⟩
  rw [handled_complete_iff complete, if_neg fun none => other none.1, valid_complete_iff complete, ← right]
  simp only [sized, typed, ZeroTimestamps, other, true_and, false_and, false_implies, not_false_eq_true]

theorem walked_spm (complete : Complete file offset) (spm : IsSpm file offset) (rest : Walked beyond file (fuel + 1) (behind file offset)) :
    Walked beyond file (fuel + 2) offset := by
  obtain ⟨status, checked, needs, right⟩ := rest
  obtain ⟨same, regular⟩ := complete_regular small offset complete
  obtain ⟨sized, typed, versioned⟩ := complete_parts offset complete
  have header := complete_same beyond offset complete
  have check : Needs (validateChunk (memory file beyond) file.length offset (behind file offset)) _ _ _ :=
    chunk_spm_needs (by rw [header]; exact regular) (by rw [header]; exact spm) (by rw [header]; rfl : _ = timestampsAddress file offset)
  have follows : wrapped (offset + (readChunkHeader (memory file beyond) offset).sizeInBytes) = behind file offset := by
    rw [header]
    exact same
  have counted (inside : Inside file ⟨timestampsAddress file offset, 4⟩) :
      readValue (memory file beyond) (timestampsAddress file offset) 4 = numberOfTimestamps file offset :=
    read_same beyond (fun _ => 0) _ 4 inside
  have zero_iff : ZeroTimestamps file offset ↔ Counted file offset ∧ numberOfTimestamps file offset = 0 := by
    simp only [ZeroTimestamps, spm, true_and]
  by_cases none : readValue (memory file beyond) (timestampsAddress file offset) 4 = 0
  · rw [if_pos none] at check
    refine ⟨.spmError, _, chunks_step_needs (complete_before complete).2 follows check (chunks_stopped_needs (by decide)), ?_⟩
    rw [handled_complete_iff complete, valid_complete_iff complete, zero_iff]
    constructor
    · rintro ⟨⟨_, ⟨_, _, _, inside⟩, left⟩, exactly⟩
      rw [counted inside] at none
      rw [if_pos ⟨spm, none⟩]
      refine ⟨fun _ => inside, ?_, left⟩
      by_contra neither
      obtain ⟨short, valid⟩ := not_or.mp neither
      cases exactly.mpr ⟨fun zero => short zero.1, not_not.mp valid⟩
    · rintro ⟨inside, rest⟩
      rw [counted (inside spm)] at none
      rw [if_pos ⟨spm, none⟩] at rest
      refine ⟨⟨sized, ⟨sized, typed, versioned, inside spm⟩, rest.2⟩, ?_⟩
      simp only [reduceCtorEq, false_iff]
      rintro ⟨sampled, valid⟩
      exact rest.1.elim (fun long => sampled ⟨long, none⟩) fun broken => broken valid
  · rw [if_neg none] at check
    refine ⟨status, _, chunks_step_needs (complete_before complete).2 follows check needs, ?_⟩
    rw [handled_complete_iff complete, valid_complete_iff complete, zero_iff]
    constructor
    · rintro ⟨⟨_, ⟨_, _, _, inside⟩, parsed⟩, exactly⟩
      rw [counted inside] at none
      rw [if_neg fun both => none both.2, ← right]
      refine ⟨fun _ => inside, parsed, exactly.trans ?_⟩
      exact ⟨fun valid => valid.2, fun valid => ⟨fun zero => none zero.2, valid⟩⟩
    · rintro ⟨inside, rest⟩
      rw [counted (inside spm)] at none
      rw [if_neg fun both => none both.2, ← right] at rest
      refine ⟨⟨sized, ⟨sized, typed, versioned, inside spm⟩, rest.1⟩, rest.2.trans ?_⟩
      exact ⟨fun valid => ⟨fun zero => none zero.2, valid⟩, fun valid => valid.2⟩

theorem walked (low : 0 ≤ offset) (enough : file.length ≤ offset + fuel) : Walked beyond file (fuel + 2) offset := by
  induction fuel generalizing offset with
  | zero =>
      obtain past | same := Int.lt_or_eq_of_le enough
      · exact walked_past beyond (by omega)
      · rw [show offset = file.length by omega]
        exact walked_end beyond
  | succ fuel ih =>
      obtain before | rfl | past := Int.lt_trichotomy offset file.length
      · by_cases complete : Complete file offset
        · have further : offset + sizeofChunkHeader ≤ behind file offset := Int.add_le_add_left complete.2.1 offset
          simp only [sizeofChunkHeader] at further
          have rest := ih (by omega : 0 ≤ behind file offset) (by omega)
          by_cases spm : IsSpm file offset
          · exact walked_spm beyond small complete spm rest
          · exact walked_passed beyond small complete spm rest
        · exact walked_refused beyond before complete (cut_malformed beyond small offset low before complete)
      · exact walked_end beyond
      · exact walked_past beyond past

-- A negative offset whose size leads into the file: the type is read in front of it.
theorem walked_negative (negative : offset < 0) (enough : file.length ≤ fuel) : Walked beyond file (fuel + 3) offset := by
  have before : offset < file.length := by omega
  have cut : ¬ Complete file offset := fun complete => Int.not_le.mpr negative complete.1
  by_cases malformed : Malformed file.length (readChunkHeader (memory file beyond) offset).sizeInBytes
      (wrapped (offset + (readChunkHeader (memory file beyond) offset).sizeInBytes))
  · exact walked_refused beyond before cut malformed
  have low : 0 ≤ wrapped (offset + (readChunkHeader (memory file beyond) offset).sizeInBytes) :=
    Int.not_lt.mp fun below => malformed (.inr (.inl below))
  have run : ∃ status checked, Needs (validateChunks (memory file beyond) file.length (fuel + 3) offset .ok) (Inside file)
      (some status) checked ∧ (checked → Inside file ⟨offset, 1⟩) := by
    obtain ⟨status, checked, needs, _⟩ := walked beyond small low (by omega : (file.length : Int) ≤ _ + (fuel : Int))
    by_cases spm : (readChunkHeader (memory file beyond) offset).chunkType = kRgpFileChunkTypeSpmDatabase
    · have check := chunk_spm_needs malformed spm rfl
      by_cases none : readValue (memory file beyond) (offset + timestampsMember (readChunkHeader (memory file beyond) offset)) 4 = 0
      · rw [if_pos none] at check
        exact ⟨_, _, chunks_step_needs before rfl check (chunks_stopped_needs (by decide)), fun all => all.2.1.2.1⟩
      · rw [if_neg none] at check
        exact ⟨_, _, chunks_step_needs before rfl check needs, fun all => all.2.1.2.1⟩
    · exact ⟨_, _, chunks_step_needs before rfl (chunk_other_needs malformed spm) needs, fun all => all.2.1.2⟩
  obtain ⟨status, checked, needs, typed⟩ := run
  refine ⟨status, checked, needs, ?_⟩
  rw [handled_cut_iff before cut]
  constructor
  · rintro ⟨all, _⟩
    exact absurd (typed all).1 (Int.not_le.mpr negative)
  · rintro ⟨sized, refused, _⟩
    have same := size_same beyond offset sized
    rw [behind, ← same] at refused
    exact absurd (refused.resolve_left (Int.not_le.mpr negative)) malformed

end Walk

-- A file that the validator reads into its buffer.
structure RgpFile where
  bytes : List UInt8
  nonempty : 0 < bytes.length
  small : bytes.length < 2 ^ 31

-- The validation ends, reads only the buffer, and accepts exactly the valid files.
def Validates (file : RgpFile) (beyond : Int → UInt8) : Prop :=
  ∃ status reads, rgpValidateProfileData (memory file.bytes beyond) file.bytes.length [] = (some status, reads) ∧
    (∀ read ∈ reads, Inside file.bytes read) ∧ (status = .ok ↔ ValidFile file.bytes)

section Claim
variable (file : RgpFile) (beyond : Int → UInt8)

theorem validates_of_needs {status : RgpFileValidatorStatus} {checked : Prop}
    (needs : Needs (rgpValidateProfileData (memory file.bytes beyond) file.bytes.length) (Inside file.bytes) (some status) checked) :
    Validates file beyond ↔ checked ∧ (status = .ok ↔ ValidFile file.bytes) := by
  have records := needs.records []
  simp only [List.not_mem_nil, false_implies, implies_true, and_true] at records
  constructor
  · rintro ⟨given, reads, run, inside, exactly⟩
    have same := needs.gives []
    rw [run] at same records
    rw [← Option.some.inj same]
    exact ⟨records.mp inside, exactly⟩
  · rintro ⟨all, exactly⟩
    exact ⟨status, _, Prod.ext (needs.gives []) rfl, records.mpr all, exactly⟩

theorem validates_iff_sound : Validates file beyond ↔ Sound file.bytes := by
  by_cases short : file.bytes.length < sizeofFileHeader
  · have needs : Needs (rgpValidateProfileData (memory file.bytes beyond) file.bytes.length) (Inside file.bytes)
        (some .parserError) True := by
      rw [rgpValidateProfileData, if_pos short]
      exact needs_pure _
    rw [validates_of_needs file beyond needs]
    refine ⟨fun _ => .inl short, fun _ => ⟨trivial, ?_⟩⟩
    simp only [reduceCtorEq, false_iff]
    exact fun valid => Nat.not_le.mpr short valid.header
  have header : Inside file.bytes ⟨0, sizeofFileHeader⟩ := ⟨Int.le_refl 0, by simp only; omega⟩
  have magicInside : Inside file.bytes ⟨0, 4⟩ := ⟨Int.le_refl 0, by simp only [sizeofFileHeader] at short ⊢; omega⟩
  have offsetInside : Inside file.bytes ⟨16, 4⟩ := ⟨by decide, by simp only [sizeofFileHeader] at short ⊢; omega⟩
  have magicSame := read_same beyond (fun _ => 0) 0 4 magicInside
  have offsetSame : chunkOffset (memory file.bytes beyond) = fileChunkOffset file.bytes :=
    congrArg int32 (read_same beyond (fun _ => 0) 16 4 offsetInside)
  by_cases magic : HasMagic file.bytes
  · obtain ⟨status, checked, needs, right⟩ : Walked beyond file.bytes (file.bytes.length + 3) (fileChunkOffset file.bytes) := by
      by_cases negative : fileChunkOffset file.bytes < 0
      · exact walked_negative beyond file.small negative (Nat.le_refl _)
      · exact walked beyond file.small (Int.not_lt.mp negative) (by omega)
    have all : Needs (rgpValidateProfileData (memory file.bytes beyond) file.bytes.length) (Inside file.bytes) (some status)
        (Inside file.bytes ⟨0, sizeofFileHeader⟩ ∧ checked) := by
      rw [rgpValidateProfileData, if_neg short, if_pos (magicSame.trans magic), offsetSame]
      exact needs_bind (needs_record _) needs
    rw [validates_of_needs file beyond all, Sound, ← right]
    have valid : ValidFile file.bytes ↔ ValidChain file.bytes (fileChunkOffset file.bytes) :=
      ⟨fun valid => valid.chain, fun chain => ⟨Nat.not_lt.mp short, magic, chain⟩⟩
    simp only [header, valid, short, magic, true_and, not_true_eq_false, false_or]
  · have needs : Needs (rgpValidateProfileData (memory file.bytes beyond) file.bytes.length) (Inside file.bytes)
        (some .parserError) (Inside file.bytes ⟨0, sizeofFileHeader⟩ ∧ True) := by
      rw [rgpValidateProfileData, if_neg short, if_neg fun same => magic (magicSame.symm.trans same)]
      exact needs_bind (needs_record _) (needs_pure _)
    rw [validates_of_needs file beyond needs]
    refine ⟨fun _ => .inr (.inl magic), fun _ => ⟨⟨header, trivial⟩, ?_⟩⟩
    simp only [reduceCtorEq, false_iff]
    exact fun valid => magic valid.magic

end Claim

def headerBytes (chunkOffset : UInt8) : List UInt8 :=
  [0x42, 0x30, 0x30, 0x50] ++ List.replicate 12 0 ++ [chunkOffset, 0, 0, 0] ++ List.replicate 36 0

-- Only a header, whose chunk offset is behind the end of the file.
def chunksPastEnd : RgpFile := ⟨headerBytes 57, by decide, by decide⟩

-- One byte is left behind the header.
def truncatedTail : RgpFile := ⟨headerBytes 56 ++ [0], by decide, by decide⟩

theorem past_end_accepted : ¬ Validates chunksPastEnd (fun _ => 0) ∧ ¬ Validates truncatedTail fun _ => 0 := by
  constructor
  · rintro ⟨status, reads, run, _, exactly⟩
    have accepted : (rgpValidateProfileData (memory chunksPastEnd.bytes fun _ => 0) chunksPastEnd.bytes.length []).1 = some .ok := by decide
    rw [run] at accepted
    have chain := (exactly.mp (Option.some.inj accepted)).chain
    rw [show fileChunkOffset chunksPastEnd.bytes = 57 by decide] at chain
    cases chain with
    | chunk _ complete => exact absurd (complete_before complete).2 (by decide)
  · rintro ⟨status, reads, run, inside, _⟩
    have outside : (⟨64, 4⟩ : Extent) ∈
        (rgpValidateProfileData (memory truncatedTail.bytes fun _ => 0) truncatedTail.bytes.length []).2 := by decide
    rw [run] at outside
    exact absurd (inside _ outside) (by decide)

end RadeonPanel.Profiling.RgpFileValidator
