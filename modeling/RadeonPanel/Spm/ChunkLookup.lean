import RadeonPanel.Base.Chains
import RadeonPanel.Spm.ChunkSizes

set_option autoImplicit false

namespace RadeonPanel.Spm.Legacy

open Bytes Chains

structure RgpFileChunkHeader where
  chunkIdentifier : Nat
  versionMinor : Int
  versionMajor : Int
  sizeInBytes : Int
  padding : Int
deriving DecidableEq, Repr

def RgpFileChunkHeader.chunkType (header : RgpFileChunkHeader) : Nat := header.chunkIdentifier % 2 ^ 8

-- Addresses count from the start of the file. Outside of the file the memory holds anything.
def memory (file : List UInt8) (beyond : Int → UInt8) (address : Int) : UInt8 :=
  if 0 ≤ address then file.getD address.toNat (beyond address) else beyond address

section Lookup
variable (bytes : Int → UInt8)

def readValue (address : Int) (size : Nat) : Nat := ofLe ((List.range size).map fun (i : Nat) => bytes (address + i))

def int16 (bits : Nat) : Int := (BitVec.ofNat 16 bits).toInt

def readChunkHeader (address : Int) : RgpFileChunkHeader where
  chunkIdentifier := readValue bytes address 4
  versionMinor := int16 (readValue bytes (address + 4) 2)
  versionMajor := int16 (readValue bytes (address + 6) 2)
  sizeInBytes := int32 (readValue bytes (address + 8) 4)
  padding := int32 (readValue bytes (address + 12) 4)

theorem header_size (address : Int) : (readChunkHeader bytes address).sizeInBytes = int32 (readValue bytes (address + 8) 4) := by
  rw [readChunkHeader]

-- What a read touches.
structure Extent where
  address : Int
  size : Nat
deriving DecidableEq, Repr

-- A negative difference of the pointers is larger than any file once it is a size_t, and
-- a negative size larger than the header once it is a uint32_t.
def searchChunk (fileSize type : Nat) : Nat → Int → List Extent → Option (Option Int × List Extent)
  | 0, _, _ => none
  | fuel + 1, headerStart, reads =>
      if 0 ≤ headerStart ∧ headerStart < fileSize then
        let currentHeader := readChunkHeader bytes headerStart
        let reads := ⟨headerStart, sizeofChunkHeader⟩ :: reads
        if (currentHeader.sizeInBytes % 2 ^ 32).toNat < sizeofChunkHeader then some (none, reads)
        else if currentHeader.chunkType = type then some (some headerStart, reads)
        else searchChunk fileSize type fuel (headerStart + currentHeader.sizeInBytes) reads
      else some (none, reads)

def chunkOffset : Int := int32 (readValue bytes sizeofChunkHeader 4)

end Lookup

-- The start of the chunk, none for the parser error, with all that was read.
def getPointerToFirstChunkWithType (file : Option (List UInt8)) (beyond : Int → UInt8) (type fuel : Nat) :
    Option (Option Int × List Extent) :=
  match file with
  | none => some (none, [])
  | some file =>
      searchChunk (memory file beyond) file.length type fuel (chunkOffset (memory file beyond)) [⟨sizeofChunkHeader, 4⟩]

section Chunks
variable (file : List UInt8)

def Inside (read : Extent) : Prop := 0 ≤ read.address ∧ read.address + read.size ≤ file.length

instance (read : Extent) : Decidable (Inside file read) := inferInstanceAs (Decidable (_ ∧ _))

def headerAt (address : Int) : Option RgpFileChunkHeader :=
  if Inside file ⟨address, sizeofChunkHeader⟩ then some (readChunkHeader (memory file fun _ => 0) address) else none

-- A chunk has its header in the file and is no shorter than it.
def nextChunk (address : Int) : Option Int :=
  match headerAt file address with
  | some header => if sizeofChunkHeader ≤ header.sizeInBytes then some (address + header.sizeInBytes) else none
  | none => none

def ChunkOfType (type : Nat) (address : Int) : Prop :=
  ∃ header, headerAt file address = some header ∧ sizeofChunkHeader ≤ header.sizeInBytes ∧ header.chunkType = type

def firstChunk : Int := chunkOffset (memory file fun _ => 0)

def FirstOfType (type : Nat) : Option Int → Prop
  | some start =>
      OnChain (nextChunk file) (firstChunk file) start ∧ ChunkOfType file type start ∧
        ∀ other, OnChain (nextChunk file) (firstChunk file) other → ChunkOfType file type other → start ≤ other
  | none => ∀ other, OnChain (nextChunk file) (firstChunk file) other → ¬ChunkOfType file type other

variable {file}

theorem next_chunk_some (address after : Int) (leads : nextChunk file address = some after) :
    ∃ header, headerAt file address = some header ∧ sizeofChunkHeader ≤ header.sizeInBytes ∧ address + header.sizeInBytes = after := by
  rw [nextChunk] at leads
  split at leads
  · rename_i header here
    obtain ⟨long, same⟩ := Option.ite_none_right_eq_some.mp leads
    exact ⟨header, here, long, Option.some.inj same⟩
  · cases leads

theorem read_same (beyond beyond' : Int → UInt8) (address : Int) (size : Nat) (inside : Inside file ⟨address, size⟩) :
    readValue (memory file beyond) address size = readValue (memory file beyond') address size := by
  obtain ⟨low, high⟩ := inside
  have bytes : ∀ i ∈ List.range size, memory file beyond (address + i) = memory file beyond' (address + i) := by
    intro i member
    have less := List.mem_range.mp member
    have within : (address + i).toNat < file.length := by
      simp only at low high
      omega
    rw [memory, memory, if_pos (by simp only at low; omega), if_pos (by simp only at low; omega)]
    rw [List.getD_eq_getElem?_getD, List.getD_eq_getElem?_getD, List.getElem?_eq_getElem within]
    rfl
  rw [readValue, readValue, List.map_congr_left bytes]

theorem part_inside (address offset : Int) (size : Nat) (from' : 0 ≤ offset) (within : offset + size ≤ sizeofChunkHeader)
    (inside : Inside file ⟨address, sizeofChunkHeader⟩) : Inside file ⟨address + offset, size⟩ := by
  obtain ⟨low, high⟩ := inside
  simp only at low high
  constructor <;> simp only <;> omega

theorem header_same (beyond beyond' : Int → UInt8) (address : Int) (inside : Inside file ⟨address, sizeofChunkHeader⟩) :
    readChunkHeader (memory file beyond) address = readChunkHeader (memory file beyond') address := by
  have parts : ∀ (offset : Int) (size : Nat), 0 ≤ offset → offset + size ≤ sizeofChunkHeader →
      readValue (memory file beyond) (address + offset) size = readValue (memory file beyond') (address + offset) size :=
    fun offset size low within => read_same beyond beyond' _ size (part_inside address offset size low within inside)
  have first := parts 0 4 (by decide) (by decide)
  rw [Int.add_zero] at first
  rw [readChunkHeader, readChunkHeader, first, parts 4 2 (by decide) (by decide), parts 6 2 (by decide) (by decide),
    parts 8 4 (by decide) (by decide), parts 12 4 (by decide) (by decide)]

theorem header_at_iff (beyond : Int → UInt8) (address : Int) (header : RgpFileChunkHeader) :
    headerAt file address = some header ↔
      Inside file ⟨address, sizeofChunkHeader⟩ ∧ readChunkHeader (memory file beyond) address = header := by
  rw [headerAt, Option.ite_none_right_eq_some, Option.some.injEq]
  exact and_congr_right fun inside => by rw [header_same beyond (fun _ => 0) address inside]

theorem cast_short (bits : Nat) : (int32 bits % 2 ^ 32).toNat < sizeofChunkHeader ↔ 0 ≤ int32 bits ∧ int32 bits < sizeofChunkHeader := by
  have low : -2 ^ 31 ≤ int32 bits := BitVec.le_toInt _
  have high := int32_lt bits
  rw [sizeofChunkHeader]
  omega

-- Where the walk of the lookup goes without an end at a chunk: also back, by a negative size.
inductive Leaves (file : List UInt8) (type : Nat) : Int → Prop where
  | outside (address : Int) (out : ¬(0 ≤ address ∧ address < file.length)) : Leaves file type address
  | stops (address : Int) (header : RgpFileChunkHeader) (here : headerAt file address = some header)
      (short : 0 ≤ header.sizeInBytes ∧ header.sizeInBytes < sizeofChunkHeader) : Leaves file type address
  | passes (address : Int) (header : RgpFileChunkHeader) (here : headerAt file address = some header)
      (size : ¬(0 ≤ header.sizeInBytes ∧ header.sizeInBytes < sizeofChunkHeader)) (other : header.chunkType ≠ type)
      (rest : Leaves file type (address + header.sizeInBytes)) : Leaves file type address

section Search
variable (beyond : Int → UInt8) (type : Nat)

theorem search_in_file (fuel : Nat) (address : Int) (reads : List Extent) (header : RgpFileChunkHeader)
    (here : headerAt file address = some header) :
    searchChunk (memory file beyond) file.length type (fuel + 1) address reads =
      if 0 ≤ header.sizeInBytes ∧ header.sizeInBytes < sizeofChunkHeader then some (none, ⟨address, sizeofChunkHeader⟩ :: reads)
      else if header.chunkType = type then some (some address, ⟨address, sizeofChunkHeader⟩ :: reads)
      else searchChunk (memory file beyond) file.length type fuel (address + header.sizeInBytes)
        (⟨address, sizeofChunkHeader⟩ :: reads) := by
  obtain ⟨inside, rfl⟩ := (header_at_iff beyond address header).mp here
  obtain ⟨low, high⟩ := inside
  have within : 0 ≤ address ∧ address < file.length := by
    simp only [sizeofChunkHeader] at low high
    omega
  have short := cast_short (readValue (memory file beyond) (address + 8) 4)
  rw [← header_size] at short
  rw [searchChunk, if_pos within]
  exact if_congr short rfl rfl

theorem search_outside (fuel : Nat) (address : Int) (reads : List Extent) (out : ¬(0 ≤ address ∧ address < file.length)) :
    searchChunk (memory file beyond) file.length type (fuel + 1) address reads = some (none, reads) := by
  rw [searchChunk, if_neg out]

section Reads
variable {bytes : Int → UInt8} {fileSize fuel : Nat} {address : Int} {reads later : List Extent} {found : Option Int}

-- A header in the file is read, and then the search ends or goes on from somewhere.
theorem search_header (within : 0 ≤ address ∧ address < fileSize)
    (run : searchChunk bytes fileSize type (fuel + 1) address reads = some (found, later)) :
    later = ⟨address, sizeofChunkHeader⟩ :: reads ∨
      ∃ next, searchChunk bytes fileSize type fuel next (⟨address, sizeofChunkHeader⟩ :: reads) = some (found, later) := by
  rw [searchChunk, if_pos within] at run
  dsimp only at run
  split at run
  · cases run
    exact .inl rfl
  · split at run
    · cases run
      exact .inl rfl
    · exact .inr ⟨_, run⟩

theorem search_reads (run : searchChunk bytes fileSize type fuel address reads = some (found, later)) : reads ⊆ later := by
  induction fuel generalizing address reads with
  | zero => cases run
  | succ fuel ih =>
      by_cases within : 0 ≤ address ∧ address < fileSize
      · have added := List.subset_cons_self (⟨address, sizeofChunkHeader⟩ : Extent) reads
        obtain rfl | ⟨next, rest⟩ := search_header type within run
        · exact added
        · exact List.Subset.trans added (ih rest)
      · rw [searchChunk, if_neg within] at run
        cases run
        exact List.Subset.refl _

theorem search_reads_header (within : 0 ≤ address ∧ address < fileSize)
    (run : searchChunk bytes fileSize type (fuel + 1) address reads = some (found, later)) :
    ⟨address, sizeofChunkHeader⟩ ∈ later := by
  obtain rfl | ⟨next, rest⟩ := search_header type within run
  · exact List.mem_cons_self
  · exact search_reads type rest List.mem_cons_self

end Reads

variable (file) in
-- What the search reads and finds from here on.
def LooksUp (address : Int) (found : Option Int) : Prop :=
  ∀ reads, (∀ read ∈ reads, Inside file read) →
    ∃ fuel later, searchChunk (memory file beyond) file.length type fuel address reads = some (found, later) ∧
      ∀ read ∈ later, Inside file read

section Header
variable {address : Int} {header : RgpFileChunkHeader} {found : Option Int} (here : headerAt file address = some header)
include here

theorem looks_up_stopped (short : 0 ≤ header.sizeInBytes ∧ header.sizeInBytes < sizeofChunkHeader) :
    LooksUp file beyond type address none := by
  intro reads inside
  have whole := ((header_at_iff beyond address header).mp here).1
  refine ⟨1, _, ?_, List.forall_mem_cons.mpr ⟨whole, inside⟩⟩
  rw [search_in_file beyond type 0 address reads header here, if_pos short]

theorem looks_up_found (size : ¬(0 ≤ header.sizeInBytes ∧ header.sizeInBytes < sizeofChunkHeader)) (same : header.chunkType = type) :
    LooksUp file beyond type address (some address) := by
  intro reads inside
  have whole := ((header_at_iff beyond address header).mp here).1
  refine ⟨1, _, ?_, List.forall_mem_cons.mpr ⟨whole, inside⟩⟩
  rw [search_in_file beyond type 0 address reads header here, if_neg size, if_pos same]

theorem looks_up_passing (size : ¬(0 ≤ header.sizeInBytes ∧ header.sizeInBytes < sizeofChunkHeader)) (other : header.chunkType ≠ type)
    (rest : LooksUp file beyond type (address + header.sizeInBytes) found) : LooksUp file beyond type address found := by
  intro reads inside
  have whole := ((header_at_iff beyond address header).mp here).1
  obtain ⟨fuel, later, run, after⟩ := rest (⟨address, sizeofChunkHeader⟩ :: reads) (List.forall_mem_cons.mpr ⟨whole, inside⟩)
  refine ⟨fuel + 1, later, ?_, after⟩
  rw [search_in_file beyond type fuel address reads header here, if_neg size, if_neg other, run]

end Header

theorem leaves_looks_up (address : Int) (leaves : Leaves file type address) : LooksUp file beyond type address none := by
  induction leaves with
  | outside address out => exact fun reads inside => ⟨1, reads, search_outside beyond type 0 address reads out, inside⟩
  | stops address header here short => exact looks_up_stopped beyond type here short
  | passes address header here size other rest ih => exact looks_up_passing beyond type here size other ih

theorem finds_looks_up (address start : Int) (finds : Finds (nextChunk file) (ChunkOfType file type) address start) :
    LooksUp file beyond type address (some start) := by
  induction finds with
  | here address met =>
      obtain ⟨header, here, long, same⟩ := met
      exact looks_up_found beyond type here (by omega) same
  | later address after start passed leads rest ih =>
      obtain ⟨header, here, long, rfl⟩ := next_chunk_some address after leads
      exact looks_up_passing beyond type here (by omega) (fun same => passed ⟨header, here, long, same⟩) ih

-- A search without a find that reads inside of the file.
theorem looks_up_leaves (fuel : Nat) (address : Int) (reads later : List Extent)
    (run : searchChunk (memory file beyond) file.length type fuel address reads = some (none, later))
    (inside : ∀ read ∈ later, Inside file read) : Leaves file type address := by
  induction fuel generalizing address reads with
  | zero => cases run
  | succ fuel ih =>
      by_cases within : 0 ≤ address ∧ address < file.length
      · have whole := inside _ (search_reads_header type within run)
        obtain ⟨header, here⟩ : ∃ header, headerAt file address = some header := ⟨_, if_pos whole⟩
        rw [search_in_file beyond type fuel address reads header here] at run
        split at run
        case isTrue short => exact .stops address header here short
        case isFalse size =>
            split at run
            case isTrue => cases run
            case isFalse other => exact .passes address header here size other (ih _ _ run)
      · exact .outside address within

end Search

-- What the walk from the file's first chunk comes to.
def Walkable (file : List UInt8) (type : Nat) : Prop :=
  sizeofChunkHeader + 4 ≤ file.length ∧
    ((∃ start, OnChain (nextChunk file) (firstChunk file) start ∧ ChunkOfType file type start) ∨ Leaves file type (firstChunk file))

theorem first_inside : Inside file ⟨sizeofChunkHeader, 4⟩ ↔ sizeofChunkHeader + 4 ≤ file.length := by
  rw [Inside, sizeofChunkHeader]
  simp only
  omega

theorem first_same (beyond : Int → UInt8) (long : sizeofChunkHeader + 4 ≤ file.length) :
    chunkOffset (memory file beyond) = firstChunk file := by
  rw [firstChunk, chunkOffset, chunkOffset, read_same beyond (fun _ => 0) _ 4 (first_inside.mpr long)]

theorem finds_first (type : Nat) (start : Int) (finds : Finds (nextChunk file) (ChunkOfType file type) (firstChunk file) start) :
    FirstOfType file type (some start) := by
  obtain ⟨chain, met⟩ := finds_on_chain finds .start
  refine ⟨chain, met, fun other on typed => finds_lowest (fun link later leads => ?_) finds on typed⟩
  obtain ⟨header, _, long, rfl⟩ := next_chunk_some link later leads
  rw [sizeofChunkHeader] at long
  omega

theorem chunk_lookup_safe_iff (file : List UInt8) (beyond : Int → UInt8) (type : Nat) :
    (∃ fuel found reads, getPointerToFirstChunkWithType (some file) beyond type fuel = some (found, reads) ∧
      (∀ read ∈ reads, Inside file read) ∧ FirstOfType file type found) ↔ Walkable file type := by
  constructor
  · rintro ⟨fuel, found, reads, run, inside, first⟩
    have head := inside _ (search_reads type run List.mem_cons_self)
    have long := first_inside.mp head
    rw [getPointerToFirstChunkWithType, first_same beyond long] at run
    cases found with
    | some start => exact ⟨long, .inl ⟨start, first.1, first.2.1⟩⟩
    | none => exact ⟨long, .inr (looks_up_leaves beyond type fuel _ _ reads run inside)⟩
  · rintro ⟨long, comes⟩
    have head : ∀ read ∈ [(⟨sizeofChunkHeader, 4⟩ : Extent)], Inside file read := by simpa using first_inside.mpr long
    simp only [getPointerToFirstChunkWithType, first_same beyond long]
    by_cases exists' : ∃ start, OnChain (nextChunk file) (firstChunk file) start ∧ ChunkOfType file type start
    · obtain ⟨other, chain, met⟩ := exists'
      obtain ⟨start, finds⟩ := finds_some chain met
      obtain ⟨fuel, reads, run, inside⟩ := finds_looks_up beyond type _ start finds _ head
      exact ⟨fuel, some start, reads, run, inside, finds_first type start finds⟩
    · obtain ⟨fuel, reads, run, inside⟩ := leaves_looks_up beyond type _ (comes.resolve_left exists') _ head
      exact ⟨fuel, none, reads, run, inside, fun other chain met => exists' ⟨other, chain, met⟩⟩

end Chunks

-- A chunk of 16 bytes, and behind it one of -16, which leads back to it.
def turningBack : List UInt8 := List.replicate 16 0 ++ le 4 20 ++ writeChunkHeader 1 16 ++ writeChunkHeader 1 (2 ^ 32 - 16)

theorem turning_back_unfinished (beyond : Int → UInt8) (fuel : Nat) :
    getPointerToFirstChunkWithType (some turningBack) beyond 0 fuel = none := by
  have ahead : headerAt turningBack 20 = some ⟨1, 0, 0, 16, 0⟩ := by decide
  have back : headerAt turningBack 36 = some ⟨1, 0, 0, -16, 0⟩ := by decide
  have first : firstChunk turningBack = 20 := by decide
  have round : ∀ reads, searchChunk (memory turningBack beyond) turningBack.length 0 fuel 20 reads = none ∧
      searchChunk (memory turningBack beyond) turningBack.length 0 fuel 36 reads = none := by
    induction fuel with
    | zero => exact fun reads => ⟨rfl, rfl⟩
    | succ fuel ih =>
        intro reads
        rw [search_in_file beyond 0 fuel 20 reads _ ahead, search_in_file beyond 0 fuel 36 reads _ back]
        exact ⟨(ih _).2, (ih _).1⟩
  rw [getPointerToFirstChunkWithType, first_same beyond (by decide), first]
  exact (round _).1

theorem negative_size_loops : ¬∃ fuel result, getPointerToFirstChunkWithType (some turningBack) (fun _ => 0) 0 fuel = some result := by
  rintro ⟨fuel, result, run⟩
  rw [turning_back_unfinished] at run
  cases run

-- A file that ends inside of a header, which is read to its end.
example : getPointerToFirstChunkWithType (some (List.replicate 16 0 ++ le 4 8)) (fun _ => 0) 0 1 = some (none, [⟨8, 16⟩, ⟨16, 4⟩]) := by
  decide

end RadeonPanel.Spm.Legacy
