import Mathlib.Algebra.Group.Int.Defs
import Mathlib.Algebra.Group.Nat.Defs
import RadeonPanel.Base.Files
import RadeonPanel.Base.Memory
import RadeonPanel.Base.Runs
import RadeonPanel.CaptureApi.MemoryStreams

set_option autoImplicit false

namespace RadeonPanel.CaptureApi.MemoryFile

open Bytes Files Interleaving

def kInitialBufferSize : Nat := 1024

-- A signed size as size_t, and back.
def toSize (n : Int) : Nat := (n % 2 ^ 64).toNat

def toInt64 (n : Nat) : Int := if n < 2 ^ 63 then n else (n : Int) - 2 ^ 64

theorem to_size_nat (n : Nat) (small : n < 2 ^ 63) : toSize n = n := by
  simp only [toSize]
  omega

theorem to_int64_small (n : Nat) (small : n < 2 ^ 63) : toInt64 n = n := if_pos small

-- The loop that doubles the capacity, none where it never ends: after 64 rounds nothing
-- of the capacity is left.
def grow (nextPosition : Nat) : Nat → Nat → Option Nat
  | 0, _ => none
  | rounds + 1, capacity =>
      if nextPosition ≥ capacity then grow nextPosition rounds (capacity * 2 % 2 ^ 64) else some capacity

def doubled (capacity : Nat) : Nat → Nat
  | 0 => capacity
  | k + 1 => doubled (capacity * 2 % 2 ^ 64) k

theorem doubled_eq (capacity k : Nat) (fits : capacity < 2 ^ 64) : doubled capacity k = capacity * 2 ^ k % 2 ^ 64 := by
  induction k generalizing capacity with
  | zero => rw [doubled, Nat.pow_zero, Nat.mul_one, Nat.mod_eq_of_lt fits]
  | succ k ih => rw [doubled, ih _ (Nat.mod_lt _ (by decide)), Nat.mod_mul_mod, Nat.mul_assoc, ← Nat.pow_succ']

theorem grow_none (nextPosition rounds capacity : Nat) (stuck : grow nextPosition rounds capacity = none) :
    ∀ k < rounds, doubled capacity k ≤ nextPosition := by
  induction rounds generalizing capacity with
  | zero => intro k less; omega
  | succ rounds ih =>
      rw [grow] at stuck
      by_cases larger : nextPosition ≥ capacity
      · rw [if_pos larger] at stuck
        intro k less
        cases k with
        | zero => exact larger
        | succ k => exact ih _ stuck k (by omega)
      · rw [if_neg larger] at stuck
        cases stuck

-- What the loop does not find in 65 rounds it never finds.
theorem grow_forever (nextPosition capacity : Nat) (fits : capacity < 2 ^ 64) (stuck : grow nextPosition 65 capacity = none)
    (k : Nat) : doubled capacity k ≤ nextPosition := by
  by_cases early : k < 65
  · exact grow_none nextPosition 65 capacity stuck k early
  · have gone : capacity * 2 ^ k % 2 ^ 64 = 0 := by
      obtain ⟨j, rfl⟩ : ∃ j, k = 64 + j := ⟨k - 64, by omega⟩
      exact Nat.mod_eq_zero_of_dvd (Nat.dvd_mul_left_of_dvd (Nat.pow_dvd_pow 2 (Nat.le_add_right 64 j)) capacity)
    rw [doubled_eq capacity k fits, gone]
    exact Nat.zero_le _

-- No buffer where an allocation failed.
structure MemoryReadWriteStream where
  buffer : Option Memory
  capacity : Nat
  size : Int
  currentIndex : Nat

inductive Operation where
  | write (data : List UInt8)
  | read (count : Nat)
  | tell
  | seek (position : Int)
  | getSize
deriving DecidableEq, Repr

-- What the arguments' type std::int64_t can hold.
def Operation.Fits : Operation → Prop
  | .write data => data.length < 2 ^ 63
  | .read count => count < 2 ^ 63
  | .seek position => -2 ^ 63 ≤ position ∧ position < 2 ^ 63
  | .tell | .getSize => True

inductive Answer where
  | written (count : Nat)
  | read (data : List UInt8)
  | told (position : Int)
  | sought
  | failed
deriving DecidableEq, Repr

-- No answer where the call never returns; `inside` says that the bytes it copied to or
-- from the buffer lie in the allocated block.
structure Outcome where
  stream : MemoryReadWriteStream
  answer : Option Answer
  inside : Bool

namespace MemoryReadWriteStream

-- What CreateStream makes, with the block that the allocation gives.
def create (block : Option Memory) : MemoryReadWriteStream := ⟨block, kInitialBufferSize, 0, 0⟩

variable (s : MemoryReadWriteStream)

def allocated : Nat := if s.buffer.isSome then s.capacity else 0

def memory : Memory := s.buffer.getD fun _ => 0

def copies (address count : Nat) : Bool := count = 0 ∨ address + count ≤ s.allocated

-- A block that is granted starts with the bytes of the old one.
def reallocated (granted : Option Memory) : Option Memory :=
  granted.map fun fresh i => if i < s.allocated then s.memory i else fresh i

def write (data : List UInt8) (granted : Option Memory) : Outcome :=
  let nextPosition := (s.currentIndex + data.length) % 2 ^ 64
  match grow nextPosition 65 s.capacity with
  | none => ⟨s, none, true⟩
  | some capacity =>
      let buffer := if nextPosition ≥ s.capacity then s.reallocated granted else s.buffer
      let size := if nextPosition > toSize s.size then toInt64 nextPosition else s.size
      let written := buffer.map fun m => m.put s.currentIndex data.length (Memory.ofList data)
      let next : MemoryReadWriteStream := ⟨written, capacity, size, nextPosition⟩
      ⟨next, some (.written data.length), next.copies s.currentIndex data.length⟩

def read (count : Nat) : Outcome :=
  let endPosition := (s.currentIndex + count) % 2 ^ 64
  if endPosition > toSize s.size then ⟨s, some .failed, true⟩
  else ⟨{ s with currentIndex := endPosition }, some (.read (s.memory.block s.currentIndex count)), s.copies s.currentIndex count⟩

def tell : Outcome := ⟨s, some (.told (toInt64 s.currentIndex)), true⟩

def seek (position : Int) : Outcome :=
  if position > s.size then ⟨s, some .failed, true⟩
  else ⟨{ s with currentIndex := toSize position }, some .sought, true⟩

def getSize : Outcome := ⟨s, some (.told s.size), true⟩

def operate (granted : Option Memory) : Operation → Outcome
  | .write data => s.write data granted
  | .read count => s.read count
  | .tell => s.tell
  | .seek position => s.seek position
  | .getSize => s.getSize

end MemoryReadWriteStream

-- The byte file that the stream is meant to be.
def operateFile (f : File UInt8) : Operation → Answer × File UInt8
  | .write data => (.written data.length, f.write data)
  | .read count =>
      match f.read count with
      | some (data, after) => (.read data, after)
      | none => (.failed, f)
  | .tell => (.told f.cursor, f)
  | .seek position =>
      match f.seek position with
      | some after => (.sought, after)
      | none => (.failed, f)
  | .getSize => (.told f.contents.length, f)

-- What the stream provider's model does to a stream is what the byte file does.
def ofUse : MemoryStreams.StreamUse → Operation
  | .write bytes => .write bytes
  | .seek position => .seek position

theorem use_is_file (f : File UInt8) (use : MemoryStreams.StreamUse) :
    use.apply f.contents f.cursor = ((operateFile f (ofUse use)).2.contents, (operateFile f (ofUse use)).2.cursor) := by
  cases use with
  | write bytes => rfl
  | seek position =>
      rw [MemoryStreams.StreamUse.apply, ofUse, operateFile, File.seek]
      by_cases behind : position > f.contents.length
      · rw [if_pos behind, dif_neg (by omega)]
      · rw [if_neg behind, dif_pos (by omega)]
        rfl

theorem power_bound (k : Nat) (bound : k ≤ 53) : 1024 * 2 ^ k ≤ 2 ^ 63 := by
  have room : 2 ^ k ≤ 2 ^ 53 := Nat.pow_le_pow_right (by decide) bound
  omega

theorem power_doubles (k : Nat) (bound : k < 53) : 1024 * 2 ^ k * 2 % 2 ^ 64 = 1024 * 2 ^ (k + 1) := by
  have room := power_bound (k + 1) bound
  rw [Nat.mul_assoc, ← Nat.pow_succ, Nat.mod_eq_of_lt (by omega)]

-- From a capacity that was doubled k times the loop ends exactly for positions that the
-- largest power of two can exceed.
theorem grow_room (nextPosition rounds k : Nat) (bound : k ≤ 53) (enough : 53 < rounds + k) (small : nextPosition < 2 ^ 63) :
    ∃ j ≤ 53, k ≤ j ∧ grow nextPosition rounds (1024 * 2 ^ k) = some (1024 * 2 ^ j) ∧ nextPosition < 1024 * 2 ^ j := by
  induction rounds generalizing k with
  | zero => omega
  | succ rounds ih =>
      rw [grow]
      by_cases larger : nextPosition ≥ 1024 * 2 ^ k
      · rw [if_pos larger]
        have below : k ≠ 53 := by
          rintro rfl
          omega
        rw [power_doubles k (by omega)]
        obtain ⟨j, within, later, found⟩ := ih (k + 1) (by omega) (by omega)
        exact ⟨j, within, by omega, found⟩
      · rw [if_neg larger]
        exact ⟨k, bound, Nat.le_refl k, rfl, by omega⟩

theorem grow_never (nextPosition rounds k : Nat) (bound : k ≤ 53) (large : 2 ^ 63 ≤ nextPosition) :
    grow nextPosition rounds (1024 * 2 ^ k) = none := by
  have zero (rounds : Nat) : grow nextPosition rounds 0 = none := by
    induction rounds with
    | zero => rfl
    | succ rounds ih =>
        rw [grow, if_pos (Nat.zero_le _)]
        exact ih
  induction rounds generalizing k with
  | zero => rfl
  | succ rounds ih =>
      rw [grow, if_pos (Nat.le_trans (power_bound k bound) large)]
      by_cases last : k = 53
      · subst last
        exact zero rounds
      · rw [power_doubles k (by omega)]
        exact ih (k + 1) (by omega)

-- Bytes put into a memory whose first bytes are a list overwrite the list.
theorem put_overwrites (m : Memory) (contents : List UInt8) (place : Nat) (data : List UInt8)
    (within : place ≤ contents.length) (same : m.block 0 contents.length = contents) :
    (m.put place data.length (Memory.ofList data)).block 0 (max contents.length (place + data.length)) =
      overwrite contents place data := by
  have split : max contents.length (place + data.length) =
      place + (data.length + (contents.length - (place + data.length))) := by omega
  have front : (m.put place data.length (Memory.ofList data)).block 0 place = contents.take place := by
    rw [← same, Memory.block_take _ _ _ (by simpa using within)]
    exact Memory.block_congr _ _ _ _ fun i less => Memory.put_elsewhere m _ (by omega)
  have back : (m.put place data.length (Memory.ofList data)).block (place + data.length)
      (contents.length - (place + data.length)) = contents.drop (place + data.length) := by
    rw [← same, Memory.block_drop, Memory.block_length, Nat.zero_add]
    exact Memory.block_congr _ _ _ _ fun i less => Memory.put_elsewhere m _ (by omega)
  rw [split, Memory.block_append, Memory.block_append, front, Nat.zero_add, Memory.put_block, back, overwrite,
    List.append_assoc]

-- The first bytes of the buffer are the file's, and the buffer has room for one more.
structure Represents (s : MemoryReadWriteStream) (f : File UInt8) : Prop where
  contents : s.memory.block 0 f.contents.length = f.contents
  size : s.size = f.contents.length
  index : s.currentIndex = f.cursor
  room : f.contents.length < s.capacity
  power : ∃ k ≤ 53, s.capacity = 1024 * 2 ^ k
  held : s.buffer = none → f.contents = []

-- A write ends before the byte 2 ^ 63, and the block it goes to has been granted.
def Allowed (s : MemoryReadWriteStream) (granted : Option Memory) : Operation → Prop
  | .write data =>
      s.currentIndex + data.length < 2 ^ 63 ∧
        if s.capacity ≤ s.currentIndex + data.length then granted.isSome = true else s.buffer.isSome = true ∨ data = []
  | .seek position => 0 ≤ position
  | .read _ | .tell | .getSize => True

def Outcome.Good (o : Outcome) (expected : Answer) : Prop := o.answer = some expected ∧ o.inside = true

-- The block that the bytes go to.
def target (s : MemoryReadWriteStream) (data : List UInt8) (granted : Option Memory) : Option Memory :=
  if s.capacity ≤ s.currentIndex + data.length then s.reallocated granted else s.buffer

theorem create_represents (block : Option Memory) : Represents (.create block) File.empty where
  contents := rfl
  size := rfl
  index := rfl
  room := Nat.zero_lt_succ _
  power := ⟨0, Nat.zero_le _, rfl⟩
  held _ := rfl

section Step
variable {s : MemoryReadWriteStream} {f : File UInt8} (r : Represents s f)
include r

theorem capacity_bound : s.capacity ≤ 2 ^ 63 := by
  obtain ⟨k, bound, power⟩ := r.power
  exact power ▸ power_bound k bound

theorem cursor_bound : s.currentIndex ≤ f.contents.length ∧ f.contents.length < 2 ^ 63 := by
  have cursor := f.within
  have capacity := capacity_bound r
  have room := r.room
  have index := r.index
  omega

theorem copies_inside (count : Nat) (within : s.currentIndex + count ≤ f.contents.length) :
    s.copies s.currentIndex count = true := by
  rw [MemoryReadWriteStream.copies, decide_eq_true_iff, MemoryReadWriteStream.allocated]
  cases held : s.buffer with
  | none =>
      rw [r.held held, List.length_nil] at within
      exact .inl (by omega)
  | some m =>
      have room := r.room
      exact .inr (by simp only [Option.isSome_some, if_pos]; omega)

theorem read_good (count : Nat) (fits : count < 2 ^ 63) :
    (s.read count).Good (operateFile f (.read count)).1 ∧ Represents (s.read count).stream (operateFile f (.read count)).2 := by
  obtain ⟨cursor, small⟩ := cursor_bound r
  have place : (s.currentIndex + count) % 2 ^ 64 = s.currentIndex + count := Nat.mod_eq_of_lt (by omega)
  have index := r.index
  rw [MemoryReadWriteStream.read, place, r.size, to_size_nat _ small, operateFile, File.read]
  by_cases enough : f.cursor + count ≤ f.contents.length
  · have taken : (f.contents.drop f.cursor).take count = s.memory.block s.currentIndex count := by
      rw [← r.contents, Memory.block_drop, Nat.zero_add, Memory.block_take _ _ _ (by omega), index]
    rw [dif_pos enough, if_neg (by omega)]
    refine ⟨⟨by rw [taken], copies_inside r count (by omega)⟩, ?_⟩
    exact ⟨r.contents, rfl, by rw [index], r.room, r.power, r.held⟩
  · rw [dif_neg enough, if_pos (by omega)]
    exact ⟨⟨rfl, rfl⟩, r⟩

theorem tell_good : s.tell.Good (operateFile f .tell).1 := by
  obtain ⟨cursor, small⟩ := cursor_bound r
  refine ⟨?_, rfl⟩
  rw [MemoryReadWriteStream.tell, to_int64_small _ (by omega), r.index]
  rfl

theorem get_size_good : s.getSize.Good (operateFile f .getSize).1 := by
  refine ⟨?_, rfl⟩
  rw [MemoryReadWriteStream.getSize, r.size]
  rfl

-- A position before the start is taken for one inside.
theorem seek_good_iff (position : Int) : (s.seek position).Good (operateFile f (.seek position)).1 ↔ 0 ≤ position := by
  rw [MemoryReadWriteStream.seek, r.size, operateFile, File.seek]
  by_cases behind : position > f.contents.length
  · rw [if_pos behind, dif_neg (by omega)]
    exact iff_of_true ⟨rfl, rfl⟩ (by omega)
  · rw [if_neg behind]
    by_cases start : 0 ≤ position
    · rw [dif_pos ⟨start, by omega⟩]
      exact iff_of_true ⟨rfl, rfl⟩ start
    · rw [dif_neg fun inside => start inside.1]
      exact iff_of_false (fun good => by cases good.1) start

theorem seek_represents (position : Int) (start : 0 ≤ position) :
    Represents (s.seek position).stream (operateFile f (.seek position)).2 := by
  obtain ⟨cursor, small⟩ := cursor_bound r
  rw [MemoryReadWriteStream.seek, r.size, operateFile, File.seek]
  by_cases behind : position > f.contents.length
  · rw [if_pos behind, dif_neg (by omega)]
    exact r
  · rw [if_neg behind, dif_pos ⟨start, by omega⟩]
    have place : toSize position = position.toNat := by
      simp only [toSize]
      omega
    exact ⟨r.contents, rfl, place, r.room, r.power, r.held⟩

theorem write_place (data : List UInt8) (fits : data.length < 2 ^ 63) :
    (s.currentIndex + data.length) % 2 ^ 64 = s.currentIndex + data.length := by
  obtain ⟨cursor, small⟩ := cursor_bound r
  exact Nat.mod_eq_of_lt (by omega)

-- A write that does not end before the byte 2 ^ 63 looks for a capacity without an end.
theorem write_stuck (data : List UInt8) (granted : Option Memory) (fits : data.length < 2 ^ 63)
    (large : 2 ^ 63 ≤ s.currentIndex + data.length) : (s.write data granted).answer = none := by
  obtain ⟨k, bound, power⟩ := r.power
  rw [MemoryReadWriteStream.write, write_place r data fits, power, grow_never _ _ k bound large]

theorem write_returns (data : List UInt8) (granted : Option Memory) (fits : data.length < 2 ^ 63)
    (small : s.currentIndex + data.length < 2 ^ 63) :
    ∃ j ≤ 53, s.currentIndex + data.length < 1024 * 2 ^ j ∧ s.capacity ≤ 1024 * 2 ^ j ∧
      let next : MemoryReadWriteStream :=
        ⟨(target s data granted).map fun m => m.put s.currentIndex data.length (Memory.ofList data), 1024 * 2 ^ j,
          (max f.contents.length (s.currentIndex + data.length) : Nat), s.currentIndex + data.length⟩
      s.write data granted = ⟨next, some (.written data.length), next.copies s.currentIndex data.length⟩ := by
  obtain ⟨k, bound, power⟩ := r.power
  obtain ⟨cursor, size⟩ := cursor_bound r
  obtain ⟨j, within, later, found, room⟩ := grow_room (s.currentIndex + data.length) 65 k bound (by omega) small
  refine ⟨j, within, room, ?_, ?_⟩
  · rw [power]
    exact Nat.mul_le_mul_left 1024 (Nat.pow_le_pow_right (by decide) later)
  · have written : (if s.currentIndex + data.length > f.contents.length then toInt64 (s.currentIndex + data.length)
        else (f.contents.length : Int)) = (max f.contents.length (s.currentIndex + data.length) : Nat) := by
      rw [to_int64_small _ small]
      split <;> omega
    rw [← power] at found
    rw [MemoryReadWriteStream.write, write_place r data fits, found, r.size, to_size_nat _ size]
    dsimp only
    rw [written]
    rfl

-- Without a block nothing can be copied, and a write that grows copies something.
theorem write_good_iff (data : List UInt8) (granted : Option Memory) (fits : data.length < 2 ^ 63) :
    (s.write data granted).Good (operateFile f (.write data)).1 ↔ Allowed s granted (.write data) := by
  rw [Allowed, operateFile]
  by_cases small : s.currentIndex + data.length < 2 ^ 63
  · obtain ⟨j, _, room, _, outcome⟩ := write_returns r data granted fits small
    have inside : (s.write data granted).Good (.written data.length) ↔
        (target s data granted).isSome = true ∨ data = [] := by
      rw [outcome, Outcome.Good, MemoryReadWriteStream.copies, MemoryReadWriteStream.allocated, decide_eq_true_iff,
        Option.isSome_map, ← List.length_eq_zero_iff]
      by_cases held : (target s data granted).isSome = true
      · exact iff_of_true ⟨rfl, .inr (by rw [if_pos held]; exact Nat.le_of_lt room)⟩ (.inl held)
      · rw [if_neg held]
        constructor
        · rintro ⟨-, nothing | nothing⟩
          · exact .inr nothing
          · exact .inr (by omega)
        · rintro (some | nothing)
          · exact absurd some held
          · exact ⟨rfl, .inl nothing⟩
    rw [inside, target, and_iff_right small]
    by_cases grows : s.capacity ≤ s.currentIndex + data.length
    · have something : data ≠ [] := by
        rintro rfl
        have cursor := (cursor_bound r).1
        have capacity := r.room
        rw [List.length_nil] at grows
        omega
      simp [grows, something, MemoryReadWriteStream.reallocated]
    · simp [grows]
  · rw [Outcome.Good, write_stuck r data granted fits (by omega)]
    exact iff_of_false (fun good => by cases good.1) fun allowed => small allowed.1

-- The block has the bytes of the old one as far as the file goes.
theorem target_contents (data : List UInt8) (granted : Option Memory) (m : Memory)
    (found : target s data granted = some m) : m.block 0 f.contents.length = f.contents := by
  refine Eq.trans (Memory.block_congr m s.memory 0 _ fun i less => ?_) r.contents
  rw [Nat.zero_add]
  rw [target] at found
  by_cases grows : s.capacity ≤ s.currentIndex + data.length
  · rw [if_pos grows, MemoryReadWriteStream.reallocated] at found
    obtain ⟨fresh, -, rfl⟩ := Option.map_eq_some_iff.mp found
    cases held : s.buffer with
    | none =>
        rw [r.held held] at less
        cases less
    | some old =>
        have room := r.room
        refine if_pos ?_
        rw [MemoryReadWriteStream.allocated, held, Option.isSome_some, if_pos rfl]
        omega
  · rw [if_neg grows] at found
    rw [MemoryReadWriteStream.memory, found, Option.getD_some]

theorem target_none (data : List UInt8) (granted : Option Memory) (allowed : Allowed s granted (.write data))
    (missing : target s data granted = none) : f.contents = [] ∧ data = [] := by
  obtain ⟨-, held⟩ := allowed
  rw [target] at missing
  by_cases grows : s.capacity ≤ s.currentIndex + data.length
  · rw [if_pos grows, MemoryReadWriteStream.reallocated, Option.map_eq_none_iff] at missing
    rw [if_pos grows, missing] at held
    cases held
  · rw [if_neg grows] at missing held
    rw [missing] at held
    exact ⟨r.held missing, held.resolve_left (by simp)⟩

theorem write_represents (data : List UInt8) (granted : Option Memory) (fits : data.length < 2 ^ 63)
    (allowed : Allowed s granted (.write data)) :
    Represents (s.write data granted).stream (operateFile f (.write data)).2 := by
  obtain ⟨j, bound, room, larger, outcome⟩ := write_returns r data granted fits allowed.1
  have index := r.index
  have before := r.room
  have length := overwrite_length f.contents f.cursor data f.within
  rw [outcome, operateFile, File.write]
  refine ⟨?_, ?_, ?_, ?_, ⟨j, bound, rfl⟩, ?_⟩
  · dsimp only
    rw [length, MemoryReadWriteStream.memory, ← index]
    cases held : target s data granted with
    | none =>
        obtain ⟨contents, nothing⟩ := target_none r data granted allowed held
        have start : s.currentIndex = 0 := by
          have cursor := (cursor_bound r).1
          rw [contents] at cursor
          exact Nat.le_zero.mp cursor
        simp [contents, nothing, start, overwrite, Memory.block]
    | some m => exact put_overwrites m f.contents s.currentIndex data (cursor_bound r).1 (target_contents r data granted m held)
  · dsimp only
    rw [length, index]
  · dsimp only
    rw [index]
  · dsimp only
    rw [length, ← index]
    omega
  · intro lost
    obtain ⟨contents, nothing⟩ := target_none r data granted allowed (Option.map_eq_none_iff.mp lost)
    simp [contents, nothing, overwrite]

theorem operate_good_iff (granted : Option Memory) (op : Operation) (fits : op.Fits) :
    (s.operate granted op).Good (operateFile f op).1 ↔ Allowed s granted op := by
  cases op with
  | write data => exact write_good_iff r data granted fits
  | read count => exact iff_of_true (read_good r count fits).1 trivial
  | tell => exact iff_of_true (tell_good r) trivial
  | seek position => exact seek_good_iff r position
  | getSize => exact iff_of_true (get_size_good r) trivial

theorem operate_represents (granted : Option Memory) (op : Operation) (fits : op.Fits) (allowed : Allowed s granted op) :
    Represents (s.operate granted op).stream (operateFile f op).2 := by
  cases op with
  | write data => exact write_represents r data granted fits allowed
  | read count => exact (read_good r count fits).2
  | tell | getSize => exact r
  | seek position => exact seek_represents r position allowed

end Step

-- A call with what a reallocation in it would be granted.
structure Call where
  operation : Operation
  fits : operation.Fits
  granted : Option Memory

-- The stream and the byte file side by side, with the outcome and the expected answer of
-- every call so far.
structure Session where
  stream : MemoryReadWriteStream
  file : File UInt8
  outcomes : List (Outcome × Answer)

def Session.returned (s : Session) : Bool := s.outcomes.all fun o => o.1.answer.isSome

-- A call that does not return is the last one.
def machine (block : Option Memory) : Machine Session Call where
  init := ⟨.create block, File.empty, []⟩
  step := fun s c =>
    if s.returned then
      let o := s.stream.operate c.granted c.operation
      let expected := operateFile s.file c.operation
      some ⟨o.stream, expected.2, (o, expected.1) :: s.outcomes⟩
    else none

-- Every answer was the byte file's, nothing outside the block was touched and the size
-- stays within the capacity.
structure IsByteFile (s : Session) : Prop where
  good : ∀ o ∈ s.outcomes, o.1.Good o.2
  within : 0 ≤ s.stream.size ∧ s.stream.size ≤ s.stream.capacity

def AllowedCall (s : Session) (c : Call) : Prop := Allowed s.stream c.granted c.operation

-- As long as every answer was good the stream represents the file.
theorem good_represents (block : Option Memory) (s : Session) (reach : Reachable (machine block) s)
    (good : ∀ o ∈ s.outcomes, o.1.Good o.2) : Represents s.stream s.file := by
  revert good
  refine reachable_invariant (machine block) (fun s => (∀ o ∈ s.outcomes, o.1.Good o.2) → Represents s.stream s.file)
    (fun _ => create_represents block) ?_ s reach
  intro s c t represents taken good
  dsimp only [machine] at taken
  split at taken
  · obtain rfl := Option.some.inj taken
    obtain ⟨last, before⟩ := List.forall_mem_cons.mp good
    have here := represents before
    exact operate_represents here c.granted c.operation c.fits ((operate_good_iff here c.granted c.operation c.fits).mp last)
  · cases taken

theorem represents_within {s : MemoryReadWriteStream} {f : File UInt8} (r : Represents s f) :
    0 ≤ s.size ∧ s.size ≤ s.capacity := by
  have size := r.size
  have room := r.room
  omega

theorem memory_stream_is_file_iff (block : Option Memory) (calls : List Call) :
    Meets (machine block) AllowedCall (machine block).init calls ↔
      Always (machine block) IsByteFile (machine block).init calls := by
  refine keeps_iff_always (machine block) AllowedCall IsByteFile ?_ ?_ calls
  · exact ⟨by simp [machine], represents_within (create_represents block)⟩
  · intro s c t reach holds taken
    have here := good_represents block s reach holds.good
    have exact_here := operate_good_iff here c.granted c.operation c.fits
    dsimp only [machine] at taken
    split at taken
    · obtain rfl := Option.some.inj taken
      constructor
      · intro after
        exact exact_here.mp (List.forall_mem_cons.mp after.good).1
      · intro allowed
        refine ⟨List.forall_mem_cons.mpr ⟨exact_here.mpr allowed, holds.good⟩, ?_⟩
        exact represents_within (operate_represents here c.granted c.operation c.fits allowed)
    · cases taken

-- A position before the start is accepted, and the next write leaves the block.
theorem seek_before_start :
    ¬ Always (machine (some fun _ => 0)) IsByteFile (machine (some fun _ => 0)).init
        [⟨.seek (-1), ⟨by omega, by omega⟩, none⟩] ∧
      (((MemoryReadWriteStream.create (some fun _ => 0)).seek (-1)).stream.write [1] none).inside = false := by
  constructor
  · intro always
    have after := (always.2 _ rfl).good _ List.mem_cons_self
    cases after.1
  · decide

end RadeonPanel.CaptureApi.MemoryFile
