import Mathlib.Algebra.Group.Nat.Defs
import Mathlib.Control.Basic
import Mathlib.Data.List.Forall2

set_option autoImplicit false

namespace Bytes

-- The lowest byte first. What does not fit the width is cut off.
def le : Nat → Nat → List UInt8
  | 0, _ => []
  | width + 1, value => UInt8.ofNat value :: le width (value / 256)

def ofLe : List UInt8 → Nat
  | [] => 0
  | byte :: rest => byte.toNat + 256 * ofLe rest

theorem le_length (width value : Nat) : (le width value).length = width := by
  induction width generalizing value with
  | zero => rfl
  | succ width ih => rw [le, List.length_cons, ih]

theorem of_le_mod (width value : Nat) : ofLe (le width value) = value % 256 ^ width := by
  induction width generalizing value with
  | zero => rw [le, ofLe, Nat.pow_zero, Nat.mod_one]
  | succ width ih =>
      have split : 256 ^ (width + 1) = 256 * 256 ^ width := Nat.pow_succ'
      rw [le, ofLe, ih, UInt8.toNat_ofNat', split, Nat.mod_mul]

-- Takes its value from the front of the bytes and leaves the rest.
abbrev Reader (α : Type) := StateT (List UInt8) Option α

def take (count : Nat) : Reader (List UInt8) := fun bytes =>
  if count ≤ bytes.length then some (bytes.take count, bytes.drop count) else none

def uint (width : Nat) : Reader Nat := ofLe <$> take width

def check (p : Prop) [Decidable p] : Reader Unit := fun bytes => if p then some ((), bytes) else none

section Many
variable {α : Type}

def many (read : Reader α) : Nat → Reader (List α)
  | 0 => pure []
  | count + 1 => do
      let first ← read
      let later ← many read count
      pure (first :: later)

end Many

section Reads
variable {α β : Type}

-- These bytes give this value, whatever follows.
def Reads (read : Reader α) (written : List UInt8) (value : α) : Prop :=
  ∀ rest, read (written ++ rest) = some (value, rest)

theorem reads_pure (value : α) : Reads (pure value) [] value := fun _ => rfl

section Bind
variable {read : Reader α} {next : α → Reader β} {before after : List UInt8} {value : α} {result : β}

theorem reads_bind (reads : Reads read before value) (continues : Reads (next value) after result) :
    Reads (read >>= next) (before ++ after) result := by
  intro rest
  change (read ((before ++ after) ++ rest)).bind (fun p => next p.1 p.2) = _
  rw [List.append_assoc, reads, Option.bind_some, continues]

theorem reads_last (f : α → β) (reads : Reads read before value) :
    Reads (read >>= fun value => pure (f value)) before (f value) := by
  have ended : Reads (read >>= fun value => pure (f value)) (before ++ []) (f value) :=
    reads_bind reads (reads_pure (f value))
  rwa [List.append_nil] at ended

theorem reads_check {p : Prop} [Decidable p] {next : Unit → Reader β} (holds : p)
    (continues : Reads (next ()) after result) : Reads (check p >>= next) after result := by
  intro rest
  change (check p (after ++ rest)).bind (fun q => next q.1 q.2) = _
  rw [check, if_pos holds, Option.bind_some, continues]

end Bind

theorem reads_map (read : Reader α) (f : α → β) (written : List UInt8) (value : α) (reads : Reads read written value) :
    Reads (f <$> read) written (f value) := by
  intro rest
  change (read (written ++ rest)).bind (fun p => some (f p.1, p.2)) = _
  rw [reads, Option.bind_some]

theorem reads_take (written : List UInt8) : Reads (take written.length) written written := by
  intro rest
  simp [take]

theorem reads_uint_mod (width value : Nat) : Reads (uint width) (le width value) (value % 256 ^ width) := by
  have bytes := reads_take (le width value)
  rw [le_length] at bytes
  have read := reads_map _ ofLe _ _ bytes
  rwa [of_le_mod] at read

theorem reads_uint (width value : Nat) (fits : value < 256 ^ width) : Reads (uint width) (le width value) value := by
  have read := reads_uint_mod width value
  rwa [Nat.mod_eq_of_lt fits] at read

theorem reads_many (read : Reader α) (written : List (List UInt8)) (values : List α)
    (each : List.Forall₂ (Reads read) written values) : Reads (many read values.length) written.flatten values := by
  induction each with
  | nil => exact reads_pure []
  | @cons _ value _ _ first _ ih =>
      rw [List.flatten_cons, List.length_cons, many]
      exact reads_bind first (reads_last (fun later => value :: later) ih)

theorem reads_each (read : Reader β) (write : α → List UInt8) (value : α → β) (items : List α)
    (each : ∀ item ∈ items, Reads read (write item) (value item)) :
    Reads (many read items.length) (items.flatMap write) (items.map value) := by
  have pairs : List.Forall₂ (Reads read) (items.map write) (items.map value) := by
    rw [List.forall₂_map_left_iff, List.forall₂_map_right_iff, List.forall₂_same]
    exact each
  have reads := reads_many read _ _ pairs
  rwa [List.length_map, ← List.flatMap_def] at reads

-- A record whose first bytes are its own size, taken without a look at the rest of it.
def sized (width : Nat) : Reader (List UInt8) := fun bytes => take (ofLe (bytes.take width)) bytes

theorem reads_sized (width : Nat) (record : List UInt8) (long : width ≤ record.length)
    (own : ofLe (record.take width) = record.length) : Reads (sized width) record record := by
  intro rest
  rw [sized, List.take_append_of_le_length long, own]
  exact reads_take record rest

theorem size_first (width size : Nat) (rest : List UInt8) (fits : size < 256 ^ width) :
    ofLe ((le width size ++ rest).take width) = size := by
  rw [List.take_left' (le_length width size), of_le_mod, Nat.mod_eq_of_lt fits]

end Reads

section Ensures
variable {α β : Type}

-- Whatever the bytes are, a value that is read has the property.
def Ensures (read : Reader α) (property : α → Prop) : Prop :=
  ∀ bytes value rest, read bytes = some (value, rest) → property value

theorem ensures_pure (value : α) (property : α → Prop) (holds : property value) : Ensures (pure value) property := by
  intro bytes other rest result
  cases result
  exact holds

section Bind
variable {read : Reader α} {next : α → Reader β} {property : β → Prop}

theorem ensures_bind {first : α → Prop} (reads : Ensures read first)
    (continues : ∀ value, first value → Ensures (next value) property) : Ensures (read >>= next) property := by
  intro bytes result rest done
  obtain ⟨⟨value, left⟩, here, later⟩ := Option.bind_eq_some_iff.mp done
  exact continues value (reads bytes value left here) left result rest later

theorem ensures_next (continues : ∀ value, Ensures (next value) property) : Ensures (read >>= next) property := by
  have anything : Ensures read fun _ => True := fun _ _ _ _ => trivial
  exact ensures_bind anything fun value _ => continues value

end Bind

theorem many_length (read : Reader α) (count : Nat) : Ensures (many read count) fun values => values.length = count := by
  induction count with
  | zero => exact ensures_pure [] _ rfl
  | succ count ih =>
      rw [many]
      refine ensures_next fun first => ensures_bind ih fun later length => ensures_pure _ _ ?_
      rw [List.length_cons, length]

theorem many_each (read : Reader α) (property : α → Prop) (count : Nat) (each : Ensures read property) :
    Ensures (many read count) fun values => ∀ value ∈ values, property value := by
  induction count with
  | zero => exact ensures_pure [] _ (by simp)
  | succ count ih =>
      rw [many]
      refine ensures_bind each fun first here => ensures_bind ih fun later there => ensures_pure _ _ ?_
      exact List.forall_mem_cons.mpr ⟨here, there⟩

end Ensures

end Bytes
