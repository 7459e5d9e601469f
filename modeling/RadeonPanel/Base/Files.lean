import Mathlib.Data.List.Basic

set_option autoImplicit false

namespace Files

variable {α : Type}

def overwrite (contents : List α) (place : Nat) (data : List α) : List α :=
  contents.take place ++ data ++ contents.drop (place + data.length)

theorem overwrite_length (contents : List α) (place : Nat) (data : List α) (within : place ≤ contents.length) :
    (overwrite contents place data).length = max contents.length (place + data.length) := by
  simp only [overwrite, List.length_append, List.length_take, List.length_drop]
  omega

-- A growable array with a cursor, which never stands behind the last member.
structure File (α : Type) where
  contents : List α
  cursor : Nat
  within : cursor ≤ contents.length

namespace File

variable (f : File α)

def empty : File α := ⟨[], 0, Nat.zero_le _⟩

def write (data : List α) : File α where
  contents := overwrite f.contents f.cursor data
  cursor := f.cursor + data.length
  within := by
    rw [overwrite_length f.contents f.cursor data f.within]
    exact Nat.le_max_right _ _

-- None where the file ends earlier.
def read (count : Nat) : Option (List α × File α) :=
  if enough : f.cursor + count ≤ f.contents.length then
    some ((f.contents.drop f.cursor).take count, ⟨f.contents, f.cursor + count, enough⟩)
  else none

def seek (position : Int) : Option (File α) :=
  if inside : 0 ≤ position ∧ position ≤ f.contents.length then some ⟨f.contents, position.toNat, by omega⟩ else none

end File

end Files
