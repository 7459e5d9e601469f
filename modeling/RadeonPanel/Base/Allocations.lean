import Mathlib.Data.List.Perm.Basic
import Mathlib.Data.List.Nodup

set_option autoImplicit false

namespace Allocations

-- An allocator that numbers its blocks by the attempts to allocate. Which attempts
-- fail is said by those who use it.
structure Allocator where
  attempts : Nat
  allocated : List Nat
  freed : List Nat

def Allocator.alloc (fails : Nat → Bool) (a : Allocator) : Allocator × Option Nat :=
  if fails a.attempts then ({ a with attempts := a.attempts + 1 }, none)
  else ({ a with attempts := a.attempts + 1, allocated := a.attempts :: a.allocated }, some a.attempts)

def Allocator.free (a : Allocator) (block : Nat) : Allocator := { a with freed := block :: a.freed }

-- Since `before` exactly these blocks were allocated, and none was freed.
structure Owns (before a : Allocator) (blocks : List Nat) : Prop where
  attempts : before.attempts ≤ a.attempts
  fresh : ∀ block ∈ blocks, before.attempts ≤ block ∧ block < a.attempts
  distinct : blocks.Nodup
  allocated : a.allocated.Perm (blocks ++ before.allocated)
  freed : a.freed = before.freed

-- Since `before` every block that was allocated was freed once, and no other.
def Balanced (before a : Allocator) : Prop :=
  ∃ blocks, (∀ block ∈ blocks, before.attempts ≤ block) ∧ blocks.Nodup ∧
    a.allocated.Perm (blocks ++ before.allocated) ∧ a.freed.Perm (blocks ++ before.freed)

variable (before between a : Allocator) (blocks others : List Nat)

theorem owns_nothing : Owns a a [] := ⟨Nat.le_refl _, by simp, .nil, .refl _, rfl⟩

theorem owns_append (first : Owns before between blocks) (second : Owns between a others) :
    Owns before a (blocks ++ others) := by
  refine ⟨Nat.le_trans first.attempts second.attempts, ?_, ?_, ?_, second.freed.trans first.freed⟩
  · intro block member
    obtain early | late := List.mem_append.mp member
    · obtain ⟨low, high⟩ := first.fresh block early
      exact ⟨low, Nat.lt_of_lt_of_le high second.attempts⟩
    · obtain ⟨low, high⟩ := second.fresh block late
      exact ⟨Nat.le_trans first.attempts low, high⟩
  · refine List.nodup_append.mpr ⟨first.distinct, second.distinct, ?_⟩
    rintro block early other late rfl
    exact Nat.not_lt_of_le (second.fresh block late).1 (first.fresh block early).2
  · have appended := second.allocated.trans (first.allocated.append_left others)
    rw [← List.append_assoc] at appended
    exact appended.trans (List.perm_append_comm.append_right before.allocated)

theorem owns_perm (owns : Owns before a blocks) (same : blocks.Perm others) : Owns before a others := by
  refine ⟨owns.attempts, fun block member => owns.fresh block (same.mem_iff.mpr member), same.nodup_iff.mp owns.distinct,
    owns.allocated.trans (same.append_right before.allocated), owns.freed⟩

theorem owns_alloc (fails : Nat → Bool) : Owns a (a.alloc fails).1 (a.alloc fails).2.toList := by
  unfold Allocator.alloc
  by_cases failed : fails a.attempts = true
  · rw [if_pos failed]
    exact ⟨Nat.le_succ _, by simp, .nil, .refl _, rfl⟩
  · rw [if_neg failed]
    exact ⟨Nat.le_succ _, by simp, List.nodup_singleton _, .refl _, rfl⟩

def Allocator.freeAll (a : Allocator) : List Nat → Allocator
  | [] => a
  | block :: rest => (a.free block).freeAll rest

theorem free_all_freed : (a.freeAll blocks).freed.Perm (blocks ++ a.freed) := by
  induction blocks generalizing a with
  | nil => exact .refl _
  | cons block rest ih => exact (ih (a.free block)).trans List.perm_middle

theorem free_all_allocated : (a.freeAll blocks).allocated = a.allocated := by
  induction blocks generalizing a with
  | nil => rfl
  | cons block rest ih => exact ih (a.free block)

theorem free_all_append : a.freeAll (blocks ++ others) = (a.freeAll blocks).freeAll others := by
  induction blocks generalizing a with
  | nil => rfl
  | cons block rest ih => exact ih (a.free block)

theorem owns_balanced (owns : Owns before a blocks) : Balanced before (a.freeAll blocks) := by
  refine ⟨blocks, fun block member => (owns.fresh block member).1, owns.distinct, ?_, ?_⟩
  · rw [free_all_allocated]
    exact owns.allocated
  · rw [← owns.freed]
    exact free_all_freed a blocks

theorem balanced_nothing : Balanced a a := ⟨[], by simp, .nil, .refl _, .refl _⟩

end Allocations
