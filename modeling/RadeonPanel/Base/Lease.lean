import Mathlib.Data.Finset.Basic

set_option autoImplicit false

namespace Interleaving

variable {ι : Type} [DecidableEq ι]

-- Something that is opened for the first of its holders and closed after the last.
structure Lease (ι : Type) where
  holders : Finset ι
  opened : Nat
  closed : Nat

def Lease.empty : Lease ι := ⟨∅, 0, 0⟩

def Lease.join (l : Lease ι) (i : ι) : Lease ι :=
  ⟨insert i l.holders, if l.holders = ∅ then l.opened + 1 else l.opened, l.closed⟩

def Lease.leave (l : Lease ι) (i : ι) : Lease ι :=
  ⟨l.holders.erase i, l.opened, if l.holders.erase i = ∅ then l.closed + 1 else l.closed⟩

def Lease.Balanced (l : Lease ι) : Prop := l.opened = l.closed + if l.holders = ∅ then 0 else 1

theorem empty_balanced : (Lease.empty : Lease ι).Balanced := rfl

theorem join_balanced (l : Lease ι) (i : ι) (balanced : l.Balanced) : (l.join i).Balanced := by
  unfold Lease.Balanced at balanced
  unfold Lease.Balanced Lease.join
  by_cases unused : l.holders = ∅
  · rw [if_pos unused] at balanced
    rw [if_pos unused, if_neg (Finset.insert_ne_empty i l.holders), balanced]
  · rw [if_neg unused] at balanced
    rw [if_neg unused, if_neg (Finset.insert_ne_empty i l.holders), balanced]

theorem leave_balanced (l : Lease ι) (i : ι) (held : i ∈ l.holders) (balanced : l.Balanced) :
    (l.leave i).Balanced := by
  have used : l.holders ≠ ∅ := Finset.ne_empty_of_mem held
  unfold Lease.Balanced at balanced
  unfold Lease.Balanced Lease.leave
  rw [if_neg used] at balanced
  by_cases last : l.holders.erase i = ∅
  · rw [if_pos last, if_pos last, balanced]
  · rw [if_neg last, if_neg last, balanced]

theorem balanced_unused (l : Lease ι) (balanced : l.Balanced) (unused : l.holders = ∅) : l.opened = l.closed := by
  rwa [Lease.Balanced, if_pos unused] at balanced

end Interleaving
