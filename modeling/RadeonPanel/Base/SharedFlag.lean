import Mathlib.Data.List.Basic

set_option autoImplicit false

namespace Interleaving

-- A flag that several tasks raise, lower and read. The raises are numbered in their
-- order; `lowered` of them were made before the flag was last lowered.
structure SharedFlag where
  raised : Bool
  raises : Nat
  lowered : Nat
  standing : raised = decide (lowered < raises)
  bounded : lowered ≤ raises
deriving DecidableEq

-- What a task has read, and between which raises it read it.
structure Reading where
  answer : Bool
  lowered : Nat
  raises : Nat
  truthful : answer = decide (lowered < raises)
deriving DecidableEq

namespace SharedFlag

variable (flag : SharedFlag)

def created : SharedFlag := ⟨false, 0, 0, rfl, Nat.le_refl 0⟩

def raise : SharedFlag where
  raised := true
  raises := flag.raises + 1
  lowered := flag.lowered
  standing := by
    have later : flag.lowered < flag.raises + 1 := Nat.lt_succ_of_le flag.bounded
    simp [later]
  bounded := Nat.le_succ_of_le flag.bounded

def lower : SharedFlag where
  raised := false
  raises := flag.raises
  lowered := flag.raises
  standing := by simp
  bounded := Nat.le_refl flag.raises

def read : Reading := ⟨flag.raised, flag.lowered, flag.raises, flag.standing⟩

end SharedFlag

namespace Reading

variable (reading : Reading) (raise : Nat)

-- It came after this raise, and nobody has lowered the flag between the two.
def follows : Prop := reading.lowered ≤ raise ∧ raise < reading.raises

instance : Decidable (reading.follows raise) := inferInstanceAs (Decidable (_ ∧ _))

-- It has found the flag raised, by this raise or a later one.
def sees : Prop := reading.answer = true ∧ reading.follows raise

instance : Decidable (reading.sees raise) := inferInstanceAs (Decidable (_ ∧ _))

theorem sees_iff_follows : reading.sees raise ↔ reading.follows raise := by
  refine and_iff_right_of_imp fun between => ?_
  rw [reading.truthful]
  exact decide_eq_true (Nat.lt_of_le_of_lt between.1 between.2)

-- A flag that is found raised has been raised since it was last lowered.
theorem answer_iff_sees : reading.answer = true ↔ ∃ raise, reading.sees raise := by
  constructor
  · intro found
    have later : reading.lowered < reading.raises := of_decide_eq_true (reading.truthful.symm.trans found)
    exact ⟨reading.lowered, found, Nat.le_refl _, later⟩
  · rintro ⟨raise, found, -⟩
    exact found

theorem missed_before (earlier : raise < reading.lowered) : ¬ reading.sees raise := fun seen =>
  Nat.lt_irrefl raise (Nat.lt_of_lt_of_le earlier seen.2.1)

end Reading

end Interleaving
