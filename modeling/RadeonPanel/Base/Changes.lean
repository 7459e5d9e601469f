import Mathlib.Data.List.Chain

set_option autoImplicit false

namespace Interleaving

variable {α : Type} [DecidableEq α]

-- What a filter of repeated values lets through of a stream: each new value with
-- the one it replaces.
def changes (last : α) : List α → List (α × α)
  | [] => []
  | value :: rest => if value = last then changes last rest else (value, last) :: changes value rest

def Succeeds (earlier later : α × α) : Prop := later.2 = earlier.1

theorem changes_head (last : α) (values : List α) (first : α × α) (here : first ∈ (changes last values).head?) :
    first.2 = last := by
  induction values with
  | nil => cases here
  | cons value rest ih =>
      rw [changes] at here
      split at here
      · exact ih here
      · cases here
        rfl

theorem changes_chained (last : α) (values : List α) : (changes last values).IsChain Succeeds := by
  induction values generalizing last with
  | nil => exact .nil
  | cons value rest ih =>
      rw [changes]
      split
      · exact ih last
      · exact List.isChain_cons.mpr ⟨fun first here => changes_head value rest first here, ih value⟩

end Interleaving
