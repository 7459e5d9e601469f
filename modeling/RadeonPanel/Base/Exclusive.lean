import Mathlib.Logic.Basic

set_option autoImplicit false

namespace Interleaving

variable {τ : Type}

-- A lock and the tasks inside its critical sections: who is inside owns the lock.
def Guarded (owner : Option τ) (inside : τ → Prop) : Prop := ∀ task, inside task ↔ owner = some task

theorem guarded_unique (owner : Option τ) (inside : τ → Prop) (guarded : Guarded owner inside)
    (a b : τ) (aInside : inside a) (bInside : inside b) : a = b := by
  have aOwns := (guarded a).mp aInside
  have bOwns := (guarded b).mp bInside
  exact Option.some.inj (aOwns.symm.trans bOwns)

theorem guarded_free (inside : τ → Prop) (guarded : Guarded none inside) (task : τ) : ¬ inside task := by
  intro within
  cases (guarded task).mp within

inductive LockUse where
  | keep
  | acquire
  | release
deriving DecidableEq, Repr

def LockUse.apply (task : τ) : LockUse → Option τ → Option τ
  | .keep, owner => owner
  | .acquire, _ => some task
  | .release, _ => none

-- What one step of a task may do with the lock, given whether the task is
-- inside a critical section before and after the step.
def LockUse.Legal (free before after : Prop) : LockUse → Prop
  | .keep => before ↔ after
  | .acquire => free ∧ ¬ before ∧ after
  | .release => before ∧ ¬ after

theorem guarded_step (owner : Option τ) (inside next : τ → Prop) (task : τ) (use : LockUse)
    (guarded : Guarded owner inside) (legal : use.Legal (owner = none) (inside task) (next task))
    (frame : ∀ other, other ≠ task → (next other ↔ inside other)) :
    Guarded (use.apply task owner) next := by
  intro other
  cases use with
  | keep =>
      by_cases same : other = task
      · subst other
        exact legal.symm.trans (guarded task)
      · exact (frame other same).trans (guarded other)
  | acquire =>
      obtain ⟨free, _, after⟩ := legal
      by_cases same : other = task
      · subst other
        exact ⟨fun _ => rfl, fun _ => after⟩
      · have outside : ¬ inside other := by
          subst free
          exact guarded_free inside guarded other
        simp only [LockUse.apply, Option.some.injEq, frame other same, outside, Ne.symm same]
  | release =>
      obtain ⟨before, after⟩ := legal
      by_cases same : other = task
      · subst other
        simp only [LockUse.apply, after, reduceCtorEq]
      · have outside : ¬ inside other := fun within =>
          same (guarded_unique owner inside guarded other task within before)
        simp only [LockUse.apply, frame other same, outside, reduceCtorEq]

end Interleaving
