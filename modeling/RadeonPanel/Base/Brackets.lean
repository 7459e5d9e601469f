import Mathlib.Data.List.Basic
import Mathlib.Data.List.Induction

set_option autoImplicit false

namespace Interleaving

variable {ι : Type}

inductive Bracket (ι : Type) where
  | opened (session : ι)
  | closed (session : ι)
deriving DecidableEq, Repr

def session (i : ι) : List (Bracket ι) := [.opened i, .closed i]

def sessions (done : List ι) : List (Bracket ι) := done.flatMap session

-- Oldest bracket first: complete sessions one after the other, and at most one
-- still open at the end.
def Closed (log : List (Bracket ι)) : Prop := ∃ done, log = sessions done

def OpenFor (i : ι) (log : List (Bracket ι)) : Prop := ∃ done, log = sessions done ++ [.opened i]

def Alternates (log : List (Bracket ι)) : Prop := Closed log ∨ ∃ i, OpenFor i log

theorem closed_nil : Closed ([] : List (Bracket ι)) := ⟨[], rfl⟩

theorem closed_open (i : ι) (log : List (Bracket ι)) (closed : Closed log) :
    OpenFor i (log ++ [.opened i]) := by
  obtain ⟨done, rfl⟩ := closed
  exact ⟨done, rfl⟩

theorem open_close (i : ι) (log : List (Bracket ι)) (isOpen : OpenFor i log) :
    Closed (log ++ [.closed i]) := by
  obtain ⟨done, rfl⟩ := isOpen
  exact ⟨done ++ [i], by simp [sessions, session]⟩

theorem sessions_last (done : List ι) (last : Bracket ι) (ends : (sessions done).getLast? = some last) :
    ∃ i, last = .closed i := by
  induction done using List.reverseRecOn with
  | nil => simp [sessions] at ends
  | append_singleton rest i _ =>
      refine ⟨i, ?_⟩
      simp only [sessions, List.flatMap_append, List.flatMap_cons, List.flatMap_nil, session,
        List.append_nil, List.getLast?_append, List.getLast?_cons_cons, List.getLast?_singleton,
        Option.some_or, Option.some.injEq] at ends
      exact ends.symm

-- A session can only be opened where none is open.
theorem alternates_opened (j : ι) (log : List (Bracket ι)) (alternates : Alternates (log ++ [.opened j])) :
    Closed log := by
  obtain ⟨done, same⟩ | ⟨i, done, same⟩ := alternates
  · have ends := congrArg List.getLast? same.symm
    simp only [List.getLast?_append, List.getLast?_singleton, Option.some_or] at ends
    obtain ⟨k, impossible⟩ := sessions_last done _ ends
    cases impossible
  · exact ⟨done, (List.append_inj' same rfl).1⟩

theorem closed_closes (i : ι) (log : List (Bracket ι)) (closed : Closed log) (opens : .opened i ∈ log) :
    .closed i ∈ log := by
  obtain ⟨done, rfl⟩ := closed
  obtain ⟨j, member, within⟩ := List.mem_flatMap.mp opens
  have same : i = j := by simpa [session] using within
  exact List.mem_flatMap.mpr ⟨j, member, by simp [session, same]⟩

end Interleaving
