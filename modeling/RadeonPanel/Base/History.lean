import Mathlib.Data.List.Basic

set_option autoImplicit false

namespace Interleaving

variable {ε : Type} (p : ε → List ε → Prop)

-- A history has its newest event first. The property is asked of every event
-- together with what was already there when it happened.
def AtEach : List ε → Prop
  | [] => True
  | event :: older => p event older ∧ AtEach older

theorem at_each_append (events log : List ε) (each : ∀ event ∈ events, ∀ older, p event older)
    (before : AtEach p log) : AtEach p (events ++ log) := by
  induction events with
  | nil => exact before
  | cons event rest ih =>
      have here := each event List.mem_cons_self (rest ++ log)
      have later := ih fun other member => each other (List.mem_cons_of_mem _ member)
      exact ⟨here, later⟩

theorem at_each_older (events log : List ε) (all : AtEach p (events ++ log)) : AtEach p log := by
  induction events with
  | nil => exact all
  | cons event rest ih => exact ih all.2

theorem at_each_append_iff (events log : List ε) (each : ∀ event ∈ events, ∀ older, p event older) :
    AtEach p (events ++ log) ↔ AtEach p log :=
  ⟨at_each_older p events log, at_each_append p events log each⟩

theorem at_each_mem (event : ε) (log : List ε) (all : AtEach p log) (member : event ∈ log) : ∃ older, p event older := by
  induction log with
  | nil => cases member
  | cons newest rest ih =>
      obtain rfl | before := List.mem_cons.mp member
      · exact ⟨rest, all.1⟩
      · exact ih all.2 before

-- What has happened since the last marked event, and the history up to it.
def since (marks : ε → Bool) (log : List ε) : List ε := log.takeWhile fun event => !marks event

def upTo (marks : ε → Bool) (log : List ε) : List ε := log.dropWhile fun event => !marks event

section Since
variable {marks : ε → Bool} {event : ε} (log : List ε)

@[simp] theorem since_mark (here : marks event = true) : since marks (event :: log) = [] := by simp [since, here]

@[simp] theorem since_other (other : marks event = false) : since marks (event :: log) = event :: since marks log := by
  simp [since, other]

@[simp] theorem up_to_mark (here : marks event = true) : upTo marks (event :: log) = event :: log := by simp [upTo, here]

@[simp] theorem up_to_other (other : marks event = false) : upTo marks (event :: log) = upTo marks log := by
  simp [upTo, other]

theorem since_append (events : List ε) (others : ∀ event ∈ events, marks event = false) :
    since marks (events ++ log) = events ++ since marks log := by
  induction events with
  | nil => rfl
  | cons event rest ih =>
      rw [List.cons_append, since_other _ (others event List.mem_cons_self),
        ih fun other member => others other (List.mem_cons_of_mem _ member), List.cons_append]

theorem up_to_append (events : List ε) (others : ∀ event ∈ events, marks event = false) :
    upTo marks (events ++ log) = upTo marks log := by
  induction events with
  | nil => rfl
  | cons event rest ih =>
      rw [List.cons_append, up_to_other _ (others event List.mem_cons_self)]
      exact ih fun other member => others other (List.mem_cons_of_mem _ member)

end Since

end Interleaving
