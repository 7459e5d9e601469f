import Mathlib.Data.List.Basic
import Mathlib.Logic.Function.Basic

set_option autoImplicit false

namespace Interleaving

variable {π ρ : Type}

-- Pieces of work numbered in the order they are begun, where each of them is, and
-- what has been reported of them, newest first.
structure Tickets (π ρ : Type) where
  begun : Nat
  place : Nat → π
  reports : List (Nat × ρ)

def Tickets.empty (idle : π) : Tickets π ρ := ⟨0, fun _ => idle, []⟩

def Tickets.reportsOf (t : Tickets π ρ) (i : Nat) : List ρ :=
  t.reports.filterMap fun report => if report.1 = i then some report.2 else none

def Tickets.begin (t : Tickets π ρ) (p : π) : Tickets π ρ :=
  ⟨t.begun + 1, Function.update t.place t.begun p, t.reports⟩

def Tickets.move (t : Tickets π ρ) (i : Nat) (p : π) (new : List ρ) : Tickets π ρ :=
  ⟨t.begun, Function.update t.place i p, new.map (i, ·) ++ t.reports⟩

-- What is still worked on has not been reported, everything else exactly once.
structure Tickets.Accounted (working : π → Bool) (t : Tickets π ρ) : Prop where
  pending : ∀ i < t.begun, working (t.place i) = true → t.reportsOf i = []
  settled : ∀ i < t.begun, working (t.place i) = false → ∃ report, t.reportsOf i = [report]
  fresh : ∀ i, t.begun ≤ i → t.reportsOf i = []

section

variable (t : Tickets π ρ) (i other : Nat) (p : π) (new : List ρ)

@[simp] theorem move_here : (t.move i p new).place i = p := Function.update_self _ _ _

theorem move_elsewhere (apart : other ≠ i) : (t.move i p new).place other = t.place other :=
  Function.update_of_ne apart _ _

theorem move_reports_here : (t.move i p new).reportsOf i = new ++ t.reportsOf i := by
  have own : (new.map (i, ·)).filterMap
      (fun report : Nat × ρ => if report.1 = i then some report.2 else none) = new := by
    induction new with
    | nil => rfl
    | cons report rest ih => simp only [List.map_cons, List.filterMap_cons, if_true, ih]
  simp only [Tickets.reportsOf, Tickets.move, List.filterMap_append, own]

theorem move_reports_elsewhere (apart : other ≠ i) : (t.move i p new).reportsOf other = t.reportsOf other := by
  have none : (new.map (i, ·)).filterMap
      (fun report : Nat × ρ => if report.1 = other then some report.2 else none) = [] := by
    induction new with
    | nil => rfl
    | cons report rest ih => simp only [List.map_cons, List.filterMap_cons, if_neg (Ne.symm apart), ih]
  simp only [Tickets.reportsOf, Tickets.move, List.filterMap_append, none, List.nil_append]

theorem begin_elsewhere (apart : other ≠ t.begun) : (t.begin p).place other = t.place other :=
  Function.update_of_ne apart _ _

@[simp] theorem begin_here : (t.begin p).place t.begun = p := Function.update_self _ _ _

end

variable (working : π → Bool) (t : Tickets π ρ) (i : Nat) (p : π) (new : List ρ)

theorem empty_accounted (idle : π) : (Tickets.empty idle : Tickets π ρ).Accounted working :=
  ⟨nofun, nofun, fun _ _ => rfl⟩

theorem begin_accounted (works : working p = true) (accounted : t.Accounted working) :
    (t.begin p).Accounted working := by
  refine ⟨fun other begun working' => ?_, fun other begun settled => ?_, fun other later => ?_⟩
  · by_cases last : other = t.begun
    · exact accounted.fresh other (Nat.le_of_eq last.symm)
    · rw [begin_elsewhere t other p last] at working'
      have before : other < t.begun := by
        have bound : other < t.begun + 1 := begun
        omega
      exact accounted.pending other before working'
  · by_cases last : other = t.begun
    · rw [last, begin_here, works] at settled
      cases settled
    · rw [begin_elsewhere t other p last] at settled
      have before : other < t.begun := by
        have bound : other < t.begun + 1 := begun
        omega
      exact accounted.settled other before settled
  · have bound : t.begun + 1 ≤ other := later
    exact accounted.fresh other (by omega)

-- A step of the one piece of work `i`, together with what it reports.
theorem move_accounted (begun : i < t.begun) (accounted : t.Accounted working)
    (pending : working p = true → new ++ t.reportsOf i = [])
    (settled : working p = false → ∃ report, new ++ t.reportsOf i = [report]) :
    (t.move i p new).Accounted working := by
  refine ⟨fun other bound works => ?_, fun other bound rests => ?_, fun other later => ?_⟩
  · by_cases here : other = i
    · rw [here, move_here] at works
      rw [here, move_reports_here]
      exact pending works
    · rw [move_elsewhere t i other p new here] at works
      rw [move_reports_elsewhere t i other p new here]
      exact accounted.pending other bound works
  · by_cases here : other = i
    · rw [here, move_here] at rests
      rw [here, move_reports_here]
      exact settled rests
    · rw [move_elsewhere t i other p new here] at rests
      rw [move_reports_elsewhere t i other p new here]
      exact accounted.settled other bound rests
  · have apart : other ≠ i := by
      have bound : t.begun ≤ other := later
      omega
    rw [move_reports_elsewhere t i other p new apart]
    exact accounted.fresh other later

theorem move_silent (begun : i < t.begun) (accounted : t.Accounted working) (same : working p = working (t.place i)) :
    (t.move i p []).Accounted working := by
  refine move_accounted working t i p [] begun accounted (fun works => ?_) fun rests => ?_
  · exact accounted.pending i begun (same ▸ works)
  · exact accounted.settled i begun (same ▸ rests)

theorem move_reported (begun : i < t.begun) (accounted : t.Accounted working) (worked : working (t.place i) = true)
    (rests : working p = false) (report : ρ) : (t.move i p [report]).Accounted working := by
  refine move_accounted working t i p [report] begun accounted (fun works => ?_) fun _ => ⟨report, ?_⟩
  · rw [rests] at works
    cases works
  · rw [accounted.pending i begun worked, List.append_nil]

-- Work that is dropped without a report stays unaccounted for.
theorem move_unreported (begun : i < t.begun) (accounted : t.Accounted working) (worked : working (t.place i) = true)
    (rests : working p = false) : ¬ (t.move i p []).Accounted working := by
  intro after
  obtain ⟨report, single⟩ := after.settled i begun (by rw [move_here]; exact rests)
  rw [move_reports_here, accounted.pending i begun worked] at single
  cases single

end Interleaving
