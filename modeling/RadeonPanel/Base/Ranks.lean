import RadeonPanel.Base.Runs

set_option autoImplicit false

namespace Interleaving

variable {σ α : Type} (m : Machine σ α)

theorem exec_keeps (inv : σ → Prop) (kept : ∀ s a t, inv s → m.step s a = some t → inv t) (actions : List α) (s t : σ)
    (here : inv s) (run : exec m s actions = some t) : inv t := by
  induction actions generalizing s with
  | nil =>
      cases run
      exact here
  | cons a rest ih =>
      obtain ⟨next, taken, remaining⟩ := Option.bind_eq_some_iff.mp run
      exact ih next (kept s a next here taken) remaining

-- A task that has work left takes it down by its own steps; the steps of others do not add to it.
theorem rank_used_up (own : α → Bool) (inv pending : σ → Prop) (rank : σ → Nat)
    (kept : ∀ s a t, inv s → m.step s a = some t → inv t)
    (works : ∀ s a t, inv s → m.step s a = some t → pending t → pending s ∧ rank t ≤ rank s ∧ (own a = true → rank t < rank s))
    (actions : List α) (s t : σ) (here : inv s) (run : exec m s actions = some t) (left : pending t) :
    (actions.filter own).length + rank t ≤ rank s := by
  suffices used : pending s ∧ (actions.filter own).length + rank t ≤ rank s from used.2
  induction actions generalizing s with
  | nil =>
      cases run
      exact ⟨left, by simp⟩
  | cons a rest ih =>
      obtain ⟨next, taken, remaining⟩ := Option.bind_eq_some_iff.mp run
      obtain ⟨before, used⟩ := ih next (kept s a next here taken) remaining
      obtain ⟨pending, le, less⟩ := works s a next here taken before
      refine ⟨pending, ?_⟩
      by_cases mine : own a = true
      · have down := less mine
        rw [List.filter_cons_of_pos mine, List.length_cons]
        omega
      · rw [List.filter_cons_of_neg mine]
        omega

-- Where its own steps can still take a task, with nobody else at work.
def CanReach (own : α → Bool) (goal : σ → Prop) (s : σ) : Prop :=
  ∃ actions t, (∀ a ∈ actions, own a = true) ∧ exec m s actions = some t ∧ goal t

section CanReach
variable {m} {own : α → Bool} {goal : σ → Prop} {s t : σ}

theorem can_reach_here (here : goal s) : CanReach m own goal s := ⟨[], s, by simp, rfl, here⟩

theorem can_reach_step (a : α) (mine : own a = true) (taken : m.step s a = some t) (later : CanReach m own goal t) :
    CanReach m own goal s := by
  obtain ⟨actions, final, all, run, reached⟩ := later
  refine ⟨a :: actions, final, List.forall_mem_cons.mpr ⟨mine, all⟩, ?_, reached⟩
  rw [exec, taken, Option.bind_some, run]

theorem can_reach_then {middle : σ → Prop} (first : CanReach m own middle s)
    (later : ∀ t, middle t → CanReach m own goal t) : CanReach m own goal s := by
  obtain ⟨actions, t, all, run, reached⟩ := first
  have rest := later t reached
  clear reached
  induction actions generalizing s with
  | nil =>
      cases run
      exact rest
  | cons a remaining ih =>
      obtain ⟨next, taken, after⟩ := Option.bind_eq_some_iff.mp run
      obtain ⟨mine, others⟩ := List.forall_mem_cons.mp all
      exact can_reach_step a mine taken (ih others after)

theorem cannot_reach (inv : σ → Prop) (kept : ∀ s a t, inv s → own a = true → m.step s a = some t → inv t)
    (apart : ∀ s, inv s → ¬goal s) (here : inv s) : ¬CanReach m own goal s := by
  rintro ⟨actions, final, all, run, reached⟩
  induction actions generalizing s with
  | nil =>
      cases run
      exact apart _ here reached
  | cons a rest ih =>
      obtain ⟨next, taken, remaining⟩ := Option.bind_eq_some_iff.mp run
      obtain ⟨mine, later⟩ := List.forall_mem_cons.mp all
      exact ih (kept s a next here mine taken) later remaining

end CanReach

end Interleaving
