import Mathlib.Logic.Function.Basic
import Mathlib.Data.List.Basic

set_option autoImplicit false

namespace Interleaving

-- A machine takes one action of one of its tasks at a time. A task that has to
-- wait is an action without a successor.
structure Machine (σ α : Type) where
  init : σ
  step : σ → α → Option σ

variable {σ α : Type} (m : Machine σ α)

def exec (s : σ) : List α → Option σ
  | [] => some s
  | a :: rest => (m.step s a).bind fun t => exec t rest

-- The states of the runs whose every step is allowed in the state it is taken in.
inductive Reach (allowed : σ → α → Prop) : σ → Prop where
  | init : Reach allowed m.init
  | step (s t : σ) (a : α) (before : Reach allowed s) (meets : allowed s a)
      (next : m.step s a = some t) : Reach allowed t

def unrestricted : σ → α → Prop := fun _ _ => True

abbrev Reachable (s : σ) : Prop := Reach m unrestricted s

theorem reach_invariant (allowed : σ → α → Prop) (inv : σ → Prop) (start : inv m.init)
    (keep : ∀ s a t, Reach m allowed s → inv s → allowed s a → m.step s a = some t → inv t)
    (s : σ) (reach : Reach m allowed s) : inv s := by
  induction reach with
  | init => exact start
  | step s t a before meets next ih => exact keep s a t before ih meets next

theorem reachable_invariant (inv : σ → Prop) (start : inv m.init)
    (keep : ∀ s a t, inv s → m.step s a = some t → inv t) (s : σ) (reach : Reachable m s) : inv s :=
  reach_invariant m unrestricted inv start (fun s a t _ holds _ next => keep s a t holds next) s reach

theorem reach_mono (strong weak : σ → α → Prop) (weaker : ∀ s a, strong s a → weak s a)
    (s : σ) (reach : Reach m strong s) : Reach m weak s := by
  induction reach with
  | init => exact .init
  | step s t a _ meets next ih => exact .step s t a ih (weaker s a meets) next

theorem reach_reachable (allowed : σ → α → Prop) (s : σ) (reach : Reach m allowed s) : Reachable m s :=
  reach_mono m allowed unrestricted (fun _ _ _ => trivial) s reach

theorem exec_reachable (actions : List α) (s t : σ) (reach : Reachable m s)
    (run : exec m s actions = some t) : Reachable m t := by
  induction actions generalizing s with
  | nil => cases run; exact reach
  | cons a rest ih =>
      obtain ⟨next, taken, remaining⟩ := Option.bind_eq_some_iff.mp run
      exact ih next (.step s next a reach trivial taken) remaining

-- What a run that `decide` can execute shows of a reachable state.
theorem exec_finds (actions : List α) (found : σ → Bool) (run : (exec m m.init actions).any found = true) :
    ∃ s, Reachable m s ∧ found s = true := by
  obtain ⟨s, final, holds⟩ := (Option.any_eq_true found _).mp run
  exact ⟨s, exec_reachable m actions m.init s .init final, holds⟩

-- The same for a state on the way and the run that goes on from it.
theorem exec_finds_later (first second : List α) (found later : σ → Bool)
    (run : (exec m m.init first).any (fun s => found s && (exec m s second).any later) = true) :
    ∃ s t, Reachable m s ∧ found s = true ∧ exec m s second = some t ∧ later t = true := by
  obtain ⟨s, start, holds⟩ := (Option.any_eq_true _ _).mp run
  obtain ⟨here, rest⟩ := Bool.and_eq_true_iff.mp holds
  obtain ⟨t, final, there⟩ := (Option.any_eq_true _ _).mp rest
  exact ⟨s, t, exec_reachable m first m.init s .init start, here, final, there⟩

-- The same for runs whose steps are checked on the way.
def execIf (allowed : σ → α → Bool) (s : σ) : List α → Option σ
  | [] => some s
  | a :: rest => if allowed s a then (m.step s a).bind fun t => execIf allowed t rest else none

theorem exec_if_reach (allowed : σ → α → Bool) (actions : List α) (s t : σ)
    (reach : Reach m (fun s a => allowed s a = true) s) (run : execIf m allowed s actions = some t) :
    Reach m (fun s a => allowed s a = true) t := by
  induction actions generalizing s with
  | nil => cases run; exact reach
  | cons a rest ih =>
      by_cases meets : allowed s a = true
      · rw [execIf, if_pos meets] at run
        obtain ⟨next, taken, remaining⟩ := Option.bind_eq_some_iff.mp run
        exact ih next (.step s next a reach meets taken) remaining
      · rw [execIf, if_neg meets] at run
        cases run

theorem exec_if_finds (allowed : σ → α → Bool) (actions : List α) (found : σ → Bool)
    (run : (execIf m allowed m.init actions).any found = true) :
    ∃ s, Reach m (fun s a => allowed s a = true) s ∧ found s = true := by
  obtain ⟨s, final, holds⟩ := (Option.any_eq_true found _).mp run
  exact ⟨s, exec_if_reach m allowed actions m.init s .init final, holds⟩

-- Along one given run: every step taken is allowed, and every state passed has the property.
def Meets (allowed : σ → α → Prop) : σ → List α → Prop
  | _, [] => True
  | s, a :: rest => ∀ t, m.step s a = some t → allowed s a ∧ Meets allowed t rest

def Always (holds : σ → Prop) : σ → List α → Prop
  | s, [] => holds s
  | s, a :: rest => holds s ∧ ∀ t, m.step s a = some t → Always holds t rest

theorem exec_if_meets (allowed : σ → α → Prop) [∀ s a, Decidable (allowed s a)] (actions : List α) (s t : σ)
    (run : execIf m (fun s a => decide (allowed s a)) s actions = some t) :
    Meets m allowed s actions ∧ exec m s actions = some t := by
  induction actions generalizing s with
  | nil => exact ⟨trivial, run⟩
  | cons a rest ih =>
      by_cases meets : allowed s a
      · rw [execIf, if_pos (decide_eq_true meets)] at run
        obtain ⟨next, taken, remaining⟩ := Option.bind_eq_some_iff.mp run
        obtain ⟨later, final⟩ := ih next remaining
        refine ⟨fun other step => ?_, by rw [exec, taken, Option.bind_some, final]⟩
        cases taken.symm.trans step
        exact ⟨meets, later⟩
      · rw [execIf, if_neg (by simp [meets])] at run
        cases run

theorem always_here (holds : σ → Prop) (s : σ) (actions : List α)
    (always : Always m holds s actions) : holds s := by
  cases actions with
  | nil => exact always
  | cons a rest => exact always.1

theorem always_exec (holds : σ → Prop) (s t : σ) (actions : List α) (always : Always m holds s actions)
    (run : exec m s actions = some t) : holds t := by
  induction actions generalizing s with
  | nil =>
      cases run
      exact always
  | cons a rest ih =>
      obtain ⟨next, taken, remaining⟩ := Option.bind_eq_some_iff.mp run
      exact ih next (always.2 next taken) remaining

theorem always_finds (holds : σ → Prop) (s : σ) (actions : List α) (found : σ → Bool) (always : Always m holds s actions)
    (run : (exec m s actions).any found = true) : ∃ t, holds t ∧ found t = true := by
  obtain ⟨t, final, here⟩ := (Option.any_eq_true found _).mp run
  exact ⟨t, always_exec m holds s t actions always final, here⟩

theorem meets_always (allowed : σ → α → Prop) (holds : σ → Prop)
    (sound : ∀ s, Reach m allowed s → holds s) (s : σ) (reach : Reach m allowed s)
    (actions : List α) (meets : Meets m allowed s actions) : Always m holds s actions := by
  induction actions generalizing s with
  | nil => exact sound s reach
  | cons a rest ih =>
      refine ⟨sound s reach, fun t next => ?_⟩
      obtain ⟨here, later⟩ := meets t next
      exact ih t (.step s t a reach here next) later

-- What the property has already enforced on the way may be used at each step.
theorem always_meets_within (allowed : σ → α → Prop) (holds : σ → Prop)
    (exact : ∀ s a t, Reach m allowed s → holds s → m.step s a = some t → holds t → allowed s a)
    (s : σ) (reach : Reach m allowed s) (actions : List α) (always : Always m holds s actions) :
    Meets m allowed s actions := by
  induction actions generalizing s with
  | nil => trivial
  | cons a rest ih =>
      intro t next
      have later := always.2 t next
      have here := exact s a t reach always.1 next (always_here m holds t rest later)
      exact ⟨here, ih t (.step s t a reach here next) later⟩

theorem always_meets (allowed : σ → α → Prop) (holds : σ → Prop)
    (exact : ∀ s a t, Reachable m s → holds s → m.step s a = some t → holds t → allowed s a)
    (actions : List α) (always : Always m holds m.init actions) : Meets m allowed m.init actions :=
  always_meets_within m allowed holds
    (fun s a t before => exact s a t (reach_reachable m allowed s before)) m.init .init actions always

-- Where a step keeps the property exactly if it is allowed, so does a run, also one of
-- which something is assumed of each step.
theorem keeps_iff_always_where (assumed allowed : σ → α → Prop) (holds : σ → Prop)
    (keeps : ∀ s a t, Reachable m s → holds s → assumed s a → m.step s a = some t → (holds t ↔ allowed s a))
    (s : σ) (reach : Reachable m s) (here : holds s) (actions : List α) (meets : Meets m assumed s actions) :
    Meets m allowed s actions ↔ Always m holds s actions := by
  induction actions generalizing s with
  | nil => exact iff_of_true trivial here
  | cons a rest ih =>
      constructor
      · intro allows
        refine ⟨here, fun t next => ?_⟩
        have after := (keeps s a t reach here (meets t next).1 next).mpr (allows t next).1
        exact (ih t (.step s t a reach trivial next) after (meets t next).2).mp (allows t next).2
      · intro always t next
        have after := always_here m holds t rest (always.2 t next)
        refine ⟨(keeps s a t reach here (meets t next).1 next).mp after, ?_⟩
        exact (ih t (.step s t a reach trivial next) after (meets t next).2).mpr (always.2 t next)

theorem meets_unrestricted (s : σ) (actions : List α) : Meets m unrestricted s actions := by
  induction actions generalizing s with
  | nil => trivial
  | cons a rest ih => exact fun t _ => ⟨trivial, ih t⟩

theorem keeps_iff_always (allowed : σ → α → Prop) (holds : σ → Prop) (start : holds m.init)
    (keeps : ∀ s a t, Reachable m s → holds s → m.step s a = some t → (holds t ↔ allowed s a))
    (actions : List α) : Meets m allowed m.init actions ↔ Always m holds m.init actions :=
  keeps_iff_always_where m unrestricted allowed holds (fun s a t reach here _ => keeps s a t reach here) m.init .init
    start actions (meets_unrestricted m m.init actions)

-- What a condition on the steps gives along an invariant it keeps, it gives along a run.
theorem meets_within (first second : σ → α → Prop) (inv : σ → Prop)
    (sound : ∀ s a t, inv s → m.step s a = some t → first s a → second s a ∧ inv t) (s : σ) (holds : inv s)
    (actions : List α) (meets : Meets m first s actions) : Meets m second s actions := by
  induction actions generalizing s with
  | nil => trivial
  | cons a rest ih =>
      intro t next
      obtain ⟨here, later⟩ := meets t next
      obtain ⟨gives, kept⟩ := sound s a t holds next here
      exact ⟨gives, ih t kept later⟩

theorem meets_iff (first second : σ → α → Prop) (inv : σ → Prop)
    (same : ∀ s a t, inv s → m.step s a = some t → (first s a ↔ second s a))
    (keeps : ∀ s a t, inv s → first s a → m.step s a = some t → inv t) (s : σ) (holds : inv s)
    (actions : List α) : Meets m first s actions ↔ Meets m second s actions := by
  constructor
  · exact meets_within m first second inv
      (fun s a t here next allowed => ⟨(same s a t here next).mp allowed, keeps s a t here allowed next⟩) s holds actions
  · refine meets_within m second first inv (fun s a t here next gives => ?_) s holds actions
    have allowed := (same s a t here next).mpr gives
    exact ⟨allowed, keeps s a t here allowed next⟩

end Interleaving
