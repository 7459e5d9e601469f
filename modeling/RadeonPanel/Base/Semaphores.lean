import Mathlib.Logic.Function.Basic

set_option autoImplicit false

namespace Semaphores

variable {ι σ : Type} [DecidableEq ι] [DecidableEq σ]

-- The users of semaphores: which one a user has open, and whether it has taken it.
abbrev Users (ι σ : Type) := ι → Option (σ × Bool)

-- Each semaphore that is open is taken by one user at most, and its value says whether it is.
structure Guards (u : Users ι σ) (value : σ → Nat) : Prop where
  zero : ∀ i id, u i = some (id, true) → value id = 0
  one : ∀ i id taken, u i = some (id, taken) → (∀ j, u j ≠ some (id, true)) → value id = 1
  unique : ∀ i j id, u i = some (id, true) → u j = some (id, true) → i = j

variable {u : Users ι σ} {value : σ → Nat} (guards : Guards u value)
include guards

omit [DecidableEq ι] [DecidableEq σ] in
theorem Guards.free (i : ι) (id : σ) (taken : Bool) (here : u i = some (id, taken)) (up : value id ≠ 0) :
    (∀ j, u j ≠ some (id, true)) ∧ value id = 1 :=
  have untaken (j : ι) (there : u j = some (id, true)) : False := up (guards.zero j id there)
  ⟨untaken, guards.one i id taken here untaken⟩

theorem Guards.acquire (i : ι) (id : σ) (taken : Bool) (here : u i = some (id, taken)) (up : value id ≠ 0) :
    Guards (Function.update u i (some (id, true))) (Function.update value id (value id - 1)) := by
  obtain ⟨untaken, one⟩ := guards.free i id taken here up
  refine ⟨?_, ?_, ?_⟩
  · intro j k there
    by_cases same : j = i
    · subst same
      rw [Function.update_self] at there
      cases there
      rw [Function.update_self, one]
    · rw [Function.update_of_ne same] at there
      have apart : k ≠ id := by
        rintro rfl
        exact untaken j there
      rw [Function.update_of_ne apart]
      exact guards.zero j k there
  · intro j k other there free
    have apart : k ≠ id := by
      rintro rfl
      exact free i (Function.update_self i _ u)
    have elsewhere : j ≠ i := by
      rintro rfl
      rw [Function.update_self] at there
      cases there
      exact apart rfl
    rw [Function.update_of_ne elsewhere] at there
    rw [Function.update_of_ne apart]
    refine guards.one j k other there fun l mine => ?_
    by_cases same : l = i
    · subst same
      cases here.symm.trans mine
      exact apart rfl
    · exact free l (by rwa [Function.update_of_ne same])
  · intro j l k there also
    have is (m : ι) (mine : Function.update u i (some (id, true)) m = some (k, true)) : k = id → m = i := by
      rintro rfl
      by_contra same
      rw [Function.update_of_ne same] at mine
      exact untaken m mine
    by_cases here : k = id
    · rw [is j there here, is l also here]
    · have elsewhere (m : ι) (mine : Function.update u i (some (id, true)) m = some (k, true)) : u m = some (k, true) := by
        by_cases same : m = i
        · subst same
          rw [Function.update_self] at mine
          cases mine
          exact absurd rfl here
        · rwa [Function.update_of_ne same] at mine
      exact guards.unique j l k (elsewhere j there) (elsewhere l also)

omit [DecidableEq σ] in
-- Another user opens a semaphore that someone has open.
theorem Guards.attach (i j : ι) (id : σ) (other : Bool) (idle : ∀ k, u i ≠ some (k, true)) (apart : j ≠ i)
    (opened : u j = some (id, other)) : Guards (Function.update u i (some (id, false))) value := by
  have taken (l : ι) (k : σ) : Function.update u i (some (id, false)) l = some (k, true) ↔ u l = some (k, true) := by
    by_cases same : l = i
    · subst same
      rw [Function.update_self]
      exact iff_of_false (by simp) (idle k)
    · rw [Function.update_of_ne same]
  refine ⟨?_, ?_, ?_⟩
  · intro l k there
    exact guards.zero l k ((taken l k).mp there)
  · intro l k mine there free
    have untaken (m : ι) : u m ≠ some (k, true) := fun here => free m ((taken m k).mpr here)
    by_cases same : l = i
    · subst same
      rw [Function.update_self] at there
      cases there
      exact guards.one j id other opened untaken
    · rw [Function.update_of_ne same] at there
      exact guards.one l k mine there untaken
  · intro l m k there also
    exact guards.unique l m k ((taken l k).mp there) ((taken m k).mp also)

theorem Guards.create (i : ι) (id : σ) (idle : ∀ k, u i ≠ some (k, true)) (fresh : ∀ j taken, u j ≠ some (id, taken)) :
    Guards (Function.update u i (some (id, false))) (Function.update value id 1) := by
  have taken (j : ι) (k : σ) : Function.update u i (some (id, false)) j = some (k, true) ↔ u j = some (k, true) := by
    by_cases same : j = i
    · subst same
      rw [Function.update_self]
      exact iff_of_false (by simp) (idle k)
    · rw [Function.update_of_ne same]
  refine ⟨?_, ?_, ?_⟩
  · intro j k there
    have was := (taken j k).mp there
    have apart : k ≠ id := by
      rintro rfl
      exact fresh j true was
    rw [Function.update_of_ne apart]
    exact guards.zero j k was
  · intro j k other there free
    by_cases apart : k = id
    · rw [apart, Function.update_self]
    · have same : j ≠ i := by
        rintro rfl
        rw [Function.update_self] at there
        cases there
        exact apart rfl
      rw [Function.update_of_ne same] at there
      rw [Function.update_of_ne apart]
      exact guards.one j k other there fun l mine => free l ((taken l k).mpr mine)
  · intro j l k there also
    exact guards.unique j l k ((taken j k).mp there) ((taken l k).mp also)

theorem Guards.release (i : ι) (id : σ) (here : u i = some (id, true)) :
    Guards (Function.update u i (some (id, false))) (Function.update value id (value id + 1)) := by
  have taken (j : ι) (k : σ) : Function.update u i (some (id, false)) j = some (k, true) ↔ u j = some (k, true) ∧ k ≠ id := by
    by_cases same : j = i
    · subst same
      rw [Function.update_self, here]
      constructor
      · simp
      · rintro ⟨mine, apart⟩
        cases mine
        exact absurd rfl apart
    · rw [Function.update_of_ne same]
      refine (and_iff_left_of_imp fun mine => ?_).symm
      rintro rfl
      exact same (guards.unique j i k mine here)
  refine ⟨?_, ?_, ?_⟩
  · intro j k there
    obtain ⟨was, apart⟩ := (taken j k).mp there
    rw [Function.update_of_ne apart]
    exact guards.zero j k was
  · intro j k other there free
    by_cases apart : k = id
    · rw [apart, Function.update_self, guards.zero i id here]
    · have same : j ≠ i := by
        rintro rfl
        rw [Function.update_self] at there
        cases there
        exact apart rfl
      rw [Function.update_of_ne same] at there
      rw [Function.update_of_ne apart]
      exact guards.one j k other there fun l mine => free l ((taken l k).mpr ⟨mine, apart⟩)
  · intro j l k there also
    exact guards.unique j l k ((taken j k).mp there).1 ((taken l k).mp also).1

omit [DecidableEq σ] in
-- A semaphore that is taken when its user closes it stays down for the others.
theorem Guards.close_iff (i : ι) : Guards (Function.update u i none) value ↔
    ∀ id, u i = some (id, true) → ∀ j taken, u j = some (id, taken) → j = i := by
  constructor
  · intro after id here j taken there
    by_contra same
    have up := after.one j id taken (by rwa [Function.update_of_ne same]) fun l mine => by
      by_cases closed : l = i
      · subst closed
        simp at mine
      · rw [Function.update_of_ne closed] at mine
        exact closed (guards.unique l i id mine here)
    rw [guards.zero i id here] at up
    cases up
  · intro alone
    have taken (j : ι) (k : σ) (there : Function.update u i none j = some (k, true)) : u j = some (k, true) := by
      by_cases same : j = i
      · subst same
        simp at there
      · rwa [Function.update_of_ne same] at there
    refine ⟨?_, ?_, ?_⟩
    · intro j k there
      exact guards.zero j k (taken j k there)
    · intro j k other there free
      have same : j ≠ i := by
        rintro rfl
        simp at there
      rw [Function.update_of_ne same] at there
      refine guards.one j k other there fun l mine => ?_
      by_cases closed : l = i
      · subst closed
        exact same (alone k mine j other there)
      · exact free l (by rwa [Function.update_of_ne closed])
    · intro j l k there also
      exact guards.unique j l k (taken j k there) (taken l k also)

end Semaphores
