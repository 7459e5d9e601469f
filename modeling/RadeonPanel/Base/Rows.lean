import Mathlib.Data.List.Basic

set_option autoImplicit false

namespace Rows

-- What a list says before it changes: the first and the last row that come or go.
inductive Announcement where
  | inserted (first last : Int)
  | removed (first last : Int)
deriving DecidableEq, Repr

def Announcement.replay (rows : Int) : Announcement → Int
  | .inserted first last => rows + (last - first + 1)
  | .removed first last => rows - (last - first + 1)

def replay (rows : Int) (announced : List Announcement) : Int := announced.foldl Announcement.replay rows

section Changes
variable {α : Type}

inductive Change (α : Type) where
  | insert (row : Nat) (entries : List α)
  | remove (row count : Nat)

namespace Change

def fits (rows : Nat) : Change α → Prop
  | .insert row _ => row ≤ rows
  | .remove row count => row + count ≤ rows

def apply (xs : List α) : Change α → List α
  | .insert row entries => xs.take row ++ entries ++ xs.drop row
  | .remove row count => xs.take row ++ xs.drop (row + count)

def announcement : Change α → Announcement
  | .insert row entries => .inserted row (row + entries.length - 1)
  | .remove row count => .removed row (row + count - 1)

end Change

structure Outcome (α : Type) where
  announced : List Announcement
  content : List α
deriving DecidableEq, Repr

-- The change is made and announced as it was asked for, or it is refused.
structure Exact (xs : List α) (change : Change α) (made : Outcome α) : Prop where
  asked : (made.announced = [change.announcement] ∧ made.content = change.apply xs) ∨ (made.announced = [] ∧ made.content = xs)
  rows : replay xs.length made.announced = made.content.length

theorem replay_change {xs : List α} {change : Change α} (fits : change.fits xs.length) :
    replay xs.length [change.announcement] = (change.apply xs).length := by
  cases change with
  | insert row entries =>
      have bound : row ≤ xs.length := fits
      simp only [replay, List.foldl_cons, List.foldl_nil, Change.announcement, Announcement.replay, Change.apply, List.length_append,
        List.length_take, List.length_drop]
      omega
  | remove row count =>
      have bound : row + count ≤ xs.length := fits
      simp only [replay, List.foldl_cons, List.foldl_nil, Change.announcement, Announcement.replay, Change.apply, List.length_append,
        List.length_take, List.length_drop]
      omega

theorem exact_changed {xs : List α} {change : Change α} (fits : change.fits xs.length) :
    Exact xs change ⟨[change.announcement], change.apply xs⟩ := ⟨.inl ⟨rfl, rfl⟩, replay_change fits⟩

theorem exact_refused (xs : List α) (change : Change α) : Exact xs change ⟨[], xs⟩ := ⟨.inr ⟨rfl, rfl⟩, rfl⟩

end Changes

end Rows
