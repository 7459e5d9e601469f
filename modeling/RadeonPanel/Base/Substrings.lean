import Mathlib.Data.List.Infix

set_option autoImplicit false

namespace Substrings

variable {α : Type}

section Places
variable {needle text : List α} {j k : Nat}

theorem infix_iff_drop : needle <:+: text ↔ ∃ j, needle <+: text.drop j := by
  constructor
  · intro inside
    obtain ⟨tail, here, ends⟩ := List.infix_iff_prefix_suffix.mp inside
    refine ⟨text.length - tail.length, ?_⟩
    rwa [← List.suffix_iff_eq_drop.mp ends]
  · intro inside
    obtain ⟨j, here⟩ := inside
    exact List.infix_iff_prefix_suffix.mpr ⟨_, here, List.drop_suffix j text⟩

theorem infix_take (stands : needle <+: text.drop j) (within : j + needle.length ≤ k) : needle <:+: text.take k := by
  apply infix_iff_drop.mpr
  refine ⟨j, ?_⟩
  rw [List.drop_take, List.prefix_take_iff]
  exact ⟨stands, by omega⟩

-- No occurrence reaches over a character that it does not have.
theorem prefix_apart {c : α} (apart : c ∉ needle) (front rest : List α) (stands : needle <+: front ++ c :: rest) :
    needle <+: front := by
  by_cases short : needle.length ≤ front.length
  · exact List.prefix_of_prefix_length_le stands (List.prefix_append front _) short
  · have reaches : front ++ [c] <+: needle := by
      apply List.prefix_of_prefix_length_le _ stands
      · simp only [List.length_append, List.length_singleton]
        omega
      · exact ⟨rest, by simp⟩
    exact absurd (reaches.subset (by simp)) apart

end Places

variable [DecidableEq α] (needle replacement : List α)

-- Where the needle first stands.
def find : List α → Option Nat
  | [] => if needle = [] then some 0 else none
  | c :: text => if needle <+: c :: text then some 0 else (find text).map (· + 1)

-- The number of characters that are left of an occurrence that was replaced.
def replaceBehind : Nat → List α → List α
  | _, [] => []
  | skipped + 1, _ :: text => replaceBehind skipped text
  | 0, c :: text =>
      if needle <+: c :: text then replacement ++ replaceBehind (needle.length - 1) text else c :: replaceBehind 0 text

def replace (text : List α) : List α := replaceBehind needle replacement 0 text

section Finding
variable {needle} {text : List α} {i : Nat}

theorem find_none_iff : find needle text = none ↔ ¬ needle <:+: text := by
  induction text with
  | nil => by_cases empty : needle = [] <;> simp [find, empty]
  | cons c text ih =>
      by_cases here : needle <+: c :: text
      · simp [find, here, here.isInfix]
      · rw [find, if_neg here, Option.map_eq_none_iff, ih, List.infix_cons_iff, or_iff_right here]

theorem find_stands (found : find needle text = some i) : needle <+: text.drop i := by
  induction text generalizing i with
  | nil =>
      by_cases empty : needle = []
      · exact empty ▸ List.nil_prefix
      · rw [find, if_neg empty] at found
        cases found
  | cons c text ih =>
      by_cases here : needle <+: c :: text
      · rw [find, if_pos here] at found
        cases found
        exact here
      · rw [find, if_neg here] at found
        obtain ⟨later, read, rfl⟩ := Option.map_eq_some_iff.mp found
        exact ih read

end Finding

section Replacing
variable {needle}

theorem replace_absent (text : List α) (absent : ¬ needle <:+: text) : replace needle replacement text = text := by
  rw [replace]
  induction text with
  | nil => rfl
  | cons head text ih =>
      obtain ⟨here, later⟩ := not_or.mp (mt List.infix_cons_iff.mpr absent)
      rw [replaceBehind, if_neg here, ih later]

theorem replace_front {c : α} (apart : c ∉ needle) (front rest : List α) (absent : ¬ needle <:+: front) :
    replace needle replacement (front ++ c :: rest) = front ++ c :: replace needle replacement rest := by
  simp only [replace]
  induction front with
  | nil =>
      have elsewhere : ¬ needle <+: c :: rest := fun stands => absent (prefix_apart apart [] rest stands).isInfix
      rw [List.nil_append, replaceBehind, if_neg elsewhere, List.nil_append]
  | cons head front ih =>
      obtain ⟨here, later⟩ := not_or.mp (mt List.infix_cons_iff.mpr absent)
      have elsewhere : ¬ needle <+: head :: (front ++ c :: rest) := fun stands =>
        here (prefix_apart apart (head :: front) rest stands)
      rw [List.cons_append, replaceBehind, if_neg elsewhere, ih later, List.cons_append]

end Replacing

end Substrings
