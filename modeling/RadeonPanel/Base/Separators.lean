import Mathlib.Data.List.DropRight

set_option autoImplicit false

namespace Separated

variable {α : Type} [DecidableEq α] (separator : α) (base rest : List α)

-- What stands behind the first separator, and before the last one.
def afterFirst (text : List α) : List α := (text.dropWhile fun c => decide (c ≠ separator)).tail

def upToLast (text : List α) : List α :=
  if separator ∈ text then (text.rdropWhile fun c => decide (c ≠ separator)).dropLast else text

theorem up_to_last_append (plain : separator ∉ rest) : upToLast separator (base ++ separator :: rest) = base := by
  have reaches : (base ++ separator :: rest).rdropWhile (fun c => decide (c ≠ separator)) = base ++ [separator] := by
    have skipped : rest.rdropWhile (fun c => decide (c ≠ separator)) = [] := by
      rw [List.rdropWhile_eq_nil_iff]
      intro c member
      exact decide_eq_true fun same => plain (same ▸ member)
    induction rest using List.reverseRecOn with
    | nil => simp
    | append_singleton rest last ih =>
        have different : last ≠ separator := by
          rintro rfl
          exact plain (by simp)
        rw [← List.cons_append, ← List.append_assoc, List.rdropWhile_concat, if_pos (by simpa using different)]
        refine ih (fun member => plain (by simp [member])) ?_
        rw [List.rdropWhile_concat, if_pos (by simpa using different)] at skipped
        exact skipped
  rw [upToLast, if_pos (by simp), reaches, List.dropLast_concat]

theorem up_to_last_split (text : List α) (inside : separator ∈ text) :
    ∃ rest, separator ∉ rest ∧ text = upToLast separator text ++ separator :: rest := by
  obtain ⟨rest, base, reversed, plain⟩ := List.eq_append_cons_of_mem (List.mem_reverse.mpr inside)
  have split : text = base.reverse ++ separator :: rest.reverse := by
    rw [← List.reverse_reverse text, reversed]
    simp
  have behind : separator ∉ rest.reverse := mt List.mem_reverse.mp plain
  refine ⟨rest.reverse, behind, ?_⟩
  conv_rhs => rw [split, up_to_last_append separator base.reverse rest.reverse behind]
  exact split

theorem after_first_append (plain : separator ∉ base) : afterFirst separator (base ++ separator :: rest) = rest := by
  induction base with
  | nil => simp [afterFirst]
  | cons head tail ih =>
      have different : head ≠ separator := by
        rintro rfl
        exact plain (by simp)
      have later := ih fun member => plain (by simp [member])
      simpa [afterFirst, different] using later

theorem after_first_longer (inside : separator ∈ base) :
    rest.length < (afterFirst separator (base ++ separator :: rest)).length := by
  induction base with
  | nil => cases inside
  | cons head tail ih =>
      by_cases same : head = separator
      · subst same
        simp [afterFirst]
        omega
      · have later := ih (by simpa [Ne.symm same] using inside)
        simpa [afterFirst, same] using later

theorem after_first_append_iff : afterFirst separator (base ++ separator :: rest) = rest ↔ separator ∉ base := by
  constructor
  · intro found inside
    have longer := after_first_longer separator base rest inside
    rw [found] at longer
    exact Nat.lt_irrefl _ longer
  · exact after_first_append separator base rest

-- The last separator splits a text in one way only.
theorem joined_injective (other others : List α) (plain : separator ∉ rest) (plains : separator ∉ others)
    (same : base ++ separator :: rest = other ++ separator :: others) : base = other ∧ rest = others := by
  have bases : base = other := by
    rw [← up_to_last_append separator base rest plain, same, up_to_last_append separator other others plains]
  rw [bases] at same
  exact ⟨bases, List.cons_inj_right separator |>.mp (List.append_cancel_left same)⟩

-- What stands before the first separator.
def upToFirst (text : List α) : List α := text.takeWhile fun c => decide (c ≠ separator)

theorem up_to_first_append : upToFirst separator (base ++ separator :: rest) = upToFirst separator base := by
  induction base with
  | nil => simp [upToFirst]
  | cons head tail ih =>
      by_cases same : head = separator
      · simp [upToFirst, same]
      · simpa [upToFirst, same] using ih

section Lines
variable (line : List α)

-- What getline reads up to each separator. Behind the last one it reads nothing if nothing is there.
def lines : List α → List (List α)
  | [] => []
  | c :: rest => if c = separator then [] :: lines rest else
      match lines rest with
      | [] => [[c]]
      | first :: later => (c :: first) :: later

theorem lines_plain (plain : separator ∉ line) : lines separator line = if line = [] then [] else [line] := by
  induction line with
  | nil => rfl
  | cons c line ih =>
      obtain ⟨here, later⟩ := not_or.mp (mt List.mem_cons.mpr plain)
      rw [lines, if_neg (Ne.symm here), ih later]
      cases line <;> rfl

theorem lines_delimited (plain : separator ∉ line) : lines separator (line ++ separator :: rest) = line :: lines separator rest := by
  induction line with
  | nil => rw [List.nil_append, lines, if_pos rfl]
  | cons c line ih =>
      obtain ⟨here, later⟩ := not_or.mp (mt List.mem_cons.mpr plain)
      rw [List.cons_append, lines, if_neg (Ne.symm here), ih later]

-- The pieces of a text are its lines, and an empty piece behind a separator at the end.
theorem lines_split (text : List α) (some : text ≠ []) :
    lines separator text ++ (if text.getLast? = .some separator then [[]] else []) = text.splitOn separator := by
  induction text with
  | nil => exact absurd rfl some
  | cons c text ih =>
      rw [List.splitOn_cons_eq_if_modifyHead, lines]
      cases text with
      | nil => by_cases same : c = separator <;> simp [same, lines, List.splitOn_nil]
      | cons d text =>
          have later := ih (by simp)
          rw [List.getLast?_cons_cons, ← later]
          by_cases same : c = separator
          · simp [same]
          · simp only [same, if_false, beq_iff_eq]
            cases read : lines separator (d :: text) with
            | nil =>
                have nothing : lines separator (d :: text) ≠ [] := by
                  rw [lines]
                  split
                  · simp
                  · split <;> simp
                exact absurd read nothing
            | cons first others => rfl

end Lines

end Separated
