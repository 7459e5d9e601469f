import Mathlib.Data.List.Basic

set_option autoImplicit false

namespace Argv

structure Syntax (α : Type) where
  quote : α
  backslash : α
  blank : α → Bool
  apart : backslash ≠ quote
  quoteFilled : blank quote = false
  backslashFilled : blank backslash = false

-- An argument that is being read. Backslashes are counted until it shows what they stand
-- for, and a quoted part that has just been closed may be opened again.
structure Word (α : Type) where
  text : List α
  quoted : Bool
  backslashes : Nat
  closed : Bool

variable {α : Type} [DecidableEq α] (s : Syntax α) (doubled : Bool)

def Word.start : Word α := ⟨[], false, 0, false⟩

def Word.whole (w : Word α) : List α := w.text ++ List.replicate w.backslashes s.backslash

-- `none` where the character ends the argument. Two quotes in a quoted part are a literal
-- one where they count as `doubled`.
def Word.read (w : Word α) (c : α) : Option (Word α) :=
  if c = s.backslash then some ⟨w.text, w.quoted, w.backslashes + 1, false⟩
  else if c = s.quote then
    let text := w.text ++ List.replicate (w.backslashes / 2) s.backslash
    if w.backslashes % 2 = 1 then some ⟨text ++ [s.quote], w.quoted, 0, false⟩
    else if doubled && w.closed then some ⟨text ++ [s.quote], true, 0, false⟩
    else some ⟨text, !w.quoted, 0, w.quoted⟩
  else if s.blank c && !w.quoted then none
  else some ⟨w.whole s ++ [c], w.quoted, 0, false⟩

-- The arguments of a command line, `none` between two of them.
def split : Option (Word α) → List α → List (List α)
  | none, [] => []
  | some w, [] => [w.whole s]
  | none, c :: rest => if s.blank c then split none rest else split (Word.start.read s doubled c) rest
  | some w, c :: rest =>
      match w.read s doubled c with
      | some next => split (some next) rest
      | none => w.whole s :: split none rest

section Rules
variable (text rest : List α) (quoted closed : Bool) (n : Nat)

theorem split_backslash : split s doubled (some ⟨text, quoted, n, closed⟩) (s.backslash :: rest) =
    split s doubled (some ⟨text, quoted, n + 1, false⟩) rest := by
  simp [split, Word.read]

theorem split_backslashes (count : Nat) :
    split s doubled (some ⟨text, quoted, n, false⟩) (List.replicate count s.backslash ++ rest) =
      split s doubled (some ⟨text, quoted, n + count, false⟩) rest := by
  induction count generalizing n with
  | zero => rfl
  | succ count ih => rw [List.replicate_succ, List.cons_append, split_backslash, ih, Nat.add_assoc, Nat.add_comm 1 count]

theorem split_escaped : split s doubled (some ⟨text, quoted, 2 * n + 1, false⟩) (s.quote :: rest) =
    split s doubled (some ⟨text ++ List.replicate n s.backslash ++ [s.quote], quoted, 0, false⟩) rest := by
  have half : (2 * n + 1) / 2 = n := by omega
  have odd : (2 * n + 1) % 2 = 1 := by omega
  simp [split, Word.read, s.apart.symm, half, odd]

theorem split_quote : split s doubled (some ⟨text, quoted, 2 * n, false⟩) (s.quote :: rest) =
    split s doubled (some ⟨text ++ List.replicate n s.backslash, !quoted, 0, quoted⟩) rest := by
  have half : 2 * n / 2 = n := by omega
  have even : 2 * n % 2 = 0 := by omega
  simp [split, Word.read, s.apart.symm, half, even]

-- A character that is neither a backslash nor a quote, and no blank outside a quoted part.
theorem split_character (c : α) (apart : c ≠ s.backslash ∧ c ≠ s.quote) (filled : quoted = true ∨ s.blank c = false) :
    split s doubled (some ⟨text, quoted, n, closed⟩) (c :: rest) =
      split s doubled (some ⟨text ++ List.replicate n s.backslash ++ [c], quoted, 0, false⟩) rest := by
  obtain rfl | plain := filled
  · simp [split, Word.read, apart, Word.whole]
  · simp [split, Word.read, apart, plain, Word.whole]

-- Where an argument can end.
def Boundary : Prop := ∀ c ∈ rest.head?, s.blank c = true

theorem split_ended (boundary : Boundary s rest) : split s doubled (some ⟨text, false, n, closed⟩) rest =
    (text ++ List.replicate n s.backslash) :: split s doubled none rest := by
  cases rest with
  | nil => rfl
  | cons c more =>
      have blank : s.blank c = true := boundary c rfl
      have apart : c ≠ s.backslash ∧ c ≠ s.quote := by
        refine ⟨?_, ?_⟩ <;> rintro rfl
        · exact absurd blank (by simp [s.backslashFilled])
        · exact absurd blank (by simp [s.quoteFilled])
      simp [split, Word.read, apart, blank, Word.whole]

theorem split_started (c : α) (filled : s.blank c = false) :
    split s doubled none (c :: rest) = split s doubled (some Word.start) (c :: rest) := by
  have goesOn : (Word.start.read s doubled c).isSome = true := by
    unfold Word.read
    split
    · rfl
    · split <;> simp [Word.start, filled]
  obtain ⟨next, read⟩ := Option.isSome_iff_exists.mp goesOn
  simp [split, filled, read]

end Rules

section Joined

-- Backslashes that no quote follows are only counted on the way.
theorem split_plain (arg : List α) (plain : ∀ c ∈ arg, c ≠ s.quote ∧ s.blank c = false) (text rest : List α) (closed : Bool) (n : Nat)
    (boundary : Boundary s rest) : split s doubled (some ⟨text, false, n, closed⟩) (arg ++ rest) =
      (text ++ List.replicate n s.backslash ++ arg) :: split s doubled none rest := by
  induction arg generalizing text n closed with
  | nil => rw [List.nil_append, split_ended s doubled text rest closed n boundary, List.append_nil]
  | cons c arg ih =>
      obtain ⟨⟨unquoted, filled⟩, later⟩ := List.forall_mem_cons.mp plain
      rw [List.cons_append]
      by_cases backslash : c = s.backslash
      · subst backslash
        rw [split_backslash, ih later]
        simp [List.replicate_succ']
      · rw [split_character s doubled text _ false closed n c ⟨backslash, unquoted⟩ (.inr filled), ih later]
        simp

-- The text stands for the argument wherever one can stand.
def Reads (text arg : List α) : Prop :=
  ∀ rest, Boundary s rest → split s doubled none (text ++ rest) = arg :: split s doubled none rest

theorem reads_plain (arg : List α) (some : arg ≠ []) (plain : ∀ c ∈ arg, c ≠ s.quote ∧ s.blank c = false) : Reads s doubled arg arg := by
  intro rest boundary
  obtain ⟨c, more, rfl⟩ := List.exists_cons_of_ne_nil some
  rw [List.cons_append, split_started s doubled _ c (plain c List.mem_cons_self).2]
  exact split_plain s doubled (c :: more) plain [] rest false 0 boundary

theorem split_joined (space : α) (blank : s.blank space = true) {texts args : List (List α)}
    (reads : List.Forall₂ (Reads s doubled) texts args) : split s doubled none ([space].intercalate texts) = args := by
  induction reads with
  | nil => rfl
  | @cons text arg texts args first others ih =>
      cases texts with
      | nil =>
          cases others
          have alone := first [] (by simp [Boundary])
          simpa [List.intercalate, split] using alone
      | cons next more =>
          have joined : [space].intercalate (text :: next :: more) = text ++ space :: [space].intercalate (next :: more) := by
            simp [List.intercalate]
          have boundary : Boundary s (space :: [space].intercalate (next :: more)) := by simpa [Boundary] using blank
          rw [joined, first _ boundary]
          simp only [split, blank, if_true, ih]

end Joined

end Argv
