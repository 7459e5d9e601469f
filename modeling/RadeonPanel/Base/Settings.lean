import RadeonPanel.Base.KeyedValues
import Mathlib.Data.List.Infix

set_option autoImplicit false

namespace Settings

open Keyed KeyedValues

inductive Segment where
  | group (name : String)
  | index (n : Nat)
deriving DecidableEq, Repr

inductive Variant where
  | text (s : String)
  | number (n : Int)
deriving DecidableEq, Repr

abbrev Path := List Segment

-- The values of a settings file by their paths.
abbrev Store := List (Path × Variant)

def digits (cs : List Char) : Option Nat :=
  cs.foldlM (fun n c => if c.isDigit then some (10 * n + (c.toNat - '0'.toNat)) else none) 0

def signed (cs : List Char) : Option Int :=
  match cs with
  | '-' :: rest => if rest = [] then none else (digits rest).map fun n => -n
  | '+' :: rest => if rest = [] then none else (digits rest).map fun n => n
  | rest => if rest = [] then none else (digits rest).map fun n => n

def withoutBlanks (cs : List Char) : List Char :=
  ((cs.dropWhile Char.isWhitespace).reverse.dropWhile Char.isWhitespace).reverse

namespace Variant

-- A text that is no number, or none of 32 bits, counts as 0.
def toInt : Variant → Int
  | number n => n
  | text s =>
      match signed (withoutBlanks s.toList) with
      | some n => if -2147483648 ≤ n ∧ n ≤ 2147483647 then n else 0
      | none => 0

def toString : Variant → String
  | number n => s!"{n}"
  | text s => s

end Variant

def value (s : Store) (path : Path) (default : Variant) : Variant := (get s path).getD default

-- The first segments of the paths that go on below them.
def childGroups (s : Store) : List Segment :=
  (keys Prod.fst s).filterMap fun path => if 2 ≤ path.length then path.head? else none

-- An entry of an array is counted from one in its path.
def entryPath (path : Path) (i : Nat) : Path := path ++ [.index (i + 1), .group "name"]

def sizePath (path : Path) : Path := path ++ [.group "size"]

def writeEntries (s : Store) (path : Path) (i : Nat) : List String → Store
  | [] => s
  | name :: rest => writeEntries (assign s (entryPath path i) (.text name)) path (i + 1) rest

def writeArray (s : Store) (path : Path) (names : List String) : Store :=
  writeEntries (assign s (sizePath path) (.number names.length)) path 0 names

def readArray (s : Store) (path : Path) : List String :=
  (List.range (value s (sizePath path) (.number 0)).toInt.toNat).map fun i =>
    (value s (entryPath path i) (.text "")).toString

theorem entry_path_injective (path : Path) (i j : Nat) (same : entryPath path i = entryPath path j) : i = j := by
  simpa [entryPath] using same

theorem size_is_no_entry (path : Path) (i : Nat) : entryPath path i ≠ sizePath path := by
  simp [entryPath, sizePath]

theorem get_entries_elsewhere (s : Store) (path : Path) (names : List String) (i : Nat) (key : Path)
    (apart : ∀ j, i ≤ j → entryPath path j ≠ key) : get (writeEntries s path i names) key = get s key := by
  induction names generalizing s i with
  | nil => rfl
  | cons name rest ih =>
      rw [writeEntries, ih _ (i + 1) fun j later => apart j (by omega), get_assign, if_neg (apart i le_rfl)]

theorem get_entry (s : Store) (path : Path) (names : List String) (i j : Nat) (inside : j < names.length) :
    get (writeEntries s path i names) (entryPath path (i + j)) = some (.text names[j]) := by
  induction names generalizing s i j with
  | nil => cases inside
  | cons name rest ih =>
      cases j with
      | zero =>
          have kept := get_entries_elsewhere (assign s (entryPath path i) (.text name)) path rest (i + 1)
            (entryPath path i) fun j later same => by have := entry_path_injective path j i same; omega
          simpa [writeEntries, get_assign] using kept
      | succ j =>
          have shorter : j < rest.length := by simpa using inside
          have step := ih (assign s (entryPath path i) (.text name)) (i + 1) j shorter
          rwa [show i + 1 + j = i + (j + 1) by omega] at step

theorem get_size (s : Store) (path : Path) (names : List String) :
    get (writeArray s path names) (sizePath path) = some (.number names.length) := by
  rw [writeArray, get_entries_elsewhere _ _ _ _ _ fun j _ => size_is_no_entry path j, get_assign, if_pos rfl]

-- Entries of a longer array that was there before are not read.
theorem read_written (s : Store) (path : Path) (names : List String) : readArray (writeArray s path names) path = names := by
  have size : (value (writeArray s path names) (sizePath path) (.number 0)).toInt.toNat = names.length := by
    simp [value, get_size, Variant.toInt]
  apply List.ext_getElem
  · simp [readArray, size]
  · intro i _ inside
    have entry := get_entry (assign s (sizePath path) (.number names.length)) path names 0 i inside
    rw [Nat.zero_add] at entry
    simp [readArray, value, writeArray, entry, Variant.toString]

theorem get_elsewhere (s : Store) (path key : Path) (names : List String) (apart : ¬ path <+: key) :
    get (writeArray s path names) key = get s key := by
  have noEntry (j : Nat) : entryPath path j ≠ key := fun same => apart (same ▸ List.prefix_append _ _)
  have noSize : sizePath path ≠ key := fun same => apart (same ▸ List.prefix_append _ _)
  rw [writeArray, get_entries_elsewhere _ _ _ _ _ fun j _ => noEntry j, get_assign, if_neg noSize]

theorem same_length_apart (path other rest : Path) (length : path.length = other.length) (apart : path ≠ other) :
    ¬ path <+: other ++ rest := fun within => apart
  (List.IsPrefix.eq_of_length (List.prefix_of_prefix_length_le within (List.prefix_append _ _) length.le) length)

theorem read_elsewhere (s : Store) (path other : Path) (names : List String) (length : path.length = other.length)
    (apart : path ≠ other) : readArray (writeArray s path names) other = readArray s other := by
  have at_key (rest : Path) : get (writeArray s path names) (other ++ rest) = get s (other ++ rest) :=
    get_elsewhere s path (other ++ rest) names (same_length_apart path other rest length apart)
  simp only [readArray, value, sizePath, entryPath, at_key]

theorem read_assigned (s : Store) (path key : Path) (v : Variant) (apart : ¬ path <+: key) :
    readArray (assign s key v) path = readArray s path := by
  have at_key (rest : Path) : get (assign s key v) (path ++ rest) = get s (path ++ rest) := by
    have elsewhere : key ≠ path ++ rest := fun same => apart (same ▸ List.prefix_append _ _)
    rw [get_assign, if_neg elsewhere]
  simp only [readArray, value, sizePath, entryPath, at_key]

theorem child_group (s : Store) (g : Segment) :
    g ∈ childGroups s ↔ ∃ path ∈ keys Prod.fst s, 2 ≤ path.length ∧ path.head? = some g := by
  simp only [childGroups, List.mem_filterMap, Option.ite_none_right_eq_some]

theorem child_group_assigned (s : Store) (key : Path) (v : Variant) (g : Segment) :
    g ∈ childGroups (assign s key v) ↔ (2 ≤ key.length ∧ key.head? = some g) ∨ g ∈ childGroups s := by
  simp only [child_group, assign_keys]
  constructor
  · rintro ⟨path, rfl | member, long⟩
    · exact .inl long
    · exact .inr ⟨path, member, long⟩
  · rintro (long | ⟨path, member, long⟩)
    · exact ⟨key, .inl rfl, long⟩
    · exact ⟨path, .inr member, long⟩

theorem child_group_entries (s : Store) (path : Path) (names : List String) (i : Nat) (g h : Segment) (rest : Path)
    (shape : path = g :: rest) (known : g ∈ childGroups s) :
    h ∈ childGroups (writeEntries s path i names) ↔ h ∈ childGroups s := by
  induction names generalizing s i with
  | nil => rfl
  | cons name more ih =>
      rw [writeEntries, ih _ (i + 1) ((child_group_assigned _ _ _ _).mpr (.inr known)), child_group_assigned]
      subst shape
      constructor
      · rintro (⟨_, first⟩ | there)
        · simp only [entryPath, List.cons_append, List.head?_cons, Option.some.injEq] at first
          exact first ▸ known
        · exact there
      · exact .inr

theorem child_group_written (s : Store) (path : Path) (names : List String) (g h : Segment) (rest : Path)
    (shape : path = g :: rest) : h ∈ childGroups (writeArray s path names) ↔ h = g ∨ h ∈ childGroups s := by
  have size : 2 ≤ (sizePath path).length ∧ (sizePath path).head? = some g := by simp [sizePath, shape]
  rw [writeArray, child_group_entries _ path names 0 g h rest shape
    ((child_group_assigned _ _ _ _).mpr (.inl size)), child_group_assigned, size.2]
  simp [size.1, eq_comm]

end Settings
