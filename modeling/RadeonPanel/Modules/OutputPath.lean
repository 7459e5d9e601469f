import Mathlib.Data.List.DropRight
import RadeonPanel.Base.Substrings

set_option autoImplicit false

namespace RadeonPanel.Modules.Util

open Substrings

-- A QString as its code units.
abbrev QString := List UInt16

def units (text : String) : QString := text.toList.map fun c => UInt16.ofNat c.toNat

def slash : UInt16 := 47
def backslash : UInt16 := 92
def colon : UInt16 := 58
def dot : UInt16 := 46

inductive Platform where
  | windows
  | linux
deriving DecidableEq, Repr

namespace Platform

def separator : Platform → UInt16 → Bool
  | .windows, c => c = slash ∨ c = backslash
  | .linux, c => c = slash

def toNativeSeparators : Platform → QString → QString
  | .windows, text => text.map fun c => if c = slash then backslash else c
  | .linux, text => text

-- A file without a directory may still name a drive.
def fileName (platform : Platform) (path : QString) : QString :=
  if platform = .windows ∧ ¬ path.any platform.separator ∧ path[1]? = some colon then path.drop 2
  else path.rtakeWhile fun c => !platform.separator c

def baseName (platform : Platform) (path : QString) : QString := (platform.fileName path).takeWhile fun c => c ≠ dot

end Platform

def kAppNameMacro : QString := units "$(APP_NAME)"
def kApplicationNameMacro : QString := units "$(APPLICATION_NAME)"

def macros : List QString := [kAppNameMacro, kApplicationNameMacro]

def removeDirMacros (path : QString) : QString :=
  match find kAppNameMacro path with
  | some index => path.take (if 0 < index then index - 1 else index)
  | none =>
      match find kApplicationNameMacro path with
      | some index => path.take (if 0 < index then index - 1 else index)
      | none => path

def expandOutputPathMacros (platform : Platform) (path applicationName : QString) : QString :=
  if applicationName = [] then path
  else if path = [] then []
  else
    let applicationBaseName := platform.baseName applicationName
    platform.toNativeSeparators
      (replace kApplicationNameMacro applicationBaseName (replace kAppNameMacro applicationBaseName path))

def MacroFree (text : QString) : Prop := ∀ name ∈ macros, ¬ name <:+: text

-- What stands before a component of the path, without the separator between them.
def Complete (platform : Platform) (path front : QString) : Prop :=
  front = [] ∨ front = path ∨ ∃ c rest, platform.separator c = true ∧ path = front ++ c :: rest

structure Parent (platform : Platform) (path front : QString) : Prop where
  complete : Complete platform path front
  free : MacroFree front
  longest : ∀ other, Complete platform path other → MacroFree other → other <+: front

structure MacrosRemoved (platform : Platform) (path : QString) : Prop where
  free : MacroFree (removeDirMacros path)
  whole : MacroFree path → removeDirMacros path = path
  parent : Parent platform path (removeDirMacros path)
  expanded : ∀ applicationName, applicationName ≠ [] →
    platform.toNativeSeparators (removeDirMacros path) <+: expandOutputPathMacros platform path applicationName

-- The place of the macro at which the path is cut.
def lookedFor (path : QString) : Option Nat := (find kAppNameMacro path).or (find kApplicationNameMacro path)

-- No macro stands before the one that is looked for, and the character that is dropped with it
-- is a separator, or the first of the path.
def CutAtComponent (platform : Platform) (path : QString) : Prop :=
  ∀ i, lookedFor path = some i → (∀ name ∈ macros, ∀ j < i, ¬ name <+: path.drop j) ∧
    (i ≤ 1 ∨ ∃ c, path[i - 1]? = some c ∧ platform.separator c = true)

section Macros
variable {platform : Platform} {c : UInt16} {name path : QString} {i j : Nat}

theorem app_name_listed : kAppNameMacro ∈ macros := List.mem_cons_self

theorem application_name_listed : kApplicationNameMacro ∈ macros := List.mem_cons_of_mem _ List.mem_cons_self

theorem macro_cases (listed : name ∈ macros) : name = kAppNameMacro ∨ name = kApplicationNameMacro := by
  simpa only [macros, List.mem_cons, List.not_mem_nil, or_false] using listed

theorem separator_apart (separates : platform.separator c = true) (listed : name ∈ macros) : c ∉ name := by
  have either : c = slash ∨ c = backslash := by
    cases platform with
    | windows => exact of_decide_eq_true separates
    | linux => exact .inl (of_decide_eq_true separates)
  rcases either with rfl | rfl <;> rcases macro_cases listed with rfl | rfl <;> decide

theorem macro_some (listed : name ∈ macros) : name ≠ [] := by
  rcases macro_cases listed with rfl | rfl <;> decide

theorem looked_for_none (absent : lookedFor path = none) : MacroFree path ∧ removeDirMacros path = path := by
  obtain ⟨first, second⟩ := Option.or_eq_none_iff.mp absent
  constructor
  · intro name listed
    rcases macro_cases listed with rfl | rfl
    · exact find_none_iff.mp first
    · exact find_none_iff.mp second
  · simp only [removeDirMacros, first, second]

theorem index_before (index : Nat) : (if 0 < index then index - 1 else index) = index - 1 := by
  split <;> omega

theorem looked_for_some (read : lookedFor path = some i) :
    removeDirMacros path = path.take (i - 1) ∧ ∃ name ∈ macros, find name path = some i := by
  cases first : find kAppNameMacro path with
  | some index =>
      rw [lookedFor, first] at read
      cases read
      constructor
      · simp only [removeDirMacros, first, index_before]
      · exact ⟨kAppNameMacro, app_name_listed, first⟩
  | none =>
      rw [lookedFor, first, Option.none_or] at read
      constructor
      · simp only [removeDirMacros, first, read, index_before]
      · exact ⟨kApplicationNameMacro, application_name_listed, read⟩

end Macros

section Kept
variable {platform : Platform} {path front : QString}

theorem complete_starts (complete : Complete platform path front) : front <+: path := by
  rcases complete with rfl | rfl | ⟨c, rest, _, rfl⟩
  · exact List.nil_prefix
  · exact List.prefix_refl front
  · exact List.prefix_append front (c :: rest)

theorem native_append (platform : Platform) (front rest : QString) :
    platform.toNativeSeparators front <+: platform.toNativeSeparators (front ++ rest) := by
  cases platform with
  | windows => exact (List.prefix_append front rest).map _
  | linux => exact List.prefix_append front rest

-- Whatever replaces a macro does so behind the last component that has none.
theorem complete_expanded (complete : Complete platform path front) (free : MacroFree front) (applicationName : QString)
    (named : applicationName ≠ []) :
    platform.toNativeSeparators front <+: expandOutputPathMacros platform path applicationName := by
  have first := free kAppNameMacro app_name_listed
  have second := free kApplicationNameMacro application_name_listed
  rw [expandOutputPathMacros, if_neg named]
  dsimp only
  rcases complete with rfl | rfl | ⟨c, rest, separates, rfl⟩
  · cases platform <;> exact List.nil_prefix
  · by_cases empty : front = []
    · subst empty
      cases platform <;> exact List.nil_prefix
    · rw [if_neg empty, replace_absent _ front first, replace_absent _ front second]
  · rw [if_neg (by simp), replace_front _ (separator_apart separates app_name_listed) front rest first,
      replace_front _ (separator_apart separates application_name_listed) front _ second]
    exact native_append platform front _

-- A complete prefix that reaches behind a macro contains it.
theorem complete_before {name : QString} {i : Nat} (listed : name ∈ macros) (stands : name <+: path.drop i)
    (complete : Complete platform path front) (free : MacroFree front) : front.length < i ∨ front = [] := by
  rcases complete with rfl | rfl | ⟨c, rest, separates, rfl⟩
  · exact .inr rfl
  · exact absurd (infix_iff_drop.mpr ⟨i, stands⟩) (free name listed)
  · refine .inl (Nat.lt_of_not_le fun behind => free name listed (infix_iff_drop.mpr ⟨i, ?_⟩))
    rw [List.drop_append_of_le_length behind] at stands
    exact prefix_apart (separator_apart separates listed) _ rest stands

theorem stands_at {name : QString} {j k : Nat} (stands : name <+: path.drop j) (inside : k < name.length) :
    path[j + k]? = name[k]? := by
  obtain ⟨rest, divided⟩ := stands
  rw [← List.getElem?_drop, ← divided, List.getElem?_append_left inside]

-- Where one macro stands, no macro can stand one character later.
theorem never_beside {name another : QString} (listed : name ∈ macros) (listing : another ∈ macros) {j : Nat}
    (stands : another <+: path.drop j) : ¬ name <+: path.drop (j + 1) := by
  intro beside
  have dollar : name[0]? = some 36 ∧ 0 < name.length := by
    rcases macro_cases listed with rfl | rfl <;> decide
  have bracket : another[1]? = some 40 ∧ 1 < another.length := by
    rcases macro_cases listing with rfl | rfl <;> decide
  have here := stands_at stands bracket.2
  have there := stands_at beside dollar.2
  rw [Nat.add_zero, here, bracket.1, dollar.1] at there
  exact absurd there (by decide)

theorem found_within {name : QString} {i : Nat} (listed : name ∈ macros) (stands : name <+: path.drop i) : i < path.length := by
  have long := List.length_pos_iff.mpr (macro_some listed)
  have bound := stands.length_le
  rw [List.length_drop] at bound
  omega

theorem cut_parent (cut : CutAtComponent platform path) : Parent platform path (removeDirMacros path) := by
  cases read : lookedFor path with
  | none =>
      obtain ⟨free, whole⟩ := looked_for_none read
      rw [whole]
      exact ⟨.inr (.inl rfl), free, fun other complete _ => complete_starts complete⟩
  | some i =>
      obtain ⟨first, placed⟩ := cut i read
      obtain ⟨result, name, listed, found⟩ := looked_for_some read
      have stands := find_stands found
      have within := found_within listed stands
      have complete : Complete platform path (path.take (i - 1)) := by
        rcases placed with early | ⟨c, dropped, separates⟩
        · exact .inl (by rw [Nat.sub_eq_zero_of_le early, List.take_zero])
        · obtain ⟨inside, same⟩ := List.getElem?_eq_some_iff.mp dropped
          refine .inr (.inr ⟨c, path.drop (i - 1 + 1), separates, ?_⟩)
          rw [← same, List.getElem_cons_drop, List.take_append_drop]
      rw [result]
      constructor
      · exact complete
      · intro another listed inside
        obtain ⟨j, here⟩ := infix_iff_drop.mp inside
        rw [List.drop_take, List.prefix_take_iff] at here
        have long := List.length_pos_iff.mpr (macro_some listed)
        exact first another listed j (by omega) here.1
      · intro other others free
        rcases complete_before listed stands others free with before | rfl
        · rw [List.prefix_take_iff]
          exact ⟨complete_starts others, by omega⟩
        · exact List.nil_prefix

theorem parent_cut (parent : Parent platform path (removeDirMacros path)) : CutAtComponent platform path := by
  intro i read
  obtain ⟨result, name, listed, found⟩ := looked_for_some read
  have within := found_within listed (find_stands found)
  have placed : i ≤ 1 ∨ ∃ c, path[i - 1]? = some c ∧ platform.separator c = true := by
    have length : (removeDirMacros path).length = i - 1 := by
      rw [result, List.length_take]
      omega
    rcases parent.complete with empty | whole | ⟨c, rest, separates, divided⟩
    · rw [empty] at length
      exact .inl (Nat.le_of_sub_eq_zero length.symm)
    · rw [whole] at length
      omega
    · refine .inr ⟨c, ?_, separates⟩
      rw [divided, List.getElem?_append_right (by omega), length, Nat.sub_self, List.getElem?_cons_zero]
  refine ⟨?_, placed⟩
  intro another listing j before stands
  have apart : ¬ j + another.length ≤ i - 1 := fun ends =>
    parent.free another listing (result ▸ infix_take stands ends)
  rcases placed with early | ⟨c, dropped, separates⟩
  · obtain rfl : j = 0 := by omega
    obtain rfl : i = 1 := by omega
    exact never_beside listed listing stands (find_stands found)
  · have inside : i - 1 - j < another.length := by omega
    have same := stands_at stands inside
    rw [Nat.add_sub_cancel' (Nat.le_sub_one_of_lt before), dropped] at same
    exact separator_apart separates listing (List.mem_of_getElem? same.symm)

theorem macros_removed_iff (platform : Platform) (path : QString) :
    MacrosRemoved platform path ↔ CutAtComponent platform path := by
  constructor
  · intro kept
    exact parent_cut kept.parent
  · intro cut
    have parent := cut_parent cut
    constructor
    · exact parent.free
    · intro free
      exact List.IsPrefix.eq_of_length (complete_starts parent.complete)
        (Nat.le_antisymm (complete_starts parent.complete).length_le
          (parent.longest path (.inr (.inl rfl)) free).length_le)
    · exact parent
    · exact complete_expanded parent.complete parent.free

theorem macros_not_removed : ¬ MacrosRemoved .windows (units "out/$(APPLICATION_NAME)/$(APP_NAME)") := by
  intro kept
  have left : kApplicationNameMacro <:+: removeDirMacros (units "out/$(APPLICATION_NAME)/$(APP_NAME)") := by decide
  exact kept.free kApplicationNameMacro application_name_listed left

end Kept

end RadeonPanel.Modules.Util
