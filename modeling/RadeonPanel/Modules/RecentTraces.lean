import Mathlib.Logic.Function.Basic
import RadeonPanel.Base.Separators

set_option autoImplicit false

namespace RadeonPanel.Modules.RecentTraces

open Separated

abbrev Text := List Char

-- How characters compare where case is ignored. Only a dot compares as a dot.
structure CaseFolding where
  fold : Char → Char
  dot : ∀ c, fold c = '.' ↔ c = '.'

def CaseFolding.key (folding : CaseFolding) (text : Text) : Text := text.map folding.fold

theorem CaseFolding.key_first (folding : CaseFolding) (text : Text) :
    folding.key (upToFirst '.' text) = upToFirst '.' (folding.key text) := by
  have dots : ((fun c => decide (c ≠ '.')) ∘ folding.fold) = fun c => decide (c ≠ '.') := by
    funext c
    exact decide_eq_decide.mpr (not_congr (folding.dot c))
  rw [key, key, upToFirst, upToFirst, List.takeWhile_map, dots]

-- As the modules pass it, without the dot before it.
structure TraceExtension where
  text : Text
  some : text ≠ []
  plain : '.' ∉ text

namespace TraceExtension

def suffix (extension : TraceExtension) : Text := '.' :: extension.text

-- The entered name with the extension, unless it ends with it.
def completed (extension : TraceExtension) (name : Text) : Text :=
  if extension.suffix <:+ name then name else name ++ extension.suffix

theorem completed_first (extension : TraceExtension) (name : Text) :
    upToFirst '.' (extension.completed name) = upToFirst '.' name := by
  rw [completed]
  split
  · rfl
  · exact up_to_first_append '.' name extension.text

end TraceExtension

-- A std::filesystem::path of one component. A dot at its start begins no extension.
namespace Filename

def stem (filename : Text) : Text :=
  if filename ≠ ['.', '.'] ∧ '.' ∈ filename.tail then upToLast '.' filename else filename

def extension (filename : Text) : Text := filename.drop (stem filename).length

def replaceExtension (filename replacement : Text) : Text := stem filename ++ '.' :: replacement

theorem stem_dotted (filename : Text) : stem filename = filename ∨ ∃ rest, filename = stem filename ++ '.' :: rest := by
  rw [stem]
  split
  · next dotted =>
    obtain ⟨rest, _, divided⟩ := up_to_last_split '.' filename (List.mem_of_mem_tail dotted.2)
    exact .inr ⟨rest, divided⟩
  · exact .inl rfl

theorem stem_extension (filename : Text) : stem filename ++ extension filename = filename := by
  have starts : stem filename <+: filename := by
    rcases stem_dotted filename with whole | ⟨rest, divided⟩
    · exact ⟨[], by rw [List.append_nil, whole]⟩
    · exact ⟨'.' :: rest, divided.symm⟩
  exact List.prefix_iff_eq_append.mp starts

theorem extension_nil_iff (filename : Text) : extension filename = [] ↔ stem filename = filename := by
  have whole := stem_extension filename
  constructor
  · intro nothing
    rwa [nothing, List.append_nil] at whole
  · intro same
    rw [extension, same, List.drop_length]

theorem extension_dotted (filename : Text) : extension filename = [] ∨ '.' ∈ extension filename := by
  rcases stem_dotted filename with whole | ⟨rest, divided⟩
  · exact .inl ((extension_nil_iff filename).mpr whole)
  · have same := List.append_cancel_left ((stem_extension filename).trans divided)
    rw [same]
    exact .inr List.mem_cons_self

theorem stem_first (filename : Text) : upToFirst '.' (stem filename) = upToFirst '.' filename := by
  rcases stem_dotted filename with whole | ⟨rest, divided⟩
  · rw [whole]
  · conv_rhs => rw [divided, up_to_first_append]

theorem stem_suffixed (base : Text) (suffixed : TraceExtension) (some : base ≠ []) : stem (base ++ suffixed.suffix) = base := by
  have dots : base ++ suffixed.suffix ≠ ['.', '.'] := by
    intro same
    have length := congrArg List.length same
    have first := List.length_pos_iff.mpr some
    have second := List.length_pos_iff.mpr suffixed.some
    simp only [TraceExtension.suffix, List.length_append, List.length_cons, List.length_nil] at length
    omega
  have inside : '.' ∈ (base ++ suffixed.suffix).tail := by
    rw [List.tail_append_of_ne_nil some]
    exact List.mem_append_right _ List.mem_cons_self
  rw [stem, if_pos ⟨dots, inside⟩, TraceExtension.suffix, up_to_last_append '.' base suffixed.text suffixed.plain]

theorem stem_suffix (suffixed : TraceExtension) : stem suffixed.suffix = suffixed.suffix := by
  rw [stem, if_neg fun dotted => suffixed.plain dotted.2]

end Filename

def invalidChars : Text := "<>:\"/\\|?*".toList

inductive Column where
  | name
  | size
  | date
deriving DecidableEq, Repr

-- The listed names, and what stands at each name in the root directory.
structure State (γ : Type) (count : Nat) where
  names : Fin count → Text
  disk : Text → Option γ

structure Outcome (γ : Type) (count : Nat) where
  success : Bool
  emitted : Option String
  state : State γ count

variable {γ : Type} {count : Nat}

def renamed (disk : Text → Option γ) (source target : Text) : Text → Option γ := fun path =>
  if path = target then disk source else if path = source then none else disk path

namespace State

variable (state : State γ count) (folding : CaseFolding) (extension : TraceExtension) (row : Fin count) (value : Text)

def rename (target : Text) : State γ count where
  names := Function.update state.names row target
  disk := renamed state.disk (state.names row) target

-- Another listed file with the same name up to the first dot.
def Collision : Prop :=
  ∃ idx, idx ≠ row ∧ folding.key (upToFirst '.' (state.names idx)) = folding.key (upToFirst '.' value)

instance : Decidable (state.Collision folding row value) := inferInstanceAs (Decidable (∃ _, _))

def filename : Text :=
  if Filename.extension value = [] ∨ Filename.extension value ≠ extension.text then
    Filename.replaceExtension value extension.text
  else value

-- A name that is not of one component has a forbidden character, and its path is not used.
-- QFile refuses to rename where the target exists, the source does not, or the system refuses it.
def setData (column : Column) (refused : Bool) : Outcome γ count :=
  if value = [] then ⟨false, none, state⟩
  else if column = .name then
    if state.Collision folding row value then ⟨false, some "Name collision. File names must be unique", state⟩
    else
      match value.find? fun c => c ∈ invalidChars with
      | some c => ⟨false, some ("Forbidden symbol(s) " ++ String.ofList [c] ++ " found in file name"), state⟩
      | none => if refused then ⟨false, none, state⟩ else ⟨true, none, state.rename row (filename extension value)⟩
  else ⟨false, none, state⟩

def Unique : Prop := ∀ i j, folding.key (state.names i) = folding.key (state.names j) → i = j

def Forbidden : Prop := ∃ c ∈ value, c ∈ invalidChars

-- Another listed file has the name that was asked for.
def Taken : Prop := ∃ idx, idx ≠ row ∧ folding.key (state.names idx) = folding.key (extension.completed value)

-- No extension that begins with its dot is the one that is stored without.
theorem filename_replaced : filename extension value = Filename.replaceExtension value extension.text := by
  refine if_pos ?_
  rcases Filename.extension_dotted value with nothing | dotted
  · exact .inl nothing
  · exact .inr fun same => extension.plain (same ▸ dotted)

theorem filename_first : upToFirst '.' (filename extension value) = upToFirst '.' value := by
  rw [filename_replaced, Filename.replaceExtension, up_to_first_append, Filename.stem_first]

-- The name has no extension of its own, or the one of the traces.
def Extended : Prop :=
  Filename.extension value = extension.suffix ∨ (Filename.extension value = [] ∧ value ≠ extension.suffix)

theorem filename_completed_iff : filename extension value = extension.completed value ↔ Extended extension value := by
  rw [filename_replaced, Filename.replaceExtension]
  by_cases ends : extension.suffix <:+ value
  · rw [TraceExtension.completed, if_pos ends]
    obtain ⟨base, rfl⟩ := ends
    by_cases bare : base = []
    · subst bare
      have whole := Filename.stem_suffix extension
      have none := (Filename.extension_nil_iff extension.suffix).mpr whole
      rw [List.nil_append, whole, Extended, none]
      constructor
      · intro same
        have length := congrArg List.length same
        simp only [TraceExtension.suffix, List.length_append, List.length_cons] at length
        omega
      · rintro (same | ⟨_, different⟩)
        · cases same
        · exact absurd rfl different
    · have cut := Filename.stem_suffixed base extension bare
      rw [cut, Extended, Filename.extension, cut, List.drop_left]
      exact ⟨fun _ => .inl rfl, fun _ => rfl⟩
  · rw [TraceExtension.completed, if_neg ends, Extended, Filename.extension_nil_iff]
    constructor
    · intro same
      refine .inr ⟨List.append_cancel_right same, ?_⟩
      rintro rfl
      exact ends (List.suffix_refl _)
    · rintro (same | ⟨whole, _⟩)
      · exact absurd (same ▸ List.drop_suffix _ value) ends
      · rw [whole, TraceExtension.suffix]

theorem taken_collides (taken : state.Taken folding extension row value) : state.Collision folding row value := by
  obtain ⟨idx, another, same⟩ := taken
  refine ⟨idx, another, ?_⟩
  rw [folding.key_first, same, ← folding.key_first, extension.completed_first]

def Refused : Prop := value = [] ∨ state.Collision folding row value ∨ Forbidden value

theorem set_data_refused (refusal : state.Refused folding row value) (refused : Bool) :
    (state.setData folding extension row value .name refused).success = false ∧
      (state.setData folding extension row value .name refused).state = state := by
  by_cases empty : value = []
  · rw [setData, if_pos empty]
    exact ⟨rfl, rfl⟩
  by_cases collision : state.Collision folding row value
  · rw [setData, if_neg empty, if_pos rfl, if_pos collision]
    exact ⟨rfl, rfl⟩
  obtain ⟨c, inside, invalid⟩ := (refusal.resolve_left empty).resolve_left collision
  rw [setData, if_neg empty, if_pos rfl, if_neg collision]
  cases read : value.find? fun c => c ∈ invalidChars with
  | some c => exact ⟨rfl, rfl⟩
  | none => exact absurd (decide_eq_true invalid) (List.find?_eq_none.mp read c inside)

theorem set_data_accepted (accepted : ¬ state.Refused folding row value) (refused : Bool) :
    state.setData folding extension row value .name refused =
      if refused then ⟨false, none, state⟩ else ⟨true, none, state.rename row (filename extension value)⟩ := by
  obtain ⟨some, others⟩ := not_or.mp accepted
  obtain ⟨apart, allowed⟩ := not_or.mp others
  have nothing : value.find? (fun c => c ∈ invalidChars) = none := by
    rw [List.find?_eq_none]
    intro c inside invalid
    exact allowed ⟨c, inside, of_decide_eq_true invalid⟩
  rw [setData, if_neg some, if_pos rfl, if_neg apart, nothing]

theorem rename_unique (apart : ¬ state.Collision folding row value) (target : Text)
    (stem : upToFirst '.' target = upToFirst '.' value) (unique : state.Unique folding) :
    (state.rename row target).Unique folding := by
  have other (idx : Fin count) (another : idx ≠ row) : folding.key (state.names idx) ≠ folding.key target := by
    intro same
    refine apart ⟨idx, another, ?_⟩
    rw [folding.key_first, same, ← folding.key_first, stem]
  intro i j same
  by_cases first : i = row
  · by_cases second : j = row
    · rw [first, second]
    · simp only [rename, first, Function.update_self, Function.update_of_ne second] at same
      exact absurd same.symm (other j second)
  · by_cases second : j = row
    · simp only [rename, second, Function.update_self, Function.update_of_ne first] at same
      exact absurd same (other i first)
    · simp only [rename, Function.update_of_ne first, Function.update_of_ne second] at same
      exact unique i j same

-- Whatever is entered, and also where a part of it is dropped.
theorem set_data_unique (refused : Bool) (unique : state.Unique folding) :
    (state.setData folding extension row value .name refused).state.Unique folding := by
  by_cases refusal : state.Refused folding row value
  · rwa [(state.set_data_refused folding extension row value refusal refused).2]
  · rw [state.set_data_accepted folding extension row value refusal refused]
    obtain ⟨apart, _⟩ := not_or.mp (not_or.mp refusal).2
    cases refused with
    | false => exact state.rename_unique folding row value apart _ (filename_first extension value) unique
    | true => exact unique

structure NamesKept : Prop where
  renamed : ∀ refused, (state.setData folding extension row value .name refused).success = true →
    (state.setData folding extension row value .name refused).state = state.rename row (extension.completed value)
  rejected : (state.setData folding extension row value .name false).success = false ↔
    value = [] ∨ Forbidden value ∨ state.Taken folding extension row value
  unchanged : ∀ refused, (state.setData folding extension row value .name refused).success = false →
    (state.setData folding extension row value .name refused).state = state
  unique : ∀ refused, state.Unique folding →
    (state.setData folding extension row value .name refused).state.Unique folding

theorem accepted_kept (accepted : ¬ state.Refused folding row value) (extended : Extended extension value) :
    state.NamesKept folding extension row value := by
  have done := state.set_data_accepted folding extension row value accepted
  rw [(filename_completed_iff extension value).mpr extended] at done
  obtain ⟨some, others⟩ := not_or.mp accepted
  obtain ⟨apart, allowed⟩ := not_or.mp others
  constructor
  · intro refused success
    cases refused with
    | false => rw [done false, if_neg Bool.false_ne_true]
    | true =>
        rw [done true] at success
        cases success
  · rw [done false, if_neg Bool.false_ne_true]
    constructor
    · intro failure
      cases failure
    · rintro (empty | forbidden | taken)
      · exact absurd empty some
      · exact absurd forbidden allowed
      · exact absurd (state.taken_collides folding extension row value taken) apart
  · intro refused failure
    cases refused with
    | false =>
        rw [done false] at failure
        cases failure
    | true => rw [done true, if_pos rfl]
  · intro refused
    exact state.set_data_unique folding extension row value refused

theorem refused_kept (refusal : state.Refused folding row value)
    (asked : value = [] ∨ Forbidden value ∨ state.Taken folding extension row value) :
    state.NamesKept folding extension row value := by
  have failed := state.set_data_refused folding extension row value refusal
  constructor
  · intro refused success
    rw [(failed refused).1] at success
    cases success
  · exact ⟨fun _ => asked, fun _ => (failed false).1⟩
  · intro refused _
    exact (failed refused).2
  · intro refused
    exact state.set_data_unique folding extension row value refused

theorem names_kept_iff : state.NamesKept folding extension row value ↔
    value = [] ∨ Forbidden value ∨ state.Taken folding extension row value ∨
      (¬ state.Collision folding row value ∧ Extended extension value) := by
  constructor
  · intro kept
    by_cases refusal : state.Refused folding row value
    · rcases kept.rejected.mp (state.set_data_refused folding extension row value refusal false).1 with empty | forbidden | taken
      · exact .inl empty
      · exact .inr (.inl forbidden)
      · exact .inr (.inr (.inl taken))
    · have done := state.set_data_accepted folding extension row value refusal false
      rw [if_neg Bool.false_ne_true] at done
      have same := kept.renamed false (by rw [done])
      rw [done] at same
      have target := congrFun (congrArg State.names same) row
      simp only [rename, Function.update_self] at target
      refine .inr (.inr (.inr ⟨fun collision => refusal (.inr (.inl collision)), ?_⟩))
      exact (filename_completed_iff extension value).mp target
  · intro asked
    by_cases refusal : state.Refused folding row value
    · refine state.refused_kept folding extension row value refusal ?_
      rcases asked with empty | forbidden | taken | ⟨apart, _⟩
      · exact .inl empty
      · exact .inr (.inl forbidden)
      · exact .inr (.inr taken)
      · rcases refusal with empty | collision | forbidden
        · exact .inl empty
        · exact absurd collision apart
        · exact .inr (.inl forbidden)
    · rcases asked with empty | forbidden | taken | ⟨_, extended⟩
      · exact absurd (.inl empty) refusal
      · exact absurd (.inr (.inr forbidden)) refusal
      · exact absurd (.inr (.inl (state.taken_collides folding extension row value taken))) refusal
      · exact state.accepted_kept folding extension row value refusal extended

end State

theorem lower_dot (c : Char) : c.toLower = '.' ↔ c = '.' := by
  by_cases capital : 65 ≤ c.val ∧ c.val ≤ 90
  · have lower : 65 ≤ c.val.toNat := UInt32.le_iff_toNat_le.mp capital.1
    have upper : c.val.toNat ≤ 90 := UInt32.le_iff_toNat_le.mp capital.2
    have shifted : c.toLower.val = c.val + 32 := congrArg Char.val (dif_pos capital)
    constructor
    · intro same
      have value : c.val + 32 = 46 := shifted.symm.trans (congrArg Char.val same)
      have numbers := congrArg UInt32.toNat value
      simp only [UInt32.toNat_add, UInt32.reduceToNat] at numbers
      omega
    · rintro rfl
      exact absurd lower (by decide)
  · have same : c.toLower = c := dif_neg capital
    rw [same]

def CaseFolding.ascii : CaseFolding := ⟨Char.toLower, lower_dot⟩

def rgp : TraceExtension := ⟨['r', 'g', 'p'], by decide, by decide⟩

def listed : State Unit 1 := ⟨fun _ => "trace.rgp".toList, fun path => if path = "trace.rgp".toList then some () else none⟩

theorem names_not_kept : ¬ listed.NamesKept .ascii rgp 0 "capture.v2".toList := by
  intro kept
  have target := congrFun (congrArg State.names (kept.renamed false (by decide))) 0
  revert target
  decide

end RadeonPanel.Modules.RecentTraces
