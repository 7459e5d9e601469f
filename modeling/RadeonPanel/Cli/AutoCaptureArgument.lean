import RadeonPanel.Base.Numerals
import RadeonPanel.Base.Separators
import RadeonPanel.Cli.CommandLine

set_option autoImplicit false

namespace RadeonPanel.Cli

open Separated

-- A decimal 32-bit number.
structure Decimal (text : List Char) (n : UInt32) : Prop where
  some : text ≠ []
  digits : ∀ c ∈ text, c.isDigit = true
  value : Numerals.decimal text = n.toNat

inductive Segment (whenEmpty : UInt32) : List Char → UInt32 → Prop where
  | empty : Segment whenEmpty [] whenEmpty
  | number (text : List Char) (n : UInt32) (decimal : Decimal text n) : Segment whenEmpty text n

-- The arguments that the grammar names, with the configuration that each of them asks for.
inductive Named (config : CaptureConfig) : List Char → CaptureConfig → Prop where
  | frame : Named config "frame".toList
      { config with autoCaptureMode := .frameIndex, frameCaptureIndex := kFrameCaptureIndexMinimum }
  | frameIndex (digits : List Char) (n : UInt32) (index : Decimal digits n) (least : kFrameCaptureIndexMinimum ≤ n) :
      Named config ("frame".toList ++ ':' :: digits) { config with autoCaptureMode := .frameIndex, frameCaptureIndex := n }
  | dispatch : Named config "dispatch".toList { config with autoCaptureMode := .dispatchIndex }
  | dispatchStart (start : List Char) (n : UInt32) (first : Segment 1 start n) (least : 1 ≤ n) :
      Named config ("dispatch".toList ++ ':' :: start) { config with autoCaptureMode := .dispatchIndex, dispatchStartIndex := n }
  | dispatchRange (start count : List Char) (n m : UInt32) (first : Segment 1 start n) (least : 1 ≤ n)
      (second : Segment 1 count m) :
      Named config ("dispatch".toList ++ ':' :: (start ++ ':' :: count))
        { config with autoCaptureMode := .dispatchIndex, dispatchStartIndex := n, dispatchCount := if m = 0 then 1 else m }

section Numbers
variable {text : List Char} {n whenEmpty : UInt32}

theorem read_digits_iff (value result : Nat) : readDigits value text = some result ↔
    (∀ c ∈ text, c.isDigit = true) ∧ text.foldl (fun value digit => 10 * value + (digit.toNat - 48)) value = result := by
  induction text generalizing value with
  | nil => simp [readDigits]
  | cons c rest ih =>
      by_cases digit : c.isDigit = true
      · simp [readDigits, digitValue, digit, ih, Nat.mul_comm value 10]
      · simp [readDigits, digitValue, digit]

theorem parse_number_iff : parseNumber text = some n ↔ Decimal text n := by
  have bound : n.toNat < 4294967296 := n.toNat_lt
  rw [parseNumber]
  by_cases none : text = []
  · subst none
    exact ⟨by simp, fun number => absurd rfl number.some⟩
  · rw [if_neg (by simpa using none)]
    constructor
    · intro parsed
      split at parsed
      · rename_i value read
        obtain ⟨small, same⟩ := Option.ite_none_right_eq_some.mp parsed
        obtain ⟨digits, decimal⟩ := (read_digits_iff 0 value).mp read
        refine ⟨none, digits, decimal.trans ?_⟩
        rw [← Option.some.inj same, UInt32.toNat_ofNat_of_lt' small]
      · cases parsed
    · intro number
      rw [(read_digits_iff 0 n.toNat).mpr ⟨number.digits, number.value⟩]
      simp [bound]

theorem parse_part_iff : parsePart whenEmpty text = some n ↔ Segment whenEmpty text n := by
  rw [parsePart]
  by_cases none : text = []
  · subst none
    refine ⟨fun same => Option.some.inj same ▸ .empty, fun segment => ?_⟩
    cases segment with
    | empty => rfl
    | number _ _ decimal => exact absurd rfl decimal.some
  · rw [if_neg (by simpa using none), parse_number_iff]
    refine ⟨.number text n, fun segment => ?_⟩
    cases segment with
    | empty => exact absurd rfl none
    | number _ _ decimal => exact decimal

theorem Segment.plain (segment : Segment whenEmpty text n) : ':' ∉ text := by
  cases segment with
  | empty => simp
  | number _ _ decimal => exact fun colon => absurd (decimal.digits ':' colon) (by decide)

end Numbers

section Parts
variable (text line : List Char)

theorem getlines_lines (plain : ':' ∉ line) : getlines line text = lines ':' (line ++ text) := by
  induction text generalizing line with
  | nil =>
      rw [List.append_nil, lines_plain ':' line plain, getlines]
      cases line <;> rfl
  | cons c rest ih =>
      rw [getlines]
      by_cases colon : c = ':'
      · rw [if_pos colon, colon, lines_delimited ':' rest line plain, ih [] (by simp), List.nil_append]
      · have longer : ':' ∉ line ++ [c] := by simp [plain, Ne.symm colon]
        rw [if_neg colon, ih (line ++ [c]) longer, List.append_assoc, List.singleton_append]

theorem split_parts (some : text ≠ []) : splitParts text = text.splitOn ':' := by
  rw [splitParts, getlines_lines text [] (by simp), List.nil_append, lines_split ':' text some]

theorem parts_text (parts : List (List Char)) (some : parts ≠ []) (split : splitParts text = parts) : text = [':'].intercalate parts := by
  have whole : text ≠ [] := by
    rintro rfl
    exact some split.symm
  rw [← split, split_parts text whole, List.intercalate_splitOn]

theorem text_parts (parts : List (List Char)) (some : [':'].intercalate parts ≠ []) (plain : ∀ part ∈ parts, ':' ∉ part) :
    splitParts ([':'].intercalate parts) = parts := by
  have more : parts ≠ [] := by
    rintro rfl
    exact some rfl
  rw [split_parts _ some, List.splitOn_intercalate ':' plain more]

theorem intercalate_pair (first second : List Char) : [':'].intercalate [first, second] = first ++ ':' :: second := by
  simp [List.intercalate]

theorem intercalate_triple (first second third : List Char) :
    [':'].intercalate [first, second, third] = first ++ ':' :: (second ++ ':' :: third) := by
  simp [List.intercalate]

end Parts

section Grammar
variable (parts : List (List Char))

theorem at_least_iff {α : Type} (index : α → UInt32) (least : UInt32) (read : Option α) (a : α) :
    (read.bind fun a => if index a < least then none else some a) = some a ↔ read = some a ∧ least ≤ index a := by
  cases read with
  | none => simp
  | some found =>
      rw [Option.bind_some, Option.some.injEq]
      by_cases below : index found < least
      · rw [if_pos below]
        refine iff_of_false (by simp) fun holds => ?_
        exact absurd below (UInt32.not_lt.mpr (holds.1 ▸ holds.2))
      · rw [if_neg below, Option.some.injEq]
        exact (and_iff_left_of_imp fun same => same ▸ UInt32.not_lt.mp below).symm

-- An empty index is read as zero, and zero is too small.
theorem frame_index_iff (n : UInt32) : parseFrameIndex parts = some n ↔
    (parts = [] ∧ n = kFrameCaptureIndexMinimum) ∨
      ∃ digits, parts = [digits] ∧ Decimal digits n ∧ kFrameCaptureIndexMinimum ≤ n := by
  unfold parseFrameIndex
  rw [at_least_iff fun index => index]
  match parts with
  | [] =>
      constructor
      · rintro ⟨read, -⟩
        exact .inl ⟨rfl, (Option.some.inj read).symm⟩
      · rintro (⟨-, rfl⟩ | ⟨digits, none, -⟩)
        · exact ⟨rfl, UInt32.le_refl _⟩
        · cases none
  | [part] =>
      rw [parse_part_iff]
      constructor
      · rintro ⟨segment, least⟩
        cases segment with
        | empty => exact absurd least (by decide)
        | number _ _ decimal => exact .inr ⟨part, rfl, decimal, least⟩
      · rintro (⟨none, -⟩ | ⟨digits, same, decimal, least⟩)
        · cases none
        · cases same
          exact ⟨.number part n decimal, least⟩
  | _ :: _ :: _ => simp

theorem dispatch_range_iff (start count : UInt32) (range : UInt32 × UInt32) (least : 1 ≤ start) :
    parseDispatchRange start count parts = some range ↔
      (parts = [] ∧ range = (start, count)) ∨
      (∃ first, parts = [first] ∧ Segment 1 first range.1 ∧ 1 ≤ range.1 ∧ range.2 = count) ∨
      ∃ first second m, parts = [first, second] ∧ Segment 1 first range.1 ∧ 1 ≤ range.1 ∧ Segment 1 second m ∧
        range.2 = if m = 0 then 1 else m := by
  unfold parseDispatchRange
  rw [at_least_iff Prod.fst, kDispatchStartIndexMinimum]
  match parts with
  | [] =>
      constructor
      · rintro ⟨read, -⟩
        exact .inl ⟨rfl, (Option.some.inj read).symm⟩
      · rintro (⟨-, rfl⟩ | ⟨first, none, -⟩ | ⟨first, second, m, none, -⟩)
        · exact ⟨rfl, least⟩
        · cases none
        · cases none
  | [part] =>
      simp only [Option.map_eq_some_iff, parse_part_iff]
      constructor
      · rintro ⟨⟨first, segment, rfl⟩, bound⟩
        exact .inr (.inl ⟨part, rfl, segment, bound, rfl⟩)
      · rintro (⟨none, -⟩ | ⟨first, same, segment, bound, rfl⟩ | ⟨first, second, m, none, -⟩)
        · cases none
        · cases same
          exact ⟨⟨range.1, segment, rfl⟩, bound⟩
        · cases none
  | [part, other] =>
      simp only [Option.bind_eq_some_iff, Option.map_eq_some_iff, parse_part_iff]
      constructor
      · rintro ⟨⟨first, segment, m, counted, rfl⟩, bound⟩
        exact .inr (.inr ⟨part, other, m, rfl, segment, bound, counted, rfl⟩)
      · rintro (⟨none, -⟩ | ⟨first, none, -⟩ | ⟨first, second, m, same, segment, bound, counted, number⟩)
        · cases none
        · cases none
        · cases same
          exact ⟨⟨range.1, segment, m, counted, by rw [← number]⟩, bound⟩
  | _ :: _ :: _ :: _ => simp

end Grammar

section Argument
variable {text : List Char} {config parsed : CaptureConfig}

theorem parse_frame (parts : List (List Char)) (split : splitParts text = "frame".toList :: parts) :
    parseAutoCapture text config =
      (parseFrameIndex parts).map fun index => { config with autoCaptureMode := .frameIndex, frameCaptureIndex := index } := by
  rw [parseAutoCapture, split]
  exact if_pos rfl

theorem parse_dispatch_parts (parts : List (List Char)) (split : splitParts text = "dispatch".toList :: parts) :
    parseAutoCapture text config = (parseDispatchRange config.dispatchStartIndex config.dispatchCount parts).map fun range =>
      { config with autoCaptureMode := .dispatchIndex, dispatchStartIndex := range.1, dispatchCount := range.2 } := by
  rw [parseAutoCapture, split]
  exact (if_neg (by decide)).trans (if_pos rfl)

theorem accepted_mode (accepted : parseAutoCapture text config = some parsed) :
    ∃ parts, splitParts text = "frame".toList :: parts ∨ splitParts text = "dispatch".toList :: parts := by
  unfold parseAutoCapture at accepted
  split at accepted
  · cases accepted
  · rename_i mode parts split
    by_cases frame : mode = "frame".toList
    · exact ⟨parts, .inl (frame ▸ split)⟩
    · by_cases dispatch : mode = "dispatch".toList
      · exact ⟨parts, .inr (dispatch ▸ split)⟩
      · rw [if_neg frame, if_neg dispatch] at accepted
        cases accepted

theorem named_accepted (valid : kDispatchStartIndexMinimum ≤ config.dispatchStartIndex) (named : Named config text parsed) :
    parseAutoCapture text config = some parsed := by
  cases named with
  | frame => rfl
  | frameIndex digits n index least =>
      have segment : Segment 1 digits n := .number digits n index
      have plain := segment.plain
      have split := text_parts ["frame".toList, digits] (by simp) (by simpa using plain)
      rw [intercalate_pair] at split
      rw [parse_frame [digits] split, (frame_index_iff [digits] n).mpr (.inr ⟨digits, rfl, index, least⟩)]
      rfl
  | dispatch =>
      have read := (dispatch_range_iff [] config.dispatchStartIndex config.dispatchCount _ valid).mpr (.inl ⟨rfl, rfl⟩)
      rw [parse_dispatch_parts [] (by decide), read]
      rfl
  | dispatchStart start n first least =>
      have split := text_parts ["dispatch".toList, start] (by simp) (by simpa using first.plain)
      rw [intercalate_pair] at split
      have read := (dispatch_range_iff [start] config.dispatchStartIndex config.dispatchCount (n, config.dispatchCount) valid).mpr
        (.inr (.inl ⟨start, rfl, first, least, rfl⟩))
      rw [parse_dispatch_parts [start] split, read]
      rfl
  | dispatchRange start count n m first least second =>
      have split := text_parts ["dispatch".toList, start, count] (by simp) (by simpa using ⟨first.plain, second.plain⟩)
      rw [intercalate_triple] at split
      have read := (dispatch_range_iff [start, count] config.dispatchStartIndex config.dispatchCount
        (n, if m = 0 then 1 else m) valid).mpr (.inr (.inr ⟨start, count, m, rfl, first, least, second, rfl⟩))
      rw [parse_dispatch_parts [start, count] split, read]
      rfl

theorem accepted_named (valid : kDispatchStartIndexMinimum ≤ config.dispatchStartIndex)
    (accepted : parseAutoCapture text config = some parsed) : Named config text parsed := by
  obtain ⟨parts, split | split⟩ := accepted_mode accepted
  · rw [parts_text text _ (by simp) split]
    rw [parse_frame parts split] at accepted
    obtain ⟨index, read, rfl⟩ := Option.map_eq_some_iff.mp accepted
    obtain ⟨rfl, rfl⟩ | ⟨digits, rfl, decimal, least⟩ := (frame_index_iff parts index).mp read
    · exact .frame
    · rw [intercalate_pair]
      exact .frameIndex digits index decimal least
  · rw [parts_text text _ (by simp) split]
    rw [parse_dispatch_parts parts split] at accepted
    obtain ⟨⟨start, count⟩, read, rfl⟩ := Option.map_eq_some_iff.mp accepted
    obtain ⟨rfl, same⟩ | ⟨first, rfl, segment, least, rfl⟩ | ⟨first, second, m, rfl, segment, least, counted, rfl⟩ :=
      (dispatch_range_iff parts _ _ (start, count) valid).mp read
    · cases same
      exact .dispatch
    · rw [intercalate_pair]
      exact .dispatchStart first start segment least
    · rw [intercalate_triple]
      exact .dispatchRange first second start m segment least counted

end Argument

theorem auto_capture_argument_iff (text : List Char) (config parsed : CaptureConfig)
    (valid : kDispatchStartIndexMinimum ≤ config.dispatchStartIndex) :
    parseAutoCapture text config = some parsed ↔ Named config text parsed :=
  ⟨accepted_named valid, named_accepted valid⟩

def defaultConfig : CaptureConfig := ⟨.none, 0, 1, 1, 0, false, false, false, .default, .default, 1⟩

theorem empty_start_named :
    Named defaultConfig "dispatch::7".toList { defaultConfig with autoCaptureMode := .dispatchIndex, dispatchCount := 7 } :=
  (auto_capture_argument_iff _ _ _ (by decide)).mp (by decide)

end RadeonPanel.Cli
