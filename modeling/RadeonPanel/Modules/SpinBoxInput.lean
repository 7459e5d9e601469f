import Mathlib.Algebra.Group.Int.Defs
import RadeonPanel.Base.Numerals
import RadeonPanel.Frontend.ApplicationModel

set_option autoImplicit false

namespace RadeonPanel.Modules.InputValidation

open Numerals

abbrev Text := List Char

-- The types for which the templates are instantiated, without the two floating point types.
inductive IntegerType where
  | uint8
  | int8
  | uint16
  | int16
  | uint32
  | int32
  | uint64
  | int64
deriving DecidableEq, Repr

namespace IntegerType

def signed : IntegerType → Bool
  | .int8 | .int16 | .int32 | .int64 => true
  | .uint8 | .uint16 | .uint32 | .uint64 => false

def lowest : IntegerType → Int
  | .uint8 | .uint16 | .uint32 | .uint64 => 0
  | .int8 => -2 ^ 7
  | .int16 => -2 ^ 15
  | .int32 => -2 ^ 31
  | .int64 => -2 ^ 63

def highest : IntegerType → Int
  | .uint8 => 2 ^ 8 - 1
  | .int8 => 2 ^ 7 - 1
  | .uint16 => 2 ^ 16 - 1
  | .int16 => 2 ^ 15 - 1
  | .uint32 => 2 ^ 32 - 1
  | .int32 => 2 ^ 31 - 1
  | .uint64 => 2 ^ 64 - 1
  | .int64 => 2 ^ 63 - 1

def holds (type : IntegerType) (n : Int) : Bool := type.lowest ≤ n ∧ n ≤ type.highest

theorem holds_iff (type : IntegerType) (n : Int) : type.holds n = true ↔ type.lowest ≤ n ∧ n ≤ type.highest :=
  decide_eq_true_iff

end IntegerType

structure Range (type : IntegerType) where
  min : Int
  max : Int
  inside : type.lowest ≤ min ∧ max ≤ type.highest
  ordered : min ≤ max

def Range.contains {type : IntegerType} (range : Range type) (n : Int) : Prop := range.min ≤ n ∧ n ≤ range.max

instance {type : IntegerType} (range : Range type) (n : Int) : Decidable (range.contains n) :=
  inferInstanceAs (Decidable (_ ∧ _))

-- How QString reads numbers: blanks around them and a sign are skipped, and in base 16 a prefix too.
def trimmed (text : Text) : Text := ((text.dropWhile Frontend.isSpace).reverse.dropWhile Frontend.isSpace).reverse

def magnitude (base : Nat) : Text → Option Nat
  | '0' :: x :: rest => if base = 16 ∧ (x = 'x' ∨ x = 'X') then numeral 16 rest else numeral base ('0' :: x :: rest)
  | text => numeral base text

def integer (base : Nat) (signed : Bool) (text : Text) : Option Int :=
  match trimmed text with
  | '-' :: rest => if signed then (magnitude base rest).map fun (n : Nat) => -(n : Int) else none
  | '+' :: rest => (magnitude base rest).map fun (n : Nat) => (n : Int)
  | rest => (magnitude base rest).map fun (n : Nat) => (n : Int)

def toLongLong (text : Text) (base : Nat) : Option Int := (integer base true text).filter IntegerType.int64.holds

def toULongLong (text : Text) (base : Nat) : Option Int := (integer base false text).filter IntegerType.uint64.holds

def toInt (text : Text) (base : Nat) : Option Int := (toLongLong text base).filter IntegerType.int32.holds

def toUInt (text : Text) (base : Nat) : Option Int := (toULongLong text base).filter IntegerType.uint32.holds

-- `none` where ok is false.
def convertString (type : IntegerType) (text : Text) (base : Nat) : Option Int :=
  match type with
  | .uint64 => toULongLong text base
  | .int64 => toLongLong text base
  | .uint32 => toUInt text base
  | .int32 => toInt text base
  | .uint16 => (toUInt text base).filter fun temp => temp ≤ IntegerType.uint16.highest
  | .int16 => (toInt text base).filter fun temp => IntegerType.int16.lowest ≤ temp ∧ temp ≤ IntegerType.int16.highest
  | .uint8 => (toUInt text base).filter fun temp => temp ≤ IntegerType.uint8.highest
  | .int8 => (toInt text base).filter fun temp => IntegerType.int8.lowest ≤ temp ∧ temp ≤ IntegerType.int8.highest

inductive State where
  | invalid
  | intermediate
  | acceptable
deriving DecidableEq, Repr

structure ValidationResult where
  state : State
  modifiedInput : Text
  positionDelta : Int
deriving DecidableEq, Repr

-- The result with the two arguments that are references.
structure Validated where
  result : ValidationResult
  position : Int
  lastAcceptableText : Text
deriving DecidableEq, Repr

-- The text after "0x", in upper or lower case.
def hexPart : Text → Option Text
  | '0' :: x :: rest => if x = 'x' ∨ x = 'X' then some rest else none
  | _ => none

section Validate
variable {type : IntegerType} (range : Range type)

def validateSpinBoxInput (input : Text) (position : Int) (useHexMode allowOptional : Bool) (lastAcceptableText : Text) :
    Validated :=
  let leave (state : State) : Validated := ⟨⟨state, input, 0⟩, position, lastAcceptableText⟩
  if input = [] then
    if allowOptional then ⟨⟨.acceptable, input, 0⟩, position, input⟩ else leave .intermediate
  else
    match hexPart input with
    | some hexDigits =>
        if hexDigits = [] then leave .intermediate
        else
          match convertString type hexDigits 16 with
          | none => leave .invalid
          | some value =>
              if value ≤ range.max ∧ range.min ≤ value then ⟨⟨.acceptable, input, 0⟩, position, input⟩ else leave .invalid
    | none =>
        if useHexMode then
          if input = ['0'] then leave .intermediate
          else
            match convertString type input 16 with
            | none => leave .invalid
            | some _ =>
                -- The text gets its prefix, and the cursor moves with it. It is converted once more.
                let modifiedInput := '0' :: 'x' :: input
                let delta : Int := modifiedInput.length - input.length
                match convertString type input 16 with
                | none => ⟨⟨.invalid, modifiedInput, delta⟩, position + delta, lastAcceptableText⟩
                | some value =>
                    if value ≤ range.max ∧ range.min ≤ value then
                      ⟨⟨.acceptable, modifiedInput, delta⟩, position + delta, modifiedInput⟩
                    else ⟨⟨.invalid, modifiedInput, delta⟩, position + delta, lastAcceptableText⟩
        else if range.min < 0 ∧ input = ['-'] then leave .intermediate
        else
          match convertString type input 10 with
          | none => leave .invalid
          | some value =>
              if value ≤ range.max ∧ range.min ≤ value then ⟨⟨.acceptable, input, 0⟩, position, input⟩ else leave .invalid

end Validate

-- The number that the whole text or what follows its prefix is read as.
def reading (type : IntegerType) (useHexMode : Bool) (input : Text) : Option Int :=
  match hexPart input with
  | some hexDigits => integer 16 type.signed hexDigits
  | none => integer (if useHexMode then 16 else 10) type.signed input

-- The number that a text denotes without anything around it: digits after a prefix, or digits with a
-- minus sign where the type has one.
def denoted (type : IntegerType) (useHexMode : Bool) (input : Text) : Option Int :=
  match hexPart input, input with
  | some hexDigits, _ => (numeral 16 hexDigits).map fun (n : Nat) => (n : Int)
  | none, '-' :: digits =>
      if type.signed then (numeral (if useHexMode then 16 else 10) digits).map fun (n : Nat) => -(n : Int) else none
  | none, digits => (numeral (if useHexMode then 16 else 10) digits).map fun (n : Nat) => (n : Int)

theorem filter_same {α : Type} (o : Option α) (p q : α → Bool) (same : ∀ a, o = some a → p a = q a) :
    o.filter p = o.filter q := by
  cases o with
  | none => rfl
  | some a => simp only [Option.filter, same a rfl]

-- All the checks on the way come to those of the type.
theorem convert_string_eq (type : IntegerType) (text : Text) (base : Nat) :
    convertString type text base = (integer base type.signed text).filter type.holds := by
  cases type <;>
    simp only [convertString, toUInt, toInt, toULongLong, toLongLong, Option.filter_filter, IntegerType.signed] <;>
    refine filter_same _ _ _ fun n _ => Bool.eq_iff_iff.mpr ?_ <;>
    simp only [Bool.and_eq_true, decide_eq_true_eq, IntegerType.holds_iff] <;>
    simp only [IntegerType.lowest, IntegerType.highest] <;>
    omega

section Verdict
variable {type : IntegerType} (range : Range type)

def accepts (o : Option Int) : Bool := o.any fun n => range.contains n

theorem accepts_iff (o : Option Int) : accepts range o = true ↔ ∃ n, o = some n ∧ range.contains n := by
  simp [accepts, Option.any_eq_true]

-- A number in the range is one of the type.
theorem converted_within (text : Text) (base : Nat) {T : Sort*} (yes no : T) :
    (match convertString type text base with
      | none => no
      | some value => if value ≤ range.max ∧ range.min ≤ value then yes else no) =
      if accepts range (integer base type.signed text) then yes else no := by
  rw [convert_string_eq]
  cases read : integer base type.signed text with
  | none => rfl
  | some n =>
      by_cases within : range.contains n
      · have held : type.holds n = true := by
          have inside := range.inside
          exact (type.holds_iff n).mpr ⟨Int.le_trans inside.1 within.1, Int.le_trans within.2 inside.2⟩
        simp [Option.filter, held, accepts, within, within.1, within.2]
      · have outside : ¬ (n ≤ range.max ∧ range.min ≤ n) := fun both => within ⟨both.2, both.1⟩
        cases held : type.holds n <;> simp [Option.filter, held, accepts, within, outside]

-- The state alone, in one place for all branches.
def verdict (useHexMode allowOptional : Bool) (input : Text) : State :=
  if input = [] then if allowOptional then .acceptable else .intermediate
  else if hexPart input = some [] then .intermediate
  else if hexPart input = none ∧ (if useHexMode then input = ['0'] else range.min < 0 ∧ input = ['-']) then .intermediate
  else if accepts range (reading type useHexMode input) then .acceptable
  else .invalid

theorem validate_state (input : Text) (position : Int) (useHexMode allowOptional : Bool) (last : Text) :
    (validateSpinBoxInput range input position useHexMode allowOptional last).result.state =
      verdict range useHexMode allowOptional input := by
  rw [validateSpinBoxInput, verdict]
  by_cases empty : input = []
  · rw [if_pos empty, if_pos empty]
    cases allowOptional <;> rfl
  · rw [if_neg empty, if_neg empty, reading]
    cases part : hexPart input with
    | some hexDigits =>
        by_cases only : hexDigits = []
        · simp [only]
        · simp only [if_neg only, Option.some.injEq, reduceCtorEq, false_and, if_false, converted_within]
          split <;> rfl
    | none =>
        cases useHexMode with
        | true =>
            by_cases zero : input = ['0']
            · simp [zero]
            · have within := converted_within range input 16 State.acceptable State.invalid
              simp only [if_true, if_neg zero, reduceCtorEq, true_and, if_false]
              cases converted : convertString type input 16 with
              | none =>
                  simp only [converted] at within
                  exact within
              | some value =>
                  simp only [converted] at within ⊢
                  rw [← within]
                  split <;> rfl
        | false =>
            by_cases minus : range.min < 0 ∧ input = ['-']
            · simp [minus]
            · simp only [Bool.false_eq_true, if_false, if_neg minus, reduceCtorEq, true_and, converted_within]
              split <;> rfl

variable (position : Int) (useHexMode allowOptional : Bool) (last : Text)

-- What ValidateSpinBoxInput is to do with a text: it accepts exactly what denotes a number in the range,
-- whose beginnings may all stand while it is typed, and what it makes of it is accepted again as it is.
structure Typed (input : Text) : Prop where
  exact : (validateSpinBoxInput range input position useHexMode allowOptional last).result.state = .acceptable ↔
    input = [] ∧ allowOptional = true ∨
      ¬ (useHexMode = true ∧ input = ['0']) ∧ ∃ n, denoted type useHexMode input = some n ∧ range.contains n
  beginnings : (validateSpinBoxInput range input position useHexMode allowOptional last).result.state = .acceptable →
    ∀ start, start <+: input → start ≠ input → ∀ position last,
      (validateSpinBoxInput range start position useHexMode allowOptional last).result.state ≠ .invalid
  again : (validateSpinBoxInput range input position useHexMode allowOptional last).result.state = .acceptable →
    let text := (validateSpinBoxInput range input position useHexMode allowOptional last).result.modifiedInput
    ∀ position last, (validateSpinBoxInput range text position useHexMode allowOptional last).result.state = .acceptable ∧
      (validateSpinBoxInput range text position useHexMode allowOptional last).result.modifiedInput = text

end Verdict

-- Digits are no blanks, signs or prefixes.
theorem digit_no_other (base : Nat) (c : Char) (read : digit base c ≠ none) :
    Frontend.isSpace c = false ∧ c ≠ '-' ∧ c ≠ '+' ∧ c ≠ 'x' ∧ c ≠ 'X' := by
  have bounds : 48 ≤ c.toNat ∧ c.toNat ≤ 57 ∨ 97 ≤ c.toNat ∧ c.toNat ≤ 102 ∨ 65 ≤ c.toNat ∧ c.toNat ≤ 70 := by
    by_contra outside
    refine read ?_
    rw [digit]
    simp only [not_or] at outside
    simp [outside.1, outside.2.1, outside.2.2]
  refine ⟨?_, ?_, ?_, ?_, ?_⟩
  · by_contra space
    simp only [Frontend.isSpace, Bool.not_eq_false, Bool.or_eq_true, Bool.and_eq_true, decide_eq_true_eq, List.mem_cons,
      List.not_mem_nil, or_false, UInt32.le_iff_toNat_le, ← UInt32.toNat_inj, UInt32.reduceToNat] at space
    rw [Char.toNat] at bounds
    omega
  · rintro rfl
    revert bounds
    decide
  · rintro rfl
    revert bounds
    decide
  · rintro rfl
    revert bounds
    decide
  · rintro rfl
    revert bounds
    decide

theorem trimmed_plain (text : Text) (plain : ∀ c ∈ text, Frontend.isSpace c = false) : trimmed text = text := by
  have kept (l : Text) (none : ∀ c ∈ l, Frontend.isSpace c = false) : l.dropWhile Frontend.isSpace = l := by
    cases l with
    | nil => rfl
    | cons c rest => exact List.dropWhile_cons_of_neg (by simp [none c List.mem_cons_self])
  rw [trimmed, kept text plain, kept text.reverse fun c member => plain c (List.mem_reverse.mp member), List.reverse_reverse]

section Plain
variable (base : Nat) (digits : Text) (n : Nat) (read : numeral base digits = some n)
include read

theorem magnitude_plain : magnitude base digits = some n := by
  rw [magnitude.eq_def]
  split
  · next x rest =>
    obtain ⟨-, -, -, lower, upper⟩ := digit_no_other base x ((numeral_digits base n _ read).2 x (by simp))
    rw [if_neg (by simp [lower, upper]), read]
  · exact read

theorem integer_plain (signed : Bool) : integer base signed digits = some (n : Int) := by
  obtain ⟨-, each⟩ := numeral_digits base n digits read
  have plain := trimmed_plain digits fun c member => (digit_no_other base c (each c member)).1
  rw [integer, plain]
  split
  · exact absurd rfl (digit_no_other base '-' (each '-' (by simp))).2.1
  · exact absurd rfl (digit_no_other base '+' (each '+' (by simp))).2.2.1
  · rw [magnitude_plain base digits n read, Option.map_some]

theorem integer_minus : integer base true ('-' :: digits) = some (-(n : Int)) := by
  obtain ⟨-, each⟩ := numeral_digits base n digits read
  have plain := trimmed_plain ('-' :: digits) fun c member => by
    obtain rfl | later := List.mem_cons.mp member
    · decide
    · exact (digit_no_other base c (each c later)).1
  simp only [integer, plain, if_true, magnitude_plain base digits n read, Option.map_some]

theorem hex_part_plain : hexPart digits = none := by
  rw [hexPart.eq_def]
  split
  · next x rest =>
    obtain ⟨-, -, -, lower, upper⟩ := digit_no_other base x ((numeral_digits base n _ read).2 x (by simp))
    rw [if_neg (by simp [lower, upper])]
  · rfl

end Plain

theorem hex_part_minus (digits : Text) : hexPart ('-' :: digits) = none := by simp [hexPart]

theorem hex_part_some (input hexDigits : Text) (part : hexPart input = some hexDigits) :
    ∃ x, (x = 'x' ∨ x = 'X') ∧ input = '0' :: x :: hexDigits := by
  rw [hexPart.eq_def] at part
  split at part
  · next x rest =>
    obtain ⟨is, same⟩ := Option.ite_none_right_eq_some.mp part
    exact ⟨x, is, by rw [Option.some.inj same]⟩
  · cases part

theorem integer_nil (base : Nat) (signed : Bool) : integer base signed [] = none := by simp [integer, trimmed, magnitude, numeral]

theorem denoted_reading (type : IntegerType) (useHexMode : Bool) (input : Text) (n : Int)
    (denotes : denoted type useHexMode input = some n) : reading type useHexMode input = some n := by
  rw [denoted.eq_def] at denotes
  rw [reading]
  split at denotes
  · next hexDigits part =>
    obtain ⟨m, read, rfl⟩ := Option.map_eq_some_iff.mp denotes
    rw [part]
    exact integer_plain 16 hexDigits m read type.signed
  · next digits part =>
    obtain ⟨signed, is⟩ := Option.ite_none_right_eq_some.mp denotes
    obtain ⟨m, read, rfl⟩ := Option.map_eq_some_iff.mp is
    rw [part, signed]
    exact integer_minus _ digits m read
  · next _ part =>
    obtain ⟨m, read, rfl⟩ := Option.map_eq_some_iff.mp denotes
    rw [part]
    exact integer_plain _ _ m read type.signed

section Judged
variable {type : IntegerType} (range : Range type) (useHexMode allowOptional : Bool) (input : Text)

theorem reading_special (n : Int) (reads : reading type useHexMode input = some n) :
    input ≠ [] ∧ hexPart input ≠ some [] ∧ ¬ (useHexMode = false ∧ input = ['-']) := by
  refine ⟨?_, fun part => ?_, ?_⟩
  · rintro rfl
    simp [reading, hexPart, integer_nil] at reads
  · rw [reading, part] at reads
    simp [integer_nil] at reads
  · rintro ⟨rfl, rfl⟩
    have nothing : ∀ signed, integer 10 signed ['-'] = none := by decide
    simp [reading, hex_part_minus, nothing] at reads

theorem verdict_read (n : Int) (reads : reading type useHexMode input = some n) :
    verdict range useHexMode allowOptional input =
      if useHexMode = true ∧ input = ['0'] then .intermediate else if range.contains n then .acceptable else .invalid := by
  obtain ⟨filled, long, noMinus⟩ := reading_special useHexMode input n reads
  rw [verdict, if_neg filled, if_neg long, reads]
  have within : accepts range (some n) = true ↔ range.contains n := by simp [accepts]
  cases useHexMode with
  | true =>
      by_cases zero : input = ['0']
      · subst zero
        rfl
      · simp [zero, within]
  | false =>
      have other : input ≠ ['-'] := fun minus => noMinus ⟨rfl, minus⟩
      simp [other, within]

theorem verdict_acceptable_iff : verdict range useHexMode allowOptional input = .acceptable ↔
    input = [] ∧ allowOptional = true ∨
      ¬ (useHexMode = true ∧ input = ['0']) ∧ ∃ n, reading type useHexMode input = some n ∧ range.contains n := by
  cases reads : reading type useHexMode input with
  | some n =>
      have filled := (reading_special useHexMode input n reads).1
      rw [verdict_read range useHexMode allowOptional input n reads]
      by_cases zero : useHexMode = true ∧ input = ['0']
      · simp [zero]
      · by_cases within : range.contains n <;> simp [zero, within, filled]
  | none =>
      have nothing : accepts range (none : Option Int) = false := rfl
      by_cases empty : input = []
      · cases allowOptional <;> simp [verdict, empty]
      · rw [verdict, if_neg empty, reads, nothing]
        refine iff_of_false ?_ (by simp [empty])
        split
        · simp
        · cases useHexMode <;> simp
          all_goals split <;> simp

-- In hex mode a text without a prefix gets one.
def completed (useHexMode : Bool) (input : Text) : Text :=
  if input ≠ [] ∧ hexPart input = none ∧ useHexMode = true then '0' :: 'x' :: input else input

-- All that an accepted text leads to.
theorem validate_acceptable (position : Int) (last : Text)
    (acceptable : (validateSpinBoxInput range input position useHexMode allowOptional last).result.state = .acceptable) :
    validateSpinBoxInput range input position useHexMode allowOptional last =
      let text := completed useHexMode input
      let delta : Int := text.length - input.length
      ⟨⟨.acceptable, text, delta⟩, position + delta, text⟩ := by
  rw [validateSpinBoxInput] at acceptable ⊢
  by_cases empty : input = []
  · rw [if_pos empty] at acceptable ⊢
    cases allowOptional with
    | true => simp [completed, empty]
    | false => cases acceptable
  · rw [if_neg empty] at acceptable ⊢
    cases part : hexPart input with
    | some hexDigits =>
        simp only [part] at acceptable ⊢
        by_cases only : hexDigits = []
        · simp [only] at acceptable
        · simp only [if_neg only, converted_within] at acceptable ⊢
          by_cases within : accepts range (integer 16 type.signed hexDigits) = true
          · simp [within, completed, part]
          · simp [within] at acceptable
    | none =>
        simp only [part] at acceptable ⊢
        cases useHexMode with
        | false =>
            by_cases minus : range.min < 0 ∧ input = ['-']
            · simp [minus] at acceptable
            · simp only [Bool.false_eq_true, if_false, if_neg minus, converted_within] at acceptable ⊢
              by_cases within : accepts range (integer 10 type.signed input) = true
              · simp [within, completed]
              · simp [within] at acceptable
        | true =>
            by_cases zero : input = ['0']
            · simp [zero] at acceptable
            · simp only [if_true, if_neg zero, converted_within] at acceptable ⊢
              cases converted : convertString type input 16 with
              | none => simp [converted] at acceptable
              | some value =>
                  simp only [converted] at acceptable ⊢
                  by_cases within : accepts range (integer 16 type.signed input) = true
                  · simp [within, completed, empty, part]
                  · simp [within] at acceptable

theorem completed_again (acceptable : verdict range useHexMode allowOptional input = .acceptable) :
    verdict range useHexMode allowOptional (completed useHexMode input) = .acceptable ∧
      completed useHexMode (completed useHexMode input) = completed useHexMode input := by
  by_cases bare : input ≠ [] ∧ hexPart input = none ∧ useHexMode = true
  · obtain ⟨filled, part, rfl⟩ := bare
    have prefixed : completed true input = '0' :: 'x' :: input := if_pos ⟨filled, part, rfl⟩
    have inner : hexPart ('0' :: 'x' :: input) = some input := by simp [hexPart]
    obtain ⟨empty, -⟩ | ⟨-, n, reads, within⟩ := (verdict_acceptable_iff range true allowOptional input).mp acceptable
    · exact absurd empty filled
    · rw [prefixed]
      refine ⟨(verdict_acceptable_iff range true allowOptional _).mpr (.inr ⟨by simp, n, ?_, within⟩), ?_⟩
      · rw [reading, part] at reads
        rw [reading, inner]
        exact reads
      · exact if_neg (by simp [inner])
  · have same : completed useHexMode input = input := if_neg bare
    rw [same, same]
    exact ⟨acceptable, rfl⟩

-- Every beginning may stand while the text is typed.
def BeginningsStand : Prop :=
  ∀ start, start <+: input → start ≠ input → verdict range useHexMode allowOptional start ≠ .invalid

-- In hex mode a zero alone is still to be completed.
def afterZero (useHexMode : Bool) : Text → Text
  | '0' :: digits => if useHexMode then digits else '0' :: digits
  | digits => digits

-- Digits and nothing else, behind a prefix or a minus sign or alone; the first beginnings that are
-- numbers are in the range already, and those that are not are what the code waits for.
def typable : Prop :=
  match hexPart input, input with
  | some hexDigits, _ =>
      numeral 16 hexDigits ≠ none ∧ (useHexMode = true ∨ range.contains 0) ∧ StartsFrom 16 range.min hexDigits
  | none, '-' :: digits => useHexMode = false ∧ numeral 10 digits ≠ none ∧ range.min < 0 ∧ StartsFrom 10 (-range.max) digits
  | none, digits =>
      numeral (if useHexMode then 16 else 10) digits ≠ none ∧
        StartsFrom (if useHexMode then 16 else 10) range.min (afterZero useHexMode digits)

end Judged

section Beginnings
variable {type : IntegerType} (range : Range type) (useHexMode allowOptional : Bool)

theorem empty_stands : verdict range useHexMode allowOptional [] ≠ .invalid := by
  rw [verdict, if_pos rfl]
  cases allowOptional <;> simp

-- A beginning that is read as a number stands when the number is in the range.
theorem read_stands_iff (start : Text) (m : Int) (reads : reading type useHexMode start = some m)
    (long : ¬ (useHexMode = true ∧ start = ['0'])) :
    verdict range useHexMode allowOptional start ≠ .invalid ↔ range.contains m := by
  rw [verdict_read range useHexMode allowOptional start m reads, if_neg long]
  by_cases within : range.contains m <;> simp [within]

theorem prefixed_stands_iff (x : Char) (is : x = 'x' ∨ x = 'X') (hexDigits : Text) (n : Nat)
    (read : numeral 16 hexDigits = some n) (within : range.contains n) :
    BeginningsStand range useHexMode allowOptional ('0' :: x :: hexDigits) ↔
      (useHexMode = true ∨ range.contains 0) ∧ StartsFrom 16 range.min hexDigits := by
  have inner (q : Text) : hexPart ('0' :: x :: q) = some q := by rw [hexPart, if_pos is]
  have reads (q : Text) (m : Nat) (here : numeral 16 q = some m) : reading type useHexMode ('0' :: x :: q) = some (m : Int) := by
    rw [reading, inner]
    exact integer_plain 16 q m here type.signed
  have zero_stands : verdict range useHexMode allowOptional ['0'] ≠ .invalid ↔ useHexMode = true ∨ range.contains 0 := by
    have here : reading type useHexMode ['0'] = some 0 := by
      have zero : ∀ base ∈ [10, 16], numeral base ['0'] = some 0 := by decide
      rw [reading]
      exact integer_plain _ _ 0 (by cases useHexMode <;> simp [zero]) type.signed
    rw [verdict_read range useHexMode allowOptional _ 0 here]
    cases useHexMode with
    | true => simp
    | false => by_cases holds : range.contains 0 <;> simp [holds]
  rw [← starts_from_iff 16 (by decide) range.min hexDigits n read]
  constructor
  · intro stands
    refine ⟨zero_stands.mp (stands ['0'] ⟨x :: hexDigits, rfl⟩ (by simp)), fun q starts some apart m here => ?_⟩
    have judged := stands ('0' :: x :: q) (by simpa using starts) (by simpa using apart)
    exact ((read_stands_iff range useHexMode allowOptional _ m (reads q m here) (by simp)).mp judged).1
  · rintro ⟨zero, first⟩ start starts apart
    obtain rfl | ⟨t, rfl, afterFirst⟩ := List.prefix_cons_iff.mp starts
    · exact empty_stands range useHexMode allowOptional
    obtain rfl | ⟨q, rfl, afterPrefix⟩ := List.prefix_cons_iff.mp afterFirst
    · exact zero_stands.mpr zero
    by_cases some : q = []
    · subst some
      simp [verdict, inner]
    · obtain ⟨rest, rfl⟩ := afterPrefix
      obtain ⟨m, small, here⟩ := numeral_prefix 16 (by decide) q rest n some read
      refine (read_stands_iff range useHexMode allowOptional _ m (reads q m here) (by simp)).mpr ⟨?_, ?_⟩
      · exact first q ⟨rest, rfl⟩ some (by simpa using apart) m here
      · exact Int.le_trans (Int.ofNat_le.mpr small) within.2

theorem reading_plain (digits : Text) (n : Nat) (read : numeral (if useHexMode then 16 else 10) digits = some n) :
    reading type useHexMode digits = some (n : Int) := by
  rw [reading, hex_part_plain _ digits n read]
  exact integer_plain _ digits n read type.signed

theorem numeral_zero (digits : Text) (some : digits ≠ []) : numeral 16 ('0' :: digits) = numeral 16 digits := by
  have zero : digit 16 '0' = .some 0 := by decide
  rw [numeral, numeral, if_neg (by simp), if_neg some, digitsAfter, zero, Option.bind_some]

-- Without a zero that is still to be completed all beginnings are judged by their numbers.
theorem digits_stand_iff (digits : Text) (n : Nat) (read : numeral (if useHexMode then 16 else 10) digits = some n)
    (within : range.contains n) (long : ∀ q, q <+: digits → ¬ (useHexMode = true ∧ q = ['0'])) :
    BeginningsStand range useHexMode allowOptional digits ↔ StartsFrom (if useHexMode then 16 else 10) range.min digits := by
  have pos : 0 < if useHexMode then 16 else 10 := by cases useHexMode <;> decide
  rw [← starts_from_iff _ pos range.min digits n read]
  constructor
  · intro stands q starts some apart m here
    have judged := stands q starts apart
    exact ((read_stands_iff range useHexMode allowOptional q m (reading_plain useHexMode q m here) (long q starts)).mp judged).1
  · intro first start starts apart
    by_cases some : start = []
    · exact some ▸ empty_stands range useHexMode allowOptional
    · obtain ⟨rest, rfl⟩ := starts
      obtain ⟨m, small, here⟩ := numeral_prefix _ pos start rest n some read
      refine (read_stands_iff range useHexMode allowOptional _ m (reading_plain useHexMode start m here)
        (long start ⟨rest, rfl⟩)).mpr ⟨first start ⟨rest, rfl⟩ some apart m here, ?_⟩
      exact Int.le_trans (Int.ofNat_le.mpr small) within.2

theorem zero_stands_iff (digits : Text) (n : Nat) (read : numeral 16 ('0' :: digits) = some n) (some : digits ≠ [])
    (within : range.contains n) :
    BeginningsStand range true allowOptional ('0' :: digits) ↔ StartsFrom 16 range.min digits := by
  rw [numeral_zero digits some] at read
  rw [← starts_from_iff 16 (by decide) range.min digits n read]
  have reads (q : Text) (m : Nat) (filled : q ≠ []) (here : numeral 16 q = .some m) :
      reading type true ('0' :: q) = .some (m : Int) :=
    reading_plain true _ m ((numeral_zero q filled).trans here)
  constructor
  · intro stands q starts filled apart m here
    have judged := stands ('0' :: q) (by simpa using starts) (by simpa using apart)
    exact ((read_stands_iff range true allowOptional _ m (reads q m filled here) (by simp [filled])).mp judged).1
  · rintro first start starts apart
    obtain rfl | ⟨q, rfl, afterZero⟩ := List.prefix_cons_iff.mp starts
    · exact empty_stands range true allowOptional
    by_cases filled : q = []
    · subst filled
      simp [verdict, hexPart]
    · obtain ⟨rest, rfl⟩ := afterZero
      obtain ⟨m, small, here⟩ := numeral_prefix 16 (by decide) q rest n filled read
      refine (read_stands_iff range true allowOptional _ m (reads q m filled here) (by simp [filled])).mpr ⟨?_, ?_⟩
      · exact first q ⟨rest, rfl⟩ filled (by simpa using apart) m here
      · exact Int.le_trans (Int.ofNat_le.mpr small) within.2

theorem plain_stands_iff (digits : Text) (n : Nat) (read : numeral (if useHexMode then 16 else 10) digits = some n)
    (within : range.contains n) (long : ¬ (useHexMode = true ∧ digits = ['0'])) :
    BeginningsStand range useHexMode allowOptional digits ↔
      StartsFrom (if useHexMode then 16 else 10) range.min (afterZero useHexMode digits) := by
  cases useHexMode with
  | false =>
      have same : afterZero false digits = digits := by
        rw [afterZero.eq_def]
        split <;> rfl
      rw [same]
      exact digits_stand_iff range false allowOptional digits n read within (by simp)
  | true =>
      by_cases zero : ∃ t, digits = '0' :: t
      · obtain ⟨t, rfl⟩ := zero
        exact zero_stands_iff range allowOptional t n read (by simpa using long) within
      · have same : afterZero true digits = digits := by
          rw [afterZero.eq_def]
          split
          · next t => exact absurd ⟨t, rfl⟩ zero
          · rfl
        rw [same]
        refine digits_stand_iff range true allowOptional digits n read within ?_
        rintro q ⟨rest, rfl⟩ ⟨-, rfl⟩
        exact zero ⟨rest, rfl⟩

theorem minus_stands_iff (digits : Text) (n : Nat) (read : numeral 10 digits = some n) (signed : type.signed = true)
    (within : range.contains (-n)) :
    BeginningsStand range false allowOptional ('-' :: digits) ↔ range.min < 0 ∧ StartsFrom 10 (-range.max) digits := by
  have reads (q : Text) (m : Nat) (here : numeral 10 q = some m) : reading type false ('-' :: q) = some (-(m : Int)) := by
    rw [reading, hex_part_minus, signed]
    exact integer_minus 10 q m here
  have minus_stands : verdict range false allowOptional ['-'] ≠ .invalid ↔ range.min < 0 := by
    have nothing : integer 10 type.signed ['-'] = none := by cases type.signed <;> decide
    by_cases negative : range.min < 0 <;> simp [verdict, negative, hex_part_minus, reading, nothing, accepts]
  rw [← starts_from_iff 10 (by decide) (-range.max) digits n read]
  constructor
  · intro stands
    refine ⟨minus_stands.mp (stands ['-'] ⟨digits, rfl⟩ ?_), fun q starts some apart m here => ?_⟩
    · have filled := (numeral_digits 10 n digits read).1
      simp [filled]
    · have judged := stands ('-' :: q) (by simpa using starts) (by simpa using apart)
      have inside := ((read_stands_iff range false allowOptional _ _ (reads q m here) (by simp)).mp judged).2
      omega
  · rintro ⟨negative, first⟩ start starts apart
    obtain rfl | ⟨q, rfl, afterMinus⟩ := List.prefix_cons_iff.mp starts
    · exact empty_stands range false allowOptional
    by_cases some : q = []
    · subst some
      exact minus_stands.mpr negative
    · obtain ⟨rest, rfl⟩ := afterMinus
      obtain ⟨m, small, here⟩ := numeral_prefix 10 (by decide) q rest n some read
      have large := first q ⟨rest, rfl⟩ some (by simpa using apart) m here
      have low := within.1
      refine (read_stands_iff range false allowOptional _ _ (reads q m here) (by simp)).mpr ⟨?_, ?_⟩ <;> omega

theorem unsigned_minus (base : Nat) (digits : Text) : integer base false ('-' :: digits) = none := by
  have kept : ∃ rest, trimmed ('-' :: digits) = '-' :: rest := by
    have first : ('-' :: digits).dropWhile Frontend.isSpace = '-' :: digits := List.dropWhile_cons_of_neg (by decide)
    rw [trimmed, first, List.reverse_cons, List.dropWhile_append]
    split
    · exact ⟨[], rfl⟩
    · exact ⟨_, List.reverse_append⟩
  obtain ⟨rest, is⟩ := kept
  simp only [integer, is, Bool.false_eq_true, if_false]

-- In hex mode nothing waits for what follows a minus sign.
theorem hex_minus_falls (digits : Text) (some : digits ≠ []) : ¬ BeginningsStand range true allowOptional ('-' :: digits) := by
  intro stands
  have nothing : integer 16 type.signed ['-'] = none := by cases type.signed <;> decide
  refine stands ['-'] ⟨digits, rfl⟩ (by simp [some]) ?_
  simp [verdict, hex_part_minus, reading, nothing, accepts]

-- A text that is accepted is typable exactly when it denotes its number and its beginnings stand.
theorem typable_iff (input : Text) (n : Int) (reads : reading type useHexMode input = some n) (within : range.contains n)
    (long : ¬ (useHexMode = true ∧ input = ['0'])) :
    typable range useHexMode input ↔
      denoted type useHexMode input = some n ∧ BeginningsStand range useHexMode allowOptional input := by
  have is (m : Int) (denotes : denoted type useHexMode input = some m) : m = n :=
    Option.some.inj ((denoted_reading type useHexMode input m denotes).symm.trans reads)
  cases part : hexPart input with
  | some hexDigits =>
      obtain ⟨x, lower, rfl⟩ := hex_part_some _ _ part
      simp only [typable, denoted, part] at is ⊢
      cases read : numeral 16 hexDigits with
      | none => simp
      | some m =>
          have same := is m (by rw [read, Option.map_some])
          rw [Option.map_some, same, prefixed_stands_iff range useHexMode allowOptional x lower hexDigits m read (same ▸ within)]
          simp
  | none =>
      by_cases minus : ∃ digits, input = '-' :: digits
      · obtain ⟨digits, rfl⟩ := minus
        simp only [typable, denoted, part] at is ⊢
        cases signed : type.signed with
        | false =>
            rw [reading, part, signed] at reads
            simp only [unsigned_minus] at reads
            cases reads
        | true =>
            cases useHexMode with
            | true =>
                refine iff_of_false (by simp) ?_
                rintro ⟨denotes, stands⟩
                obtain ⟨m, read, -⟩ := Option.map_eq_some_iff.mp denotes
                exact hex_minus_falls range allowOptional digits (numeral_digits 16 m digits read).1 stands
            | false =>
                cases read : numeral 10 digits with
                | none => simp [read]
                | some m =>
                    have same := is (-m) (by simp [signed, read])
                    rw [minus_stands_iff range allowOptional digits m read signed (same ▸ within)]
                    simp [read, same]
      · have plain : typable range useHexMode input ↔ numeral (if useHexMode then 16 else 10) input ≠ none ∧
            StartsFrom (if useHexMode then 16 else 10) range.min (afterZero useHexMode input) := by
          rw [typable.eq_def]
          split
          · next there => cases part.symm.trans there
          · next digits _ => exact absurd ⟨digits, rfl⟩ minus
          · rfl
        have number : denoted type useHexMode input =
            (numeral (if useHexMode then 16 else 10) input).map fun (m : Nat) => (m : Int) := by
          rw [denoted.eq_def]
          split
          · next there => cases part.symm.trans there
          · next digits _ => exact absurd ⟨digits, rfl⟩ minus
          · rfl
        rw [plain, number]
        cases read : numeral (if useHexMode then 16 else 10) input with
        | none => simp
        | some m =>
            have same := is m (by rw [number, read, Option.map_some])
            rw [Option.map_some, same, plain_stands_iff range useHexMode allowOptional input m read (same ▸ within) long]
            simp

end Beginnings

-- Each text that is accepted as a number must be typable, and nothing more is needed.
theorem spin_box_typed_iff {type : IntegerType} (range : Range type) (position : Int) (useHexMode allowOptional : Bool)
    (last input : Text) : Typed range position useHexMode allowOptional last input ↔
      (accepts range (reading type useHexMode input) = true → ¬ (useHexMode = true ∧ input = ['0']) →
        typable range useHexMode input) := by
  have acceptable_iff := verdict_acceptable_iff range useHexMode allowOptional input
  constructor
  · intro typed accepted long
    obtain ⟨n, reads, within⟩ := (accepts_iff range _).mp accepted
    have acceptable := acceptable_iff.mpr (.inr ⟨long, n, reads, within⟩)
    have state := (validate_state range input position useHexMode allowOptional last).trans acceptable
    obtain ⟨empty, -⟩ | ⟨-, m, denotes, -⟩ := typed.exact.mp state
    · exact absurd empty (reading_special useHexMode input n reads).1
    · have same : m = n := Option.some.inj ((denoted_reading type useHexMode input m denotes).symm.trans reads)
      refine (typable_iff range useHexMode allowOptional input n reads within long).mpr ⟨same ▸ denotes, ?_⟩
      intro start starts apart
      rw [← validate_state range start position useHexMode allowOptional last]
      exact typed.beginnings state start starts apart position last
  · intro typed
    have denotes (long : ¬ (useHexMode = true ∧ input = ['0'])) (n : Int) (reads : reading type useHexMode input = some n)
        (within : range.contains n) :=
      (typable_iff range useHexMode allowOptional input n reads within long).mp
        (typed ((accepts_iff range _).mpr ⟨n, reads, within⟩) long)
    refine ⟨?_, fun acceptable start starts apart place old => ?_, fun acceptable => ?_⟩
    · rw [validate_state, acceptable_iff]
      refine or_congr_right (and_congr_right fun long => ⟨?_, ?_⟩)
      · rintro ⟨n, reads, within⟩
        exact ⟨n, (denotes long n reads within).1, within⟩
      · rintro ⟨n, denoted, within⟩
        exact ⟨n, denoted_reading type useHexMode input n denoted, within⟩
    · rw [validate_state] at acceptable ⊢
      obtain ⟨rfl, -⟩ | ⟨long, n, reads, within⟩ := acceptable_iff.mp acceptable
      · exact absurd (List.prefix_nil.mp starts) apart
      · exact (denotes long n reads within).2 start starts apart
    · have made := validate_acceptable range useHexMode allowOptional input position last acceptable
      rw [made]
      rw [validate_state] at acceptable
      obtain ⟨again, same⟩ := completed_again range useHexMode allowOptional input acceptable
      intro text place old
      have state : (validateSpinBoxInput range text place useHexMode allowOptional old).result.state = .acceptable :=
        (validate_state range text place useHexMode allowOptional old).trans again
      refine ⟨state, ?_⟩
      rw [validate_acceptable range useHexMode allowOptional text place old state]
      exact same

-- A second digit that cannot be reached, and a sign that is accepted without denoting anything.
def tenToTwenty : Range .uint32 := ⟨10, 20, by decide, by decide⟩

theorem spin_box_not_typed :
    ¬ Typed tenToTwenty 2 false false [] "12".toList ∧ ¬ Typed tenToTwenty 3 false false [] "+12".toList := by
  refine ⟨fun typed => ?_, fun typed => ?_⟩
  · exact typed.beginnings (by decide) "1".toList (by decide) (by decide) 1 [] (by decide)
  · exact absurd (typed.exact.mp (by decide)) (by decide)

end RadeonPanel.Modules.InputValidation
