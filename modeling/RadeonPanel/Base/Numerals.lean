import Mathlib.Algebra.Group.Nat.Defs
import Mathlib.Data.List.TakeWhile

set_option autoImplicit false

namespace Numerals

-- White space of the C locale.
def isSpace (c : Char) : Bool := c == ' ' || (9 ≤ c.toNat && c.toNat ≤ 13)

def sign : List Char → Bool × List Char
  | '-' :: rest => (true, rest)
  | '+' :: rest => (false, rest)
  | rest => (false, rest)

def decimal (digits : List Char) : Nat := digits.foldl (fun value digit => 10 * value + (digit.toNat - 48)) 0

inductive Conversion where
  | none
  | tooLarge
  | value (n : UInt64)
deriving DecidableEq, Repr

-- The longest decimal number at the start of a text, its sign taken modulo 2 ^ 64.
def convert (text : List Char) : Conversion :=
  let signed := sign (text.dropWhile isSpace)
  let digits := signed.2.takeWhile Char.isDigit
  if digits.isEmpty then .none
  else if decimal digits < 2 ^ 64 then
    .value (if signed.1 then -UInt64.ofNat (decimal digits) else UInt64.ofNat (decimal digits))
  else .tooLarge

def strtoull (text : List Char) : UInt64 :=
  match convert text with
  | .none => 0
  | .tooLarge => 0xFFFFFFFFFFFFFFFF
  | .value n => n

-- `none` where the standard library throws.
def stoull (text : List Char) : Option UInt64 :=
  match convert text with
  | .value n => some n
  | _ => none

example : strtoull " 1024 KiB".toList = 1024 ∧ strtoull "-1".toList = 0xFFFFFFFFFFFFFFFF ∧ stoull "+".toList = none := by decide

theorem digit_plain (c : Char) (digit : c.isDigit = true) : isSpace c = false ∧ c ≠ '-' ∧ c ≠ '+' := by
  refine ⟨?_, ?_, ?_⟩
  · have bounds : 48 ≤ c.toNat ∧ c.toNat ≤ 57 := by simpa [Char.isDigit, UInt32.le_iff_toNat_le] using digit
    have blank : c ≠ ' ' := by
      rintro rfl
      revert digit
      decide
    simp only [isSpace, Bool.or_eq_false_iff, beq_eq_false_iff_ne, Bool.and_eq_false_iff, decide_eq_false_iff_not]
    exact ⟨blank, .inr (by omega)⟩
  · rintro rfl
    revert digit
    decide
  · rintro rfl
    revert digit
    decide

theorem stoull_digits (text : List Char) (some : text ≠ []) (all : ∀ c ∈ text, c.isDigit = true) :
    stoull text = if decimal text < 2 ^ 64 then .some (UInt64.ofNat (decimal text)) else none := by
  have every : text.takeWhile Char.isDigit = text := List.takeWhile_eq_self_iff.mpr all
  obtain ⟨c, rest, rfl⟩ := List.exists_cons_of_ne_nil some
  obtain ⟨space, minus, plus⟩ := digit_plain c (all c List.mem_cons_self)
  have unsigned : sign ((c :: rest).dropWhile isSpace) = (false, c :: rest) := by
    rw [List.dropWhile_cons_of_neg (by simp [space])]
    unfold sign
    split
    · rename_i same
      exact absurd (List.cons.inj same).1 minus
    · rename_i same
      exact absurd (List.cons.inj same).1 plus
    · rfl
  rw [stoull, convert, unsigned]
  dsimp only
  rw [every]
  by_cases fits : decimal (c :: rest) < 2 ^ 64
  · rw [if_neg (by simp), if_pos fits, if_pos fits]
    rfl
  · rw [if_neg (by simp), if_neg fits, if_neg fits]

section Bases
variable (base : Nat)

-- The value of a digit, in a base of up to sixteen.
def digit (c : Char) : Option Nat :=
  let value :=
    if 48 ≤ c.toNat ∧ c.toNat ≤ 57 then some (c.toNat - 48)
    else if 97 ≤ c.toNat ∧ c.toNat ≤ 102 then some (c.toNat - 87)
    else if 65 ≤ c.toNat ∧ c.toNat ≤ 70 then some (c.toNat - 55)
    else none
  value.filter (· < base)

-- The number that digits make out of the number before them.
def digitsAfter : Nat → List Char → Option Nat
  | value, [] => some value
  | value, c :: rest => (digit base c).bind fun d => digitsAfter (base * value + d) rest

def numeral (text : List Char) : Option Nat := if text = [] then none else digitsAfter base 0 text

theorem digits_append (value : Nat) (a b : List Char) :
    digitsAfter base value (a ++ b) = (digitsAfter base value a).bind fun m => digitsAfter base m b := by
  induction a generalizing value with
  | nil => rfl
  | cons c rest ih =>
      rw [List.cons_append, digitsAfter, digitsAfter, Option.bind_assoc]
      simp only [ih]

theorem digits_le (pos : 0 < base) (value n : Nat) (text : List Char) (read : digitsAfter base value text = some n) :
    value ≤ n := by
  induction text generalizing value with
  | nil => exact Nat.le_of_eq (Option.some.inj read)
  | cons c rest ih =>
      obtain ⟨d, -, later⟩ := Option.bind_eq_some_iff.mp read
      calc value ≤ base * value := Nat.le_mul_of_pos_left value pos
        _ ≤ base * value + d := Nat.le_add_right _ d
        _ ≤ n := ih _ later

theorem digits_all (value n : Nat) (text : List Char) (read : digitsAfter base value text = some n) :
    ∀ c ∈ text, digit base c ≠ none := by
  induction text generalizing value with
  | nil => simp
  | cons c rest ih =>
      obtain ⟨d, here, later⟩ := Option.bind_eq_some_iff.mp read
      exact List.forall_mem_cons.mpr ⟨by simp [here], ih _ later⟩

theorem numeral_digits (n : Nat) (text : List Char) (read : numeral base text = some n) :
    text ≠ [] ∧ ∀ c ∈ text, digit base c ≠ none := by
  obtain ⟨some, digits⟩ := Option.ite_none_left_eq_some.mp read
  exact ⟨some, digits_all base 0 n text digits⟩

-- The beginning of a numeral is a numeral of no larger number.
theorem numeral_prefix (pos : 0 < base) (a b : List Char) (n : Nat) (some : a ≠ []) (read : numeral base (a ++ b) = .some n) :
    ∃ m ≤ n, numeral base a = .some m := by
  rw [numeral, if_neg (by simp [some]), digits_append] at read
  obtain ⟨m, first, rest⟩ := Option.bind_eq_some_iff.mp read
  exact ⟨m, digits_le base pos m n b rest, by rw [numeral, if_neg some, first]⟩

-- The first digit alone is not too small, where it is not the whole.
def StartsFrom (low : Int) (text : List Char) : Prop :=
  text.length ≤ 1 ∨ ∀ d, numeral base (text.take 1) = some d → low ≤ d

-- The first digit decides for all beginnings.
theorem starts_from_iff (pos : 0 < base) (low : Int) (text : List Char) (n : Nat) (read : numeral base text = some n) :
    (∀ q, q <+: text → q ≠ [] → q ≠ text → ∀ m, numeral base q = some m → low ≤ m) ↔ StartsFrom base low text := by
  obtain ⟨nonempty, -⟩ := numeral_digits base n text read
  have filled := List.length_pos_iff.mpr nonempty
  constructor
  · intro each
    by_cases single : text.length ≤ 1
    · exact .inl single
    · refine .inr (each (text.take 1) (List.take_prefix 1 text) ?_ ?_)
      · simp [nonempty]
      · intro whole
        have length := congrArg List.length whole
        rw [List.length_take] at length
        omega
  · rintro starts q ⟨rest, rfl⟩ some apart m here
    have qFilled := List.length_pos_iff.mpr some
    have restFilled : 0 < rest.length := List.length_pos_iff.mpr fun none => apart (by rw [none, List.append_nil])
    obtain single | first := starts
    · rw [List.length_append] at single
      omega
    · rw [← List.take_append_drop 1 q] at here
      obtain ⟨d, small, starting⟩ := numeral_prefix base pos (q.take 1) (q.drop 1) m (by simp [some]) here
      rw [List.take_append_of_le_length qFilled] at first
      exact Int.le_trans (first d starting) (Int.ofNat_le.mpr small)

end Bases

end Numerals
