import RadeonPanel.Base.Postfix
import RadeonPanel.Base.Separators
import RadeonPanel.Spm.DerivedRows

set_option autoImplicit false

namespace RadeonPanel.Spm.ComponentFormula

open Postfix Separated

-- What a token of the grammar denotes, `none` for the operator.
inductive Denotes : List Char → Option Nat → Prop where
  | plus : Denotes ['+'] none
  | index (digits : List Char) (some : digits ≠ []) (all : ∀ c ∈ digits, c.isDigit = true) :
      Denotes digits (.some (Numerals.decimal digits))

-- How the evaluator reads a token, `none` where it refuses it.
def readToken (curToken : List Char) : Option (Option Nat) :=
  if curToken = ['+'] then some none else (Numerals.stoull curToken).map fun i => some i.toNat

section Tokens
variable {text : List Char} {token : Option Nat}

theorem denotes_read (denotes : Denotes text token) (fits : ∀ i, token = some i → i < 2 ^ 64) : readToken text = some token := by
  cases denotes with
  | plus => rfl
  | index _ some all =>
      have plain : text ≠ ['+'] := by
        rintro rfl
        exact absurd (all '+' List.mem_cons_self) (by decide)
      have small := fits _ rfl
      rw [readToken, if_neg plain, Numerals.stoull_digits text some all, if_pos small, Option.map_some, UInt64.toNat_ofNat_of_lt' small]

theorem read_denotes (other : Option Nat) (denotes : Denotes text other) (read : readToken text = some token) :
    Denotes text token := by
  cases denotes with
  | plus =>
      cases read
      exact .plus
  | index _ some all =>
      have plain : text ≠ ['+'] := by
        rintro rfl
        exact absurd (all '+' List.mem_cons_self) (by decide)
      rw [readToken, if_neg plain, Numerals.stoull_digits text some all] at read
      obtain ⟨i, given, rfl⟩ := Option.map_eq_some_iff.mp read
      obtain ⟨small, same⟩ := Option.ite_none_right_eq_some.mp given
      rw [← Option.some.inj same, UInt64.toNat_ofNat_of_lt' small]
      exact .index text some all

end Tokens

section Indices

-- The numbers that are read until the formula is refused are below the number of the values.
def IndicesInside (count : Nat) : Nat → List (List Char) → Prop
  | _, [] => True
  | operands, curToken :: rest =>
      match readToken curToken with
      | none => True
      | some none => 1 < operands → IndicesInside count (operands - 1) rest
      | some (some i) => i < count ∧ IndicesInside count (operands + 1) rest

def Reading (tokens : List (List Char)) (read : List (Option Nat)) : Prop :=
  List.Forall₂ (fun text token => readToken text = some token) tokens read

def Evaluates (tokens : List (List Char)) : Prop := ∃ e : Expression Nat, Reading tokens e.tokens

variable {V : Type} {lookup : Nat → V} {operate : V → V → V} {count : Nat}

theorem inside_step {text : List Char} {token : Option Nat} {rest : List (List Char)} {stack next : List V} (read : readToken text = some token)
    (inside : IndicesInside count stack.length (text :: rest)) (stepped : step lookup operate stack token = some next) :
    (∀ i, token = some i → i < count) ∧ IndicesInside count next.length rest := by
  rw [IndicesInside, read] at inside
  cases token with
  | some i =>
      cases stepped
      exact ⟨fun j same => Option.some.inj same ▸ inside.1, inside.2⟩
  | none =>
      match stack with
      | [] => cases stepped
      | [_] => cases stepped
      | _ :: _ :: _ =>
          cases stepped
          exact ⟨by simp, inside (by simp)⟩

theorem indices_inside (tokens : List (List Char)) (read : List (Option Nat)) (stack final : List V)
    (inside : IndicesInside count stack.length tokens) (reading : Reading tokens read)
    (ran : run lookup operate stack read = some final) (i : Nat) (member : some i ∈ read) : i < count := by
  induction reading generalizing stack with
  | nil => cases member
  | cons first _ ih =>
      obtain ⟨next, stepped, remaining⟩ := Option.bind_eq_some_iff.mp ran
      obtain ⟨here, later⟩ := inside_step first inside stepped
      obtain same | member := List.mem_cons.mp member
      · exact here i same.symm
      · exact ih next later remaining member

theorem evaluated_indices {tokens : List (List Char)} (inside : IndicesInside count 0 tokens) (e : Expression Nat)
    (reading : Reading tokens e.tokens) (i : Nat) (member : some i ∈ e.tokens) : i < count := by
  have ran := (run_single_iff (fun _ => ()) (fun _ _ => ()) e.tokens ()).mpr ⟨e, rfl, rfl⟩
  exact indices_inside tokens e.tokens [] _ inside reading ran i member

end Indices

section Evaluation
variable {Value : Type} (doubles : Doubles Value) (counterValues : List Value)

def counterValue (i : Nat) : Value := counterValues.getD i doubles.zero

variable {doubles counterValues} {text : List Char} {stack : List Value}

theorem push_refused (refused : readToken text = none) : pushToken doubles counterValues stack text = .error .badFormula := by
  by_cases plus : text = ['+']
  · rw [readToken, if_pos plus] at refused
    cases refused
  · rw [readToken, if_neg plus, Option.map_eq_none_iff] at refused
    simp [pushToken, plus, refused]

theorem push_index {i : Nat} (read : readToken text = some (some i)) : pushToken doubles counterValues stack text =
    if i < counterValues.length then .ok (counterValue doubles counterValues i :: stack) else .error .outside := by
  by_cases plus : text = ['+']
  · rw [readToken, if_pos plus] at read
    cases read
  · rw [readToken, if_neg plus] at read
    obtain ⟨n, number, same⟩ := Option.map_eq_some_iff.mp read
    obtain rfl := Option.some.inj same
    by_cases inside : n.toNat < counterValues.length
    · simp [pushToken, plus, number, inside, counterValue]
    · simp [pushToken, plus, number, inside]

theorem push_plus (read : readToken text = some none) : pushToken doubles counterValues stack text =
    (step (counterValue doubles counterValues) doubles.add stack none).elim (.error .badFormula) .ok := by
  have plus : text = ['+'] := by
    by_contra other
    rw [readToken, if_neg other] at read
    obtain ⟨n, _, same⟩ := Option.map_eq_some_iff.mp read
    cases same
  match stack with
  | [] => simp [pushToken, plus, step]
  | [_] => simp [pushToken, plus, step]
  | _ :: _ :: _ => simp [pushToken, plus, step]

theorem fold_outside_iff (tokens : List (List Char)) (stack : List Value) :
    tokens.foldlM (pushToken doubles counterValues) stack ≠ .error .outside ↔
      IndicesInside counterValues.length stack.length tokens := by
  induction tokens generalizing stack with
  | nil => simp [IndicesInside, pure, Except.pure]
  | cons text rest ih =>
      rw [List.foldlM_cons, IndicesInside]
      cases read : readToken text with
      | none => simp [push_refused read, bind, Except.bind]
      | some token =>
          cases token with
          | some i =>
              rw [push_index read]
              by_cases inside : i < counterValues.length
              · rw [if_pos inside]
                exact (ih (counterValue doubles counterValues i :: stack)).trans (and_iff_right inside).symm
              · rw [if_neg inside]
                exact iff_of_false (fun same => same rfl) fun holds => inside holds.1
          | none =>
              rw [push_plus read]
              match stack with
              | [] => simp [step, bind, Except.bind]
              | [_] => simp [step, bind, Except.bind]
              | later :: earlier :: others =>
                  refine (ih (doubles.add later earlier :: others)).trans ?_
                  simp

-- Both machines take a token that is read inside the values alike.
theorem push_step {token : Option Nat} (read : readToken text = some token) (inside : ∀ i, token = some i → i < counterValues.length) :
    pushToken doubles counterValues stack text =
      (step (counterValue doubles counterValues) doubles.add stack token).elim (.error .badFormula) .ok := by
  cases token with
  | none => exact push_plus read
  | some i => rw [push_index read, if_pos (inside i rfl)]; rfl

theorem fold_inside (tokens : List (List Char)) (stack final : List Value)
    (inside : IndicesInside counterValues.length stack.length tokens) :
    tokens.foldlM (pushToken doubles counterValues) stack = .ok final ↔
      ∃ read, Reading tokens read ∧ run (counterValue doubles counterValues) doubles.add stack read = some final := by
  induction tokens generalizing stack with
  | nil =>
      constructor
      · intro done
        cases done
        exact ⟨[], .nil, rfl⟩
      · rintro ⟨_, reading, ran⟩
        cases reading
        cases ran
        rfl
  | cons text rest ih =>
      rw [List.foldlM_cons]
      cases read : readToken text with
      | none =>
          rw [push_refused read]
          refine iff_of_false (by simp [bind, Except.bind]) ?_
          rintro ⟨_, _ | ⟨first, _⟩, _⟩
          rw [read] at first
          cases first
      | some token =>
          cases stepped : step (counterValue doubles counterValues) doubles.add stack token with
          | none =>
              have refused : pushToken doubles counterValues stack text = .error .badFormula := by
                cases token with
                | none => rw [push_plus read, stepped]; rfl
                | some i => cases stepped
              rw [refused]
              refine iff_of_false (by simp [bind, Except.bind]) ?_
              rintro ⟨_, _ | ⟨first, _⟩, ran⟩
              rw [read] at first
              cases first
              rw [run, stepped] at ran
              cases ran
          | some next =>
              obtain ⟨here, later⟩ := inside_step read inside stepped
              rw [push_step read here, stepped]
              refine (ih next later).trans ⟨?_, ?_⟩
              · rintro ⟨others, reading, ran⟩
                exact ⟨token :: others, .cons read reading, by rw [run, stepped]; exact ran⟩
              · rintro ⟨_, _ | ⟨first, reading⟩, ran⟩
                rw [read] at first
                cases first
                rw [run, stepped] at ran
                exact ⟨_, reading, ran⟩

end Evaluation

section Calculation
variable {Value : Type} {doubles : Doubles Value} {counterValues : List Value} {formula : String}

theorem calculate_inside_iff : calculateComponentValue doubles counterValues formula ≠ none ↔
    IndicesInside counterValues.length 0 (formulaTokens formula.toList) := by
  have folded : (formulaTokens formula.toList).foldlM (pushToken doubles counterValues) [] ≠ .error .outside ↔ _ := fold_outside_iff _ []
  refine Iff.trans ?_ folded
  rw [calculateComponentValue]
  split
  · rename_i done
    simp [done]
  · rename_i done
    simp [done]
  · rename_i done
    simp [done]
  · rename_i done
    simp [done]

theorem calculate_evaluated (inside : IndicesInside counterValues.length 0 (formulaTokens formula.toList)) (e : Expression Nat)
    (reading : Reading (formulaTokens formula.toList) e.tokens) :
    calculateComponentValue doubles counterValues formula = some (e.value (counterValue doubles counterValues) doubles.add) := by
  have ran := (run_single_iff (counterValue doubles counterValues) doubles.add e.tokens _).mpr ⟨e, rfl, rfl⟩
  rw [calculateComponentValue, (fold_inside (formulaTokens formula.toList) [] _ inside).mpr ⟨e.tokens, reading, ran⟩]

theorem calculate_refused (inside : IndicesInside counterValues.length 0 (formulaTokens formula.toList))
    (refused : ¬ Evaluates (formulaTokens formula.toList)) :
    calculateComponentValue doubles counterValues formula = some doubles.zero := by
  have given : calculateComponentValue doubles counterValues formula ≠ none := calculate_inside_iff.mpr inside
  rw [calculateComponentValue] at given ⊢
  split at given
  · rename_i value done
    obtain ⟨read, reading, ran⟩ := (fold_inside (formulaTokens formula.toList) [] [value] inside).mp done
    obtain ⟨e, rfl, _⟩ := (run_single_iff _ _ read value).mp ran
    exact absurd ⟨e, reading⟩ refused
  · rfl
  · rfl
  · exact absurd rfl given

end Calculation

section Grammar
variable {Value : Type} (doubles : Doubles Value) (counterValues : List Value) (formula : String)

def WellFormed : Prop := ∀ piece ∈ formula.toList.splitOn ',', ∃ token, Denotes piece token

-- The value of a formula of the grammar that has all its indices in the list.
def Means (value : Value) : Prop :=
  ∃ e : Expression Nat, List.Forall₂ Denotes (formula.toList.splitOn ',') e.tokens ∧
    (∀ i, some i ∈ e.tokens → i < counterValues.length) ∧ value = e.value (counterValue doubles counterValues) doubles.add

structure Decides : Prop where
  inside : calculateComponentValue doubles counterValues formula ≠ none
  valued : ∀ value, Means doubles counterValues formula value → calculateComponentValue doubles counterValues formula = some value
  refused : (¬ ∃ value, Means doubles counterValues formula value) →
    calculateComponentValue doubles counterValues formula = some doubles.zero

-- Positive doubles have positive sums.
structure PositiveSums (positive : Value → Prop) (one : Value) : Prop where
  unit : positive one
  sum : ∀ a b, positive a → positive b → positive (doubles.add a b)
  zero : ¬ positive doubles.zero

theorem formula_lines (text : List Char) : formulaTokens text = lines ',' text := by
  induction text with
  | nil => rfl
  | cons c rest ih =>
      rw [formulaTokens, lines, ih]
      cases lines ',' rest <;> rfl

theorem nothing_denotes (token : Option Nat) : ¬ Denotes [] token := by
  intro denotes
  cases denotes with
  | index _ some _ => exact some rfl

-- The grammar has no empty piece, so no comma ends the formula.
theorem formula_pieces (wellFormed : WellFormed formula) : formulaTokens formula.toList = formula.toList.splitOn ',' := by
  have filled : [] ∉ formula.toList.splitOn ',' := by
    intro member
    obtain ⟨token, denotes⟩ := wellFormed [] member
    exact nothing_denotes token denotes
  have some : formula.toList ≠ [] := by
    intro nothing
    rw [nothing, List.splitOn_nil] at filled
    exact filled List.mem_cons_self
  rw [formula_lines, ← lines_split ',' formula.toList some]
  by_cases comma : formula.toList.getLast? = .some ','
  · rw [← lines_split ',' formula.toList some, if_pos comma] at filled
    simp at filled
  · rw [if_neg comma, List.append_nil]

theorem denotes_reading (pieces : List (List Char)) (tokens : List (Option Nat)) (denotes : List.Forall₂ Denotes pieces tokens)
    (fits : ∀ i, some i ∈ tokens → i < 2 ^ 64) : Reading pieces tokens := by
  induction denotes with
  | nil => exact .nil
  | cons first _ ih =>
      refine .cons (denotes_read first fun i same => fits i (same ▸ List.mem_cons_self)) (ih fun i member => ?_)
      exact fits i (List.mem_cons_of_mem _ member)

theorem reading_denotes (pieces : List (List Char)) (tokens : List (Option Nat)) (reading : Reading pieces tokens)
    (wellFormed : ∀ piece ∈ pieces, ∃ token, Denotes piece token) : List.Forall₂ Denotes pieces tokens := by
  induction reading with
  | nil => exact .nil
  | cons first _ ih =>
      obtain ⟨⟨token, denotes⟩, others⟩ := List.forall_mem_cons.mp wellFormed
      exact .cons (read_denotes token denotes first) (ih others)

theorem denotes_pieces {pieces : List (List Char)} {tokens : List (Option Nat)} (denotes : List.Forall₂ Denotes pieces tokens) :
    ∀ piece ∈ pieces, ∃ token, Denotes piece token := by
  induction denotes with
  | nil => simp
  | cons first _ ih => exact List.forall_mem_cons.mpr ⟨⟨_, first⟩, ih⟩

theorem means_well_formed (value : Value) (means : Means doubles counterValues formula value) : WellFormed formula := by
  obtain ⟨e, denotes, _, _⟩ := means
  exact denotes_pieces denotes

end Grammar

section Claim
variable {Value : Type} {doubles : Doubles Value} {counterValues : List Value} {formula : String}

theorem formula_decides (inside : IndicesInside counterValues.length 0 (formulaTokens formula.toList)) (fits : counterValues.length < 2 ^ 64)
    (strict : Evaluates (formulaTokens formula.toList) → WellFormed formula) : Decides doubles counterValues formula where
  inside := calculate_inside_iff.mpr inside
  valued value means := by
    have pieces := formula_pieces formula (means_well_formed doubles counterValues formula value means)
    obtain ⟨e, denotes, indices, rfl⟩ := means
    rw [← pieces] at denotes
    exact calculate_evaluated inside e (denotes_reading _ _ denotes fun i member => Nat.lt_trans (indices i member) fits)
  refused meaningless := by
    by_cases evaluates : Evaluates (formulaTokens formula.toList)
    · have wellFormed := strict evaluates
      obtain ⟨e, reading⟩ := evaluates
      have indices := evaluated_indices inside e reading
      rw [formula_pieces formula wellFormed] at reading
      exact absurd ⟨_, e, reading_denotes _ _ reading wellFormed, indices, rfl⟩ meaningless
    · exact calculate_refused inside evaluates

-- A formula that is evaluated gives of positive values a positive one.
theorem decides_strict {positive : Value → Prop} {one : Value} (sums : PositiveSums doubles positive one)
    (decides : Decides doubles counterValues formula) (values : ∀ value ∈ counterValues, positive value)
    (evaluates : Evaluates (formulaTokens formula.toList)) : WellFormed formula := by
  by_contra bad
  obtain ⟨e, reading⟩ := evaluates
  have inside := calculate_inside_iff.mp decides.inside
  have valued : calculateComponentValue doubles counterValues formula = _ := calculate_evaluated inside e reading
  have meaningless : ¬ ∃ value, Means doubles counterValues formula value := by
    rintro ⟨value, means⟩
    exact bad (means_well_formed doubles counterValues formula value means)
  rw [decides.refused meaningless, Option.some.injEq] at valued
  have grown := value_keeps (counterValue doubles counterValues) doubles.add positive sums.sum e fun i member => by
    have bound := evaluated_indices inside e reading i member
    rw [counterValue, List.getD_eq_getElem?_getD, List.getElem?_eq_getElem bound]
    exact values _ (List.getElem_mem bound)
  exact sums.zero (valued ▸ grown)

end Claim

-- For all lists of one length, of less than the 2 ^ 64 values that a vector can have.
theorem component_formula_decided_iff {Value : Type} (doubles : Doubles Value) (positive : Value → Prop) (one : Value)
    (sums : PositiveSums doubles positive one) (formula : String) (count : Nat) (fits : count < 2 ^ 64) :
    (∀ counterValues : List Value, counterValues.length = count → Decides doubles counterValues formula) ↔
      IndicesInside count 0 (formulaTokens formula.toList) ∧ (Evaluates (formulaTokens formula.toList) → WellFormed formula) := by
  constructor
  · intro decides
    have ones := decides (List.replicate count one) List.length_replicate
    refine ⟨?_, decides_strict sums ones fun value member => List.eq_of_mem_replicate member ▸ sums.unit⟩
    simpa using calculate_inside_iff.mp ones.inside
  · rintro ⟨inside, strict⟩ counterValues rfl
    exact formula_decides inside fits strict

theorem sum_of_two_decided : Decides wholeNumbers [3, 4] "0,1,+" := by
  have sums : PositiveSums wholeNumbers (fun value => 0 < value) 1 :=
    ⟨by decide, fun _ _ first second => Int.add_pos first second, by decide⟩
  have wellFormed : WellFormed "0,1,+" := by
    rw [WellFormed, ← lines_split ',' _ (by decide)]
    intro piece member
    obtain rfl | rfl | rfl : piece = ['0'] ∨ piece = ['1'] ∨ piece = ['+'] := by simpa [lines] using member
    · exact ⟨_, .index ['0'] (by simp) (List.forall_mem_singleton.mpr rfl)⟩
    · exact ⟨_, .index ['1'] (by simp) (List.forall_mem_singleton.mpr rfl)⟩
    · exact ⟨none, .plus⟩
  refine (component_formula_decided_iff wholeNumbers (fun value => 0 < value) 1 sums "0,1,+" 2 (by decide)).mpr ⟨?_, fun _ => wellFormed⟩
    [3, 4] rfl
  exact ⟨by decide, by decide, fun _ => trivial⟩

-- An index that is not in the list is read, and what follows a number is passed over.
theorem index_behind_values : ¬ Decides wholeNumbers [7] "1" ∧ calculateComponentValue wholeNumbers [7] "0 hits" = some 7 :=
  ⟨fun decides => decides.inside (by decide), by decide⟩

end RadeonPanel.Spm.ComponentFormula
