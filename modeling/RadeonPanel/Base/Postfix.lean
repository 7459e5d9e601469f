import Mathlib.Data.List.Basic

set_option autoImplicit false

namespace Postfix

inductive Expression (ι : Type) where
  | operand (i : ι)
  | apply (earlier later : Expression ι)
deriving DecidableEq, Repr

variable {ι : Type}

-- `none` is the operator.
def Expression.tokens : Expression ι → List (Option ι)
  | operand i => [some i]
  | apply earlier later => earlier.tokens ++ (later.tokens ++ [none])

section Machine
variable {V : Type} (lookup : ι → V) (operate : V → V → V)

def Expression.value : Expression ι → V
  | operand i => lookup i
  | apply earlier later => operate later.value earlier.value

-- The stack has the last operand first.
def step (stack : List V) : Option ι → Option (List V)
  | some i => some (lookup i :: stack)
  | none =>
      match stack with
      | later :: earlier :: rest => some (operate later earlier :: rest)
      | _ => none

def run : List V → List (Option ι) → Option (List V)
  | stack, [] => some stack
  | stack, token :: rest => (step lookup operate stack token).bind fun next => run next rest

theorem run_expression (e : Expression ι) (stack : List V) (rest : List (Option ι)) :
    run lookup operate stack (e.tokens ++ rest) = run lookup operate (e.value lookup operate :: stack) rest := by
  induction e generalizing stack rest with
  | operand i => rfl
  | apply earlier later first second =>
      rw [Expression.tokens, List.append_assoc, first, List.append_assoc, second]
      rfl

def allTokens (pushed : List (Expression ι)) : List (Option ι) := pushed.reverse.flatMap Expression.tokens

theorem all_tokens_cons (e : Expression ι) (pushed : List (Expression ι)) : allTokens (e :: pushed) = allTokens pushed ++ e.tokens := by
  simp [allTokens]

-- Whatever is on the stack has been pushed as the value of an expression.
theorem run_pushed (tokens : List (Option ι)) (pushed : List (Expression ι)) (stack : List V)
    (ran : run lookup operate (pushed.map (Expression.value lookup operate)) tokens = some stack) :
    ∃ now : List (Expression ι), allTokens now = allTokens pushed ++ tokens ∧ stack = now.map (Expression.value lookup operate) := by
  induction tokens generalizing pushed with
  | nil => exact ⟨pushed, (List.append_nil _).symm, (Option.some.inj ran).symm⟩
  | cons token rest ih =>
      obtain ⟨next, stepped, remaining⟩ := Option.bind_eq_some_iff.mp ran
      cases token with
      | some i =>
          cases stepped
          obtain ⟨now, tokens, same⟩ := ih (.operand i :: pushed) remaining
          exact ⟨now, by rw [tokens, all_tokens_cons, List.append_assoc]; rfl, same⟩
      | none =>
          match pushed with
          | [] => cases stepped
          | [_] => cases stepped
          | later :: earlier :: others =>
              cases stepped
              obtain ⟨now, tokens, same⟩ := ih (.apply earlier later :: others) remaining
              refine ⟨now, ?_, same⟩
              rw [tokens, all_tokens_cons, all_tokens_cons, all_tokens_cons]
              simp [Expression.tokens]

theorem run_single_iff (tokens : List (Option ι)) (v : V) : run lookup operate [] tokens = some [v] ↔
    ∃ e : Expression ι, e.tokens = tokens ∧ v = e.value lookup operate := by
  constructor
  · intro ran
    obtain ⟨now, pushed, values⟩ := run_pushed lookup operate tokens [] [v] ran
    obtain ⟨e, rfl, single⟩ := List.map_eq_singleton_iff.mp values.symm
    exact ⟨e, by simpa [allTokens] using pushed, single.symm⟩
  · rintro ⟨e, rfl, rfl⟩
    have ran := run_expression lookup operate e [] []
    rwa [List.append_nil] at ran

-- What its operands have and the operation keeps, the value of an expression has.
theorem value_keeps (holds : V → Prop) (keeps : ∀ later earlier, holds later → holds earlier → holds (operate later earlier))
    (e : Expression ι) (operands : ∀ i, some i ∈ e.tokens → holds (lookup i)) : holds (e.value lookup operate) := by
  induction e with
  | operand i => exact operands i List.mem_cons_self
  | apply earlier later first second =>
      have before := first fun i member => operands i (List.mem_append_left _ member)
      have after := second fun i member => operands i (List.mem_append_right _ (List.mem_append_left _ member))
      exact keeps _ _ after before

end Machine

end Postfix
