import Mathlib.Data.List.Chain
import Mathlib.Order.Basic

set_option autoImplicit false

namespace Chains

-- Links that each lead to one next, to none behind the last.
variable {α : Type} (next : α → Option α) (wanted : α → Prop)

inductive OnChain (start : α) : α → Prop where
  | start : OnChain start start
  | next (link later : α) (before : OnChain start link) (leads : next link = some later) : OnChain start later

-- A search from the start: it stops at the first link that is wanted.
inductive Finds : α → α → Prop where
  | here (link : α) (met : wanted link) : Finds link link
  | later (link after found : α) (passed : ¬wanted link) (leads : next link = some after) (rest : Finds after found) :
      Finds link found

variable {next wanted} {start found link : α}

theorem finds_on_chain (finds : Finds next wanted link found) (before : OnChain next start link) :
    OnChain next start found ∧ wanted found := by
  induction finds with
  | here link met => exact ⟨before, met⟩
  | later link after found passed leads rest ih => exact ih (.next link after before leads)

theorem finds_some (chain : OnChain next start link) (met : wanted link) : ∃ found, Finds next wanted start found := by
  -- A link passed without a find hands what is found behind it on to the start.
  suffices passes : (∃ found, Finds next wanted start found) ∨
      ∀ found, Finds next wanted link found → Finds next wanted start found from
    passes.elim id fun hands => ⟨link, hands link (.here link met)⟩
  clear met
  induction chain with
  | start => exact .inr fun _ finds => finds
  | next link later before leads ih =>
      obtain done | hands := ih
      · exact .inl done
      · by_cases here : wanted link
        · exact .inl ⟨link, hands link (.here link here)⟩
        · exact .inr fun found finds => hands found (.later link later found here leads finds)

-- Where the links only lead up, what is found is the lowest.
theorem finds_lowest [Preorder α] (up : ∀ link later, next link = some later → link ≤ later)
    (finds : Finds next wanted start found) (chain : OnChain next start link) (met : wanted link) : found ≤ link := by
  suffices ahead : found ≤ link ∨ Finds next wanted link found by
    obtain below | rest := ahead
    · exact below
    · cases rest with
      | here => exact le_refl _
      | later _ _ _ passed => exact absurd met passed
  clear met
  induction chain with
  | start => exact .inr finds
  | next link later before leads ih =>
      have above := up link later leads
      obtain below | rest := ih
      · exact .inl (le_trans below above)
      · cases rest with
        | here => exact .inl above
        | later _ after _ passed leads' rest =>
            cases leads.symm.trans leads'
            exact .inr rest

section Neighbours
variable {α : Type} {R S S' : α → α → Prop}

theorem chain_congr {start : α} {links : List α} (same : ∀ link later, R link later → (S link later ↔ S' link later))
    (chain : (start :: links).IsChain R) : (start :: links).IsChain S ↔ (start :: links).IsChain S' := by
  induction links generalizing start with
  | nil => exact ⟨fun _ => .singleton start, fun _ => .singleton start⟩
  | cons link links ih =>
      rw [List.isChain_cons_cons] at chain
      rw [List.isChain_cons_cons, List.isChain_cons_cons, same start link chain.1, ih chain.2]

theorem chain_each {kept : α → Prop} {start : α} {links : List α} :
    (start :: links).IsChain (fun _ later => kept later) ↔ ∀ link ∈ links, kept link := by
  induction links generalizing start with
  | nil => exact ⟨fun _ => by simp, fun _ => .singleton start⟩
  | cons link links ih => rw [List.isChain_cons_cons, ih, List.forall_mem_cons]

end Neighbours

end Chains
