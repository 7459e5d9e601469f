import Mathlib.Data.List.Basic

set_option autoImplicit false

namespace Logged

-- A program of calls each of which may fail; the first failure ends it. What has happened
-- until then is in the log, newest first.
def Program (ε α : Type) : Type := List ε → Option α × List ε

variable {ε α β : Type}

instance : Monad (Program ε) where
  pure a := fun log => (some a, log)
  bind p next := fun log =>
    match p log with
    | (some a, later) => next a later
    | (none, later) => (none, later)

def record (event : ε) : Program ε Unit := fun log => (some (), event :: log)

def answer (a : Option α) : Program ε α := fun log => (a, log)

-- How a program ends that is started with the log.
def Ends (p : Program ε α) (log : List ε) (done : α → List ε → Prop) (failed : List ε → Prop) : Prop :=
  match p log with
  | (some a, later) => done a later
  | (none, later) => failed later

section Rules
variable {log : List ε} {done : α → List ε → Prop} {failed : List ε → Prop}

theorem ends_pure (a : α) (holds : done a log) : Ends (pure a) log done failed := holds

theorem ends_bind {p : Program ε β} {next : β → Program ε α}
    (first : Ends p log (fun b later => Ends (next b) later done failed) failed) : Ends (p >>= next) log done failed := by
  unfold Ends at first ⊢
  change match (match p log with | (some b, later) => next b later | (none, later) => (none, later)) with
    | (some a, later) => done a later
    | (none, later) => failed later
  split at first <;> simp_all

theorem ends_record {done : Unit → List ε → Prop} (event : ε) (holds : done () (event :: log)) :
    Ends (record event) log done failed := holds

theorem ends_answer (a : Option α) (given : ∀ value, a = some value → done value log) (refused : a = none → failed log) :
    Ends (answer a) log done failed := by
  cases a with
  | none => exact refused rfl
  | some value => exact given value rfl

end Rules

-- No program takes anything back from the log.
def Grows (p : Program ε α) : Prop := ∀ log, log <:+ (p log).2

theorem grows_pure (a : α) : Grows (pure a : Program ε α) := fun log => List.suffix_refl log

theorem grows_record (event : ε) : Grows (record event) := fun log => List.suffix_cons event log

theorem grows_answer (a : Option α) : Grows (answer a : Program ε α) := fun log => List.suffix_refl log

theorem grows_bind {p : Program ε β} {next : β → Program ε α} (first : Grows p) (rest : ∀ b, Grows (next b)) :
    Grows (p >>= next) := by
  intro log
  have before := first log
  change log <:+ (match p log with | (some b, later) => next b later | (none, later) => (none, later)).2
  split <;> rename_i done
  · rw [done] at before
    exact before.trans (rest _ _)
  · rwa [done] at before

-- What a program gives, and when everything that it records is good.
structure Needs (p : Program ε α) (good : ε → Prop) (value : Option α) (condition : Prop) : Prop where
  gives : ∀ log, (p log).1 = value
  records : ∀ log, (∀ event ∈ (p log).2, good event) ↔ condition ∧ ∀ event ∈ log, good event

section Needs
variable {good : ε → Prop} {condition rest : Prop} {value : Option α}

theorem needs_pure (a : α) : Needs (pure a : Program ε α) good (some a) True :=
  ⟨fun _ => rfl, fun _ => (Iff.of_eq (true_and _)).symm⟩

theorem needs_answer (a : Option α) : Needs (answer a : Program ε α) good a True :=
  ⟨fun _ => rfl, fun _ => (Iff.of_eq (true_and _)).symm⟩

theorem needs_record (event : ε) : Needs (record event) good (some ()) (good event) :=
  ⟨fun _ => rfl, fun _ => List.forall_mem_cons⟩

theorem bind_some {p : Program ε β} (next : β → Program ε α) {b : β} {log : List ε} (given : (p log).1 = some b) :
    (p >>= next) log = next b (p log).2 := by
  change (match p log with | (some b, later) => next b later | (none, later) => (none, later)) = _
  split <;> simp_all

theorem bind_none {p : Program ε β} (next : β → Program ε α) {log : List ε} (given : (p log).1 = none) :
    (p >>= next) log = (none, (p log).2) := by
  change (match p log with | (some b, later) => next b later | (none, later) => (none, later)) = _
  split <;> simp_all

theorem needs_bind {p : Program ε β} {next : β → Program ε α} {b : β} (first : Needs p good (some b) condition)
    (later : Needs (next b) good value rest) : Needs (p >>= next) good value (condition ∧ rest) where
  gives log := by rw [bind_some next (first.gives log), later.gives]
  records log := by rw [bind_some next (first.gives log), later.records, first.records]; tauto

theorem needs_bind_failed {p : Program ε β} (next : β → Program ε α) (first : Needs p good none condition) :
    Needs (p >>= next) good none condition where
  gives log := by rw [bind_none next (first.gives log)]
  records log := by rw [bind_none next (first.gives log), first.records]

theorem needs_congr {p : Program ε α} (first : Needs p good value condition) (same : condition ↔ rest) : Needs p good value rest := by
  rwa [propext same] at first

theorem needs_map {p : Program ε β} {given : Option β} (f : β → α) (first : Needs p good given condition) :
    Needs (p >>= fun b => pure (f b)) good (given.map f) condition := by
  cases given with
  | none => exact needs_bind_failed _ first
  | some b => exact needs_congr (needs_bind first (needs_pure _)) (Iff.of_eq (and_true _))

end Needs

end Logged
