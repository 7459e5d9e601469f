import RadeonPanel.Base.Runs
import RadeonPanel.Spm.DerivedRows

set_option autoImplicit false

namespace RadeonPanel.Spm

open Interleaving

variable {Value : Type}

-- A database, the helper its queries share, and whether a calculation has failed.
structure Queried (Value : Type) where
  db : RgpSpmDataBase Value
  helper : CounterComponentHeuristicHelper
  calculationFailed : Bool

namespace Queried
variable (s : Queried Value)

def answerDerived (c : Call Value) : Reply Value × Queried Value :=
  match s.db.calculateDerivedCounters c.attempt with
  | (some code, db) => (RgpSpmDataBase.replyFailed code c.query, ⟨db, s.helper, true⟩)
  | (none, db) =>
      let answered := db.replyCalculated s.helper c.query
      (answered.1, ⟨db, answered.2, s.calculationFailed⟩)

def answer (c : Call Value) : Reply Value × Queried Value :=
  match c.query with
  | .getRawCounterInfo k text =>
      let answered := s.db.replyRawCounterInfo k text c.gpa
      (answered.1, { s with db := answered.2 })
  | .getNumberOfCounters => if s.db.supportsSpm then s.answerDerived c else (⟨none, some (.number 0)⟩, s)
  | _ => s.answerDerived c

-- A derived query after a failure calculates anew or reports no success.
def FailureKept : Prop :=
  s.calculationFailed = true → ∀ c : Call Value, c.query.derived = true →
    s.db.derivedCountersCalculated = false ∨ (s.answer c).1.succeeds = false

end Queried

def spmQueries (db : RgpSpmDataBase Value) (helper : CounterComponentHeuristicHelper) : Machine (Queried Value) (Call Value) where
  init := ⟨db, helper, false⟩
  step := fun s c => some (s.answer c).2

-- Whether a counter ends the calculation.
def CounterAnswer.stops (shouldAbort : Bool) : CounterAnswer Value → Bool
  | .failed | .undescribed => true
  | .unsupported => shouldAbort
  | .supported _ _ samples => samples.failed || shouldAbort
  | .notFound | .passedOver => false

-- Whether a counter is among the available ones once the loop has left it.
def CounterAnswer.lists (filterBad isComponentCounter : Bool) : CounterAnswer Value → Bool
  | .supported _ _ samples => !isComponentCounter && (samples.failed || !(filterBad && 0 < samples.badValueCount))
  | _ => false

structure Passage where
  stops : Bool
  lists : Bool
deriving DecidableEq, Repr

def passagesFrom (doubles : Doubles Value) (gpa : Gpa Value) (raw : RawSpmDb) (filterBad : Bool) (shouldAbort : Nat → Bool) (z : Nat)
    (expected : List ExpectedDerivedCounter) : List Passage :=
  (expected.zipIdx z).map fun entry =>
    let answer := answerFor doubles gpa raw entry.2 entry.1.counterInfo.gpaCounterName
    ⟨answer.stops (shouldAbort entry.2), answer.lists filterBad entry.1.isComponentCounter⟩

def RgpSpmDataBase.passages (db : RgpSpmDataBase Value) (a : Attempt Value) : List Passage :=
  passagesFrom db.doubles a.gpa db.raw db.filterBadSpmData a.shouldAbort 0 db.expectedDerivedCounters

-- No counter is listed by the time the calculation stops.
def StopsClean (passages : List Passage) : Prop :=
  ∀ before last after, passages = before ++ last :: after → last.stops = true → (∀ passage ∈ before, passage.stops = false) →
    ∀ passage ∈ before ++ [last], passage.lists = false

def Call.calculatesIn (c : Call Value) (s : Queried Value) : Bool :=
  c.query.derived && (c.query != .getNumberOfCounters || s.db.supportsSpm) && !s.db.derivedCountersCalculated &&
    s.db.calculates && s.db.contextOpen c.attempt

def failsClean (s : Queried Value) (c : Call Value) : Prop := c.calculatesIn s = true → StopsClean (s.db.passages c.attempt)

section Stops
variable {passage : Passage} {passages : List Passage}

theorem stops_clean_here (stops : passage.stops = true) : StopsClean (passage :: passages) ↔ passage.lists = false := by
  constructor
  · intro clean
    exact clean [] passage passages rfl stops nofun passage (List.mem_append_right _ (List.mem_singleton_self _))
  · intro unlisted before last after split _ going other member
    cases before with
    | nil =>
        rw [List.nil_append] at split member
        rw [List.mem_singleton.mp member, ← (List.cons.inj split).1]
        exact unlisted
    | cons first more =>
        have contrary := going first (List.mem_cons_self ..)
        rw [List.cons_append] at split
        rw [← (List.cons.inj split).1, stops] at contrary
        cases contrary

theorem stops_clean_later (goes : passage.stops = false) (stop : ∃ later ∈ passages, later.stops = true) :
    StopsClean (passage :: passages) ↔ passage.lists = false ∧ StopsClean passages := by
  constructor
  · intro clean
    constructor
    · obtain ⟨later, member, stops⟩ := stop
      obtain ⟨last, found⟩ := Option.isSome_iff_exists.mp (List.find?_isSome.mpr ⟨later, member, stops⟩)
      obtain ⟨last_stops, before, after, split, going⟩ := List.find?_eq_some_iff_append.mp found
      refine clean (passage :: before) last after (by rw [split]; rfl) last_stops (fun other inside => ?_) passage (List.mem_cons_self ..)
      rcases List.mem_cons.mp inside with rfl | below
      · exact goes
      · exact Bool.eq_false_iff.mpr (by simpa using going other below)
    · intro before last after split stops going other member
      exact clean (passage :: before) last after (by rw [split]; rfl) stops
        (fun first inside => (List.mem_cons.mp inside).elim (fun same => same ▸ goes) (going first)) other (List.mem_cons_of_mem _ member)
  · rintro ⟨unlisted, clean⟩ before last after split stops going other member
    cases before with
    | nil =>
        rw [List.nil_append] at split
        rw [← (List.cons.inj split).1, goes] at stops
        cases stops
    | cons first more =>
        rw [List.cons_append] at split
        obtain ⟨rfl, tail⟩ := List.cons.inj split
        rcases List.mem_cons.mp member with rfl | below
        · exact unlisted
        · exact clean more last after tail stops (fun next inside => going next (List.mem_cons_of_mem _ inside)) other below

end Stops

section Listing
variable (doubles : Doubles Value) (gpa : Gpa Value) (raw : RawSpmDb) (filterBad : Bool) (timestamps z : Nat)
  (entry : ExpectedDerivedCounter) (w : Work Value)

theorem process_counter_stops (aborts : Bool) (answer : CounterAnswer Value) :
    (processCounter doubles filterBad aborts timestamps z entry w answer).returned.isSome = answer.stops aborts := by
  cases answer with
  | notFound | failed | passedOver | undescribed => rfl
  | unsupported => cases aborts <;> rfl
  | supported counterDesc usage samples =>
      simp only [processCounter, CounterAnswer.stops]
      cases samples.failed <;> cases aborts <;> rfl

theorem process_counter_lists (aborts : Bool) (answer : CounterAnswer Value) :
    (processCounter doubles filterBad aborts timestamps z entry w answer).work.availableDerivedCounters = [] ↔
      w.availableDerivedCounters = [] ∧ answer.lists filterBad entry.isComponentCounter = false := by
  cases answer with
  | notFound | failed | passedOver | undescribed | unsupported => exact ⟨fun none => ⟨none, rfl⟩, And.left⟩
  | supported counterDesc usage samples =>
      simp only [processCounter, CounterAnswer.lists]
      have pushed (info : AvailableCounterInfo) :
          w.availableDerivedCounters ++ [⟨z, info⟩] = [] ↔ w.availableDerivedCounters = [] ∧ true = false :=
        ⟨fun none => absurd none (List.concat_ne_nil _ _), fun both => absurd both.2 (by decide)⟩
      have unlisted : w.availableDerivedCounters = [] ↔ w.availableDerivedCounters = [] ∧ false = false :=
        ⟨fun none => ⟨none, rfl⟩, And.left⟩
      cases entry.isComponentCounter with
      | true =>
          rw [Bool.not_true, Bool.and_false, Bool.false_and]
          cases samples.failed <;> exact unlisted
      | false =>
          rw [Bool.not_false, Bool.and_true]
          cases samples.failed with
          | true => exact pushed _
          | false =>
              cases filterBad && decide (0 < samples.badValueCount) with
              | true =>
                  show (w.availableDerivedCounters ++ [_]).dropLast = [] ↔ _
                  rw [List.dropLast_concat]
                  exact unlisted
              | false => exact pushed _

-- The loop ends early at the first counter that stops it.
theorem process_passages (shouldAbort : Nat → Bool) (expected : List ExpectedDerivedCounter) (z : Nat) (w : Work Value) :
    let ended := processCounters doubles gpa raw filterBad shouldAbort z expected w
    let passages := passagesFrom doubles gpa raw filterBad shouldAbort z expected
    (ended.returned = none → ∀ passage ∈ passages, passage.stops = false) ∧
    (ended.returned ≠ none → (∃ passage ∈ passages, passage.stops = true) ∧
      (ended.work.availableDerivedCounters = [] ↔ w.availableDerivedCounters = [] ∧ StopsClean passages)) := by
  induction expected generalizing z w with
  | nil => exact ⟨fun _ => nofun, fun contrary => absurd rfl contrary⟩
  | cons entry rest ih =>
      simp only [processCounters]
      generalize answered : answerFor doubles gpa raw z entry.counterInfo.gpaCounterName = answer
      have split : passagesFrom doubles gpa raw filterBad shouldAbort z (entry :: rest) =
          ⟨answer.stops (shouldAbort z), answer.lists filterBad entry.isComponentCounter⟩ ::
            passagesFrom doubles gpa raw filterBad shouldAbort (z + 1) rest := by
        rw [← answered]
        rfl
      rw [split]
      have stops := process_counter_stops doubles filterBad raw.numberOfTimestamps.toNat z entry w (shouldAbort z) answer
      have lists := process_counter_lists doubles filterBad raw.numberOfTimestamps.toNat z entry w (shouldAbort z) answer
      generalize processCounter doubles filterBad (shouldAbort z) raw.numberOfTimestamps.toNat z entry w answer = one at stops lists ⊢
      cases going : one.returned with
      | some code =>
          have halts : (Passage.mk (answer.stops (shouldAbort z)) (answer.lists filterBad entry.isComponentCounter)).stops = true := by
            rw [← stops, going]
            rfl
          refine ⟨fun contrary => absurd contrary (Option.some_ne_none code), fun _ => ⟨⟨_, List.mem_cons_self .., halts⟩, ?_⟩⟩
          rw [stops_clean_here halts]
          exact lists
      | none =>
          have goes : (Passage.mk (answer.stops (shouldAbort z)) (answer.lists filterBad entry.isComponentCounter)).stops = false := by
            rw [← stops, going]
            rfl
          obtain ⟨through, halts⟩ := ih (z + 1) one.work
          refine ⟨fun returned => List.forall_mem_cons.mpr ⟨goes, through returned⟩, fun returned => ?_⟩
          obtain ⟨⟨passage, below, stop⟩, later⟩ := halts returned
          refine ⟨⟨passage, List.mem_cons_of_mem _ below, stop⟩, ?_⟩
          rw [stops_clean_later goes ⟨passage, below, stop⟩, ← and_assoc, ← lists]
          exact later

theorem stops_clean_through {passages : List Passage} (through : ∀ passage ∈ passages, passage.stops = false) : StopsClean passages := by
  intro before last after split stops
  have contrary := through last (by rw [split]; exact List.mem_append_right _ (List.mem_cons_self ..))
  rw [stops] at contrary
  cases contrary

end Listing

section Answers
variable {db : RgpSpmDataBase Value} {helper : CounterComponentHeuristicHelper}

theorem empty_fails (empty : db.availableDerivedCounters = []) (q : Query) : (db.replyCalculated helper q).1.succeeds = false := by
  have none_available (k : Nat) : db.availableDerivedCounters[k]? = none := by rw [empty, List.getElem?_nil]
  have no_components (k : Nat) : db.componentsOf k = none := by rw [RgpSpmDataBase.componentsOf, none_available]; rfl
  have no_component (k c : Nat) : db.component k c = none := by rw [RgpSpmDataBase.component, no_components]; rfl
  cases q with
  | getNumberOfCounters => simp [RgpSpmDataBase.replyCalculated, RgpSpmDataBase.replyNumberOfCounters, empty, Reply.succeeds]
  | getCounterInfo k _ | getCounterIdentifier k | getCounterUsageType k =>
      simp [RgpSpmDataBase.replyCalculated, RgpSpmDataBase.replyAvailable, none_available, Reply.failed, Reply.succeeds]
  | getRawCounterInfo => rfl
  | getCounterValue t k => simp [RgpSpmDataBase.replyCalculated, RgpSpmDataBase.replyCounterValue, empty, Reply.failed, Reply.succeeds]
  | getNumberOfCounterComponents k =>
      simp [RgpSpmDataBase.replyCalculated, RgpSpmDataBase.replyNumberOfCounterComponents, no_components, Reply.succeeds]
  | getCounterComponentName k c =>
      simp [RgpSpmDataBase.replyCalculated, RgpSpmDataBase.replyComponentName, no_component, Reply.failed, Reply.succeeds]
  | getCounterComponentDescription k c | getCounterComponentUsageType k c =>
      simp [RgpSpmDataBase.replyCalculated, RgpSpmDataBase.replyComponent, RgpSpmDataBase.availableComponent, no_component,
        Reply.failed, Reply.succeeds]
  | getCounterComponentValue t k c =>
      simp [RgpSpmDataBase.replyCalculated, RgpSpmDataBase.replyComponentValue, none_available, Reply.failed, Reply.succeeds]

variable {s : Queried Value} {c : Call Value}

-- What a query leaves behind: it has not calculated, or it could not open the context,
-- or it has gone through the loop.
inductive Left (s : Queried Value) (c : Call Value) (t : Queried Value) : Prop where
  | unchanged (failed : t.calculationFailed = s.calculationFailed)
      (available : t.db.availableDerivedCounters = s.db.availableDerivedCounters)
      (calculated : s.db.derivedCountersCalculated = true → t.db.derivedCountersCalculated = true)
      (idle : c.calculatesIn s = false)
  | closed (first : s.db.derivedCountersCalculated = false) (failed : t.calculationFailed = true)
      (available : t.db.availableDerivedCounters = s.db.availableDerivedCounters)
      (calculated : t.db.derivedCountersCalculated = true) (idle : c.calculatesIn s = false)
  | looped (first : s.db.derivedCountersCalculated = false)
      (failed : t.calculationFailed = (s.calculationFailed || (s.db.process c.attempt).returned.isSome))
      (available : t.db.availableDerivedCounters = (s.db.process c.attempt).work.availableDerivedCounters)
      (calculated : t.db.derivedCountersCalculated = true) (calculates : c.calculatesIn s = true)

theorem answer_derived_left (derived : c.query.derived = true)
    (asked : (c.query != .getNumberOfCounters || s.db.supportsSpm) = true) : Left s c (s.answerDerived c).2 := by
  have condition : c.calculatesIn s = (!s.db.derivedCountersCalculated && s.db.calculates && s.db.contextOpen c.attempt) := by
    rw [Call.calculatesIn, derived, asked]
    rfl
  cases calculated : s.db.derivedCountersCalculated with
  | true =>
      refine .unchanged ?_ ?_ (fun _ => ?_) (by rw [condition, calculated]; rfl) <;>
        rw [Queried.answerDerived, s.db.calculate_again calculated]
      exact calculated
  | false =>
      cases calculates : s.db.calculates with
      | false =>
          refine .unchanged ?_ ?_ (fun _ => ?_) (by rw [condition, calculates, Bool.and_false]; rfl) <;>
            rw [Queried.answerDerived, s.db.calculate_nothing calculated calculates]
      | true =>
          cases opened : s.db.contextOpen c.attempt with
          | false =>
              refine .closed calculated ?_ ?_ ?_ (by rw [condition, opened, Bool.and_false]) <;>
                rw [Queried.answerDerived, s.db.calculate_closed calculated calculates opened]
          | true =>
              have looping : c.calculatesIn s = true := by
                rw [condition, calculated, calculates, opened]
                rfl
              cases returned : (s.db.process c.attempt).returned with
              | none =>
                  refine .looped calculated ?_ ?_ ?_ looping <;>
                    rw [Queried.answerDerived, s.db.calculate_opened calculated calculates opened, returned]
                  · exact (Bool.or_false _).symm
                  · rfl
                  · rfl
              | some code =>
                  refine .looped calculated ?_ ?_ ?_ looping <;>
                    rw [Queried.answerDerived, s.db.calculate_opened calculated calculates opened, returned]
                  · exact (Bool.or_true _).symm
                  · rfl
                  · rfl

theorem raw_reply_keeps (db : RgpSpmDataBase Value) (k : Nat) (text : RawCounterText) (gpa : Gpa Value) :
    (db.replyRawCounterInfo k text gpa).2.availableDerivedCounters = db.availableDerivedCounters ∧
      (db.replyRawCounterInfo k text gpa).2.derivedCountersCalculated = db.derivedCountersCalculated := by
  rw [RgpSpmDataBase.replyRawCounterInfo]
  cases db.raw.spmCounterInfo[k]? with
  | none => exact ⟨rfl, rfl⟩
  | some info =>
      dsimp only
      split
      · exact ⟨rfl, rfl⟩
      · rw [RgpSpmDataBase.openGPACounterContext]
        cases db.gpaCounterContext <;> cases gpa.opensContext <;> exact ⟨rfl, rfl⟩

theorem answer_left (s : Queried Value) (c : Call Value) : Left s c (s.answer c).2 := by
  have query_of (q : Query) (same : c.query = q) : c.calculatesIn s = (q.derived && (q != .getNumberOfCounters || s.db.supportsSpm) &&
      !s.db.derivedCountersCalculated && s.db.calculates && s.db.contextOpen c.attempt) := by rw [Call.calculatesIn, same]
  cases asked : c.query with
  | getRawCounterInfo k text =>
      rw [Queried.answer, asked]
      obtain ⟨available, calculated⟩ := raw_reply_keeps s.db k text c.gpa
      exact .unchanged rfl available (fun before => calculated.trans before) (query_of _ asked)
  | getNumberOfCounters =>
      rw [Queried.answer, asked]
      cases supported : s.db.supportsSpm with
      | false =>
          refine .unchanged rfl rfl id ?_
          rw [query_of _ asked, supported]
          rfl
      | true => exact answer_derived_left (by rw [asked]; rfl) (by rw [supported, Bool.or_true])
  | getCounterInfo | getCounterIdentifier | getCounterUsageType | getCounterValue | getNumberOfCounterComponents
  | getCounterComponentName | getCounterComponentDescription | getCounterComponentUsageType | getCounterComponentValue =>
      rw [Queried.answer, asked]
      exact answer_derived_left (by rw [asked]; rfl) (by rw [asked]; rfl)

theorem answer_again {q : Query} (derived : q.derived = true) (asked : c.query = q) (calculated : s.db.derivedCountersCalculated = true) :
    (s.answer c).1 = (s.db.replyCalculated s.helper q).1 ∨ (s.answer c).1 = ⟨none, some (.number 0)⟩ := by
  have again : (s.answerDerived c).1 = (s.db.replyCalculated s.helper q).1 := by
    rw [Queried.answerDerived, s.db.calculate_again calculated, asked]
  rw [Queried.answer, asked]
  cases q with
  | getRawCounterInfo => cases derived
  | getNumberOfCounters =>
      cases supported : s.db.supportsSpm with
      | false => exact .inr rfl
      | true => exact .inl again
  | getCounterInfo | getCounterIdentifier | getCounterUsageType | getCounterValue | getNumberOfCounterComponents
  | getCounterComponentName | getCounterComponentDescription | getCounterComponentUsageType | getCounterComponentValue => exact .inl again

end Answers

section Kept

structure Recorded (s : Queried Value) : Prop where
  calculated : s.calculationFailed = true → s.db.derivedCountersCalculated = true
  empty : s.db.derivedCountersCalculated = false → s.db.availableDerivedCounters = []

def silentGpa : Gpa Value where
  opensContext := false
  getCounterIndex := fun _ _ => .notFound
  getCounterInfo := fun _ _ => none
  getCounterDescription := fun _ _ => none
  getCounterUsageType := fun _ _ => none
  computeDerivedCounterResult := fun _ _ _ _ => none
  outside := 0

theorem kept_iff_empty {s : Queried Value} (recorded : Recorded s) :
    s.FailureKept ↔ (s.calculationFailed = true → s.db.availableDerivedCounters = []) := by
  constructor
  · intro kept failed
    have calculated := recorded.calculated failed
    rcases kept failed ⟨.getCounterIdentifier 0, silentGpa, fun _ => false⟩ rfl with anew | fails
    · rw [calculated] at anew
      cases anew
    · cases listed : s.db.availableDerivedCounters with
      | nil => rfl
      | cons counter rest =>
          simp only [Queried.answer, Queried.answerDerived, s.db.calculate_again calculated, RgpSpmDataBase.replyCalculated,
            RgpSpmDataBase.replyAvailable, listed, List.getElem?_cons_zero] at fails
          cases fails
  · intro empty failed c derived
    refine .inr ?_
    rcases answer_again derived rfl (recorded.calculated failed) with same | none
    · rw [same]
      exact empty_fails (empty failed) c.query
    · rw [none]
      rfl

theorem answer_recorded {s : Queried Value} (recorded : Recorded s) (c : Call Value) : Recorded (s.answer c).2 := by
  cases answer_left s c with
  | unchanged failed available calculated idle =>
      refine ⟨fun later => calculated (recorded.calculated (failed.symm.trans later)), fun first => ?_⟩
      rw [available]
      refine recorded.empty (Bool.eq_false_iff.mpr fun before => ?_)
      rw [calculated before] at first
      cases first
  | closed first failed available calculated idle =>
      exact ⟨fun _ => calculated, fun contrary => absurd (calculated.symm.trans contrary) (by decide)⟩
  | looped first failed available calculated calculates =>
      exact ⟨fun _ => calculated, fun contrary => absurd (calculated.symm.trans contrary) (by decide)⟩

theorem answer_keeps_iff {s : Queried Value} (recorded : Recorded s) (kept : s.FailureKept) (c : Call Value) :
    (s.answer c).2.FailureKept ↔ failsClean s c := by
  rw [kept_iff_empty (answer_recorded recorded c)]
  have before := (kept_iff_empty recorded).mp kept
  cases answer_left s c with
  | unchanged failed available calculated idle =>
      rw [failed, available]
      exact ⟨fun _ contrary => absurd (idle.symm.trans contrary) (by decide), fun _ => before⟩
  | closed first failed available calculated idle =>
      rw [available]
      exact ⟨fun _ contrary => absurd (idle.symm.trans contrary) (by decide), fun _ _ => recorded.empty first⟩
  | looped first failed available calculated calculates =>
      have unfailed : s.calculationFailed = false := Bool.eq_false_iff.mpr fun contrary =>
        absurd (first.symm.trans (recorded.calculated contrary)) (by decide)
      obtain ⟨through, halts⟩ := process_passages s.db.doubles c.attempt.gpa s.db.raw s.db.filterBadSpmData c.attempt.shouldAbort
        s.db.expectedDerivedCounters 0 s.db.startWork
      rw [failed, unfailed, available, Bool.false_or, failsClean, calculates]
      cases returned : (s.db.process c.attempt).returned with
      | none => exact ⟨fun _ _ => stops_clean_through (through returned), fun _ contrary => absurd contrary (by decide)⟩
      | some code =>
          have stopped : (s.db.process c.attempt).returned ≠ none := by rw [returned]; exact Option.some_ne_none code
          obtain ⟨_, same⟩ := halts stopped
          exact ⟨fun empty _ => (same.mp (empty rfl)).2, fun clean _ => same.mpr ⟨rfl, clean rfl⟩⟩

end Kept

-- A failed calculation is kept along a run exactly if no calculation of the run lists a
-- counter before it stops.
theorem failure_kept_iff (db : RgpSpmDataBase Value) (loaded : db.Loaded) (helper : CounterComponentHeuristicHelper)
    (calls : List (Call Value)) :
    Meets (spmQueries db helper) failsClean (spmQueries db helper).init calls ↔
      Always (spmQueries db helper) Queried.FailureKept (spmQueries db helper).init calls := by
  have start : Recorded (spmQueries db helper).init := by
    cases loaded
    exact ⟨fun contrary => absurd contrary Bool.false_ne_true, fun _ => rfl⟩
  have recorded (s : Queried Value) (reach : Reachable (spmQueries db helper) s) : Recorded s := by
    refine reachable_invariant (spmQueries db helper) Recorded start (fun s c t here next => ?_) s reach
    cases next
    exact answer_recorded here c
  refine keeps_iff_always (spmQueries db helper) failsClean Queried.FailureKept
    (fun contrary => absurd contrary Bool.false_ne_true) (fun s c t reach kept next => ?_) calls
  cases next
  exact answer_keeps_iff (recorded s reach) kept c

def freshHelper : CounterComponentHeuristicHelper := ⟨0, 0, 0, false⟩

def countCounters (gpa : Gpa Int) (shouldAbort : Nat → Bool) : Call Int := ⟨.getNumberOfCounters, gpa, shouldAbort⟩

def queriedTwo : Machine (Queried Int) (Call Int) := spmQueries twoRequested freshHelper

theorem unopened_failure_kept : Always queriedTwo Queried.FailureKept queriedTwo.init
    [countCounters silentGpa fun _ => false, ⟨.getCounterValue 0 0, oneCounterGpa none, fun _ => false⟩] :=
  (failure_kept_iff twoRequested (.intro ..) freshHelper _).mp (by
    intro t next
    cases next
    refine ⟨fun contrary => absurd contrary (by decide), fun t next => ?_⟩
    cases next
    exact ⟨fun contrary => absurd contrary (by decide), trivial⟩)

-- The caller stops the calculation after the first counter; asked once more, the
-- database has one counter.
theorem aborted_calculation_forgotten :
    (queriedTwo.init.answer (countCounters (oneCounterGpa none) fun _ => true)).1 = ⟨none, some (.number abortedNumber)⟩ ∧
    ((queriedTwo.init.answer (countCounters (oneCounterGpa none) fun _ => true)).2.answer
      (countCounters (oneCounterGpa none) fun _ => false)).1 = ⟨none, some (.number 1)⟩ ∧
    ¬ (queriedTwo.init.answer (countCounters (oneCounterGpa none) fun _ => true)).2.FailureKept := by
  refine ⟨by decide, by decide, fun kept => ?_⟩
  have answered := kept (by decide) (countCounters (oneCounterGpa none) fun _ => false) rfl
  exact absurd answered (by decide)

end RadeonPanel.Spm
