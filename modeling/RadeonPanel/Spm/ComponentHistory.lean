import RadeonPanel.Base.Runs
import RadeonPanel.Spm.DerivedRows

set_option autoImplicit false

namespace RadeonPanel.Spm

open Interleaving

variable {Value : Type}

-- The components of a cache hit counter, as the handler of the counters lists them.
def kRequestsComponent : Nat := 0
def kHitsComponent : Nat := 1
def kMissesComponent : Nat := 2

namespace RgpSpmDataBase
variable (db : RgpSpmDataBase Value)

def HasComponent (timestampIndex counterIndex componentIndex : Nat) : Prop :=
  timestampIndex < db.raw.numberOfTimestamps.toNat ∧ (db.component counterIndex componentIndex).isSome

def clamped (value : Value) : Value := if db.doubles.isNegative value then db.doubles.zero else value

-- A component without regard to the helper, or the requests in its place.
def componentOutput (timestampIndex counterIndex componentIndex : Nat) (overridden : Bool) : Option Value :=
  (db.componentsOf counterIndex).bind fun info =>
    ((info.componentList[if overridden then kRequestsComponent else componentIndex]?).bind fun chosen =>
      db.componentValue info timestampIndex chosen.componentFormula).map db.clamped

def hitsNegative (timestampIndex counterIndex : Nat) : Bool :=
  ((db.componentsOf counterIndex).bind fun info => (info.componentList[kHitsComponent]?).bind fun hits =>
    db.componentValue info timestampIndex hits.componentFormula).any db.doubles.isNegative

def isCacheHit (counterIndex : Nat) : Bool :=
  (db.availableDerivedCounters[counterIndex]?).any fun counter => applyCacheHitCounterHeuristic counter.info.counterInfo.gpaCounterName

-- Where the misses are to be the requests.
def replacesMisses (timestampIndex counterIndex componentIndex : Nat) : Bool :=
  db.isCacheHit counterIndex && componentIndex == kMissesComponent && db.hitsNegative timestampIndex counterIndex

section Reply
variable {db}
variable {t k c : Nat} {helper : CounterComponentHeuristicHelper}

theorem timestamp_valid (bound : t < db.raw.numberOfTimestamps.toNat) :
    ((db.raw.mapTimestamps)[t]?).any MappedTimestamp.timestampIsValid = true := by
  have stamped : t < db.raw.timestamps.length := by rwa [db.raw.timestamped]
  simp [RawSpmDb.mapTimestamps, stamped]

theorem no_component (missing : ¬ db.HasComponent t k c) : db.replyComponentValue t k c helper = (.failed .indexOutOfRange, helper) := by
  rw [replyComponentValue]
  split
  · next bound =>
      split
      · next found => exact absurd ⟨bound, by rw [found]; rfl⟩ missing
      · rfl
  · rfl

theorem component_parts (there : (db.component k c).isSome) : ∃ counter info component, db.availableDerivedCounters[k]? = some counter ∧
    db.componentsOf k = some info ∧ info.componentList[c]? = some component ∧ db.component k c = some component := by
  obtain ⟨component, found⟩ := Option.isSome_iff_exists.mp there
  obtain ⟨info, components, listed⟩ := Option.bind_eq_some_iff.mp found
  obtain ⟨counter, available, -⟩ := Option.bind_eq_some_iff.mp components
  exact ⟨counter, info, component, available, components, listed, found⟩

-- The code stays an error, and the helper decides which component is calculated.
theorem component_reply (there : db.HasComponent t k c) (first : helper.componentIndex = kRequestsComponent) :
    (db.replyComponentValue t k c helper).1 =
      ⟨some .indexOutOfRange, some (.value (db.componentOutput t k c (adjustsNextComponent helper k)))⟩ := by
  obtain ⟨bound, found⟩ := there
  obtain ⟨counter, info, component, available, components, listed, found⟩ := component_parts found
  have chosen : (if adjustsNextComponent helper k then info.componentList[helper.componentIndex]? else some component) =
      info.componentList[if adjustsNextComponent helper k then kRequestsComponent else c]? := by
    rw [first, ← listed]
    split <;> rfl
  rw [replyComponentValue, if_pos bound, available, components, found]
  dsimp only
  rw [if_pos (timestamp_valid bound), chosen, componentOutput, components, Option.bind_some]
  split
  · next outside => rw [outside]; rfl
  · next value inside =>
      rw [inside, Option.map_some, clamped]
      split <;> rfl

theorem helper_first (first : helper.componentIndex = kRequestsComponent) :
    (db.replyComponentValue t k c helper).2.componentIndex = kRequestsComponent := by
  have used : (if adjustsNextComponent helper k then { helper with useHeuristic := false } else helper).componentIndex = kRequestsComponent := by
    split <;> exact first
  by_cases there : db.HasComponent t k c
  · obtain ⟨bound, found⟩ := there
    obtain ⟨counter, info, component, available, components, listed, found⟩ := component_parts found
    rw [replyComponentValue, if_pos bound, available, components, found]
    dsimp only
    rw [if_pos (timestamp_valid bound)]
    split
    · exact used
    · split
      · dsimp only
        split
        · rfl
        · exact used
      · exact used
  · rw [no_component there]
    exact first

-- Negative hits of a cache hit counter set the helper up.
theorem hits_arm (there : db.HasComponent t k kHitsComponent) (idle : adjustsNextComponent helper k = false)
    (cacheHit : db.isCacheHit k = true) (negative : db.hitsNegative t k = true) :
    (db.replyComponentValue t k kHitsComponent helper).2 = ⟨t, k, kRequestsComponent, true⟩ := by
  obtain ⟨bound, found⟩ := there
  obtain ⟨counter, info, component, available, components, listed, found⟩ := component_parts found
  rw [hitsNegative, components, Option.bind_some, listed, Option.bind_some] at negative
  obtain ⟨value, computed, below⟩ := (Option.any_eq_true _ _).mp negative
  rw [isCacheHit, available] at cacheHit
  rw [replyComponentValue, if_pos bound, available, components, found]
  dsimp only
  rw [if_pos (timestamp_valid bound), idle, if_neg Bool.false_ne_true, Option.bind_some, computed]
  dsimp only
  rw [if_pos below, if_pos (by rw [show applyCacheHitCounterHeuristic counter.info.counterInfo.gpaCounterName = true from cacheHit]; rfl)]
  rfl

-- The next call for a counter of that index gets its requests, at any timestamp of any database.
theorem next_overridden {other : RgpSpmDataBase Value} {later : Nat} (there : db.HasComponent t k kHitsComponent)
    (idle : adjustsNextComponent helper k = false) (cacheHit : db.isCacheHit k = true) (negative : db.hitsNegative t k = true)
    (late : t ≠ 0) (next : other.HasComponent later k c) :
    (other.replyComponentValue later k c (db.replyComponentValue t k kHitsComponent helper).2).1 =
      ⟨some .indexOutOfRange, some (.value (other.componentOutput later k c true))⟩ := by
  have adjusts : adjustsNextComponent ⟨t, k, kRequestsComponent, true⟩ k = true := by simpa [adjustsNextComponent] using late
  rw [hits_arm there idle cacheHit negative, component_reply next rfl, adjusts]

end Reply

end RgpSpmDataBase

-- GetCounterComponentValue of one of the databases of the process.
structure ComponentCall (Value : Type) where
  database : Nat
  timestampIndex : Nat
  counterIndex : Nat
  componentIndex : Nat
  derived : Bool
  gpa : Gpa Value

def ComponentCall.attempt (c : ComponentCall Value) : Attempt Value := ⟨c.gpa, fun _ => false⟩

-- All databases share the helper.
structure Databases (Value : Type) where
  databases : Nat → RgpSpmDataBase Value
  helper : CounterComponentHeuristicHelper

namespace Databases
variable (s : Databases Value) (c : ComponentCall Value)

def calculated : Option RgpErrorCode × RgpSpmDataBase Value := (s.databases c.database).calculateDerivedCounters c.attempt

def getCounterComponentValue : Reply Value × Databases Value :=
  if c.derived then
    match s.calculated c with
    | (some code, db) => (.failed code, { s with databases := Function.update s.databases c.database db })
    | (none, db) =>
        let answered := db.replyComponentValue c.timestampIndex c.counterIndex c.componentIndex s.helper
        (answered.1, ⟨Function.update s.databases c.database db, answered.2⟩)
  else (⟨none, some (.value (some (s.databases c.database).doubles.zero))⟩, s)

def HasComponent : Prop := (s.calculated c).2.HasComponent c.timestampIndex c.counterIndex c.componentIndex

-- A hardware counter has no components that an index could be out of.
def InRange : Prop := c.derived = true → s.HasComponent c

-- What the database and the indices alone say.
def expectedValue : Option Value :=
  if c.derived then
    (s.calculated c).2.componentOutput c.timestampIndex c.counterIndex c.componentIndex
      ((s.calculated c).2.replacesMisses c.timestampIndex c.counterIndex c.componentIndex)
  else some (s.databases c.database).doubles.zero

def YieldsExpected : Prop := ∀ output, (s.getCounterComponentValue c).1.output = some output → output = .value (s.expectedValue c)

structure AnswersExactly : Prop where
  succeeds : (s.getCounterComponentValue c).1.errorCode = none ↔ s.InRange c
  yields : s.YieldsExpected c

def OutOfRange : Prop := c.derived = true → ¬ s.HasComponent c

-- The helper overrides the component exactly where the misses are to be replaced, or the
-- component has the value of the requests there.
def HelperFits : Prop := c.derived = true → (s.calculated c).1 = none → s.HasComponent c →
  RgpSpmDataBase.adjustsNextComponent s.helper c.counterIndex =
      (s.calculated c).2.replacesMisses c.timestampIndex c.counterIndex c.componentIndex ∨
    (s.calculated c).2.componentOutput c.timestampIndex c.counterIndex c.componentIndex true =
      (s.calculated c).2.componentOutput c.timestampIndex c.counterIndex c.componentIndex false

end Databases

-- The helper as the process starts.
def counterComponentHeuristicHelper : CounterComponentHeuristicHelper := ⟨0, 0, 0, false⟩

def componentQueries (databases : Nat → RgpSpmDataBase Value) : Machine (Databases Value) (ComponentCall Value) where
  init := ⟨databases, counterComponentHeuristicHelper⟩
  step := fun s c => some (s.getCounterComponentValue c).2

section Answers
variable {s : Databases Value} {c : ComponentCall Value}

theorem hardware_answer (hardware : c.derived = false) :
    s.getCounterComponentValue c = (⟨none, some (.value (some (s.databases c.database).doubles.zero))⟩, s) := by
  rw [Databases.getCounterComponentValue, hardware]
  rfl

theorem failed_answer {code : RgpErrorCode} (derived : c.derived = true) (failed : (s.calculated c).1 = some code) :
    (s.getCounterComponentValue c).1 = .failed code ∧ (s.getCounterComponentValue c).2.helper = s.helper := by
  rw [Databases.getCounterComponentValue, if_pos derived]
  split
  · next other db calculated =>
      rw [calculated] at failed
      obtain rfl := Option.some.inj failed
      exact ⟨rfl, rfl⟩
  · next db calculated =>
      rw [calculated] at failed
      cases failed

theorem derived_answer (derived : c.derived = true) (ok : (s.calculated c).1 = none) :
    (s.getCounterComponentValue c).1 =
        ((s.calculated c).2.replyComponentValue c.timestampIndex c.counterIndex c.componentIndex s.helper).1 ∧
      (s.getCounterComponentValue c).2.helper =
        ((s.calculated c).2.replyComponentValue c.timestampIndex c.counterIndex c.componentIndex s.helper).2 := by
  rw [Databases.getCounterComponentValue, if_pos derived]
  split
  · next code db calculated =>
      rw [calculated] at ok
      cases ok
  · next db calculated =>
      rw [calculated]
      exact ⟨rfl, rfl⟩

theorem derived_fails (derived : c.derived = true) (first : s.helper.componentIndex = kRequestsComponent) :
    (s.getCounterComponentValue c).1.errorCode ≠ none := by
  cases calculated : (s.calculated c).1 with
  | some code =>
      rw [(failed_answer derived calculated).1]
      exact Option.some_ne_none code
  | none =>
      rw [(derived_answer derived calculated).1]
      by_cases there : s.HasComponent c
      · rw [RgpSpmDataBase.component_reply there first]
        exact Option.some_ne_none _
      · rw [RgpSpmDataBase.no_component there]
        exact Option.some_ne_none _

theorem helper_first_kept (first : s.helper.componentIndex = kRequestsComponent) :
    (s.getCounterComponentValue c).2.helper.componentIndex = kRequestsComponent := by
  cases derived : c.derived with
  | false =>
      rw [hardware_answer derived]
      exact first
  | true =>
      cases calculated : (s.calculated c).1 with
      | some code =>
          rw [(failed_answer derived calculated).2]
          exact first
      | none =>
          rw [(derived_answer derived calculated).2]
          exact RgpSpmDataBase.helper_first first

theorem outputs_agree (db : RgpSpmDataBase Value) (t k c : Nat) (adjusts replaces : Bool) :
    db.componentOutput t k c adjusts = db.componentOutput t k c replaces ↔
      adjusts = replaces ∨ db.componentOutput t k c true = db.componentOutput t k c false := by
  cases adjusts with
  | true =>
      cases replaces with
      | true => simp
      | false => simp
  | false =>
      cases replaces with
      | true => exact ⟨fun same => .inr same.symm, fun either => either.elim (fun contrary => by cases contrary) Eq.symm⟩
      | false => simp

theorem yields_expected_iff (first : s.helper.componentIndex = kRequestsComponent) : s.YieldsExpected c ↔ s.HelperFits c := by
  cases derived : c.derived with
  | false =>
      refine iff_of_true (fun output yields => ?_) fun contrary => absurd (derived.symm.trans contrary) (by decide)
      rw [hardware_answer derived] at yields
      rw [Databases.expectedValue, derived, ← Option.some.inj yields]
      rfl
  | true =>
      cases calculated : (s.calculated c).1 with
      | some code =>
          refine iff_of_true (fun output yields => ?_) fun _ contrary => absurd (calculated.symm.trans contrary) (Option.some_ne_none code)
          rw [(failed_answer derived calculated).1] at yields
          cases yields
      | none =>
          have answered := (derived_answer derived calculated).1
          by_cases there : s.HasComponent c
          · rw [RgpSpmDataBase.component_reply there first] at answered
            have expected : s.expectedValue c = (s.calculated c).2.componentOutput c.timestampIndex c.counterIndex c.componentIndex
                ((s.calculated c).2.replacesMisses c.timestampIndex c.counterIndex c.componentIndex) := by
              rw [Databases.expectedValue, if_pos derived]
            constructor
            · intro yields _ _ _
              rw [← outputs_agree, ← expected]
              exact Output.value.inj (yields _ (by rw [answered]))
            · intro fits output written
              rw [answered] at written
              rw [← Option.some.inj written, expected, (outputs_agree ..).mpr (fits derived calculated there)]
          · rw [RgpSpmDataBase.no_component there] at answered
            refine iff_of_true (fun output yields => ?_) fun _ _ contrary => absurd contrary there
            rw [answered] at yields
            cases yields

theorem answers_exactly_iff (first : s.helper.componentIndex = kRequestsComponent) : s.AnswersExactly c ↔ s.OutOfRange c := by
  constructor
  · rintro ⟨succeeds, -⟩ derived there
    exact derived_fails derived first (succeeds.mpr fun _ => there)
  · intro outside
    refine ⟨?_, (yields_expected_iff first).mpr fun derived _ there => absurd there (outside derived)⟩
    cases derived : c.derived with
    | false =>
        rw [hardware_answer derived]
        exact iff_of_true rfl fun contrary => absurd (derived.symm.trans contrary) (by decide)
    | true => exact iff_of_false (derived_fails derived first) fun there => outside derived (there derived)

end Answers

-- Of a run of calls on any databases: when all of them answer as they are to, and when
-- all values that they yield are right.
theorem component_values_iff (databases : Nat → RgpSpmDataBase Value) (calls : List (ComponentCall Value)) :
    (Meets (componentQueries databases) Databases.AnswersExactly (componentQueries databases).init calls ↔
      Meets (componentQueries databases) Databases.OutOfRange (componentQueries databases).init calls) ∧
    (Meets (componentQueries databases) Databases.YieldsExpected (componentQueries databases).init calls ↔
      Meets (componentQueries databases) Databases.HelperFits (componentQueries databases).init calls) := by
  let first : Databases Value → Prop := fun s => s.helper.componentIndex = kRequestsComponent
  have kept : ∀ s c t, first s → (componentQueries databases).step s c = some t → first t := by
    intro s c t here next
    rw [← Option.some.inj next]
    exact helper_first_kept here
  constructor
  · exact meets_iff (componentQueries databases) _ _ first (fun s c t here _ => answers_exactly_iff here)
      (fun s c t here _ next => kept s c t here next) _ rfl calls
  · exact meets_iff (componentQueries databases) _ _ first (fun s c t here _ => yields_expected_iff here)
      (fun s c t here _ next => kept s c t here next) _ rfl calls

def twoSamples : RawSpmDb :=
  { oneSample with
    numberOfTimestamps := 2
    timestamps := [10, 20]
    counterData := [5, 6]
    timestamped := rfl }

def cacheTrace : RgpSpmDataBase Int :=
  .initialized twoSamples wholeNumbers kRgpGfxLevelMinGfx10 [⟨"L0CacheHit", "L0 cache hit", .l0CacheHit⟩]
    [("L0CacheHit", ⟨[⟨"Requests", "0"⟩, ⟨"Hits", "1"⟩, ⟨"Misses", "2"⟩], ["L0CacheRequestCount", "L0CacheHitCount", "L0CacheMissCount"]⟩)] false

-- Ten requests at both timestamps, seven misses at the first, eleven at the second.
def cacheGpa : Gpa Int :=
  { oneCounterGpa none with
    computeDerivedCounterResult := fun z t _ _ =>
      some (if z = 1 then 10 else if z = 2 then (if t = 0 then 3 else -1) else if z = 3 then (if t = 0 then 7 else 11) else 0) }

def cacheCall (database timestampIndex componentIndex : Nat) : ComponentCall Int :=
  ⟨database, timestampIndex, 0, componentIndex, true, cacheGpa⟩

-- A call within its range fails. Once another database has been asked for its hits at
-- the second timestamp, the misses at the first are the requests.
theorem misses_follow_other_database :
    ¬ Meets (componentQueries fun _ => cacheTrace) Databases.AnswersExactly (componentQueries fun _ => cacheTrace).init [cacheCall 0 0 0] ∧
    ¬ Meets (componentQueries fun _ => cacheTrace) Databases.YieldsExpected (componentQueries fun _ => cacheTrace).init
      [cacheCall 1 1 kHitsComponent, cacheCall 0 0 kMissesComponent] ∧
    ((componentQueries fun _ => cacheTrace).init.getCounterComponentValue (cacheCall 0 0 kMissesComponent)).1.output =
      some (.value (some 7)) := by
  refine ⟨fun meets => ?_, fun meets => ?_, by decide⟩
  · have succeeds := (meets _ rfl).1.succeeds.mpr fun _ => ⟨by decide, by decide⟩
    exact absurd succeeds (by decide)
  · have yields := ((meets _ rfl).2 _ rfl).1 (.value (some 10)) (by decide)
    exact absurd yields (by decide)

end RadeonPanel.Spm
