import RadeonPanel.Spm.RawSpm

set_option autoImplicit false

namespace RadeonPanel.Spm

inductive CounterUsageType where
  | ratio | percentage | cycles | milliseconds | bytes | items | kilobytes | nanoseconds
deriving DecidableEq, Repr

inductive CounterIdentifier where
  | unknown | instCacheHit | scalarCacheHit | l0CacheHit | l1CacheHit | l2CacheHit
deriving DecidableEq, Repr

structure DerivedCounterInfo where
  gpaCounterName : String
  friendlyCounterName : String
  counterId : CounterIdentifier
deriving DecidableEq, Repr

structure CounterComponent where
  componentName : String
  componentFormula : String
deriving DecidableEq, Repr

structure CounterComponentInfo where
  componentList : List CounterComponent
  derivedCounterList : List String
deriving DecidableEq, Repr

structure AvailableCounterInfo where
  counterInfo : DerivedCounterInfo
  counterDesc : String
  counterUsageType : CounterUsageType
deriving DecidableEq, Repr

structure ExpectedDerivedCounter where
  counterInfo : DerivedCounterInfo
  isComponentCounter : Bool
  isAvailable : Bool
deriving DecidableEq, Repr

-- The doubles of the counter values. Noise is what does not fall below -2.
structure Doubles (Value : Type) where
  zero : Value
  add : Value → Value → Value
  isNegative : Value → Bool
  isBelowNoise : Value → Bool

inductive CounterIndex where
  | notFound
  | failed
  | found (gpaCounterIndex : UInt32)
deriving DecidableEq, Repr

structure GpaCounterInfo where
  isDerivedCounter : Bool
  gpaDerivedCounter : Option (List GpaHwCounter)
deriving DecidableEq, Repr

-- The answers of the counter library during one calculation, `none` for a call that
-- fails. The same question may get another answer later, so each one says where it is
-- asked: for which expected counter, and for a result at which timestamp.
structure Gpa (Value : Type) where
  opensContext : Bool
  getCounterIndex : Nat → String → CounterIndex
  getCounterInfo : Nat → UInt32 → Option GpaCounterInfo
  getCounterDescription : Nat → UInt32 → Option String
  getCounterUsageType : Nat → UInt32 → Option CounterUsageType
  computeDerivedCounterResult : Nat → Nat → UInt32 → List UInt64 → Option Value
  -- What a read outside the counter data finds.
  outside : UInt32

-- A row of values, and the position of the expected counter it was created for.
structure Row (Value : Type) where
  counter : Nat
  values : List Value
deriving DecidableEq, Repr

structure Available where
  counter : Nat
  info : AvailableCounterInfo
deriving DecidableEq, Repr

-- That values computed for `counter` were written to row `row`.
structure RowWrite where
  counter : Nat
  row : Nat
deriving DecidableEq, Repr

structure RgpSpmDataBase (Value : Type) where
  raw : RawSpmDb
  doubles : Doubles Value
  gfxIpLevel : Nat
  filterBadSpmData : Bool
  requestedCounterComponents : List (String × CounterComponentInfo)
  expectedDerivedCounters : List ExpectedDerivedCounter
  availableDerivedCounters : List Available
  availableCounterComponents : List AvailableCounterInfo
  counterValueIsBad : List Bool
  counterValues : List (Row Value)
  derivedCountersCalculated : Bool
  gpaCounterContext : Bool
  writes : List RowWrite

section Requests

-- The components come in the order of an unordered map.
def fillExpectedCounters (requested : List DerivedCounterInfo) (components : List (String × CounterComponentInfo)) :
    List ExpectedDerivedCounter :=
  (requested.map fun info => ⟨info, false, false⟩) ++
    (components.flatMap fun entry => entry.2.derivedCounterList.map fun name => ⟨⟨name, "", .unknown⟩, true, false⟩)

def RgpSpmDataBase.initialized {Value : Type} (raw : RawSpmDb) (doubles : Doubles Value) (gfxIpLevel : Nat)
    (requested : List DerivedCounterInfo) (components : List (String × CounterComponentInfo))
    (filterBadSpmData : Bool) : RgpSpmDataBase Value where
  raw := raw
  doubles := doubles
  gfxIpLevel := gfxIpLevel
  filterBadSpmData := filterBadSpmData
  requestedCounterComponents := components
  expectedDerivedCounters := fillExpectedCounters requested components
  availableDerivedCounters := []
  availableCounterComponents := []
  counterValueIsBad := []
  counterValues := []
  derivedCountersCalculated := false
  gpaCounterContext := false
  writes := []

end Requests

section Samples

structure Samples (Value : Type) where
  values : List Value
  badValueCount : Nat
  goodValueCount : Nat
  failed : Bool

inductive Judgement where
  | good | clamped | bad
deriving DecidableEq, Repr

variable {Value : Type} (doubles : Doubles Value) (gpa : Gpa Value) (db : RawSpmDb)

-- The requests are the first half of the hardware counters of a cache hit counter, the
-- misses the second. Fewer misses than requests wrap around.
def smallDifference (rawCounterValues : List UInt64) : Bool :=
  let halfCounterCount := rawCounterValues.length / 2
  let requests := (rawCounterValues.take halfCounterCount).foldl (· + ·) 0
  let misses := ((rawCounterValues.drop halfCounterCount).take halfCounterCount).foldl (· + ·) 0
  misses - requests < 20

def applyCacheHitCounterHeuristic (name : String) : Bool :=
  name == "L0CacheHit" || name == "L1CacheHit" || name == "L2CacheHit"

def judge (cacheHit : Bool) (rawCounterValues : List UInt64) (value : Value) : Judgement :=
  if doubles.isNegative value then
    if cacheHit then
      if doubles.isBelowNoise value then
        if smallDifference rawCounterValues then .clamped else .bad
      else .clamped
    else .bad
  else .good

def anyValueNonZero (found : List HwSource × Lookup) (rawCounterValues : List UInt64) : Bool :=
  (found.1.zip rawCounterValues).zipIdx.any fun entry =>
    entry.1.1.counterOffset != kNoOffsetForExtraGpaBlocks && (found.2.timingCounterIndex == some entry.2 || entry.1.2 != 0)

-- One or two bad values before the first good one are forgotten.
def Samples.judged (s : Samples Value) (value : Value) : Judgement → Samples Value
  | .good =>
      { s with
        values := s.values ++ [value]
        badValueCount := if s.badValueCount ≤ 2 ∧ s.goodValueCount = 0 then 0 else s.badValueCount
        goodValueCount := s.goodValueCount + 1 }
  | .clamped => { s with values := s.values ++ [doubles.zero] }
  | .bad => { s with values := s.values ++ [value], badValueCount := s.badValueCount + 1 }

def computeSample (z : Nat) (name : String) (gpaCounterIndex : UInt32) (counters : List GpaHwCounter)
    (timestampIndex : Nat) (s : Samples Value) : Samples Value :=
  let rawCounterValues := (db.rawCounterValues counters (UInt32.ofNat timestampIndex)).map fun value => (value.getD gpa.outside).toUInt64
  if anyValueNonZero (db.lookupCounters counters) rawCounterValues then
    match gpa.computeDerivedCounterResult z timestampIndex gpaCounterIndex rawCounterValues with
    | none => { s with failed := true }
    | some value => s.judged doubles value (judge doubles (applyCacheHitCounterHeuristic name) rawCounterValues value)
  else { s with values := s.values ++ [doubles.zero] }

def computeSamples (z : Nat) (name : String) (gpaCounterIndex : UInt32) (counters : List GpaHwCounter) :
    List Nat → Samples Value → Samples Value
  | [], s => s
  | timestampIndex :: rest, s =>
      let next := computeSample doubles gpa db z name gpaCounterIndex counters timestampIndex s
      if next.failed then next else computeSamples z name gpaCounterIndex counters rest next

@[simp] theorem Samples.judged_length (s : Samples Value) (value : Value) (judgement : Judgement) :
    (s.judged doubles value judgement).values.length = s.values.length + 1 := by
  cases judgement <;> simp [Samples.judged]

theorem compute_sample_length {z t : Nat} {name : String} {index : UInt32} {counters : List GpaHwCounter} {s : Samples Value}
    (computed : (computeSample doubles gpa db z name index counters t s).failed = false) :
    (computeSample doubles gpa db z name index counters t s).values.length = s.values.length + 1 := by
  simp only [computeSample] at computed ⊢
  split at computed
  · rename_i nonZero
    rw [if_pos nonZero]
    split at computed
    · cases computed
    · simp
  · rename_i zero
    rw [if_neg zero, List.length_append, List.length_singleton]

theorem compute_samples_length (z : Nat) (name : String) (index : UInt32) (counters : List GpaHwCounter)
    (timestamps : List Nat) (s : Samples Value)
    (completed : (computeSamples doubles gpa db z name index counters timestamps s).failed = false) :
    (computeSamples doubles gpa db z name index counters timestamps s).values.length = s.values.length + timestamps.length := by
  induction timestamps generalizing s with
  | nil => rfl
  | cons t rest ih =>
      rw [computeSamples] at completed ⊢
      by_cases stopped : (computeSample doubles gpa db z name index counters t s).failed = true
      · rw [if_pos stopped, stopped] at completed
        cases completed
      · rw [if_neg stopped] at completed ⊢
        have one := compute_sample_length doubles gpa db (Bool.eq_false_iff.mpr stopped)
        rw [ih _ completed, one, List.length_cons, Nat.add_right_comm, Nat.add_assoc]

end Samples

section Counters
variable {Value : Type} (doubles : Doubles Value) (gpa : Gpa Value) (db : RawSpmDb)

-- What the counter library and the data say of one expected counter.
inductive CounterAnswer (Value : Type) where
  | notFound
  | failed
  -- No information, not a derived counter, or one without hardware counters.
  | passedOver
  | unsupported
  | undescribed
  | supported (counterDesc : String) (counterUsageType : CounterUsageType) (samples : Samples Value)

def CounterAnswer.isPassedOver : CounterAnswer Value → Bool
  | .passedOver => true
  | _ => false

def CounterAnswer.isSupported : CounterAnswer Value → Bool
  | .supported .. => true
  | _ => false

def answerFor (z : Nat) (name : String) : CounterAnswer Value :=
  match gpa.getCounterIndex z name with
  | .notFound => .notFound
  | .failed => .failed
  | .found index =>
      match (gpa.getCounterInfo z index).bind fun info => if info.isDerivedCounter then info.gpaDerivedCounter else none with
      | none | some [] => .passedOver
      | some counters =>
          if (db.lookupCounters counters).2.derivedCounterIsSupported then
            match gpa.getCounterDescription z index, gpa.getCounterUsageType z index with
            | some counterDesc, some counterUsageType =>
                .supported counterDesc counterUsageType
                  (computeSamples doubles gpa db z name index counters (List.range db.numberOfTimestamps.toNat) ⟨[], 0, 0, false⟩)
            | _, _ => .undescribed
          else .unsupported

-- What the loop over the expected counters has filled so far.
structure Work (Value : Type) where
  availableDerivedCounters : List Available
  availableCounterComponents : List AvailableCounterInfo
  counterValueIsBad : List Bool
  counterValues : List (Row Value)
  numberOfSkippedCounters : Nat
  writes : List RowWrite

namespace Work
variable (w : Work Value)

def skip : Work Value := { w with numberOfSkippedCounters := w.numberOfSkippedCounters + 1 }

def pushCounter (z : Nat) (isComponentCounter : Bool) (info : AvailableCounterInfo) : Work Value :=
  if isComponentCounter then { w with availableCounterComponents := w.availableCounterComponents ++ [info] }
  else
    { w with
      availableDerivedCounters := w.availableDerivedCounters ++ [⟨z, info⟩]
      counterValueIsBad := w.counterValueIsBad ++ [false] }

def pushRow (z numberOfTimestamps : Nat) : Work Value :=
  { w with counterValues := w.counterValues ++ [⟨z, List.replicate numberOfTimestamps doubles.zero⟩] }

-- A write outside the rows changes none of them.
def writeValues (z : Nat) (values : List Value) : Work Value :=
  { w with
    counterValues := w.counterValues.modify (z - w.numberOfSkippedCounters) fun row =>
      { row with values := values ++ row.values.drop values.length }
    writes := w.writes ++ values.map fun _ => ⟨z, z - w.numberOfSkippedCounters⟩ }

def dropBad (z : Nat) : Work Value :=
  { w with
    counterValueIsBad := w.counterValueIsBad.set (z - w.numberOfSkippedCounters) true
    availableDerivedCounters := w.availableDerivedCounters.dropLast }

end Work

structure Processed (Value : Type) where
  returned : Option RgpErrorCode
  entry : ExpectedDerivedCounter
  work : Work Value

def processCounter (filterBadSpmData shouldAbort : Bool) (numberOfTimestamps z : Nat) (entry : ExpectedDerivedCounter)
    (w : Work Value) : CounterAnswer Value → Processed Value
  | .notFound => ⟨none, entry, w.skip⟩
  | .failed => ⟨some .gpaFailure, entry, w⟩
  | .passedOver => ⟨none, entry, w⟩
  | .undescribed => ⟨some .gpaFailure, { entry with isAvailable := true }, w⟩
  | .unsupported => ⟨if shouldAbort then some .aborted else none, { entry with isAvailable := false }, w.skip⟩
  | .supported counterDesc counterUsageType samples =>
      let info : AvailableCounterInfo := ⟨entry.counterInfo, counterDesc, counterUsageType⟩
      let pushed := (w.pushCounter z entry.isComponentCounter info).pushRow doubles z numberOfTimestamps
      let written := pushed.writeValues z samples.values
      let available := { entry with isAvailable := true }
      if samples.failed then ⟨some .gpaFailure, available, written⟩
      else
        ⟨if shouldAbort then some .aborted else none, available,
          if filterBadSpmData && !entry.isComponentCounter && 0 < samples.badValueCount then written.dropBad z else written⟩

structure Calculated (Value : Type) where
  returned : Option RgpErrorCode
  expected : List ExpectedDerivedCounter
  work : Work Value

-- `none` is kRgpOk. A counter that is not found or passed over does not look at the abort.
def processCounters (filterBadSpmData : Bool) (shouldAbort : Nat → Bool) : Nat → List ExpectedDerivedCounter → Work Value → Calculated Value
  | _, [], w => ⟨none, [], w⟩
  | z, entry :: rest, w =>
      let one := processCounter doubles filterBadSpmData (shouldAbort z) db.numberOfTimestamps.toNat z entry w
        (answerFor doubles gpa db z entry.counterInfo.gpaCounterName)
      match one.returned with
      | some code => ⟨some code, one.entry :: rest, one.work⟩
      | none =>
          let later := processCounters filterBadSpmData shouldAbort (z + 1) rest one.work
          ⟨later.returned, one.entry :: later.expected, later.work⟩

end Counters

-- One call: what the counter library answers, and after which counters the caller wants to stop.
structure Attempt (Value : Type) where
  gpa : Gpa Value
  shouldAbort : Nat → Bool

namespace RgpSpmDataBase
variable {Value : Type} (db : RgpSpmDataBase Value)

def calculates : Bool := db.raw.format != .low && 0 < db.raw.numberOfTimestamps

def openGPACounterContext (gpa : Gpa Value) : Option RgpErrorCode × RgpSpmDataBase Value :=
  if db.gpaCounterContext then (none, db)
  else if gpa.opensContext then (none, { db with gpaCounterContext := true })
  else (some .gpaFailure, db)

def startWork : Work Value := ⟨[], db.availableCounterComponents, [], db.counterValues, 0, db.writes⟩

def process (a : Attempt Value) : Calculated Value :=
  processCounters db.doubles a.gpa db.raw db.filterBadSpmData a.shouldAbort 0 db.expectedDerivedCounters db.startWork

def fill (ended : Calculated Value) : RgpSpmDataBase Value :=
  { db with
    expectedDerivedCounters := ended.expected
    availableDerivedCounters := ended.work.availableDerivedCounters
    availableCounterComponents := ended.work.availableCounterComponents
    counterValueIsBad := ended.work.counterValueIsBad
    counterValues := ended.work.counterValues
    writes := ended.work.writes }

def calculateDerivedCounters (a : Attempt Value) : Option RgpErrorCode × RgpSpmDataBase Value :=
  if db.derivedCountersCalculated then (none, db)
  else
    let started := { db with derivedCountersCalculated := true }
    if db.calculates then
      match started.openGPACounterContext a.gpa with
      | (some code, failed) => (some code, failed)
      | (none, opened) => ((db.process a).returned, opened.fill (db.process a))
    else (none, started)

def contextOpen (a : Attempt Value) : Bool := db.gpaCounterContext || a.gpa.opensContext

theorem calculate_again {a : Attempt Value} (calculated : db.derivedCountersCalculated = true) :
    db.calculateDerivedCounters a = (none, db) := by rw [calculateDerivedCounters, if_pos calculated]

theorem calculate_nothing {a : Attempt Value} (first : db.derivedCountersCalculated = false) (idle : db.calculates = false) :
    db.calculateDerivedCounters a = (none, { db with derivedCountersCalculated := true }) := by
  rw [calculateDerivedCounters, first, idle]
  rfl

theorem calculate_closed {a : Attempt Value} (first : db.derivedCountersCalculated = false) (calculates : db.calculates = true)
    (closed : db.contextOpen a = false) :
    db.calculateDerivedCounters a = (some .gpaFailure, { db with derivedCountersCalculated := true }) := by
  obtain ⟨context, opens⟩ := Bool.or_eq_false_iff.mp closed
  rw [calculateDerivedCounters, first, calculates]
  simp only [openGPACounterContext, context, opens]
  rfl

theorem calculate_opened {a : Attempt Value} (first : db.derivedCountersCalculated = false) (calculates : db.calculates = true)
    (opened : db.contextOpen a = true) :
    db.calculateDerivedCounters a = ((db.process a).returned,
      { db with derivedCountersCalculated := true, gpaCounterContext := true }.fill (db.process a)) := by
  rw [calculateDerivedCounters, first, calculates]
  simp only [openGPACounterContext]
  cases context : db.gpaCounterContext with
  | true =>
      simp only [fill]
      rfl
  | false =>
      rw [contextOpen, context, Bool.false_or] at opened
      rw [opened]
      rfl

end RgpSpmDataBase

end RadeonPanel.Spm
