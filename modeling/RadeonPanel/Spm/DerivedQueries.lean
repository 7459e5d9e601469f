import RadeonPanel.Base.KeyedValues
import RadeonPanel.Base.Numerals
import RadeonPanel.Spm.DerivedCalculation

set_option autoImplicit false

namespace RadeonPanel.Spm

section Formula
variable {Value : Type} (doubles : Doubles Value) (counterValues : List Value)

-- The lines that getline reads up to each comma. A comma at the end has no line after it.
def formulaTokens : List Char → List (List Char)
  | [] => []
  | c :: rest =>
      if c = ',' then [] :: formulaTokens rest
      else match formulaTokens rest with
        | [] => [[c]]
        | token :: later => (c :: token) :: later

inductive FormulaFault where
  | badFormula
  | outside
deriving DecidableEq, Repr

-- The last token pushed comes first.
def pushToken (tokens : List Value) (curToken : List Char) : Except FormulaFault (List Value) :=
  if curToken = ['+'] then
    match tokens with
    | arg1 :: arg2 :: rest => .ok (doubles.add arg1 arg2 :: rest)
    | _ => .error .badFormula
  else
    match Numerals.stoull curToken with
    | none => .error .badFormula
    | some i => (counterValues[i.toNat]?).elim (.error .outside) fun value => .ok (value :: tokens)

-- `none` where the formula reads outside the values.
def calculateComponentValue (formula : String) : Option Value :=
  match (formulaTokens formula.toList).foldlM (pushToken doubles counterValues) [] with
  | .ok [value] => some value
  | .ok _ | .error .badFormula => some doubles.zero
  | .error .outside => none

end Formula

-- It is one for all databases.
structure CounterComponentHeuristicHelper where
  timestampIndex : Nat
  counterIndex : Nat
  componentIndex : Nat
  useHeuristic : Bool
deriving DecidableEq, Repr

inductive CounterQueryType where
  | name | description | gpaName
deriving DecidableEq, Repr

-- How the counter library answers for a hardware counter: it does not know the index,
-- or it has no text for it, or it has one.
inductive RawCounterText where
  | noIndex
  | noText
  | text (counterInfo : String)
deriving DecidableEq, Repr

inductive Query where
  | getNumberOfCounters
  | getCounterInfo (counterIndex : Nat) (queryType : CounterQueryType)
  | getRawCounterInfo (counterIndex : Nat) (answer : RawCounterText)
  | getCounterIdentifier (counterIndex : Nat)
  | getCounterUsageType (counterIndex : Nat)
  | getCounterValue (timestampIndex counterIndex : Nat)
  | getNumberOfCounterComponents (counterIndex : Nat)
  | getCounterComponentName (counterIndex componentIndex : Nat)
  | getCounterComponentDescription (counterIndex componentIndex : Nat)
  | getCounterComponentUsageType (counterIndex componentIndex : Nat)
  | getCounterComponentValue (timestampIndex counterIndex componentIndex : Nat)
deriving DecidableEq, Repr

def Query.derived : Query → Bool
  | .getRawCounterInfo .. => false
  | _ => true

inductive Output (Value : Type) where
  | number (n : Nat)
  | text (counterInfo : String)
  | identifier (counterId : CounterIdentifier)
  | usageType (counterUsageType : CounterUsageType)
  -- `none` is a value read outside the rows.
  | value (counterValue : Option Value)
deriving DecidableEq, Repr

-- The code a query returns, `none` for kRgpOk, and what it has written for its caller.
-- The queries for a number have no code.
structure Reply (Value : Type) where
  errorCode : Option RgpErrorCode
  output : Option (Output Value)
deriving DecidableEq, Repr

def Reply.failed {Value : Type} (code : RgpErrorCode) : Reply Value := ⟨some code, none⟩

def abortedNumber : Nat := 2 ^ 64 - 1

-- A number that stands for no failed calculation.
def Reply.succeeds {Value : Type} (reply : Reply Value) : Bool :=
  match reply.errorCode, reply.output with
  | none, some (.number n) => n != 0 && n != abortedNumber
  | code, _ => code.isNone

def kRgpGfxLevelMinGfx10 : Nat := 6

section AdjustedIndex

-- One read past the last flag is possible, and then there is no result.
def adjustFrom (counterIndex : Nat) : List Bool → Nat → Nat → Option Nat
  | [], _, _ => none
  | isBad :: rest, goodCounterCount, result =>
      if isBad then adjustFrom counterIndex rest goodCounterCount (result + 1)
      else if goodCounterCount = counterIndex then some result
      else adjustFrom counterIndex rest (goodCounterCount + 1) result

def named (gpaCounterName : String) (entry : ExpectedDerivedCounter) : Bool :=
  entry.isComponentCounter && entry.isAvailable && entry.counterInfo.gpaCounterName == gpaCounterName

def componentRow (gpaCounterName : String) : List ExpectedDerivedCounter → Nat → Nat → Option Nat
  | [], _, _ => none
  | entry :: rest, i, skippedExpectedCounterCount =>
      let skipped := if entry.isAvailable then skippedExpectedCounterCount else skippedExpectedCounterCount + 1
      if named gpaCounterName entry then some (i - skipped)
      else componentRow gpaCounterName rest (i + 1) skipped

end AdjustedIndex

namespace RgpSpmDataBase
variable {Value : Type} (db : RgpSpmDataBase Value)

def getAdjustedIndex (counterIndex : Nat) : Option Nat :=
  if counterIndex < db.counterValueIsBad.length then adjustFrom counterIndex db.counterValueIsBad 0 counterIndex
  else some counterIndex

def valueAt (row timestampIndex : Nat) : Option Value := (db.counterValues[row]?).bind fun row => row.values[timestampIndex]?

def replyNumberOfCounters : Reply Value := ⟨none, some (.number db.availableDerivedCounters.length)⟩

def replyAvailable (counterIndex : Nat) (output : AvailableCounterInfo → Output Value) : Reply Value :=
  match db.availableDerivedCounters[counterIndex]? with
  | some counter => ⟨none, some (output counter.info)⟩
  | none => .failed .indexOutOfRange

def textOf (queryType : CounterQueryType) (counter : AvailableCounterInfo) : String :=
  match queryType with
  | .name => counter.counterInfo.friendlyCounterName
  | .description => counter.counterDesc
  | .gpaName => counter.counterInfo.gpaCounterName

def replyCounterValue (timestampIndex counterIndex : Nat) : Reply Value :=
  if counterIndex < db.availableDerivedCounters.length ∧ timestampIndex < db.raw.numberOfTimestamps.toNat then
    if ((db.raw.mapTimestamps)[timestampIndex]?).any MappedTimestamp.timestampIsValid then
      ⟨none, some (.value ((db.getAdjustedIndex counterIndex).bind fun row => db.valueAt row timestampIndex))⟩
    else ⟨none, some (.value (some db.doubles.zero))⟩
  else .failed .indexOutOfRange

def componentsOf (counterIndex : Nat) : Option CounterComponentInfo :=
  (db.availableDerivedCounters[counterIndex]?).bind fun counter =>
    KeyedValues.get db.requestedCounterComponents counter.info.counterInfo.gpaCounterName

def replyNumberOfCounterComponents (counterIndex : Nat) : Reply Value :=
  ⟨none, some (.number ((db.componentsOf counterIndex).elim 0 fun info => info.componentList.length))⟩

def component (counterIndex componentIndex : Nat) : Option CounterComponent :=
  (db.componentsOf counterIndex).bind fun info => info.componentList[componentIndex]?

def replyComponentName (counterIndex componentIndex : Nat) : Reply Value :=
  match db.component counterIndex componentIndex with
  | some component => ⟨none, some (.text component.componentName)⟩
  | none => .failed .indexOutOfRange

-- The last of the available components of that name. A component whose counter list is
-- too short for its index has none.
def availableComponent (counterIndex componentIndex : Nat) : Option AvailableCounterInfo :=
  (db.component counterIndex componentIndex).bind fun _ =>
    ((db.componentsOf counterIndex).bind fun info => info.derivedCounterList[componentIndex]?).bind fun gpaName =>
      (db.availableCounterComponents.filter fun counter => counter.counterInfo.gpaCounterName == gpaName).getLast?

def replyComponent (counterIndex componentIndex : Nat) (output : AvailableCounterInfo → Output Value) : Reply Value :=
  match db.availableComponent counterIndex componentIndex with
  | some counter => ⟨none, some (output counter)⟩
  | none => .failed .indexOutOfRange

-- The inner `none` is a value read outside the rows.
def componentValues (info : CounterComponentInfo) (timestampIndex : Nat) : List (Option Value) :=
  info.derivedCounterList.filterMap fun gpaCounterName =>
    (componentRow gpaCounterName db.expectedDerivedCounters 0 0).map fun row => db.valueAt row timestampIndex

def adjustsNextComponent (helper : CounterComponentHeuristicHelper) (counterIndex : Nat) : Bool :=
  helper.useHeuristic && helper.counterIndex == counterIndex && helper.timestampIndex != 0

def componentValue (info : CounterComponentInfo) (timestampIndex : Nat) (formula : String) : Option Value :=
  ((db.componentValues info timestampIndex).mapM id).bind fun values => calculateComponentValue db.doubles values formula

-- The code stays at an index that is out of range also where a value is written.
def replyComponentValue (timestampIndex counterIndex componentIndex : Nat) (helper : CounterComponentHeuristicHelper) :
    Reply Value × CounterComponentHeuristicHelper :=
  if timestampIndex < db.raw.numberOfTimestamps.toNat then
    match db.availableDerivedCounters[counterIndex]?, db.componentsOf counterIndex, db.component counterIndex componentIndex with
    | some counter, some info, some component =>
        if ((db.raw.mapTimestamps)[timestampIndex]?).any MappedTimestamp.timestampIsValid then
          let adjusts := adjustsNextComponent helper counterIndex
          let chosen := if adjusts then info.componentList[helper.componentIndex]? else some component
          let used := if adjusts then { helper with useHeuristic := false } else helper
          match chosen.bind fun chosen => db.componentValue info timestampIndex chosen.componentFormula with
          | none => (⟨some .indexOutOfRange, some (.value none)⟩, used)
          | some value =>
              if db.doubles.isNegative value then
                (⟨some .indexOutOfRange, some (.value (some db.doubles.zero))⟩,
                  if applyCacheHitCounterHeuristic counter.info.counterInfo.gpaCounterName && componentIndex == 1 then
                    ⟨timestampIndex, counterIndex, 0, true⟩
                  else used)
              else (⟨some .indexOutOfRange, some (.value (some value))⟩, used)
        else (⟨some .indexOutOfRange, some (.value (some db.doubles.zero))⟩, helper)
    | _, _, _ => (.failed .indexOutOfRange, helper)
  else (.failed .indexOutOfRange, helper)

-- A counter the library does not know leaves the caller's text as it was.
def replyRawCounterInfo (counterIndex : Nat) (answer : RawCounterText) (gpa : Gpa Value) : Reply Value × RgpSpmDataBase Value :=
  match db.raw.spmCounterInfo[counterIndex]? with
  | none => (.failed .indexOutOfRange, db)
  | some info =>
      if db.raw.format = .low then (.failed .unsupportedLowSpecVersion, db)
      else
        match db.openGPACounterContext gpa with
        | (some code, kept) => (.failed code, kept)
        | (none, opened) =>
            (match answer with
              | .noIndex => ⟨none, none⟩
              | .noText => ⟨none, some (.text s!"{info.gpuBlockId}:{info.gpuBlockInstance}:{info.eventIndex}")⟩
              | .text counterInfo => ⟨none, some (.text counterInfo)⟩, opened)

def supportsSpm : Bool := kRgpGfxLevelMinGfx10 ≤ db.gfxIpLevel && 0 < db.raw.spmCounterInfo.length

-- What a derived query answers once the calculation has returned kRgpOk.
def replyCalculated (helper : CounterComponentHeuristicHelper) : Query → Reply Value × CounterComponentHeuristicHelper
  | .getNumberOfCounters => (db.replyNumberOfCounters, helper)
  | .getCounterInfo k queryType => (db.replyAvailable k fun counter => .text (textOf queryType counter), helper)
  | .getCounterIdentifier k => (db.replyAvailable k fun counter => .identifier counter.counterInfo.counterId, helper)
  | .getCounterUsageType k => (db.replyAvailable k fun counter => .usageType counter.counterUsageType, helper)
  | .getCounterValue t k => (db.replyCounterValue t k, helper)
  | .getNumberOfCounterComponents k => (db.replyNumberOfCounterComponents k, helper)
  | .getCounterComponentName k c => (db.replyComponentName k c, helper)
  | .getCounterComponentDescription k c => (db.replyComponent k c fun counter => .text counter.counterDesc, helper)
  | .getCounterComponentUsageType k c => (db.replyComponent k c fun counter => .usageType counter.counterUsageType, helper)
  | .getCounterComponentValue t k c => db.replyComponentValue t k c helper
  | .getRawCounterInfo .. => (.failed .gpaFailure, helper)

def replyFailed (code : RgpErrorCode) : Query → Reply Value
  | .getNumberOfCounters => ⟨none, some (.number (if code = .aborted then abortedNumber else 0))⟩
  | .getNumberOfCounterComponents _ => ⟨none, some (.number 0)⟩
  | _ => .failed code

end RgpSpmDataBase

-- One query. Only a query for the number of counters can be asked to stop.
structure Call (Value : Type) where
  query : Query
  gpa : Gpa Value
  shouldAbort : Nat → Bool

def Call.attempt {Value : Type} (c : Call Value) : Attempt Value :=
  ⟨c.gpa, if c.query = .getNumberOfCounters then c.shouldAbort else fun _ => false⟩

end RadeonPanel.Spm
