import Mathlib.Data.List.Basic
import RadeonPanel.Cli.Completion

set_option autoImplicit false

namespace RadeonPanel.Cli

inductive AutoCaptureMode where
  | none
  | frameIndex
  | dispatchIndex
deriving DecidableEq, Repr

-- Callers of the API may pass numbers that the enumerations do not name.
abbrev RdpCaptureProfilingCaptureMode := UInt32

def RdpCaptureProfilingCaptureMode.default : RdpCaptureProfilingCaptureMode := 0
def RdpCaptureProfilingCaptureMode.frame : RdpCaptureProfilingCaptureMode := 1
def RdpCaptureProfilingCaptureMode.draw : RdpCaptureProfilingCaptureMode := 2
def RdpCaptureProfilingCaptureMode.dispatch : RdpCaptureProfilingCaptureMode := 3

abbrev RdpCaptureSqttBufferSize := UInt32

def RdpCaptureSqttBufferSize.default : RdpCaptureSqttBufferSize := 0
def RdpCaptureSqttBufferSize.minimum : RdpCaptureSqttBufferSize := 1
def RdpCaptureSqttBufferSize.low : RdpCaptureSqttBufferSize := 2
def RdpCaptureSqttBufferSize.high : RdpCaptureSqttBufferSize := 3
def RdpCaptureSqttBufferSize.maximum : RdpCaptureSqttBufferSize := 4

-- The profiling part of the configuration.
structure CaptureConfig where
  autoCaptureMode : AutoCaptureMode
  frameCaptureIndex : UInt32
  dispatchStartIndex : UInt32
  dispatchCount : UInt32
  dispatchCaptureDelayMs : UInt32
  enableInstructionTracing : Bool
  enableCounterCollection : Bool
  enableShaderInstrumentation : Bool
  sqttBufferSize : RdpCaptureSqttBufferSize
  rgpCaptureMode : RdpCaptureProfilingCaptureMode
  rgpRenderOpCount : UInt32
deriving DecidableEq, Repr

-- The options of the profiling mode, with the defaults filled in.
structure CommandLine where
  rgpAutoCapture : Option (List Char)
  rgpAutoCaptureDelay : UInt32
  rgpCaptureMode : List Char
  rgpRenderOpCount : UInt32
  rgpInstructionTracing : Bool
  rgpCounterCollection : Bool
  rgpShaderInstrumentation : Bool
  rgpSqttBufferSize : List Char
deriving DecidableEq, Repr

def kDispatchStartIndexMinimum : UInt32 := 1
def kFrameCaptureIndexMinimum : UInt32 := 5

def digitValue (c : Char) : Option Nat := if c.isDigit then some (c.toNat - 48) else none

-- `from_chars` to the end of the text: digits only, and no overflow.
def readDigits (value : Nat) : List Char → Option Nat
  | [] => some value
  | c :: rest =>
      match digitValue c with
      | some digit => readDigits (value * 10 + digit) rest
      | none => none

def parseNumber (text : List Char) : Option UInt32 :=
  if text.isEmpty then none
  else
    match readDigits 0 text with
    | some value => if value < 4294967296 then some (UInt32.ofNat value) else none
    | none => none

-- `std::getline` with ':'; an empty rest is no line.
def getlines (line : List Char) : List Char → List (List Char)
  | [] => if line.isEmpty then [] else [line]
  | c :: rest => if c = ':' then line :: getlines [] rest else getlines (line ++ [c]) rest

def splitParts (text : List Char) : List (List Char) :=
  getlines [] text ++ if text.getLast? = some ':' then [[]] else []

-- An empty part stands for `whenEmpty`.
def parsePart (whenEmpty : UInt32) (part : List Char) : Option UInt32 :=
  if part.isEmpty then some whenEmpty else parseNumber part

def parseFrameIndex (parts : List (List Char)) : Option UInt32 :=
  let index := match parts with
    | [] => some kFrameCaptureIndexMinimum
    | [part] => parsePart 0 part
    | _ => none
  index.bind fun index => if index < kFrameCaptureIndexMinimum then none else some index

-- A count of zero is taken as one.
def parseDispatchRange (start count : UInt32) (parts : List (List Char)) : Option (UInt32 × UInt32) :=
  let range := match parts with
    | [] => some (start, count)
    | [part] => (parsePart kDispatchStartIndexMinimum part).map fun start => (start, count)
    | [part, other] =>
        (parsePart kDispatchStartIndexMinimum part).bind fun start =>
          (parsePart 1 other).map fun count => (start, if count = 0 then 1 else count)
    | _ => none
  range.bind fun range => if range.1 < kDispatchStartIndexMinimum then none else some range

def parseAutoCapture (text : List Char) (config : CaptureConfig) : Option CaptureConfig :=
  match splitParts text with
  | [] => none
  | mode :: parts =>
      if mode = "frame".toList then
        (parseFrameIndex parts).map fun index => { config with autoCaptureMode := .frameIndex, frameCaptureIndex := index }
      else if mode = "dispatch".toList then
        (parseDispatchRange config.dispatchStartIndex config.dispatchCount parts).map fun range =>
          { config with autoCaptureMode := .dispatchIndex, dispatchStartIndex := range.1, dispatchCount := range.2 }
      else none

def parseRgpCaptureMode (text : List Char) : Option RdpCaptureProfilingCaptureMode :=
  if text = "default".toList then some .default
  else if text = "frame".toList then some .frame
  else if text = "draw".toList then some .draw
  else if text = "dispatch".toList then some .dispatch
  else none

def parseSqttBufferSize (text : List Char) : RdpCaptureSqttBufferSize :=
  if text = "minimum".toList then .minimum
  else if text = "low".toList then .low
  else if text = "high".toList then .high
  else if text = "maximum".toList then .maximum
  else .default

def usesRenderOps (mode : RdpCaptureProfilingCaptureMode) : Bool := mode = .draw || mode = .dispatch

def toLower (text : List Char) : List Char := text.map Char.toLower

-- The profiling options of ParseCommandLine; nothing stands for a command line
-- that is turned away.
def parseCommandLine (command : CommandLine) : Option CaptureConfig := do
  let config : CaptureConfig := ⟨.none, 0, kDispatchStartIndexMinimum, 1, 0, false, false, false, .default, .default, 1⟩
  let config ← match command.rgpAutoCapture with
    | none => some config
    | some text => parseAutoCapture (toLower text) config
  let mode ← parseRgpCaptureMode (toLower command.rgpCaptureMode)
  if command.rgpRenderOpCount = 0 && usesRenderOps mode then none
  else
    some { config with
      dispatchCaptureDelayMs := command.rgpAutoCaptureDelay
      rgpCaptureMode := mode
      rgpRenderOpCount := command.rgpRenderOpCount
      enableInstructionTracing := command.rgpInstructionTracing
      enableCounterCollection := command.rgpCounterCollection
      enableShaderInstrumentation := command.rgpShaderInstrumentation
      sqttBufferSize := parseSqttBufferSize (toLower command.rgpSqttBufferSize) }

example : parseAutoCapture "dispatch:2:".toList ⟨.none, 0, 1, 1, 0, false, false, false, .default, .default, 1⟩ =
    some ⟨.dispatchIndex, 0, 2, 1, 0, false, false, false, .default, .default, 1⟩ := by decide

section Dispatch
variable (line rest start count : List Char) (first second : UInt32)

theorem read_digits (value result : Nat) (text : List Char) (read : readDigits value text = some result) : ':' ∉ text := by
  induction text generalizing value with
  | nil => simp
  | cons c rest ih =>
      rw [readDigits] at read
      cases digit : digitValue c with
      | none =>
          rw [digit] at read
          cases read
      | some d =>
          rw [digit] at read
          have apart : c ≠ ':' := by
            rintro rfl
            cases digit
          simp only [List.mem_cons, not_or]
          exact ⟨Ne.symm apart, ih _ read⟩

theorem number_digits (text : List Char) (parsed : parseNumber text = some first) : text ≠ [] ∧ ':' ∉ text := by
  rw [parseNumber] at parsed
  split at parsed
  · cases parsed
  · rename_i some
    split at parsed
    · rename_i value read
      exact ⟨by simpa using some, read_digits 0 value text read⟩
    · cases parsed

theorem getlines_delimited (apart : ':' ∉ start) :
    getlines line (start ++ ':' :: rest) = (line ++ start) :: getlines [] rest := by
  induction start generalizing line with
  | nil => simp [getlines]
  | cons c start ih =>
      obtain ⟨here, later⟩ := not_or.mp (mt List.mem_cons.mpr apart)
      rw [List.cons_append, getlines, if_neg (Ne.symm here), ih _ later]
      simp

theorem getlines_last (apart : ':' ∉ count) : getlines line count = if line ++ count = [] then [] else [line ++ count] := by
  induction count generalizing line with
  | nil => cases line <;> simp [getlines]
  | cons c count ih =>
      obtain ⟨here, later⟩ := not_or.mp (mt List.mem_cons.mpr apart)
      rw [getlines, if_neg (Ne.symm here), ih _ later]
      simp

theorem split_dispatch (startRead : parseNumber start = some first) (countRead : parseNumber count = some second) :
    splitParts ("dispatch".toList ++ ':' :: start ++ ':' :: count) = ["dispatch".toList, start, count] := by
  obtain ⟨_, startApart⟩ := number_digits first start startRead
  obtain ⟨some, countApart⟩ := number_digits second count countRead
  have lines : getlines [] ("dispatch".toList ++ ':' :: (start ++ ':' :: count)) = ["dispatch".toList, start, count] := by
    rw [getlines_delimited [] _ _ (by decide), getlines_delimited [] _ _ startApart, getlines_last [] _ countApart]
    simp [some]
  have last : ("dispatch".toList ++ ':' :: (start ++ ':' :: count)).getLast? ≠ Option.some ':' := by
    rw [List.getLast?_append, List.getLast?_cons, List.getLast?_append, List.getLast?_cons]
    cases here : count.getLast? with
    | none => exact absurd (List.getLast?_eq_none_iff.mp here) some
    | some c =>
        have member := List.mem_of_getLast? here
        simp only [Option.getD_some, Option.some_or, ne_eq, Option.some.injEq]
        rintro rfl
        exact countApart member
  rw [splitParts, List.append_assoc, List.cons_append, lines, if_neg last]
  rfl

-- What the two numbers of an accepted dispatch range set.
theorem parse_dispatch (config parsed : CaptureConfig) (startRead : parseNumber start = some first)
    (countRead : parseNumber count = some second)
    (accepted : parseAutoCapture ("dispatch".toList ++ ':' :: start ++ ':' :: count) config = some parsed) :
    parsed = { config with
      autoCaptureMode := .dispatchIndex
      dispatchStartIndex := first
      dispatchCount := if second = 0 then 1 else second } := by
  obtain ⟨startSome, _⟩ := number_digits first start startRead
  obtain ⟨countSome, _⟩ := number_digits second count countRead
  have range : parseDispatchRange config.dispatchStartIndex config.dispatchCount [start, count] =
      if first < kDispatchStartIndexMinimum then none else some (first, if second = 0 then 1 else second) := by
    simp [parseDispatchRange, parsePart, startSome, countSome, startRead, countRead]
  rw [parseAutoCapture, split_dispatch start count first second startRead countRead] at accepted
  simp only at accepted
  rw [if_neg (by decide), if_pos trivial, range] at accepted
  split at accepted
  · cases accepted
  · exact (Option.some.inj accepted).symm

end Dispatch

theorem parse_mode_dispatch (text : List Char) (mode : RdpCaptureProfilingCaptureMode)
    (parsed : parseRgpCaptureMode text = some mode) : mode = .dispatch ↔ text = "dispatch".toList := by
  unfold parseRgpCaptureMode at parsed
  split at parsed
  · rename_i text
    cases parsed
    subst text
    decide
  · split at parsed
    · rename_i text
      cases parsed
      subst text
      decide
    · split at parsed
      · rename_i text
        cases parsed
        subst text
        decide
      · split at parsed
        · rename_i here
          cases parsed
          exact ⟨fun _ => here, fun _ => rfl⟩
        · cases parsed

-- What an accepted command line with a dispatch range leaves in the configuration.
theorem parse_command_dispatch (command : CommandLine) (config : CaptureConfig) (start count : List Char)
    (first second : UInt32)
    (text : command.rgpAutoCapture.map toLower = some ("dispatch".toList ++ ':' :: start ++ ':' :: count))
    (startRead : parseNumber start = some first) (countRead : parseNumber count = some second)
    (accepted : parseCommandLine command = some config) :
    config.autoCaptureMode = .dispatchIndex ∧ config.dispatchStartIndex = first ∧
      config.dispatchCount = (if second = 0 then 1 else second) ∧
      config.rgpRenderOpCount = command.rgpRenderOpCount ∧
      (config.rgpCaptureMode = .dispatch ↔ toLower command.rgpCaptureMode = "dispatch".toList) ∧
      (config.rgpCaptureMode = .dispatch → command.rgpRenderOpCount ≠ 0) := by
  obtain ⟨typed, given, lowered⟩ := Option.map_eq_some_iff.mp text
  rw [parseCommandLine, given] at accepted
  simp only [lowered] at accepted
  obtain ⟨parsed, range, accepted⟩ := Option.bind_eq_some_iff.mp accepted
  obtain ⟨mode, modeParsed, accepted⟩ := Option.bind_eq_some_iff.mp accepted
  have set := parse_dispatch start count first second _ parsed startRead countRead range
  have dispatch := parse_mode_dispatch _ mode modeParsed
  split at accepted
  · cases accepted
  · rename_i counted
    cases accepted
    subst set
    refine ⟨rfl, rfl, rfl, rfl, dispatch, fun here none => counted ?_⟩
    change mode = .dispatch at here
    simp [none, here, usesRenderOps]

end RadeonPanel.Cli
