import RadeonPanel.Base.Runs
import RadeonPanel.Base.Trimming
import RadeonPanel.Cli.ProfilingParams

set_option autoImplicit false

namespace RadeonPanel.Cli.ManualCommands

open Interleaving Trimming

def isSpace (c : Char) : Bool := c = ' ' || c = '\t' || c = '\r' || c = '\n'

def isGap (c : Char) : Bool := c = ' ' || c = '\t'

-- The line between its first and its last character that is no blank.
def trimLine (line : List Char) : List Char := Trimming.trim isSpace line

inductive Refusal where
  | captureMode (text : List Char)
  | countNotApplicable (text : List Char)
  | renderOpCount
deriving DecidableEq, Repr

inductive Command where
  | blank
  | quit
  | capture
  | showMode
  | setMode (captureMode : RdpCaptureProfilingCaptureMode) (count : Option UInt32)
  | snapshot (name : List Char)
  | refused (refusal : Refusal)
  | unknown (command : List Char)
deriving DecidableEq, Repr

def quitWords : List (List Char) := ["q".toList, "quit".toList, "exit".toList]

def captureWords : List (List Char) := ["c".toList, "capture".toList]

def snapshotWords : List (List Char) := ["s".toList, "snapshot".toList]

def isModeCommand (command : List Char) : Bool := "mode".toList.isPrefixOf command && (command.drop 4).head?.all isGap

-- A mode, and what is left from the colon on.
def readNamed (text rest : List Char) : Command :=
  match parseRgpCaptureMode text with
  | none => .refused (.captureMode text)
  | some captureMode =>
      match rest with
      | [] => .setMode captureMode none
      | _ :: digits =>
          if !usesRenderOps captureMode then .refused (.countNotApplicable text)
          else
            match parseNumber digits with
            | none => .refused .renderOpCount
            | some count => if count = 0 then .refused .renderOpCount else .setMode captureMode (some count)

-- What follows the keyword `mode`.
def readMode (argument : List Char) : Command :=
  if argument = [] then .showMode else readNamed (argument.takeWhile (· ≠ ':')) (argument.dropWhile (· ≠ ':'))

-- The name of a snapshot is taken from the text as it was typed.
def readText (mode : CaptureMode) (text : List Char) : Command :=
  let command := toLower text
  let keyword := command.takeWhile fun c => !isGap c
  if command ∈ quitWords then .quit
  else if command ∈ captureWords then .capture
  else if mode = .profiling ∧ isModeCommand command = true then readMode ((command.drop 4).dropWhile isGap)
  else if mode = .memoryTrace ∧ keyword ∈ snapshotWords then .snapshot ((text.drop keyword.length).dropWhile isGap)
  else .unknown command

def readLine (mode : CaptureMode) (line : List Char) : Command :=
  if trimLine line = [] then .blank else readText mode (trimLine line)

def rgpCaptureModeName (mode : RdpCaptureProfilingCaptureMode) : String :=
  if mode = .frame then "frame" else if mode = .draw then "draw" else if mode = .dispatch then "dispatch" else "default"

def Refusal.message : Refusal → String
  | .captureMode text =>
      "Invalid RGP capture mode: '" ++ String.ofList text ++ "'. Expected: default, frame, draw, dispatch"
  | .countNotApplicable text => "Render op count is not applicable for '" ++ String.ofList text ++ "' mode"
  | .renderOpCount => "Invalid render op count. Must be a positive integer."

def help : CaptureMode → String
  | .memoryTrace => "Type 'c' to dump trace, 's [name]' to insert snapshot, 'q' to quit"
  | .profiling => "Type 'c' to capture, 'mode [value[:N]]' to set capture mode, 'q' to quit"
  | .raytracing | .crashAnalysis | .clocks => "Type 'c' to capture, 'q' to quit"

-- The loop's part of the command line tool: its configuration and the source that has it, what
-- the loop has asked of the API, and what it has printed, newest first.
structure Session where
  config : CaptureConfig
  source : RgpTraceSourceConfig
  captures : Nat
  snapshots : List (List Char)
  printed : List String
  ended : Bool
deriving DecidableEq, Repr

-- The stage and the result as the API numbers them.
structure Answer where
  stage : Int
  inserted : Int
deriving DecidableEq, Repr

def kStageCapturing : Int := 4

def kResultSuccess : Int := 0

namespace Session

variable (mode : CaptureMode) (s : Session)

def say (text : String) : Session := { s with printed := text :: s.printed }

def applyProfilingParams : Session := { s with source := s.source.applyProfilingParams s.config.profilingParams }

def currentMode : String :=
  rgpCaptureModeName s.config.rgpCaptureMode ++
    if usesRenderOps s.config.rgpCaptureMode then ":" ++ toString s.config.rgpRenderOpCount else ""

def setMode (captureMode : RdpCaptureProfilingCaptureMode) : Option UInt32 → Session
  | none =>
      ({ s with config := { s.config with rgpCaptureMode := captureMode } }).applyProfilingParams.say
        ("Capture mode set to: " ++ rgpCaptureModeName captureMode)
  | some count =>
      ({ s with config := { s.config with rgpCaptureMode := captureMode, rgpRenderOpCount := count } }).applyProfilingParams.say
        ("Capture mode set to: " ++ rgpCaptureModeName captureMode ++ ":" ++ toString count)

def insertSnapshot (name : List Char) (answer : Answer) : Session :=
  if answer.stage ≠ kStageCapturing then
    s.say ("Memory trace is not actively tracing (stage: " ++ toString answer.stage ++ ")")
  else
    { s with snapshots := name :: s.snapshots }.say
      (if answer.inserted ≠ kResultSuccess then "Failed to insert snapshot (result: " ++ toString answer.inserted ++ ")"
      else "Snapshot inserted" ++ if name = [] then "" else ": " ++ String.ofList name)

def perform (answer : Answer) : Command → Session
  | .blank => s
  | .quit => { s.say "Exiting..." with ended := true }
  | .capture => { s with captures := s.captures + 1 }
  | .showMode => s.say ("Capture mode: " ++ s.currentMode)
  | .setMode captureMode count => s.setMode captureMode count
  | .snapshot name => s.insertSnapshot name answer
  | .refused refusal => s.say refusal.message
  | .unknown command => (s.say ("Unknown command: " ++ String.ofList command)).say (help mode)

end Session

structure Typed where
  line : List Char
  answer : Answer
deriving DecidableEq, Repr

def step (mode : CaptureMode) (s : Session) (typed : Typed) : Option Session :=
  if s.ended then none else some (s.perform mode typed.answer (readLine mode typed.line))

def manualCaptureLoop (mode : CaptureMode) (config : CaptureConfig) (source : RgpTraceSourceConfig) : Machine Session Typed :=
  ⟨⟨config, source, 0, [], [], false⟩, step mode⟩

-- The keyword `mode`, a gap and what follows it.
structure ModeArgument (text gap argument : List Char) : Prop where
  shape : toLower text = "mode".toList ++ (gap ++ argument)
  apart : gap ≠ []
  each : ∀ c ∈ gap, isGap c = true
  begins : Begins isGap argument
  given : argument ≠ []

-- What may stand between the blanks of a line for each command, in letters of either case.
inductive Spells (mode : CaptureMode) (text : List Char) : Command → Prop where
  | quit (word : toLower text ∈ quitWords) : Spells mode text .quit
  | capture (word : toLower text ∈ captureWords) : Spells mode text .capture
  | showMode (profiling : mode = .profiling) (word : toLower text = "mode".toList) : Spells mode text .showMode
  | setMode (gap name : List Char) (captureMode : RdpCaptureProfilingCaptureMode) (profiling : mode = .profiling)
      (spelled : ModeArgument text gap name) (named : parseRgpCaptureMode name = some captureMode) :
      Spells mode text (.setMode captureMode none)
  | setCount (gap name digits : List Char) (captureMode : RdpCaptureProfilingCaptureMode) (count : UInt32)
      (profiling : mode = .profiling) (spelled : ModeArgument text gap (name ++ ':' :: digits))
      (named : parseRgpCaptureMode name = some captureMode) (counts : usesRenderOps captureMode = true)
      (number : parseNumber digits = some count) (positive : count ≠ 0) : Spells mode text (.setMode captureMode (some count))
  | badMode (gap name rest : List Char) (profiling : mode = .profiling) (spelled : ModeArgument text gap (name ++ rest))
      (unnamed : parseRgpCaptureMode name = none) (colon : ':' ∉ name) (ends : ∀ c ∈ rest.head?, c = ':') :
      Spells mode text (.refused (.captureMode name))
  | noCount (gap name digits : List Char) (captureMode : RdpCaptureProfilingCaptureMode) (profiling : mode = .profiling)
      (spelled : ModeArgument text gap (name ++ ':' :: digits)) (named : parseRgpCaptureMode name = some captureMode)
      (counts : usesRenderOps captureMode = false) : Spells mode text (.refused (.countNotApplicable name))
  | badCount (gap name digits : List Char) (captureMode : RdpCaptureProfilingCaptureMode) (profiling : mode = .profiling)
      (spelled : ModeArgument text gap (name ++ ':' :: digits)) (named : parseRgpCaptureMode name = some captureMode)
      (counts : usesRenderOps captureMode = true) (number : ∀ count, parseNumber digits = some count → count = 0) :
      Spells mode text (.refused .renderOpCount)
  | snapshot (word gap name : List Char) (tracing : mode = .memoryTrace) (keyword : toLower word ∈ snapshotWords)
      (shape : text = word ++ (gap ++ name)) (each : ∀ c ∈ gap, isGap c = true) (begins : Begins isGap name)
      (apart : gap = [] ↔ name = []) : Spells mode text (.snapshot name)

-- The meaning of a line: nothing for blanks, and an unknown command where nothing else is spelled.
def Means (mode : CaptureMode) (line : List Char) : Command → Prop
  | .blank => ∀ c ∈ line, isSpace c = true
  | .unknown command =>
      ∃ text, text ≠ [] ∧ Around isSpace line text ∧ command = toLower text ∧ ∀ other, ¬ Spells mode text other
  | command => ∃ text, Around isSpace line text ∧ Spells mode text command

end RadeonPanel.Cli.ManualCommands
