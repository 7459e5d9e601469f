import Mathlib.Logic.Function.Basic
import RadeonPanel.Base.Separators
import RadeonPanel.Ubertrace.Types
import RadeonPanel.Userdata.Userdata

set_option autoImplicit false

namespace RadeonPanel.CrashAnalysis

open Separated
open Ubertrace (Result)
open Userdata (RgdSummaryOptions)

inductive SummaryKind where
  | text
  | json
deriving DecidableEq, Repr

def SummaryKind.extension : SummaryKind → List Char
  | .text => ['t', 'x', 't']
  | .json => ['j', 's', 'o', 'n']

def kRgdFileExtension : List Char := ['r', 'g', 'd']

-- A path as QFileInfo divides it.
structure FilePath where
  directory : String
  name : List Char
deriving DecidableEq

def FilePath.completeSuffix (path : FilePath) : List Char := afterFirst '.' path.name

def FilePath.completeBaseName (path : FilePath) : List Char := upToLast '.' path.name

def getPathForFileWithDifferentExtension (path : FilePath) (newExtension : List Char) : FilePath :=
  ⟨path.directory, path.completeBaseName ++ '.' :: newExtension⟩

-- Every dump is written, and listed, with the extension of the module.
structure CrashDump where
  directory : String
  base : List Char
deriving DecidableEq

namespace CrashDump

variable (dump : CrashDump)

def path : FilePath := ⟨dump.directory, dump.base ++ '.' :: kRgdFileExtension⟩

def summaryPath (kind : SummaryKind) : FilePath := getPathForFileWithDifferentExtension dump.path kind.extension

def outputPath (kind asked : SummaryKind) : Option FilePath := if kind = asked then some (dump.summaryPath kind) else none

theorem summary_path_name (kind : SummaryKind) :
    dump.summaryPath kind = ⟨dump.directory, dump.base ++ '.' :: kind.extension⟩ := by
  rw [summaryPath, getPathForFileWithDifferentExtension, FilePath.completeBaseName, path,
    up_to_last_append '.' dump.base kRgdFileExtension (by decide)]

theorem summary_path_injective (other : CrashDump) (kind another : SummaryKind)
    (same : dump.summaryPath kind = other.summaryPath another) : dump = other ∧ kind = another := by
  rw [summary_path_name, summary_path_name] at same
  obtain ⟨directories, names⟩ := FilePath.mk.inj same
  obtain ⟨bases, extensions⟩ := joined_injective '.' dump.base kind.extension other.base another.extension
    (by cases kind <;> decide) (by cases another <;> decide) names
  constructor
  · cases dump
    cases other
    simp_all
  · revert extensions
    cases kind <;> cases another <;> decide

end CrashDump

structure SummaryFile where
  size : Nat
  origin : CrashDump
deriving DecidableEq

-- The summaries that exist. Each is where the dump it was generated from puts it.
structure SummaryStore where
  files : FilePath → Option SummaryFile
  placed : ∀ path file, files path = some file → ∃ kind, path = file.origin.summaryPath kind

namespace SummaryStore

variable (store : SummaryStore)

def empty : SummaryStore := ⟨fun _ => none, fun _ _ found => by cases found⟩

-- What a run of the tool leaves at its output path.
def written (dump : CrashDump) (kind : SummaryKind) (size : Option Nat) : SummaryStore where
  files := Function.update store.files (dump.summaryPath kind) (size.map fun size => ⟨size, dump⟩)
  placed := by
    intro path file found
    by_cases same : path = dump.summaryPath kind
    · rw [same, Function.update_self] at found
      obtain ⟨_, -, rfl⟩ := Option.map_eq_some_iff.mp found
      exact ⟨kind, same⟩
    · rw [Function.update_of_ne same] at found
      exact store.placed path file found

theorem written_here (dump : CrashDump) (kind : SummaryKind) (size : Option Nat) :
    (store.written dump kind size).files (dump.summaryPath kind) = size.map fun size => ⟨size, dump⟩ :=
  Function.update_self ..

-- An empty path stands for a summary that was not asked for.
def isFileValid : Option FilePath → Bool
  | none => true
  | some path => (store.files path).any fun file => decide (0 < file.size)

def determineResult (textPath jsonPath : Option FilePath) : Result × String :=
  if !store.isFileValid textPath || !store.isFileValid jsonPath then (.failure, "Summary file validation failed.")
  else (.success, "")

end SummaryStore

-- One run of the tool: the answers of the abort flag while it goes on, its exit, and
-- the size of the file that is at the output path afterwards, if there is one.
structure ToolRun where
  polls : List Bool
  crashExit : Bool
  exitCode : Int
  leaves : Option Nat
deriving DecidableEq, Repr

-- The tool is killed at the first poll that finds the flag raised.
def ToolRun.runProcess (run : ToolRun) : List Bool → Result
  | shouldAbort :: rest => if shouldAbort then .failure else run.runProcess rest
  | [] => if run.crashExit || run.exitCode ≠ 0 then .failure else .success

-- `rgdPath` is the setting of that name.
structure SummaryGenerator where
  dumpExists : Bool
  rgdPath : Option String
  toolExists : Bool
  run : SummaryKind → ToolRun

inductive ToolArgument where
  | word (text : String)
  | file (path : FilePath)
deriving DecidableEq

structure Generation where
  result : Result
  error : String
  textPath : Option FilePath
  jsonPath : Option FilePath
  invocations : List (List ToolArgument)
  store : SummaryStore

namespace SummaryGenerator

variable (generator : SummaryGenerator) (dump : CrashDump) (options : RgdSummaryOptions)

def getToolPath : String := generator.rgdPath.getD ""

def createArgs (kind : SummaryKind) : List ToolArgument :=
  (match kind with
    | .text => [.word "--output", .file (dump.summaryPath .text)]
    | .json => [.word "--json", .file (dump.summaryPath .json)]) ++
  (if options.showMarkerSource then [.word "--marker-src"] else []) ++
  (if options.expandMarkers then [.word "--expand-markers"] else []) ++
  ((options.pdbSearchPaths.filter fun path => decide (path ≠ "")).flatMap fun path => [.word "--pdb-path", .word path]) ++
  (if options.pdbIncludeSubfolders then [.word "--pdb-subdir"] else [])

-- One of the two blocks. The first block finds an empty error.
def generateSummary (kind : SummaryKind) (g : Generation) : Generation :=
  let run := generator.run kind
  let ran : Generation :=
    { g with
      textPath := (dump.outputPath kind .text).or g.textPath
      jsonPath := (dump.outputPath kind .json).or g.jsonPath
      invocations := g.invocations ++ [[.word "--parse", .file dump.path] ++ createArgs dump options kind]
      store := g.store.written dump kind run.leaves }
  if run.runProcess run.polls ≠ .success then { ran with result := run.runProcess run.polls }
  else
    let validate := ran.store.determineResult (dump.outputPath kind .text) (dump.outputPath kind .json)
    if validate.1 ≠ .success then
      { ran with
        result := validate.1
        error := if g.error = "" then validate.2 else g.error ++ "\n" ++ validate.2 }
    else ran

def generateSummaries (store : SummaryStore) (generateText generateJson : Bool) : Generation :=
  let returned (result : Result) : Generation := ⟨result, "", none, none, [], store⟩
  if !generateText && !generateJson then returned .success
  else if !generator.dumpExists then returned .failure
  else if generator.getToolPath = "" then returned .failure
  else if !generator.toolExists then returned .executableNotFound
  else
    let text :=
      if generateText then generator.generateSummary dump options .text (returned .success) else returned .success
    if generateJson then generator.generateSummary dump options .json text else text

end SummaryGenerator

structure SummaryResult where
  result : Result
  path : FilePath
  automaticallyQueued : Bool
  error : String
deriving DecidableEq

inductive CrashAnalysisAccessoryType where
  | none
  | noCrashDetected
  | summaryError
deriving DecidableEq, Repr

structure CrashAnalysisAccessoryInfo where
  type : CrashAnalysisAccessoryType
  errorString : String
deriving DecidableEq, Repr

inductive ViewOutput where
  | executableMissing (toolPath : String)
  | removeFile (path : FilePath)
  | openFileWithTextEditor (path : FilePath)
  | accessoryInfoChanged (info : CrashAnalysisAccessoryInfo)
deriving DecidableEq

-- The events of one queued generation.
def Generation.events (g : Generation) (automatic : Bool) : List SummaryResult :=
  (g.textPath.toList ++ g.jsonPath.toList).map fun path => ⟨g.result, path, automatic, g.error⟩

namespace CrashAnalysisViewModel

def shouldAutoOpen : Bool := false

def onSummaryEventCallback (toolPath : String) (args : SummaryResult) : List ViewOutput :=
  (if args.result = .executableNotFound then [.executableMissing toolPath] else []) ++
  if args.result ≠ .success then
    [.removeFile args.path, .accessoryInfoChanged ⟨.summaryError, args.error⟩]
  else
    (if !args.automaticallyQueued || shouldAutoOpen then [.openFileWithTextEditor args.path] else []) ++
      [.accessoryInfoChanged ⟨.none, ""⟩]

def removedFile (path : FilePath) : List ViewOutput :=
  if path.completeSuffix ≠ kRgdFileExtension then []
  else
    [.removeFile (getPathForFileWithDifferentExtension path SummaryKind.text.extension),
      .removeFile (getPathForFileWithDifferentExtension path SummaryKind.json.extension)]

end CrashAnalysisViewModel

section

variable (generator : SummaryGenerator) (dump : CrashDump) (options : RgdSummaryOptions) (store : SummaryStore)

def requestedKinds (generateText generateJson : Bool) : List SummaryKind :=
  (if generateText then [.text] else []) ++ (if generateJson then [.json] else [])

-- What the generation of one summary alone results in.
def ownResult (kind : SummaryKind) : Result :=
  (generator.generateSummaries dump options store (kind = .text) (kind = .json)).result

structure ReportedOneByOne (generateText generateJson automatic : Bool) : Prop where
  delivered : ∀ kind,
    (((generator.generateSummaries dump options store generateText generateJson).events automatic).filter
      fun event => decide (event.path = dump.summaryPath kind)).map SummaryResult.result =
        if kind ∈ requestedKinds generateText generateJson then [ownResult generator dump options store kind] else []
  known : ∀ event ∈ (generator.generateSummaries dump options store generateText generateJson).events automatic,
    ∃ kind, event.path = dump.summaryPath kind
  kept : ∀ kind, .removeFile (dump.summaryPath kind) ∈
    ((generator.generateSummaries dump options store generateText generateJson).events automatic).flatMap
      (CrashAnalysisViewModel.onSummaryEventCallback generator.getToolPath) →
        ownResult generator dump options store kind ≠ .success

def RemovedWithDump : Prop :=
  ∀ path file, store.files path = some file →
    (.removeFile path ∈ CrashAnalysisViewModel.removedFile dump.path ↔ file.origin = dump)

end

def ToolRun.succeeds (run : ToolRun) : Bool :=
  !run.polls.any id && !run.crashExit && decide (run.exitCode = 0) && run.leaves.any fun size => decide (0 < size)

namespace SummaryGenerator

variable (generator : SummaryGenerator)

def canRun : Bool := generator.dumpExists && decide (generator.getToolPath ≠ "") && generator.toolExists

-- Nothing is asked for, or the tool gets run and treats two kinds alike.
def treatsAlike (generateText generateJson : Bool) : Prop :=
  (generateText = true ∨ generateJson = true) → generator.canRun = true ∧
    (generateText = true → generateJson = true → (generator.run .text).succeeds = (generator.run .json).succeeds)

end SummaryGenerator

def removesItsOwn (dump : CrashDump) (store : SummaryStore) : Prop :=
  '.' ∉ dump.base ∨ ∀ path file, store.files path = some file → file.origin ≠ dump

theorem run_process_success (run : ToolRun) (polls : List Bool) :
    run.runProcess polls =
      if !polls.any id && !run.crashExit && decide (run.exitCode = 0) then .success else .failure := by
  induction polls with
  | nil => cases crash : run.crashExit <;> by_cases exit : run.exitCode = 0 <;> simp [ToolRun.runProcess, crash, exit]
  | cons shouldAbort rest ih =>
      cases shouldAbort with
      | true => simp [ToolRun.runProcess]
      | false => simpa [ToolRun.runProcess] using ih

section

variable (generator : SummaryGenerator) (dump : CrashDump) (options : RgdSummaryOptions) (store : SummaryStore)

theorem written_validates (kind : SummaryKind) (size : Option Nat) :
    (store.written dump kind size).determineResult (dump.outputPath kind .text) (dump.outputPath kind .json) =
      if size.any fun size => decide (0 < size) then (.success, "")
      else (.failure, "Summary file validation failed.") := by
  have valid : (store.written dump kind size).isFileValid (some (dump.summaryPath kind)) =
      size.any fun size => decide (0 < size) := by
    rw [SummaryStore.isFileValid, SummaryStore.written_here]
    cases size <;> rfl
  have unasked : (store.written dump kind size).isFileValid none = true := rfl
  cases kind <;> cases checked : size.any (fun size => decide (0 < size)) <;>
    simp [SummaryStore.determineResult, CrashDump.outputPath, valid, unasked, checked]

theorem generate_summary_result (kind : SummaryKind) (g : Generation) :
    (generator.generateSummary dump options kind g).result =
      if (generator.run kind).succeeds then g.result else .failure := by
  have process := run_process_success (generator.run kind) (generator.run kind).polls
  have validates := written_validates dump g.store kind (generator.run kind).leaves
  unfold SummaryGenerator.generateSummary ToolRun.succeeds
  simp only []
  by_cases exits : (!(generator.run kind).polls.any id && !(generator.run kind).crashExit &&
      decide ((generator.run kind).exitCode = 0)) = true
  · rw [if_pos exits] at process
    rw [exits, Bool.true_and]
    by_cases checked : ((generator.run kind).leaves.any fun size => decide (0 < size)) = true
    · rw [if_pos checked] at validates
      rw [if_neg (by simp [process]), if_neg (by simp [validates]), if_pos checked]
    · rw [if_neg checked] at validates
      rw [if_neg (by simp [process]), if_pos (by simp [validates]), if_neg checked]
      exact congrArg Prod.fst validates
  · rw [if_neg exits] at process
    rw [Bool.eq_false_iff.mpr exits, Bool.false_and, if_pos (by simp [process])]
    exact process

theorem generate_summary_paths (kind : SummaryKind) (g : Generation) :
    (generator.generateSummary dump options kind g).textPath =
        (if kind = .text then some (dump.summaryPath .text) else g.textPath) ∧
      (generator.generateSummary dump options kind g).jsonPath =
        (if kind = .json then some (dump.summaryPath .json) else g.jsonPath) := by
  unfold SummaryGenerator.generateSummary
  simp only []
  split
  · cases kind <;> exact ⟨rfl, rfl⟩
  · split
    · cases kind <;> exact ⟨rfl, rfl⟩
    · cases kind <;> exact ⟨rfl, rfl⟩

theorem summary_paths_differ (kind another : SummaryKind) :
    dump.summaryPath kind = dump.summaryPath another ↔ kind = another :=
  ⟨fun same => (dump.summary_path_injective dump kind another same).2, fun same => by rw [same]⟩

theorem cannot_run (generateText generateJson : Bool) (asked : generateText = true ∨ generateJson = true)
    (idle : generator.canRun = false) (automatic : Bool) :
    (generator.generateSummaries dump options store generateText generateJson).events automatic = [] := by
  have some : ¬ (!generateText && !generateJson) = true := by
    cases generateText <;> cases generateJson <;> simp_all
  unfold SummaryGenerator.generateSummaries
  simp only [if_neg some]
  by_cases dumpExists : generator.dumpExists = true
  · by_cases toolPath : generator.getToolPath = ""
    · simp [dumpExists, toolPath, Generation.events]
    · have missing : generator.toolExists = false := by
        simpa [SummaryGenerator.canRun, dumpExists, toolPath] using idle
      simp [dumpExists, toolPath, missing, Generation.events]
  · simp [dumpExists, Generation.events]

theorem can_run_iff : generator.canRun = true ↔
    (generator.dumpExists = true ∧ generator.getToolPath ≠ "") ∧ generator.toolExists = true := by
  simp [SummaryGenerator.canRun]

-- Every event carries the result that the kinds share.
theorem events_shared (can : generator.canRun = true) (generateText generateJson automatic : Bool) :
    ∃ error, (generator.generateSummaries dump options store generateText generateJson).events automatic =
      (requestedKinds generateText generateJson).map fun kind =>
        ⟨(generator.generateSummaries dump options store generateText generateJson).result,
          dump.summaryPath kind, automatic, error⟩ := by
  refine ⟨(generator.generateSummaries dump options store generateText generateJson).error, ?_⟩
  obtain ⟨⟨dumpExists, toolPath⟩, toolExists⟩ := (can_run_iff generator).mp can
  cases generateText <;> cases generateJson <;>
    simp [SummaryGenerator.generateSummaries, dumpExists, toolPath, toolExists, Generation.events, requestedKinds,
      generate_summary_paths]

theorem shared_result (can : generator.canRun = true) (generateText generateJson : Bool) :
    (generator.generateSummaries dump options store generateText generateJson).result =
      if (requestedKinds generateText generateJson).all fun kind => (generator.run kind).succeeds then .success
      else .failure := by
  obtain ⟨⟨dumpExists, toolPath⟩, toolExists⟩ := (can_run_iff generator).mp can
  cases generateText <;> cases generateJson <;> cases text : (generator.run .text).succeeds <;>
    cases json : (generator.run .json).succeeds <;>
    simp [SummaryGenerator.generateSummaries, dumpExists, toolPath, toolExists, requestedKinds,
      generate_summary_result, text, json]

theorem own_result (can : generator.canRun = true) (kind : SummaryKind) :
    ownResult generator dump options store kind = if (generator.run kind).succeeds then .success else .failure := by
  rw [ownResult, shared_result generator dump options store can]
  cases kind <;> simp [requestedKinds]

theorem removes_failed (toolPath : String) (event : SummaryResult) (path : FilePath) :
    .removeFile path ∈ CrashAnalysisViewModel.onSummaryEventCallback toolPath event ↔
      event.result ≠ .success ∧ event.path = path := by
  unfold CrashAnalysisViewModel.onSummaryEventCallback
  by_cases missing : event.result = .executableNotFound
  · simp [missing, eq_comm]
  · by_cases fails : event.result = .success
    · cases event.automaticallyQueued <;>
        simp [fails, CrashAnalysisViewModel.shouldAutoOpen]
    · simp [missing, fails, eq_comm]

theorem delivered_shared (generateText generateJson automatic : Bool) (result : Result) (error : String)
    (events : (generator.generateSummaries dump options store generateText generateJson).events automatic =
      (requestedKinds generateText generateJson).map fun kind => ⟨result, dump.summaryPath kind, automatic, error⟩)
    (kind : SummaryKind) :
    (((generator.generateSummaries dump options store generateText generateJson).events automatic).filter
      fun event => decide (event.path = dump.summaryPath kind)).map SummaryResult.result =
        if kind ∈ requestedKinds generateText generateJson then [result] else [] := by
  have only : ((requestedKinds generateText generateJson).filter
      ((fun event => decide (event.path = dump.summaryPath kind)) ∘
        fun kind => (⟨result, dump.summaryPath kind, automatic, error⟩ : SummaryResult))) =
      if kind ∈ requestedKinds generateText generateJson then [kind] else [] := by
    cases generateText <;> cases generateJson <;> cases kind <;>
      simp [requestedKinds, summary_paths_differ]
  rw [events, List.filter_map, List.map_map, only]
  split <;> rfl

-- With one shared result the report is right exactly if it is every kind's own.
theorem shared_reported (generateText generateJson automatic : Bool) (result : Result) (error : String)
    (events : (generator.generateSummaries dump options store generateText generateJson).events automatic =
      (requestedKinds generateText generateJson).map fun kind => ⟨result, dump.summaryPath kind, automatic, error⟩) :
    ReportedOneByOne generator dump options store generateText generateJson automatic ↔
      ∀ kind ∈ requestedKinds generateText generateJson, ownResult generator dump options store kind = result := by
  have delivered := delivered_shared generator dump options store generateText generateJson automatic result error events
  constructor
  · intro reported kind asked
    have same := (delivered kind).symm.trans (reported.delivered kind)
    rw [if_pos asked, if_pos asked] at same
    exact (List.singleton_inj.mp same).symm
  · intro own
    refine ⟨fun kind => ?_, fun event member => ?_, fun kind removed => ?_⟩
    · rw [delivered kind]
      by_cases asked : kind ∈ requestedKinds generateText generateJson
      · rw [if_pos asked, if_pos asked, own kind asked]
      · rw [if_neg asked, if_neg asked]
    · rw [events] at member
      obtain ⟨kind, -, rfl⟩ := List.mem_map.mp member
      exact ⟨kind, rfl⟩
    · obtain ⟨event, member, gone⟩ := List.mem_flatMap.mp removed
      rw [events] at member
      obtain ⟨another, asked, rfl⟩ := List.mem_map.mp member
      obtain ⟨fails, path⟩ := (removes_failed generator.getToolPath _ _).mp gone
      rw [← (summary_paths_differ dump another kind).mp path, own another asked]
      exact fails

theorem reported_iff (generateText generateJson automatic : Bool) :
    ReportedOneByOne generator dump options store generateText generateJson automatic ↔
      generator.treatsAlike generateText generateJson := by
  by_cases can : generator.canRun = true
  · obtain ⟨error, events⟩ := events_shared generator dump options store can generateText generateJson automatic
    rw [shared_reported generator dump options store generateText generateJson automatic _ error events,
      shared_result generator dump options store can]
    simp only [own_result generator dump options store can, SummaryGenerator.treatsAlike, can, true_and]
    cases generateText <;> cases generateJson <;> cases text : (generator.run .text).succeeds <;>
      cases json : (generator.run .json).succeeds <;> simp [requestedKinds, text, json]
  · by_cases asked : generateText = true ∨ generateJson = true
    · have idle : generator.canRun = false := Bool.eq_false_iff.mpr can
      refine iff_of_false (fun reported => ?_) (fun alike => can (alike asked).1)
      have silent := cannot_run generator dump options store generateText generateJson asked idle automatic
      obtain ⟨kind, requested⟩ : ∃ kind, kind ∈ requestedKinds generateText generateJson := by
        obtain text | json := asked
        · exact ⟨.text, by simp [requestedKinds, text]⟩
        · exact ⟨.json, by simp [requestedKinds, json]⟩
      have delivered := reported.delivered kind
      rw [silent, if_pos requested] at delivered
      cases delivered
    · refine iff_of_true ?_ (fun some => absurd some asked)
      have neither : generateText = false ∧ generateJson = false := by simpa using asked
      obtain ⟨rfl, rfl⟩ := neither
      exact ⟨fun kind => by simp [SummaryGenerator.generateSummaries, Generation.events, requestedKinds],
        by simp [SummaryGenerator.generateSummaries, Generation.events],
        by simp [SummaryGenerator.generateSummaries, Generation.events]⟩

-- What the dump's own name makes of it: the suffix starts at the first dot.
theorem dump_suffix : dump.path.completeSuffix = kRgdFileExtension ↔ '.' ∉ dump.base :=
  after_first_append_iff '.' dump.base kRgdFileExtension

theorem removed_with_dump_iff : RemovedWithDump dump store ↔ removesItsOwn dump store := by
  by_cases plain : '.' ∉ dump.base
  · refine iff_of_true (fun path file found => ?_) (.inl plain)
    have suffix := (dump_suffix dump).mpr plain
    obtain ⟨kind, rfl⟩ := store.placed path file found
    rw [CrashAnalysisViewModel.removedFile, if_neg (by simp [suffix])]
    constructor
    · intro removed
      obtain text | json : file.origin.summaryPath kind = dump.summaryPath .text ∨
          file.origin.summaryPath kind = dump.summaryPath .json := by
        simpa [CrashDump.summaryPath] using removed
      · exact (file.origin.summary_path_injective dump kind .text text).1
      · exact (file.origin.summary_path_injective dump kind .json json).1
    · rintro rfl
      cases kind <;> simp [CrashDump.summaryPath]
  · have suffix : dump.path.completeSuffix ≠ kRgdFileExtension := fun found => plain ((dump_suffix dump).mp found)
    have nothing : CrashAnalysisViewModel.removedFile dump.path = [] := by
      rw [CrashAnalysisViewModel.removedFile, if_pos suffix]
    rw [RemovedWithDump, removesItsOwn, nothing, or_iff_right plain]
    simp

theorem summaries_one_by_one_iff (generateText generateJson automatic : Bool) :
    ReportedOneByOne generator dump options store generateText generateJson automatic ∧ RemovedWithDump dump store ↔
      generator.treatsAlike generateText generateJson ∧ removesItsOwn dump store :=
  and_congr (reported_iff generator dump options store generateText generateJson automatic)
    (removed_with_dump_iff dump store)

end

def jsonFails : SummaryGenerator where
  dumpExists := true
  rgdPath := some "rgd"
  toolExists := true
  run
    | .text => ⟨[false], false, 0, some 100⟩
    | .json => ⟨[], false, 1, none⟩

-- Both are asked for and only the JSON run fails: the text summary is removed too.
theorem failed_json_removes_text :
    ¬ ∀ (generator : SummaryGenerator) (dump : CrashDump) (options : RgdSummaryOptions) (store : SummaryStore)
      (generateText generateJson automatic : Bool),
        ReportedOneByOne generator dump options store generateText generateJson automatic ∧
          RemovedWithDump dump store := by
  intro claimed
  have reported := (claimed jsonFails ⟨"dumps", ['a']⟩ ⟨false, false, [], false⟩ .empty true true false).1
  exact reported.kept .text (by decide) (by decide)

end RadeonPanel.CrashAnalysis
