import Mathlib.Logic.Function.Basic
import RadeonPanel.Base.History
import RadeonPanel.Base.Keyed
import RadeonPanel.Base.Runs
import RadeonPanel.Connections.Types

set_option autoImplicit false

namespace RadeonPanel.CaptureApi.MemoryStreams

open Interleaving RadeonPanel.Ubertrace

-- `buffer` holds the bytes that have been written, `size` of them.
structure StreamData where
  buffer : List UInt8
  isOpen : Bool
deriving DecidableEq, Repr

-- Reading and telling change nothing that is modelled.
inductive StreamUse where
  | write (bytes : List UInt8)
  | seek (position : Nat)
deriving DecidableEq, Repr

-- A stream object keeps its own position in the shared data.
def StreamUse.apply (buffer : List UInt8) (index : Nat) : StreamUse → List UInt8 × Nat
  | .write bytes =>
      let next := index + bytes.length
      (buffer.take index ++ bytes ++ buffer.drop next, next)
  | .seek position => (buffer, if position > buffer.length then index else position)

def useStream (buffer : List UInt8) (index : Nat) : List StreamUse → List UInt8
  | [] => buffer
  | use :: rest => let r := use.apply buffer index; useStream r.1 r.2 rest

structure MemoryReadWriteStreamProvider where
  data : List (String × StreamData)
  streamIndex : Nat
deriving DecidableEq, Repr

namespace MemoryReadWriteStreamProvider

variable (p : MemoryReadWriteStreamProvider)

def nextPath : String := Nat.repr p.streamIndex

-- `insert` keeps an entry that exists.
def createStream : MemoryReadWriteStreamProvider :=
  { data := if (Keyed.lookup Prod.fst p.data p.nextPath).isSome then p.data else (p.nextPath, ⟨[], true⟩) :: p.data
    streamIndex := p.streamIndex + 1 }

def modify (path : String) (f : StreamData → StreamData) : MemoryReadWriteStreamProvider :=
  { p with data := Keyed.modify Prod.fst p.data path fun entry => (entry.1, f entry.2) }

def openReadWriteStream (path : String) : Option MemoryReadWriteStreamProvider :=
  (Keyed.lookup Prod.fst p.data path).map fun _ => p.modify path fun d => { d with isOpen := true }

def close (path : String) : MemoryReadWriteStreamProvider := p.modify path fun d => { d with isOpen := false }

def write (path : String) (uses : List StreamUse) : MemoryReadWriteStreamProvider :=
  p.modify path fun d => { d with buffer := useStream d.buffer 0 uses }

def consumeStream (path : String) : Option (MemoryReadWriteStreamProvider × List UInt8) :=
  match Keyed.lookup Prod.fst p.data path with
  | none => none
  | some entry =>
      if entry.2.isOpen then none else some ({ p with data := Keyed.remove Prod.fst p.data path }, entry.2.buffer)

def paths : List String := Keyed.keys Prod.fst p.data

end MemoryReadWriteStreamProvider

inductive Feature where
  | profiling
  | memoryTrace
  | raytracing
  | crashAnalysis
deriving DecidableEq, Repr

structure TraceCompletionResult where
  status : TraceCompletionStatus
  path : String
  umdConnectionId : DdConnectionId
deriving DecidableEq, Repr

inductive RdpCaptureResult where
  | success
  | failure
  | aborted
  | unknown
deriving DecidableEq, Repr

def getCaptureResultForTraceCompletionStatus : TraceCompletionStatus → RdpCaptureResult
  | .completed => .success
  | .error => .failure
  | .aborted => .aborted
  | .unknown | .needProcessing => .unknown

-- One capture of a client, or one dump. `path` is the local variable that the
-- writers are asked for with.
structure Capture where
  feature : Feature
  umdConnectionId : DdConnectionId
  additionalChunkWriter : Bool
  onCompleted : Bool
  isLegacy : Bool
  path : String
  additionalChunkResult : Result
deriving DecidableEq, Repr

inductive Phase where
  | polling (c : Capture)
  | postProcessing (c : Capture)
  | reporting (c : Capture) (status : TraceCompletionStatus)
deriving DecidableEq, Repr

-- The end of a transfer is where the additional chunks are written.
structure ChunkAnswer where
  uses : List StreamUse
  result : Result
deriving DecidableEq, Repr

-- What the driver does with a writer: the bytes it writes, whether it ends the
-- transfer, and what it returns.
structure CollectAnswer where
  result : DdResult
  writes : List StreamUse
  ended : Option ChunkAnswer
deriving DecidableEq, Repr

structure SpmAnswer where
  uses : List StreamUse
  result : Result
  aborted : Bool
deriving DecidableEq, Repr

inductive Event where
  | created (path : String)
  | used (path : String) (uses : List StreamUse)
  | consumed (path : String)
  | traceFinished (id : DdConnectionId) (result : RdpCaptureResult) (trace : Option (String × List UInt8))
  | freed (path : String)
deriving DecidableEq, Repr

-- `queue` is the completion queues of the trace sources, and `log` newest first.
structure State where
  provider : MemoryReadWriteStreamProvider
  captures : List (Nat × Phase)
  queue : List (Feature × TraceCompletionResult)
  hasCallback : Feature → Bool
  log : List Event

namespace State

variable (s : State)

def record (event : Event) : State := { s with log := event :: s.log }

def setPhase (id : Nat) (phase : Phase) : State :=
  { s with captures := (id, phase) :: Keyed.remove Prod.fst s.captures id }

def finish (id : Nat) : State := { s with captures := Keyed.remove Prod.fst s.captures id }

def useWith (path : String) (uses : List StreamUse) : State :=
  { s with provider := s.provider.write path uses }.record (.used path uses)

-- GetByteWriter and GetRdfWriter, and the driver's calls of the writer. Without
-- the end the stream stays open.
def collectTrace (c : Capture) (answer : CollectAnswer) : State × Capture :=
  let path := s.provider.nextPath
  let created := { s with provider := s.provider.createStream }.record (.created path)
  match answer.ended with
  | none => (created.useWith path answer.writes, { c with path := path })
  | some chunks =>
      let written := created.useWith path (answer.writes ++ if c.additionalChunkWriter then chunks.uses else [])
      ({ written with provider := written.provider.close path },
        { c with
          path := path
          additionalChunkResult := if c.additionalChunkWriter then chunks.result else c.additionalChunkResult })

end State

-- RMV's dump, RGD's crash dump and RGP's legacy capture transfer once.
def transferStatus (c : Capture) (result : DdResult) (aborted spm : Bool) : TraceCompletionStatus :=
  if result = .success then
    if c.additionalChunkResult ≠ .success then .error
    else if c.isLegacy && spm then .needProcessing else .completed
  else if c.isLegacy && aborted then .aborted else .error

def SpmAnswer.status (answer : SpmAnswer) : TraceCompletionStatus :=
  if answer.result = .success then .completed else if answer.aborted then .aborted else .error

-- `reportWithoutTrace` is a capture that ends without having asked for a writer.
inductive Action where
  | begin (id : Nat) (c : Capture)
  | poll (id : Nat) (answer : CollectAnswer)
  | leaveLoop (id : Nat) (cancelled : Bool)
  | transfer (id : Nat) (c : Capture) (answer : CollectAnswer) (aborted spm : Bool)
  | reportWithoutTrace (id : Nat) (c : Capture) (cancelled : Bool)
  | postProcess (id : Nat) (answer : Option SpmAnswer)
  | report (id : Nat)
  | deliver (feature : Feature)
  | setTraceFinishedCallback (feature : Feature) (registered : Bool)
deriving DecidableEq, Repr

section Step
variable (features : UbertraceFeatures) (s : State)

def State.phaseOf (id : Nat) : Option Phase := (Keyed.lookup Prod.fst s.captures id).map Prod.snd

-- An answer that is neither success nor not ready is only logged: no file was
-- written, and the loop goes on.
def State.polled (id : Nat) (c : Capture) (answer : CollectAnswer) : State :=
  let r := s.collectTrace c answer
  if answer.result = features.getTraceReadyCode then r.1.setPhase id (.polling r.2)
  else if answer.result = .success then
    if r.2.additionalChunkResult ≠ .success then r.1.setPhase id (.reporting r.2 .error)
    else if r.2.onCompleted then r.1.setPhase id (.postProcessing r.2)
    else r.1.setPhase id (.reporting r.2 .completed)
  else r.1.setPhase id (.polling r.2)

-- RGP's completion function does nothing when counters have been turned off by
-- now, the legacy client has none. A stream that cannot be opened ends the process.
def State.postProcessed (id : Nat) (c : Capture) : Option SpmAnswer → Option State
  | none => if c.isLegacy then none else some (s.finish id)
  | some answer =>
      (s.provider.openReadWriteStream c.path).map fun opened =>
        let used := { s with provider := opened }.useWith c.path answer.uses
        { used with provider := used.provider.close c.path }.setPhase id (.reporting c answer.status)

def State.reported (id : Nat) (c : Capture) (status : TraceCompletionStatus) : State :=
  let pushed : State := { s with queue := s.queue ++ [(c.feature, ⟨status, c.path, c.umdConnectionId⟩)] }
  if status = .needProcessing then pushed.setPhase id (.postProcessing c) else pushed.finish id

def State.onTraceCompletionEvent (feature : Feature) (result : TraceCompletionResult) : State :=
  if !s.hasCallback feature then s
  else
    let apiResult := getCaptureResultForTraceCompletionStatus result.status
    if apiResult ≠ .success then s.record (.traceFinished result.umdConnectionId apiResult none)
    else
      match s.provider.consumeStream result.path with
      | none => s
      | some (provider, bytes) =>
          (({ s with provider := provider }.record (.consumed result.path)).record
            (.traceFinished result.umdConnectionId apiResult (some (result.path, bytes)))).record (.freed result.path)

def State.next : Action → Option State
  | .begin id c =>
      if (s.phaseOf id).isNone then
        some (s.setPhase id (.polling { c with path := "", additionalChunkResult := .success }))
      else none
  | .poll id answer =>
      match s.phaseOf id with
      | some (.polling c) => some (s.polled features id c answer)
      | _ => none
  | .leaveLoop id cancelled =>
      match s.phaseOf id with
      | some (.polling c) =>
          some (s.setPhase id (.reporting { c with path := "" } (if cancelled then .aborted else .error)))
      | _ => none
  | .transfer id c answer aborted spm =>
      if (s.phaseOf id).isNone then
        let r := s.collectTrace c answer
        some (r.1.setPhase id (.reporting r.2 (transferStatus r.2 answer.result aborted spm)))
      else none
  | .reportWithoutTrace id c cancelled =>
      if (s.phaseOf id).isNone then
        some (s.setPhase id (.reporting { c with path := "" } (if cancelled then .aborted else .error)))
      else none
  | .postProcess id answer =>
      match s.phaseOf id with
      | some (.postProcessing c) => s.postProcessed id c answer
      | _ => none
  | .report id =>
      match s.phaseOf id with
      | some (.reporting c status) => some (s.reported id c status)
      | _ => none
  | .deliver feature =>
      (Keyed.lookup Prod.fst s.queue feature).map fun first =>
        { s with queue := Keyed.remove Prod.fst s.queue feature }.onTraceCompletionEvent first.1 first.2
  | .setTraceFinishedCallback feature registered =>
      some { s with hasCallback := Function.update s.hasCallback feature registered }

end Step

def memoryStreams (features : UbertraceFeatures) : Machine State Action :=
  ⟨⟨⟨[], 0⟩, [], [], fun _ => false, []⟩, State.next features⟩

def createdPath : Event → Option String
  | .created path => some path
  | .used _ _ | .consumed _ | .traceFinished _ _ _ | .freed _ => none

def consumedPath : Event → Option String
  | .consumed path => some path
  | .created _ | .used _ _ | .traceFinished _ _ _ | .freed _ => none

def freedPath : Event → Option String
  | .freed path => some path
  | .created _ | .used _ _ | .consumed _ | .traceFinished _ _ _ => none

def created (log : List Event) : List String := log.filterMap createdPath

def consumed (log : List Event) : List String := log.filterMap consumedPath

def freed (log : List Event) : List String := log.filterMap freedPath

-- What has been written to a stream since it was created.
def written (path : String) : List Event → List UInt8
  | [] => []
  | .created new :: older => if new = path then [] else written path older
  | .used stream uses :: older =>
      if stream = path then useStream (written path older) 0 uses else written path older
  | .consumed _ :: older | .traceFinished _ _ _ :: older | .freed _ :: older => written path older

def deliversWritten : Event → List Event → Prop
  | .traceFinished _ _ (some (path, bytes)), older => bytes = written path older
  | .traceFinished _ _ none, _ | .created _, _ | .used _ _, _ | .consumed _, _ | .freed _, _ => True

-- A stream is taken out of the provider and freed at most once, and what is
-- handed out is what was written to it.
structure State.HandsOutOnce (s : State) : Prop where
  distinct : (created s.log).Nodup
  released : (freed s.log ++ s.provider.paths).Perm (created s.log)
  consumed : consumed s.log = freed s.log
  delivered : AtEach deliversWritten s.log

structure State.Quiet (s : State) : Prop where
  finished : s.captures = []
  delivered : s.queue = []

structure State.Released (s : State) : Prop where
  empty : s.provider.data = []
  once : (freed s.log).Perm (created s.log)

-- A poll or transfer brings the whole trace, its processing succeeds, and its
-- event finds a callback and a stream that has been closed.
def State.keepsStream (s : State) : Action → Bool
  | .poll id answer =>
      match s.phaseOf id with
      | some (.polling c) =>
          answer.result = .success && (s.collectTrace c answer).2.additionalChunkResult = .success
      | _ => true
  | .transfer _ c answer _ _ =>
      answer.result = .success && (s.collectTrace c answer).2.additionalChunkResult = .success
  | .postProcess _ answer => answer.any fun a => a.result = .success
  | .deliver feature =>
      match Keyed.lookup Prod.fst s.queue feature with
      | some (_, ⟨.completed, path, _⟩) =>
          s.hasCallback feature && (Keyed.lookup Prod.fst s.provider.data path).any fun entry => !entry.2.isOpen
      | _ => true
  | .begin _ _ | .leaveLoop _ _ | .reportWithoutTrace _ _ _ | .report _ | .setTraceFinishedCallback _ _ => true

end RadeonPanel.CaptureApi.MemoryStreams
