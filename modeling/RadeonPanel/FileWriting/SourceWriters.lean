import RadeonPanel.Base.History
import RadeonPanel.Base.Memory
import RadeonPanel.Base.Runs
import RadeonPanel.FileWriting.RdfWriter

set_option autoImplicit false

namespace RadeonPanel.FileWriting

open Bytes Interleaving RadeonPanel.Ubertrace

-- The quotient `progress` by its two operands, none for 0.0.
structure WritingProgress where
  totalBytesToDump : UInt64
  numBytesDumped : UInt64
  progress : Option (UInt64 × UInt64)
deriving DecidableEq, Repr

-- `callback` says whether there is one.
structure WritingStatusEvent where
  listener : Nat
  callback : Bool
deriving DecidableEq, Repr

-- What a trace source gives its clients to write with; the last is what RGD's
-- wrapper gives its UberTrace client.
inductive WriterKind where
  | sourceByteWriter
  | sourceRdfWriter
  | rgdByteWriter
deriving DecidableEq, Repr

-- `stored` is a write of the RDF library, `wrote` one that the driver reports.
inductive Event where
  | registered (event : WritingStatusEvent)
  | beginCalled (announced : Option UInt64)
  | notified (event : WritingStatusEvent) (isWriting : Bool)
  | opened
  | beginReturned
  | stored (succeeded : Bool)
  | wrote (succeeded : Bool) (size : UInt64)
  | divided (numerator denominator : UInt64)
  | reported (progress : WritingProgress)
  | endCalled (result : DdResult)
  | postprocessed (written : Result)
  | closed
  | endReturned
deriving DecidableEq, Repr

def Event.begins : Event → Bool
  | .beginCalled _ => true
  | _ => false

def Event.run : Event → Option Result
  | .postprocessed written => some written
  | _ => none

-- The writer with the helper `base_`, which has a list of listeners of its own.
-- `stream` is none for a null pointer, else whether it is open.
structure Writer where
  kind : WriterKind
  stream : Option Bool
  statusEvents : List WritingStatusEvent
  baseStatusEvents : List WritingStatusEvent
  postprocess : Bool
  currentProgress : WritingProgress
  data : List UInt8
  log : List Event
deriving DecidableEq, Repr

namespace Writer

def create (kind : WriterKind) (stream : Bool) : Writer :=
  ⟨kind, if stream then some false else none, [], [], false, ⟨0, 0, none⟩, [], []⟩

variable (w : Writer)

def record (event : Event) : Writer := { w with log := event :: w.log }

def recordAll (events : List Event) : Writer := { w with log := events.reverse ++ w.log }

def registerWritingStatusEvent (event : WritingStatusEvent) : Writer :=
  match w.kind with
  | .sourceByteWriter => { w with baseStatusEvents := w.baseStatusEvents ++ [event] }.record (.registered event)
  | .sourceRdfWriter | .rgdByteWriter => { w with statusEvents := w.statusEvents ++ [event] }.record (.registered event)

def emitWritingStatusEvent (events : List WritingStatusEvent) (isWriting : Bool) : Writer :=
  w.recordAll ((events.filter (·.callback)).map fun event => .notified event isWriting)

def setPostProcessOperation (operation : Bool) : Writer :=
  match w.kind with
  | .sourceByteWriter | .sourceRdfWriter => { w with postprocess := operation }
  | .rgdByteWriter => w

-- A trace source gives every writer a function to report with.
def reportCurrentProgress : Writer := w.record (.reported w.currentProgress)

def beginWriting : Writer :=
  { w with currentProgress := ⟨0, 0, none⟩ }.emitWritingStatusEvent w.baseStatusEvents true

-- What both begin callbacks do once the transfer has begun. Nothing stands for
-- DD_RESULT_UNKNOWN, and the total goes through 32 bits.
def openStream (total : UInt64) (opened : Bool) : Writer × Option DdResult :=
  match w.stream with
  | none => (w, none)
  | some _ =>
      if opened then
        let w := { w with stream := some true }.record .opened
        let w := { w with currentProgress := { w.currentProgress with totalBytesToDump := total.toUInt32.toUInt64 } }
        (w.reportCurrentProgress, some .success)
      else (w, none)

-- What both write callbacks do once the bytes are written.
def countBytes (size : UInt64) : Writer × Option DdResult :=
  let num := w.currentProgress.numBytesDumped + size
  let total := max w.currentProgress.totalBytesToDump num
  let w := (w.record (.wrote true size)).record (.divided num total)
  ({ w with currentProgress := ⟨total, num, some (num, total)⟩ }.reportCurrentProgress, some .success)

def refuseBytes (size : UInt64) (result : Option DdResult) : Writer × Option DdResult :=
  (w.record (.wrote false size), result)

-- What both end callbacks do with the stream, whatever the result of the transfer.
def closeStream (written : Result) : Writer :=
  let w := if w.postprocess then w.record (.postprocessed written) else w
  { w with stream := some false }.record .closed

def byteWriterBegin (total : Option UInt64) (opened : Bool) : Writer × Option DdResult :=
  let r := (w.record (.beginCalled total)).beginWriting.openStream (total.getD 0) opened
  (r.1.record .beginReturned, r.2)

-- The assertions about `data` and its size are compiled out of a release.
def byteWriterWriteBytes (size : UInt64) (answer : Bool) (writtenBytes : Int64) : Writer × Option DdResult :=
  match w.stream with
  | none => w.refuseBytes size none
  | some _ => if !answer || writtenBytes ≠ size.toInt64 then w.refuseBytes size none else w.countBytes size

def byteWriterEnd (result : DdResult) (written : Result) : Writer :=
  let w := w.record (.endCalled result)
  let w := match w.stream with
    | none => w
    | some _ => w.closeStream written
  w.record .endReturned

def handleIoBegin (result : DdResult) (totalBytes : UInt64) (opened : Bool) : Writer × Option DdResult :=
  let w := (w.record (.beginCalled (some totalBytes))).beginWriting
  let r := if result ≠ .success then (w, some result) else w.openStream totalBytes opened
  (r.1.record .beginReturned, r.2)

def handleIoWrite (result : DdResult) (bytes : UInt64) : Writer × Option DdResult :=
  if result ≠ .success then w.refuseBytes bytes (some result) else w.countBytes bytes

def handleIoEnd (result : DdResult) (written : Result) : Writer × Option DdResult :=
  let w := w.record (.endCalled result)
  let w := match w.stream with
    | none => w
    | some _ => w.closeStream written
  (w.record .endReturned, some result)

def ioWriteHeartbeat (call : HeartbeatCall) (bytes : UInt64) : Writer × Option DdResult :=
  match call.status with
  | .ioBegin => w.handleIoBegin call.result bytes call.opened
  | .ioWrite => w.handleIoWrite call.result bytes
  | .ioEnd => w.handleIoEnd call.result call.written
  | .unknown => (w, none)

-- RgdByteWriter keeps what it is given in memory and has no progress.
def rgdWriterBegin (total : Option UInt64) : Writer × Option DdResult :=
  let w := w.record (.beginCalled total)
  (w.record .beginReturned, if total.isNone then none else some .success)

def rgdWriterWriteBytes (data : Option Memory) (size : UInt64) : Writer × Option DdResult :=
  match data with
  | none => w.refuseBytes size none
  | some bytes =>
      if size = 0 then w.refuseBytes size none
      else ({ w with data := w.data ++ bytes.block 0 size.toNat }.record (.wrote true size), some .success)

def rgdWriterEnd (result : DdResult) : Writer := (w.record (.endCalled result)).record .endReturned

end Writer

-- A registration, or one call of the driver or of the RDF library with what the stream
-- and the operation would answer to it.
inductive Call where
  | registerWritingStatusEvent (event : WritingStatusEvent)
  | setPostProcessOperation (operation : Bool)
  | writerBegin (total : Option UInt64) (opened : Bool)
  | writerWriteBytes (data : Option Memory) (size : UInt64) (answer : Bool) (writtenBytes : Int64)
  | writerEnd (result : DdResult) (written : Result)
  | heartbeat (call : HeartbeatCall) (bytes : UInt64)
  | streamWrite (answer : Bool)

-- A callback that the writer does not have, or that finds no stream to write to, has no successor.
def Writer.step (w : Writer) : Call → Option Writer
  | .registerWritingStatusEvent event => some (w.registerWritingStatusEvent event)
  | .setPostProcessOperation operation => some (w.setPostProcessOperation operation)
  | .writerBegin total opened =>
      match w.kind with
      | .sourceByteWriter => some (w.byteWriterBegin total opened).1
      | .rgdByteWriter => some (w.rgdWriterBegin total).1
      | .sourceRdfWriter => none
  | .writerWriteBytes data size answer writtenBytes =>
      match w.kind with
      | .sourceByteWriter => some (w.byteWriterWriteBytes size answer writtenBytes).1
      | .rgdByteWriter => some (w.rgdWriterWriteBytes data size).1
      | .sourceRdfWriter => none
  | .writerEnd result written =>
      match w.kind with
      | .sourceByteWriter => some (w.byteWriterEnd result written)
      | .rgdByteWriter => some (w.rgdWriterEnd result)
      | .sourceRdfWriter => none
  | .heartbeat call bytes => if w.kind = .sourceRdfWriter then some (w.ioWriteHeartbeat call bytes).1 else none
  | .streamWrite answer =>
      if w.kind = .sourceRdfWriter ∧ w.stream.isSome then some (w.record (.stored answer)) else none

-- What a call comes to. `begins` says whether the stream is opened, `ends` is for a
-- writer with a stream.
inductive Effect where
  | registers (event : WritingStatusEvent)
  | sets (operation : Bool)
  | begins (announced : Option UInt64) (opens : Bool)
  | beginsInMemory (announced : Option UInt64)
  | counts (size : UInt64)
  | refuses (size : UInt64)
  | remembers (bytes : Memory) (size : UInt64)
  | ends (result : DdResult) (written : Result)
  | endsAside (result : DdResult)
  | stores (succeeded : Bool)
  | nothing

namespace Writer

variable (w : Writer)

def effect : Call → Effect
  | .registerWritingStatusEvent event => .registers event
  | .setPostProcessOperation operation => .sets operation
  | .writerBegin total opened =>
      if w.kind = .rgdByteWriter then .beginsInMemory total else .begins total (w.stream.isSome && opened)
  | .writerWriteBytes data size answer writtenBytes =>
      if w.kind = .rgdByteWriter then
        match data with
        | none => .refuses size
        | some bytes => if size = 0 then .refuses size else .remembers bytes size
      else if w.stream.isSome && answer && writtenBytes = size.toInt64 then .counts size else .refuses size
  | .writerEnd result written =>
      if w.kind = .rgdByteWriter ∨ w.stream.isNone then .endsAside result else .ends result written
  | .heartbeat call bytes =>
      match call.status with
      | .ioBegin => .begins (some bytes) (call.result = .success && w.stream.isSome && call.opened)
      | .ioWrite => if call.result = .success then .counts bytes else .refuses bytes
      | .ioEnd => if w.stream.isNone then .endsAside call.result else .ends call.result call.written
      | .unknown => .nothing
  | .streamWrite answer => .stores answer

def perform : Effect → Writer
  | .registers event => w.registerWritingStatusEvent event
  | .sets operation => w.setPostProcessOperation operation
  | .begins announced opens =>
      let begun := (w.record (.beginCalled announced)).beginWriting
      (if opens then (begun.openStream (announced.getD 0) true).1 else begun).record .beginReturned
  | .beginsInMemory announced => (w.record (.beginCalled announced)).record .beginReturned
  | .counts size => (w.countBytes size).1
  | .refuses size => w.record (.wrote false size)
  | .remembers bytes size => { w with data := w.data ++ bytes.block 0 size.toNat }.record (.wrote true size)
  | .ends result written => ((w.record (.endCalled result)).closeStream written).record .endReturned
  | .endsAside result => (w.record (.endCalled result)).record .endReturned
  | .stores succeeded => w.record (.stored succeeded)
  | .nothing => w

-- Opening answers no where there is nothing to open.
theorem open_stream_eq (total : UInt64) (opened : Bool) :
    (w.openStream total opened).1 = if w.stream.isSome && opened then (w.openStream total true).1 else w := by
  cases stream : w.stream <;> cases opened <;> simp [openStream, stream]

theorem byte_begin_effect (total : Option UInt64) (opened : Bool) :
    (w.byteWriterBegin total opened).1 = w.perform (.begins total (w.stream.isSome && opened)) := by
  rw [byteWriterBegin, perform]
  dsimp only
  rw [open_stream_eq]
  rfl

theorem byte_write_effect (size : UInt64) (answer : Bool) (writtenBytes : Int64) :
    (w.byteWriterWriteBytes size answer writtenBytes).1 =
      w.perform (if w.stream.isSome && answer && writtenBytes = size.toInt64 then .counts size else .refuses size) := by
  cases stream : w.stream with
  | none => simp [byteWriterWriteBytes, stream, refuseBytes, perform]
  | some isOpen =>
      cases answer with
      | false => simp [byteWriterWriteBytes, stream, refuseBytes, perform]
      | true =>
          by_cases whole : writtenBytes = size.toInt64
          · simp [byteWriterWriteBytes, stream, whole, perform]
          · simp [byteWriterWriteBytes, stream, whole, refuseBytes, perform]

theorem end_effect (result : DdResult) (written : Result) :
    w.byteWriterEnd result written = w.perform (if w.stream.isNone then .endsAside result else .ends result written) := by
  cases stream : w.stream <;> simp [byteWriterEnd, record, stream, perform]

theorem heartbeat_effect (call : HeartbeatCall) (bytes : UInt64) :
    (w.ioWriteHeartbeat call bytes).1 = w.perform (w.effect (.heartbeat call bytes)) := by
  rw [ioWriteHeartbeat, effect]
  cases call.status with
  | ioBegin =>
      rw [handleIoBegin, perform]
      dsimp only
      by_cases success : call.result = .success
      · rw [if_neg (by simp [success]), open_stream_eq]
        simp [success, record, beginWriting, emitWritingStatusEvent, recordAll]
      · simp [success]
  | ioWrite => by_cases success : call.result = .success <;> simp [handleIoWrite, success, refuseBytes, perform]
  | ioEnd => exact w.end_effect call.result call.written
  | unknown => rfl

theorem step_effect (call : Call) (t : Writer) (taken : w.step call = some t) : t = w.perform (w.effect call) := by
  cases call with
  | registerWritingStatusEvent event => exact (Option.some.inj taken).symm
  | setPostProcessOperation operation => exact (Option.some.inj taken).symm
  | writerBegin total opened =>
      cases kind : w.kind <;> simp only [step, kind] at taken
      · rw [← Option.some.inj taken, byte_begin_effect, effect, if_neg (by simp [kind])]
      · cases taken
      · rw [← Option.some.inj taken, rgdWriterBegin, effect, if_pos kind]
        rfl
  | writerWriteBytes data size answer writtenBytes =>
      cases kind : w.kind <;> simp only [step, kind] at taken
      · rw [← Option.some.inj taken, byte_write_effect, effect.eq_def]
        simp [kind]
      · cases taken
      · rw [← Option.some.inj taken, effect.eq_def]
        cases data with
        | none => simp [kind, rgdWriterWriteBytes, refuseBytes, perform]
        | some bytes =>
            by_cases nothing : size = 0 <;> simp [kind, rgdWriterWriteBytes, nothing, refuseBytes, perform]
  | writerEnd result written =>
      cases kind : w.kind <;> simp only [step, kind] at taken
      · rw [← Option.some.inj taken, end_effect, effect]
        simp [kind]
      · cases taken
      · rw [← Option.some.inj taken, rgdWriterEnd, effect, if_pos (.inl kind)]
        rfl
  | heartbeat call bytes =>
      rw [step] at taken
      split at taken
      · rw [← Option.some.inj taken, heartbeat_effect]
      · cases taken
  | streamWrite answer =>
      rw [step] at taken
      split at taken
      · exact (Option.some.inj taken).symm
      · cases taken

-- Which effects a writer has.
def Fits : Effect → Prop
  | .begins _ opens => w.kind ≠ .rgdByteWriter ∧ (opens = true → w.stream.isSome = true)
  | .beginsInMemory _ | .remembers _ _ => w.kind = .rgdByteWriter
  | .counts _ => w.kind ≠ .rgdByteWriter
  | .ends _ _ => w.kind ≠ .rgdByteWriter ∧ w.stream.isSome = true
  | .endsAside _ => w.kind = .rgdByteWriter ∨ w.stream = none
  | _ => True

theorem writes_fit (data : Option Memory) (size : UInt64) (answer : Bool) (writtenBytes : Int64) :
    w.Fits (w.effect (.writerWriteBytes data size answer writtenBytes)) := by
  rw [effect.eq_def]
  dsimp only
  by_cases memory : w.kind = .rgdByteWriter
  · rw [if_pos memory]
    split
    · trivial
    · split
      · trivial
      · exact memory
  · rw [if_neg memory]
    split
    · exact memory
    · trivial

theorem heartbeat_fits (call : HeartbeatCall) (bytes : UInt64) (source : w.kind ≠ .rgdByteWriter) :
    w.Fits (w.effect (.heartbeat call bytes)) := by
  rw [effect]
  cases call.status with
  | ioBegin => exact ⟨source, fun opens => (Bool.and_eq_true_iff.mp (Bool.and_eq_true_iff.mp opens).1).2⟩
  | ioWrite =>
      dsimp only
      split
      · exact source
      · trivial
  | ioEnd =>
      cases stream : w.stream with
      | none => exact .inr stream
      | some isOpen => exact ⟨source, by simp [stream]⟩
  | unknown => trivial

theorem effect_fits (call : Call) (t : Writer) (taken : w.step call = some t) : w.Fits (w.effect call) := by
  cases call with
  | registerWritingStatusEvent event => trivial
  | setPostProcessOperation operation => trivial
  | writerBegin total opened =>
      rw [effect]
      by_cases memory : w.kind = .rgdByteWriter
      · rw [if_pos memory]
        exact memory
      · rw [if_neg memory]
        exact ⟨memory, fun opens => (Bool.and_eq_true_iff.mp opens).1⟩
  | writerWriteBytes data size answer writtenBytes => exact w.writes_fit data size answer writtenBytes
  | writerEnd result written =>
      rw [effect]
      split
      · next aside => exact aside.imp id Option.isNone_iff_eq_none.mp
      · next here =>
          rw [not_or, Bool.not_eq_true, Option.isNone_eq_false_iff] at here
          exact here
  | heartbeat call bytes =>
      have kind : w.kind = .sourceRdfWriter := by
        by_contra other
        rw [step, if_neg other] at taken
        cases taken
      exact w.heartbeat_fits call bytes (by simp [kind])
  | streamWrite answer => trivial

-- What a begin notifies, newest first.
def emitted : List Event := ((w.baseStatusEvents.filter (·.callback)).map fun event => .notified event true).reverse

theorem mem_emitted (event : Event) (member : event ∈ w.emitted) : ∃ status, event = .notified status true := by
  obtain ⟨status, -, same⟩ := List.mem_map.mp (List.mem_reverse.mp member)
  exact ⟨status, same.symm⟩

theorem emitted_between (event : Event) (member : event ∈ w.emitted) : event.begins = false := by
  obtain ⟨status, rfl⟩ := w.mem_emitted event member
  rfl

theorem since_begun (total : Option UInt64) :
    since Event.begins (w.emitted ++ .beginCalled total :: w.log) = w.emitted := by
  rw [since_append _ _ w.emitted_between, since_mark _ rfl, List.append_nil]

theorem up_to_begun (total : Option UInt64) :
    upTo Event.begins (w.emitted ++ .beginCalled total :: w.log) = .beginCalled total :: w.log := by
  rw [up_to_append _ _ w.emitted_between, up_to_mark _ rfl]

-- The effects on the log written out.
def counted (size : UInt64) : WritingProgress :=
  let num := w.currentProgress.numBytesDumped + size
  let total := max w.currentProgress.totalBytesToDump num
  ⟨total, num, some (num, total)⟩

theorem perform_counts (size : UInt64) :
    w.perform (.counts size) =
      { w with
        currentProgress := w.counted size
        log := .reported (w.counted size) :: .divided (w.counted size).numBytesDumped (w.counted size).totalBytesToDump ::
          .wrote true size :: w.log } := rfl

def openedEvents (announced : Option UInt64) : List Event :=
  [.reported ⟨(announced.getD 0).toUInt32.toUInt64, 0, none⟩, .opened]

theorem perform_begins (announced : Option UInt64) (opens : Bool) (held : opens = true → w.stream.isSome = true) :
    w.perform (.begins announced opens) =
      { w with
        stream := if opens then some true else w.stream
        currentProgress := ⟨if opens then (announced.getD 0).toUInt32.toUInt64 else 0, 0, none⟩
        log := .beginReturned :: ((if opens then openedEvents announced else []) ++
          (w.emitted ++ .beginCalled announced :: w.log)) } := by
  cases opens with
  | false => rfl
  | true =>
      obtain ⟨isOpen, stream⟩ := Option.isSome_iff_exists.mp (held rfl)
      simp [perform, openStream, beginWriting, emitWritingStatusEvent, recordAll, record, stream, openedEvents,
        reportCurrentProgress, emitted]

theorem perform_ends (result : DdResult) (written : Result) :
    w.perform (.ends result written) =
      { w with
        stream := some false
        log := .endReturned :: .closed ::
          ((if w.postprocess then [.postprocessed written] else []) ++ .endCalled result :: w.log) } := by
  cases operation : w.postprocess <;> simp [perform, closeStream, record, operation]

theorem begun_log (announced : Option UInt64) :
    ((w.record (.beginCalled announced)).beginWriting).log = w.emitted ++ .beginCalled announced :: w.log := rfl

theorem open_stream_extends (total : UInt64) (opened : Bool) :
    (w.openStream total opened).1.kind = w.kind ∧ ∃ events, (w.openStream total opened).1.log = events ++ w.log := by
  cases stream : w.stream with
  | none => exact ⟨by simp [openStream, stream], [], by simp [openStream, stream]⟩
  | some isOpen =>
      cases opened with
      | false => exact ⟨by simp [openStream, stream], [], by simp [openStream, stream]⟩
      | true => exact ⟨by simp [openStream, stream, record, reportCurrentProgress],
          [.reported ⟨total.toUInt32.toUInt64, w.currentProgress.numBytesDumped, w.currentProgress.progress⟩, .opened],
          by simp [openStream, stream, record, reportCurrentProgress]⟩

-- No effect changes the kind or forgets an event.
theorem perform_extends (e : Effect) : (w.perform e).kind = w.kind ∧ ∃ events, (w.perform e).log = events ++ w.log := by
  cases e with
  | registers event =>
      rw [perform, registerWritingStatusEvent]
      split <;> exact ⟨rfl, [_], rfl⟩
  | sets operation =>
      rw [perform, setPostProcessOperation]
      split <;> exact ⟨rfl, [], rfl⟩
  | begins announced opens =>
      obtain ⟨kind, events, log⟩ := open_stream_extends ((w.record (.beginCalled announced)).beginWriting) (announced.getD 0) true
      rw [begun_log] at log
      rw [perform]
      cases opens with
      | false =>
          refine ⟨rfl, .beginReturned :: (w.emitted ++ [.beginCalled announced]), ?_⟩
          rw [List.cons_append, List.append_assoc]
          rfl
      | true =>
          refine ⟨kind, .beginReturned :: (events ++ (w.emitted ++ [.beginCalled announced])), ?_⟩
          rw [List.cons_append, List.append_assoc, List.append_assoc]
          exact congrArg (List.cons _) log
  | beginsInMemory announced => exact ⟨rfl, [.beginReturned, .beginCalled announced], rfl⟩
  | counts size => exact ⟨rfl, [_, _, .wrote true size], rfl⟩
  | refuses size => exact ⟨rfl, [.wrote false size], rfl⟩
  | remembers bytes size => exact ⟨rfl, [.wrote true size], rfl⟩
  | ends result written =>
      rw [perform_ends]
      exact ⟨rfl, .endReturned :: .closed :: ((if w.postprocess then [.postprocessed written] else []) ++ [.endCalled result]),
        by simp⟩
  | endsAside result => exact ⟨rfl, [.endReturned, .endCalled result], rfl⟩
  | stores succeeded => exact ⟨rfl, [.stored succeeded], rfl⟩
  | nothing => exact ⟨rfl, [], rfl⟩

theorem each_before (p : Event → List Event → Prop) (e : Effect) (each : AtEach p (w.perform e).log) : AtEach p w.log := by
  obtain ⟨-, events, log⟩ := w.perform_extends e
  rw [log] at each
  exact at_each_older p events w.log each

-- The results of the operation's runs, newest first.
def runs (log : List Event) : List Result := log.filterMap Event.run

theorem runs_cons (event : Event) (log : List Event) : runs (event :: log) = event.run.toList ++ runs log := by
  cases found : event.run <;> simp [runs, found]

theorem runs_emitted (log : List Event) : runs (w.emitted ++ log) = runs log := by
  have none_ran : w.emitted.filterMap Event.run = [] := by
    rw [List.filterMap_eq_nil_iff]
    intro event member
    obtain ⟨status, rfl⟩ := w.mem_emitted event member
    rfl
  rw [runs, List.filterMap_append, none_ran, List.nil_append, runs]

-- The writer as the function that dumps sees it: the stream and what the operation gave.
def dumping (indeterminate : Result) : RdfWriter := ⟨w.stream, (runs w.log).headD indeterminate, runs w.log⟩

theorem begun_runs (announced : Option UInt64) :
    runs ((w.record (.beginCalled announced)).beginWriting).log = runs w.log :=
  w.runs_emitted (.beginCalled announced :: w.log)

theorem heartbeat_dumping (indeterminate : Result) (call : HeartbeatCall) (bytes : UInt64) (operation : w.postprocess = true) :
    (w.ioWriteHeartbeat call bytes).2 = ((w.dumping indeterminate).ioWriteHeartbeat call).2 ∧
      (w.ioWriteHeartbeat call bytes).1.dumping indeterminate = ((w.dumping indeterminate).ioWriteHeartbeat call).1 := by
  rw [ioWriteHeartbeat, RdfWriter.ioWriteHeartbeat]
  cases call.status with
  | ioBegin =>
      have begun := w.begun_runs (some bytes)
      have stream : ((w.record (.beginCalled (some bytes))).beginWriting).stream = w.stream := rfl
      simp only [handleIoBegin, RdfWriter.handleIoBegin]
      generalize (w.record (.beginCalled (some bytes))).beginWriting = v at begun stream ⊢
      by_cases success : call.result = .success
      · cases held : w.stream with
        | none => simp [success, openStream, stream, held, dumping, record, runs_cons, Event.run, begun]
        | some isOpen =>
            cases call.opened <;>
              simp [success, openStream, stream, held, dumping, reportCurrentProgress, record, runs_cons, Event.run, begun]
      · simp [success, stream, dumping, record, runs_cons, Event.run, begun]
  | ioWrite =>
      by_cases success : call.result = .success
      · simp [handleIoWrite, RdfWriter.handleIoWrite, success, countBytes, dumping, reportCurrentProgress, record, runs_cons, Event.run]
      · simp [handleIoWrite, RdfWriter.handleIoWrite, success, refuseBytes, dumping, record, runs_cons, Event.run]
  | ioEnd =>
      cases stream : w.stream with
      | none => simp [handleIoEnd, RdfWriter.handleIoEnd, stream, dumping, record, runs_cons, Event.run]
      | some isOpen =>
          simp [handleIoEnd, RdfWriter.handleIoEnd, stream, dumping, closeStream, operation, record, runs_cons, Event.run]
  | unknown => exact ⟨rfl, rfl⟩

end Writer

def writerMachine (kind : WriterKind) (stream : Bool) : Machine Writer Call where
  init := Writer.create kind stream
  step := Writer.step

end RadeonPanel.FileWriting
