import Mathlib
import RadeonPanel.CaptureApi.MemoryStreams

set_option autoImplicit false

namespace RadeonPanel.CaptureApi.MemoryStreams

open Interleaving RadeonPanel.Ubertrace

namespace MemoryReadWriteStreamProvider

variable (p : MemoryReadWriteStreamProvider) (path : String)

theorem create_paths (fresh : p.nextPath ∉ p.paths) : p.createStream.paths = p.nextPath :: p.paths := by
  have absent : Keyed.lookup Prod.fst p.data p.nextPath = none := (Keyed.lookup_none Prod.fst p.data _).mpr fresh
  simp [createStream, absent, paths, Keyed.keys]

theorem modify_paths (f : StreamData → StreamData) : (p.modify path f).paths = p.paths :=
  Keyed.modify_keys Prod.fst p.data path _ fun _ same => same

theorem opened_paths (opened : MemoryReadWriteStreamProvider) (found : p.openReadWriteStream path = some opened) :
    opened = p.modify path fun d => { d with isOpen := true } := by
  obtain ⟨_, _, same⟩ := Option.map_eq_some_iff.mp found
  exact same.symm

theorem consume_cases (q : MemoryReadWriteStreamProvider) (bytes : List UInt8)
    (taken : p.consumeStream path = some (q, bytes)) :
    ∃ entry ∈ p.data, entry.1 = path ∧ entry.2.buffer = bytes ∧ p.data.Perm (entry :: q.data) ∧
      q.streamIndex = p.streamIndex := by
  rw [consumeStream] at taken
  cases found : Keyed.lookup Prod.fst p.data path with
  | none =>
      simp only [found] at taken
      cases taken
  | some entry =>
      simp only [found] at taken
      split at taken
      · cases taken
      · cases taken
        obtain ⟨member, named⟩ := Keyed.lookup_mem Prod.fst p.data path entry found
        exact ⟨entry, member, named, rfl, Keyed.remove_perm Prod.fst p.data path entry found, rfl⟩

theorem consume_closed :
    (p.consumeStream path).isSome = (Keyed.lookup Prod.fst p.data path).any fun entry => !entry.2.isOpen := by
  rw [consumeStream]
  cases Keyed.lookup Prod.fst p.data path with
  | none => rfl
  | some entry =>
      rw [Option.any_some]
      cases state : entry.2.isOpen <;> simp [state]

end MemoryReadWriteStreamProvider

structure State.Traced (s : State) : Prop where
  indexed : created s.log = ((List.range s.provider.streamIndex).map Nat.repr).reverse
  released : (freed s.log ++ s.provider.paths).Perm (created s.log)
  consumed : consumed s.log = freed s.log
  content : ∀ entry ∈ s.provider.data, entry.2.buffer = written entry.1 s.log
  delivered : AtEach deliversWritten s.log

theorem indexed_distinct (n : Nat) : ((List.range n).map Nat.repr).reverse.Nodup := by
  refine List.nodup_reverse.mpr (List.Nodup.map ?_ List.nodup_range)
  intro i j same
  exact Nat.repr_inj.mp same

section Traced
variable (s t : State) (traced : s.Traced)
include traced

theorem created_distinct : (created s.log).Nodup := by
  rw [traced.indexed]
  exact indexed_distinct s.provider.streamIndex

theorem paths_distinct : s.provider.paths.Nodup :=
  ((traced.released.nodup_iff.mpr (created_distinct s traced)).of_append_right)

theorem next_path_fresh : s.provider.nextPath ∉ s.provider.paths := by
  intro held
  have created := traced.released.mem_iff.mp (List.mem_append_right _ held)
  rw [traced.indexed, List.mem_reverse, List.mem_map] at created
  obtain ⟨i, below, same⟩ := created
  have equal : i = s.provider.streamIndex := Nat.repr_inj.mp same
  exact absurd (List.mem_range.mp below) (by omega)

theorem traced_same (provider : t.provider = s.provider) (log : t.log = s.log) : t.Traced := by
  obtain ⟨indexed, released, consumed, content, delivered⟩ := traced
  exact ⟨by rw [provider, log]; exact indexed, by rw [provider, log]; exact released, by rw [log]; exact consumed,
    by rw [provider, log]; exact content, by rw [log]; exact delivered⟩

theorem traced_created : ({ s with provider := s.provider.createStream }.record (.created s.provider.nextPath)).Traced := by
  have fresh := next_path_fresh s traced
  obtain ⟨indexed, released, consumed, content, delivered⟩ := traced
  constructor
  · show s.provider.nextPath :: created s.log = _
    rw [indexed]
    simp [State.record, MemoryReadWriteStreamProvider.createStream, MemoryReadWriteStreamProvider.nextPath,
      List.range_succ]
  · show (freed s.log ++ s.provider.createStream.paths).Perm (s.provider.nextPath :: created s.log)
    rw [MemoryReadWriteStreamProvider.create_paths s.provider fresh]
    exact List.perm_middle.trans (released.cons _)
  · exact consumed
  · intro entry member
    have absent : Keyed.lookup Prod.fst s.provider.data s.provider.nextPath = none :=
      (Keyed.lookup_none Prod.fst s.provider.data _).mpr fresh
    simp only [State.record, MemoryReadWriteStreamProvider.createStream, absent, Option.isSome_none] at member ⊢
    obtain rfl | before := List.mem_cons.mp member
    · simp [written]
    · have apart : s.provider.nextPath ≠ entry.1 := fun same => fresh (same ▸ List.mem_map_of_mem before)
      rw [written, if_neg apart]
      exact content entry before
  · exact ⟨trivial, delivered⟩

theorem traced_used (path : String) (uses : List StreamUse) : (s.useWith path uses).Traced := by
  have distinct := paths_distinct s traced
  obtain ⟨indexed, released, consumed, content, delivered⟩ := traced
  constructor
  · exact indexed
  · show (freed s.log ++ (s.provider.write path uses).paths).Perm (created s.log)
    rw [MemoryReadWriteStreamProvider.write, MemoryReadWriteStreamProvider.modify_paths]
    exact released
  · exact consumed
  · intro entry member
    show entry.2.buffer = written entry.1 (.used path uses :: s.log)
    obtain ⟨apart, before⟩ | ⟨old, before, named, rfl⟩ := Keyed.modify_mem Prod.fst _ _ _ distinct entry member
    · rw [written, if_neg (Ne.symm apart)]
      exact content entry before
    · rw [written, if_pos named.symm, ← content old before]
  · exact ⟨trivial, delivered⟩

theorem traced_marked (path : String) (isOpen : Bool) :
    State.Traced { s with provider := s.provider.modify path fun d => { d with isOpen := isOpen } } := by
  have distinct := paths_distinct s traced
  obtain ⟨indexed, released, consumed, content, delivered⟩ := traced
  refine ⟨indexed, ?_, consumed, ?_, delivered⟩
  · show (freed s.log ++ (s.provider.modify path _).paths).Perm (created s.log)
    rw [MemoryReadWriteStreamProvider.modify_paths]
    exact released
  · intro entry member
    obtain ⟨_, before⟩ | ⟨old, before, _, rfl⟩ := Keyed.modify_mem Prod.fst _ _ _ distinct entry member
    · exact content entry before
    · exact content old before

theorem traced_told (id : DdConnectionId) (result : RdpCaptureResult) : (s.record (.traceFinished id result none)).Traced := by
  obtain ⟨indexed, released, consumed, content, delivered⟩ := traced
  exact ⟨indexed, released, consumed, content, trivial, delivered⟩

theorem traced_consumed (path : String) (q : MemoryReadWriteStreamProvider) (bytes : List UInt8) (id : DdConnectionId)
    (result : RdpCaptureResult) (taken : s.provider.consumeStream path = some (q, bytes)) :
    (((({ s with provider := q } : State).record (.consumed path)).record
      (.traceFinished id result (some (path, bytes)))).record (.freed path)).Traced := by
  obtain ⟨entry, member, rfl, rfl, perm, index⟩ := s.provider.consume_cases path q bytes taken
  obtain ⟨indexed, released, consumed, content, delivered⟩ := traced
  refine ⟨?_, ?_, ?_, ?_, trivial, content entry member, trivial, delivered⟩
  · show created s.log = _
    rw [indexed]
    simp [State.record, index]
  · show (entry.1 :: freed s.log ++ q.paths).Perm (created s.log)
    have keys : s.provider.paths.Perm (entry.1 :: q.paths) := perm.map Prod.fst
    exact (List.perm_middle.symm.trans (keys.symm.append_left (freed s.log))).trans released
  · show entry.1 :: MemoryStreams.consumed s.log = entry.1 :: freed s.log
    rw [consumed]
  · intro other left
    exact content other (perm.mem_iff.mpr (List.mem_cons_of_mem _ left))

end Traced

-- A writer that has been asked for is a new stream of the provider.
structure State.Collects (s t : State) (path : String) : Prop where
  traced : t.Traced
  paths : t.provider.paths = path :: s.provider.paths
  captures : t.captures = s.captures
  queue : t.queue = s.queue

theorem used_paths (s : State) (path : String) (uses : List StreamUse) :
    (s.useWith path uses).provider.paths = s.provider.paths :=
  MemoryReadWriteStreamProvider.modify_paths s.provider path _

theorem closed_paths (p : MemoryReadWriteStreamProvider) (path : String) : (p.close path).paths = p.paths :=
  MemoryReadWriteStreamProvider.modify_paths p path _

theorem collect_trace (s : State) (c : Capture) (answer : CollectAnswer) (traced : s.Traced) :
    s.Collects (s.collectTrace c answer).1 s.provider.nextPath ∧
      (s.collectTrace c answer).2.path = s.provider.nextPath := by
  have createdPaths := MemoryReadWriteStreamProvider.create_paths s.provider (next_path_fresh s traced)
  have used (uses : List StreamUse) := traced_used _ (traced_created s traced) s.provider.nextPath uses
  rw [State.collectTrace]
  cases answer.ended with
  | none =>
      refine ⟨⟨used answer.writes, ?_, rfl, rfl⟩, rfl⟩
      dsimp only
      rw [used_paths]
      exact createdPaths
  | some chunks =>
      refine ⟨⟨traced_marked _ (used _) s.provider.nextPath false, ?_, rfl, rfl⟩, rfl⟩
      dsimp only
      rw [closed_paths, used_paths]
      exact createdPaths

-- A capture with this status goes on to a completed event.
def goesOn (status : TraceCompletionStatus) : Bool := status = .completed || status = .needProcessing

theorem transfer_goes_on (c : Capture) (result : DdResult) (aborted spm : Bool) :
    goesOn (transferStatus c result aborted spm) = (result = .success && c.additionalChunkResult = .success) := by
  unfold transferStatus
  by_cases succeeded : result = .success
  · by_cases chunks : c.additionalChunkResult = .success
    · cases c.isLegacy <;> cases spm <;> simp [succeeded, chunks, goesOn]
    · simp [succeeded, chunks, goesOn]
  · cases c.isLegacy <;> cases aborted <;> simp [succeeded, goesOn]

theorem spm_goes_on (answer : SpmAnswer) : goesOn answer.status = decide (answer.result = .success) := by
  unfold SpmAnswer.status
  by_cases succeeded : answer.result = .success
  · simp [succeeded, goesOn]
  · cases answer.aborted <;> simp [succeeded, goesOn]

theorem rewritten (s : State) (path : String) (uses : List StreamUse) (opened : MemoryReadWriteStreamProvider)
    (traced : s.Traced) (found : s.provider.openReadWriteStream path = some opened) :
    let used := { s with provider := opened }.useWith path uses
    let t : State := { used with provider := used.provider.close path }
    t.Traced ∧ t.provider.paths = s.provider.paths ∧ t.captures = s.captures ∧ t.queue = s.queue := by
  have same := s.provider.opened_paths path opened found
  subst same
  refine ⟨traced_marked _ (traced_used _ (traced_marked s traced path true) path uses) path false, ?_, rfl, rfl⟩
  dsimp only
  rw [closed_paths, used_paths]
  exact s.provider.modify_paths path _

-- The streams that a completed event will name.
def Phase.awaits : Phase → List String
  | .polling _ => []
  | .postProcessing c => [c.path]
  | .reporting c status => if goesOn status then [c.path] else []

def TraceCompletionResult.awaits (result : TraceCompletionResult) : List String :=
  if result.status = .completed then [result.path] else []

def capturesAwait (captures : List (Nat × Phase)) : List String := captures.flatMap fun entry => entry.2.awaits

def queueAwaits (queue : List (Feature × TraceCompletionResult)) : List String :=
  queue.flatMap fun entry => entry.2.awaits

def State.awaited (s : State) : List String := capturesAwait s.captures ++ queueAwaits s.queue

-- `lost` are the streams that nothing will take out any more.
def State.Accounts (s : State) (lost : List String) : Prop := (s.awaited ++ lost).Perm s.provider.paths

-- `fresh` streams come in and `gone` ones are taken out, while what waits for
-- them changes from `old` to `new`.
theorem accounts_moved (s t : State) (old new rest fresh gone more lost : List String) (accounts : s.Accounts lost)
    (before : s.awaited.Perm (old ++ rest)) (after : t.awaited.Perm (new ++ rest))
    (paths : (fresh ++ s.provider.paths).Perm (gone ++ t.provider.paths))
    (balance : (fresh ++ old).Perm (new ++ more ++ gone)) : t.Accounts (more ++ lost) := by
  refine List.perm_iff_count.mpr fun path => ?_
  have held := List.perm_iff_count.mp accounts path
  have here := List.perm_iff_count.mp before path
  have there := List.perm_iff_count.mp after path
  have moved := List.perm_iff_count.mp paths path
  have balanced := List.perm_iff_count.mp balance path
  simp only [List.count_append] at held here there moved balanced ⊢
  omega

section Phases
variable (s : State) (id : Nat) (phase new : Phase)

theorem phase_awaits (here : s.phaseOf id = some phase) :
    (capturesAwait s.captures).Perm (phase.awaits ++ capturesAwait (Keyed.remove Prod.fst s.captures id)) := by
  obtain ⟨entry, found, rfl⟩ := Option.map_eq_some_iff.mp here
  exact (Keyed.remove_perm Prod.fst s.captures id entry found).flatMap_right _

theorem new_awaits (here : (s.phaseOf id).isNone = true) : Keyed.remove Prod.fst s.captures id = s.captures := by
  have absent : Keyed.lookup Prod.fst s.captures id = none := by simpa [State.phaseOf] using here
  have unnamed := (Keyed.lookup_none Prod.fst s.captures id).mp absent
  refine List.eraseP_of_forall_not fun entry member named => unnamed ?_
  have same : entry.1 = id := by simpa using named
  exact same ▸ List.mem_map_of_mem member

theorem awaited_before (here : s.phaseOf id = some phase) :
    s.awaited.Perm (phase.awaits ++ (s.finish id).awaited) := by
  have awaits := (phase_awaits s id phase here).append_right (queueAwaits s.queue)
  rw [List.append_assoc] at awaits
  exact awaits

theorem awaited_new (absent : (s.phaseOf id).isNone = true) : s.awaited = (s.finish id).awaited := by
  have same := new_awaits s id absent
  simp only [State.awaited, State.finish, same]

theorem awaited_after (t : State) (captures : t.captures = s.captures) (queue : t.queue = s.queue) :
    (t.setPhase id new).awaited = new.awaits ++ (s.finish id).awaited := by
  simp [State.awaited, State.setPhase, State.finish, capturesAwait, captures, queue]

end Phases

-- The streams that a step loses are those it does not keep.
def State.Accounted (s t : State) (a : Action) (lost : List String) : Prop :=
  t.Traced ∧ ∃ more, t.Accounts (more ++ lost) ∧ (more = [] ↔ s.keepsStream a = true)

section Step
variable (features : UbertraceFeatures) (s t : State) (lost : List String) (traced : s.Traced) (accounts : s.Accounts lost)
include traced accounts

-- A capture that has asked for a writer: the new stream is lost unless its phase waits for it.
theorem accounts_collected (id : Nat) (c : Capture) (answer : CollectAnswer) (new : Phase) (more : List String)
    (awaitsNothing : s.awaited.Perm (s.finish id).awaited)
    (balance : [s.provider.nextPath].Perm (new.awaits ++ more)) :
    ((s.collectTrace c answer).1.setPhase id new).Traced ∧
      ((s.collectTrace c answer).1.setPhase id new).Accounts (more ++ lost) := by
  obtain ⟨⟨collected, paths, captures, queue⟩, _⟩ := collect_trace s c answer traced
  refine ⟨traced_same _ _ collected rfl rfl, ?_⟩
  apply accounts_moved s _ [] new.awaits (s.finish id).awaited [s.provider.nextPath] [] more lost accounts awaitsNothing
  · rw [awaited_after s id new _ captures queue]
  · show ([s.provider.nextPath] ++ s.provider.paths).Perm (s.collectTrace c answer).1.provider.paths
    rw [paths]
    rfl
  · simpa using balance

-- The phase that follows waits for the capture's stream exactly when the step keeps it.
theorem accounts_followed (id : Nat) (c : Capture) (answer : CollectAnswer) (new : Phase) (keeps : Bool)
    (awaitsNothing : s.awaited.Perm (s.finish id).awaited)
    (awaits : new.awaits = if keeps then [s.provider.nextPath] else []) :
    ((s.collectTrace c answer).1.setPhase id new).Traced ∧
      ∃ more, ((s.collectTrace c answer).1.setPhase id new).Accounts (more ++ lost) ∧ (more = [] ↔ keeps = true) := by
  cases keeps with
  | true =>
      obtain ⟨kept, accounted⟩ := accounts_collected s lost traced accounts id c answer new [] awaitsNothing (by simp [awaits])
      exact ⟨kept, [], accounted, by simp⟩
  | false =>
      obtain ⟨kept, accounted⟩ :=
        accounts_collected s lost traced accounts id c answer new [s.provider.nextPath] awaitsNothing (by simp [awaits])
      exact ⟨kept, [s.provider.nextPath], accounted, by simp⟩

theorem accounted_poll (id : Nat) (c : Capture) (answer : CollectAnswer) (here : s.phaseOf id = some (.polling c)) :
    s.Accounted (s.polled features id c answer) (.poll id answer) lost := by
  have silent : s.awaited.Perm (s.finish id).awaited := awaited_before s id (.polling c) here
  have path := (collect_trace s c answer traced).2
  have follow (new : Phase) := accounts_followed s lost traced accounts id c answer new
    (s.keepsStream (.poll id answer)) silent
  rw [State.polled]
  split
  · rename_i notReady
    apply follow
    simp [State.keepsStream, here, notReady, trace_ready_code_not_success, Phase.awaits]
  · split
    · rename_i succeeded
      split
      · rename_i failed
        apply follow
        simp [State.keepsStream, here, succeeded, failed, Phase.awaits, goesOn]
      · rename_i chunks
        rw [not_not] at chunks
        split
        · apply follow
          simp [State.keepsStream, here, succeeded, chunks, Phase.awaits, path]
        · apply follow
          simp [State.keepsStream, here, succeeded, chunks, Phase.awaits, goesOn, path]
    · rename_i failed
      apply follow
      simp [State.keepsStream, here, failed, Phase.awaits]

theorem accounted_transfer (id : Nat) (c : Capture) (answer : CollectAnswer) (aborted spm : Bool)
    (absent : (s.phaseOf id).isNone = true) :
    s.Accounted ((s.collectTrace c answer).1.setPhase id
      (.reporting (s.collectTrace c answer).2 (transferStatus (s.collectTrace c answer).2 answer.result aborted spm)))
      (.transfer id c answer aborted spm) lost := by
  have path := (collect_trace s c answer traced).2
  apply accounts_followed s lost traced accounts id c answer _ _ (by rw [← awaited_new s id absent])
  rw [Phase.awaits, transfer_goes_on, path]
  rfl

theorem accounted_kept (a : Action) (provider : t.provider = s.provider) (log : t.log = s.log)
    (awaited : t.awaited.Perm s.awaited) (keeps : s.keepsStream a = true) : s.Accounted t a lost := by
  refine ⟨traced_same s t traced provider log, [], ?_, by simp [keeps]⟩
  rw [State.Accounts, provider]
  exact (awaited.append_right lost).trans accounts

-- A phase that waits for nothing stands for a capture whose stream is not in the provider's care.
theorem accounted_silent (id : Nat) (phase : Phase) (a : Action) (before : s.awaited.Perm (s.finish id).awaited)
    (silent : phase.awaits = []) (keeps : s.keepsStream a = true) : s.Accounted (s.setPhase id phase) a lost := by
  refine accounted_kept s (s.setPhase id phase) lost traced accounts a rfl rfl ?_ keeps
  rw [awaited_after s id phase s rfl rfl, silent]
  exact before.symm

theorem accounted_post_process (id : Nat) (c : Capture) (answer : Option SpmAnswer)
    (here : s.phaseOf id = some (.postProcessing c)) (taken : s.postProcessed id c answer = some t) :
    s.Accounted t (.postProcess id answer) lost := by
  have before : s.awaited.Perm ([c.path] ++ (s.finish id).awaited) := awaited_before s id (.postProcessing c) here
  cases answer with
  | none =>
      rw [State.postProcessed] at taken
      split at taken
      · cases taken
      · cases taken
        refine ⟨traced_same s _ traced rfl rfl, [c.path], ?_, by simp [State.keepsStream]⟩
        exact accounts_moved s _ [c.path] [] (s.finish id).awaited [] [] [c.path] lost accounts before
          (List.Perm.refl _) (List.Perm.refl _) (by simp)
  | some answer =>
      rw [State.postProcessed] at taken
      obtain ⟨opened, found, rfl⟩ := Option.map_eq_some_iff.mp taken
      obtain ⟨rewritten, paths, captures, queue⟩ := rewritten s c.path answer.uses opened traced found
      refine ⟨traced_same _ _ rewritten rfl rfl, ?_⟩
      have balanced (more : List String) (awaits : [c.path].Perm ((Phase.reporting c answer.status).awaits ++ more)) :=
        accounts_moved s _ [c.path] _ (s.finish id).awaited [] [] more lost accounts before
          (List.Perm.of_eq (awaited_after s id (.reporting c answer.status) _ captures queue))
          (List.Perm.of_eq paths.symm) (by simpa using awaits)
      cases succeeded : goesOn answer.status with
      | true =>
          refine ⟨[], balanced [] (by simp [Phase.awaits, succeeded]), ?_⟩
          rw [spm_goes_on] at succeeded
          simpa [State.keepsStream] using succeeded
      | false =>
          refine ⟨[c.path], balanced [c.path] (by simp [Phase.awaits, succeeded]), ?_⟩
          rw [spm_goes_on] at succeeded
          simpa [State.keepsStream] using succeeded

theorem accounted_report (id : Nat) (c : Capture) (status : TraceCompletionStatus)
    (here : s.phaseOf id = some (.reporting c status)) : s.Accounted (s.reported id c status) (.report id) lost := by
  have before : s.awaited.Perm (_ ++ (s.finish id).awaited) := awaited_before s id (.reporting c status) here
  refine accounted_kept s _ lost traced accounts _ ?_ ?_ (List.Perm.trans ?_ before.symm) rfl
  · rw [State.reported]
    split <;> rfl
  · rw [State.reported]
    split <;> rfl
  · rw [State.reported]
    split
    · rename_i processed
      simp [State.awaited, State.setPhase, State.finish, capturesAwait, queueAwaits, Phase.awaits, goesOn, processed,
        TraceCompletionResult.awaits]
    · rename_i reported
      simp only [State.awaited, State.finish, queueAwaits, Phase.awaits, goesOn, reported, TraceCompletionResult.awaits,
        List.flatMap_append, List.flatMap_cons, List.flatMap_nil, List.append_nil, decide_false, Bool.or_false,
        decide_eq_true_eq, ← List.append_assoc]
      exact List.perm_append_comm.trans (List.Perm.of_eq (List.append_assoc _ _ _).symm)

omit traced accounts in
theorem keeps_deliver (feature : Feature) (first : Feature × TraceCompletionResult)
    (found : Keyed.lookup Prod.fst s.queue feature = some first) :
    s.keepsStream (.deliver feature) = (decide (first.2.status ≠ .completed) ||
      (s.hasCallback feature && (s.provider.consumeStream first.2.path).isSome)) := by
  obtain ⟨f, status, path, conn⟩ := first
  rw [MemoryReadWriteStreamProvider.consume_closed]
  cases status <;> simp [State.keepsStream, found]

theorem accounted_deliver (feature : Feature) (first : Feature × TraceCompletionResult)
    (found : Keyed.lookup Prod.fst s.queue feature = some first) :
    s.Accounted (({ s with queue := Keyed.remove Prod.fst s.queue feature } : State).onTraceCompletionEvent first.1 first.2)
      (.deliver feature) lost := by
  have named : first.1 = feature := (Keyed.lookup_mem Prod.fst s.queue feature first found).2
  have popped : ({ s with queue := Keyed.remove Prod.fst s.queue feature } : State).Traced := traced_same s _ traced rfl rfl
  have before : s.awaited.Perm (first.2.awaits ++ (capturesAwait s.captures ++
      queueAwaits (Keyed.remove Prod.fst s.queue feature))) := by
    have queue : (queueAwaits s.queue).Perm _ := (Keyed.remove_perm Prod.fst s.queue feature first found).flatMap_right _
    refine (queue.append_left (capturesAwait s.captures)).trans ?_
    rw [List.flatMap_cons, ← List.append_assoc, ← List.append_assoc]
    exact List.perm_append_comm.append_right _
  have kept := keeps_deliver s feature first found
  obtain ⟨f, status, path, conn⟩ := first
  subst named
  dsimp only at kept
  -- the event is popped, and no stream is taken out
  have untaken (t : State) (kept : t.Traced) (provider : t.provider = s.provider)
      (awaited : t.awaited = capturesAwait s.captures ++ queueAwaits (Keyed.remove Prod.fst s.queue f))
      (keeps : s.keepsStream (.deliver f) = true ↔ status ≠ .completed) : s.Accounted t (.deliver f) lost := by
    by_cases completed : status = .completed
    · refine ⟨kept, [path], ?_, by simp [keeps, completed]⟩
      exact accounts_moved s t [path] [] _ [] [] [path] lost accounts
        (by simpa [TraceCompletionResult.awaits, completed] using before) (List.Perm.of_eq awaited)
        (by rw [provider]) (by simp)
    · refine ⟨kept, [], ?_, by simp [keeps, completed]⟩
      exact accounts_moved s t [] [] _ [] [] [] lost accounts
        (by simpa [TraceCompletionResult.awaits, completed] using before) (List.Perm.of_eq awaited)
        (by rw [provider]) (by simp)
  rw [State.onTraceCompletionEvent]
  split
  · rename_i unregistered
    have silent : s.hasCallback f = false := by simpa using unregistered
    exact untaken _ popped rfl rfl (by simp [kept, silent])
  · rename_i registered
    have listening : s.hasCallback f = true := by simpa using registered
    have success : getCaptureResultForTraceCompletionStatus status = .success ↔ status = .completed := by
      cases status <;> simp [getCaptureResultForTraceCompletionStatus]
    dsimp only
    split
    · rename_i failed
      have uncompleted : status ≠ .completed := fun completed => failed (success.mpr completed)
      exact untaken _ (traced_told _ popped conn _) rfl rfl (by simp [kept, uncompleted])
    · rename_i succeeded
      have completed : status = .completed := success.mp (by simpa using succeeded)
      cases taken : s.provider.consumeStream path with
      | none => exact untaken _ popped rfl rfl (by simp [kept, taken])
      | some consumed =>
          obtain ⟨provider, bytes⟩ := consumed
          obtain ⟨entry, _, rfl, _, perm, _⟩ := s.provider.consume_cases path provider bytes taken
          refine ⟨traced_consumed _ popped entry.1 provider bytes conn _ taken, [], ?_, by simp [kept, listening, taken]⟩
          have paths : s.provider.paths.Perm (entry.1 :: provider.paths) := perm.map Prod.fst
          refine accounts_moved s _ [entry.1] [] (capturesAwait s.captures ++
            queueAwaits (Keyed.remove Prod.fst s.queue f)) [] [entry.1] [] lost accounts ?_ (List.Perm.refl _) paths (by simp)
          simpa [TraceCompletionResult.awaits, completed] using before

theorem accounted_next (a : Action) (taken : s.next features a = some t) : s.Accounted t a lost := by
  cases a with
  | begin id c =>
      rw [State.next] at taken
      split at taken
      · rename_i absent
        cases taken
        have same := awaited_new s id absent
        exact accounted_silent s lost traced accounts id _ _ (List.Perm.of_eq same) rfl rfl
      · cases taken
  | poll id answer =>
      rw [State.next] at taken
      split at taken
      · rename_i c here
        cases taken
        exact accounted_poll features s lost traced accounts id c answer here
      · cases taken
  | leaveLoop id cancelled =>
      rw [State.next] at taken
      split at taken
      · rename_i c here
        cases taken
        have before : s.awaited.Perm (s.finish id).awaited := awaited_before s id (.polling c) here
        exact accounted_silent s lost traced accounts id _ _ before (by cases cancelled <;> rfl) rfl
      · cases taken
  | transfer id c answer aborted spm =>
      rw [State.next] at taken
      split at taken
      · rename_i absent
        cases taken
        exact accounted_transfer s lost traced accounts id c answer aborted spm absent
      · cases taken
  | reportWithoutTrace id c cancelled =>
      rw [State.next] at taken
      split at taken
      · rename_i absent
        cases taken
        have same := awaited_new s id absent
        exact accounted_silent s lost traced accounts id _ _ (List.Perm.of_eq same) (by cases cancelled <;> rfl) rfl
      · cases taken
  | postProcess id answer =>
      rw [State.next] at taken
      split at taken
      · rename_i c here
        exact accounted_post_process s t lost traced accounts id c answer here taken
      · cases taken
  | report id =>
      rw [State.next] at taken
      split at taken
      · rename_i c status here
        cases taken
        exact accounted_report s lost traced accounts id c status here
      · cases taken
  | deliver feature =>
      obtain ⟨first, found, rfl⟩ := Option.map_eq_some_iff.mp taken
      exact accounted_deliver s lost traced accounts feature first found
  | setTraceFinishedCallback feature registered =>
      cases taken
      exact accounted_kept s _ lost traced accounts _ rfl rfl (List.Perm.refl _) rfl

end Step

-- Along a run the lost streams only grow, and a step adds to them exactly when
-- it does not keep its stream.
theorem accounted_run (features : UbertraceFeatures) (actions : List Action) (s t : State) (lost : List String)
    (traced : s.Traced) (accounts : s.Accounts lost) (run : exec (memoryStreams features) s actions = some t) :
    t.Traced ∧ ∃ more, t.Accounts (more ++ lost) ∧
      (more = [] ↔ Meets (memoryStreams features) (fun s a => s.keepsStream a = true) s actions) := by
  induction actions generalizing s lost with
  | nil =>
      cases run
      exact ⟨traced, [], accounts, by simp [Meets]⟩
  | cons a rest ih =>
      obtain ⟨next, taken, remaining⟩ := Option.bind_eq_some_iff.mp run
      obtain ⟨nextTraced, first, nextAccounts, keeps⟩ := accounted_next features s next lost traced accounts a taken
      obtain ⟨lastTraced, later, lastAccounts, meets⟩ := ih next (first ++ lost) nextTraced nextAccounts remaining
      refine ⟨lastTraced, later ++ first, by simpa using lastAccounts, ?_⟩
      rw [List.append_eq_nil_iff, keeps, meets]
      constructor
      · rintro ⟨kept, here⟩ other same
        have equal : next = other := Option.some.inj (taken.symm.trans same)
        exact ⟨here, equal ▸ kept⟩
      · intro all
        exact ⟨(all next taken).2, (all next taken).1⟩

theorem streams_released_once (features : UbertraceFeatures) (actions : List Action) (s : State)
    (run : exec (memoryStreams features) (memoryStreams features).init actions = some s) :
    s.HandsOutOnce ∧ (s.Quiet →
      (s.Released ↔ Meets (memoryStreams features) (fun s a => s.keepsStream a = true) (memoryStreams features).init actions)) := by
  have start : (memoryStreams features).init.Traced := ⟨rfl, List.Perm.refl _, rfl, nofun, trivial⟩
  obtain ⟨traced, lost, accounts, meets⟩ :=
    accounted_run features actions _ s [] start (List.Perm.refl _) run
  refine ⟨⟨created_distinct s traced, traced.released, traced.consumed, traced.delivered⟩, ?_⟩
  rintro ⟨finished, delivered⟩
  have held : lost.Perm s.provider.paths := by
    simpa [State.Accounts, State.awaited, finished, delivered, capturesAwait, queueAwaits] using accounts
  rw [← meets]
  constructor
  · rintro ⟨empty, _⟩
    rw [MemoryReadWriteStreamProvider.paths, empty] at held
    exact held.eq_nil
  · intro none
    rw [none] at held
    have noPaths : s.provider.paths = [] := held.symm.eq_nil
    have released := traced.released
    rw [noPaths, List.append_nil] at released
    exact ⟨List.map_eq_nil_iff.mp noPaths, released⟩

def manualCapture : Capture := ⟨.raytracing, 1, false, false, false, "", .success⟩

def wholeTrace : CollectAnswer := ⟨.success, [.write [1, 2], .write [3]], some ⟨[], .success⟩⟩

def notReady : CollectAnswer := ⟨.commonUnsupported, [], none⟩

def capture (polls : List CollectAnswer) : List Action :=
  .setTraceFinishedCallback .raytracing true :: .begin 0 manualCapture :: polls.map (.poll 0) ++ [.report 0, .deliver .raytracing]

theorem first_poll_released :
    ∃ s, exec (memoryStreams .default) (memoryStreams .default).init (capture [wholeTrace]) = some s ∧ s.Released ∧
      Meets (memoryStreams .default) (fun s a => s.keepsStream a = true) (memoryStreams .default).init (capture [wholeTrace]) := by
  obtain ⟨s, run, found⟩ := (Option.any_eq_true
    (fun s : State => s.captures.isEmpty && s.queue.isEmpty && s.provider.data.isEmpty) _).mp
    (show (exec (memoryStreams .default) (memoryStreams .default).init (capture [wholeTrace])).any _ = true by decide)
  simp only [Bool.and_eq_true, List.isEmpty_iff] at found
  obtain ⟨⟨finished, delivered⟩, empty⟩ := found
  obtain ⟨once, exact⟩ := streams_released_once .default (capture [wholeTrace]) s run
  have released : s.Released := by
    have balanced := once.released
    rw [MemoryReadWriteStreamProvider.paths, empty] at balanced
    exact ⟨empty, by simpa [Keyed.keys] using balanced⟩
  exact ⟨s, run, released, (exact ⟨finished, delivered⟩).mp released⟩

-- Not ready at first, the capture leaves its first stream behind.
theorem second_poll_leaks :
    ¬ ∀ (features : UbertraceFeatures) (actions : List Action) (s : State),
      exec (memoryStreams features) (memoryStreams features).init actions = some s →
        s.HandsOutOnce ∧ (s.Quiet → s.Released) := by
  intro claimed
  obtain ⟨s, run, found⟩ := (Option.any_eq_true
    (fun s : State => s.captures.isEmpty && s.queue.isEmpty && !s.provider.data.isEmpty) _).mp
    (show (exec (memoryStreams .default) (memoryStreams .default).init (capture [notReady, wholeTrace])).any _ = true by decide)
  simp only [Bool.and_eq_true, List.isEmpty_iff, Bool.not_eq_true'] at found
  obtain ⟨⟨finished, delivered⟩, held⟩ := found
  have empty := ((claimed .default _ s run).2 ⟨finished, delivered⟩).empty
  rw [empty] at held
  cases held

end RadeonPanel.CaptureApi.MemoryStreams
