import RadeonPanel.Base.Runs
import RadeonPanel.Connections.Types

set_option autoImplicit false

namespace RadeonPanel.CaptureApi

open Interleaving

structure ProcessInfo where
  processId : UInt32
  processPath : String
deriving DecidableEq, Repr

-- No application: process id 0 and an empty path.
def noProcess : ProcessInfo := ⟨0, ""⟩

def processPathSize : Nat := 1024

structure ClientManager where
  currentProcess : ProcessInfo
  currentUmdConnections : List DdConnectionId
deriving DecidableEq, Repr

-- `path` is the answer of QueryPathByProcessId. The copy leaves room for the
-- terminating zero; a character stands for a byte.
def convert (info : DdConnectionInfo) (path : Option String) : ProcessInfo :=
  ⟨info.processId, match path with
    | none => "Unknown"
    | some path => String.ofList (path.toList.take (processPathSize - 1))⟩

-- The manager's blocklist and filter are optional. `contains` and `accepts` are
-- what they answer when they are asked.
structure Inquiry where
  path : Option String
  contains : String → Bool
  accepts : ProcessInfo → Api → Bool

structure Filters where
  hasBlocklist : Bool
  hasFilter : Bool
  currentProcessPid : UInt32
deriving DecidableEq, Repr

namespace ClientManager

def shouldClientBeIgnored (filters : Filters) (m : ClientManager) (info : DdConnectionInfo)
    (inquiry : Inquiry) : Bool :=
  if m.currentProcess.processId ≠ 0 ∧ m.currentProcess.processId ≠ info.processId then true
  else
    let process := convert info inquiry.path
    if filters.hasBlocklist && inquiry.contains process.processPath then true
    else if filters.hasFilter then !inquiry.accepts process (getApiFromDriverDescription info.description)
    else decide (filters.currentProcessPid ≠ info.processId)

-- With another process recorded there is only an assertion.
def onDriverConnected (m : ClientManager) (info : DdConnectionInfo) (path : Option String) : ClientManager :=
  { currentProcess := if m.currentProcess.processId = 0 then convert info path else m.currentProcess
    currentUmdConnections := m.currentUmdConnections.insert info.umdConnectionId }

def onDriverDisconnected (m : ClientManager) (id : DdConnectionId) : ClientManager :=
  let remaining := m.currentUmdConnections.filter (· ≠ id)
  ⟨if remaining = [] then noProcess else m.currentProcess, remaining⟩

end ClientManager

-- `passed` are the connections whose check let them through, `recorded` the
-- current connections with the process each of them is of.
structure ManagerState where
  manager : ClientManager
  passed : List DdConnectionInfo
  recorded : List (DdConnectionId × UInt32)
deriving DecidableEq, Repr

inductive ManagerEvent where
  | checked (info : DdConnectionInfo) (inquiry : Inquiry)
  | connected (info : DdConnectionInfo) (path : Option String)
  | disconnected (id : DdConnectionId)

-- A connection that has passed its check connects at some later time.
def ManagerState.next (filters : Filters) (s : ManagerState) : ManagerEvent → Option ManagerState
  | .checked info inquiry =>
      if s.manager.shouldClientBeIgnored filters info inquiry then some s
      else some { s with passed := info :: s.passed }
  | .connected info path =>
      if info ∈ s.passed then
        some ⟨s.manager.onDriverConnected info path, s.passed.erase info,
          s.recorded.insert (info.umdConnectionId, info.processId)⟩
      else none
  | .disconnected id =>
      some { s with
        manager := s.manager.onDriverDisconnected id
        recorded := s.recorded.filter fun c => c.1 ≠ id }

def clientManager (filters : Filters) : Machine ManagerState ManagerEvent :=
  ⟨⟨⟨noProcess, []⟩, [], []⟩, ManagerState.next filters⟩

structure ManagerState.OneProcess (s : ManagerState) : Prop where
  together : ∀ a ∈ s.recorded, ∀ b ∈ s.recorded, a.2 = b.2
  cleared : s.manager.currentProcess.processId = 0 ↔ s.manager.currentUmdConnections = []

-- No second process, and none without an id, connects.
def joinsProcess (s : ManagerState) : ManagerEvent → Prop
  | .connected info _ =>
      info.processId ≠ 0 ∧
        (s.manager.currentProcess.processId = 0 ∨ s.manager.currentProcess.processId = info.processId)
  | .checked _ _ => True
  | .disconnected _ => True

theorem next_cases (filters : Filters) (s t : ManagerState) (event : ManagerEvent)
    (next : s.next filters event = some t) :
    (t.manager = s.manager ∧ t.recorded = s.recorded ∧ joinsProcess s event) ∨
    (∃ info path, event = .connected info path ∧ info ∈ s.passed ∧
      t.manager = s.manager.onDriverConnected info path ∧
      t.recorded = s.recorded.insert (info.umdConnectionId, info.processId)) ∨
    ∃ id, event = .disconnected id ∧ t.manager = s.manager.onDriverDisconnected id ∧
      t.recorded = s.recorded.filter fun c => c.1 ≠ id := by
  cases event with
  | checked info inquiry =>
      rw [ManagerState.next] at next
      split at next <;> cases next <;> exact .inl ⟨rfl, rfl, trivial⟩
  | connected info path =>
      rw [ManagerState.next, Option.ite_none_right_eq_some] at next
      obtain ⟨passed, same⟩ := next
      cases same
      exact .inr (.inl ⟨info, path, rfl, passed, rfl, rfl⟩)
  | disconnected id =>
      cases next
      exact .inr (.inr ⟨id, rfl, rfl, rfl⟩)

theorem reachable_recorded (filters : Filters) (s : ManagerState) (reach : Reachable (clientManager filters) s)
    (id : DdConnectionId) : id ∈ s.manager.currentUmdConnections ↔ ∃ pid, (id, pid) ∈ s.recorded := by
  refine reachable_invariant (clientManager filters)
    (fun s => ∀ id, id ∈ s.manager.currentUmdConnections ↔ ∃ pid, (id, pid) ∈ s.recorded) ?_ ?_ s reach id
  · simp [clientManager]
  · intro s event t before next id
    obtain ⟨manager, recorded, _⟩ | ⟨info, path, rfl, _, manager, recorded⟩ | ⟨gone, rfl, manager, recorded⟩ :=
      next_cases filters s t event next
    · rw [manager, recorded]
      exact before id
    · rw [manager, recorded]
      simp only [ClientManager.onDriverConnected, List.mem_insert_iff, before id, Prod.mk.injEq]
      constructor
      · intro either
        obtain rfl | ⟨pid, present⟩ := either
        · exact ⟨info.processId, .inl ⟨rfl, rfl⟩⟩
        · exact ⟨pid, .inr present⟩
      · intro ⟨pid, either⟩
        obtain ⟨same, _⟩ | present := either
        · exact .inl same
        · exact .inr ⟨pid, present⟩
    · rw [manager, recorded]
      simp [ClientManager.onDriverDisconnected, before id]

theorem connect_process (m : ClientManager) (info : DdConnectionInfo) (path : Option String) :
    (m.onDriverConnected info path).currentProcess.processId =
      if m.currentProcess.processId = 0 then info.processId else m.currentProcess.processId := by
  rw [ClientManager.onDriverConnected, apply_ite ProcessInfo.processId]
  rfl

theorem connect_not_empty (m : ClientManager) (info : DdConnectionInfo) (path : Option String) :
    (m.onDriverConnected info path).currentUmdConnections ≠ [] :=
  List.ne_nil_of_mem (List.mem_insert_iff.mpr (.inl rfl))

structure ManagerState.Recorded (s : ManagerState) : Prop where
  owned : ∀ c ∈ s.recorded, c.2 = s.manager.currentProcess.processId
  cleared : s.manager.currentProcess.processId = 0 ↔ s.manager.currentUmdConnections = []

theorem recorded_connected (s t : ManagerState) (info : DdConnectionInfo) (path : Option String)
    (recorded : s.Recorded) (joins : joinsProcess s (.connected info path))
    (manager : t.manager = s.manager.onDriverConnected info path)
    (added : t.recorded = s.recorded.insert (info.umdConnectionId, info.processId))
    (known : ∀ id, id ∈ s.manager.currentUmdConnections ↔ ∃ pid, (id, pid) ∈ s.recorded) : t.Recorded := by
  have process : t.manager.currentProcess.processId = info.processId := by
    rw [manager, connect_process]
    obtain none | same := joins.2
    · rw [if_pos none]
    · rw [same, ite_self]
  refine ⟨fun c member => ?_, ?_⟩
  · rw [added] at member
    rw [process]
    obtain rfl | before := List.mem_insert_iff.mp member
    · rfl
    · rw [recorded.owned c before]
      obtain none | same := joins.2
      · -- With no process recorded there is no connection either.
        have current := (known c.1).mpr ⟨c.2, before⟩
        rw [recorded.cleared.mp none] at current
        cases current
      · exact same
  · rw [process, manager]
    constructor
    · exact fun zero => absurd zero joins.1
    · exact fun empty => absurd empty (connect_not_empty _ _ _)

theorem recorded_disconnected (s t : ManagerState) (id : DdConnectionId) (recorded : s.Recorded)
    (manager : t.manager = s.manager.onDriverDisconnected id)
    (removed : t.recorded = s.recorded.filter fun c => c.1 ≠ id)
    (known : ∀ id, id ∈ t.manager.currentUmdConnections ↔ ∃ pid, (id, pid) ∈ t.recorded) : t.Recorded := by
  have connections : t.manager.currentUmdConnections = s.manager.currentUmdConnections.filter (· ≠ id) := by
    rw [manager]
    rfl
  by_cases last : t.manager.currentUmdConnections = []
  · refine ⟨fun c member => ?_, fun _ => last, fun _ => ?_⟩
    · have current := (known c.1).mpr ⟨c.2, member⟩
      rw [last] at current
      cases current
    · rw [manager, ClientManager.onDriverDisconnected, if_pos (connections ▸ last)]
      rfl
  · have process : t.manager.currentProcess = s.manager.currentProcess := by
      rw [manager, ClientManager.onDriverDisconnected, if_neg (connections ▸ last)]
    refine ⟨fun c member => ?_, ?_⟩
    · rw [removed] at member
      rw [process]
      exact recorded.owned c (List.mem_of_mem_filter member)
    · rw [process, recorded.cleared]
      constructor
      · intro empty
        rw [connections, empty]
        rfl
      · exact fun empty => absurd empty last

theorem reach_recorded (filters : Filters) (s : ManagerState)
    (reach : Reach (clientManager filters) joinsProcess s) : s.Recorded := by
  refine reach_invariant (clientManager filters) joinsProcess ManagerState.Recorded ?_ ?_ s reach
  · exact ⟨by simp [clientManager], by simp [clientManager, noProcess]⟩
  · intro s event t before recorded joins next
    have reachable := reach_reachable _ _ s before
    have known := reachable_recorded filters s reachable
    have knownAfter := reachable_recorded filters t (.step s t event reachable trivial next)
    obtain ⟨manager, same, _⟩ | ⟨info, path, rfl, _, manager, added⟩ | ⟨id, rfl, manager, removed⟩ :=
      next_cases filters s t event next
    · exact ⟨by rw [manager, same]; exact recorded.owned, by rw [manager]; exact recorded.cleared⟩
    · exact recorded_connected s t info path recorded joins manager added known
    · exact recorded_disconnected s t id recorded manager removed knownAfter

theorem recorded_one_process (s : ManagerState) (recorded : s.Recorded) : s.OneProcess :=
  ⟨fun a first b second => (recorded.owned a first).trans (recorded.owned b second).symm, recorded.cleared⟩

-- A connection of a second process, or of process 0, breaks the property at once.
theorem joins_process_exact (filters : Filters) (s t : ManagerState) (event : ManagerEvent)
    (before : Reach (clientManager filters) joinsProcess s) (next : s.next filters event = some t)
    (after : t.OneProcess) : joinsProcess s event := by
  have recorded := reach_recorded filters s before
  have known := reachable_recorded filters s (reach_reachable _ _ s before)
  obtain ⟨_, _, joins⟩ | ⟨info, path, rfl, _, manager, added⟩ | ⟨id, rfl, _, _⟩ := next_cases filters s t event next
  · exact joins
  · have process := connect_process s.manager info path
    have notEmpty := connect_not_empty s.manager info path
    rw [← manager] at process notEmpty
    have running := mt after.cleared.mp notEmpty
    by_cases none : s.manager.currentProcess.processId = 0
    · rw [process, if_pos none] at running
      exact ⟨running, .inl none⟩
    · obtain ⟨id, rest, connections⟩ := List.exists_cons_of_ne_nil (mt recorded.cleared.mpr none)
      obtain ⟨pid, earlier⟩ := (known id).mp (by rw [connections]; exact List.mem_cons_self)
      have together := after.together (id, pid) (by rw [added]; exact List.mem_insert_of_mem earlier)
        (info.umdConnectionId, info.processId) (by rw [added]; exact List.mem_insert_self)
      have same : s.manager.currentProcess.processId = info.processId := (recorded.owned _ earlier).symm.trans together
      exact ⟨fun zero => none (same.trans zero), .inr same⟩
  · trivial

def gameOf (processId : UInt32) (id : DdConnectionId) : DdConnectionInfo := ⟨id, processId, "game", none⟩

def acceptAll : Inquiry := ⟨none, fun _ => false, fun _ _ => true⟩

end RadeonPanel.CaptureApi
