import RadeonPanel.Base.OrderedSets
import RadeonPanel.Base.Rows
import RadeonPanel.Base.Runs

set_option autoImplicit false

namespace RadeonPanel.Frontend.LogFilters

open Interleaving OrderedSets Rows

variable {T : Type}

-- A call that the UI thread makes itself is not queued: it goes on with the update at once.
inductive UiTask (T : Type) where
  | idle
  | inserting (filterable : T)
  | replacing (rest : List T)
deriving DecidableEq

namespace UiTask

def pending : UiTask T → List T
  | .inserting filterable => [filterable]
  | _ => []

def remaining : UiTask T → List T
  | .replacing rest => rest
  | _ => []

@[simp] theorem pending_idle : (idle : UiTask T).pending = [] := rfl

@[simp] theorem pending_inserting (filterable : T) : (inserting filterable).pending = [filterable] := rfl

@[simp] theorem pending_replacing (rest : List T) : (replacing rest).pending = [] := rfl

@[simp] theorem remaining_idle : (idle : UiTask T).remaining = [] := rfl

@[simp] theorem remaining_inserting (filterable : T) : (inserting filterable).remaining = [] := rfl

@[simp] theorem remaining_replacing (rest : List T) : (replacing rest).remaining = rest := rfl

end UiTask

variable [LinearOrder T]

-- What is posted to the UI thread.
inductive Update (T : Type) [LinearOrder T] where
  | insert (filterable : T)
  | replace (newValues : OrderedSet T)
deriving DecidableEq

namespace Update

def inserts (queue : List (Update T)) : List T := queue.filterMap fun
  | .insert filterable => some filterable
  | .replace _ => none

def replaces (queue : List (Update T)) : List (OrderedSet T) := queue.filterMap fun
  | .insert _ => none
  | .replace newValues => some newValues

section Queues
variable (queue : List (Update T)) (filterable : T) (newValues : OrderedSet T)

@[simp] theorem inserts_insert : inserts (.insert filterable :: queue) = filterable :: inserts queue := rfl

@[simp] theorem inserts_replace : inserts (.replace newValues :: queue) = inserts queue := rfl

@[simp] theorem replaces_insert : replaces (.insert filterable :: queue) = replaces queue := rfl

@[simp] theorem replaces_replace : replaces (.replace newValues :: queue) = newValues :: replaces queue := rfl

@[simp] theorem inserts_append (later : List (Update T)) : inserts (queue ++ later) = inserts queue ++ inserts later :=
  List.filterMap_append

@[simp] theorem replaces_append (later : List (Update T)) : replaces (queue ++ later) = replaces queue ++ replaces later :=
  List.filterMap_append

@[simp] theorem inserts_nil : inserts ([] : List (Update T)) = [] := rfl

@[simp] theorem replaces_nil : replaces ([] : List (Update T)) = [] := rfl

end Queues

-- The insertions first, the replacements behind them.
def Sorted (queue : List (Update T)) : Prop := queue = (inserts queue).map .insert ++ (replaces queue).map .replace

theorem sorted_inserted {queue : List (Update T)} (sorted : Sorted queue) (filterable : T) (unreplaced : replaces queue = []) :
    Sorted (queue ++ [.insert filterable]) := by
  rw [Sorted, unreplaced] at sorted
  rw [Sorted]
  simp only [inserts_append, inserts_insert, inserts_nil, replaces_append, replaces_insert, replaces_nil, unreplaced]
  conv_lhs => rw [sorted]
  simp

theorem sorted_replaced {queue : List (Update T)} (sorted : Sorted queue) (newValues : OrderedSet T) :
    Sorted (queue ++ [.replace newValues]) := by
  rw [Sorted] at sorted ⊢
  simp only [inserts_append, inserts_replace, inserts_nil, replaces_append, replaces_replace, replaces_nil]
  conv_lhs => rw [sorted]
  simp

theorem sorted_behind_insert {queue : List (Update T)} {filterable : T} (sorted : Sorted (.insert filterable :: queue)) :
    Sorted queue := (List.cons.inj sorted).2

theorem sorted_behind_replace {queue : List (Update T)} {newValues : OrderedSet T}
    (sorted : Sorted (.replace newValues :: queue)) : inserts queue = [] ∧ Sorted queue := by
  rw [Sorted, inserts_replace, replaces_replace] at sorted
  cases first : inserts queue with
  | nil =>
      rw [first] at sorted
      refine ⟨rfl, ?_⟩
      rw [Sorted, first]
      exact (List.cons.inj sorted).2
  | cons v rest =>
      rw [first] at sorted
      cases (List.cons.inj sorted).1

end Update

-- With the values that other threads have put into the set and are about to post, the last
-- announcement with the value it is about, and the values the last replacement brought
-- together with those logged since.
structure AvailableLoggingFiltersModel (T : Type) [LinearOrder T] where
  sortedValues : List T
  uniqueValues : OrderedSet T
  logging : List T
  queue : List (Update T)
  ui : UiTask T
  announced : Option (Announcement × T)
  expected : OrderedSet T

namespace AvailableLoggingFiltersModel

variable (m : AvailableLoggingFiltersModel T)

-- The first row stands for all values.
def rows : List (Option T) := none :: m.sortedValues.map some

def insertRow (filterable : T) : AvailableLoggingFiltersModel T :=
  let row : Nat := place filterable m.sortedValues + 1
  { m with
    sortedValues := inserted filterable m.sortedValues
    announced := some (.inserted row row, filterable) }

def startReplacing (newValues : OrderedSet T) : AvailableLoggingFiltersModel T :=
  { m with
    sortedValues := []
    uniqueValues := .empty
    ui := .replacing newValues.elements
    announced := none }

-- No update is posted, about to be posted, or under way.
def Quiet : Prop := m.logging = [] ∧ m.queue = [] ∧ m.ui = .idle

end AvailableLoggingFiltersModel

open AvailableLoggingFiltersModel

def created : AvailableLoggingFiltersModel T := ⟨[], .empty, [], [], .idle, none, .empty⟩

inductive Action (T : Type) [LinearOrder T] where
  | messageLogged (onUi : Bool) (filterable : T)
  | posted (filterable : T)
  | replaceValues (onUi : Bool) (newValues : OrderedSet T)
  | uiRuns

-- The test and the insertion into the set are under the lock. A replacement does not take it,
-- so messages are logged between any two of its steps.
def step (m : AvailableLoggingFiltersModel T) : Action T → Option (AvailableLoggingFiltersModel T)
  | .messageLogged onUi filterable =>
      let expected := m.expected.insert filterable
      if onUi = true ∧ m.ui ≠ .idle then none
      else if filterable ∈ m.uniqueValues then some { m with expected := expected }
      else
        let uniqueValues := m.uniqueValues.insert filterable
        if onUi = true then some { m with uniqueValues := uniqueValues, ui := .inserting filterable, expected := expected }
        else some { m with uniqueValues := uniqueValues, logging := filterable :: m.logging, expected := expected }
  | .posted filterable =>
      if m.logging.contains filterable then
        some { m with logging := m.logging.erase filterable, queue := m.queue ++ [.insert filterable] }
      else none
  | .replaceValues onUi newValues =>
      if onUi = true then
        if m.ui = .idle then some { m.startReplacing newValues with expected := newValues } else none
      else some { m with queue := m.queue ++ [.replace newValues], expected := newValues }
  | .uiRuns =>
      match m.ui, m.queue with
      | .inserting filterable, _ => some { m.insertRow filterable with ui := .idle }
      | .replacing (v :: rest), _ =>
          some { m with sortedValues := m.sortedValues ++ [v], uniqueValues := m.uniqueValues.insert v, ui := .replacing rest }
      | .replacing [], _ => some { m with ui := .idle }
      | .idle, .insert filterable :: rest => some { m.insertRow filterable with queue := rest }
      | .idle, .replace newValues :: rest => some { m.startReplacing newValues with queue := rest }
      | .idle, [] => none

def machine (T : Type) [LinearOrder T] : Machine (AvailableLoggingFiltersModel T) (Action T) := ⟨created, step⟩

structure ListsAreSets (m : AvailableLoggingFiltersModel T) : Prop where
  increasing : m.sortedValues.Pairwise (· < ·)
  settled : m.Quiet → m.sortedValues = m.uniqueValues.elements ∧ m.uniqueValues = m.expected
  announced : ∀ announcement v, m.announced = some (announcement, v) →
    ∃ row : Nat, announcement = .inserted row row ∧ m.rows[row]? = some (some v)

-- While a replacement is queued only values are logged that the set has and the last queued one
-- brings. While one is under way no value is logged that it still has to insert. No replacement
-- is asked for between the test of a logged value and its posting, and the UI thread, which does
-- not wait for the queue, asks only where it gets ahead of no insertion and no other replacement.
def Settled (m : AvailableLoggingFiltersModel T) : Action T → Prop
  | .messageLogged _ filterable =>
      (filterable ∈ m.uniqueValues ∨ (filterable ∉ m.ui.remaining ∧ Update.replaces m.queue = [])) ∧
        ∀ last ∈ (Update.replaces m.queue).getLast?, filterable ∈ last
  | .replaceValues onUi newValues =>
      m.logging = [] ∧ (onUi = true →
        Update.inserts m.queue = [] ∧ ∀ last ∈ (Update.replaces m.queue).getLast?, last = newValues)
  | .posted _ => True
  | .uiRuns => True

structure Arranged (m : AvailableLoggingFiltersModel T) : Prop where
  sorted : Update.Sorted m.queue
  behind : Update.replaces m.queue ≠ [] → m.logging = []
  follows : Follows m.sortedValues m.ui.remaining (m.logging ++ Update.inserts m.queue ++ m.ui.pending) m.uniqueValues
  expected : ∀ v, v ∈ m.expected ↔
    match (Update.replaces m.queue).getLast? with
    | some newValues => v ∈ newValues
    | none => v ∈ m.uniqueValues ∨ v ∈ m.ui.remaining

section Steps
variable {m : AvailableLoggingFiltersModel T} {v : T} {newValues : OrderedSet T}

-- A value that the set has already changes nothing but what is expected, and that only by itself.
theorem arranged_known (arranged : Arranged m) (known : v ∈ m.uniqueValues)
    (brought : ∀ last ∈ (Update.replaces m.queue).getLast?, v ∈ last) :
    Arranged { m with expected := m.expected.insert v } := by
  refine ⟨arranged.sorted, arranged.behind, arranged.follows, ?_⟩
  intro w
  rw [OrderedSet.mem_insert, arranged.expected]
  cases queued : (Update.replaces m.queue).getLast? with
  | none => exact or_iff_right_of_imp fun same => .inl (same ▸ known)
  | some last => exact or_iff_right_of_imp fun same => same ▸ brought last queued

theorem arranged_logged (arranged : Arranged m) (absent : v ∉ m.uniqueValues) (apart : v ∉ m.ui.remaining)
    (unreplaced : Update.replaces m.queue = []) :
    Arranged { m with
      uniqueValues := m.uniqueValues.insert v, logging := v :: m.logging, expected := m.expected.insert v } := by
  refine ⟨arranged.sorted, fun some => absurd unreplaced some, follows_logged arranged.follows absent apart, ?_⟩
  intro w
  have before := arranged.expected w
  simp only [unreplaced, List.getLast?_nil] at before ⊢
  rw [OrderedSet.mem_insert, OrderedSet.mem_insert, before, or_assoc]

theorem arranged_inserting (arranged : Arranged m) (absent : v ∉ m.uniqueValues) (idle : m.ui = .idle)
    (unreplaced : Update.replaces m.queue = []) :
    Arranged { m with
      uniqueValues := m.uniqueValues.insert v, ui := .inserting v, expected := m.expected.insert v } := by
  have follows := arranged.follows
  rw [idle] at follows
  refine ⟨arranged.sorted, fun some => absurd unreplaced some, ?_, ?_⟩
  · refine follows_perm (follows_logged follows absent List.not_mem_nil) ?_
    simp only [UiTask.pending, List.append_nil]
    exact List.perm_append_singleton v _
  · intro w
    have before := arranged.expected w
    simp only [unreplaced, List.getLast?_nil, idle, UiTask.remaining] at before ⊢
    rw [OrderedSet.mem_insert, OrderedSet.mem_insert, before, or_assoc]

theorem arranged_posted (arranged : Arranged m) (logged : v ∈ m.logging) :
    Arranged { m with logging := m.logging.erase v, queue := m.queue ++ [.insert v] } := by
  have unreplaced : Update.replaces m.queue = [] := by
    by_contra some
    rw [arranged.behind some] at logged
    cases logged
  constructor
  · exact Update.sorted_inserted arranged.sorted v unreplaced
  · intro some
    simp [unreplaced] at some
  · refine follows_perm arranged.follows ?_
    refine List.Perm.append_right _ ?_
    simp only [Update.inserts_append, Update.inserts_insert, Update.inserts_nil]
    have moved : (v :: m.logging.erase v).Perm m.logging := (List.perm_cons_erase logged).symm
    calc m.logging.erase v ++ (Update.inserts m.queue ++ [v])
      _ = m.logging.erase v ++ Update.inserts m.queue ++ [v] := (List.append_assoc _ _ _).symm
      _ |>.Perm (v :: (m.logging.erase v ++ Update.inserts m.queue)) := List.perm_append_singleton v _
      _ |>.Perm (m.logging ++ Update.inserts m.queue) := moved.append_right _
  · intro w
    rw [arranged.expected, Update.replaces_append]
    simp

theorem arranged_queued (arranged : Arranged m) (unlogged : m.logging = []) :
    Arranged { m with queue := m.queue ++ [.replace newValues], expected := newValues } := by
  constructor
  · exact Update.sorted_replaced arranged.sorted newValues
  · intro _
    exact unlogged
  · simpa using arranged.follows
  · intro w
    simp

-- A replacement that begins with nothing left to insert leaves nothing of what was there before.
theorem arranged_started (queue : List (Update T)) (expected : OrderedSet T) (sorted : Update.Sorted queue)
    (inserts : Update.inserts queue = []) (unlogged : m.logging = [])
    (brings : ∀ v, v ∈ expected ↔ match (Update.replaces queue).getLast? with
      | some last => v ∈ last
      | none => v ∈ newValues) :
    Arranged { m.startReplacing newValues with queue := queue, expected := expected } := by
  constructor
  · exact sorted
  · intro _
    exact unlogged
  · have pending : m.logging ++ Update.inserts queue ++ (UiTask.replacing newValues.elements).pending = [] := by
      simp [unlogged, inserts]
    exact follows_perm (follows_empty newValues) (pending ▸ List.Perm.refl _)
  · intro w
    rw [brings]
    cases (Update.replaces queue).getLast? with
    | none => exact (or_iff_right (OrderedSet.not_mem_empty w)).symm
    | some last => rfl

theorem arranged_row (arranged : Arranged m) (queue : List (Update T)) (task : UiTask T) (sorted : Update.Sorted queue)
    (same : Update.replaces queue = Update.replaces m.queue) (whole : m.ui.remaining = [] ∧ task.remaining = [])
    (first : (v :: (m.logging ++ Update.inserts queue ++ task.pending)).Perm
      (m.logging ++ Update.inserts m.queue ++ m.ui.pending)) :
    Arranged { m.insertRow v with queue := queue, ui := task } := by
  have follows := arranged.follows
  rw [whole.1] at follows
  constructor
  · exact sorted
  · intro some
    exact arranged.behind (same ▸ some)
  · show Follows (inserted v m.sortedValues) task.remaining _ _
    rw [whole.2]
    exact follows_inserted (follows_perm follows first)
  · intro w
    show w ∈ m.expected ↔ match (Update.replaces queue).getLast? with
      | some last => w ∈ last
      | .none => w ∈ m.uniqueValues ∨ w ∈ task.remaining
    rw [arranged.expected, same, whole.1, whole.2]

theorem arranged_filled (arranged : Arranged m) {rest : List T} (filling : m.ui = .replacing (v :: rest)) :
    Arranged { m with
      sortedValues := m.sortedValues ++ [v], uniqueValues := m.uniqueValues.insert v, ui := .replacing rest } := by
  have follows := arranged.follows
  rw [filling] at follows
  refine ⟨arranged.sorted, arranged.behind, follows_filled follows, ?_⟩
  intro w
  have before := arranged.expected w
  rw [filling] at before
  rw [before]
  cases (Update.replaces m.queue).getLast? with
  | none =>
      simp only [UiTask.remaining, OrderedSet.mem_insert, List.mem_cons]
      rw [or_left_comm, or_assoc]
  | some last => rfl

theorem arranged_filled_up (arranged : Arranged m) (filled : m.ui = .replacing []) : Arranged { m with ui := .idle } := by
  have follows := arranged.follows
  have expected := arranged.expected
  rw [filled] at follows expected
  exact ⟨arranged.sorted, arranged.behind, follows, expected⟩

theorem message_arranged (onUi : Bool) {t : AvailableLoggingFiltersModel T} (arranged : Arranged m)
    (settled : Settled m (.messageLogged onUi v)) (next : step m (.messageLogged onUi v) = some t) : Arranged t := by
  rw [step] at next
  split at next
  · cases next
  · next free =>
    split at next
    · next known =>
      cases next
      exact arranged_known arranged known settled.2
    · next absent =>
      obtain ⟨apart, unreplaced⟩ := settled.1.resolve_left absent
      split at next
      · next here =>
        cases next
        exact arranged_inserting arranged absent (not_not.mp fun busy => free ⟨here, busy⟩) unreplaced
      · cases next
        exact arranged_logged arranged absent apart unreplaced

theorem replace_arranged (onUi : Bool) {t : AvailableLoggingFiltersModel T} (arranged : Arranged m)
    (settled : Settled m (.replaceValues onUi newValues)) (next : step m (.replaceValues onUi newValues) = some t) :
    Arranged t := by
  obtain ⟨unlogged, ahead⟩ := settled
  cases onUi with
  | false =>
      cases next
      exact arranged_queued arranged unlogged
  | true =>
      obtain ⟨inserts, last⟩ := ahead rfl
      rw [step, if_pos rfl] at next
      split at next
      · cases next
        refine arranged_started m.queue newValues arranged.sorted inserts unlogged ?_
        intro v
        cases queued : (Update.replaces m.queue).getLast? with
        | none => rfl
        | some values => rw [last values queued]
      · cases next

-- The UI thread goes on with its task, or takes the first update of the queue.
theorem ui_arranged {t : AvailableLoggingFiltersModel T} (arranged : Arranged m) (next : step m .uiRuns = some t) : Arranged t := by
  cases task : m.ui with
  | inserting v =>
      simp only [step, task] at next
      cases next
      refine arranged_row arranged m.queue .idle arranged.sorted rfl ⟨by rw [task]; rfl, rfl⟩ ?_
      simpa [task] using (List.perm_append_singleton v (m.logging ++ Update.inserts m.queue)).symm
  | replacing rest =>
      cases rest with
      | nil =>
          simp only [step, task] at next
          cases next
          exact arranged_filled_up arranged task
      | cons v rest =>
          simp only [step, task] at next
          cases next
          exact arranged_filled arranged task
  | idle =>
      have sorted := arranged.sorted
      cases queued : m.queue with
      | nil =>
          simp only [step, task, queued] at next
          cases next
      | cons update rest =>
          rw [queued] at sorted
          cases update with
          | insert v =>
              simp only [step, task, queued] at next
              cases next
              have whole : m.ui.remaining = [] := by rw [task, UiTask.remaining_idle]
              refine arranged_row arranged rest m.ui (Update.sorted_behind_insert sorted) (by rw [queued]; rfl) ⟨whole, whole⟩ ?_
              simpa [queued, task] using List.perm_middle.symm
          | replace newValues =>
              simp only [step, task, queued] at next
              cases next
              obtain ⟨inserts, later⟩ := Update.sorted_behind_replace sorted
              have unlogged : m.logging = [] := arranged.behind (by simp [queued])
              refine arranged_started rest m.expected later inserts unlogged ?_
              intro v
              rw [arranged.expected, queued, Update.replaces_replace, List.getLast?_cons]
              cases (Update.replaces rest).getLast? <;> rfl

theorem step_arranged (s : AvailableLoggingFiltersModel T) (a : Action T) (t : AvailableLoggingFiltersModel T)
    (arranged : Arranged s) (settled : Settled s a) (next : step s a = some t) : Arranged t := by
  cases a with
  | messageLogged onUi v => exact message_arranged onUi arranged settled next
  | posted v =>
      rw [step] at next
      split at next
      · next logged =>
        cases next
        exact arranged_posted arranged (List.contains_iff_mem.mp logged)
      · cases next
  | replaceValues onUi newValues => exact replace_arranged onUi arranged settled next
  | uiRuns => exact ui_arranged arranged next

def Announced (m : AvailableLoggingFiltersModel T) : Prop :=
  ∀ announcement v, m.announced = some (announcement, v) →
    ∃ row : Nat, announcement = .inserted row row ∧ m.rows[row]? = some (some v)

theorem insert_row_announced (m : AvailableLoggingFiltersModel T) (v : T) : Announced (m.insertRow v) := by
  intro announcement w announced
  obtain ⟨rfl, rfl⟩ := Prod.mk.inj (Option.some.inj announced)
  refine ⟨place v m.sortedValues + 1, rfl, ?_⟩
  rw [rows, List.getElem?_cons_succ, insertRow, List.getElem?_map, inserted_at, Option.map_some]

theorem filled_announced (m : AvailableLoggingFiltersModel T) (v : T) (before : Announced m) :
    Announced { m with sortedValues := m.sortedValues ++ [v] } := by
  intro announcement w announced
  obtain ⟨row, same, shown⟩ := before announcement w announced
  refine ⟨row, same, ?_⟩
  have inside : row < m.rows.length := (List.getElem?_eq_some_iff.mp shown).1
  have longer : rows { m with sortedValues := m.sortedValues ++ [v] } = m.rows ++ [some v] := by simp [rows]
  rw [longer, List.getElem?_append_left inside, shown]

theorem step_announced (s : AvailableLoggingFiltersModel T) (a : Action T) (t : AvailableLoggingFiltersModel T)
    (before : Announced s) (next : step s a = some t) : Announced t := by
  cases a with
  | messageLogged onUi v =>
      rw [step] at next
      split at next
      · cases next
      · split at next
        · cases next
          exact before
        · split at next <;> cases next <;> exact before
  | posted v =>
      rw [step] at next
      split at next <;> cases next
      exact before
  | replaceValues onUi newValues =>
      rw [step] at next
      split at next
      · split at next <;> cases next
        intro announcement w announced
        cases announced
      · cases next
        exact before
  | uiRuns =>
      rw [step] at next
      split at next <;> cases next
      · exact insert_row_announced s _
      · exact filled_announced s _ before
      · exact before
      · exact insert_row_announced s _
      · intro announcement w announced
        cases announced

end Steps

theorem arranged_sets (m : AvailableLoggingFiltersModel T) (arranged : Arranged m) (announced : Announced m) : ListsAreSets m := by
  refine ⟨follows_shown arranged.follows, ?_, announced⟩
  intro quiet
  obtain ⟨unlogged, unqueued, idle⟩ := quiet
  have follows := arranged.follows
  have expected := arranged.expected
  rw [unlogged, unqueued, idle] at follows
  rw [unqueued, idle] at expected
  refine ⟨follows_settled follows, OrderedSet.same_members fun w => ?_⟩
  exact (expected w).trans (or_iff_left List.not_mem_nil) |>.symm

theorem created_arranged : Arranged (created : AvailableLoggingFiltersModel T) where
  sorted := rfl
  behind := fun some => absurd rfl some
  follows := follows_empty .empty
  expected := fun _ => (or_iff_left List.not_mem_nil).symm

theorem lists_are_sets (actions : List (Action T)) (settled : Meets (machine T) Settled created actions) :
    Always (machine T) ListsAreSets created actions := by
  refine meets_always (machine T) Settled ListsAreSets ?_ created .init actions settled
  intro s reach
  have kept : Arranged s ∧ Announced s := by
    refine reach_invariant (machine T) Settled (fun m => Arranged m ∧ Announced m) ?_ ?_ s reach
    · refine ⟨created_arranged, ?_⟩
      intro announcement w announced
      cases announced
    · intro s a t _ before meets next
      exact ⟨step_arranged s a t before.1 meets next, step_announced s a t before.2 next⟩
  exact arranged_sets s kept.1 kept.2

instance (m : AvailableLoggingFiltersModel T) : (a : Action T) → Decidable (Settled m a)
  | .messageLogged _ _ => inferInstanceAs (Decidable ((_ ∨ _) ∧ ∀ last ∈ (Update.replaces m.queue).getLast?, _))
  | .replaceValues _ _ => inferInstanceAs (Decidable (_ ∧ (_ → _ ∧ ∀ last ∈ (Update.replaces m.queue).getLast?, _)))
  | .posted _ => inferInstanceAs (Decidable True)
  | .uiRuns => inferInstanceAs (Decidable True)

def pids (values : List Nat) : OrderedSet Nat := values.foldl (fun set v => set.insert v) .empty

-- A list is brought in while others log, and logged values come into it on both ways.
def sampleRun : List (Action Nat) :=
  [.messageLogged false 7, .posted 7, .replaceValues false (pids [2, 6]), .uiRuns, .uiRuns, .messageLogged false 4, .uiRuns,
    .uiRuns, .uiRuns, .messageLogged true 9, .posted 4, .uiRuns, .uiRuns, .messageLogged false 6]

theorem sample_lists_are_sets : Always (machine Nat) ListsAreSets created sampleRun := by
  have run : (execIf (machine Nat) (fun m a => decide (Settled m a)) created sampleRun).isSome = true := by decide
  obtain ⟨t, final⟩ := Option.isSome_iff_exists.mp run
  exact lists_are_sets sampleRun (exec_if_meets (machine Nat) Settled sampleRun created t final).1

theorem lists_not_sets : ¬ Always (machine Nat) ListsAreSets created
    [.replaceValues false (pids [5]), .messageLogged false 5, .posted 5, .uiRuns, .uiRuns, .uiRuns, .uiRuns] := by
  intro always
  obtain ⟨m, kept, found⟩ := always_finds (machine Nat) ListsAreSets created _ (fun m => m.sortedValues = [5, 5]) always (by decide)
  have increasing := kept.increasing
  rw [of_decide_eq_true found] at increasing
  revert increasing
  decide

end RadeonPanel.Frontend.LogFilters
