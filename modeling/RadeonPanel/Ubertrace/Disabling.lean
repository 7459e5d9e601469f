import RadeonPanel.Ubertrace.Client

set_option autoImplicit false

namespace RadeonPanel.Ubertrace

open Interleaving UbertraceOrchestrator

-- The user that a step is taken for.
def CallerPc.user : CallerPc → Option UbertraceUserId
  | .outside | .addPreliminarySources _ | .addEarlyConfiguration _ => none
  | .initializeUser user _ _ | .disconnect user _ | .handleDriverState user _ _ | .requestAbortTrace user _
  | .requestBeginTrace user _ _ | .prepareForDelayedCapture user | .setUserIsDisabled user _ => some user

-- What the orchestrator knows of one user's readiness.
structure Standing where
  state : Option ClientState
  disabled : Option ClientState
deriving DecidableEq, Repr

def UbertraceOrchestrator.standing (o : UbertraceOrchestrator) (user : UbertraceUserId) : Standing :=
  ⟨o.userState user, o.disabledUsers user⟩

def Standing.capturable : Standing := ⟨some .idle, none⟩

-- After a finished auto capture.
def Standing.finished : Standing := ⟨some .done, some .done⟩

theorem capturable_ready (o : UbertraceOrchestrator) (user : UbertraceUserId)
    (capturable : o.standing user = .capturable) : o.isReadyForCapture user = some true := by
  have idle : o.userState user = some .idle := congrArg Standing.state capturable
  simp [isReadyForCapture, idle]

-- What SetUserIsDisabled makes of it.
def Standing.toggle (standing : Standing) (disabled : Bool) : Standing where
  state := some .disabled
  disabled :=
    if disabled then some (standing.disabled.getD .disabled)
    else if standing.disabled = some .disabled then none
    else standing.disabled

theorem toggle_standing (o : UbertraceOrchestrator) (user : UbertraceUserId) (disabled : Bool) :
    (o.setUserIsDisabled user disabled .disabled).standing user = (o.standing user).toggle disabled := by
  simp only [standing, Standing.toggle, setUserIsDisabled, set_state_here]
  cases disabled with
  | true =>
      by_cases listed : (o.disabledUsers user).isSome = true
      · obtain ⟨state, entry⟩ := Option.isSome_iff_exists.mp listed
        simp [setState, entry]
      · have absent : o.disabledUsers user = none := by simpa using listed
        simp [setState, absent]
  | false =>
      by_cases own : o.disabledUsers user = some .disabled
      · simp [setState, own]
      · simp [setState, own]

section

variable (user other : UbertraceUserId) (o : UbertraceOrchestrator)

theorem standing_set (state : ClientState) (different : user ≠ other) :
    (o.setState state other).standing user = o.standing user := by
  rw [standing, set_state_elsewhere o state other user different]
  rfl

theorem standing_touch (different : user ≠ other) : (o.touchUserState other).standing user = o.standing user := by
  simp only [standing, touchUserState, Function.update_of_ne different]

theorem standing_reset (different : user ≠ other) : (o.resetWaiting other).standing user = o.standing user := by
  obtain same | ⟨_, same⟩ := reset_waiting_cases o other
  · rw [same]
  · rw [same, standing_set user other o .idle different]

theorem standing_disabled (disabled : Bool) (state : ClientState) (different : user ≠ other) :
    (o.setUserIsDisabled other disabled state).standing user = o.standing user := by
  rw [setUserIsDisabled, standing_set user other _ state different]
  cases disabled with
  | true =>
      by_cases listed : (o.disabledUsers other).isSome = true
      · simp [standing, listed]
      · simp [standing, listed, Function.update_of_ne different]
  | false =>
      by_cases own : o.disabledUsers other = some state
      · simp [standing, own, Function.update_of_ne different]
      · simp [standing, own]

theorem initialize_standing (free enable : Bool) (pc : InitializePc) (answer : Answer) (e : Effect InitializePc)
    (different : user ≠ other) (next : initializeStep o free other enable pc answer = some e) :
    e.orch.standing user = o.standing user := by
  revert next
  fun_cases initializeStep o free other enable pc answer
  all_goals intro next
  all_goals cases next
  all_goals first
    | rfl
    | exact standing_touch user other o different
    | exact standing_set user other o _ different

theorem disconnect_standing (free joined : Bool) (pc : DisconnectPc) (answer : Answer) (e : Effect DisconnectPc)
    (named : user ≠ invalidUbertraceUserId) (next : disconnectStep o free joined other pc answer = some e) :
    e.orch.standing user = o.standing user := by
  revert next
  fun_cases disconnectStep o free joined other pc answer
  all_goals intro next
  all_goals cases next
  all_goals first
    | rfl
    | exact standing_set user invalidUbertraceUserId o _ named

theorem handle_driver_state_standing (free : Bool) (state : DdDriverState) (pc : HandleDriverStatePc)
    (answer : Answer) (e : Effect HandleDriverStatePc)
    (next : handleDriverStateStep o free other state pc answer = some e) :
    e.orch.standing user = o.standing user := by
  revert next
  fun_cases handleDriverStateStep o free other state pc answer
  all_goals intro next
  all_goals cases next
  all_goals rfl

theorem request_abort_trace_standing (free : Bool) (pc : RequestAbortTracePc) (answer : Answer)
    (e : Effect RequestAbortTracePc) (different : user ≠ other)
    (next : requestAbortTraceStep o free other pc answer = some e) : e.orch.standing user = o.standing user := by
  revert next
  fun_cases requestAbortTraceStep o free other pc answer
  all_goals intro next
  all_goals cases next
  all_goals first
    | rfl
    | exact standing_set user other o _ different

theorem request_begin_trace_standing (free joined : Bool) (fresh thread : Nat) (config : UbertraceCaptureConfig)
    (pc : RequestBeginTracePc) (answer : Answer) (e : Effect RequestBeginTracePc) (different : user ≠ other)
    (named : user ≠ invalidUbertraceUserId)
    (next : requestBeginTraceStep o free joined fresh thread other config pc answer = some e) :
    e.orch.standing user = o.standing user := by
  revert next
  fun_cases requestBeginTraceStep o free joined fresh thread other config pc answer
  all_goals intro next
  all_goals cases next
  all_goals first
    | rfl
    | exact standing_reset user other o different
    | exact standing_set user other o _ different
    | exact standing_set user invalidUbertraceUserId o _ named

theorem prepared_standing (next : UbertraceOrchestrator) (result : Result) (different : user ≠ other)
    (prepared : o.prepareForDelayedCapture other = some (next, result)) :
    next.standing user = o.standing user := by
  obtain same | ⟨_, _, same⟩ := prepared_state o next other result prepared
  · rw [same]
  · rw [same, standing_set user other o _ different]

end

theorem caller_standing (user : UbertraceUserId) (named : user ≠ invalidUbertraceUserId) (o : UbertraceOrchestrator)
    (free joined : Bool) (fresh thread : Nat) (pc : CallerPc) (answer : Answer) (e : CallerEffect)
    (apart : pc.user ≠ some user) (next : callerStep o free joined fresh thread pc answer = some e) :
    e.orch.standing user = o.standing user := by
  revert apart
  refine caller_rule o free joined fresh thread
    (fun pc _ e => pc.user ≠ some user → e.orch.standing user = o.standing user)
    ?_ ?_ ?_ ?_ ?_ ?_ ?_ ?_ ?_ ?_ pc answer e next
  · intro other enable pc answer e inside apart
    exact initialize_standing user other o free enable pc answer e (fun same => apart (same ▸ rfl)) inside
  · exact fun other pc answer e inside _ => disconnect_standing user other o free joined pc answer e named inside
  · exact fun other state pc answer e inside _ =>
      handle_driver_state_standing user other o free state pc answer e inside
  · intro other pc answer e inside apart
    exact request_abort_trace_standing user other o free pc answer e (fun same => apart (same ▸ rfl)) inside
  · intro other config pc answer e inside apart
    exact request_begin_trace_standing user other o free joined fresh thread config pc answer e
      (fun same => apart (same ▸ rfl)) named inside
  · exact fun sources _ _ => rfl
  · intro params _
    cases params <;> rfl
  · exact fun other _ _ _ => rfl
  · intro other next result _ prepared apart
    exact prepared_standing user other o next result (fun same => apart (same ▸ rfl)) prepared
  · exact fun other disabled _ apart => standing_disabled user other o disabled .disabled (fun same => apart (same ▸ rfl))

theorem poller_standing (user : UbertraceUserId) (named : user ≠ invalidUbertraceUserId) (o : UbertraceOrchestrator)
    (free : Bool) (thread : Nat) (p : Poller) (e : PollerEffect) (apart : p.user o ≠ some user)
    (move : PollerMove o free thread p e) : e.orch.standing user = o.standing user := by
  have different : ∀ other, p.user o = some other → user ≠ other := by
    rintro other serves rfl
    exact apart serves
  cases move with
  | complete completed collected here =>
      by_cases oneShot : p.config.isAutoCapture = true
      · simp only [if_pos oneShot]
        exact standing_disabled user completed o true .done (different completed (by rw [Poller.user, here]; rfl))
      · simp only [if_neg oneShot]
  | abort completed here => exact standing_set user invalidUbertraceUserId o .busy named
  | writing here => exact standing_set user o.capturingUser o .dumping (different _ (by rw [Poller.user, here]; rfl))
  | chunksFailed completed here | postProcess completed here | completed completed here | handedOver completed here
  | aborted completed here | cancelFailed completed here =>
      exact standing_set user completed o _ (different completed (by rw [Poller.user, here]; rfl))
  | _ => rfl

-- The flag of a SetUserIsDisabled of the user that a step executes.
def toggled (user : UbertraceUserId) (s : State) : Action → Option Bool
  | .caller id _ =>
      match s.callers id with
      | .setUserIsDisabled other disabled => if other = user then some disabled else none
      | _ => none
  | .getNewUser | .call _ _ | .poller _ _ => none

-- The flags that a run executes, in their order.
def toggles (user : UbertraceUserId) (s : State) : List Action → List Bool
  | [] => []
  | a :: rest =>
      match step s a with
      | none => []
      | some t => (toggled user s a).toList ++ toggles user t rest

-- All other steps of a run are taken for other users.
def apartFrom (user : UbertraceUserId) (s : State) (a : Action) : Prop :=
  (toggled user s a).isSome = true ∨
    match a with
    | .caller id _ => (s.callers id).user ≠ some user
    | .poller id _ => (s.pollers id).user s.orch ≠ some user
    | .getNewUser | .call _ _ => True

instance (user : UbertraceUserId) (s : State) (a : Action) : Decidable (apartFrom user s a) := by
  unfold apartFrom
  cases a <;> exact inferInstance

theorem toggled_caller (user : UbertraceUserId) (s : State) (a : Action) (disabled : Bool)
    (toggles : toggled user s a = some disabled) :
    ∃ id answer, a = .caller id answer ∧ s.callers id = .setUserIsDisabled user disabled := by
  cases a with
  | getNewUser | call _ _ | poller _ _ => cases toggles
  | caller id answer =>
      refine ⟨id, answer, rfl, ?_⟩
      rw [toggled] at toggles
      cases here : s.callers id with
      | setUserIsDisabled other flag =>
          rw [here] at toggles
          by_cases same : other = user
          · simp only [if_pos same, Option.some.injEq] at toggles
            rw [same, toggles]
          · simp only [if_neg same] at toggles
            cases toggles
      | _ =>
          rw [here] at toggles
          cases toggles

theorem toggled_step (user : UbertraceUserId) (s t : State) (a : Action) (disabled : Bool)
    (toggles : toggled user s a = some disabled) (next : step s a = some t) :
    t.orch.standing user = (s.orch.standing user).toggle disabled := by
  obtain ⟨id, answer, rfl, here⟩ := toggled_caller user s a disabled toggles
  obtain ⟨e, effect, rfl⟩ := Option.map_eq_some_iff.mp next
  rw [State.callerEffect, here] at effect
  rw [← toggle_standing]
  cases answer with
  | go =>
      rw [callerStep] at effect
      by_cases free : s.free = true
      · rw [free] at effect
        cases effect
        rfl
      · simp [free] at effect
  | _ => cases effect

theorem step_standing (user : UbertraceUserId) (named : user ≠ invalidUbertraceUserId) (s t : State) (a : Action)
    (apart : apartFrom user s a) (next : step s a = some t) :
    t.orch.standing user = (toggled user s a).toList.foldl Standing.toggle (s.orch.standing user) := by
  cases toggles : toggled user s a with
  | some disabled => exact toggled_step user s t a disabled toggles next
  | none =>
      have others := apart.resolve_left (by simp [toggles])
      rcases step_cases s t a next with ⟨rfl, rfl⟩ | ⟨id, call, rfl, _, rfl⟩ |
        ⟨id, answer, e, rfl, effect, rfl⟩ | ⟨id, answer, e, rfl, effect, rfl⟩
      · rfl
      · rfl
      · exact caller_standing user named _ _ _ _ _ _ _ _ others effect
      · exact poller_standing user named _ _ _ _ _ others (poller_moves _ _ _ _ _ _ effect)

theorem run_standing (features : UbertraceFeatures) (user : UbertraceUserId) (named : user ≠ invalidUbertraceUserId)
    (s t : State) (actions : List Action) (apart : Meets (ubertrace features) (apartFrom user) s actions)
    (run : exec (ubertrace features) s actions = some t) :
    t.orch.standing user = (toggles user s actions).foldl Standing.toggle (s.orch.standing user) := by
  induction actions generalizing s with
  | nil =>
      cases run
      rfl
  | cons a rest ih =>
      obtain ⟨between, taken, remaining⟩ := Option.bind_eq_some_iff.mp run
      obtain ⟨here, later⟩ := apart between taken
      have first : step s a = some between := taken
      rw [toggles, first, List.foldl_append, ← step_standing user named s between a here first]
      exact ih between later remaining

theorem toggled_state (flags : List Bool) (standing : Standing) :
    (flags.foldl Standing.toggle standing).state = if flags = [] then standing.state else some .disabled := by
  cases flags using List.reverseRecOn with
  | nil => rfl
  | append_singleton earlier last => simp [Standing.toggle]

theorem toggled_capturable (flags : List Bool) : flags.foldl Standing.toggle .capturable = .capturable ↔ flags = [] := by
  constructor
  · intro capturable
    by_contra some
    have state := toggled_state flags .capturable
    rw [if_neg some, capturable] at state
    cases state
  · rintro rfl
    rfl

-- The entry says why the user was disabled first, and only that reason is taken back.
theorem toggled_finished (flags : List Bool) :
    (flags.foldl Standing.toggle .finished).disabled = some .done := by
  induction flags using List.reverseRecOn with
  | nil => rfl
  | append_singleton earlier last ih =>
      rw [List.foldl_append, List.foldl_cons, List.foldl_nil, Standing.toggle, ih]
      cases last <;> rfl

theorem toggled_disabled (flags : List Bool) :
    (flags.foldl Standing.toggle .capturable).disabled = if flags.getLast? = some true then some .disabled else none := by
  induction flags using List.reverseRecOn with
  | nil => rfl
  | append_singleton earlier last ih =>
      rw [List.foldl_append, List.foldl_cons, List.foldl_nil, Standing.toggle, ih, List.getLast?_concat]
      by_cases before : earlier.getLast? = some true <;> cases last <;> simp [before]

theorem toggled_done (flags : List Bool) : (flags.foldl Standing.toggle .finished).state = some .done ↔ flags = [] := by
  rw [toggled_state]
  by_cases none : flags = [] <;> simp [none, Standing.finished]

theorem toggling_undone_iff (features : UbertraceFeatures) (user : UbertraceUserId)
    (named : user ≠ invalidUbertraceUserId) (s t : State) (actions : List Action)
    (apart : Meets (ubertrace features) (apartFrom user) s actions)
    (run : exec (ubertrace features) s actions = some t) :
    (s.orch.standing user = .capturable → (toggles user s actions).getLast? ≠ some true →
      t.orch.disabledUsers user = none ∧
        (t.orch.standing user = .capturable ↔ toggles user s actions = [])) ∧
    (s.orch.standing user = .finished →
      t.orch.disabledUsers user = some .done ∧
        (t.orch.userState user = some .done ↔ toggles user s actions = [])) := by
  have after := run_standing features user named s t actions apart run
  constructor
  · intro capturable enabledLast
    rw [capturable] at after
    have entry : t.orch.disabledUsers user = _ := congrArg Standing.disabled after
    rw [entry, after, toggled_disabled, if_neg enabledLast]
    exact ⟨rfl, toggled_capturable (toggles user s actions)⟩
  · intro finished
    rw [finished] at after
    have entry : t.orch.disabledUsers user = _ := congrArg Standing.disabled after
    have state : t.orch.userState user = _ := congrArg Standing.state after
    rw [entry, state]
    exact ⟨toggled_finished (toggles user s actions), toggled_done (toggles user s actions)⟩

-- One call of SetUserIsDisabled from beginning to end.
def disables (id : Nat) (user : UbertraceUserId) (disabled : Bool) : List Action :=
  [.call id (.setUserIsDisabled user disabled), .caller id .go]

def disablesAndEnables : List Action := disables 0 1 true ++ disables 0 1 false

-- A reachable state with the standing, and a run from it that only toggles user 1.
theorem toggling_found (standing : Standing) (start actions : List Action) (later : State → Bool)
    (run : (exec (ubertrace .default) (State.initial .default) start).any (fun s => s.orch.standing 1 = standing &&
      (execIf (ubertrace .default) (fun s a => decide (apartFrom 1 s a)) s actions).any fun t =>
        toggles 1 s actions = [true, false] && later t) = true) :
    ∃ s t, Reachable (ubertrace .default) s ∧ s.orch.standing 1 = standing ∧
      Meets (ubertrace .default) (apartFrom 1) s actions ∧ exec (ubertrace .default) s actions = some t ∧
      toggles 1 s actions = [true, false] ∧ later t = true := by
  obtain ⟨s, reach, found⟩ := exec_finds (ubertrace .default) start _ run
  obtain ⟨here, rest⟩ := Bool.and_eq_true_iff.mp found
  obtain ⟨t, final, there⟩ := (Option.any_eq_true _ _).mp rest
  obtain ⟨flags, holds⟩ := Bool.and_eq_true_iff.mp there
  obtain ⟨apart, executed⟩ := exec_if_meets (ubertrace .default) (apartFrom 1) actions s t final
  exact ⟨s, t, reach, of_decide_eq_true here, apart, executed, of_decide_eq_true flags, holds⟩

def finishesAutoCapture : List Action := connects 0 1 ++ begins 0 1 autoCapture ++ collects 0 .success

theorem toggling_undone_runs :
    (∃ s t, s.orch.standing 1 = .capturable ∧ exec (ubertrace .default) s disablesAndEnables = some t ∧
      t.orch.disabledUsers 1 = none ∧ t.orch.standing 1 ≠ .capturable) ∧
    ∃ s t, s.orch.standing 1 = .finished ∧ exec (ubertrace .default) s disablesAndEnables = some t ∧
      t.orch.disabledUsers 1 = some .done ∧ t.orch.userState 1 ≠ some .done := by
  constructor
  · obtain ⟨s, t, _, capturable, apart, run, flags, _⟩ :=
      toggling_found .capturable (connects 0 1) disablesAndEnables (fun _ => true) (by decide)
    obtain ⟨enabled, iff⟩ := (toggling_undone_iff .default 1 (by decide) s t disablesAndEnables apart run).1
      capturable (by simp [flags])
    exact ⟨s, t, capturable, run, enabled, by simp [iff, flags]⟩
  · obtain ⟨s, t, _, finished, apart, run, flags, _⟩ :=
      toggling_found .finished finishesAutoCapture disablesAndEnables (fun _ => true) (by decide)
    obtain ⟨kept, iff⟩ := (toggling_undone_iff .default 1 (by decide) s t disablesAndEnables apart run).2 finished
    exact ⟨s, t, finished, run, kept, by simp [iff, flags]⟩

-- A user that is disabled and enabled again cannot capture.
theorem enabling_again_disables :
    ¬ ∀ features user s t actions, user ≠ invalidUbertraceUserId → Reachable (ubertrace features) s →
      Meets (ubertrace features) (apartFrom user) s actions → exec (ubertrace features) s actions = some t →
      s.orch.standing user = .capturable → (toggles user s actions).getLast? ≠ some true →
      t.orch.standing user = .capturable := by
  intro claimed
  obtain ⟨s, t, reach, capturable, apart, run, flags, parted⟩ :=
    toggling_found .capturable (connects 0 1) disablesAndEnables (fun t => t.orch.standing 1 ≠ .capturable) (by decide)
  have undone := claimed .default 1 s t disablesAndEnables (by decide) reach apart run capturable (by simp [flags])
  exact of_decide_eq_true parted undone

end RadeonPanel.Ubertrace
