import RadeonPanel.Base.History
import RadeonPanel.Ubertrace.Locking

set_option autoImplicit false

namespace RadeonPanel.Ubertrace

open Interleaving

-- The sources of all clients in the order they were added.
def added : List Event → List UberTraceSource
  | [] => []
  | .sourcesAdded sources :: older => added older ++ sources
  | _ :: older => added older

-- The sources of the configurations that the driver has accepted.
def delivered : List Event → List UberTraceSource
  | [] => []
  | .preliminaryConfigured config .success :: older => delivered older ++ config.sources
  | _ :: older => delivered older

-- What has to be pending: a configuration that fails gives its params back,
-- unless newer ones were added while it was under way.
def pendingParams : List Event → Option UberTraceGlobalParams
  | [] => none
  | .paramsAdded params :: _ => some params
  | .reachedPostDeviceInit _ :: _ => none
  | .preliminaryConfigured config result :: older =>
      if result = .success then pendingParams older else (pendingParams older).or config.globalParams
  | _ :: older => pendingParams older

def CallerPc.carried : CallerPc → Option UberTraceConfig
  | .handleDriverState _ _ (.configure config) => some config
  | _ => none

-- The sources that have been moved out for a configuration not yet answered.
def State.inTransit (s : State) : List UberTraceSource :=
  match s.mutex with
  | some (.caller id) => (s.callers id).carried.elim [] (·.sources)
  | _ => []

def Event.preliminary : Event → Bool
  | .sourcesAdded _ | .paramsAdded _ | .reachedPostDeviceInit _ | .preliminaryConfigured _ _ => true
  | _ => false

def DeliversAdded (event : Event) (older : List Event) : Prop :=
  ∀ config result, event = .preliminaryConfigured config result → added older = delivered (event :: older)

-- Every source is in one delivered configuration, in transit or pending, and
-- whoever gets its `postDeviceInit` handled finds all of them delivered.
structure State.PreliminaryKept (s : State) : Prop where
  sources : added s.log = delivered s.log ++ s.inTransit ++ s.orch.preliminarySources
  params : s.orch.preliminaryGlobalParams = pendingParams s.log
  complete : AtEach DeliversAdded s.log

-- A configuration fails only when nothing is lost with it.
def failsEmptyHanded (s : State) : Action → Bool
  | .caller id (.config answer) =>
      match (s.callers id).carried with
      | some config => updateConfiguration answer = .success ∨
          config.sources = [] ∧ (config.globalParams.isSome → s.orch.preliminaryGlobalParams.isSome)
      | none => true
  | _ => true

theorem preliminary_silent (events log : List Event) (silent : ∀ event ∈ events, event.preliminary = false) :
    added (events ++ log) = added log ∧ delivered (events ++ log) = delivered log ∧
      pendingParams (events ++ log) = pendingParams log := by
  induction events with
  | nil => exact ⟨rfl, rfl, rfl⟩
  | cons event rest ih =>
      have later := ih fun other member => silent other (List.mem_cons_of_mem _ member)
      have here := silent event List.mem_cons_self
      cases event with
      | sourcesAdded _ | paramsAdded _ | reachedPostDeviceInit _ | preliminaryConfigured _ _ => cases here
      | _ => exact later

theorem delivered_configured (config : UberTraceConfig) (result : Result) (older : List Event) :
    delivered (.preliminaryConfigured config result :: older) =
      if result = .success then delivered older ++ config.sources else delivered older := by
  cases result <;> rfl

theorem preliminary_other (event : Event) (older : List Event)
    (other : ∀ config result, event ≠ .preliminaryConfigured config result) : DeliversAdded event older :=
  fun config result same => absurd same (other config result)

theorem carried_here (pc : CallerPc) (config : UberTraceConfig) (carries : pc.carried = some config) :
    ∃ user state, pc = .handleDriverState user state (.configure config) := by
  cases pc with
  | handleDriverState user state pc =>
      cases pc with
      | lock => cases carries
      | configure _ =>
          cases carries
          exact ⟨user, state, rfl⟩
  | _ => cases carries

theorem carried_holds_lock (pc : CallerPc) (config : UberTraceConfig) (carries : pc.carried = some config) :
    pc.holdsLock = true := by
  obtain ⟨user, state, rfl⟩ := carried_here pc config carries
  rfl

theorem in_transit_carried (s : State) (locked : s.Locked) (id : Nat) (config : UberTraceConfig)
    (carries : (s.callers id).carried = some config) : s.inTransit = config.sources := by
  have owner := (locked (.caller id)).mp (carried_holds_lock _ config carries)
  rw [State.inTransit, owner]
  simp only [carries, Option.elim_some]

theorem in_transit_none (s : State) (none : ∀ id, (s.callers id).carried = none) : s.inTransit = [] := by
  unfold State.inTransit
  split
  · rw [none, Option.elim_none]
  · rfl

theorem in_transit_same (s t : State) (locked : s.Locked) (lockedAfter : t.Locked)
    (same : ∀ id, (t.callers id).carried = (s.callers id).carried) : t.inTransit = s.inTransit := by
  by_cases carries : ∃ id config, (s.callers id).carried = some config
  · obtain ⟨id, config, here⟩ := carries
    have after := (same id).trans here
    rw [in_transit_carried s locked id config here, in_transit_carried t lockedAfter id config after]
  · have before : ∀ id, (s.callers id).carried = none := by
      intro id
      cases here : (s.callers id).carried with
      | none => rfl
      | some config => exact absurd ⟨id, config, here⟩ carries
    rw [in_transit_none s before, in_transit_none t fun id => (same id).trans (before id)]

-- The steps of a call that touch the preliminary configuration.
inductive PreliminaryStep (o : UbertraceOrchestrator) (free : Bool) (answer : Answer) :
    CallerPc → CallerEffect → Prop where
  | quiet (pc : CallerPc) (e : CallerEffect) (same : e.pc.carried = pc.carried)
      (sources : e.orch.preliminarySources = o.preliminarySources)
      (params : e.orch.preliminaryGlobalParams = o.preliminaryGlobalParams)
      (silent : ∀ event ∈ e.events, event.preliminary = false) : PreliminaryStep o free answer pc e
  | sourcesAdded (sources : List UberTraceSource) (unlocked : free = true) :
      PreliminaryStep o free answer (.addPreliminarySources sources)
        ⟨o.addPreliminarySources sources, .outside, .keep, [.sourcesAdded sources], none⟩
  | paramsAdded (params : UberTraceGlobalParams) :
      PreliminaryStep o free answer (.addEarlyConfiguration (some params))
        ⟨o.addEarlyConfiguration (some params), .outside, .keep, [.paramsAdded params], none⟩
  | taken (user : UbertraceUserId) (state : DdDriverState) (unlocked : free = true) :
      PreliminaryStep o free answer (.handleDriverState user state .lock)
        ⟨(o.setDriverState user state).dropPreliminary, .handleDriverState user state (.configure o.preliminaryConfig),
          .acquire, [.reachedPostDeviceInit user], none⟩
  | configured (user : UbertraceUserId) (state : DdDriverState) (config : UberTraceConfig) (given : ConfigAnswer)
      (answered : answer = .config given) :
      PreliminaryStep o free answer (.handleDriverState user state (.configure config))
        ⟨o, .outside, .release, [.returned (.handleDriverState user state) (updateConfiguration given),
          .preliminaryConfigured config (updateConfiguration given)], none⟩

theorem handle_driver_state_preliminary (o : UbertraceOrchestrator) (free : Bool) (user : UbertraceUserId)
    (state : DdDriverState) (pc : HandleDriverStatePc) (answer : Answer) (e : Effect HandleDriverStatePc)
    (next : handleDriverStateStep o free user state pc answer = some e) :
    PreliminaryStep o free answer (.handleDriverState user state pc) (e.inCall (.handleDriverState user state)) := by
  revert next
  fun_cases handleDriverStateStep o free user state pc answer
  all_goals intro next
  all_goals cases next
  case case4 unlocked _ _ => exact .taken user state (by simpa using unlocked)
  case case5 config answer _ => exact .configured user state config answer rfl
  all_goals exact .quiet _ _ rfl rfl rfl (by simp [Event.preliminary])

theorem carried_elsewhere (pc : CallerPc) (elsewhere : pc.operation ≠ some .handleDriverState) : pc.carried = none := by
  cases pc with
  | handleDriverState _ _ _ => exact absurd rfl elsewhere
  | _ => rfl

theorem preliminary_operation (event : Event) (preliminary : event.preliminary = true) :
    event.operation = some .addPreliminarySources ∨ event.operation = some .addEarlyConfiguration ∨
      event.operation = some .handleDriverState := by
  cases event with
  | sourcesAdded _ => exact .inl rfl
  | paramsAdded _ => exact .inr (.inl rfl)
  | reachedPostDeviceInit _ | preliminaryConfigured _ _ => exact .inr (.inr rfl)
  | _ => cases preliminary

theorem preliminary_elsewhere (o : UbertraceOrchestrator) (free joined : Bool) (fresh thread : Nat) (pc : CallerPc)
    (answer : Answer) (e : CallerEffect) (next : callerStep o free joined fresh thread pc answer = some e)
    (noSources : pc.operation ≠ some .addPreliminarySources) (noParams : pc.operation ≠ some .addEarlyConfiguration)
    (noState : pc.operation ≠ some .handleDriverState) : PreliminaryStep o free answer pc e := by
  have footprint := caller_footprint o free joined fresh thread pc answer e next
  have after : e.pc.carried = none := by
    obtain outside | same := caller_keeps_operation o free joined fresh thread pc answer e next
    · rw [outside]
      rfl
    · exact carried_elsewhere e.pc (by rwa [same])
  have silent : ∀ event ∈ e.events, event.preliminary = false := by
    intro event member
    by_contra speaks
    rw [Bool.not_eq_false] at speaks
    have operation := footprint.events event member
    obtain here | here | here := preliminary_operation event speaks
    · exact noSources (operation.symm.trans here)
    · exact noParams (operation.symm.trans here)
    · exact noState (operation.symm.trans here)
  exact .quiet pc e (after.trans (carried_elsewhere pc noState).symm) (footprint.sources noSources noState)
    (footprint.params noParams noState) silent

theorem caller_preliminary (o : UbertraceOrchestrator) (free joined : Bool) (fresh thread : Nat) (pc : CallerPc)
    (answer : Answer) (e : CallerEffect) (next : callerStep o free joined fresh thread pc answer = some e) :
    PreliminaryStep o free answer pc e := by
  cases pc with
  | handleDriverState user state pc =>
      obtain ⟨inner, inside, rfl⟩ := Option.map_eq_some_iff.mp next
      exact handle_driver_state_preliminary o free user state pc answer inner inside
  | addPreliminarySources sources =>
      cases answer <;> cases free <;> cases next
      exact .sourcesAdded sources rfl
  | addEarlyConfiguration params =>
      cases answer <;> cases next
      cases params with
      | none => exact .quiet _ _ rfl rfl rfl nofun
      | some params => exact .paramsAdded params
  | _ => exact preliminary_elsewhere o free joined fresh thread _ answer e next nofun nofun nofun

theorem poller_silent (o : UbertraceOrchestrator) (free : Bool) (thread : Nat) (p : Poller) (e : PollerEffect)
    (move : PollerMove o free thread p e) (event : Event) (member : event ∈ e.events) : event.preliminary = false := by
  obtain ofThread | ⟨capture, rfl⟩ := (poller_footprint o free thread p e move).events event member
  · cases event with
    | sourcesAdded _ | paramsAdded _ | reachedPostDeviceInit _ | preliminaryConfigured _ _ => cases ofThread
    | _ => rfl
  · rfl

-- Nobody can add sources before the configuration is answered.
def State.Taken (s : State) : Prop :=
  ∀ id config, (s.callers id).carried = some config → s.orch.preliminarySources = []

theorem taken_caller (s : State) (id : Nat) (answer : Answer) (e : CallerEffect) (locked : s.Locked) (taken : s.Taken)
    (effect : s.callerEffect id answer = some e) : (s.applyCaller id e).Taken := by
  have step := caller_preliminary _ _ _ _ _ _ _ _ effect
  generalize here : s.callers id = pc at step
  intro other config carries
  by_cases mine : other = id
  · rw [mine] at carries
    simp only [State.applyCaller, Function.update_self] at carries
    cases step with
    | quiet _ _ same sources _ _ =>
        have before : (s.callers id).carried = some config := by rw [here, ← same, carries]
        exact sources.trans (taken id config before)
    | taken user state unlocked => rfl
    | _ => cases carries
  · simp only [State.applyCaller, Function.update_of_ne mine] at carries
    have before := taken other config carries
    cases step with
    | quiet _ _ same sources _ _ => exact sources.trans before
    | sourcesAdded sources unlocked =>
        have owner := (locked (.caller other)).mp (carried_holds_lock _ config carries)
        rw [(free_iff s).mp unlocked] at owner
        cases owner
    | _ => first | exact before | rfl

theorem carried_call (s : State) (id : Nat) (call : Call) (outside : s.callers id = .outside) (other : Nat) :
    (Function.update s.callers id (.enter call) other).carried = (s.callers other).carried := by
  by_cases mine : other = id
  · rw [mine, Function.update_self, outside]
    cases call <;> rfl
  · rw [Function.update_of_ne mine]

theorem reachable_taken (features : UbertraceFeatures) (s : State)
    (reach : Reachable (ubertrace features) s) : s.Taken := by
  refine reach_invariant (ubertrace features) unrestricted State.Taken nofun ?_ s reach
  intro s a t before taken _ next
  rcases step_cases s t a next with ⟨_, rfl⟩ | ⟨id, call, _, outside, rfl⟩ |
    ⟨id, answer, e, _, effect, rfl⟩ | ⟨id, answer, e, _, effect, rfl⟩
  · exact taken
  · intro other config carries
    have same := carried_call s id call outside other
    exact taken other config (same.symm.trans carries)
  · exact taken_caller s id answer e (reachable_locked features s before) taken effect
  · intro other config carries
    have sources := (poller_footprint _ _ _ _ _ (poller_moves _ _ _ _ _ _ effect)).sources
    exact sources.trans (taken other config carries)

theorem kept_quiet (s t : State) (events : List Event) (locked : s.Locked) (lockedAfter : t.Locked)
    (kept : s.PreliminaryKept) (log : t.log = events ++ s.log)
    (silent : ∀ event ∈ events, event.preliminary = false)
    (carried : ∀ id, (t.callers id).carried = (s.callers id).carried)
    (sources : t.orch.preliminarySources = s.orch.preliminarySources)
    (params : t.orch.preliminaryGlobalParams = s.orch.preliminaryGlobalParams) : t.PreliminaryKept := by
  obtain ⟨sameAdded, sameDelivered, sameParams⟩ := preliminary_silent events s.log silent
  have transit := in_transit_same s t locked lockedAfter carried
  refine ⟨?_, ?_, ?_⟩
  · rw [log, sameAdded, sameDelivered, transit, sources]
    exact kept.sources
  · rw [log, sameParams, params]
    exact kept.params
  · rw [log]
    refine at_each_append DeliversAdded events s.log (fun event member older => ?_) kept.complete
    intro config result same
    rw [same] at member
    cases silent _ member

section

variable (s : State) (id : Nat) (answer : Answer) (e : CallerEffect)

theorem kept_sources_added (sources : List UberTraceSource) (kept : s.PreliminaryKept) (free : s.mutex = none)
    (added : e = ⟨s.orch.addPreliminarySources sources, .outside, .keep, [.sourcesAdded sources], none⟩) :
    (s.applyCaller id e).PreliminaryKept := by
  subst added
  have before : s.inTransit = [] := by rw [State.inTransit, free]
  have after : (s.applyCaller id ⟨s.orch.addPreliminarySources sources, .outside, .keep, [.sourcesAdded sources],
      none⟩).inTransit = [] := by
    simp only [State.inTransit, State.applyCaller, LockUse.apply, free]
  refine ⟨?_, kept.params, ⟨preliminary_other _ _ (by simp), kept.complete⟩⟩
  have all := kept.sources
  rw [before, List.append_nil] at all
  rw [after, List.append_nil]
  show Ubertrace.added s.log ++ sources = delivered s.log ++ (s.orch.preliminarySources ++ sources)
  rw [all, List.append_assoc]

theorem kept_taken (user : UbertraceUserId) (state : DdDriverState) (kept : s.PreliminaryKept) (free : s.mutex = none)
    (taken : e = ⟨(s.orch.setDriverState user state).dropPreliminary,
      .handleDriverState user state (.configure s.orch.preliminaryConfig), .acquire, [.reachedPostDeviceInit user], none⟩) :
    (s.applyCaller id e).PreliminaryKept := by
  subst taken
  have before : s.inTransit = [] := by rw [State.inTransit, free]
  refine ⟨?_, rfl, ⟨preliminary_other _ _ (by simp), kept.complete⟩⟩
  have all := kept.sources
  rw [before, List.append_nil] at all
  simp only [State.inTransit, State.applyCaller, LockUse.apply, Function.update_self]
  show added s.log = delivered s.log ++ s.orch.preliminarySources ++ []
  rw [all, List.append_nil]

theorem kept_params_added (params : UberTraceGlobalParams) (locked : s.Locked) (lockedAfter : (s.applyCaller id e).Locked)
    (kept : s.PreliminaryKept) (here : (s.callers id).carried = none)
    (added : e = ⟨s.orch.addEarlyConfiguration (some params), .outside, .keep, [.paramsAdded params], none⟩) :
    (s.applyCaller id e).PreliminaryKept := by
  subst added
  have transit := in_transit_same s _ locked lockedAfter fun other => by
    by_cases mine : other = id
    · simp only [mine, State.applyCaller, Function.update_self, here]
      rfl
    · simp only [State.applyCaller, Function.update_of_ne mine]
  refine ⟨?_, rfl, ⟨preliminary_other _ _ (by simp), kept.complete⟩⟩
  rw [transit]
  exact kept.sources

theorem kept_configured (user : UbertraceUserId) (state : DdDriverState) (config : UberTraceConfig) (result : Result)
    (locked : s.Locked) (taken : s.Taken) (kept : s.PreliminaryKept) (here : (s.callers id).carried = some config)
    (allowed : result = .success ∨
      config.sources = [] ∧ (config.globalParams.isSome → s.orch.preliminaryGlobalParams.isSome))
    (configured : e = ⟨s.orch, .outside, .release,
      [.returned (.handleDriverState user state) result, .preliminaryConfigured config result], none⟩) :
    (s.applyCaller id e).PreliminaryKept := by
  subst configured
  have pending : s.orch.preliminarySources = [] := taken id config here
  have all : added s.log = delivered s.log ++ config.sources := by
    have sources := kept.sources
    rwa [in_transit_carried s locked id config here, pending, List.append_nil] at sources
  have complete : added s.log = delivered (.preliminaryConfigured config result :: s.log) := by
    rw [delivered_configured]
    by_cases success : result = .success
    · rw [if_pos success, all]
    · obtain ⟨empty, _⟩ := allowed.resolve_left success
      rw [if_neg success, all, empty, List.append_nil]
  refine ⟨?_, ?_, preliminary_other _ _ (by simp), ?_, kept.complete⟩
  · show added s.log = delivered (.preliminaryConfigured config result :: s.log) ++ [] ++ s.orch.preliminarySources
    rw [complete, pending, List.append_nil, List.append_nil]
  · show s.orch.preliminaryGlobalParams = pendingParams (.preliminaryConfigured config result :: s.log)
    rw [pendingParams, ← kept.params]
    by_cases success : result = .success
    · rw [if_pos success]
    · rw [if_neg success]
      obtain ⟨_, newer⟩ := allowed.resolve_left success
      cases params : s.orch.preliminaryGlobalParams with
      | some params => rfl
      | none =>
          cases carried : config.globalParams with
          | none => rfl
          | some params' =>
              rw [carried, params] at newer
              cases newer rfl
  · intro other result' same
    cases same
    exact complete

end

theorem kept_caller (s : State) (id : Nat) (answer : Answer) (e : CallerEffect) (locked : s.Locked)
    (lockedAfter : (s.applyCaller id e).Locked) (taken : s.Taken) (kept : s.PreliminaryKept)
    (allowed : failsEmptyHanded s (.caller id answer) = true) (effect : s.callerEffect id answer = some e) :
    (s.applyCaller id e).PreliminaryKept := by
  have step := caller_preliminary _ _ _ _ _ _ _ _ effect
  generalize here : s.callers id = pc at step
  cases step with
  | quiet _ _ same sources params silent =>
      refine kept_quiet s _ e.events locked lockedAfter kept rfl silent (fun other => ?_) sources params
      by_cases mine : other = id
      · rw [mine, here]
        simpa only [State.applyCaller, Function.update_self] using same
      · simp only [State.applyCaller, Function.update_of_ne mine]
  | sourcesAdded sources unlocked => exact kept_sources_added s id _ sources kept ((free_iff s).mp unlocked) rfl
  | paramsAdded params => exact kept_params_added s id _ params locked lockedAfter kept (by rw [here]; rfl) rfl
  | taken user state unlocked => exact kept_taken s id _ user state kept ((free_iff s).mp unlocked) rfl
  | configured user state config given answered =>
      have carries : (s.callers id).carried = some config := by rw [here]; rfl
      refine kept_configured s id _ user state config _ locked taken kept carries ?_ rfl
      rw [answered] at allowed
      simpa only [failsEmptyHanded, carries, decide_eq_true_eq] using allowed

theorem fails_empty_handed_sound (features : UbertraceFeatures) (s : State)
    (reach : Reach (ubertrace features) (fun s a => failsEmptyHanded s a = true) s) : s.PreliminaryKept := by
  refine reach_invariant (ubertrace features) _ State.PreliminaryKept ⟨rfl, rfl, trivial⟩ ?_ s reach
  intro s a t before kept allowed next
  have reachable := reach_reachable _ _ s before
  have locked := reachable_locked features s reachable
  have lockedAfter := reachable_locked features t (.step s t a reachable trivial next)
  rcases step_cases s t a next with ⟨_, rfl⟩ | ⟨id, call, _, outside, rfl⟩ |
    ⟨id, answer, e, rfl, effect, rfl⟩ | ⟨id, answer, e, _, effect, rfl⟩
  · exact ⟨kept.sources, kept.params, kept.complete⟩
  · exact kept_quiet s _ [] locked lockedAfter kept rfl nofun (carried_call s id call outside) rfl rfl
  · exact kept_caller s id answer e locked lockedAfter (reachable_taken features s reachable) kept allowed effect
  · have move := poller_moves _ _ _ _ _ _ effect
    have footprint := poller_footprint _ _ _ _ _ move
    exact kept_quiet s _ e.events locked lockedAfter kept rfl (poller_silent _ _ _ _ _ move) (fun _ => rfl)
      footprint.sources footprint.params

-- What a failing configuration carries is gone.
theorem configured_kept (s : State) (id : Nat) (user : UbertraceUserId) (state : DdDriverState)
    (config : UberTraceConfig) (result : Result) (locked : s.Locked) (kept : s.PreliminaryKept)
    (here : (s.callers id).carried = some config)
    (keptAfter : (s.applyCaller id ⟨s.orch, .outside, .release,
      [.returned (.handleDriverState user state) result, .preliminaryConfigured config result], none⟩).PreliminaryKept) :
    result = .success ∨ config.sources = [] ∧
      (config.globalParams.isSome → s.orch.preliminaryGlobalParams.isSome) := by
  by_cases success : result = .success
  · exact .inl success
  · have complete : added s.log = delivered (.preliminaryConfigured config result :: s.log) :=
      keptAfter.complete.2.1 config result rfl
    have params : s.orch.preliminaryGlobalParams =
        pendingParams (.preliminaryConfigured config result :: s.log) := keptAfter.params
    rw [delivered_configured, if_neg success] at complete
    rw [pendingParams, if_neg success, ← kept.params] at params
    have empty : config.sources = [] := by
      have sources := kept.sources
      rw [in_transit_carried s locked id config here, complete, List.append_assoc, List.self_eq_append_right] at sources
      exact (List.append_eq_nil_iff.mp sources).1
    refine .inr ⟨empty, fun carried => ?_⟩
    rw [params, Option.isSome_or, carried, Bool.or_true]

theorem fails_empty_handed_exact (features : UbertraceFeatures) (s : State) (a : Action) (t : State)
    (reach : Reachable (ubertrace features) s) (kept : s.PreliminaryKept) (next : step s a = some t)
    (keptAfter : t.PreliminaryKept) : failsEmptyHanded s a = true := by
  have locked := reachable_locked features s reach
  unfold failsEmptyHanded
  split
  · rename_i id given
    split
    · rename_i config carries
      obtain ⟨user, state, here⟩ := carried_here _ config carries
      simp only [step, State.callerEffect, here, callerStep, handleDriverStateStep, Option.map_some,
        Option.some.injEq] at next
      subst next
      exact decide_eq_true (configured_kept s id user state config _ locked kept carries keptAfter)
    · rfl
  · rfl

theorem preliminary_kept_iff (features : UbertraceFeatures) (actions : List Action) :
    Meets (ubertrace features) (fun s a => failsEmptyHanded s a = true) (ubertrace features).init actions ↔
      Always (ubertrace features) State.PreliminaryKept (ubertrace features).init actions :=
  ⟨meets_always (ubertrace features) _ _ (fails_empty_handed_sound features) _ .init actions,
    always_meets (ubertrace features) _ _ (fails_empty_handed_exact features) actions⟩

def codeObject : UberTraceSource := ⟨"codeobject"⟩

-- The first user's configuration fails and takes the source with it. The second
-- user's then succeeds, with nothing left to deliver.
theorem failed_configuration_loses_source : ∃ s, Reachable (ubertrace .default) s ∧
    added s.log = [codeObject] ∧ delivered s.log = [] ∧ s.orch.preliminarySources = [] ∧
    s.orch.preliminaryGlobalParams = none ∧ s.log.head? = some (.returned (.handleDriverState 2 .postDeviceInit) .success) ∧
    ¬ s.PreliminaryKept := by
  obtain ⟨s, reach, found⟩ := exec_finds (ubertrace .default)
    [.call 0 (.addPreliminarySources [codeObject]), .caller 0 .go,
      .call 0 (.addEarlyConfiguration (some ⟨true⟩)), .caller 0 .go,
      .call 0 (.handleDriverState 1 .postDeviceInit), .caller 0 .go, .caller 0 (.config (.sent (.other 1))),
      .call 0 (.handleDriverState 2 .postDeviceInit), .caller 0 .go, .caller 0 (.config (.sent .success))]
    (fun s => s.mutex = none ∧ added s.log = [codeObject] ∧ delivered s.log = [] ∧ s.orch.preliminarySources = [] ∧
      s.orch.preliminaryGlobalParams = none ∧
      s.log.head? = some (.returned (.handleDriverState 2 .postDeviceInit) .success)) (by decide)
  obtain ⟨free, all, none, empty, params, last⟩ := of_decide_eq_true found
  refine ⟨s, reach, all, none, empty, params, last, fun kept => ?_⟩
  have sources := kept.sources
  rw [all, none, empty, State.inTransit, free] at sources
  cases sources

end RadeonPanel.Ubertrace
