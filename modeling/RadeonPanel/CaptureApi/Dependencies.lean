import RadeonPanel.CaptureApi.Dipper

set_option autoImplicit false

namespace RadeonPanel.Dependencies

open Dipper

inductive Component where
  | logger
  | systemInfoCache
  | additionalChunkWriter
  | overlayManager
  | deviceClocksManager
  | ubertraceUserFactory
  | clientConnectionManager
  | clientConnectionManagerV2
  | rgpSpmCounterHandler
  | rmvTraceSource
  | rgpTraceSource
  | rraTraceSource
  | rgdTraceSource
  | rgdSummaryGenerator
  | clientManager
  | apiClocks
deriving DecidableEq, Repr

inductive Api where
  | routerUtils
  | driverUtils
  | connection
  | clocks
  | enhancedCrashInfo
  | gpuDetective
  | gpuProfiling
  | memoryTrace
  | settings
  | uberTrace
deriving DecidableEq, Repr

-- A type that the container knows: std::shared_ptr or std::unique_ptr of a component, or the type
-- of a value.
inductive Key where
  | shared (component : Component)
  | unique (component : Component)
  | api (name : Api)
  | appFilter
  | logCallback
  | blocklist
  | readWriteStreamProvider
  | readWriteStreamOpener
  | memoryReadWriteStreamProvider
deriving DecidableEq, Repr

-- The arguments of the constructors, as their declarations give them to DIP.
def Component.args : Component → List Key
  | .logger => [.logCallback]
  | .systemInfoCache => [.api .routerUtils]
  | .additionalChunkWriter => [.shared .systemInfoCache, .api .routerUtils]
  | .overlayManager => [.api .driverUtils, .api .connection, .shared .systemInfoCache]
  | .deviceClocksManager =>
      [.shared .systemInfoCache, .shared .overlayManager, .api .connection, .api .clocks, .shared .logger]
  | .ubertraceUserFactory => []
  | .clientConnectionManager => [.api .connection]
  | .clientConnectionManagerV2 => [.api .connection]
  | .rgpSpmCounterHandler => [.readWriteStreamOpener, .shared .logger]
  | .rmvTraceSource =>
      [.readWriteStreamProvider, .shared .overlayManager, .shared .systemInfoCache, .shared .additionalChunkWriter,
        .api .memoryTrace, .shared .logger]
  | .rgpTraceSource =>
      [.readWriteStreamProvider, .shared .overlayManager, .shared .systemInfoCache, .shared .additionalChunkWriter,
        .shared .rgpSpmCounterHandler, .shared .deviceClocksManager, .api .gpuProfiling, .api .uberTrace,
        .shared .ubertraceUserFactory, .api .driverUtils, .shared .logger]
  | .rraTraceSource =>
      [.readWriteStreamProvider, .shared .overlayManager, .shared .systemInfoCache, .shared .additionalChunkWriter,
        .api .uberTrace, .shared .ubertraceUserFactory, .shared .logger]
  | .rgdTraceSource =>
      [.readWriteStreamProvider, .shared .overlayManager, .shared .rgdSummaryGenerator, .shared .systemInfoCache,
        .shared .additionalChunkWriter, .api .gpuDetective, .api .uberTrace, .shared .ubertraceUserFactory,
        .api .enhancedCrashInfo, .shared .logger]
  | .rgdSummaryGenerator => []
  | .clientManager => [.api .connection, .api .routerUtils, .appFilter, .blocklist]
  | .apiClocks => [.shared .deviceClocksManager]

def registerSingleton (component : Component) : List (Key × Factory Key) :=
  [(.shared component, .singleton component.args none)]

def registerBoth (component : Component) : List (Key × Factory Key) :=
  [(.shared component, .fn component.args), (.unique component, .fn component.args)]

def registerValue (key : Key) : List (Key × Factory Key) := [(key, .value)]

def defaultDipperContainer : List (Key × Factory Key) :=
  registerSingleton .systemInfoCache ++ registerSingleton .additionalChunkWriter ++ registerSingleton .overlayManager ++
    registerSingleton .deviceClocksManager ++ registerSingleton .ubertraceUserFactory ++
    registerBoth .clientConnectionManager ++ registerBoth .clientConnectionManagerV2 ++ registerBoth .rgpSpmCounterHandler ++
    registerBoth .rmvTraceSource ++ registerBoth .rgpTraceSource ++ registerBoth .rraTraceSource ++
    registerBoth .rgdTraceSource

-- What ApiTool::QueryApis registers.
def apiContainer : List (Key × Factory Key) :=
  [.routerUtils, .driverUtils, .connection, .clocks, .enhancedCrashInfo, .gpuDetective, .gpuProfiling, .memoryTrace,
    .settings, .uberTrace].flatMap fun name => registerValue (.api name)

def initialRegistrations : List (Key × Factory Key) :=
  registerValue .appFilter ++ registerValue .logCallback ++ registerBoth .logger

def dependencyRegistrations : List (Key × Factory Key) :=
  defaultDipperContainer ++ apiContainer ++ registerBoth .rgdSummaryGenerator ++ registerValue .blocklist ++
    registerBoth .clientManager ++ registerBoth .apiClocks ++ registerValue .readWriteStreamProvider ++
    registerValue .readWriteStreamOpener ++ registerValue .memoryReadWriteStreamProvider

-- What the driver's side answers while the context is initialized.
structure Outcomes where
  useRemote : Bool
  createTool : Bool
  createRouter : Bool
  initializeOverlayManager : Bool
  initializeDeviceClocksManager : Bool
  initializeAdapters : Bool
  connectToRouter : Bool
  querySystemInfo : Bool

structure Adapter where
  source : Obj Key
  provider : Obj Key
  connectionManager : Obj Key
deriving DecidableEq

-- The members of RdpCaptureContextImpl. `container` is what `resolver_` resolves from.
structure Context where
  container : Container Key
  resolver : Bool
  logger : Option (Obj Key)
  tool : Bool
  clientManager : Option (Obj Key)
  sysInfoCache : Option (Obj Key)
  clocks : Option (Obj Key)
  adapters : List Adapter

def Context.new : Context := ⟨⟨fun _ => none, []⟩, false, none, false, none, none, none, []⟩

-- No type is nested deeper in the constructors' arguments than this.
def depth : Nat := 6

def Context.register (context : Context) (registrations : List (Key × Factory Key)) : Option Context :=
  (install context.container registrations).map fun container => { context with container := container }

def Context.resolve (context : Context) (key : Key) : Option (Obj Key × Context) :=
  (Dipper.resolve depth context.container key).map fun result => (result.1, { context with container := result.2 })

def Context.createAdapter (source : Component) (context : Context) : Option Context :=
  (context.resolve (.shared source)).bind fun source =>
    (source.2.resolve .memoryReadWriteStreamProvider).bind fun provider =>
      (provider.2.resolve (.unique .clientConnectionManagerV2)).map fun manager =>
        { manager.2 with adapters := manager.2.adapters ++ [⟨source.1, provider.1, manager.1⟩] }

def Context.resolveDependencies (context : Context) : Option Context :=
  (context.register dependencyRegistrations).bind fun context =>
    (context.resolve (.unique .clientManager)).bind fun clientManager =>
      (clientManager.2.resolve (.shared .systemInfoCache)).bind fun sysInfoCache =>
        (sysInfoCache.2.resolve (.unique .apiClocks)).bind fun clocks =>
          (clocks.2.resolve (.api .driverUtils)).bind fun driverUtils =>
            ((({ driverUtils.2 with
                clientManager := some clientManager.1
                sysInfoCache := some sysInfoCache.1
                clocks := some clocks.1 }.createAdapter .rgpTraceSource).bind
              (Context.createAdapter .rmvTraceSource)).bind
                (Context.createAdapter .rraTraceSource)).bind
                  (Context.createAdapter .rgdTraceSource)

-- The managers are local variables, released before the function returns.
def Context.initializeComponents (context : Context) (outcomes : Outcomes) : Option (Context × Bool) :=
  (context.resolve (.shared .overlayManager)).bind fun overlayManager =>
    if outcomes.initializeOverlayManager then
      (overlayManager.2.resolve (.shared .deviceClocksManager)).map fun clockManager =>
        (clockManager.2, outcomes.initializeDeviceClocksManager && outcomes.initializeAdapters)
    else some (overlayManager.2, false)

-- `none` is a failed assertion.
def initializeContext (outcomes : Outcomes) : Option (Context × Bool) :=
  ({ Context.new with resolver := true }.register initialRegistrations).bind fun context =>
    (context.resolve (.unique .logger)).bind fun logger =>
      let context := { logger.2 with logger := some logger.1 }
      if outcomes.createTool then
        let context := { context with tool := true }
        if outcomes.useRemote || outcomes.createRouter then
          context.resolveDependencies.bind fun context =>
            (context.initializeComponents outcomes).map fun result : Context × Bool =>
              (result.1, result.2 && outcomes.connectToRouter && outcomes.querySystemInfo)
        else some (context, false)
      else some (context, false)

-- What the destructor has left when it destroys the tool. Without a tool it crashes before.
def Context.beforeDestroyTool (context : Context) : Option Context :=
  if context.tool then
    some { context with adapters := [], resolver := false, clientManager := none, clocks := none }
  else none

-- What a factory holds on to itself.
def keeps (key : Key) (object : Obj Key) : Factory Key → Prop
  | .value => object = .value key
  | .fn _ => False
  | .singleton _ value => value = some object

-- The objects that the members of the context hold themselves.
def Adapter.holds (adapter : Adapter) : List (Obj Key) := [adapter.source, adapter.provider, adapter.connectionManager]

def Context.Root (context : Context) (object : Obj Key) : Prop :=
  object ∈ context.logger.toList ++ context.clientManager.toList ++ context.sysInfoCache.toList ++ context.clocks.toList ++
      context.adapters.flatMap Adapter.holds ∨
    context.resolver = true ∧ ∃ key factory, context.container.factories key = some factory ∧ keeps key object factory

-- Components whose destructors remove what they gave the driver's API to call.
def Component.unregisters : Component → Bool
  | .overlayManager => true
  | .deviceClocksManager => true
  | .clientConnectionManager => true
  | .clientConnectionManagerV2 => true
  | .clientManager => true
  | _ => false

def Component.rank : Component → Nat
  | .logger => 1
  | .systemInfoCache => 1
  | .additionalChunkWriter => 2
  | .overlayManager => 2
  | .deviceClocksManager => 3
  | .ubertraceUserFactory => 2
  | .clientConnectionManager => 2
  | .clientConnectionManagerV2 => 2
  | .rgpSpmCounterHandler => 2
  | .rmvTraceSource => 4
  | .rgpTraceSource => 4
  | .rraTraceSource => 4
  | .rgdTraceSource => 4
  | .rgdSummaryGenerator => 2
  | .clientManager => 2
  | .apiClocks => 4

def rank : Key → Nat
  | .shared component => component.rank
  | .unique component => component.rank
  | _ => 0

theorem rank_lt_depth (key : Key) : rank key < depth := by
  cases key with
  | shared component => cases component <;> decide
  | unique component => cases component <;> decide
  | _ => exact Nat.zero_lt_succ 5

-- What unregisters is of a type above those of the logger and of the cache.
theorem unregisters_above (component : Component) (unregisters : component.unregisters = true) : 1 < component.rank := by
  cases component <;> first | decide | cases unregisters

structure Sound (context : Context) : Prop where
  ready : Ready rank context.container
  sharing : Sharing context.container
  logger : ∀ object ∈ context.logger, IsA context.container (.unique .logger) object
  sysInfoCache : ∀ object ∈ context.sysInfoCache, IsA context.container (.shared .systemInfoCache) object

structure Keeps (context after : Context) : Prop where
  sound : Sound after
  domain : ∀ key, after.container.factories key = none ↔ context.container.factories key = none
  ext : Extends context.container after.container
  tool : after.tool = context.tool

theorem keeps_trans (context middle after : Context) (first : Keeps context middle) (second : Keeps middle after) :
    Keeps context after :=
  ⟨second.sound, fun key => (second.domain key).trans (first.domain key),
    extends_trans _ _ _ first.ext second.ext, second.tool.trans first.tool⟩

theorem resolve_keeps (context : Context) (sound : Sound context) (key : Key) (known : context.container.factories key ≠ none) :
    ∃ object after, context.resolve key = some (object, after) ∧ Keeps context after ∧ IsA after.container key object := by
  obtain ⟨object, container, resolved, ready, domain⟩ :=
    resolve_returns rank depth context.container key sound.ready (rank_lt_depth key) known
  obtain ⟨step, provides⟩ :=
    resolve_step rank depth context.container key object container sound.ready.acyclic sound.sharing resolved
  refine ⟨object, { context with container := container }, by rw [Context.resolve, resolved, Option.map_some],
    ⟨⟨ready, step.sharing, fun one held => ?_, fun one held => ?_⟩, domain, step.ext, rfl⟩,
    provides_is_a container step.sharing _ key object provides⟩
  · exact extends_is_a _ _ step.ext _ one (sound.logger one held)
  · exact extends_is_a _ _ step.ext _ one (sound.sysInfoCache one held)

-- What is registered last needs nothing that is not known then.
theorem register_keeps (context : Context) (sound : Sound context) (other : List (Key × Factory Key))
    (fresh : ∀ pair ∈ other, context.container.factories pair.1 = none) (distinct : (other.map Prod.fst).Nodup)
    (ranked : ∀ pair ∈ other, pair.2.unmade = true ∧ Below rank pair.1 pair.2)
    (closed : ∀ pair ∈ other, ∀ arg ∈ pair.2.args, arg ∈ other.map Prod.fst ∨ context.container.factories arg ≠ none) :
    ∃ after, context.register other = some after ∧ Sound after ∧ after.tool = context.tool ∧
      ∀ key, after.container.factories key = none ↔ context.container.factories key = none ∧ key ∉ other.map Prod.fst := by
  obtain ⟨d, installed, domain, found⟩ := install_returns other context.container fresh distinct
  obtain ⟨grows, sharing, acyclic⟩ := install_step rank other context.container d ranked sound.ready.acyclic sound.sharing installed
  refine ⟨{ context with container := d }, by rw [Context.register, installed, Option.map_some],
    ⟨⟨acyclic, fun key factory here arg member absent => ?_⟩, sharing,
      fun one held => extends_is_a _ _ grows _ one (sound.logger one held),
      fun one held => extends_is_a _ _ grows _ one (sound.sysInfoCache one held)⟩, rfl, domain⟩
  obtain ⟨missing, unlisted⟩ := (domain arg).mp absent
  rcases found key factory here with before | listed
  · exact sound.ready.closed key factory before arg member missing
  · rcases closed (key, factory) listed arg member with later | known
    · exact unlisted later
    · exact known missing

theorem create_adapter_keeps (source : Component) (context : Context) (sound : Sound context)
    (known : ∀ key ∈ [Key.shared source, .memoryReadWriteStreamProvider, .unique .clientConnectionManagerV2],
      context.container.factories key ≠ none) :
    ∃ after, context.createAdapter source = some after ∧ Keeps context after := by
  obtain ⟨object, first, resolved, keeps, _⟩ := resolve_keeps context sound (.shared source) (known _ (by simp))
  obtain ⟨provider, second, opened, more, _⟩ := resolve_keeps first keeps.sound .memoryReadWriteStreamProvider
    fun absent => known _ (by simp) ((keeps.domain _).mp absent)
  have both := keeps_trans context first second keeps more
  obtain ⟨manager, third, connected, last, _⟩ := resolve_keeps second more.sound (.unique .clientConnectionManagerV2)
    fun absent => known _ (by simp) ((both.domain _).mp absent)
  have all := keeps_trans context second third both last
  refine ⟨{ third with adapters := third.adapters ++ [⟨object, provider, manager⟩] }, ?_, ?_⟩
  · rw [Context.createAdapter, resolved, Option.bind_some, opened, Option.bind_some, connected, Option.map_some]
  · exact ⟨⟨all.sound.ready, all.sound.sharing, all.sound.logger, all.sound.sysInfoCache⟩, all.domain, all.ext, all.tool⟩

theorem new_sound : Sound { Context.new with resolver := true } := by
  refine ⟨⟨?_, ?_⟩, ⟨?_, ?_, ?_⟩, ?_, ?_⟩
  · exact fun key factory here => by cases here
  · exact fun key factory here => by cases here
  · exact fun key args object here => by cases here
  · exact fun n key given call => by cases call
  · exact fun n call here => by cases here
  · exact fun object held => by cases held
  · exact fun object held => by cases held

theorem dependency_registrations_distinct : (dependencyRegistrations.map Prod.fst).Nodup := by decide

theorem dependency_registrations_fresh :
    ∀ pair ∈ dependencyRegistrations, pair.1 ∉ initialRegistrations.map Prod.fst := by decide

theorem dependency_registrations_ranked :
    ∀ pair ∈ dependencyRegistrations, pair.2.unmade = true ∧ Below rank pair.1 pair.2 := by decide

theorem dependency_registrations_closed : ∀ pair ∈ dependencyRegistrations, ∀ arg ∈ pair.2.args,
    arg ∈ dependencyRegistrations.map Prod.fst ∨ arg ∈ initialRegistrations.map Prod.fst := by decide

-- After both registrations every type that anything asks for is known.
def Known (context : Context) : Prop :=
  ∀ key, context.container.factories key = none ↔
    key ∉ initialRegistrations.map Prod.fst ∧ key ∉ dependencyRegistrations.map Prod.fst

theorem known_has (context : Context) (known : Known context) (key : Key)
    (listed : key ∈ dependencyRegistrations.map Prod.fst) : context.container.factories key ≠ none :=
  fun absent => ((known key).mp absent).2 listed

theorem keeps_known (context after : Context) (keeps : Keeps context after) (known : Known context) : Known after :=
  fun key => (keeps.domain key).trans (known key)

theorem create_adapter_known (source : Component) (context : Context) (sound : Sound context) (known : Known context)
    (listed : .shared source ∈ dependencyRegistrations.map Prod.fst) :
    ∃ after, context.createAdapter source = some after ∧ Sound after ∧ after.tool = context.tool ∧ Known after := by
  obtain ⟨after, created, keeps⟩ := create_adapter_keeps source context sound fun key member => by
    apply known_has context known key
    simp only [List.mem_cons, List.not_mem_nil, or_false] at member
    rcases member with same | same | same
    · rw [same]
      exact listed
    · rw [same]
      decide
    · rw [same]
      decide
  exact ⟨after, created, keeps.sound, keeps.tool, keeps_known context after keeps known⟩

theorem resolve_dependencies_keeps (context : Context) (sound : Sound context)
    (domain : ∀ key, context.container.factories key = none ↔ key ∉ initialRegistrations.map Prod.fst) :
    ∃ after, context.resolveDependencies = some after ∧ Sound after ∧ after.tool = context.tool ∧ Known after := by
  obtain ⟨first, registered, ready, tool, added⟩ := register_keeps context sound dependencyRegistrations
    (fun pair member => (domain pair.1).mpr (dependency_registrations_fresh pair member))
    dependency_registrations_distinct dependency_registrations_ranked
    (fun pair member arg needed => (dependency_registrations_closed pair member arg needed).imp_right
      fun listed absent => (domain arg).mp absent listed)
  have known : Known first := fun key => (added key).trans (and_congr_left' (domain key))
  obtain ⟨manager, second, one, keeps, _⟩ :=
    resolve_keeps first ready (.unique .clientManager) (known_has first known _ (by decide))
  have known := keeps_known first second keeps known
  obtain ⟨cache, third, two, more, is_cache⟩ :=
    resolve_keeps second keeps.sound (.shared .systemInfoCache) (known_has second known _ (by decide))
  have known := keeps_known second third more known
  obtain ⟨clocks, fourth, three, again, _⟩ :=
    resolve_keeps third more.sound (.unique .apiClocks) (known_has third known _ (by decide))
  have known := keeps_known third fourth again known
  obtain ⟨utils, fifth, four, last, _⟩ :=
    resolve_keeps fourth again.sound (.api .driverUtils) (known_has fourth known _ (by decide))
  have known := keeps_known fourth fifth last known
  have all := keeps_trans first third fifth (keeps_trans first second third keeps more) (keeps_trans third fourth fifth again last)
  have held : Sound { fifth with clientManager := some manager, sysInfoCache := some cache, clocks := some clocks } := by
    refine ⟨last.sound.ready, last.sound.sharing, last.sound.logger, fun object same => ?_⟩
    cases same
    exact extends_is_a _ _ (extends_trans _ _ _ again.ext last.ext) _ cache is_cache
  obtain ⟨rgp, made, sound, same, known⟩ := create_adapter_known .rgpTraceSource _ held known (by decide)
  have tool := same.trans (all.tool.trans tool)
  obtain ⟨rmv, then_made, sound, same, known⟩ := create_adapter_known .rmvTraceSource rgp sound known (by decide)
  have tool := same.trans tool
  obtain ⟨rra, next_made, sound, same, known⟩ := create_adapter_known .rraTraceSource rmv sound known (by decide)
  have tool := same.trans tool
  obtain ⟨rgd, last_made, sound, same, known⟩ := create_adapter_known .rgdTraceSource rra sound known (by decide)
  refine ⟨rgd, ?_, sound, same.trans tool, known⟩
  simp only [Context.resolveDependencies, registered, one, two, three, four, made, then_made, next_made, last_made,
    Option.bind_some]

theorem initialize_components_keeps (context : Context) (sound : Sound context) (known : Known context) (outcomes : Outcomes) :
    ∃ after ok, context.initializeComponents outcomes = some (after, ok) ∧ Sound after ∧ after.tool = context.tool := by
  obtain ⟨overlay, first, one, keeps, _⟩ :=
    resolve_keeps context sound (.shared .overlayManager) (known_has context known _ (by decide))
  by_cases initialized : outcomes.initializeOverlayManager = true
  · obtain ⟨clocks, second, two, more, _⟩ := resolve_keeps first keeps.sound (.shared .deviceClocksManager)
      (known_has first (keeps_known context first keeps known) _ (by decide))
    refine ⟨second, outcomes.initializeDeviceClocksManager && outcomes.initializeAdapters, ?_, more.sound,
      more.tool.trans keeps.tool⟩
    simp only [Context.initializeComponents, one, Option.bind_some, if_pos initialized, two, Option.map_some]
  · refine ⟨first, false, ?_, keeps.sound, keeps.tool⟩
    simp only [Context.initializeComponents, one, Option.bind_some, if_neg initialized]

-- Whatever the drivers' side answers, the context finds all its parts.
theorem initialize_sound (outcomes : Outcomes) :
    ∃ context ok, initializeContext outcomes = some (context, ok) ∧ Sound context ∧ context.tool = outcomes.createTool := by
  obtain ⟨first, registered, sound, without, added⟩ := register_keeps { Context.new with resolver := true } new_sound
    initialRegistrations (fun _ _ => rfl) (by decide) (by decide) (by decide)
  have domain : ∀ key, first.container.factories key = none ↔ key ∉ initialRegistrations.map Prod.fst :=
    fun key => (added key).trans (and_iff_right rfl)
  obtain ⟨logger, second, resolved, keeps, is_logger⟩ := resolve_keeps first sound (.unique .logger)
    (fun absent => (domain _).mp absent (by decide))
  have sound : Sound { second with logger := some logger } := by
    refine ⟨keeps.sound.ready, keeps.sound.sharing, fun object same => ?_, keeps.sound.sysInfoCache⟩
    cases same
    exact is_logger
  have known : ∀ key, second.container.factories key = none ↔ key ∉ initialRegistrations.map Prod.fst :=
    fun key => (keeps.domain key).trans (domain key)
  by_cases create : outcomes.createTool = true
  · have tooled : Sound { second with logger := some logger, tool := true } :=
      ⟨sound.ready, sound.sharing, sound.logger, sound.sysInfoCache⟩
    by_cases route : (outcomes.useRemote || outcomes.createRouter) = true
    · obtain ⟨third, resolved_all, ready, tool, all⟩ := resolve_dependencies_keeps _ tooled known
      obtain ⟨fourth, ok, initialized, last, same⟩ := initialize_components_keeps third ready all outcomes
      refine ⟨fourth, ok && outcomes.connectToRouter && outcomes.querySystemInfo, ?_, last,
        same.trans (tool.trans create.symm)⟩
      simp only [initializeContext, registered, Option.bind_some, resolved, if_pos create, if_pos route, resolved_all,
        initialized, Option.map_some]
    · refine ⟨{ second with logger := some logger, tool := true }, false, ?_, tooled, create.symm⟩
      simp only [initializeContext, registered, Option.bind_some, resolved, if_pos create, if_neg route]
  · refine ⟨{ second with logger := some logger }, false, ?_, sound, ?_⟩
    · simp only [initializeContext, registered, Option.bind_some, resolved, if_neg create]
    · exact keeps.tool.trans (without.trans (Bool.eq_false_iff.mpr create).symm)

-- Only the logger and the cache are left, and what they hold.
theorem left_below (context left : Context) (sound : Sound context) (destroyed : context.beforeDestroyTool = some left)
    (root object : Obj Key) (is_root : left.Root root) (reach : Relation.ReflTransGen (Held left.container) root object) :
    ∃ key, rank key ≤ 1 ∧ IsA left.container key object := by
  unfold Context.beforeDestroyTool at destroyed
  obtain ⟨_, same⟩ := Option.ite_none_right_eq_some.mp destroyed
  cases same
  have root_below : ∃ key, rank key = 1 ∧ IsA context.container key root := by
    rcases is_root with member | resolving
    · simp only [Option.toList_none, List.append_nil, List.flatMap_nil, List.mem_append, Option.mem_toList] at member
      rcases member with logger | cache
      · exact ⟨.unique .logger, rfl, sound.logger root logger⟩
      · exact ⟨.shared .systemInfoCache, rfl, sound.sysInfoCache root cache⟩
    · cases resolving.1
  obtain ⟨key, low, is⟩ := root_below
  obtain ⟨needed, below, found⟩ := reach_below rank context.container sound.ready.acyclic sound.sharing key root object is reach
  exact ⟨needed, by omega, found⟩

-- The destructor crashes where no tool was created, and else nothing is left, when the tool goes,
-- that still has to unregister from the drivers' side.
theorem context_unregisters (outcomes : Outcomes) :
    ∃ context ok, initializeContext outcomes = some (context, ok) ∧
      (context.beforeDestroyTool = none ↔ outcomes.createTool = false) ∧
      ∀ left, context.beforeDestroyTool = some left → ∀ root object, left.Root root →
        Relation.ReflTransGen (Held left.container) root object → ∀ component, component.unregisters = true →
          ¬ IsA left.container (.shared component) object ∧ ¬ IsA left.container (.unique component) object := by
  obtain ⟨context, ok, initialized, sound, tool⟩ := initialize_sound outcomes
  refine ⟨context, ok, initialized, ?_, fun left destroyed root object is_root reach component unregisters => ?_⟩
  · rw [Context.beforeDestroyTool, tool]
    cases outcomes.createTool <;> simp
  · obtain ⟨key, low, is⟩ := left_below context left sound destroyed root object is_root reach
    have above := unregisters_above component unregisters
    constructor
    · intro still
      rw [is_a_unique left.container _ _ object is still] at low
      exact Nat.not_le_of_gt above low
    · intro still
      rw [is_a_unique left.container _ _ object is still] at low
      exact Nat.not_le_of_gt above low

end RadeonPanel.Dependencies
