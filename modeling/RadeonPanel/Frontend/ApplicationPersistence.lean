import RadeonPanel.Frontend.ApplicationSettings

set_option autoImplicit false

namespace RadeonPanel.Frontend.ManagedApplications

open Interleaving Settings KeyedValues

section Restart
variable (s : ManagedApplications)

-- The application model after the panel has been closed and started again.
def restarted : ManagedApplications := load s.settings

-- What is loaded and not applied yet counts before what is in force.
def wantedFilter : UInt8 := s.loadedApiFilter.getD s.panel.apiFilter.value

def wantedMode : UInt8 := s.loadedAutoConnectMode.getD s.mode

structure Survives : Prop where
  names : s.restarted.names = s.names
  filter : s.restarted.wantedFilter = s.wantedFilter
  mode : s.restarted.wantedMode = s.wantedMode

-- Saving now writes what is wanted.
structure Settled : Prop where
  filter : s.wantedFilter = s.panel.apiFilter.value
  mode : s.wantedMode = s.mode

def isNew (name : String) : Bool :=
  decide (trimmed name ≠ "") && !s.panel.hasEntryForName (trimmed name) && !s.panel.blocklistContains (trimmed name)

def erases (row count : Int) : Bool :=
  decide (anyAlive s.panel.applications row count.toNat = some false) && decide (0 ≤ row) &&
    (eraseRows s.panel.applications row.toNat count.toNat).isSome

def edits (row : Nat) (value : String) : Bool :=
  decide (row < s.panel.applications.length) && decide (trimmed value ≠ "") && !s.panel.blocklistContains (trimmed value)

def dropsBlocked (sameName : String → String → Bool) (name : String) : Bool :=
  (s.panel.indexForName sameName name).any fun row : Nat => s.erases row 1

-- The events of the list that save.
def saves (sameName : String → String → Bool) : Event → Bool
  | .onDriverConnected info => s.isNew info.processName
  | .addApplication name => s.isNew name
  | .setData row value => s.edits row value
  | .removeRows row count => s.erases row count
  | .onBlocklistItemChanged name => s.dropsBlocked sameName name
  | .shouldClientBeIgnored _ _ | .onDriverDisconnected _ | .setBlocklist _ | .setAutoConnectionMode _ | .setApiFilter _ _
  | .onApiModelLoaded _ | .onModuleStatusChanged _ _ => false

-- What is saved before the API model is loaded is what was loaded, and a filter is not reset while
-- it is in force.
def Allowed (sameName : String → String → Bool) : Event → Prop
  | .setAutoConnectionMode mode => Settled { s with mode := mode }
  | .setApiFilter apiModel api =>
      ∀ isSupported filter, apiModel = some isSupported → ApiFilter.ofValue api = some filter →
        ApiFilter.isSupported isSupported api = true →
        Settled { s with panel := { s.panel with apiFilter := filter } }
  | .onModuleStatusChanged isApiSupportedByEnabledModules isEnabled =>
      isEnabled = false → isApiSupportedByEnabledModules.any (fun isSupported => !isSupported s.panel.apiFilter) = true →
        s.loadedApiFilter.isSome = true ∨ s.panel.apiFilter = .workflowSupported
  | .onApiModelLoaded _ => True
  | e => s.saves sameName e = true → s.Settled

end Restart

theorem of_value_value (filter : ApiFilter) : ApiFilter.ofValue filter.value = some filter := by
  cases filter with
  | workflowSupported => rfl
  | only api => cases api <;> rfl

theorem value_injective (first second : ApiFilter) (same : first.value = second.value) : first = second := by
  have found := of_value_value first
  rw [same, of_value_value] at found
  exact (Option.some.inj found).symm

theorem of_int_to_nat (v : UInt8) : UInt8.ofInt v.toNat = v := by
  have small : ((v.toNat : Int) % 2 ^ 8).toNat = v.toNat := by
    have := v.toNat_lt
    omega
  rw [UInt8.ofInt, small, UInt8.ofNat_toNat]

theorem filter_apart : ¬ managedApplicationsPath <+: kSettingApiFilter := by decide

theorem mode_apart : ¬ managedApplicationsPath <+: kSettingAutoConnectMode := by decide

theorem initial_names (names : List String) : (Panel.initial names).applications.map Application.name = names := by
  rw [Panel.initial, List.map_map]
  exact List.map_id names

theorem load_saved (s : ManagedApplications) :
    load s.save.settings = ⟨.initial s.names, 0, some s.panel.apiFilter.value, some s.mode, s.save.settings⟩ := by
  have known : .group kManagedApplicationsGroup ∈ childGroups s.save.settings :=
    (child_group_assigned _ _ _ _).mpr (.inr ((child_group_assigned _ _ _ _).mpr
      (.inr ((child_group_written _ _ _ _ _ _ rfl).mpr (.inl rfl)))))
  have listed : readArray s.save.settings managedApplicationsPath = s.names := by
    rw [save, read_assigned _ _ _ _ mode_apart, read_assigned _ _ _ _ filter_apart, read_written]
  have filter : value s.save.settings kSettingApiFilter (.number 0) = .number s.panel.apiFilter.value.toNat := by
    have apart : kSettingAutoConnectMode ≠ kSettingApiFilter := by decide
    rw [value, save, get_assign, if_neg apart, get_assign, if_pos rfl, Option.getD_some]
  have mode : value s.save.settings kSettingAutoConnectMode (.number 0) = .number s.mode.toNat := by
    rw [value, save, get_assign, if_pos rfl, Option.getD_some]
  rw [load, if_pos known, listed, filter, mode, Variant.toInt, Variant.toInt, of_int_to_nat, of_int_to_nat]

theorem load_restarts (settings : Store) : (load settings).restarted = load settings := by
  have same : (load settings).settings = settings := by
    rw [load]
    split <;> rfl
  rw [restarted, same]

-- A state and one that a restart does not tell from it.
structure Like (s t : ManagedApplications) : Prop where
  names : t.names = s.names
  filter : t.panel.apiFilter = s.panel.apiFilter
  mode : t.mode = s.mode
  loadedFilter : t.loadedApiFilter = s.loadedApiFilter
  loadedMode : t.loadedAutoConnectMode = s.loadedAutoConnectMode
  settings : t.settings = s.settings

theorem like_refl (s : ManagedApplications) : Like s s := ⟨rfl, rfl, rfl, rfl, rfl, rfl⟩

theorem like_survives (s t : ManagedApplications) (like : Like s t) : t.Survives ↔ s.Survives := by
  have restart : t.restarted = s.restarted := by rw [restarted, restarted, like.settings]
  have filter : t.wantedFilter = s.wantedFilter := by rw [wantedFilter, wantedFilter, like.loadedFilter, like.filter]
  have mode : t.wantedMode = s.wantedMode := by rw [wantedMode, wantedMode, like.loadedMode, like.mode]
  constructor
  · exact fun kept => ⟨restart ▸ like.names ▸ kept.names, restart ▸ filter ▸ kept.filter, restart ▸ mode ▸ kept.mode⟩
  · exact fun kept =>
      ⟨restart ▸ like.names.symm ▸ kept.names, restart ▸ filter.symm ▸ kept.filter, restart ▸ mode.symm ▸ kept.mode⟩

theorem save_names (s : ManagedApplications) : s.save.restarted.names = s.save.names := by
  rw [restarted, load_saved, names, initial_names]
  rfl

theorem save_survives (s : ManagedApplications) : s.save.Survives ↔ s.Settled := by
  have filter : s.save.restarted.wantedFilter = s.panel.apiFilter.value := by rw [restarted, load_saved, wantedFilter, Option.getD_some]
  have mode : s.save.restarted.wantedMode = s.mode := by rw [restarted, load_saved, wantedMode, Option.getD_some]
  constructor
  · exact fun kept => ⟨(filter.symm.trans kept.filter).symm, (mode.symm.trans kept.mode).symm⟩
  · exact fun settled => ⟨save_names s, filter.trans settled.filter.symm, mode.trans settled.mode.symm⟩

-- What an event that changes only the list leaves: the state as good as before, or a list that has
-- been saved with the filter and the mode of before.
inductive Effect (s t : ManagedApplications) : Bool → Prop where
  | unsaved (like : Like s t) : Effect s t false
  | saved (applications : Panel) (filter : applications.apiFilter = s.panel.apiFilter)
      (like : Like (save { s with panel := applications }) t) : Effect s t true

theorem effect_survives (s t : ManagedApplications) (wrote : Bool) (effect : Effect s t wrote) (kept : s.Survives) :
    t.Survives ↔ (wrote = true → s.Settled) := by
  cases effect with
  | unsaved like => exact iff_of_true ((like_survives s t like).mpr kept) fun wrote => nomatch wrote
  | saved applications filter like =>
      rw [like_survives _ t like, save_survives]
      have wanted : wantedFilter { s with panel := applications } = s.wantedFilter := by rw [wantedFilter, wantedFilter, filter]
      constructor
      · exact fun settled _ => ⟨wanted.symm.trans (settled.filter.trans (congrArg _ filter)), settled.mode⟩
      · intro settles
        have settled := settles rfl
        exact ⟨wanted.trans (settled.filter.trans (congrArg _ filter.symm)), settled.mode⟩

theorem add_application_effect (s : ManagedApplications) (name : String) : Effect s (s.addApplication name) (s.isNew name) := by
  unfold addApplication isNew
  by_cases blank : trimmed name = ""
  · rw [if_pos blank]
    simp only [blank, ne_eq, not_true_eq_false, decide_false, Bool.false_and]
    exact .unsaved (like_refl s)
  · rw [if_neg blank]
    by_cases listed : s.panel.hasEntryForName (trimmed name) = true
    · rw [if_pos listed, listed, Bool.not_true, Bool.and_false, Bool.false_and]
      exact .unsaved (like_refl s)
    · rw [if_neg listed]
      by_cases blocked : s.panel.blocklistContains (trimmed name) = true
      · rw [if_pos blocked, blocked, Bool.not_true, Bool.and_false]
        exact .unsaved (like_refl s)
      · rw [if_neg blocked, eq_false_of_ne_true listed, eq_false_of_ne_true blocked, decide_eq_true blank]
        refine .saved (s.panel.addApplication name) ?_ (like_refl _)
        unfold Panel.addApplication
        simp only [if_neg blank, if_neg listed, if_neg blocked]

theorem connect_client_names (panel : Panel) (info : DdConnectionInfo) :
    (panel.connectClient info).applications.map Application.name = panel.applications.map Application.name ∧
      (panel.connectClient info).apiFilter = panel.apiFilter := by
  unfold Panel.connectClient
  cases panel.findApplicationForName info.processName with
  | none => exact ⟨rfl, rfl⟩
  | some app =>
      refine ⟨Keyed.modify_keys _ _ _ _ fun other same => ?_, rfl⟩
      unfold Application.clientConnected
      split <;> exact same

theorem like_trans (s t u : ManagedApplications) (first : Like s t) (second : Like t u) : Like s u where
  names := second.names.trans first.names
  filter := second.filter.trans first.filter
  mode := second.mode.trans first.mode
  loadedFilter := second.loadedFilter.trans first.loadedFilter
  loadedMode := second.loadedMode.trans first.loadedMode
  settings := second.settings.trans first.settings

theorem effect_like (s t u : ManagedApplications) (wrote : Bool) (effect : Effect s t wrote) (like : Like t u) : Effect s u wrote := by
  cases effect with
  | unsaved same => exact .unsaved (like_trans s t u same like)
  | saved applications filter same => exact .saved applications filter (like_trans _ t u same like)

theorem saved_like (s t : ManagedApplications) (panel : Panel) (like : Like s t) :
    Like (save { s with panel := panel }) (save { t with panel := panel }) :=
  ⟨rfl, rfl, like.mode, like.loadedFilter, like.loadedMode, by simp only [save, names, like.settings, like.mode]⟩

theorem effect_from (s t u : ManagedApplications) (wrote : Bool) (like : Like s t) (effect : Effect t u wrote) : Effect s u wrote := by
  cases effect with
  | unsaved same => exact .unsaved (like_trans s t u like same)
  | saved applications filter same =>
      exact .saved applications (filter.trans like.filter) (like_trans _ _ u (saved_like s t applications like) same)

theorem connect_like (s : ManagedApplications) (info : DdConnectionInfo) :
    Like s { s with panel := s.panel.connectClient info } := by
  obtain ⟨names, filter⟩ := connect_client_names s.panel info
  exact ⟨names, filter, rfl, rfl, rfl, rfl⟩

theorem connected_effect (s : ManagedApplications) (info : DdConnectionInfo) :
    Effect s (s.onDriverConnected info) (s.isNew info.processName) := by
  apply effect_like s (s.addApplication info.processName)
  · exact add_application_effect s info.processName
  · exact connect_like (s.addApplication info.processName) info

theorem set_data_effect (s : ManagedApplications) (row : Nat) (value : String) :
    Effect s (s.setData row value) (s.edits row value) := by
  unfold setData edits
  by_cases inside : row < s.panel.applications.length
  · rw [List.getElem?_eq_getElem inside, decide_eq_true inside, Bool.true_and]
    dsimp only
    by_cases blank : trimmed value = ""
    · rw [if_pos blank]
      simp only [blank, ne_eq, not_true_eq_false, decide_false, Bool.false_and]
      exact .unsaved (like_refl s)
    · rw [if_neg blank]
      by_cases blocked : s.panel.blocklistContains (trimmed value) = true
      · rw [if_pos blocked, blocked, Bool.not_true, Bool.and_false]
        exact .unsaved (like_refl s)
      · rw [if_neg blocked, eq_false_of_ne_true blocked, decide_eq_true blank]
        refine .saved (s.panel.setData row value) ?_ (like_refl _)
        unfold Panel.setData
        rw [List.getElem?_eq_getElem inside]
        simp only [if_neg blank, if_neg blocked]
        split <;> rfl
  · rw [List.getElem?_eq_none (Nat.le_of_not_lt inside), decide_eq_false inside, Bool.false_and, Bool.false_and]
    exact .unsaved ⟨rfl, rfl, rfl, rfl, rfl, rfl⟩

theorem remove_rows_effect (s : ManagedApplications) (row count : Int) :
    Effect s (s.removeRows row count) (s.erases row count) := by
  unfold removeRows erases
  cases alive : anyAlive s.panel.applications row count.toNat with
  | none => exact .unsaved ⟨rfl, rfl, rfl, rfl, rfl, rfl⟩
  | some found =>
      cases found with
      | true => exact .unsaved (like_refl s)
      | false =>
          dsimp only
          by_cases negative : row < 0
          · rw [if_pos negative, decide_eq_false (Int.not_le.mpr negative), Bool.and_false, Bool.false_and]
            exact .unsaved (like_refl s)
          · rw [if_neg negative, decide_eq_true (Int.not_lt.mp negative), decide_eq_true rfl]
            cases erased : eraseRows s.panel.applications row.toNat count.toNat with
            | none => exact .unsaved ⟨rfl, rfl, rfl, rfl, rfl, rfl⟩
            | some applications => exact .saved { s.panel with applications := applications } rfl (like_refl _)

theorem blocklist_item_effect (s : ManagedApplications) (sameName : String → String → Bool) (name : String) :
    Effect s (s.onBlocklistItemChanged sameName name) (s.dropsBlocked sameName name) := by
  unfold onBlocklistItemChanged dropsBlocked
  cases found : s.panel.indexForName sameName name with
  | none => exact .unsaved (like_refl s)
  | some row =>
      have inside : row < s.panel.applications.length := (List.findIdx?_eq_some_iff_findIdx_eq.mp found).1
      simp only [Option.any_some, List.getElem?_eq_getElem inside]
      by_cases alive : s.panel.applications[row].isAlive = true
      · rw [if_pos alive]
        have kept : s.erases row 1 = false := by
          have inRange : ¬ ((row : Int) < 0) := Int.not_lt.mpr (Int.natCast_nonneg row)
          simp [erases, anyAlive, atRow, inside, inRange, alive]
        rw [kept]
        exact .unsaved (like_refl s)
      · rw [if_neg alive]
        exact remove_rows_effect s row 1

theorem disconnect_each_names (id : DdConnectionId) (applications : List Application) (locked : Bool) :
    (disconnectEach id applications locked).1.map Application.name = applications.map Application.name := by
  induction applications generalizing locked with
  | nil => rfl
  | cons app rest ih =>
      rw [disconnectEach, List.map_cons, List.map_cons, ih]
      rfl

-- What an event does, with the condition under which a restart still finds everything after it.
inductive Outcome (sameName : String → String → Bool) (s t : ManagedApplications) : Event → Prop where
  | list (e : Event) (effect : Effect s t (s.saves sameName e))
      (allowed : s.Allowed sameName e ↔ (s.saves sameName e = true → s.Settled)) : Outcome sameName s t e
  | modeSet (mode : UInt8) (same : t = s.setAutoConnectionMode mode) : Outcome sameName s t (.setAutoConnectionMode mode)
  | filterSet (apiModel : Option (Api → Bool)) (api : UInt8) (same : t = s.setApiFilter apiModel api) :
      Outcome sameName s t (.setApiFilter apiModel api)
  | modelLoaded (isSupported : Api → Bool) (same : t = s.onApiModelLoaded isSupported) :
      Outcome sameName s t (.onApiModelLoaded isSupported)
  | statusChanged (supported : Option (ApiFilter → Bool)) (isEnabled : Bool)
      (same : t = s.onModuleStatusChanged supported isEnabled) : Outcome sameName s t (.onModuleStatusChanged supported isEnabled)

theorem event_outcome (sameName : String → String → Bool) (s t : ManagedApplications) (e : Event)
    (next : s.event sameName e = some t) : Outcome sameName s t e := by
  cases e with
  | shouldClientBeIgnored models info =>
      cases next
      refine .list _ (.unsaved ⟨?_, ?_, rfl, rfl, rfl, rfl⟩) Iff.rfl <;> dsimp only [names] <;> split <;> rfl
  | onDriverConnected info =>
      obtain ⟨_, same⟩ := Option.ite_none_right_eq_some.mp next
      obtain rfl : (s.accepting info).onDriverConnected info = t := Option.some.inj same
      have effect := connected_effect (s.accepting info) info
      exact .list _ (effect_from s (s.accepting info) _ _ ⟨rfl, rfl, rfl, rfl, rfl, rfl⟩ effect) Iff.rfl
  | onDriverDisconnected id =>
      cases next
      exact .list _ (.unsaved ⟨disconnect_each_names id _ _, rfl, rfl, rfl, rfl, rfl⟩) Iff.rfl
  | addApplication name =>
      obtain rfl : s.addApplication name = t := Option.some.inj next
      exact .list _ (add_application_effect s name) Iff.rfl
  | setData row value =>
      obtain rfl : s.setData row value = t := Option.some.inj next
      exact .list _ (set_data_effect s row value) Iff.rfl
  | removeRows row count =>
      obtain rfl : s.removeRows row count = t := Option.some.inj next
      exact .list _ (remove_rows_effect s row count) Iff.rfl
  | setBlocklist blocklist =>
      cases next
      exact .list _ (.unsaved ⟨rfl, rfl, rfl, rfl, rfl, rfl⟩) Iff.rfl
  | onBlocklistItemChanged name =>
      obtain rfl : s.onBlocklistItemChanged sameName name = t := Option.some.inj next
      exact .list _ (blocklist_item_effect s sameName name) Iff.rfl
  | setAutoConnectionMode mode => exact .modeSet mode (Option.some.inj next).symm
  | setApiFilter apiModel api => exact .filterSet apiModel api (Option.some.inj next).symm
  | onApiModelLoaded isSupported => exact .modelLoaded isSupported (Option.some.inj next).symm
  | onModuleStatusChanged supported isEnabled => exact .statusChanged supported isEnabled (Option.some.inj next).symm

theorem mode_set_survives (s : ManagedApplications) (mode : UInt8) :
    (s.setAutoConnectionMode mode).Survives ↔ Settled { s with mode := mode } := by
  unfold setAutoConnectionMode
  rw [save_survives]
  exact ⟨fun settled => ⟨settled.filter, settled.mode⟩, fun settled => ⟨settled.filter, settled.mode⟩⟩

theorem filter_set_cases (s : ManagedApplications) (apiModel : Option (Api → Bool)) (api : UInt8) :
    (∃ isSupported filter, apiModel = some isSupported ∧ ApiFilter.ofValue api = some filter ∧
      ApiFilter.isSupported isSupported api = true ∧
      s.setApiFilter apiModel api = save { s with panel := { s.panel with apiFilter := filter } }) ∨
    ((∀ isSupported filter, apiModel = some isSupported → ApiFilter.ofValue api = some filter →
        ¬ ApiFilter.isSupported isSupported api = true) ∧ s.setApiFilter apiModel api = s) := by
  unfold setApiFilter
  cases apiModel with
  | none => exact .inr ⟨fun _ _ there => (nomatch there), rfl⟩
  | some isSupported =>
      cases named : ApiFilter.ofValue api with
      | none => exact .inr ⟨fun _ _ _ there => (nomatch there), rfl⟩
      | some filter =>
          dsimp only
          by_cases supported : ApiFilter.isSupported isSupported api = true
          · exact .inl ⟨isSupported, filter, rfl, rfl, supported, if_pos supported⟩
          · refine .inr ⟨?_, if_neg supported⟩
            intro other _ same _
            cases same
            exact supported

theorem filter_set_survives (s : ManagedApplications) (apiModel : Option (Api → Bool)) (api : UInt8) (kept : s.Survives) :
    (s.setApiFilter apiModel api).Survives ↔
      ∀ isSupported filter, apiModel = some isSupported → ApiFilter.ofValue api = some filter →
        ApiFilter.isSupported isSupported api = true → Settled { s with panel := { s.panel with apiFilter := filter } } := by
  obtain ⟨isSupported, filter, given, named, supported, same⟩ | ⟨refused, same⟩ := filter_set_cases s apiModel api
  · rw [same, save_survives]
    constructor
    · intro settled other else_ there found _
      cases named.symm.trans found
      exact settled
    · exact fun settles => settles isSupported filter given named supported
  · rw [same]
    exact iff_of_true kept fun isSupported filter given named supported => absurd supported (refused isSupported filter given named)

-- The filter and the mode are loaded together and applied together.
def Paired (s : ManagedApplications) : Prop := s.loadedApiFilter.isSome = s.loadedAutoConnectMode.isSome

theorem applied_filter (s : ManagedApplications) (isSupported : Api → Bool) :
    (s.applyLoadedFilter isSupported).loadedApiFilter = none ∧
      (s.applyLoadedFilter isSupported).loadedAutoConnectMode = s.loadedAutoConnectMode ∧
      (s.loadedApiFilter = none → s.applyLoadedFilter isSupported = s) := by
  unfold applyLoadedFilter
  cases loaded : s.loadedApiFilter with
  | none => exact ⟨loaded, rfl, fun _ => rfl⟩
  | some value =>
      refine ⟨rfl, ?_, fun there => (nomatch there)⟩
      dsimp only
      split
      · obtain ⟨_, _, _, _, _, same⟩ | ⟨_, same⟩ := filter_set_cases s (some isSupported) value
        · rw [same]
          rfl
        · rw [same]
      · rfl

theorem mode_set_load (s : ManagedApplications) (mode : UInt8) : load (s.setAutoConnectionMode mode).settings =
    ⟨.initial s.names, 0, some s.panel.apiFilter.value, some mode, (s.setAutoConnectionMode mode).settings⟩ :=
  load_saved { s with mode := mode, panel := { s.panel with autoConnectMode := .ofValue mode } }

theorem applied_survives (s : ManagedApplications) (mode : UInt8) (applied : s.loadedApiFilter = none) :
    Survives { s.setAutoConnectionMode mode with loadedAutoConnectMode := none } where
  names := by
    rw [restarted, mode_set_load, names, initial_names]
    rfl
  filter := by
    have filter : (s.setAutoConnectionMode mode).loadedApiFilter = none := applied
    rw [restarted, mode_set_load, wantedFilter, wantedFilter, filter]
    rfl
  mode := by
    rw [restarted, mode_set_load]
    rfl

theorem loaded_survives (s : ManagedApplications) (isSupported : Api → Bool) (paired : s.Paired) (kept : s.Survives) :
    (s.onApiModelLoaded isSupported).Survives := by
  obtain ⟨applied, mode, unchanged⟩ := applied_filter s isSupported
  unfold onApiModelLoaded applyLoadedMode
  rw [mode]
  cases loaded : s.loadedAutoConnectMode with
  | none =>
      have pending : s.loadedApiFilter = none := by
        rw [← Option.not_isSome_iff_eq_none, paired, loaded]
        exact Bool.false_ne_true
      rw [unchanged pending]
      exact kept
  | some value => exact applied_survives _ value applied

theorem status_survives (s : ManagedApplications) (supported : Option (ApiFilter → Bool)) (isEnabled : Bool) (kept : s.Survives) :
    (s.onModuleStatusChanged supported isEnabled).Survives ↔
      (isEnabled = false → supported.any (fun isSupported => !isSupported s.panel.apiFilter) = true →
        s.loadedApiFilter.isSome = true ∨ s.panel.apiFilter = .workflowSupported) := by
  unfold onModuleStatusChanged
  cases supported with
  | none => exact iff_of_true kept fun _ there => (nomatch there)
  | some isSupported =>
      dsimp only
      by_cases resets : (!isEnabled && !isSupported s.panel.apiFilter) = true
      · rw [if_pos resets]
        obtain ⟨disabled, unsupported⟩ := (Bool.and_eq_true _ _).mp resets
        have reset : s.loadedApiFilter.getD ApiFilter.workflowSupported.value = s.wantedFilter ↔
            s.loadedApiFilter.isSome = true ∨ s.panel.apiFilter = .workflowSupported := by
          rw [wantedFilter]
          cases s.loadedApiFilter with
          | none =>
              rw [Option.getD_none, Option.getD_none]
              constructor
              · exact fun same => .inr (value_injective _ _ same.symm)
              · rintro (pending | same)
                · cases pending
                · rw [same]
          | some value => exact iff_of_true rfl (.inl rfl)
        constructor
        · exact fun survives _ _ => reset.mp (survives.filter.symm.trans kept.filter)
        · intro allowed
          have same := reset.mpr (allowed (by simpa using disabled) unsupported)
          exact ⟨kept.names, kept.filter.trans same.symm, kept.mode⟩
      · rw [if_neg resets]
        refine iff_of_true kept fun disabled unsupported => absurd ?_ resets
        rw [disabled, Bool.not_false, Bool.true_and]
        exact unsupported

theorem event_survives (sameName : String → String → Bool) (s t : ManagedApplications) (e : Event) (paired : s.Paired)
    (kept : s.Survives) (next : s.event sameName e = some t) : t.Survives ↔ s.Allowed sameName e := by
  cases event_outcome sameName s t e next with
  | list e effect allowed => exact (effect_survives s t _ effect kept).trans allowed.symm
  | modeSet mode same =>
      rw [same]
      exact mode_set_survives s mode
  | filterSet apiModel api same =>
      rw [same]
      exact filter_set_survives s apiModel api kept
  | modelLoaded isSupported same =>
      rw [same]
      exact iff_of_true (loaded_survives s isSupported paired kept) trivial
  | statusChanged supported isEnabled same =>
      rw [same]
      exact status_survives s supported isEnabled kept

-- What holds of the file in every state: it lists the names, and elsewhere it is as it was.
structure Stored (settings : Store) (s : ManagedApplications) : Prop where
  names : s.restarted.names = s.names
  elsewhere : ∀ key, ¬ [.group kManagedApplicationsGroup] <+: key → get s.settings key = get settings key

theorem save_stored (settings : Store) (s t : ManagedApplications) (names : t.names = s.names)
    (written : t.settings = s.save.settings)
    (elsewhere : ∀ key, ¬ [.group kManagedApplicationsGroup] <+: key → get s.settings key = get settings key) :
    Stored settings t where
  names := by
    rw [restarted, written, names]
    exact save_names s
  elsewhere := by
    intro key outside
    have filter : kSettingApiFilter ≠ key := fun same => outside (same ▸ List.prefix_append _ _)
    have mode : kSettingAutoConnectMode ≠ key := fun same => outside (same ▸ List.prefix_append _ _)
    have list : ¬ managedApplicationsPath <+: key := fun there => outside (List.IsPrefix.trans (List.prefix_append _ _) there)
    rw [written, save, get_assign, if_neg mode, get_assign, if_neg filter, get_elsewhere _ _ _ _ list]
    exact elsewhere key outside

theorem kept_stored (settings : Store) (s t : ManagedApplications) (names : t.names = s.names) (same : t.settings = s.settings)
    (stored : Stored settings s) : Stored settings t where
  names := by
    rw [restarted, same, names]
    exact stored.names
  elsewhere := by
    rw [same]
    exact stored.elsewhere

theorem effect_stored (settings : Store) (s t : ManagedApplications) (wrote : Bool) (effect : Effect s t wrote)
    (stored : Stored settings s) : Stored settings t := by
  cases effect with
  | unsaved like => exact kept_stored settings s t like.names like.settings stored
  | saved panel _ like => exact save_stored settings { s with panel := panel } t like.names like.settings stored.elsewhere

theorem mode_set_stored (settings : Store) (s : ManagedApplications) (mode : UInt8) (stored : Stored settings s) :
    Stored settings (s.setAutoConnectionMode mode) :=
  save_stored settings { s with mode := mode, panel := { s.panel with autoConnectMode := .ofValue mode } } _ rfl rfl
    stored.elsewhere

theorem filter_set_stored (settings : Store) (s : ManagedApplications) (apiModel : Option (Api → Bool)) (api : UInt8)
    (stored : Stored settings s) : Stored settings (s.setApiFilter apiModel api) := by
  obtain ⟨_, filter, _, _, _, same⟩ | ⟨_, same⟩ := filter_set_cases s apiModel api
  · rw [same]
    exact save_stored settings { s with panel := { s.panel with apiFilter := filter } } _ rfl rfl stored.elsewhere
  · rw [same]
    exact stored

theorem loaded_stored (settings : Store) (s : ManagedApplications) (isSupported : Api → Bool) (stored : Stored settings s) :
    Stored settings (s.onApiModelLoaded isSupported) := by
  have applied : Stored settings (s.applyLoadedFilter isSupported) := by
    unfold applyLoadedFilter
    cases s.loadedApiFilter with
    | none => exact stored
    | some value =>
        dsimp only
        split
        · exact kept_stored settings (s.setApiFilter (some isSupported) value) _ rfl rfl (filter_set_stored settings s _ _ stored)
        · exact kept_stored settings s _ rfl rfl stored
  unfold onApiModelLoaded applyLoadedMode
  cases (s.applyLoadedFilter isSupported).loadedAutoConnectMode with
  | none => exact applied
  | some value =>
      exact kept_stored settings ((s.applyLoadedFilter isSupported).setAutoConnectionMode value) _ rfl rfl
        (mode_set_stored settings _ value applied)

theorem status_same (s : ManagedApplications) (supported : Option (ApiFilter → Bool)) (isEnabled : Bool) :
    s.onModuleStatusChanged supported isEnabled = s ∨
      s.onModuleStatusChanged supported isEnabled = { s with panel := { s.panel with apiFilter := .workflowSupported } } := by
  unfold onModuleStatusChanged
  cases supported with
  | none => exact .inl rfl
  | some isSupported =>
      dsimp only
      split
      · exact .inr rfl
      · exact .inl rfl

theorem event_stored (sameName : String → String → Bool) (settings : Store) (s t : ManagedApplications) (e : Event)
    (stored : Stored settings s) (next : s.event sameName e = some t) : Stored settings t := by
  cases event_outcome sameName s t e next with
  | list e effect _ => exact effect_stored settings s t _ effect stored
  | modeSet mode same =>
      rw [same]
      exact mode_set_stored settings s mode stored
  | filterSet apiModel api same =>
      rw [same]
      exact filter_set_stored settings s apiModel api stored
  | modelLoaded isSupported same =>
      rw [same]
      exact loaded_stored settings s isSupported stored
  | statusChanged supported isEnabled same =>
      obtain kept | reset := status_same s supported isEnabled
      · rw [same, kept]
        exact stored
      · rw [same, reset]
        exact kept_stored settings s _ rfl rfl stored

theorem effect_paired (s t : ManagedApplications) (wrote : Bool) (effect : Effect s t wrote) (paired : s.Paired) : t.Paired := by
  cases effect with
  | unsaved like => rw [Paired, like.loadedFilter, like.loadedMode, paired]
  | saved panel _ like =>
      rw [Paired, like.loadedFilter, like.loadedMode]
      exact paired

theorem loaded_paired (s : ManagedApplications) (isSupported : Api → Bool) : (s.onApiModelLoaded isSupported).Paired := by
  obtain ⟨applied, _, _⟩ := applied_filter s isSupported
  unfold onApiModelLoaded applyLoadedMode
  cases mode : (s.applyLoadedFilter isSupported).loadedAutoConnectMode with
  | none => rw [Paired, applied, mode, Option.isSome_none]
  | some value => exact congrArg Option.isSome applied

theorem event_paired (sameName : String → String → Bool) (s t : ManagedApplications) (e : Event) (paired : s.Paired)
    (next : s.event sameName e = some t) : t.Paired := by
  cases event_outcome sameName s t e next with
  | list e effect _ => exact effect_paired s t _ effect paired
  | modeSet mode same =>
      rw [same]
      exact paired
  | filterSet apiModel api same =>
      obtain ⟨_, _, _, _, _, set⟩ | ⟨_, kept⟩ := filter_set_cases s apiModel api
      · rw [same, set]
        exact paired
      · rw [same, kept]
        exact paired
  | modelLoaded isSupported same =>
      rw [same]
      exact loaded_paired s isSupported
  | statusChanged supported isEnabled same =>
      obtain kept | reset := status_same s supported isEnabled
      · rw [same, kept]
        exact paired
      · rw [same, reset]
        exact paired

section Refinement
variable (sameName : String → String → Bool) (stored : List String) (s : ManagedApplications)

theorem add_application_panel (name : String) : (s.addApplication name).panel = s.panel.addApplication name := by
  unfold addApplication Panel.addApplication
  by_cases blank : trimmed name = ""
  · rw [if_pos blank, if_pos blank]
  · rw [if_neg blank, if_neg blank]
    by_cases listed : s.panel.hasEntryForName (trimmed name) = true
    · rw [if_pos listed, if_pos listed]
    · rw [if_neg listed, if_neg listed]
      by_cases blocked : s.panel.blocklistContains (trimmed name) = true
      · rw [if_pos blocked, if_pos blocked]
      · rw [if_neg blocked, if_neg blocked, save]

theorem connected_panel (info : DdConnectionInfo) : (s.onDriverConnected info).panel = s.panel.onDriverConnected info := by
  rw [onDriverConnected, Panel.onDriverConnected, add_application_panel]

theorem set_data_panel (row : Nat) (value : String) : (s.setData row value).panel = s.panel.setData row value := by
  unfold setData
  cases found : s.panel.applications[row]? with
  | none => simp only [Panel.setData, found]
  | some app =>
      dsimp only
      by_cases blank : trimmed value = ""
      · simp only [Panel.setData, found, if_pos blank]
      · rw [if_neg blank]
        by_cases blocked : s.panel.blocklistContains (trimmed value) = true
        · simp only [Panel.setData, found, if_neg blank, if_pos blocked]
        · rw [if_neg blocked, save]

theorem remove_rows_panel (row count : Int) : (s.removeRows row count).panel = s.panel.removeRows row count := by
  unfold removeRows Panel.removeRows
  cases anyAlive s.panel.applications row count.toNat with
  | none => rfl
  | some alive =>
      cases alive with
      | true => rfl
      | false =>
          dsimp only
          split
          · rfl
          · cases eraseRows s.panel.applications row.toNat count.toNat <;> rfl

theorem blocklist_item_panel (name : String) :
    (s.onBlocklistItemChanged sameName name).panel = s.panel.onBlocklistItemChanged sameName name := by
  unfold onBlocklistItemChanged Panel.onBlocklistItemChanged
  cases s.panel.indexForName sameName name with
  | none => rfl
  | some row =>
      dsimp only
      cases s.panel.applications[row]? with
      | none => rfl
      | some app =>
          dsimp only
          split
          · rfl
          · exact remove_rows_panel s row 1

theorem reach_panel (t : Panel) (a : Action) (next : s.panel.event sameName a = some t)
    (running : s.panel.crashed = false) (reach : Reachable (applicationModel sameName stored) s.panel) :
    Reachable (applicationModel sameName stored) t := by
  refine .step s.panel t a reach trivial ?_
  have free : ¬ s.panel.crashed = true := ne_true_of_eq_false running
  exact (if_neg free).trans next

theorem filter_set_panel (apiModel : Option (Api → Bool)) (api : UInt8) (running : s.panel.crashed = false)
    (reach : Reachable (applicationModel sameName stored) s.panel) :
    (s.setApiFilter apiModel api).panel.crashed = false ∧
      Reachable (applicationModel sameName stored) (s.setApiFilter apiModel api).panel := by
  obtain ⟨_, filter, _, _, _, same⟩ | ⟨_, same⟩ := filter_set_cases s apiModel api
  · rw [same]
    exact ⟨running, reach_panel sameName stored s _ (.setApiFilter filter) rfl running reach⟩
  · rw [same]
    exact ⟨running, reach⟩

theorem applied_filter_panel (isSupported : Api → Bool) (running : s.panel.crashed = false)
    (reach : Reachable (applicationModel sameName stored) s.panel) :
    (s.applyLoadedFilter isSupported).panel.crashed = false ∧
      Reachable (applicationModel sameName stored) (s.applyLoadedFilter isSupported).panel := by
  unfold applyLoadedFilter
  cases s.loadedApiFilter with
  | none => exact ⟨running, reach⟩
  | some value =>
      dsimp only
      split
      · exact filter_set_panel sameName stored s _ _ running reach
      · exact ⟨running, reach⟩

theorem loaded_panel (isSupported : Api → Bool) (running : s.panel.crashed = false)
    (reach : Reachable (applicationModel sameName stored) s.panel) :
    Reachable (applicationModel sameName stored) (s.onApiModelLoaded isSupported).panel := by
  obtain ⟨still, applied⟩ := applied_filter_panel sameName stored s isSupported running reach
  unfold onApiModelLoaded applyLoadedMode
  cases (s.applyLoadedFilter isSupported).loadedAutoConnectMode with
  | none => exact applied
  | some value => exact reach_panel sameName stored _ _ (.setAutoConnectMode (.ofValue value)) rfl still applied

-- Every event of the settings is one or two of the application model's own, or none.
theorem event_panel (t : ManagedApplications) (e : Event) (next : s.event sameName e = some t)
    (running : s.panel.crashed = false) (reach : Reachable (applicationModel sameName stored) s.panel) :
    Reachable (applicationModel sameName stored) t.panel := by
  cases e with
  | shouldClientBeIgnored models info =>
      cases next
      exact reach_panel sameName stored s _ (.shouldClientBeIgnored models info) rfl running reach
  | onDriverConnected info =>
      obtain ⟨expected, same⟩ := Option.ite_none_right_eq_some.mp next
      obtain rfl : (s.accepting info).onDriverConnected info = t := Option.some.inj same
      apply reach_panel sameName stored s _ (.onDriverConnected info) _ running reach
      rw [connected_panel]
      exact if_pos expected
  | onDriverDisconnected id =>
      cases next
      exact reach_panel sameName stored s _ (.onDriverDisconnected id) rfl running reach
  | addApplication name =>
      obtain rfl : s.addApplication name = t := Option.some.inj next
      apply reach_panel sameName stored s _ (.addApplication name) _ running reach
      rw [add_application_panel]
      rfl
  | setData row value =>
      obtain rfl : s.setData row value = t := Option.some.inj next
      apply reach_panel sameName stored s _ (.setData row value) _ running reach
      rw [set_data_panel]
      rfl
  | removeRows row count =>
      obtain rfl : s.removeRows row count = t := Option.some.inj next
      apply reach_panel sameName stored s _ (.removeRows row count) _ running reach
      rw [remove_rows_panel]
      rfl
  | setBlocklist blocklist =>
      cases next
      exact reach_panel sameName stored s _ (.setBlocklist blocklist) rfl running reach
  | onBlocklistItemChanged name =>
      obtain rfl : s.onBlocklistItemChanged sameName name = t := Option.some.inj next
      apply reach_panel sameName stored s _ (.onBlocklistItemChanged name) _ running reach
      rw [blocklist_item_panel]
      rfl
  | setAutoConnectionMode mode =>
      obtain rfl : s.setAutoConnectionMode mode = t := Option.some.inj next
      exact reach_panel sameName stored s _ (.setAutoConnectMode (.ofValue mode)) rfl running reach
  | setApiFilter apiModel api =>
      obtain rfl : s.setApiFilter apiModel api = t := Option.some.inj next
      exact (filter_set_panel sameName stored s apiModel api running reach).2
  | onApiModelLoaded isSupported =>
      obtain rfl : s.onApiModelLoaded isSupported = t := Option.some.inj next
      exact loaded_panel sameName stored s isSupported running reach
  | onModuleStatusChanged supported isEnabled =>
      obtain rfl : s.onModuleStatusChanged supported isEnabled = t := Option.some.inj next
      obtain same | same := status_same s supported isEnabled
      · rw [same]
        exact reach
      · rw [same]
        exact reach_panel sameName stored s _ (.setApiFilter .workflowSupported) rfl running reach

end Refinement

structure Inv (sameName : String → String → Bool) (settings : Store) (s : ManagedApplications) : Prop where
  paired : s.Paired
  stored : Stored settings s
  panel : Reachable (applicationModel sameName (load settings).names) s.panel

theorem load_inv (sameName : String → String → Bool) (settings : Store) : Inv sameName settings (load settings) where
  paired := by
    unfold load Paired
    split <;> rfl
  stored := by
    refine ⟨by rw [load_restarts], ?_⟩
    unfold load
    split <;> exact fun _ _ => rfl
  panel := by
    have panel : (load settings).panel = .initial (load settings).names := by
      unfold load names
      split <;> rw [initial_names]
    rw [panel]
    exact .init

theorem inv_step (sameName : String → String → Bool) (settings : Store) (s t : ManagedApplications) (e : Event)
    (inv : Inv sameName settings s) (next : s.step sameName e = some t) : Inv sameName settings t := by
  obtain ⟨free, event⟩ := Option.ite_none_left_eq_some.mp next
  exact ⟨event_paired sameName s t e inv.paired event, event_stored sameName settings s t e inv.stored event,
    event_panel sameName _ s t e event (eq_false_of_ne_true free) inv.panel⟩

theorem reachable_inv (sameName : String → String → Bool) (settings : Store) (s : ManagedApplications)
    (reach : Reachable (machine sameName settings) s) : Inv sameName settings s :=
  reachable_invariant (machine sameName settings) (Inv sameName settings) (load_inv sameName settings)
    (fun s e t inv next => inv_step sameName settings s t e inv next) s reach

-- A restart finds the applications of every session. It finds the filter and the mode too exactly
-- if nothing is saved while others are still to be applied and no filter is reset behind the file.
theorem applications_survive_restart (sameName : String → String → Bool) (settings : Store) (events : List Event) :
    (Meets (machine sameName settings) (Allowed · sameName) (load settings) events ↔
      Always (machine sameName settings) Survives (load settings) events) ∧
    ∀ s, Reachable (machine sameName settings) s →
      s.restarted.names = s.names ∧
      (∀ key, ¬ [.group kManagedApplicationsGroup] <+: key → get s.settings key = get settings key) ∧
      Reachable (applicationModel sameName (load settings).names) s.panel := by
  constructor
  · apply keeps_iff_always (machine sameName settings) (Allowed · sameName) Survives
    · exact ⟨congrArg names (load_restarts settings), congrArg wantedFilter (load_restarts settings),
        congrArg wantedMode (load_restarts settings)⟩
    · intro s e t reach kept next
      obtain ⟨_, event⟩ := Option.ite_none_left_eq_some.mp next
      exact event_survives sameName s t e (reachable_inv sameName settings s reach).paired kept event
  · intro s reach
    have inv := reachable_inv sameName settings s reach
    exact ⟨inv.stored.names, inv.stored.elsewhere, inv.panel⟩

-- An application that is added before the API model is loaded writes the mode back to 0.
example : (exec (machine (· = ·) [(kSettingAutoConnectMode, .number 2)]) (load [(kSettingAutoConnectMode, .number 2)])
    [.addApplication "game.exe"]).any (fun s => s.wantedMode = 2 ∧ s.restarted.wantedMode = 0) = true := by decide

end RadeonPanel.Frontend.ManagedApplications
