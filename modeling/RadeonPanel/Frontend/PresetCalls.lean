import RadeonPanel.Frontend.PresetFiles
import RadeonPanel.Frontend.PresetLoading

set_option autoImplicit false

namespace RadeonPanel.Frontend.Presets.PresetModel

open Interleaving Keyed Json Userdata

section Model
variable {δ : Type} [DecidableEq δ] (reg : Registry δ) (dates : DateTimeFormat)

inductive Call where
  | createOrUpdatePreset (name : String) (now : dates.Time)
  | deletePreset (name : String) (opens : Bool)
  | loadPreset (name : String) (now : dates.Time) (first second : String → Bool) (opens : Bool)
  | serializeModule (name text : String) (opens : Bool)

-- The preset that the call is about.
def Call.named {dates : DateTimeFormat} : Call dates → Option String
  | .createOrUpdatePreset name _ | .deletePreset name _ | .loadPreset name _ _ _ _ => some name
  | .serializeModule _ _ _ => none

def perform {dates : DateTimeFormat} (s : PresetModel δ) : Call dates → PresetModel δ
  | .createOrUpdatePreset name now => createOrUpdatePreset reg s name now
  | .deletePreset name opens => deletePreset reg s name opens
  | .loadPreset name now first second opens => loadPreset reg s name now first second opens
  | .serializeModule name text opens => serializeModule reg s name text opens

-- Load: the user's file and the defaults, each missing where it cannot be read.
def load (s : PresetModel δ) (userFile defaultFile : Option JsonValue) (now : dates.Time) (first second : String → Bool) :
    PresetModel δ :=
  let user := parsePresetFile dates now userFile
  let initial := parsePresetFile dates now defaultFile
  loadExistingPresets reg s user.presets initial.presets (if user.foundCurrent then user.current else initial.current)
    first second

def callMachine (start : PresetModel δ) : Machine (PresetModel δ) (Call dates) :=
  ⟨start, fun s call => if s.crashed then none else some (perform reg s call)⟩

end Model

variable {δ : Type} (reg : Registry δ)

-- Everything but CreateOrUpdatePreset and the time of the last load leaves the stored presets alone.
theorem save_presets_presets (s : PresetModel δ) (opens : Bool) : (savePresets reg s opens).presets = s.presets := by
  rw [savePresets]
  split <;> rfl

theorem status_changed_presets (s : PresetModel δ) (opens : Bool) :
    (onModuleStatusChanged reg s opens).presets = s.presets := by
  rw [onModuleStatusChanged]
  split
  · rfl
  · exact save_presets_presets reg s opens

theorem set_module_enabled_presets (s : PresetModel δ) (name : String) (isEnabled succeeds opens : Bool) :
    (setModuleEnabled reg s name isEnabled succeeds opens).presets = s.presets := by
  rw [setModuleEnabled]
  split
  · rfl
  split
  · rfl
  split
  · rfl
  split
  · rfl
  split
  · rfl
  split
  · exact status_changed_presets reg _ opens
  · rfl

theorem serialize_module_presets (s : PresetModel δ) (name text : String) (opens : Bool) :
    (serializeModule reg s name text opens).presets = s.presets :=
  status_changed_presets reg _ opens

theorem with_data_presets (s : PresetModel δ) (m : DevToolsModule δ) (result : δ × Option String) (opens : Bool) :
    (withData reg s m result opens).presets = s.presets := by
  simp only [withData]
  split
  · rfl
  · exact serialize_module_presets reg _ m.name _ opens

variable [DecidableEq δ]

theorem load_module_presets (preset : ModulePreset) (succeeds : String → Bool) (s : PresetModel δ) (m : DevToolsModule δ) :
    (loadModule reg preset succeeds s m).presets = s.presets := by
  have reset (t : PresetModel δ) : (resetModuleToDefault reg t m true).presets = t.presets :=
    with_data_presets reg t m _ true
  have set (t : PresetModel δ) (text : String) : (setModuleData reg t m text true).presets = t.presets := by
    rw [setModuleData]
    split
    · rfl
    · exact with_data_presets reg t m _ true
  simp only [loadModule]
  split
  · rfl
  split
  · split
    · rw [reset, set_module_enabled_presets]
    · rw [set, set_module_enabled_presets]
  · rw [reset, set_module_enabled_presets]

theorem load_modules_presets (s : PresetModel δ) (preset : ModulePreset) (first second : String → Bool) :
    (loadModules reg s preset first second).presets = s.presets := by
  have all (f : PresetModel δ → DevToolsModule δ → PresetModel δ) (same : ∀ t m, (f t m).presets = t.presets)
      (modules : List (DevToolsModule δ)) (t : PresetModel δ) : (modules.foldl f t).presets = t.presets := by
    induction modules generalizing t with
    | nil => rfl
    | cons m rest ih => rw [List.foldl_cons, ih, same]
  rw [loadModules]
  split
  · rfl
  · have disabled := all (disableModule reg first) (fun t m => set_module_enabled_presets reg t m.name false _ true)
    have loaded := all (loadModule reg preset second) (load_module_presets reg preset second)
    exact (loaded reg.modules _).trans (disabled reg.modules _)

theorem load_preset_presets (s : PresetModel δ) (name : String) (now : Nat) (first second : String → Bool) (opens : Bool) :
    (loadPreset reg s name now first second opens).presets = s.presets ∨
      (loadPreset reg s name now first second opens).presets = setLastLoaded s.presets name now := by
  rw [loadPreset]
  split
  · exact .inl rfl
  · simp only []
    split
    · exact .inl (load_modules_presets reg s _ first second)
    · rw [save_presets_presets, load_modules_presets]
      exact .inr rfl

-- A stored preset that has kept what it had apart from the time of its last load.
structure Stays (before after : ModulePreset) : Prop where
  name : after.name = before.name
  isBuiltIn : after.isBuiltIn = before.isBuiltIn
  modules : SameStates after.modules before.modules

theorem Stays.refl (preset : ModulePreset) : Stays preset preset := ⟨rfl, rfl, fun _ => rfl⟩

section Calls
variable {dates : DateTimeFormat} (qjson : Library)

-- A built-in preset stays, as does every preset that the call is not about, and
-- what is saved after the call has distinct names and can be read back.
structure Kept (s : PresetModel δ) (call : Call dates) : Prop where
  distinct : (keys ModulePreset.name (perform reg s call).presets).Nodup
  builtIn : ∀ p ∈ s.presets, p.isBuiltIn = true → ∃ q ∈ (perform reg s call).presets, Stays p q
  others : ∀ p ∈ s.presets, call.named ≠ some p.name → ∃ q ∈ (perform reg s call).presets, Stays p q
  reloadable : Reloadable dates qjson (savePresets reg (perform reg s call) true).file

-- CreateOrUpdatePreset must not meet a built-in preset of other states nor, once the name is
-- trimmed, a preset of that name, and the current modules must be readable.
def keepsPresets (s : PresetModel δ) : Call dates → Prop
  | .createOrUpdatePreset name _ =>
      match getPreset s name with
      | some preset =>
          (preset.isBuiltIn = true → SameStates (buildCurrentModulePreset reg s) preset.modules) ∧
            Readable (buildCurrentModulePreset reg s)
      | none =>
          trimmed name = "" ∨
            trimmed name ∉ keys ModulePreset.name s.presets ∧ Readable (buildCurrentModulePreset reg s)
  | .deletePreset _ _ | .loadPreset _ _ _ _ _ | .serializeModule _ _ _ => True

structure Sound (dates : DateTimeFormat) (presets : List ModulePreset) : Prop where
  distinct : (keys ModulePreset.name presets).Nodup
  storable : ∀ preset ∈ presets, Storable dates preset
  readable : ∀ preset ∈ presets, Readable preset.modules

omit [DecidableEq δ] in
theorem saved_reloadable_iff (s : PresetModel δ) (storable : ∀ preset ∈ s.presets, Storable dates preset) :
    Reloadable dates qjson (savePresets reg s true).file ↔ ∀ preset ∈ s.presets, Readable preset.modules :=
  reloadable_iff dates qjson ⟨buildCurrentModulePreset reg s, s.presets⟩ storable

-- What is left of the presets when none is made and none gets other states.
structure Carries (dates : DateTimeFormat) (named : Option String) (before after : List ModulePreset) : Prop where
  names : (keys ModulePreset.name after).Sublist (keys ModulePreset.name before)
  source : ∀ q ∈ after, ∃ p ∈ before, q.modules = p.modules ∧ (q.lastLoaded = p.lastLoaded ∨ q.lastLoaded < dates.limit)
  stays : ∀ p ∈ before, p.isBuiltIn = true ∨ named ≠ some p.name → ∃ q ∈ after, Stays p q

theorem carries_refl (named : Option String) (presets : List ModulePreset) : Carries dates named presets presets :=
  ⟨.refl _, fun q member => ⟨q, member, rfl, .inl rfl⟩, fun p member _ => ⟨p, member, .refl p⟩⟩

theorem delete_carries (presets : List ModulePreset) (name : String) :
    Carries dates (some name) presets (presets.filter fun preset => !(decide (preset.name = name) && !preset.isBuiltIn)) := by
  refine ⟨(List.filter_sublist).map _, fun q member => ⟨q, List.mem_of_mem_filter member, rfl, .inl rfl⟩, ?_⟩
  intro p member kept
  refine ⟨p, List.mem_filter.mpr ⟨member, ?_⟩, .refl p⟩
  obtain builtIn | other := kept
  · simp [builtIn]
  · have apart : p.name ≠ name := fun same => other (congrArg some same.symm)
    simp [apart]

theorem load_carries (presets : List ModulePreset) (name : String) (now : dates.Time)
    (distinct : (keys ModulePreset.name presets).Nodup) :
    Carries dates (some name) presets (setLastLoaded presets name now) := by
  refine ⟨?_, ?_, ?_⟩
  · have names := modify_keys ModulePreset.name presets name (fun preset => { preset with lastLoaded := now })
      (fun _ same => same)
    exact names ▸ .refl _
  · intro q member
    obtain ⟨-, before⟩ | ⟨p, before, -, rfl⟩ := modify_mem ModulePreset.name presets name _ distinct q member
    · exact ⟨q, before, rfl, .inl rfl⟩
    · exact ⟨p, before, rfl, .inr now.2⟩
  · intro p member _
    obtain same | ⟨-, loaded⟩ := mem_modify ModulePreset.name presets name
      (fun preset => { preset with lastLoaded := now }) p member
    · exact ⟨p, same, .refl p⟩
    · exact ⟨_, loaded, rfl, rfl, fun _ => rfl⟩

theorem Carries.sound {named : Option String} {before after : List ModulePreset} (carries : Carries dates named before after)
    (sound : Sound dates before) : Sound dates after := by
  refine ⟨sound.distinct.sublist carries.names, ?_, ?_⟩
  · intro q member
    obtain ⟨p, there, modules, loaded⟩ := carries.source q member
    have storable := sound.storable p there
    exact ⟨modules ▸ storable.distinct, loaded.elim (fun same => same ▸ storable.shown) id⟩
  · intro q member
    obtain ⟨p, there, modules, -⟩ := carries.source q member
    exact modules ▸ sound.readable p there

theorem perform_carries (s : PresetModel δ) (call : Call dates) (distinct : (keys ModulePreset.name s.presets).Nodup)
    (made : ∀ name now, call ≠ .createOrUpdatePreset name now) :
    Carries dates call.named s.presets (perform reg s call).presets := by
  cases call with
  | createOrUpdatePreset name now => exact absurd rfl (made name now)
  | deletePreset name opens =>
      rw [perform, deletePreset, save_presets_presets]
      exact delete_carries s.presets name
  | loadPreset name now first second opens =>
      rw [perform]
      obtain same | loaded := load_preset_presets reg s name now first second opens
      · rw [same]
        exact carries_refl (some name) s.presets
      · rw [loaded]
        exact load_carries s.presets name now distinct
  | serializeModule name text opens =>
      rw [perform, serialize_module_presets]
      exact carries_refl none s.presets

theorem Carries.kept (s : PresetModel δ) (call : Call dates) (sound : Sound dates s.presets)
    (carries : Carries dates call.named s.presets (perform reg s call).presets) : Kept reg qjson s call := by
  have after := carries.sound sound
  refine ⟨after.distinct, fun p member builtIn => carries.stays p member (.inl builtIn),
    fun p member other => carries.stays p member (.inr other), ?_⟩
  exact (saved_reloadable_iff reg qjson _ after.storable).mpr after.readable

omit [DecidableEq δ] in
theorem current_storable (s : PresetModel δ) (name : String) (isBuiltIn : Bool) (lastLoaded : Nat)
    (shown : lastLoaded < dates.limit) :
    Storable dates ⟨name, buildCurrentModulePreset reg s, isBuiltIn, lastLoaded⟩ := by
  refine ⟨?_, shown⟩
  have names : keys Prod.fst (buildCurrentModulePreset reg s) = keys DevToolsModule.name reg.modules := List.map_map
  exact names ▸ reg.distinct

-- A stored preset takes the current modules.
theorem update_kept_iff (s : PresetModel δ) (name : String) (now : dates.Time) (preset : ModulePreset)
    (sound : Sound dates s.presets) (found : getPreset s name = some preset) :
    (Kept reg qjson s (.createOrUpdatePreset name now) ↔ keepsPresets reg s (.createOrUpdatePreset name now)) ∧
      (keepsPresets reg s (.createOrUpdatePreset name now) →
        Sound dates (perform reg s (.createOrUpdatePreset name now)).presets) := by
  set current := buildCurrentModulePreset reg s with current_eq
  set t := perform reg s (.createOrUpdatePreset name now) with t_eq
  have after : t.presets = Keyed.modify ModulePreset.name s.presets name fun preset => { preset with modules := current } := by
    simp only [t_eq, perform, createOrUpdatePreset, found, current_eq]
  have allowed : keepsPresets reg s (.createOrUpdatePreset name now) ↔
      (preset.isBuiltIn = true → SameStates current preset.modules) ∧ Readable current := by
    simp only [keepsPresets, found, current_eq]
  obtain ⟨member, named⟩ := lookup_mem ModulePreset.name s.presets name preset found
  have mem_iff (q : ModulePreset) :
      q ∈ t.presets ↔ q.name ≠ name ∧ q ∈ s.presets ∨ q = { preset with modules := current } :=
    after ▸ mem_modify_iff ModulePreset.name s.presets name _ sound.distinct preset found q
  have distinct : (keys ModulePreset.name t.presets).Nodup := by
    rw [after, modify_keys ModulePreset.name s.presets name (fun preset => { preset with modules := current })
      (fun _ same => same)]
    exact sound.distinct
  have storable (q : ModulePreset) (there : q ∈ t.presets) : Storable dates q := by
    obtain ⟨-, before⟩ | rfl := (mem_iff q).mp there
    · exact sound.storable q before
    · exact current_storable reg s preset.name preset.isBuiltIn preset.lastLoaded (sound.storable preset member).shown
  have updated : { preset with modules := current } ∈ t.presets := (mem_iff _).mpr (.inr rfl)
  have readable (free : Readable current) (q : ModulePreset) (there : q ∈ t.presets) : Readable q.modules := by
    obtain ⟨-, before⟩ | rfl := (mem_iff q).mp there
    · exact sound.readable q before
    · exact free
  rw [allowed]
  refine ⟨⟨fun kept => ⟨fun builtIn => ?_, ?_⟩, ?_⟩, fun allowed => ⟨distinct, storable, readable allowed.2⟩⟩
  · obtain ⟨q, there, stays⟩ := kept.builtIn preset member builtIn
    obtain ⟨apart, -⟩ | rfl := (mem_iff q).mp there
    · exact absurd (stays.name.trans named) apart
    · exact stays.modules
  · exact (saved_reloadable_iff reg qjson t storable).mp kept.reloadable _ updated
  · rintro ⟨protects, free⟩
    have elsewhere (p : ModulePreset) (there : p ∈ s.presets) (apart : p.name ≠ name) : ∃ q ∈ t.presets, Stays p q :=
      ⟨p, (mem_iff p).mpr (.inl ⟨apart, there⟩), .refl p⟩
    refine ⟨distinct, fun p there builtIn => ?_, fun p there other => ?_, ?_⟩
    · by_cases same : p.name = name
      · have here : p = preset := by
          have again := lookup_of_mem ModulePreset.name s.presets p sound.distinct there
          rw [same] at again
          exact Option.some.inj (again.symm.trans found)
        subst here
        exact ⟨_, updated, rfl, rfl, protects builtIn⟩
      · exact elsewhere p there same
    · exact elsewhere p there fun same => other (congrArg some same.symm)
    · exact (saved_reloadable_iff reg qjson t storable).mpr (readable free)

-- A new preset comes last and has the trimmed name.
theorem create_kept_iff (s : PresetModel δ) (name : String) (now : dates.Time) (sound : Sound dates s.presets)
    (missing : getPreset s name = none) :
    (Kept reg qjson s (.createOrUpdatePreset name now) ↔ keepsPresets reg s (.createOrUpdatePreset name now)) ∧
      (keepsPresets reg s (.createOrUpdatePreset name now) →
        Sound dates (perform reg s (.createOrUpdatePreset name now)).presets) := by
  set current := buildCurrentModulePreset reg s with current_eq
  set t := perform reg s (.createOrUpdatePreset name now) with t_eq
  have allowed : keepsPresets reg s (.createOrUpdatePreset name now) ↔
      trimmed name = "" ∨ trimmed name ∉ keys ModulePreset.name s.presets ∧ Readable current := by
    simp only [keepsPresets, missing, current_eq]
  rw [allowed]
  by_cases empty : trimmed name = ""
  · have same : t.presets = s.presets := by simp only [t_eq, perform, createOrUpdatePreset, missing, if_pos empty]
    have carries : Carries dates (some name) s.presets t.presets := by
      rw [same]
      exact carries_refl (some name) s.presets
    exact ⟨iff_of_true (carries.kept reg qjson s (.createOrUpdatePreset name now) sound) (.inl empty),
      fun _ => carries.sound sound⟩
  · have after : t.presets = s.presets ++ [⟨trimmed name, current, false, now⟩] := by
      simp only [t_eq, perform, createOrUpdatePreset, missing, if_neg empty, current_eq]
    have storable (q : ModulePreset) (there : q ∈ t.presets) : Storable dates q := by
      obtain before | here := List.mem_append.mp (after ▸ there)
      · exact sound.storable q before
      · rw [List.mem_singleton.mp here]
        exact current_storable reg s (trimmed name) false now now.2
    have distinct_iff : (keys ModulePreset.name t.presets).Nodup ↔ trimmed name ∉ keys ModulePreset.name s.presets := by
      rw [after, keys, List.map_append, List.map_singleton, List.nodup_append_comm]
      exact List.nodup_cons.trans (and_iff_left sound.distinct)
    have readable_iff : (∀ q ∈ t.presets, Readable q.modules) ↔ Readable current := by
      rw [after, List.forall_mem_append, List.forall_mem_singleton]
      exact and_iff_right sound.readable
    have kept_iff : Kept reg qjson s (.createOrUpdatePreset name now) ↔
        trimmed name ∉ keys ModulePreset.name s.presets ∧ Readable current := by
      constructor
      · intro kept
        exact ⟨distinct_iff.mp kept.distinct, readable_iff.mp ((saved_reloadable_iff reg qjson t storable).mp kept.reloadable)⟩
      · rintro ⟨fresh, free⟩
        have stays (p : ModulePreset) (there : p ∈ s.presets) : ∃ q ∈ t.presets, Stays p q :=
          ⟨p, after ▸ List.mem_append_left _ there, .refl p⟩
        exact ⟨distinct_iff.mpr fresh, fun p there _ => stays p there, fun p there _ => stays p there,
          (saved_reloadable_iff reg qjson t storable).mpr (readable_iff.mpr free)⟩
    rw [or_iff_right empty]
    refine ⟨kept_iff, ?_⟩
    intro allowed
    exact ⟨distinct_iff.mpr allowed.1, storable, readable_iff.mpr allowed.2⟩

theorem call_kept_iff (s : PresetModel δ) (call : Call dates) (sound : Sound dates s.presets) :
    (Kept reg qjson s call ↔ keepsPresets reg s call) ∧
      (keepsPresets reg s call → Sound dates (perform reg s call).presets) := by
  by_cases made : ∃ name now, call = .createOrUpdatePreset name now
  · obtain ⟨name, now, rfl⟩ := made
    cases found : getPreset s name with
    | some preset => exact update_kept_iff reg qjson s name now preset sound found
    | none => exact create_kept_iff reg qjson s name now sound found
  · have carries := perform_carries reg s call sound.distinct fun name now same => made ⟨name, now, same⟩
    have allowed : keepsPresets reg s call := by
      cases call with
      | createOrUpdatePreset name now => exact absurd ⟨name, now, rfl⟩ made
      | _ => trivial
    exact ⟨iff_of_true (carries.kept reg qjson s call sound) allowed, fun _ => carries.sound sound⟩

theorem load_presets (s : PresetModel δ) (userFile defaultFile : Option JsonValue) (now : dates.Time)
    (first second : String → Bool) :
    (load reg dates s userFile defaultFile now first second).presets =
      (parsePresetFile dates now defaultFile).presets.foldl (appendNew ModulePreset.name)
        (parsePresetFile dates now userFile).presets := by
  have step (presets : List ModulePreset) (preset : ModulePreset) :
      (if presets.any fun known => known.name = preset.name then presets else presets ++ [preset]) =
        appendNew ModulePreset.name presets preset := by
    have listed : (presets.any fun known => known.name = preset.name) = true ↔ preset.name ∈ keys ModulePreset.name presets := by
      simp [keys]
    rw [appendNew, if_congr listed rfl rfl]
  rw [load, loadExistingPresets, load_modules_presets, addDefaultPresets]
  simp only [step]

theorem load_storable (s : PresetModel δ) (userFile defaultFile : Option JsonValue) (now : dates.Time)
    (first second : String → Bool) :
    ∀ preset ∈ (load reg dates s userFile defaultFile now first second).presets, Storable dates preset := by
  have parsed (file : Option JsonValue) : ∀ preset ∈ (parsePresetFile dates now file).presets, Storable dates preset := by
    intro preset member
    rw [parsePresetFile.eq_def] at member
    split at member
    · obtain ⟨object, -, rfl⟩ := List.mem_map.mp member
      exact parse_preset_storable dates now (some object)
    · cases member
  have added (others l : List ModulePreset) (both : ∀ preset ∈ l, Storable dates preset)
      (each : ∀ preset ∈ others, Storable dates preset) :
      ∀ preset ∈ others.foldl (appendNew ModulePreset.name) l, Storable dates preset := by
    induction others generalizing l with
    | nil => exact both
    | cons preset rest ih =>
        obtain ⟨here, later⟩ := List.forall_mem_cons.mp each
        refine ih _ ?_ later
        rw [appendNew]
        split
        · exact both
        · exact List.forall_mem_append.mpr ⟨both, List.forall_mem_singleton.mpr here⟩
  rw [load_presets]
  exact added _ _ (parsed userFile) (parsed defaultFile)

-- From the files on, in whatever order the calls are made.
theorem presets_kept_iff (data : String → δ) (file : PresetFile) (userFile defaultFile : Option JsonValue)
    (now : dates.Time) (first second : String → Bool) (calls : List (Call dates))
    (distinct : (keys ModulePreset.name (parsePresetFile dates now userFile).presets).Nodup) :
    let start := load reg dates (created data file) userFile defaultFile now first second
    Reloadable dates qjson (savePresets reg start true).file ∧
        Meets (callMachine reg dates start) (Kept reg qjson) start calls ↔
      (∀ preset ∈ start.presets, Readable preset.modules) ∧
        Meets (callMachine reg dates start) (keepsPresets reg) start calls := by
  intro start
  have storable := load_storable reg (created data file) userFile defaultFile now first second
  have startDistinct : (keys ModulePreset.name start.presets).Nodup := by
    rw [load_presets]
    exact append_all_distinct ModulePreset.name _ _ distinct
  rw [saved_reloadable_iff reg qjson start storable]
  refine and_congr_right fun readable => ?_
  have call_next (s : PresetModel δ) (call : Call dates) (t : PresetModel δ)
      (next : (callMachine reg dates start).step s call = some t) : perform reg s call = t :=
    Option.some.inj (Option.ite_none_left_eq_some.mp next).2
  refine meets_iff _ (Kept reg qjson) (keepsPresets reg) (fun s => Sound dates s.presets) ?_ ?_ start
    ⟨startDistinct, storable, readable⟩ calls
  · intro s call t sound _
    exact (call_kept_iff reg qjson s call sound).1
  · intro s call t sound kept next
    obtain ⟨kept_iff, keeps⟩ := call_kept_iff reg qjson s call sound
    rw [← call_next s call t next]
    exact keeps (kept_iff.mp kept)

end Calls

-- A user's preset and one that comes with the panel.
def samplePresets : JsonValue :=
  .object
    [(kPresetsKey, .array
      [.object [(kPresetNameKey, .string "mine"), (kPresetTimeLastLoadedKey, .string "1970-01-01 00:00:00")],
        .object [(kPresetNameKey, .string "Default"), (kPresetBuiltinKey, .bool true)]])]

def sampleStart : PresetModel Nat :=
  load sampleRegistry firstSecond (created (fun _ => 0) ⟨[], []⟩) (some samplePresets) none ⟨0, by decide⟩ (fun _ => true)
    (fun _ => true)

theorem sample_presets_kept :
    Reloadable firstSecond default (savePresets sampleRegistry sampleStart true).file ∧
      Meets (callMachine sampleRegistry firstSecond sampleStart) (Kept sampleRegistry default) sampleStart
        [.createOrUpdatePreset " daily" ⟨5, by decide⟩, .serializeModule "Profiling" "7" true, .deletePreset "mine" true] := by
  refine (presets_kept_iff sampleRegistry default (fun _ => 0) ⟨[], []⟩ (some samplePresets) none ⟨0, by decide⟩
    (fun _ => true) (fun _ => true) _ (by decide)).mpr ⟨by decide, ?_⟩
  intro s _
  exact ⟨.inr ⟨by decide, by decide⟩, fun t _ => ⟨trivial, fun u _ => ⟨trivial, trivial⟩⟩⟩

-- A name with a space in front of it is stored twice, and the preset that comes with the
-- panel takes the current modules.
theorem presets_not_kept :
    (keys ModulePreset.name (parsePresetFile firstSecond ⟨0, by decide⟩ (some samplePresets)).presets).Nodup ∧
      ¬ Meets (callMachine sampleRegistry firstSecond sampleStart) (Kept sampleRegistry default) sampleStart
        [.createOrUpdatePreset " mine" ⟨5, by decide⟩] ∧
      ¬ Meets (callMachine sampleRegistry firstSecond sampleStart) (Kept sampleRegistry default) sampleStart
        [.createOrUpdatePreset "Default" ⟨5, by decide⟩] := by
  refine ⟨by decide, fun meets => ?_, fun meets => ?_⟩
  · have kept := (meets _ rfl).1
    exact absurd kept.distinct (by decide)
  · have kept := (meets _ rfl).1
    obtain ⟨q, member, stays⟩ := kept.builtIn ⟨"Default", [], true, 0⟩ (by decide) rfl
    have written : ∀ q ∈ (createOrUpdatePreset sampleRegistry sampleStart "Default" 5).presets,
        q.name = "Default" → KeyedValues.get q.modules "Profiling" ≠ none := by decide
    exact written q member stays.name (stays.modules "Profiling")

end RadeonPanel.Frontend.Presets.PresetModel
