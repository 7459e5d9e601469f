import RadeonPanel.Frontend.BlocklistModel

set_option autoImplicit false

namespace RadeonPanel.Frontend.BlocklistModel

open Interleaving Settings KeyedValues

theorem add_defaults_keeps (ignored list defaults : List String) (x : String) (member : x ∈ list) :
    x ∈ addDefaults ignored list defaults := by
  induction defaults generalizing list with
  | nil => exact member
  | cons name rest ih =>
      rw [addDefaults]
      apply ih
      split
      · exact List.mem_append_left _ member
      · exact member

theorem add_defaults_covers (ignored list defaults : List String) :
    ∀ d ∈ defaults, d ∈ ignored ∨ d ∈ addDefaults ignored list defaults := by
  induction defaults generalizing list with
  | nil => simp
  | cons name rest ih =>
      intro d member
      rw [addDefaults]
      obtain rfl | later := List.mem_cons.mp member
      · by_cases removed : d ∈ ignored
        · exact .inl removed
        · refine .inr (add_defaults_keeps _ _ _ _ ?_)
          by_cases listed : d ∈ list <;> simp [removed, listed]
      · exact ih _ d later

-- Nothing is added exactly when the user's list already says something of each default.
theorem add_defaults_eq (ignored list defaults : List String) :
    addDefaults ignored list defaults = list ↔ ∀ d ∈ defaults, d ∈ ignored ∨ d ∈ list := by
  constructor
  · intro same d member
    simpa only [same] using add_defaults_covers ignored list defaults d member
  · intro covered
    induction defaults with
    | nil => rfl
    | cons name rest ih =>
        obtain ⟨here, later⟩ := List.forall_mem_cons.mp covered
        have settled : ¬ (name ∉ ignored ∧ name ∉ list) := fun ⟨new, absent⟩ => here.elim new absent
        rw [addDefaults, if_neg settled]
        exact ih later

theorem add_defaults_congr (ignored others list defaults : List String) (same : ∀ x, x ∈ ignored ↔ x ∈ others) :
    addDefaults ignored list defaults = addDefaults others list defaults := by
  induction defaults generalizing list with
  | nil => rfl
  | cons name rest ih => simp only [addDefaults, same, ih]

theorem platform_path_length (group other : String) (p q : Platform) :
    (platformPath group p).length = (platformPath other q).length := rfl

theorem platform_path_apart (group : String) (p q : Platform) (apart : p ≠ q) :
    platformPath group p ≠ platformPath group q := by
  cases p <;> cases q <;> simp_all [platformPath, applicationsPath, groupNameFromPlatform]

theorem group_path_apart (group other : String) (p q : Platform) (apart : group ≠ other) :
    platformPath group p ≠ platformPath other q := by
  simp [platformPath, apart]

theorem read_written_lists (group : String) (lists : Platform → List String) (s : Store) (p : Platform)
    (member : p ∈ platforms) : readArray (writeLists group lists s) (platformPath group p) = lists p := by
  simp only [platforms, List.mem_cons, List.not_mem_nil, or_false] at member
  obtain rfl | rfl := member
  · rw [writeLists, platforms, List.foldl_cons, List.foldl_cons, List.foldl_nil,
      read_elsewhere _ _ _ _ (platform_path_length _ _ _ _) (platform_path_apart _ _ _ (by simp)), read_written]
  · rw [writeLists, platforms, List.foldl_cons, List.foldl_cons, List.foldl_nil, read_written]

theorem read_other_group (group other : String) (lists : Platform → List String) (s : Store) (p : Platform)
    (apart : group ≠ other) :
    readArray (writeLists group lists s) (platformPath other p) = readArray s (platformPath other p) := by
  have each (s : Store) (q : Platform) : readArray (writeArray s (platformPath group q) (lists q)) (platformPath other p) =
      readArray s (platformPath other p) :=
    read_elsewhere _ _ _ _ (platform_path_length _ _ _ _) (group_path_apart _ _ _ _ apart)
  simp only [writeLists, platforms, List.foldl_cons, List.foldl_nil, each]

theorem version_apart (group : String) (p : Platform) : ¬ platformPath group p <+: versionPath := by
  simp [platformPath, applicationsPath, versionPath]

theorem written_version (group : String) (lists : Platform → List String) (s : Store) :
    get (writeLists group lists s) versionPath = get s versionPath := by
  simp only [writeLists, platforms, List.foldl_cons, List.foldl_nil, get_elsewhere _ _ _ _ (version_apart _ _)]

theorem written_groups (group : String) (lists : Platform → List String) (s : Store) (g : Segment) :
    g ∈ childGroups (writeLists group lists s) ↔ g = .group group ∨ g ∈ childGroups s := by
  have each (s : Store) (p : Platform) : g ∈ childGroups (writeArray s (platformPath group p) (lists p)) ↔
      g = .group group ∨ g ∈ childGroups s :=
    child_group_written s (platformPath group p) (lists p) (.group group) g (applicationsPath p) rfl
  simp only [writeLists, platforms, List.foldl_cons, List.foldl_nil, each, or_self_left]

theorem groups_with_version (s : Store) (v : Variant) (g : Segment) :
    g ∈ childGroups (assign s versionPath v) ↔ g ∈ childGroups s := by
  simp [child_group_assigned, versionPath]

theorem read_with_version (s : Store) (v : Variant) (group : String) (p : Platform) :
    readArray (assign s versionPath v) (platformPath group p) = readArray s (platformPath group p) :=
  read_assigned s (platformPath group p) versionPath v (version_apart group p)

-- What a settings file in the current format says.
structure Describes (s : Store) (lists removed : Platform → List String) : Prop where
  version : 1 < (value s versionPath (.number 1)).toInt
  group : .group kBlocklistGroup ∈ childGroups s
  listed : ∀ p ∈ platforms, readArray s (platformPath kBlocklistGroup p) = lists p
  ignored : ∀ p ∈ platforms, ∀ x, x ∈ loadRemovedDefaults (childGroups s) s p ↔ x ∈ removed p

theorem load_described (env : Surroundings) (s : Store) (lists removed : Platform → List String) (described : Describes s lists removed)
    (p : Platform) (member : p ∈ platforms) :
    (load env (constructed s)).blocklists p = addDefaults (removed p) (lists p) (env.defaults p) := by
  have current : ¬ ((value s versionPath (.number 1)).toInt ≤ 1 ∧ .group kBlocklistGroup ∈ childGroups s) :=
    fun old => absurd described.version (Int.not_lt.mpr old.1)
  have loaded : loadBlocklists s = (readLists kBlocklistGroup s, s) := by
    rw [loadBlocklists, if_neg current, if_pos described.group]
  have lists : readLists kBlocklistGroup s p = lists p := by rw [readLists, if_pos member, described.listed p member]
  simp only [load, constructed, loaded, if_pos member, lists]
  exact add_defaults_congr _ _ _ _ (described.ignored p member)

theorem save_describes (env : Surroundings) (m : BlocklistModel) :
    Describes (save env m).settings m.blocklists m.removedDefaultBlocklist where
  version := by simp [save, value, written_version, get_assign, Variant.toInt]
  group := by simp [save, written_groups]
  listed := by
    intro p member
    rw [save, read_other_group _ _ _ _ _ (by decide), read_written_lists _ _ _ _ member]
  ignored := by
    intro p member x
    have known : .group kRemovedDefaultsGroup ∈ childGroups (save env m).settings := by simp [save, written_groups]
    rw [loadRemovedDefaults, if_pos known, List.mem_dedup, readLists, if_pos member, save,
      read_written_lists _ _ _ _ member, (env.walk_perm _).mem_iff]

theorem restarted_save (env : Surroundings) (m : BlocklistModel) (p : Platform) (member : p ∈ platforms) :
    (restarted env (save env m)).blocklists p =
      addDefaults (m.removedDefaultBlocklist p) (m.blocklists p) (env.defaults p) :=
  load_described env _ _ _ (save_describes env m) p member

theorem loaded_removed (env : Surroundings) (m : BlocklistModel) (p : Platform) (member : p ∈ platforms) :
    (load env m).removedDefaultBlocklist p =
      loadRemovedDefaults (childGroups m.settings) (loadBlocklists m.settings).2 p := by
  simp only [load, if_pos member]

theorem loaded_blocklists (env : Surroundings) (m : BlocklistModel) (p : Platform) (member : p ∈ platforms) :
    (load env m).blocklists p =
      addDefaults (loadRemovedDefaults (childGroups m.settings) (loadBlocklists m.settings).2 p)
        ((loadBlocklists m.settings).1 p) (env.defaults p) := by
  simp only [load, if_pos member]

-- A file in the old format is rewritten by its first load to one that says the same.
theorem migrated_describes (s : Store) (old : (value s versionPath (.number 1)).toInt ≤ 1 ∧ .group kBlocklistGroup ∈ childGroups s) :
    Describes (loadBlocklists s).2 (loadBlocklists s).1
      (fun p => loadRemovedDefaults (childGroups s) (loadBlocklists s).2 p) := by
  have loaded : loadBlocklists s = (legacyLists s,
      assign (writeLists kBlocklistGroup (legacyLists s) s) versionPath (.text "2")) := by
    rw [loadBlocklists, if_pos old]
  rw [loaded]
  refine ⟨?_, ?_, ?_, ?_⟩
  · simp only [value, get_assign, if_pos, Option.getD_some]
    decide
  · simp [groups_with_version, written_groups]
  · intro p member
    rw [read_with_version, read_written_lists _ _ _ _ member]
  · intro p member x
    have apart : Segment.group kRemovedDefaultsGroup ≠ .group kBlocklistGroup := by decide
    simp only [loadRemovedDefaults, groups_with_version, written_groups, apart, false_or]

theorem load_survives (env : Surroundings) (m : BlocklistModel) : Survives env (load env m) := by
  intro p member
  rw [restarted, loaded_blocklists env m p member]
  have settings : (load env m).settings = (loadBlocklists m.settings).2 := rfl
  rw [settings]
  by_cases old : (value m.settings versionPath (.number 1)).toInt ≤ 1 ∧ .group kBlocklistGroup ∈ childGroups m.settings
  · exact load_described env _ _ _ (migrated_describes m.settings old) p member
  · have kept : (loadBlocklists m.settings).2 = m.settings := by
      rw [loadBlocklists, if_neg old]
      split <;> rfl
    rw [kept, loaded_blocklists env (constructed m.settings) p member]
    simp only [constructed, kept]

-- Every default is in its list unless the user has taken it out.
def Covered (env : Surroundings) (m : BlocklistModel) : Prop :=
  ∀ p ∈ platforms, ∀ d ∈ env.defaults p, d ∈ m.removedDefaultBlocklist p ∨ d ∈ m.blocklists p

theorem load_covered (env : Surroundings) (m : BlocklistModel) : Covered env (load env m) := by
  intro p member
  rw [loaded_blocklists env m p member, loaded_removed env m p member]
  exact add_defaults_covers _ _ _

theorem save_survives (env : Surroundings) (m : BlocklistModel) : Survives env (save env m) ↔ Covered env m := by
  refine forall₂_congr fun p member => ?_
  rw [restarted_save env m p member]
  exact add_defaults_eq _ _ _

structure Kept (env : Surroundings) (m : BlocklistModel) : Prop where
  defaults : ∀ p ∈ platforms, m.defaultBlocklist p = env.defaults p
  nowhere : m.blocklists .unknown = [] ∧ m.defaultBlocklist .unknown = []
  covered : Covered env m
  survives : Survives env m

theorem load_kept (env : Surroundings) (m : BlocklistModel) (nowhere : m.defaultBlocklist .unknown = []) :
    Kept env (load env m) where
  defaults := fun p member => by simp only [load, if_pos member]
  nowhere := by simp [load, platforms, nowhere]
  covered := load_covered env m
  survives := load_survives env m

theorem save_kept (env : Surroundings) (m : BlocklistModel)
    (defaults : ∀ p ∈ platforms, m.defaultBlocklist p = env.defaults p)
    (nowhere : m.blocklists .unknown = [] ∧ m.defaultBlocklist .unknown = []) (covered : Covered env m) :
    Kept env (save env m) :=
  ⟨defaults, nowhere, covered, (save_survives env m).mpr covered⟩

theorem system_info_loads (env : Surroundings) (m : BlocklistModel) (osName osDescription : String) :
    ∃ p, onSystemInfoModelLoaded env m osName osDescription = load env { m with platform := p } := by
  rw [onSystemInfoModelLoaded]
  split
  · exact ⟨_, rfl⟩
  · split
    · exact ⟨_, rfl⟩
    · exact ⟨m.platform, rfl⟩

-- On the platform that is connected the defaults come back, on the others only
-- what says that they had been removed is dropped.
theorem restore_defaults_eq (env : Surroundings) (m : BlocklistModel) :
    restoreDefaults env m = save env
      { m with
        blocklists := Function.update m.blocklists m.platform (m.defaultBlocklist m.platform)
        removedDefaultBlocklist := Function.update (Function.update m.removedDefaultBlocklist .windows []) .linux [] } := by
  simp [restoreDefaults, platforms, setList]

theorem update_unknown (m : BlocklistModel) (list : List String) (nowhere : m.blocklists .unknown = [])
    (unknown : m.platform = .unknown → list = []) : Function.update m.blocklists m.platform list .unknown = [] := by
  by_cases here : m.platform = .unknown
  · simp [here, unknown here]
  · rw [Function.update_of_ne (Ne.symm here), nowhere]

theorem add_application_kept (env : Surroundings) (m : BlocklistModel) (name : String) (kept : Kept env m) :
    Kept env (addApplication env m name) := by
  rw [addApplication]
  by_cases unknown : m.platform = .unknown
  · rwa [if_pos unknown]
  rw [if_neg unknown]
  split
  · exact kept
  split
  · exact kept
  refine save_kept env _ kept.defaults ⟨update_unknown m _ kept.nowhere.1 (absurd · unknown), kept.nowhere.2⟩ ?_
  intro p member d isDefault
  refine (kept.covered p member d isDefault).imp id fun listed => ?_
  by_cases here : p = m.platform
  · subst here
    simp [setList, listed]
  · simpa [setList, Function.update_of_ne here] using listed

theorem remove_at_step (m : BlocklistModel) (row : Nat) (name : String)
    (found : (m.blocklists m.platform)[row]? = some name) (p : Platform) (d : String)
    (covered : d ∈ m.removedDefaultBlocklist p ∨ d ∈ m.blocklists p) (isDefault : d ∈ m.defaultBlocklist p) :
    d ∈ Function.update m.removedDefaultBlocklist m.platform
        (if name ∈ m.defaultBlocklist m.platform then (m.removedDefaultBlocklist m.platform).insert name
          else m.removedDefaultBlocklist m.platform) p ∨
      d ∈ Function.update m.blocklists m.platform ((m.blocklists m.platform).eraseIdx row) p := by
  by_cases here : p = m.platform
  · subst here
    simp only [Function.update_self]
    obtain before | listed := covered
    · left
      split
      · exact List.mem_insert_of_mem before
      · exact before
    · by_cases erased : d = name
      · left
        rw [erased] at isDefault ⊢
        rw [if_pos isDefault]
        exact List.mem_insert_self
      · right
        obtain ⟨i, inside, rfl⟩ := List.mem_iff_getElem.mp listed
        refine List.mem_eraseIdx_iff_getElem?.mpr ⟨i, ?_, List.getElem?_eq_getElem inside⟩
        intro same
        subst same
        exact erased (Option.some.inj ((List.getElem?_eq_getElem inside).symm.trans found))
  · simpa only [Function.update_of_ne here] using covered

theorem remove_at_kept (m t : BlocklistModel) (row count : Nat) (removed : removeAt m row count = some t)
    (nowhere : m.blocklists .unknown = []) :
    t.defaultBlocklist = m.defaultBlocklist ∧ t.platform = m.platform ∧ t.blocklists .unknown = [] ∧
      ∀ p d, d ∈ m.defaultBlocklist p → d ∈ m.removedDefaultBlocklist p ∨ d ∈ m.blocklists p →
        d ∈ t.removedDefaultBlocklist p ∨ d ∈ t.blocklists p := by
  induction count generalizing m with
  | zero =>
      cases removed
      exact ⟨rfl, rfl, nowhere, fun _ _ _ covered => covered⟩
  | succ count ih =>
      rw [removeAt] at removed
      cases found : (m.blocklists m.platform)[row]? with
      | none => simp [found] at removed
      | some name =>
          simp only [found] at removed
          have empty := update_unknown m ((m.blocklists m.platform).eraseIdx row) nowhere
            fun unknown => by simp [unknown, nowhere]
          obtain ⟨defaults, platform, after, covers⟩ := ih _ removed empty
          refine ⟨defaults, platform, after, fun p d isDefault covered => covers p d isDefault ?_⟩
          exact remove_at_step m row name found p d covered isDefault

theorem remove_rows_kept (env : Surroundings) (m t : BlocklistModel) (row count : Int) (result : Bool)
    (removed : removeRows env m row count = some (t, result)) (kept : Kept env m) : Kept env t := by
  rw [removeRows] at removed
  split at removed
  · obtain ⟨after, taken, same⟩ := Option.map_eq_some_iff.mp removed
    obtain rfl : save env after = t := congrArg Prod.fst same
    obtain ⟨defaults, _, nowhere, covers⟩ := remove_at_kept m after row.toNat count.toNat taken kept.nowhere.1
    refine save_kept env after (defaults ▸ kept.defaults) ⟨nowhere, defaults ▸ kept.nowhere.2⟩ ?_
    intro p member d isDefault
    exact covers p d (kept.defaults p member ▸ isDefault) (kept.covered p member d isDefault)
  · cases removed
    exact kept

-- The user does not overwrite the last mention of a default, and restores the
-- defaults only where the other platforms have them anyway.
def losesNoDefault (env : Surroundings) (m : BlocklistModel) : Operation → Prop
  | .setData row text editRole =>
      editRole = true → trimmed text ≠ "" → contains env m (trimmed text) = false →
        ∀ d ∈ env.defaults m.platform, d ∈ m.blocklists m.platform →
          d ∈ m.removedDefaultBlocklist m.platform ∨ d ∈ (m.blocklists m.platform).set row.toNat (trimmed text)
  | .restoreDefaults => ∀ p ∈ platforms, p ≠ m.platform → m.blocklists p = env.defaults p
  | _ => True

def keepsLists (env : Surroundings) (m : BlocklistModel) (op : Operation) : Prop :=
  ∀ t, step env m op = some t → Survives env t ∧ (op = .restoreDefaults → Restored env t)

theorem restore_defaults_restored (env : Surroundings) (m : BlocklistModel) (kept : Kept env m) :
    Restored env (restoreDefaults env m) ↔ losesNoDefault env m .restoreDefaults := by
  refine forall₂_congr fun p member => ?_
  rw [restore_defaults_eq]
  by_cases here : p = m.platform
  · subst here
    simp [save, kept.defaults _ member]
  · simp [save, here]

theorem restore_defaults_kept (env : Surroundings) (m : BlocklistModel) (kept : Kept env m)
    (restored : Restored env (restoreDefaults env m)) : Kept env (restoreDefaults env m) := by
  rw [restore_defaults_eq] at restored ⊢
  have unknown : m.platform = .unknown → m.defaultBlocklist m.platform = [] := fun here => here ▸ kept.nowhere.2
  refine save_kept env _ kept.defaults ⟨update_unknown m _ kept.nowhere.1 unknown, kept.nowhere.2⟩ ?_
  intro p member d isDefault
  exact .inr ((restored p member).symm ▸ isDefault)

theorem set_data_outcomes (env : Surroundings) (m t : BlocklistModel) (row : Int) (text : String) (editRole : Bool)
    (result : Bool) (set : setData env m row text editRole = some (t, result)) :
    (t = m ∧ (editRole = false ∨ trimmed text = "" ∨ contains env m (trimmed text) = true)) ∨
      (editRole = true ∧ trimmed text ≠ "" ∧ contains env m (trimmed text) = false ∧ m.blocklists m.platform ≠ [] ∧
        t = save env (setList m m.platform ((m.blocklists m.platform).set row.toNat (trimmed text)))) := by
  rw [setData] at set
  split at set
  · next noEdit => cases set; exact .inl ⟨rfl, .inl noEdit⟩
  split at set
  · next blank => cases set; exact .inl ⟨rfl, .inr (.inl blank)⟩
  split at set
  · next known => cases set; exact .inl ⟨rfl, .inr (.inr known)⟩
  split at set
  · cases set
  · next edit named new inside =>
      cases set
      have some : m.blocklists m.platform ≠ [] := fun empty => inside (.inr (by simp [empty]))
      exact .inr ⟨by simpa using edit, named, by simpa using new, some, rfl⟩

theorem set_data_covered (env : Surroundings) (m : BlocklistModel) (row : Nat) (name : String) (kept : Kept env m)
    (connected : m.platform ∈ platforms) :
    Covered env (setList m m.platform ((m.blocklists m.platform).set row name)) ↔
      ∀ d ∈ env.defaults m.platform, d ∈ m.blocklists m.platform →
        d ∈ m.removedDefaultBlocklist m.platform ∨ d ∈ (m.blocklists m.platform).set row name := by
  constructor
  · intro covered d isDefault _
    simpa [setList] using covered m.platform connected d isDefault
  · intro still p member d isDefault
    by_cases here : p = m.platform
    · subst here
      obtain before | listed := kept.covered _ member d isDefault
      · exact .inl before
      · simpa [setList] using still d isDefault listed
    · simpa [setList, Function.update_of_ne here] using kept.covered p member d isDefault

theorem set_data_kept (env : Surroundings) (m t : BlocklistModel) (row : Int) (text : String) (editRole : Bool)
    (kept : Kept env m) (next : step env m (.setData row text editRole) = some t) :
    (losesNoDefault env m (.setData row text editRole) ↔ Survives env t) ∧ (Survives env t → Kept env t) := by
  obtain ⟨⟨after, result⟩, set, rfl⟩ := Option.map_eq_some_iff.mp next
  obtain ⟨rfl, refused⟩ | ⟨edit, named, new, nonempty, rfl⟩ := set_data_outcomes env m after row text editRole result set
  · refine ⟨⟨fun _ => kept.survives, fun _ edit named new => ?_⟩, fun _ => kept⟩
    obtain noEdit | blank | known := refused
    · exact absurd edit (noEdit ▸ Bool.false_ne_true)
    · exact absurd blank named
    · exact absurd known (new ▸ Bool.false_ne_true)
  · have known : m.platform ≠ .unknown := fun unknown => nonempty (unknown ▸ kept.nowhere.1)
    have connected : m.platform ∈ platforms := by cases here : m.platform <;> simp_all [platforms]
    have nowhere := update_unknown m ((m.blocklists m.platform).set row.toNat (trimmed text)) kept.nowhere.1
      (absurd · known)
    have covers := set_data_covered env m row.toNat (trimmed text) kept connected
    rw [save_survives]
    refine ⟨⟨fun still => covers.mpr (still edit named new), fun covered _ _ _ => covers.mp covered⟩, ?_⟩
    exact save_kept env _ kept.defaults ⟨nowhere, kept.nowhere.2⟩

-- What each operation comes to: it keeps the lists for the next start, and
-- restores them when it is to restore, exactly if it loses no default.
theorem step_kept (env : Surroundings) (m t : BlocklistModel) (op : Operation) (kept : Kept env m)
    (next : step env m op = some t) :
    (losesNoDefault env m op ↔ Survives env t ∧ (op = .restoreDefaults → Restored env t)) ∧
      (losesNoDefault env m op → Kept env t) := by
  have quiet (after : Kept env t) (other : op ≠ .restoreDefaults) (free : losesNoDefault env m op) :
      (losesNoDefault env m op ↔ Survives env t ∧ (op = .restoreDefaults → Restored env t)) ∧
        (losesNoDefault env m op → Kept env t) :=
    ⟨⟨fun _ => ⟨after.survives, (absurd · other)⟩, fun _ => free⟩, fun _ => after⟩
  cases op with
  | restoreDefaults =>
      cases next
      rw [← restore_defaults_restored env m kept]
      have after := restore_defaults_kept env m kept
      exact ⟨⟨fun restored => ⟨(after restored).survives, fun _ => restored⟩, fun both => both.2 rfl⟩, after⟩
  | setData row text editRole =>
      obtain ⟨exact, after⟩ := set_data_kept env m t row text editRole kept next
      rw [exact]
      simpa using after
  | addApplication name =>
      cases next
      exact quiet (add_application_kept env m name kept) (by simp) trivial
  | removeRows row count =>
      obtain ⟨⟨after, result⟩, removed, rfl⟩ := Option.map_eq_some_iff.mp next
      exact quiet (remove_rows_kept env m after row count result removed kept) (by simp) trivial
  | onSystemInfoModelLoaded osName osDescription =>
      cases next
      obtain ⟨p, loads⟩ := system_info_loads env m osName osDescription
      exact quiet (loads ▸ load_kept env { m with platform := p } kept.nowhere.2) (by simp) trivial
  | netDisconnecting =>
      cases next
      exact quiet (load_kept env { m with platform := .unknown } kept.nowhere.2) (by simp) trivial

-- The lists are there again after a restart, in every state of a run, exactly if
-- no operation on the way loses a default.
theorem blocklist_survives_restart (env : Surroundings) (settings : Store) (operations : List Operation) :
    Survives env (machine env settings).init ∧
      (Meets (machine env settings) (losesNoDefault env) (machine env settings).init operations ↔
        Meets (machine env settings) (keepsLists env) (machine env settings).init operations) := by
  have start : Kept env (machine env settings).init := load_kept env (constructed settings) rfl
  refine ⟨start.survives, meets_iff _ _ _ (Kept env) ?_ ?_ _ start operations⟩
  · intro m op t kept next
    rw [(step_kept env m t op kept next).1]
    constructor
    · intro after u other
      exact Option.some.inj (next.symm.trans other) ▸ after
    · intro keeps
      exact keeps t next
  · intro m op t kept allowed next
    exact (step_kept env m t op kept next).2 allowed

instance (env : Surroundings) (m : BlocklistModel) : Decidable (Survives env m) :=
  inferInstanceAs (Decidable (∀ p ∈ platforms, _ = _))

instance (env : Surroundings) (m : BlocklistModel) : Decidable (Restored env m) :=
  inferInstanceAs (Decidable (∀ p ∈ platforms, _ = _))

-- Items without wildcards, and two names of the default list.
def sampleSurroundings : Surroundings where
  defaultSettings :=
    writeArray (writeArray [] (applicationsPath .windows) ["dwm.exe"]) (applicationsPath .linux) ["steam"]
  fromWildcard := fun item => some fun name => item = name
  walk := id
  walk_perm := fun _ => .rfl

theorem blocklist_forgets :
    ((exec (machine sampleSurroundings []) (machine sampleSurroundings []).init
        [.onSystemInfoModelLoaded "Windows" "", .setData 0 "game.exe" true]).any
      fun m => m.blocklists .windows = ["game.exe"] ∧
        (restarted sampleSurroundings m).blocklists .windows = ["game.exe", "dwm.exe"]) = true ∧
    ((exec (machine sampleSurroundings []) (machine sampleSurroundings []).init
        [.onSystemInfoModelLoaded "Linux" "", .removeRows 0 1, .onSystemInfoModelLoaded "Windows" "",
          .restoreDefaults]).any
      fun m => m.blocklists .linux = [] ∧ (restarted sampleSurroundings m).blocklists .linux = ["steam"] ∧
        ¬ Restored sampleSurroundings m) = true := by
  decide

end RadeonPanel.Frontend.BlocklistModel
