import Mathlib.Data.List.TakeWhile
import RadeonPanel.Base.KeyedValues
import RadeonPanel.Frontend.PresetModel
import RadeonPanel.Json.RoundTrip

set_option autoImplicit false

namespace RadeonPanel.Frontend.Presets

open Keyed KeyedValues Json Userdata

-- QDateTime and the file's format of it. Times are milliseconds; those before `limit`, the first
-- year of five digits, are read back to the second.
structure DateTimeFormat where
  limit : Nat
  toString : Nat → String
  fromString : String → Option Nat
  reads : ∀ t < limit, fromString (toString t) = some (t / 1000 * 1000)
  bounded : ∀ text t, fromString text = some t → t < limit

abbrev DateTimeFormat.Time (dates : DateTimeFormat) := { t : Nat // t < dates.limit }

-- A clock that stands in its first second.
def firstSecond : DateTimeFormat where
  limit := 1000
  toString _ := "1970-01-01 00:00:00"
  fromString text := if text = "1970-01-01 00:00:00" then some 0 else none
  reads t small := by simp [Nat.div_eq_of_lt small]
  bounded text t read := by
    obtain ⟨-, same⟩ := Option.ite_none_right_eq_some.mp read
    simp [← Option.some.inj same]

instance : Inhabited DateTimeFormat := ⟨firstSecond⟩

-- What QJsonValue answers, also where there is no value or one of another type.
def toText : Option JsonValue → String
  | some (.string text) => text
  | _ => ""

def toBool : Option JsonValue → Bool
  | some (.bool value) => value
  | _ => false

def toArray : Option JsonValue → List JsonValue
  | some (.array items) => items
  | _ => []

def memberNames : Option JsonValue → List String
  | some (.object members) => keys Prod.fst members
  | _ => []

def nested (object : Option JsonValue) (key : String) : Option JsonValue := object.bind (·.member key)

def kPresetsKey : String := "presets"
def kCurrentModulesKey : String := "current"
def kPresetNameKey : String := "name"
def kPresetModulesKey : String := "modules"
def kPresetBuiltinKey : String := "builtin"
def kPresetTimeLastLoadedKey : String := "last_loaded"
def kModuleEnabledKey : String := "enabled"
def kModuleDataKey : String := "data"

def parseModule (state : Option JsonValue) : ModuleState :=
  ⟨toBool (nested state kModuleEnabledKey), toText (nested state kModuleDataKey)⟩

-- The map keeps what has been inserted under a name first.
def parseModules (modules : Option JsonValue) : List (String × ModuleState) :=
  (memberNames modules).foldl (fun parsed name => appendNew Prod.fst parsed (name, parseModule (nested modules name))) []

section Format
variable (dates : DateTimeFormat) (now : dates.Time)

def parsePreset (object : Option JsonValue) : ModulePreset where
  name := toText (nested object kPresetNameKey)
  modules := parseModules (nested object kPresetModulesKey)
  isBuiltIn := toBool (nested object kPresetBuiltinKey)
  lastLoaded := (dates.fromString (toText (nested object kPresetTimeLastLoadedKey))).getD now

structure ParsedFile where
  presets : List ModulePreset
  current : ModulePreset
  foundCurrent : Bool

-- `file` is the document, missing where the file cannot be opened or parsed.
def parsePresetFile (file : Option JsonValue) : ParsedFile :=
  match file with
  | some (.object members) =>
      let root := some (JsonValue.object members)
      { presets := (toArray (nested root kPresetsKey)).map fun object => parsePreset dates now (some object)
        current := parsePreset dates now (nested root kCurrentModulesKey)
        foundCurrent := !(memberNames (nested root kCurrentModulesKey)).isEmpty }
  | _ => ⟨[], ⟨"", [], false, now⟩, false⟩

end Format

-- Text that goes through a C string ends at its first null character.
def cString (text : String) : String := .ofList (text.toList.takeWhile (· ≠ '\x00'))

def serializeModule (state : ModuleState) : JsonValue :=
  .object [(kModuleEnabledKey, .bool state.enabled), (kModuleDataKey, .string (cString state.serializedData))]

def serializeModules (modules : List (String × ModuleState)) : JsonValue :=
  .object (modules.foldl (fun object pair => assign object (cString pair.1) (serializeModule pair.2)) [])

def serializePresetToJson (name : String) (isBuiltIn : Bool) (lastLoaded : String) (modules : List (String × ModuleState)) :
    JsonValue :=
  .object
    [(kPresetNameKey, .string name), (kPresetBuiltinKey, .bool isBuiltIn), (kPresetTimeLastLoadedKey, .string lastLoaded),
      (kPresetModulesKey, serializeModules modules)]

def serializePreset (dates : DateTimeFormat) (preset : ModulePreset) : JsonValue :=
  serializePresetToJson preset.name preset.isBuiltIn (dates.toString preset.lastLoaded) preset.modules

-- The current modules have no name, and the text of their time is empty.
def PresetFile.document (dates : DateTimeFormat) (file : PresetFile) : JsonValue :=
  .object
    [(kCurrentModulesKey, serializePresetToJson "" false "" file.current),
      (kPresetsKey, .array (file.presets.map (serializePreset dates)))]

def NullFree (text : String) : Prop := '\x00' ∉ text.toList

instance (text : String) : Decidable (NullFree text) := inferInstanceAs (Decidable (_ ∉ _))

theorem c_string_null_free (text : String) : NullFree (cString text) := by
  intro there
  rw [cString, String.toList_ofList] at there
  simpa using List.mem_takeWhile_imp there

theorem c_string_eq (text : String) : cString text = text ↔ NullFree text := by
  constructor
  · intro same
    exact same ▸ c_string_null_free text
  · intro free
    have whole : text.toList.takeWhile (· ≠ '\x00') = text.toList :=
      List.takeWhile_eq_self_iff.mpr fun c member => decide_eq_true fun null => free (null ▸ member)
    rw [cString, whole, String.ofList_toList]

theorem parse_serialized_module (state : ModuleState) :
    parseModule (some (serializeModule state)) = ⟨state.enabled, cString state.serializedData⟩ := rfl

-- Two maps with the same states for the same names.
def SameStates (a b : List (String × ModuleState)) : Prop := ∀ name, get a name = get b name

def Readable (modules : List (String × ModuleState)) : Prop :=
  ∀ pair ∈ modules, NullFree pair.1 ∧ NullFree pair.2.serializedData

instance (modules : List (String × ModuleState)) : Decidable (Readable modules) :=
  inferInstanceAs (Decidable (∀ pair ∈ modules, _))

theorem parse_modules_distinct (modules : Option JsonValue) : (keys Prod.fst (parseModules modules)).Nodup := by
  have taken := append_all_distinct Prod.fst []
    ((memberNames modules).map fun name => (name, parseModule (nested modules name))) List.nodup_nil
  rwa [List.foldl_map] at taken

theorem get_parsed_modules (members : List (String × JsonValue)) (name : String) :
    get (parseModules (some (.object members))) name = (get members name).map fun state => parseModule (some state) := by
  rw [parseModules, get_append_all]
  cases found : lookup Prod.fst members name with
  | none =>
      have absent : name ∉ memberNames (some (.object members)) := (lookup_none Prod.fst members name).mp found
      rw [if_neg absent, KeyedValues.get, KeyedValues.get, found]
      rfl
  | some member =>
      obtain ⟨listed, rfl⟩ := lookup_mem Prod.fst members name member found
      have there : member.1 ∈ memberNames (some (.object members)) := List.mem_map_of_mem listed
      have read : nested (some (.object members)) member.1 = some member.2 := by
        simp only [nested, Option.bind_some, JsonValue.member, KeyedValues.get, found, Option.map_some]
      rw [if_pos there, read, KeyedValues.get, KeyedValues.get, found]
      rfl

theorem get_serialized_modules (modules : List (String × ModuleState)) (distinct : (keys Prod.fst modules).Nodup)
    (readable : Readable modules) : SameStates (parseModules (some (serializeModules modules))) modules := by
  have names : keys (fun pair : String × ModuleState => cString pair.1) modules = keys Prod.fst modules :=
    List.map_congr_left fun pair member => (c_string_eq pair.1).mpr (readable pair member).1
  intro name
  rw [serializeModules, get_parsed_modules]
  cases found : lookup Prod.fst modules name with
  | none =>
      have absent : name ∉ keys (fun pair : String × ModuleState => cString pair.1) modules := by
        rw [names]
        exact (lookup_none Prod.fst modules name).mp found
      rw [get_unwritten _ _ _ _ _ absent, KeyedValues.get, KeyedValues.get, found]
      rfl
  | some pair =>
      obtain ⟨member, rfl⟩ := lookup_mem Prod.fst modules name pair found
      obtain ⟨nameFree, dataFree⟩ := readable pair member
      have written := get_written (fun pair : String × ModuleState => cString pair.1) (fun pair => serializeModule pair.2)
        modules [] pair (names ▸ distinct) member
      rw [(c_string_eq pair.1).mpr nameFree] at written
      rw [written, Option.map_some, parse_serialized_module, (c_string_eq _).mpr dataFree, KeyedValues.get, found]
      rfl

-- What a null character ends is read back as something else.
theorem modules_read_back_iff (modules : List (String × ModuleState)) (distinct : (keys Prod.fst modules).Nodup) :
    SameStates (parseModules (some (serializeModules modules))) modules ↔ Readable modules := by
  constructor
  · intro same pair member
    have stored : get modules pair.1 = some pair.2 := by
      rw [KeyedValues.get, lookup_of_mem Prod.fst modules pair distinct member, Option.map_some]
    rw [← same pair.1, serializeModules, get_parsed_modules] at stored
    obtain ⟨state, written, parsed⟩ := Option.map_eq_some_iff.mp stored
    obtain before | ⟨source, -, name, data⟩ := get_written_from _ _ _ _ _ _ written
    · cases before
    · rw [← data, parse_serialized_module] at parsed
      rw [← name, ← parsed]
      exact ⟨c_string_null_free source.1, c_string_null_free source.2.serializedData⟩
  · exact get_serialized_modules modules distinct

-- The same preset, with the time it was last loaded to the second.
structure SamePreset (a b : ModulePreset) : Prop where
  name : a.name = b.name
  isBuiltIn : a.isBuiltIn = b.isBuiltIn
  modules : SameStates a.modules b.modules
  lastLoaded : a.lastLoaded / 1000 = b.lastLoaded / 1000

section Reloading
variable (dates : DateTimeFormat)

-- What a preset has once it has been read or made: a map has each name once.
structure Storable (preset : ModulePreset) : Prop where
  distinct : (keys Prod.fst preset.modules).Nodup
  shown : preset.lastLoaded < dates.limit

theorem parse_preset_storable (now : dates.Time) (object : Option JsonValue) :
    Storable dates (parsePreset dates now object) := by
  refine ⟨parse_modules_distinct _, ?_⟩
  simp only [parsePreset]
  cases read : dates.fromString (toText (nested object kPresetTimeLastLoadedKey)) with
  | none => exact now.2
  | some t => exact dates.bounded _ t read

theorem preset_read_back_iff (now : dates.Time) (preset : ModulePreset) (storable : Storable dates preset) :
    SamePreset (parsePreset dates now (some (serializePreset dates preset))) preset ↔ Readable preset.modules := by
  have read : parsePreset dates now (some (serializePreset dates preset)) =
      ⟨preset.name, parseModules (some (serializeModules preset.modules)), preset.isBuiltIn,
        (dates.fromString (dates.toString preset.lastLoaded)).getD now⟩ := rfl
  rw [read, dates.reads _ storable.shown, ← modules_read_back_iff preset.modules storable.distinct]
  constructor
  · exact fun same => same.modules
  · intro same
    exact ⟨rfl, rfl, same, by simp⟩

-- QJson reads back what it has written.
variable (qjson : Library)

def Reloadable (file : PresetFile) : Prop :=
  ∀ now, List.Forall₂ SamePreset (parsePresetFile dates now (qjson.parse (qjson.write (file.document dates)))).presets
    file.presets

theorem serialize_modules_plain (modules : List (String × ModuleState)) : Plain (serializeModules modules) := by
  have each (object : List (String × JsonValue)) (plain : ∀ member ∈ object, Plain member.2) :
      ∀ member ∈ modules.foldl (fun object pair => assign object (cString pair.1) (serializeModule pair.2)) object,
        Plain member.2 := by
    induction modules generalizing object with
    | nil => exact plain
    | cons pair rest ih =>
        refine ih _ fun member listed => ?_
        obtain rfl | before := mem_assign _ _ _ _ listed
        · refine Plain.object _ ?_
          simp [Plain.bool, Plain.string]
        · exact plain member before
  exact Plain.object _ (each [] (by simp))

theorem serialize_preset_plain (name : String) (isBuiltIn : Bool) (lastLoaded : String)
    (modules : List (String × ModuleState)) : Plain (serializePresetToJson name isBuiltIn lastLoaded modules) := by
  refine Plain.object _ ?_
  simp [Plain.bool, Plain.string, serialize_modules_plain]

theorem document_plain (file : PresetFile) : Plain (file.document dates) := by
  have presets : Plain (.array (file.presets.map (serializePreset dates))) := by
    refine Plain.array _ ?_
    simp [serializePreset, serialize_preset_plain]
  refine Plain.object _ ?_
  simp [presets, serialize_preset_plain]

-- The presets of a file are read back exactly when no null character stands in a module's name or data.
theorem reloadable_iff (file : PresetFile) (storable : ∀ preset ∈ file.presets, Storable dates preset) :
    Reloadable dates qjson file ↔ ∀ preset ∈ file.presets, Readable preset.modules := by
  have read (now : dates.Time) :
      (parsePresetFile dates now (qjson.parse (qjson.write (file.document dates)))).presets =
        file.presets.map fun preset => parsePreset dates now (some (serializePreset dates preset)) := by
    rw [qjson.parse_write _ (document_plain dates file)]
    exact List.map_map
  simp only [Reloadable, read, List.forall₂_map_left_iff, List.forall₂_same]
  constructor
  · intro reloaded preset member
    have now : dates.Time := ⟨preset.lastLoaded, (storable preset member).shown⟩
    exact (preset_read_back_iff dates now preset (storable preset member)).mp (reloaded now preset member)
  · intro readable now preset member
    exact (preset_read_back_iff dates now preset (storable preset member)).mpr (readable preset member)

end Reloading

end RadeonPanel.Frontend.Presets
