import Mathlib.Data.List.Forall2
import RadeonPanel.Userdata.RoundTrip

set_option autoImplicit false

namespace RadeonPanel.Userdata

section Filled
variable {V : Type}

-- The value that the document gives where it gives one, else the default.
def Filled (represents : JsonValue → V → Prop) (default : V) (json : Option JsonValue) (value : V) : Prop :=
  (∃ j, json = some j ∧ represents j value) ∨ ((∀ j, json = some j → ∀ other, ¬represents j other) ∧ value = default)

-- A number stands for the value of a type that is this number, for no other.
def Stands [Scalar V] (json : JsonValue) (value : V) : Prop := json = Scalar.setValue value

def FilledAt [Scalar V] (json : JsonValue) (key : String) (default value : V) : Prop :=
  Filled Stands default (json.member key) value

-- An item that fits is read as what it stands for, no other is.
theorem filled_iff (represents : JsonValue → V → Prop) (read : JsonValue → Option V)
    (reads : ∀ j value, represents j value → read j = some value) (default : V) (json : Option JsonValue) :
    Filled represents default json ((json.bind read).getD default) ↔
      ∀ j, json = some j → ∀ value, read j = some value →
        represents j value ∨ (∀ other, ¬represents j other) ∧ value = default := by
  cases json with
  | none => simp [Filled]
  | some j =>
      cases readable : read j with
      | none =>
          have unfit (value : V) : ¬represents j value := by
            intro fits
            rw [reads j value fits] at readable
            contradiction
          simp [Filled, readable, unfit]
      | some value => simp [Filled, readable]

end Filled

theorem uint_some (j : JsonValue) (n : Nat) (read : j.uint = some n) : j = .number n ∧ n < 2 ^ 32 := by
  cases j with
  | number value =>
      by_cases inside : 0 ≤ value ∧ value.toNat < 2 ^ 32
      · rw [JsonValue.uint, if_pos inside, Option.some.injEq] at read
        subst read
        exact ⟨by rw [Int.toNat_of_nonneg inside.1], inside.2⟩
      · rw [JsonValue.uint, if_neg inside] at read
        contradiction
  | null | bool | real | string | array | object => cases read

theorem int_some (j : JsonValue) (n : Int) (read : j.int = some n) : j = .number n ∧ -2 ^ 31 ≤ n ∧ n < 2 ^ 31 := by
  cases j with
  | number value =>
      by_cases inside : -2 ^ 31 ≤ value ∧ value < 2 ^ 31
      · rw [JsonValue.int, if_pos inside, Option.some.injEq] at read
        subst read
        exact ⟨rfl, inside⟩
      · rw [JsonValue.int, if_neg inside] at read
        contradiction
  | null | bool | real | string | array | object => cases read

-- The types for which GetValue reads nothing but their own values.
class Exact (V : Type) [Scalar V] : Prop where
  exact : ∀ (j : JsonValue) (value : V), Scalar.getValue j = some value → Stands j value

instance : Exact Bool where
  exact j value read := by cases j <;> simp_all [Scalar.getValue, Stands, Scalar.setValue]

instance : Exact String where
  exact j value read := by cases j <;> simp_all [Scalar.getValue, Stands, Scalar.setValue]

instance : Exact UInt32 where
  exact j value read := by
    obtain ⟨n, found, rfl⟩ := Option.map_eq_some_iff.mp read
    obtain ⟨rfl, small⟩ := uint_some j n found
    simp only [Stands, Scalar.setValue, UInt32.toNat_ofNat_of_lt' small]

instance : Exact Int32 where
  exact j value read := by
    obtain ⟨n, found, rfl⟩ := Option.map_eq_some_iff.mp read
    obtain ⟨rfl, low, high⟩ := int_some j n found
    simp only [Stands, Scalar.setValue, Int32.toInt_ofInt_of_le low high]

section Scalars
variable {V : Type} [Scalar V]

theorem stands_read (j : JsonValue) (value : V) (stands : Stands j value) : Scalar.getValue j = some value := by
  rw [stands, Scalar.get_set]

theorem filled_exact [Exact V] (json : JsonValue) (key : String) (default : V) :
    FilledAt json key default (readScalar default (json.member key)) := by
  apply (filled_iff Stands Scalar.getValue stands_read default _).mpr
  intro j _ value read
  exact .inl (Exact.exact j value read)

end Scalars

-- A byte is cut out of a number that needs more.
theorem filled_byte (json : JsonValue) (key : String) (default : UInt8) :
    FilledAt json key default (readScalar default (json.member key)) ↔
      ∀ n : Nat, json.member key = some (.number n) → 2 ^ 8 ≤ n → n < 2 ^ 32 → n % 2 ^ 8 = default.toNat := by
  refine (filled_iff Stands Scalar.getValue stands_read default _).trans ⟨?_, ?_⟩
  · intro filled n found large small
    have read : Scalar.getValue (.number n) = some (UInt8.ofNat n) := by simp [Scalar.getValue, uint_number n small]
    rcases filled _ found _ read with stands | ⟨_, cut⟩
    · have bound := (UInt8.ofNat n).toNat_lt
      simp only [Stands, Scalar.setValue, JsonValue.number.injEq] at stands
      omega
    · rw [← cut, UInt8.toNat_ofNat']
  · intro cut j found value read
    obtain ⟨n, number, rfl⟩ := Option.map_eq_some_iff.mp read
    obtain ⟨rfl, small⟩ := uint_some j n number
    by_cases large : 2 ^ 8 ≤ n
    · refine .inr ⟨?_, UInt8.toNat_inj.mp ?_⟩
      · intro other stands
        have bound := other.toNat_lt
        simp only [Stands, Scalar.setValue, JsonValue.number.injEq] at stands
        omega
      · rw [UInt8.toNat_ofNat', cut n found large small]
    · refine .inl ?_
      simp only [Stands, Scalar.setValue, UInt8.toNat_ofNat_of_lt' (Nat.lt_of_not_le large)]

section Listed
variable {V C : Type}

-- An array each of whose items stands for a value.
def Listed (represents : JsonValue → V → Prop) (collect : List V → C) (j : JsonValue) (value : C) : Prop :=
  ∃ items values, j = .array items ∧ List.Forall₂ represents items values ∧ value = collect values

variable (empty : C) (append : C → V → C) (blank : V) (mapItem : Mapping V) (readItem : JsonValue → Option V)
    (reads : ∀ j value, readItem j = some value → mapItem blank ⟨false, some j⟩ = ((true, value), ⟨false, some j⟩))
    (fails : ∀ j, readItem j = none → (mapItem blank ⟨false, some j⟩).1.1 = false)

include reads fails

theorem elements_iff (j : JsonValue) (value : C) :
    readElements empty append blank mapItem j = some value ↔
      Listed (fun j value => readItem j = some value) (fun values => values.foldl append empty) j value := by
  constructor
  · intro read
    cases j with
    | array items =>
        obtain ⟨values, each, rfl⟩ := (items_iff append blank mapItem readItem reads fails items empty value).mp read
        exact ⟨items, values, rfl, each, rfl⟩
    | null | bool | number | real | string | object => cases read
  · rintro ⟨items, values, rfl, each, rfl⟩
    exact (items_iff append blank mapItem readItem reads fails items empty _).mpr ⟨values, each, rfl⟩

theorem listed_read (represents : JsonValue → V → Prop) (read : ∀ j value, represents j value → readItem j = some value)
    (j : JsonValue) (value : C) (listed : Listed represents (fun values => values.foldl append empty) j value) :
    readElements empty append blank mapItem j = some value := by
  obtain ⟨items, values, rfl, each, rfl⟩ := listed
  have readable := each.imp (fun j value fits => read j value fits)
  exact (elements_iff empty append blank mapItem readItem reads fails _ _).mpr ⟨items, values, rfl, readable, rfl⟩

end Listed

section Paths

theorem path_read (j : JsonValue) (path : String) (read : Scalar.getValue j = some path) :
    mapScalar none "" ⟨false, some j⟩ = ((true, path), ⟨false, some j⟩) := by simp [mapScalar, read]

theorem path_missed (j : JsonValue) (missed : Scalar.getValue (V := String) j = none) :
    (mapScalar none "" ⟨false, some j⟩).1.1 = false := by simp [mapScalar, missed, unread]

def appended (paths : List String) : List String := paths.foldl (fun paths path => paths ++ [path]) []

theorem appended_paths (paths : List String) : appended paths = paths := by
  simp [appended, ← List.flatMap_def]

theorem filled_paths (json : JsonValue) (key : String) :
    Filled (Listed Stands id) [] (json.member key)
      (readArr [] (fun paths path => paths ++ [path]) "" (mapScalar none) [] (json.member key)) := by
  have collects : (id : List String → List String) = fun paths => paths.foldl (fun paths path => paths ++ [path]) [] :=
    funext fun paths => (appended_paths paths).symm
  rw [collects]
  apply (filled_iff _ _ (listed_read [] _ "" (mapScalar none) _ path_read path_missed Stands stands_read) [] _).mpr
  intro j _ value read
  obtain ⟨items, values, rfl, each, rfl⟩ := (elements_iff [] _ "" (mapScalar none) _ path_read path_missed j value).mp read
  exact .inl ⟨items, values, rfl, each.imp (fun j path found => Exact.exact j path found), rfl⟩

end Paths

section Modes

def ModeStands (j : JsonValue) (mode : DefaultCaptureMode) : Prop :=
  j.member "app_name" = some (Scalar.setValue mode.application) ∧ j.member "api" = some (Scalar.setValue mode.api) ∧
    j.member "default_mode" = some (Scalar.setValue mode.captureMode)

-- What GetValue takes of an item, the API being read as 32 bits.
def ModeReadable (j : JsonValue) : Prop :=
  ∃ (application : String) (api captureMode : Nat), j.member "app_name" = some (.string application) ∧
    j.member "api" = some (.number api) ∧ api < 2 ^ 32 ∧ j.member "default_mode" = some (.number captureMode) ∧
    captureMode < 2 ^ 32

def readMode (j : JsonValue) : Option DefaultCaptureMode :=
  match (j.member "app_name").bind Scalar.getValue, (j.member "api").bind Scalar.getValue,
    (j.member "default_mode").bind Scalar.getValue with
  | some application, some api, some captureMode => some ⟨application, api, captureMode⟩
  | _, _, _ => none

theorem property_key {T V : Type} (key : String) (get : T → V) (set : T → V → T) (map : Mapping V) :
    (property key get set map).key = key := rfl

theorem required_read {T V : Type} [Scalar V] (key : String) (get : T → V) (set : T → V → T) (data : T)
    (json : Option JsonValue) :
    (property key get set (mapScalar none)).map data ⟨false, json⟩ =
      match json.bind Scalar.getValue with
      | some value => ((true, set data value), ⟨false, json⟩)
      | none => ((false, set data (get data)), ⟨false, json⟩) := by
  cases json with
  | none => rfl
  | some j => cases read : Scalar.getValue (V := V) j <;> simp [property, mapScalar, unread, read]

theorem mode_read_cases (j : JsonValue) :
    (∃ mode, readMode j = some mode ∧ mapDefaultCaptureMode .blank ⟨false, some j⟩ = ((true, mode), ⟨false, some j⟩)) ∨
      readMode j = none ∧ (mapDefaultCaptureMode .blank ⟨false, some j⟩).1.1 = false := by
  cases application : (j.member "app_name").bind (Scalar.getValue (V := String)) <;>
    cases api : (j.member "api").bind (Scalar.getValue (V := Api)) <;>
    cases captureMode : (j.member "default_mode").bind (Scalar.getValue (V := UInt32)) <;>
    simp [mapDefaultCaptureMode, defaultCaptureModeMaps, mapAll, JsonMapper.index, required_read, property_key, readMode,
      application, api, captureMode]

theorem mode_found (j : JsonValue) (mode : DefaultCaptureMode) (read : readMode j = some mode) :
    mapDefaultCaptureMode .blank ⟨false, some j⟩ = ((true, mode), ⟨false, some j⟩) := by
  rcases mode_read_cases j with ⟨other, found, mapped⟩ | ⟨missed, _⟩
  · rw [read] at found
    rw [mapped, Option.some.inj found]
  · rw [read] at missed
    contradiction

theorem mode_missed (j : JsonValue) (missed : readMode j = none) :
    (mapDefaultCaptureMode .blank ⟨false, some j⟩).1.1 = false := by
  rcases mode_read_cases j with ⟨other, found, _⟩ | ⟨_, failed⟩
  · rw [missed] at found
    contradiction
  · exact failed

theorem read_mode_iff (j : JsonValue) (mode : DefaultCaptureMode) :
    readMode j = some mode ↔ (j.member "app_name").bind Scalar.getValue = some mode.application ∧
      (j.member "api").bind Scalar.getValue = some mode.api ∧
      (j.member "default_mode").bind Scalar.getValue = some mode.captureMode := by
  simp only [readMode]
  cases (j.member "app_name").bind (Scalar.getValue (V := String)) with
  | none => simp
  | some application =>
      cases (j.member "api").bind (Scalar.getValue (V := Api)) with
      | none => simp
      | some api => cases (j.member "default_mode").bind (Scalar.getValue (V := UInt32)) <;> simp [DefaultCaptureMode.ext_iff]

theorem stands_mode (j : JsonValue) (mode : DefaultCaptureMode) (stands : ModeStands j mode) :
    readMode j = some mode := by
  obtain ⟨application, api, captureMode⟩ := stands
  simp [read_mode_iff, application, api, captureMode, Scalar.get_set]

theorem read_bind {V : Type} [Scalar V] (json : Option JsonValue) (value : V)
    (read : json.bind Scalar.getValue = some value) : ∃ j, json = some j ∧ Scalar.getValue j = some value :=
  Option.bind_eq_some_iff.mp read

-- Only the API of a mode that is read can differ from the number in the item.
theorem mode_members (j : JsonValue) (mode : DefaultCaptureMode) (read : readMode j = some mode) :
    ∃ n : Nat, j.member "app_name" = some (Scalar.setValue mode.application) ∧ j.member "api" = some (.number n) ∧
      n < 2 ^ 32 ∧ mode.api = UInt8.ofNat n ∧ j.member "default_mode" = some (Scalar.setValue mode.captureMode) := by
  obtain ⟨application, api, captureMode⟩ := (read_mode_iff j mode).mp read
  obtain ⟨applicationJson, applicationAt, applicationRead⟩ := read_bind _ _ application
  obtain ⟨apiJson, apiAt, apiRead⟩ := read_bind _ _ api
  obtain ⟨captureModeJson, captureModeAt, captureModeRead⟩ := read_bind _ _ captureMode
  have applicationExact : applicationJson = Scalar.setValue mode.application := Exact.exact _ _ applicationRead
  have captureModeExact : captureModeJson = Scalar.setValue mode.captureMode := Exact.exact _ _ captureModeRead
  obtain ⟨n, number, cut⟩ := Option.map_eq_some_iff.mp apiRead
  obtain ⟨rfl, small⟩ := uint_some apiJson n number
  exact ⟨n, by rw [applicationAt, applicationExact], apiAt, small, cut.symm, by rw [captureModeAt, captureModeExact]⟩

theorem mode_stands_iff (j : JsonValue) (mode : DefaultCaptureMode) (read : readMode j = some mode) :
    ModeStands j mode ↔ ∀ n : Nat, j.member "api" = some (.number n) → n < 2 ^ 8 := by
  obtain ⟨n, application, api, _, cut, captureMode⟩ := mode_members j mode read
  have bound := (UInt8.ofNat n).toNat_lt
  simp only [ModeStands, application, api, captureMode, true_and, and_true, Option.some.injEq, cut, Scalar.setValue,
    JsonValue.number.injEq]
  constructor
  · intro stands other same
    omega
  · intro fits
    rw [UInt8.toNat_ofNat_of_lt' (fits n rfl)]

theorem readable_iff (j : JsonValue) : ModeReadable j ↔ ∃ mode, readMode j = some mode := by
  constructor
  · rintro ⟨application, api, captureMode, applicationAt, apiAt, apiSmall, captureModeAt, captureModeSmall⟩
    refine ⟨⟨application, UInt8.ofNat api, UInt32.ofNat captureMode⟩, (read_mode_iff _ _).mpr ?_⟩
    have apiRead := uint_number api apiSmall
    have captureModeRead := uint_number captureMode captureModeSmall
    simp [applicationAt, apiAt, captureModeAt, Scalar.getValue, apiRead, captureModeRead]
  · rintro ⟨mode, read⟩
    obtain ⟨n, application, api, small, _, captureMode⟩ := mode_members j mode read
    exact ⟨mode.application, n, mode.captureMode.toNat, application, api, small, captureMode, mode.captureMode.toNat_lt⟩

namespace CaptureModeSet

theorem emplace_nonempty (s : CaptureModeSet) (mode : DefaultCaptureMode) : (s.emplace mode).modes ≠ [] := by
  rw [emplace_modes]
  split
  · simp
  · rename_i there
    intro nothing
    simp [nothing] at there

theorem emplaced_empty (modes : List DefaultCaptureMode) (nothing : modes.foldl emplace empty = empty) : modes = [] := by
  rcases List.eq_nil_or_concat' modes with rfl | ⟨before, mode, rfl⟩
  · rfl
  · rw [List.foldl_append, List.foldl_cons, List.foldl_nil] at nothing
    have filled := emplace_nonempty (before.foldl emplace empty) mode
    rw [nothing] at filled
    exact absurd rfl filled

end CaptureModeSet

def ModesFit (json : Option JsonValue) : Prop :=
  ∀ items, json = some (.array items) → (∀ item ∈ items, ModeReadable item) →
    ∀ item ∈ items, ∀ n : Nat, item.member "api" = some (.number n) → n < 2 ^ 8

theorem readable_modes (items : List JsonValue) (readable : ∀ item ∈ items, ModeReadable item) :
    ∃ modes, List.Forall₂ (fun item mode => readMode item = some mode) items modes := by
  induction items with
  | nil => exact ⟨[], .nil⟩
  | cons item rest ih =>
      obtain ⟨mode, read⟩ := (readable_iff item).mp (readable item List.mem_cons_self)
      obtain ⟨modes, each⟩ := ih fun other later => readable other (List.mem_cons_of_mem _ later)
      exact ⟨mode :: modes, .cons read each⟩

-- One API too large makes the array unfit, and it is still read.
theorem filled_modes (json : Option JsonValue) :
    Filled (Listed ModeStands fun modes => modes.foldl CaptureModeSet.emplace .empty) .empty json
      (readArr .empty CaptureModeSet.emplace .blank mapDefaultCaptureMode .empty json) ↔ ModesFit json := by
  have elements := elements_iff CaptureModeSet.empty CaptureModeSet.emplace .blank mapDefaultCaptureMode readMode mode_found
    mode_missed
  refine (filled_iff _ _ (listed_read _ _ _ _ _ mode_found mode_missed ModeStands stands_mode) _ _).trans ⟨?_, ?_⟩
  · intro filled items found readable
    obtain ⟨modes, each⟩ := readable_modes items readable
    rcases filled _ found _ ((elements _ _).mpr ⟨items, modes, rfl, each, rfl⟩) with ⟨_, others, same, stands, _⟩ | ⟨_, nothing⟩
    · obtain rfl := JsonValue.array.inj same
      have apis := stands.imp fun item mode fits => And.intro ((mode_stands_iff item mode (stands_mode item mode fits)).mp fits) fits
      exact ((List.forall₂_and_left _ _).mp apis).1
    · obtain rfl := CaptureModeSet.emplaced_empty modes nothing
      cases each
      simp
  · intro fit j found value read
    obtain ⟨items, modes, rfl, each, rfl⟩ := (elements j value).mp read
    have readable : ∀ item ∈ items, ModeReadable item :=
      ((List.forall₂_and_left _ _).mp (each.imp fun item mode read => And.intro ((readable_iff item).mpr ⟨mode, read⟩) read)).1
    have apis := (List.forall₂_and_left _ _).mpr ⟨fit items found readable, each⟩
    exact .inl ⟨items, modes, rfl, apis.imp fun item mode fits => (mode_stands_iff item mode fits.2).mpr fits.1, rfl⟩

end Modes

section Fields
variable (path : String) (json : JsonValue)

def TriggerableFilled (d : TriggerableUserdata) : Prop :=
  FilledAt json "delay_capture" false d.shouldDelayCapture ∧ FilledAt json "capture_delay" 100 d.captureDelay ∧
    FilledAt json "shortcut_sequence" 0 d.shortcutSequence ∧ FilledAt json "shortcut_native_key" 0 d.shortcutNativeKey

def RmvFilled (d : RmvUserdata) : Prop := FilledAt json "output_path" path d.outputPath

def RgdFilled (d : RgdUserdata) : Prop :=
  FilledAt json "output_path" path d.outputPath ∧ FilledAt json "generate_text_summary" false d.generateTextSummary ∧
    FilledAt json "generate_json_summary" false d.generateJsonSummary ∧
    FilledAt json "show_marker_source" false d.summaryOptions.showMarkerSource ∧
    FilledAt json "expand_markers" false d.summaryOptions.expandMarkers ∧
    FilledAt json "enable_advanced_crash" true d.enableAdvancedCrash ∧
    Filled (Listed Stands id) [] (json.member "pdb_search_paths") d.summaryOptions.pdbSearchPaths ∧
    FilledAt json "pdb_include_subfolders" false d.summaryOptions.pdbIncludeSubfolders ∧
    FilledAt json "serialize_mem_ops" false d.disableSerializeMemOps ∧
    FilledAt json "serialize_alu_ops" false d.disableSerializeAluOps ∧
    FilledAt json "collect_wave_sgprs" false d.collectWaveSgprs ∧
    FilledAt json "collect_wave_vgprs" false d.collectWaveVgprs

def RraFilled (d : RraUserdata) : Prop :=
  FilledAt json "output_path" path d.outputPath ∧ TriggerableFilled json d.toTriggerableUserdata ∧
    FilledAt json "enable_ray_history" true d.enableRayHistory ∧
    FilledAt json "ray_history_buffer_size_custom" "0" d.rayHistoryBufferSize ∧
    FilledAt json "ray_history_buffer_size_index" rayHistoryBufferIndexDefaultBuffer d.rayHistoryBufferSizeIndex ∧
    FilledAt json "enable_marker_capture" false d.enableMarkerCapture ∧
    FilledAt json "marker_begin_string" "RRABeginMarker" d.markerBeginString ∧
    FilledAt json "marker_end_string" "RRAEndMarker" d.markerEndString

-- Of equal capture modes the set has the first.
def RgpFilled (d : RgpUserdata) : Prop :=
  FilledAt json "output_path" path d.outputPath ∧ TriggerableFilled json d.toTriggerableUserdata ∧
    FilledAt json "enable_inst_tracing" false d.enableInstTracing ∧ FilledAt json "enable_counters" true d.enableCounters ∧
    FilledAt json "enable_legacy_capture" false d.enableLegacyCapture ∧
    FilledAt json "disable_capture_timeout" false d.disableCaptureTimeout ∧
    FilledAt json "enable_exec_pop_tokens" false d.enableExecPopTokens ∧
    FilledAt json "sqtt_buffer_size_profile" SqttBufferSizeProfiles.default d.sqttBufferSizeProfile ∧
    FilledAt json "sqtt_buffer_custom_size" 0 d.customSqttBufferSize ∧
    FilledAt json "opencl_auto_trigger" AutoCaptureMode.none d.autoCaptureMode ∧
    FilledAt json "frame_capture_index" 0 d.frameCaptureIndex ∧ FilledAt json "dispatch_start_index" 1 d.dispatchStartIndex ∧
    FilledAt json "dispatch_count" 0 d.dispatchCount ∧ FilledAt json "draw_count" 1 d.drawCount ∧
    FilledAt json "compute_auto_capture_time_ms" 0 d.computeAutoCaptureTimeMs ∧
    FilledAt json "spm_counter_path" "" d.spmCountersPath ∧ FilledAt json "spm_counter_frequency" 0 d.spmSamplingFrequency ∧
    FilledAt json "enable_shader_instrumentation" false d.enableShaderInstrumentation ∧
    Filled (Listed ModeStands fun modes => modes.foldl CaptureModeSet.emplace .empty) .empty
      (json.member "default_capture_modes") d.defaultCaptureModes

-- Where a number that does not fit a byte is not cut to something else.
def RgpFits : Prop :=
  (∀ n : Nat, json.member "sqtt_buffer_size_profile" = some (.number n) → 2 ^ 8 ≤ n → n < 2 ^ 32 → n % 2 ^ 8 = 2) ∧
    (∀ n : Nat, json.member "opencl_auto_trigger" = some (.number n) → 2 ^ 8 ≤ n → n < 2 ^ 32 → n % 2 ^ 8 = 0) ∧
    ModesFit (json.member "default_capture_modes")

theorem rmv_filled (old : RmvUserdata) : RmvFilled path json (readAll (rmvMaps path) old json.member) := by
  simp [readAll, rmvMaps, RmvFilled, filled_exact]

theorem rra_filled (old : RraUserdata) : RraFilled path json (readAll (rraMaps path) old json.member) := by
  simp [readAll, rraMaps, mapTriggerableUserdata, RraFilled, TriggerableFilled, filled_exact]

theorem rgd_filled (old : RgdUserdata) : RgdFilled path json (readAll (rgdMaps path) old json.member) := by
  have paths := filled_paths json "pdb_search_paths"
  simp [readAll, rgdMaps, RgdFilled, filled_exact, property_key, paths]

theorem rgp_filled_iff (old : RgpUserdata) :
    RgpFilled path json (readAll (rgpMaps path) old json.member) ↔ RgpFits json := by
  have profile := filled_byte json "sqtt_buffer_size_profile" SqttBufferSizeProfiles.default
  have trigger := filled_byte json "opencl_auto_trigger" AutoCaptureMode.none
  have modes := filled_modes (json.member "default_capture_modes")
  simp only [readAll, rgpMaps, mapTriggerableUserdata, List.cons_append, List.nil_append, List.foldl_cons, List.foldl_nil,
    mapped_read, mapped_key, arr_property_read, property_key, RgpFilled, TriggerableFilled, filled_exact, true_and, and_true,
    profile, trigger, modes]
  rfl

section Overwritten
variable (read : String → Option JsonValue)

theorem rmv_overwritten (old other : RmvUserdata) : readAll (rmvMaps path) old read = readAll (rmvMaps path) other read := by
  simp [readAll, rmvMaps]

theorem rra_overwritten (old other : RraUserdata) : readAll (rraMaps path) old read = readAll (rraMaps path) other read := by
  simp [readAll, rraMaps, mapTriggerableUserdata]

theorem rgd_overwritten (old other : RgdUserdata) : readAll (rgdMaps path) old read = readAll (rgdMaps path) other read := by
  simp [readAll, rgdMaps]

theorem rgp_overwritten (old other : RgpUserdata) : readAll (rgpMaps path) old read = readAll (rgpMaps path) other read := by
  simp [readAll, rgpMaps, mapTriggerableUserdata]

end Overwritten

end Fields

namespace Source

def Filled : (source : Source) → String → JsonValue → source.UserdataType → Prop
  | .rmv => RmvFilled
  | .rgd => RgdFilled
  | .rgp => RgpFilled
  | .rra => RraFilled

def Fits : Source → JsonValue → Prop
  | .rgp, json => RgpFits json
  | .rmv, _ | .rgd, _ | .rra, _ => True

end Source

theorem filled_iff_fits (source : Source) (path : String) (json : JsonValue) (old : source.UserdataType) :
    source.Filled path json (readAll (source.map path) old json.member) ↔ source.Fits json := by
  cases source with
  | rmv => exact iff_of_true (rmv_filled path json old) trivial
  | rgd => exact iff_of_true (rgd_filled path json old) trivial
  | rgp => exact rgp_filled_iff path json old
  | rra => exact iff_of_true (rra_filled path json old) trivial

theorem overwritten (source : Source) (path : String) (json : JsonValue) (old other : source.UserdataType) :
    readAll (source.map path) old json.member = readAll (source.map path) other json.member := by
  cases source with
  | rmv => exact rmv_overwritten path json.member old other
  | rgd => exact rgd_overwritten path json.member old other
  | rgp => exact rgp_overwritten path json.member old other
  | rra => exact rra_overwritten path json.member old other

section Parsing
variable (source : Source) (parseJson : Text → Option JsonValue) (data : Option Text) (defaultOutputPath : String)

def received : Option JsonValue :=
  match data with
  | none | some [] => none
  | some (byte :: rest) => parseJson (byte :: rest)

theorem parse_received (old : source.UserdataType) (json : JsonValue) (valid : received parseJson data = some json) :
    parse source parseJson data defaultOutputPath old =
      (.ok (), readAll (source.map defaultOutputPath) old json.member) := by
  match data, valid with
  | some (byte :: rest), valid => exact parse_text source parseJson _ json defaultOutputPath old (by simp) valid

theorem parse_rejected (old : source.UserdataType) (invalid : received parseJson data = none) :
    ∃ error, parse source parseJson data defaultOutputPath old = (.error error, old) := by
  match data, invalid with
  | none, _ | some [], _ => exact ⟨_, rfl⟩
  | some (byte :: rest), invalid =>
      have unparsed : parseJson (byte :: rest) = none := invalid
      exact ⟨_, by rw [parse, unparsed]⟩

structure DefaultFilling (old : source.UserdataType) : Prop where
  fails : (∃ error, (parse source parseJson data defaultOutputPath old).1 = .error error) ↔ received parseJson data = none
  fills (json : JsonValue) (valid : received parseJson data = some json) :
    source.Filled defaultOutputPath json (parse source parseJson data defaultOutputPath old).2
  overwrites (json : JsonValue) (valid : received parseJson data = some json) (other : source.UserdataType) :
    (parse source parseJson data defaultOutputPath other).2 = (parse source parseJson data defaultOutputPath old).2

theorem default_filling_iff (old : source.UserdataType) :
    DefaultFilling source parseJson data defaultOutputPath old ↔
      ∀ json, received parseJson data = some json → source.Fits json := by
  constructor
  · intro filling json valid
    have filled := filling.fills json valid
    rw [parse_received source parseJson data defaultOutputPath old json valid] at filled
    exact (filled_iff_fits source defaultOutputPath json old).mp filled
  · intro fits
    constructor
    · cases valid : received parseJson data with
      | none =>
          obtain ⟨error, rejected⟩ := parse_rejected source parseJson data defaultOutputPath old valid
          simp [rejected]
      | some json => simp [parse_received source parseJson data defaultOutputPath old json valid]
    · intro json valid
      rw [parse_received source parseJson data defaultOutputPath old json valid]
      exact (filled_iff_fits source defaultOutputPath json old).mpr (fits json valid)
    · intro json valid other
      rw [parse_received source parseJson data defaultOutputPath other json valid,
        parse_received source parseJson data defaultOutputPath old json valid]
      exact overwritten source defaultOutputPath json other old

end Parsing

-- 259 is read as 3, which is another profile than the default.
theorem large_profile_cut :
    let json := JsonValue.object [("sqtt_buffer_size_profile", .number 259)]
    let text := "\x7b\"sqtt_buffer_size_profile\":259\x7d".toUTF8.data.toList
    ∀ old : RgpUserdata, ¬DefaultFilling .rgp (fun _ => some json) (some text) "" old := by
  intro json text old filling
  have valid : received (fun _ => some json) (some text) = some json := rfl
  have filled := filling.fills json valid
  rw [parse_received .rgp (fun _ => some json) (some text) "" old json valid] at filled
  have fits := (rgp_filled_iff "" json old).mp filled
  have present : json.member "sqtt_buffer_size_profile" = some (.number (259 : Nat)) := by
    simp [json, JsonValue.member, KeyedValues.get_cons]
  have cut := fits.1 259 present (by decide) (by decide)
  contradiction

end RadeonPanel.Userdata
