import RadeonPanel.Userdata.Userdata

set_option autoImplicit false

namespace RadeonPanel.Userdata

open Keyed

section Mapped
variable {T V : Type} [Scalar V] (key : String) (get : T → V) (set : T → V → T)

theorem required_kept (same : ∀ data, set data (get data) = data) : (property key get set (mapScalar none)).Kept := by
  constructor
  · intro data json
    simp [property, Property.write, scalar_write, same]
  · intro old data
    simp [property, Property.write, Property.read, mapScalar, Scalar.get_set]

theorem required_back (data old : T) :
    (property key get set (mapScalar none)).read old (some ((property key get set (mapScalar none)).write data)) =
      set old (get data) := by
  simp [property, Property.write, Property.read, mapScalar, Scalar.get_set]

variable (default : V)

@[simp] theorem mapped_key : (mapped key get set default).key = key := rfl

@[simp] theorem mapped_read (data : T) (json : Option JsonValue) :
    (mapped key get set default).read data json = set data (readScalar default json) := by
  simp only [mapped, property, Property.read, scalar_read]

@[simp] theorem mapped_write (data : T) : (mapped key get set default).write data = Scalar.setValue (get data) := rfl

@[simp] theorem read_set (value : V) : readScalar default (some (Scalar.setValue value)) = value := by
  rw [readScalar, Option.bind_some, Scalar.get_set, Option.getD_some]

theorem mapped_total : (mapped key get set default).Total := by
  intro data json
  simp only [mapped, property, Property.read, scalar_read]

theorem mapped_kept (same : ∀ data, set data (get data) = data) : (mapped key get set default).Kept := by
  constructor
  · intro data json
    simp [mapped, property, Property.write, scalar_write, same]
  · intro old data
    exact mapped_total key get set default old _

end Mapped

section Containers
variable {T V C : Type} (key : String) (get : T → C) (set : T → C → T) (items : C → List V) (empty : C)
    (append : C → V → C) (blank : V) (mapItem : Mapping V) (default : C)

@[simp] theorem arr_property_read (data : T) (json : Option JsonValue) :
    (property key get set (mapArr items empty append blank mapItem (some default))).read data json =
      set data (readArr empty append blank mapItem default json) := by
  simp only [property, Property.read, arr_read]

theorem arr_total : (property key get set (mapArr items empty append blank mapItem (some default))).Total := by
  intro data json
  simp only [property, Property.read, arr_read]

variable (write : V → JsonValue)
    (written : ∀ item, mapItem item ⟨true, some (.object [])⟩ = ((true, item), ⟨true, some (write item)⟩))

include written

theorem arr_property_write (data : T) :
    (property key get set (mapArr items empty append blank mapItem (some default))).write data =
      .array ((items (get data)).map write) := by
  simp only [property, Property.write, arr_write items empty append blank mapItem default write written, Option.getD_some]

theorem arr_kept (same : ∀ data, set data (get data) = data) :
    (property key get set (mapArr items empty append blank mapItem (some default))).Kept := by
  constructor
  · intro data json
    rw [arr_property_write key get set items empty append blank mapItem default write written]
    simp only [property, arr_write items empty append blank mapItem default write written, same]
  · intro old data
    exact arr_total key get set items empty append blank mapItem default old _

omit written in
theorem arr_back (back : ∀ item, mapItem blank ⟨false, some (write item)⟩ = ((true, item), ⟨false, some (write item)⟩))
    (values : List V) :
    readArr empty append blank mapItem default (some (.array (values.map write))) = values.foldl append empty := by
  rw [readArr, Option.bind_some, readElements, items_read append blank mapItem write back, Option.getD_some]

end Containers

section Paths

theorem path_written (path : String) :
    mapScalar none path ⟨true, some (.object [])⟩ = ((true, path), ⟨true, some (Scalar.setValue path)⟩) :=
  scalar_write none path _

theorem path_back (path : String) :
    mapScalar none "" ⟨false, some (Scalar.setValue path)⟩ = ((true, path), ⟨false, some (Scalar.setValue path)⟩) := by
  simp [mapScalar, Scalar.get_set]

end Paths

section Modes

theorem mode_kept : ∀ p ∈ defaultCaptureModeMaps, p.Kept := by
  simp [defaultCaptureModeMaps, required_kept]

theorem mode_keys : (keys Property.key defaultCaptureModeMaps).Nodup := by
  simp [defaultCaptureModeMaps, keys, property]

theorem mode_back (mode old : DefaultCaptureMode) : copyAll defaultCaptureModeMaps mode old = mode := by
  simp only [copyAll, defaultCaptureModeMaps, List.foldl_cons, List.foldl_nil, required_back]

def writeMode (mode : DefaultCaptureMode) : JsonValue := .object (writeAll defaultCaptureModeMaps mode)

theorem mode_written (mode : DefaultCaptureMode) :
    mapDefaultCaptureMode mode ⟨true, some (.object [])⟩ = ((true, mode), ⟨true, some (writeMode mode)⟩) :=
  all_write defaultCaptureModeMaps mode_kept mode

theorem mode_read (mode : DefaultCaptureMode) :
    mapDefaultCaptureMode .blank ⟨false, some (writeMode mode)⟩ = ((true, mode), ⟨false, some (writeMode mode)⟩) := by
  have read := all_back defaultCaptureModeMaps mode_kept mode_keys mode .blank
  rwa [mode_back] at read

namespace CaptureModeSet

-- Elements of a set are put back into an empty one in the same order.
theorem emplaced (s : CaptureModeSet) : s.modes.foldl emplace empty = s := by
  have onto (rest : List DefaultCaptureMode) (t : CaptureModeSet)
      (fresh : ∀ mode ∈ rest, ∀ a ∈ t.modes, a.same mode = false)
      (apart : rest.Pairwise fun a b => a.same b = false) :
      (rest.foldl emplace t).modes = t.modes ++ rest := by
    induction rest generalizing t with
    | nil => simp
    | cons mode rest ih =>
        obtain ⟨first, later⟩ := List.pairwise_cons.mp apart
        have added : (t.emplace mode).modes = t.modes ++ [mode] := by
          rw [emplace_modes, if_pos]
          simpa using fresh mode List.mem_cons_self
        rw [List.foldl_cons, ih _ _ later, added, List.append_assoc, List.singleton_append]
        intro other listed a member
        rw [added] at member
        rcases List.mem_append.mp member with before | new
        · exact fresh other (List.mem_cons_of_mem _ listed) a before
        · rw [List.mem_singleton.mp new]
          exact first other listed
  apply CaptureModeSet.ext
  simpa [empty] using onto s.modes empty (by simp [empty]) s.distinct

end CaptureModeSet

end Modes

theorem source_total (source : Source) (path : String) : ∀ p ∈ source.map path, p.Total := by
  cases source with
  | rmv =>
      change ∀ p ∈ rmvMaps path, p.Total
      simp [rmvMaps, mapped_total]
  | rra =>
      change ∀ p ∈ rraMaps path, p.Total
      simp [rraMaps, mapTriggerableUserdata, mapped_total]
  | rgp =>
      change ∀ p ∈ rgpMaps path, p.Total
      simp [rgpMaps, mapTriggerableUserdata, mapped_total, arr_total]
  | rgd =>
      change ∀ p ∈ rgdMaps path, p.Total
      simp [rgdMaps, mapped_total, arr_total]

theorem source_kept (source : Source) (path : String) : ∀ p ∈ source.map path, p.Kept := by
  cases source with
  | rmv =>
      change ∀ p ∈ rmvMaps path, p.Kept
      simp [rmvMaps, mapped_kept]
  | rra =>
      change ∀ p ∈ rraMaps path, p.Kept
      simp [rraMaps, mapTriggerableUserdata, mapped_kept]
  | rgp =>
      have modes := arr_kept "default_capture_modes" RgpUserdata.defaultCaptureModes
        (fun d v => { d with defaultCaptureModes := v }) CaptureModeSet.modes .empty CaptureModeSet.emplace .blank
        mapDefaultCaptureMode .empty writeMode mode_written (fun _ => rfl)
      change ∀ p ∈ rgpMaps path, p.Kept
      simp [rgpMaps, mapTriggerableUserdata, mapped_kept, modes]
  | rgd =>
      have paths := arr_kept "pdb_search_paths" (fun d : RgdUserdata => d.summaryOptions.pdbSearchPaths)
        (fun d v => { d with summaryOptions.pdbSearchPaths := v }) id [] (fun paths path => paths ++ [path]) ""
        (mapScalar none) [] Scalar.setValue path_written (fun _ => rfl)
      change ∀ p ∈ rgdMaps path, p.Kept
      simp [rgdMaps, mapped_kept, paths]

theorem source_keys (source : Source) (path : String) : (keys Property.key (source.map path)).Nodup := by
  cases source with
  | rmv =>
      change (keys Property.key (rmvMaps path)).Nodup
      simp [rmvMaps, keys]
  | rra =>
      change (keys Property.key (rraMaps path)).Nodup
      simp [rraMaps, mapTriggerableUserdata, keys]
  | rgp =>
      change (keys Property.key (rgpMaps path)).Nodup
      simp [rgpMaps, mapTriggerableUserdata, keys, property]
  | rgd =>
      change (keys Property.key (rgdMaps path)).Nodup
      simp [rgdMaps, keys, property]

-- The default path is not written.
theorem source_written (source : Source) (path : String) (x : source.UserdataType) :
    writeAll (source.map "") x = writeAll (source.map path) x := by
  cases source <;> rfl

section Copied
variable (path : String)

theorem rmv_copied (x old : RmvUserdata) : copyAll (rmvMaps path) x old = x := by
  simp [copyAll, rmvMaps]

theorem rra_copied (x old : RraUserdata) : copyAll (rraMaps path) x old = x := by
  simp [copyAll, rraMaps, mapTriggerableUserdata]

theorem rgp_copied (x old : RgpUserdata) : copyAll (rgpMaps path) x old = x := by
  have modes := arr_property_write "default_capture_modes" RgpUserdata.defaultCaptureModes
    (fun d v => { d with defaultCaptureModes := v }) CaptureModeSet.modes .empty CaptureModeSet.emplace .blank
    mapDefaultCaptureMode .empty writeMode mode_written
  have back := arr_back .empty CaptureModeSet.emplace .blank mapDefaultCaptureMode .empty writeMode mode_read
  simp [copyAll, rgpMaps, mapTriggerableUserdata, modes, back, CaptureModeSet.emplaced]

theorem rgd_copied (x old : RgdUserdata) : copyAll (rgdMaps path) x old = x := by
  have paths := arr_property_write "pdb_search_paths" (fun d : RgdUserdata => d.summaryOptions.pdbSearchPaths)
    (fun d v => { d with summaryOptions.pdbSearchPaths := v }) id [] (fun paths path => paths ++ [path]) ""
    (mapScalar none) [] Scalar.setValue path_written
  have back := arr_back [] (fun paths path => paths ++ [path]) "" (mapScalar none) [] Scalar.setValue path_back
  simp [copyAll, rgdMaps, paths, back, ← List.flatMap_def]

theorem source_copied (source : Source) (x old : source.UserdataType) : copyAll (source.map path) x old = x := by
  cases source with
  | rmv => exact rmv_copied path x old
  | rra => exact rra_copied path x old
  | rgp => exact rgp_copied path x old
  | rgd => exact rgd_copied path x old

end Copied

theorem same_self (mode : DefaultCaptureMode) : mode.same mode = true := by
  simp [DefaultCaptureMode.same]

theorem equals_self (source : Source) (x : source.UserdataType) : source.equals x x = true := by
  cases source with
  | rmv => simp [Source.equals, RmvUserdata.equals]
  | rgd => simp [Source.equals, RgdUserdata.equals]
  | rra => simp [Source.equals, RraUserdata.equals, isEqual]
  | rgp =>
      have modes : x.defaultCaptureModes.modes.all (fun mode =>
          x.defaultCaptureModes.modes.any fun m => m.same mode && m.captureMode = mode.captureMode) = true := by
        rw [List.all_eq_true]
        intro mode listed
        exact List.any_eq_true.mpr ⟨mode, listed, by simp [same_self]⟩
      simp only [Source.equals, RgpUserdata.equals, modes]
      simp [isEqual]

def document (source : Source) (x : source.UserdataType) : JsonValue := .object (writeAll (source.map "") x)

section RoundTrip
variable (source : Source) (printJson : JsonValue → Text) (parseJson : Text → Option JsonValue)

theorem serialize_text (x : source.UserdataType) :
    serialize source printJson x = .ok (printJson (document source x)) := by
  simp [serialize, all_write _ (source_kept source ""), document]

theorem parse_text (text : Text) (json : JsonValue) (path : String) (old : source.UserdataType) (present : text ≠ [])
    (parsed : parseJson text = some json) :
    parse source parseJson (some text) path old = (.ok (), readAll (source.map path) old json.member) := by
  obtain ⟨byte, rest, rfl⟩ := List.exists_cons_of_ne_nil present
  simp only [parse, parsed, all_read _ (source_total source path)]

theorem parsed_back (x old : source.UserdataType) (path : String) :
    readAll (source.map path) old (document source x).member = x := by
  have read := all_read (source.map path) (source_total source path) old (document source x)
  have back := all_back (source.map path) (source_kept source path) (source_keys source path) x old
  rw [document, source_written source path] at read
  rw [back, source_copied] at read
  rw [document, source_written source path]
  simpa using read.symm

-- The JSON library has to take no text for a document, and to read back the one
-- that it printed.
theorem userdata_round_trip (x old : source.UserdataType) (defaultOutputPath : String) (nothing : parseJson [] = none)
    (trips : parseJson (printJson (document source x)) = some (document source x)) :
    ∃ text, serialize source printJson x = .ok text ∧
      (parse source parseJson (some text) defaultOutputPath old).1 = .ok () ∧
      source.equals (parse source parseJson (some text) defaultOutputPath old).2 x = true := by
  have present : printJson (document source x) ≠ [] := by
    intro empty
    rw [empty, nothing] at trips
    contradiction
  have parsed := parse_text source parseJson _ _ defaultOutputPath old present trips
  refine ⟨_, serialize_text source printJson x, ?_⟩
  rw [parsed, parsed_back]
  exact ⟨rfl, equals_self source x⟩

theorem output_path_round_trip :
    let x : RmvUserdata := ⟨"C:/traces"⟩
    let printed := "\x7b\"output_path\":\"C:/traces\"\x7d".toUTF8.data.toList
    let parseJson := fun t => if t = printed then some (document .rmv x) else none
    ∃ text, serialize .rmv (fun _ => printed) x = .ok text ∧
      (parse .rmv parseJson (some text) "D:/" ⟨"E:/"⟩).1 = .ok () ∧
      Source.equals .rmv (parse .rmv parseJson (some text) "D:/" ⟨"E:/"⟩).2 x = true := by
  intro x printed parseJson
  have nothing : parseJson [] = none := if_neg (by decide)
  exact userdata_round_trip .rmv (fun _ => printed) parseJson x ⟨"E:/"⟩ "D:/" nothing (if_pos rfl)

end RoundTrip

end RadeonPanel.Userdata
