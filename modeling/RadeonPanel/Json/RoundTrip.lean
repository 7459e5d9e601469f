import RadeonPanel.Json.Paths
import RadeonPanel.Userdata.Properties

set_option autoImplicit false

namespace RadeonPanel.Json

open Userdata

-- A document without doubles, whose integers have 64 bits.
inductive Plain : JsonValue → Prop where
  | bool (value : Bool) : Plain (.bool value)
  | number (n : Int) (low : -2 ^ 63 ≤ n) (high : n < 2 ^ 64) : Plain (.number n)
  | string (value : String) : Plain (.string value)
  | array (items : List JsonValue) (each : ∀ item ∈ items, Plain item) : Plain (.array items)
  | object (members : List (String × JsonValue)) (each : ∀ member ∈ members, Plain member.2) : Plain (.object members)

-- The library's text of a document: such a document is parsed as it was written.
structure Library where
  Text : Type
  write : JsonValue → Text
  parse : Text → Option JsonValue
  parse_write : ∀ json, Plain json → parse (write json) = some json

instance : Inhabited Library := ⟨JsonValue, id, some, fun _ _ => rfl⟩

def Library.deserialize (library : Library) (text : library.Text) : JsonMapper := ⟨false, library.parse text⟩

-- The document with one value, at the end of a path.
def nest : List String → JsonValue → JsonValue
  | [], json => json
  | key :: rest, json => .object [(key, nest rest json)]

theorem nest_plain (path : List String) (json : JsonValue) (plain : Plain json) : Plain (nest path json) := by
  induction path with
  | nil => exact plain
  | cons key rest ih =>
      refine Plain.object _ fun member listed => ?_
      rw [List.mem_singleton.mp listed]
      exact ih

section Values
variable {V : Type} (map : Mapping V)

theorem nest_written (path : List String) (value : V) (done : Bool) (json : JsonValue)
    (written : map value ⟨true, some (.object [])⟩ = ((done, value), ⟨true, some json⟩)) :
    indexPath (map value) path ⟨true, some (.object [])⟩ = ((done, value), ⟨true, some (nest path json)⟩) := by
  induction path with
  | nil => exact written
  | cons key rest ih =>
      simp [indexPath, JsonMapper.index, JsonMapper.index.write, ih, nest, KeyedValues.get, Keyed.lookup, KeyedValues.assign]

theorem nest_read (path : List String) (old : V) (json : JsonValue) :
    (indexPath (map old) path ⟨false, some (nest path json)⟩).1 = (map old ⟨false, some json⟩).1 := by
  induction path with
  | nil => rfl
  | cons key rest ih =>
      simp [indexPath, JsonMapper.index, JsonValue.member, nest, ih, KeyedValues.get, Keyed.lookup]

-- Written into a new document and read out of its text, at whatever path.
def RoundTrips (library : Library) (value : V) : Prop :=
  ∀ path : List String, (∀ key ∈ path, cStr key = key) → ∃ doc,
    subscripts (fun m => some (map value m)) path JsonMapper.serialize = some ((true, value), ⟨true, some doc⟩) ∧
    ∀ old, (subscripts (fun m => some (map old m)) path (library.deserialize (library.write doc))).map Prod.fst = some (true, value)

theorem round_trips (library : Library) (value : V) (json : JsonValue) (plain : Plain json)
    (written : map value ⟨true, some (.object [])⟩ = ((true, value), ⟨true, some json⟩))
    (back : ∀ old, (map old ⟨false, some json⟩).1 = (true, value)) : RoundTrips map library value := by
  intro path keys
  refine ⟨nest path json, ?_, ?_⟩
  · rw [subscripts_index (map value) path keys, JsonMapper.serialize, nest_written map path value true json written]
  · intro old
    rw [subscripts_index (map old) path keys, Library.deserialize, library.parse_write _ (nest_plain path json plain), Option.map_some,
      nest_read, back]

end Values

theorem number_plain (T : IntegralType) (value : T.Value) : Plain (.number (T.number value)) := by
  have narrow : 2 ^ T.size.bits ≤ 2 ^ 64 := by cases T.size <;> decide
  have below := value.isLt
  have low := BitVec.le_toInt value
  have high := BitVec.toInt_lt (x := value)
  have half : (2 : Int) ^ (T.size.bits - 1) ≤ 2 ^ 63 := by cases T.size <;> decide
  refine Plain.number _ ?_ ?_
  · cases kind : T.signed <;> simp only [IntegralType.number, kind, if_true, Bool.false_eq_true, if_false] <;> omega
  · cases kind : T.signed <;> simp only [IntegralType.number, kind, if_true, Bool.false_eq_true, if_false] <;> omega

theorem scalar_plain (T : ScalarType) (value : T.Value) : Plain (Scalar.setValue value) := by
  cases T with
  | bool => exact .bool value
  | string => exact .string value
  | integral T | enum T => exact number_plain T value

theorem scalars_plain {T : ScalarType} (elements : List T.Value) : Plain (.array (elements.map Scalar.setValue)) := by
  refine Plain.array _ fun item listed => ?_
  obtain ⟨value, _, rfl⟩ := List.mem_map.mp listed
  exact scalar_plain T value

section RoundTrips
variable (library : Library) (T : ScalarType)

theorem scalar_round_trips (value : T.Value) : RoundTrips (mapScalar none) library value :=
  round_trips _ library value (Scalar.setValue value) (scalar_plain T value) rfl fun old => by
    simp [mapScalar, Scalar.get_set]

theorem optional_round_trips (value : T.Value) : RoundTrips mapOptional library (some value) :=
  round_trips _ library (some value) (Scalar.setValue value) (scalar_plain T value) rfl fun old => by
    simp [mapOptional, Scalar.get_set]

variable {C : Type} (items : C → List T.Value) (empty : C) (append : C → T.Value → C) (value : C)
    (again : (items value).foldl append empty = value)

include again

-- A container of any kind, when its elements in their order build it up again.
theorem container_round_trips : RoundTrips (mapContainer items empty append none) library value := by
  refine round_trips _ library value (serializeContainer items value) (scalars_plain (items value)) rfl fun old => ?_
  have back := elements_back append empty (items value)
  rw [again] at back
  simp [mapContainer, serializeContainer, deserializeContainer, back]

theorem callback_round_trips (blank : T.Value) :
    RoundTrips (mapArr items empty append blank (mapScalar none) none) library value := by
  have written := items_write (mapScalar none) Scalar.setValue (fun item : T.Value => rfl) (items value)
  have back := items_read append blank (mapScalar none) Scalar.setValue (fun item : T.Value => by simp [mapScalar, Scalar.get_set])
    (items value) empty
  rw [again] at back
  refine round_trips _ library value (.array ((items value).map Scalar.setValue)) (scalars_plain (items value)) ?_ fun old => ?_
  · simp [mapArr, written]
  · simp [mapArr, back]

end RoundTrips

section Scalars
variable {V : Type} [Scalar V]

theorem scalar_reads (old value : V) (json : JsonValue) :
    (mapScalar none old ⟨false, some json⟩).1 = (true, value) ↔ Scalar.getValue json = some value := by
  cases read : Scalar.getValue (V := V) json <;> simp [mapScalar, unread, read]

theorem scalar_succeeds (old : V) (json : JsonValue) :
    (mapScalar none old ⟨false, some json⟩).1.1 = true ↔ (Scalar.getValue (V := V) json).isSome := by
  cases read : Scalar.getValue (V := V) json <;> simp [mapScalar, unread, read]

end Scalars

section Failures
variable {V C : Type} (items : C → List V) (empty : C) (append : C → V → C)

theorem callback_read_failed (blank : V) (mapItem : Mapping V) (old left : C) (json : Option JsonValue)
    (failed : (mapArr items empty append blank mapItem none old ⟨false, json⟩).1 = (false, left)) : left = empty := by
  cases json with
  | none => exact (Prod.mk.inj failed).2.symm
  | some json =>
      cases json with
      | array elements =>
          cases read : readItems mapItem blank append empty elements with
          | none => simp_all [mapArr, unread]
          | some value => simp [mapArr, read] at failed
      | null | bool | number | real | string | object => exact (Prod.mk.inj failed).2.symm

theorem container_not_array [Scalar V] (old left : C) (json : Option JsonValue) (other : ∀ elements, json ≠ some (.array elements))
    (failed : (mapContainer items empty append none old ⟨false, json⟩).1 = (false, left)) : left = old := by
  cases json with
  | none => exact (Prod.mk.inj failed).2.symm
  | some json =>
      cases json with
      | array elements => exact absurd rfl (other elements)
      | null | bool | number | real | string | object => exact (Prod.mk.inj failed).2.symm

end Failures

theorem vector_again {V : Type} (v : List V) : (id v).foldl pushBack [] = v := pushed_back v []

structure ValuesRoundTrip (library : Library) : Prop where
  scalar : ∀ (T : ScalarType) (value : T.Value), RoundTrips (mapScalar none) library value
  optional : ∀ (T : ScalarType) (value : T.Value), RoundTrips mapOptional library (some value)
  vector : ∀ (T : ScalarType) (v : List T.Value), RoundTrips (mapContainer id [] pushBack none) library v
  set : ∀ (T : ScalarType) (walk : Iteration T.Value) (s : Finset T.Value),
    RoundTrips (mapContainer walk.items ∅ (fun s item => insert item s) none) library s
  callbackVector : ∀ (T : ScalarType) (blank : T.Value) (v : List T.Value),
    RoundTrips (mapArr id [] pushBack blank (mapScalar none) none) library v
  callbackSet : ∀ (T : ScalarType) (walk : Iteration T.Value) (blank : T.Value) (s : Finset T.Value),
    RoundTrips (mapArr walk.items ∅ (fun s item => insert item s) blank (mapScalar none) none) library s
  -- An empty optional is refused, and without its property it is read as empty.
  emptyRefused : ∀ (T : ScalarType) (json : JsonValue),
    mapOptional (none : Option T.Value) ⟨true, some json⟩ = ((false, none), ⟨true, some json⟩)
  emptyRead : ∀ (T : ScalarType) (old : Option T.Value), (mapOptional old ⟨false, none⟩).1 = (true, none)
  integral : ∀ (T : IntegralType), 32 ≤ T.size.bits → ∀ (old value : (ScalarType.integral T).Value) (json : JsonValue),
    (mapScalar none old ⟨false, some json⟩).1 = (true, value) ↔ json = .number (T.number value)
  representable : ∀ (T : IntegralType), 32 ≤ T.size.bits → ∀ (old : (ScalarType.integral T).Value) (n : Int),
    (mapScalar none old ⟨false, some (.number n)⟩).1.1 = true ↔ T.Representable n
  callbackFailed : ∀ {V C : Type} (items : C → List V) (empty : C) (append : C → V → C) (blank : V) (mapItem : Mapping V) (old left : C)
    (json : Option JsonValue), (mapArr items empty append blank mapItem none old ⟨false, json⟩).1 = (false, left) → left = empty
  notArray : ∀ {C : Type} (T : ScalarType) (items : C → List T.Value) (empty : C) (append : C → T.Value → C) (old left : C)
    (json : Option JsonValue), (∀ elements, json ≠ some (.array elements)) →
    (mapContainer items empty append none old ⟨false, json⟩).1 = (false, left) → left = old

theorem values_round_trip (library : Library) : ValuesRoundTrip library where
  scalar := scalar_round_trips library
  optional := optional_round_trips library
  vector T v := container_round_trips library T id [] pushBack v (vector_again v)
  set T walk s := container_round_trips library T walk.items ∅ _ s (walked_back walk s)
  callbackVector T blank v := callback_round_trips library T id [] pushBack v (vector_again v) blank
  callbackSet T walk blank s := callback_round_trips library T walk.items ∅ _ s (walked_back walk s) blank
  emptyRefused _ _ := rfl
  emptyRead _ _ := rfl
  integral T wide old value json := by
    rw [← T.get_number wide json value]
    exact scalar_reads old value json
  representable T wide old n := by
    rw [← T.reads_iff_representable wide n]
    exact scalar_succeeds old (.number n)
  callbackFailed := callback_read_failed
  notArray _ := fun items empty append => container_not_array items empty append

def uint8 : IntegralType := ⟨false, .one⟩

-- An empty optional is refused, a byte is read from a number above its range, and what
-- was read before an element that fails stays in the vector.
theorem empty_narrow_partial :
    (mapOptional (none : Option Bool) ⟨true, some (.object [])⟩).1.1 = false ∧
      (mapScalar (V := (ScalarType.integral uint8).Value) none 7#8 ⟨false, some (.number 256)⟩).1 = (true, 0#8) ∧
      ¬ uint8.Representable 256 ∧
      (mapContainer id [] pushBack none ([] : List Bool) ⟨false, some (.array [.bool true, .null])⟩).1 = (false, [true]) := by
  refine ⟨rfl, rfl, ?_, rfl⟩
  rintro ⟨value, same⟩
  have below : value.toNat < 256 := value.isLt
  have large : (value.toNat : Int) = 256 := same
  omega

end RadeonPanel.Json
