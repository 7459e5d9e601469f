import RadeonPanel.Userdata.JsonMapper

set_option autoImplicit false

namespace RadeonPanel.Userdata

open KeyedValues

section Values
variable {V C : Type}

def readScalar [Scalar V] (default : V) (json : Option JsonValue) : V := (json.bind Scalar.getValue).getD default

theorem scalar_read [Scalar V] (default value : V) (json : Option JsonValue) :
    mapScalar (some default) value ⟨false, json⟩ = ((true, readScalar default json), ⟨false, json⟩) := by
  cases json with
  | none => rfl
  | some json => cases read : Scalar.getValue (V := V) json <;> simp [mapScalar, readScalar, unread, read]

theorem scalar_write [Scalar V] (default : Option V) (value : V) (json : JsonValue) :
    mapScalar default value ⟨true, some json⟩ = ((true, value), ⟨true, some (Scalar.setValue value)⟩) := rfl

def readElements (empty : C) (append : C → V → C) (blank : V) (mapItem : Mapping V) : JsonValue → Option C
  | .array elements => readItems mapItem blank append empty elements
  | .null | .bool _ | .number _ | .real _ | .string _ | .object _ => none

def readArr (empty : C) (append : C → V → C) (blank : V) (mapItem : Mapping V) (default : C) (json : Option JsonValue) : C :=
  (json.bind (readElements empty append blank mapItem)).getD default

variable (items : C → List V) (empty : C) (append : C → V → C) (blank : V) (mapItem : Mapping V) (default : C)

theorem arr_read (value : C) (json : Option JsonValue) :
    mapArr items empty append blank mapItem (some default) value ⟨false, json⟩ =
      ((true, readArr empty append blank mapItem default json), ⟨false, json⟩) := by
  cases json with
  | none => rfl
  | some json =>
      cases json with
      | array elements =>
          cases read : readItems mapItem blank append empty elements <;> simp [mapArr, readArr, readElements, unread, read]
      | null | bool | number | real | string | object => rfl

-- An item of an array is read or fails the whole array.
theorem items_iff (readItem : JsonValue → Option V)
    (reads : ∀ j value, readItem j = some value → mapItem blank ⟨false, some j⟩ = ((true, value), ⟨false, some j⟩))
    (fails : ∀ j, readItem j = none → (mapItem blank ⟨false, some j⟩).1.1 = false) (elements : List JsonValue)
    (before after : C) :
    readItems mapItem blank append before elements = some after ↔
      ∃ values, List.Forall₂ (fun j value => readItem j = some value) elements values ∧ after = values.foldl append before := by
  induction elements generalizing before with
  | nil => simp [readItems, eq_comm]
  | cons j rest ih =>
      cases found : readItem j with
      | none =>
          have failed := fails j found
          have stopped : readItems mapItem blank append before (j :: rest) = none := by
            rw [readItems]
            split
            · simp_all
            · rfl
          rw [stopped]
          constructor
          · intro read
            contradiction
          · rintro ⟨values, each, -⟩
            cases each with
            | cons first later =>
                rw [found] at first
                contradiction
      | some value =>
          have step : readItems mapItem blank append before (j :: rest) =
              readItems mapItem blank append (append before value) rest := by rw [readItems, reads j value found]
          rw [step, ih]
          constructor
          · rintro ⟨values, each, rfl⟩
            exact ⟨value :: values, .cons found each, rfl⟩
          · rintro ⟨values, each, rfl⟩
            cases each with
            | cons first later =>
                obtain rfl := Option.some.inj (found.symm.trans first)
                exact ⟨_, later, rfl⟩

variable (write : V → JsonValue)
    (written : ∀ item, mapItem item ⟨true, some (.object [])⟩ = ((true, item), ⟨true, some (write item)⟩))

include written

theorem items_write (values : List V) : writeItems mapItem values = some (values.map write) := by
  induction values with
  | nil => rfl
  | cons item rest ih => simp [writeItems, written, ih]

theorem arr_write (value : C) (json : JsonValue) :
    mapArr items empty append blank mapItem (some default) value ⟨true, some json⟩ =
      ((true, value), ⟨true, some (.array ((items value).map write))⟩) := by
  simp [mapArr, items_write mapItem write written]

omit written in
-- The items that were written come back one after the other.
theorem items_read
    (back : ∀ item, mapItem blank ⟨false, some (write item)⟩ = ((true, item), ⟨false, some (write item)⟩)) (values : List V) (value : C) :
    readItems mapItem blank append value (values.map write) = some (values.foldl append value) := by
  induction values generalizing value with
  | nil => rfl
  | cons item rest ih => simp [readItems, back, ih]

end Values

section Properties
variable {T : Type}

def Property.read (p : Property T) (data : T) (json : Option JsonValue) : T := (p.map data ⟨false, json⟩).1.2

def Property.write (p : Property T) (data : T) : JsonValue := (p.map data ⟨true, some (.object [])⟩).2.json.getD .null

def Property.Total (p : Property T) : Prop :=
  ∀ data json, p.map data ⟨false, json⟩ = ((true, p.read data json), ⟨false, json⟩)

-- What is written depends on the data alone and can be read.
structure Property.Kept (p : Property T) : Prop where
  writes (data : T) (json : JsonValue) : p.map data ⟨true, some json⟩ = ((true, data), ⟨true, some (p.write data)⟩)
  reads (old data : T) : p.map old ⟨false, some (p.write data)⟩ =
    ((true, p.read old (some (p.write data))), ⟨false, some (p.write data)⟩)

def readAll (properties : List (Property T)) (data : T) (json : String → Option JsonValue) : T :=
  properties.foldl (fun read p => p.read read (json p.key)) data

def writeAll (properties : List (Property T)) (data : T) : List (String × JsonValue) :=
  properties.foldl (fun written p => assign written p.key (p.write data)) []

def copyAll (properties : List (Property T)) (data old : T) : T :=
  properties.foldl (fun read p => p.read read (some (p.write data))) old

theorem all_read (properties : List (Property T)) (total : ∀ p ∈ properties, p.Total) (data : T) (json : JsonValue) :
    mapAll properties data ⟨false, some json⟩ = ((true, readAll properties data json.member), ⟨false, some json⟩) := by
  induction properties generalizing data with
  | nil => rfl
  | cons p rest ih =>
      have first := total p List.mem_cons_self data (json.member p.key)
      have later := ih (fun q listed => total q (List.mem_cons_of_mem _ listed)) (p.read data (json.member p.key))
      simpa [mapAll, JsonMapper.index, first, readAll] using later

theorem index_write (p : Property T) (kept : p.Kept) (data : T) (members : List (String × JsonValue)) :
    (⟨true, some (.object members)⟩ : JsonMapper).index p.key (p.map data) =
      ((true, data), ⟨true, some (.object (assign members p.key (p.write data)))⟩) := by
  by_cases present : (get members p.key).isSome = true
  · obtain ⟨json, found⟩ := Option.isSome_iff_exists.mp present
    simp [JsonMapper.index, JsonMapper.index.write, found, kept.writes]
  · have found : get (assign members p.key (.object [])) p.key = some (.object []) := by rw [get_assign, if_pos rfl]
    simp [JsonMapper.index, JsonMapper.index.write, present, found, kept.writes, assign_assign]

section Kept
variable (properties : List (Property T)) (kept : ∀ p ∈ properties, p.Kept)

include kept

theorem all_write (data : T) :
    mapAll properties data ⟨true, some (.object [])⟩ =
      ((true, data), ⟨true, some (.object (writeAll properties data))⟩) := by
  have onto (rest : List (Property T)) (listed : ∀ p ∈ rest, p ∈ properties) (members : List (String × JsonValue)) :
      mapAll rest data ⟨true, some (.object members)⟩ =
        ((true, data), ⟨true, some (.object (rest.foldl (fun l p => assign l p.key (p.write data)) members))⟩) := by
    induction rest generalizing members with
    | nil => rfl
    | cons p rest ih =>
        rw [mapAll, index_write p (kept p (listed p List.mem_cons_self))]
        exact ih (fun q later => listed q (List.mem_cons_of_mem _ later)) _
  exact onto properties (fun _ listed => listed) []

theorem all_back (distinct : (Keyed.keys Property.key properties).Nodup) (data old : T) :
    mapAll properties old ⟨false, some (.object (writeAll properties data))⟩ =
      ((true, copyAll properties data old), ⟨false, some (.object (writeAll properties data))⟩) := by
  have found (p : Property T) (listed : p ∈ properties) :
      get (writeAll properties data) p.key = some (p.write data) :=
    get_written Property.key (fun q => q.write data) properties [] p distinct listed
  have onto (rest : List (Property T)) (listed : ∀ p ∈ rest, p ∈ properties) (old : T) :
      mapAll rest old ⟨false, some (.object (writeAll properties data))⟩ =
        ((true, copyAll rest data old), ⟨false, some (.object (writeAll properties data))⟩) := by
    induction rest generalizing old with
    | nil => rfl
    | cons p rest ih =>
        have here := listed p List.mem_cons_self
        have first := (kept p here).reads old data
        have later := ih (fun q later => listed q (List.mem_cons_of_mem _ later)) (p.read old (some (p.write data)))
        simpa [mapAll, JsonMapper.index, JsonValue.member, found p here, first, copyAll] using later
  exact onto properties (fun _ listed => listed) old

end Kept

end Properties

end RadeonPanel.Userdata
