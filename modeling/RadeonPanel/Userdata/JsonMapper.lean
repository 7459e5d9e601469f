import Mathlib.Algebra.Group.Int.Defs
import Mathlib.Algebra.Group.Nat.Defs
import RadeonPanel.Base.KeyedValues

set_option autoImplicit false

namespace RadeonPanel.Userdata

open KeyedValues

-- A parsed document. `number` is an integer that the library keeps as one, every
-- other number is a `real`. A key may come twice, and the first counts.
inductive JsonValue where
  | null
  | bool (value : Bool)
  | number (value : Int)
  | real (text : String)
  | string (value : String)
  | array (items : List JsonValue)
  | object (members : List (String × JsonValue))
deriving Repr

def JsonValue.member : JsonValue → String → Option JsonValue
  | .object members, key => get members key
  | .null, _ | .bool _, _ | .number _, _ | .real _, _ | .string _, _ | .array _, _ => none

-- What `IsUint` and `IsInt` accept.
def JsonValue.uint : JsonValue → Option Nat
  | .number n => if 0 ≤ n ∧ n.toNat < 2 ^ 32 then some n.toNat else none
  | .null | .bool _ | .real _ | .string _ | .array _ | .object _ => none

def JsonValue.int : JsonValue → Option Int
  | .number n => if -2 ^ 31 ≤ n ∧ n < 2 ^ 31 then some n else none
  | .null | .bool _ | .real _ | .string _ | .array _ | .object _ => none

theorem uint_number (n : Nat) (small : n < 2 ^ 32) : (JsonValue.number n).uint = some n := by
  have inside : 0 ≤ (n : Int) ∧ (n : Int).toNat < 2 ^ 32 := by omega
  rw [JsonValue.uint, if_pos inside, Int.toNat_natCast]

theorem int_number (n : Int) (low : -2 ^ 31 ≤ n) (high : n < 2 ^ 31) : (JsonValue.number n).int = some n := by
  rw [JsonValue.int, if_pos ⟨low, high⟩]

-- GetValue and SetValue for the types that the userdata has. Unsigned types of
-- up to four bytes are all read as 32 bits and cast.
class Scalar (V : Type) where
  getValue : JsonValue → Option V
  setValue : V → JsonValue
  get_set : ∀ value, getValue (setValue value) = some value

instance : Scalar Bool where
  getValue
    | .bool value => some value
    | .null | .number _ | .real _ | .string _ | .array _ | .object _ => none
  setValue := .bool
  get_set _ := rfl

instance : Scalar String where
  getValue
    | .string value => some value
    | .null | .bool _ | .number _ | .real _ | .array _ | .object _ => none
  setValue := .string
  get_set _ := rfl

instance : Scalar UInt32 where
  getValue json := json.uint.map UInt32.ofNat
  setValue value := .number value.toNat
  get_set value := by simp [uint_number _ value.toNat_lt]

instance : Scalar UInt8 where
  getValue json := json.uint.map UInt8.ofNat
  setValue value := .number value.toNat
  get_set value := by
    have bound := value.toNat_lt
    simp [uint_number value.toNat (by omega)]

instance : Scalar Int32 where
  getValue json := json.int.map Int32.ofInt
  setValue value := .number value.toInt
  get_set value := by simp [int_number _ value.le_toInt value.toInt_lt]

-- Without a value the mapper is not valid.
structure JsonMapper where
  isSerializing : Bool
  json : Option JsonValue
deriving Repr

-- A mapping reads or writes a value, tells whether it could, and leaves the
-- document behind that the mapper points into.
abbrev Mapping (T : Type) := T → JsonMapper → (Bool × T) × JsonMapper

-- `operator[]` points into the document: what is written through it is put back.
def JsonMapper.index {α : Type} (m : JsonMapper) (key : String) (use : JsonMapper → α × JsonMapper) : α × JsonMapper :=
  match m.json with
  | none => ((use m).1, m)
  | some json =>
      if m.isSerializing then
        match json with
        | .null => write []
        | .object members => write members
        | .bool _ | .number _ | .real _ | .string _ | .array _ => ((use ⟨true, none⟩).1, m)
      else ((use ⟨false, json.member key⟩).1, m)
where
  write (members : List (String × JsonValue)) : α × JsonMapper :=
    let present := if (get members key).isSome then members else assign members key (.object [])
    let r := use ⟨true, get present key⟩
    (r.1, ⟨true, some (.object (match r.2.json with
      | none => present
      | some written => assign present key written))⟩)

section Map
variable {V : Type}

-- Without a default the value has to be there.
def unread (value : V) : Option V → Bool × V
  | none => (false, value)
  | some default => (true, default)

def mapScalar [Scalar V] (default : Option V) : Mapping V := fun value m =>
  match m.json with
  | none => (if m.isSerializing then (false, value) else unread value default, m)
  | some json =>
      if m.isSerializing then ((true, value), { m with json := some (Scalar.setValue value) })
      else
        match Scalar.getValue json with
        | some read => ((true, read), m)
        | none => (unread value default, m)

variable {C : Type}

def writeItems (mapItem : Mapping V) : List V → Option (List JsonValue)
  | [] => some []
  | item :: rest =>
      match mapItem item ⟨true, some (.object [])⟩ with
      | ((true, _), ⟨_, some written⟩) => (writeItems mapItem rest).map (written :: ·)
      | _ => none

def readItems (mapItem : Mapping V) (blank : V) (append : C → V → C) (value : C) : List JsonValue → Option C
  | [] => some value
  | json :: rest =>
      match mapItem blank ⟨false, some json⟩ with
      | ((true, item), _) => readItems mapItem blank append (append value item) rest
      | ((false, _), _) => none

-- `items` are the container's in the order of its iteration; reading starts from
-- the empty one.
def mapArr (items : C → List V) (empty : C) (append : C → V → C) (blank : V) (mapItem : Mapping V) (default : Option C) :
    Mapping C := fun value m =>
  match m.json with
  | none => (if m.isSerializing then (false, value) else unread empty default, m)
  | some json =>
      if m.isSerializing then
        match writeItems mapItem (items value) with
        | none => ((false, value), m)
        | some written => ((true, value), { m with json := some (.array written) })
      else
        match json with
        | .array elements =>
            match readItems mapItem blank append empty elements with
            | some read => ((true, read), m)
            | none => (unread empty default, m)
        | .null | .bool _ | .number _ | .real _ | .string _ | .object _ => (unread empty default, m)

end Map

section Properties
variable {T V : Type}

-- One `mapper[key](…)`: what is done with the value at the key.
structure Property (T : Type) where
  key : String
  map : Mapping T

def property (key : String) (get : T → V) (set : T → V → T) (map : Mapping V) : Property T where
  key := key
  map data m :=
    let r := map (get data) m
    ((r.1.1, set data r.1.2), r.2)

-- `&&` stops at the first mapping that fails.
def mapAll : List (Property T) → Mapping T
  | [], data, m => ((true, data), m)
  | p :: rest, data, m =>
      match m.index p.key (p.map data) with
      | ((true, next), left) => mapAll rest next left
      | ((false, next), left) => ((false, next), left)

end Properties

end RadeonPanel.Userdata
