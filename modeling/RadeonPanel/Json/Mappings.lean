import Mathlib.Data.Finset.Insert
import RadeonPanel.Userdata.JsonMapper

set_option autoImplicit false

namespace RadeonPanel.Json

open Userdata

inductive Size where
  | one
  | two
  | four
  | eight
deriving DecidableEq, Repr

def Size.bits : Size → Nat
  | .one => 8
  | .two => 16
  | .four => 32
  | .eight => 64

structure IntegralType where
  signed : Bool
  size : Size
deriving DecidableEq, Repr

namespace IntegralType

variable (T : IntegralType)

-- A value by its bits.
abbrev Value : Type := BitVec T.size.bits

def number (value : T.Value) : Int := if T.signed then value.toInt else value.toNat

def Representable (n : Int) : Prop := ∃ value : T.Value, T.number value = n

end IntegralType

-- What `IsInt64` and `IsUint64` accept.
def int64 : JsonValue → Option Int
  | .number n => if -2 ^ 63 ≤ n ∧ n < 2 ^ 63 then some n else none
  | .null | .bool _ | .real _ | .string _ | .array _ | .object _ => none

def uint64 : JsonValue → Option Nat
  | .number n => if 0 ≤ n ∧ n.toNat < 2 ^ 64 then some n.toNat else none
  | .null | .bool _ | .real _ | .string _ | .array _ | .object _ => none

-- Up to four bytes are read as 32 bits and cast.
def IntegralType.getValue (T : IntegralType) (json : JsonValue) : Option T.Value :=
  if T.signed then (if T.size.bits ≤ 32 then json.int else int64 json).map (BitVec.ofInt T.size.bits)
  else (if T.size.bits ≤ 32 then json.uint else uint64 json).map (BitVec.ofNat T.size.bits)

-- The cast to the type that is written widens.
def IntegralType.setValue (T : IntegralType) (value : T.Value) : JsonValue := .number (T.number value)

theorem int64_number (n : Int) (low : -2 ^ 63 ≤ n) (high : n < 2 ^ 63) : int64 (.number n) = some n := if_pos ⟨low, high⟩

theorem uint64_number (n : Nat) (small : n < 2 ^ 64) : uint64 (.number n) = some n := by
  have inside : 0 ≤ (n : Int) ∧ (n : Int).toNat < 2 ^ 64 := by omega
  rw [uint64, if_pos inside, Int.toNat_natCast]

theorem signed_number (size : Size) (n : Int) (low : -2 ^ (size.bits - 1) ≤ n) (high : n < 2 ^ (size.bits - 1)) :
    (if size.bits ≤ 32 then (JsonValue.number n).int else int64 (.number n)) = some n := by
  cases size with
  | one | two | four =>
      simp only [Size.bits] at low high
      exact (if_pos (by decide)).trans (int_number n (by omega) (by omega))
  | eight => exact (if_neg (by decide)).trans (int64_number n low high)

theorem unsigned_number (size : Size) (n : Nat) (small : n < 2 ^ size.bits) :
    (if size.bits ≤ 32 then (JsonValue.number n).uint else uint64 (.number n)) = some n := by
  cases size with
  | one | two | four => exact (if_pos (by decide)).trans (uint_number n (Nat.lt_of_lt_of_le small (by decide)))
  | eight => exact (if_neg (by decide)).trans (uint64_number n small)

theorem int_some (json : JsonValue) (n : Int) (read : json.int = some n) : json = .number n ∧ -2 ^ 31 ≤ n ∧ n < 2 ^ 31 := by
  cases json with
  | number m =>
      obtain ⟨inside, same⟩ := Option.ite_none_right_eq_some.mp read
      exact ⟨by rw [Option.some.inj same], Option.some.inj same ▸ inside⟩
  | null | bool | real | string | array | object => cases read

theorem int64_some (json : JsonValue) (n : Int) (read : int64 json = some n) : json = .number n ∧ -2 ^ 63 ≤ n ∧ n < 2 ^ 63 := by
  cases json with
  | number m =>
      obtain ⟨inside, same⟩ := Option.ite_none_right_eq_some.mp read
      exact ⟨by rw [Option.some.inj same], Option.some.inj same ▸ inside⟩
  | null | bool | real | string | array | object => cases read

theorem uint_some (json : JsonValue) (n : Nat) (read : json.uint = some n) : json = .number n ∧ n < 2 ^ 32 := by
  cases json with
  | number m =>
      obtain ⟨inside, same⟩ := Option.ite_none_right_eq_some.mp read
      exact ⟨by rw [← Option.some.inj same, Int.toNat_of_nonneg inside.1], Option.some.inj same ▸ inside.2⟩
  | null | bool | real | string | array | object => cases read

theorem uint64_some (json : JsonValue) (n : Nat) (read : uint64 json = some n) : json = .number n ∧ n < 2 ^ 64 := by
  cases json with
  | number m =>
      obtain ⟨inside, same⟩ := Option.ite_none_right_eq_some.mp read
      exact ⟨by rw [← Option.some.inj same, Int.toNat_of_nonneg inside.1], Option.some.inj same ▸ inside.2⟩
  | null | bool | real | string | array | object => cases read

theorem signed_some (size : Size) (wide : 32 ≤ size.bits) (json : JsonValue) (n : Int)
    (read : (if size.bits ≤ 32 then json.int else int64 json) = some n) :
    json = .number n ∧ -2 ^ (size.bits - 1) ≤ n ∧ n < 2 ^ (size.bits - 1) := by
  cases size with
  | one | two => exact absurd wide (by decide)
  | four => exact int_some json n read
  | eight => exact int64_some json n read

theorem unsigned_some (size : Size) (wide : 32 ≤ size.bits) (json : JsonValue) (n : Nat)
    (read : (if size.bits ≤ 32 then json.uint else uint64 json) = some n) : json = .number n ∧ n < 2 ^ size.bits := by
  cases size with
  | one | two => exact absurd wide (by decide)
  | four => exact uint_some json n read
  | eight => exact uint64_some json n read

namespace IntegralType

variable (T : IntegralType)

theorem get_set (value : T.Value) : T.getValue (T.setValue value) = some value := by
  cases kind : T.signed with
  | false =>
      simp only [getValue, setValue, number, kind, Bool.false_eq_true, if_false, unsigned_number T.size value.toNat value.isLt,
        Option.map_some, BitVec.ofNat_toNat, BitVec.setWidth_eq]
  | true =>
      simp only [getValue, setValue, number, kind, if_true, signed_number T.size value.toInt (BitVec.le_toInt value) BitVec.toInt_lt,
        Option.map_some, BitVec.ofInt_toInt]

-- Of 32 bits and more nothing is cut off: what is read is the number that stands there.
theorem get_number (wide : 32 ≤ T.size.bits) (json : JsonValue) (value : T.Value) :
    T.getValue json = some value ↔ json = .number (T.number value) := by
  constructor
  · intro read
    cases kind : T.signed with
    | false =>
        simp only [getValue, kind, Bool.false_eq_true, if_false] at read
        obtain ⟨n, found, same⟩ := Option.map_eq_some_iff.mp read
        obtain ⟨stands, small⟩ := unsigned_some T.size wide json n found
        rw [stands, ← same, number, kind, if_neg Bool.false_ne_true, BitVec.toNat_ofNat, Nat.mod_eq_of_lt small]
    | true =>
        simp only [getValue, kind, if_true] at read
        obtain ⟨n, found, same⟩ := Option.map_eq_some_iff.mp read
        obtain ⟨stands, low, high⟩ := signed_some T.size wide json n found
        have positive : 0 < T.size.bits := Nat.lt_of_lt_of_le (by decide) wide
        rw [stands, ← same, number, kind, if_pos rfl, BitVec.toInt_ofInt_eq_self positive low high]
  · rintro rfl
    exact T.get_set value

theorem reads_iff_representable (wide : 32 ≤ T.size.bits) (n : Int) : (T.getValue (.number n)).isSome ↔ T.Representable n := by
  rw [Option.isSome_iff_exists]
  refine exists_congr fun value => (T.get_number wide (.number n) value).trans ?_
  exact ⟨fun same => (JsonValue.number.inj same).symm, fun same => by rw [same]⟩

end IntegralType

inductive ScalarType where
  | bool
  | string
  | integral (T : IntegralType)
  | enum (underlying : IntegralType)
deriving DecidableEq, Repr

namespace ScalarType

-- An enumeration has every value of its underlying type.
def Value : ScalarType → Type
  | .bool => Bool
  | .string => String
  | .integral T | .enum T => T.Value

instance (T : ScalarType) : DecidableEq T.Value :=
  match T with
  | .bool => inferInstanceAs (DecidableEq Bool)
  | .string => inferInstanceAs (DecidableEq String)
  | .integral T | .enum T => inferInstanceAs (DecidableEq T.Value)

instance (T : ScalarType) : Scalar T.Value :=
  match T with
  | .bool => inferInstanceAs (Scalar Bool)
  | .string => inferInstanceAs (Scalar String)
  | .integral T | .enum T => ⟨T.getValue, T.setValue, T.get_set⟩

end ScalarType

section Map
variable {V C : Type} [Scalar V]

def mapOptional : Mapping (Option V) := fun value m =>
  match m.json with
  | none => (if m.isSerializing then (false, value) else (true, none), m)
  | some json =>
      if m.isSerializing then
        match value with
        | some present => ((true, value), { m with json := some (Scalar.setValue present) })
        | none => ((false, value), m)
      else
        match Scalar.getValue json with
        | some read => ((true, some read), m)
        | none => ((false, none), m)

def serializeContainer (items : C → List V) (value : C) : JsonValue := .array ((items value).map Scalar.setValue)

-- What has been read when an element fails stays in the container.
def deserializeElements (append : C → V → C) (value : C) : List JsonValue → Bool × C
  | [] => (true, value)
  | json :: rest =>
      match Scalar.getValue json with
      | some elem => deserializeElements append (append value elem) rest
      | none => (false, value)

def deserializeContainer (empty : C) (append : C → V → C) (value : C) : JsonValue → Bool × C
  | .array elements => deserializeElements append empty elements
  | .null | .bool _ | .number _ | .real _ | .string _ | .object _ => (false, value)

def mapContainer (items : C → List V) (empty : C) (append : C → V → C) (default : Option C) : Mapping C := fun value m =>
  match m.json with
  | none => (if m.isSerializing then (false, value) else unread value default, m)
  | some json =>
      if m.isSerializing then ((true, value), { m with json := some (serializeContainer items value) })
      else
        match deserializeContainer empty append value json with
        | (true, read) => ((true, read), m)
        | (false, left) => (unread left default, m)

theorem elements_back (append : C → V → C) (value : C) (elements : List V) :
    deserializeElements append value (elements.map Scalar.setValue) = (true, elements.foldl append value) := by
  induction elements generalizing value with
  | nil => rfl
  | cons elem rest ih => simp [deserializeElements, Scalar.get_set, ih]

end Map

section Containers
variable {V : Type}

theorem pushed_back (elements filled : List V) : elements.foldl (fun v item => v ++ [item]) filled = filled ++ elements := by
  induction elements generalizing filled with
  | nil => exact (List.append_nil filled).symm
  | cons elem rest ih => rw [List.foldl_cons, ih, List.append_assoc, List.singleton_append]

variable [DecidableEq V]

-- How an unordered set is walked: every element once, in an order of its own.
structure Iteration (V : Type) [DecidableEq V] where
  items : Finset V → List V
  once : ∀ s, (items s).Nodup
  each : ∀ s v, v ∈ items s ↔ v ∈ s

theorem emplaced (elements : List V) (s : Finset V) (v : V) :
    v ∈ elements.foldl (fun s item => insert item s) s ↔ v ∈ s ∨ v ∈ elements := by
  induction elements generalizing s with
  | nil => simp
  | cons elem rest ih =>
      rw [List.foldl_cons, ih, Finset.mem_insert, List.mem_cons]
      tauto

theorem walked_back (walk : Iteration V) (s : Finset V) : (walk.items s).foldl (fun s item => insert item s) ∅ = s := by
  ext v
  rw [emplaced, walk.each]
  simp

end Containers

end RadeonPanel.Json
