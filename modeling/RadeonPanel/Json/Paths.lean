import RadeonPanel.Base.PathStore
import RadeonPanel.Json.Mappings

set_option autoImplicit false

namespace RadeonPanel.Json

open KeyedValues PathStore Userdata

-- What a C string keeps of a key.
def cStr (key : String) : String := String.ofList (key.toList.takeWhile (· ≠ Char.ofNat 0))

-- `operator[]` with any key: members are looked for by the C string, a new one has
-- the whole key, and the library asserts (`none`) where the look-up finds nothing.
def subscript {α : Type} (m : JsonMapper) (key : String) (use : JsonMapper → Option (α × JsonMapper)) : Option (α × JsonMapper) :=
  match m.json with
  | none => (use m).map fun r => (r.1, m)
  | some json =>
      if m.isSerializing then
        match json with
        | .null => write []
        | .object members => write members
        | .bool _ | .number _ | .real _ | .string _ | .array _ => (use ⟨true, none⟩).map fun r => (r.1, m)
      else (use ⟨false, json.member (cStr key)⟩).map fun r => (r.1, m)
where
  write (members : List (String × JsonValue)) : Option (α × JsonMapper) :=
    let present := if (get members (cStr key)).isSome then members else members ++ [(key, .object [])]
    match get present (cStr key) with
    | none => none
    | some child =>
        (use ⟨true, some child⟩).map fun r => (r.1, ⟨true, some (.object (match r.2.json with
          | none => present
          | some written => assign present (cStr key) written))⟩)

def subscripts {α : Type} (use : JsonMapper → Option (α × JsonMapper)) : List String → JsonMapper → Option (α × JsonMapper)
  | [], m => use m
  | key :: rest, m => subscript m key (subscripts use rest)

def indexPath {α : Type} (use : JsonMapper → α × JsonMapper) : List String → JsonMapper → α × JsonMapper
  | [], m => use m
  | key :: rest, m => m.index key (indexPath use rest)

section Index
variable {α : Type} (use : JsonMapper → α × JsonMapper) (key : String)

-- A key without a NUL is found as it is.
theorem subscript_index (plain : cStr key = key) (m : JsonMapper) :
    subscript m key (fun m => some (use m)) = some (m.index key use) := by
  have write (members : List (String × JsonValue)) :
      subscript.write key (fun m => some (use m)) members = some (JsonMapper.index.write key use members) := by
    cases known : get members key with
    | some child =>
        cases written : (use ⟨true, some child⟩).2.json <;> simp [subscript.write, JsonMapper.index.write, plain, known, written]
    | none =>
        have added : get (members ++ [(key, .object [])]) key = some (.object []) := by
          rw [get_append, known, Option.none_or, get_cons, if_pos rfl]
        cases written : (use ⟨true, some (.object [])⟩).2.json <;>
          simp [subscript.write, JsonMapper.index.write, plain, known, added, assign_absent members key _ known, written]
  obtain ⟨isSerializing, json⟩ := m
  cases json with
  | none => rfl
  | some json =>
      cases isSerializing with
      | false => simp [subscript, JsonMapper.index, plain]
      | true =>
          cases json with
          | null => exact write []
          | object members => exact write members
          | bool | number | real | string | array => rfl

theorem subscripts_index (path : List String) (plain : ∀ key ∈ path, cStr key = key) (m : JsonMapper) :
    subscripts (fun m => some (use m)) path m = some (indexPath use path m) := by
  induction path generalizing m with
  | nil => rfl
  | cons key rest ih =>
      have inside : subscripts (fun m => some (use m)) rest = fun m => some (indexPath use rest m) :=
        funext (ih fun k member => plain k (List.mem_cons_of_mem key member))
      rw [subscripts, inside, subscript_index _ key (plain key List.mem_cons_self), indexPath]

end Index

-- What a document has at a path, and the document as what stands at each path.
def descend : List String → JsonValue → Option JsonValue
  | [], json => some json
  | key :: rest, json => (json.member key).bind (descend rest)

def node : JsonValue → Node JsonValue
  | .null | .object _ => .inner
  | .bool value => .value (.bool value)
  | .number value => .value (.number value)
  | .real text => .value (.real text)
  | .string value => .value (.string value)
  | .array items => .value (.array items)

def view (doc : JsonValue) : Store String JsonValue := fun path => (descend path doc).map node

theorem view_nil (doc : JsonValue) : view doc [] = some (node doc) := rfl

theorem view_below (doc : JsonValue) (key : String) : below (view doc) key = fun path => (doc.member key).bind fun child => view child path := by
  funext path
  simp only [below, view, descend, Option.map_bind]
  rfl

-- Where there is no member, an object is put.
theorem view_child (doc : JsonValue) (key : String) :
    view ((doc.member key).getD (.object [])) = touch [] (below (view doc) key) := by
  rw [view_below]
  funext path
  cases known : doc.member key with
  | some child =>
      cases path with
      | nil => rfl
      | cons k q => simp [touch]
  | none =>
      cases path with
      | nil => rfl
      | cons k q => simp [touch, view, descend, JsonValue.member, KeyedValues.get, Keyed.lookup]

-- One call of a mapper that writes: a value, an optional, a container of values or an
-- array whose items a callback writes. A double is known by its text.
inductive Update where
  | scalar (T : ScalarType) (value : T.Value)
  | floating (double : String)
  | optional (T : ScalarType) (value : Option T.Value)
  | container (T : ScalarType) (elements : List T.Value)
  | items {V : Type} (blank : V) (mapItem : Mapping V) (elements : List V)

def pushBack {V : Type} (v : List V) (item : V) : List V := v ++ [item]

def Update.perform (u : Update) (m : JsonMapper) : Bool × JsonMapper :=
  match u with
  | .scalar _ value => told (mapScalar none value m)
  | .floating double =>
      match m.json with
      | none => (false, m)
      | some _ => (true, { m with json := some (.real double) })
  | .optional _ value => told (mapOptional value m)
  | .container _ elements => told (mapContainer id [] pushBack none elements m)
  | .items blank mapItem elements => told (mapArr id [] pushBack blank mapItem none elements m)
where
  told {V : Type} (r : (Bool × V) × JsonMapper) : Bool × JsonMapper := (r.1.1, r.2)

-- What the write puts into the document, if it has something to put.
def Update.written : Update → Option JsonValue
  | .scalar _ value => some (Scalar.setValue value)
  | .floating double => some (.real double)
  | .optional _ value => value.map Scalar.setValue
  | .container _ elements => some (.array (elements.map Scalar.setValue))
  | .items _ mapItem elements => (writeItems mapItem elements).map .array

theorem set_leaf (T : ScalarType) (value : T.Value) : node (Scalar.setValue value) = .value (Scalar.setValue value) := by
  cases T <;> rfl

namespace Update

variable (u : Update)

theorem perform_invalid : u.perform ⟨true, none⟩ = (false, ⟨true, none⟩) := by
  cases u <;> rfl

theorem perform_written (json v : JsonValue) (has : u.written = some v) : u.perform ⟨true, some json⟩ = (true, ⟨true, some v⟩) := by
  cases u with
  | scalar T value => rw [← Option.some.inj has]; rfl
  | floating double => rw [← Option.some.inj has]; rfl
  | optional T value =>
      obtain ⟨present, rfl, same⟩ := Option.map_eq_some_iff.mp has
      rw [← same]
      rfl
  | container T elements => rw [← Option.some.inj has]; rfl
  | items blank mapItem elements =>
      obtain ⟨written, found, same⟩ := Option.map_eq_some_iff.mp has
      simp [perform, perform.told, mapArr, found, same]

theorem perform_nothing (json : JsonValue) (has : u.written = none) : u.perform ⟨true, some json⟩ = (false, ⟨true, some json⟩) := by
  cases u with
  | scalar | floating | container => cases has
  | optional T value => rw [Option.map_eq_none_iff.mp has]; rfl
  | items blank mapItem elements => simp [perform, perform.told, mapArr, Option.map_eq_none_iff.mp has]

theorem written_leaf (v : JsonValue) (has : u.written = some v) : node v = .value v := by
  cases u with
  | scalar T value => exact Option.some.inj has ▸ set_leaf T value
  | floating double => exact Option.some.inj has ▸ rfl
  | optional T value =>
      obtain ⟨present, rfl, same⟩ := Option.map_eq_some_iff.mp has
      exact same ▸ set_leaf T present
  | container T elements => exact Option.some.inj has ▸ rfl
  | items blank mapItem elements =>
      obtain ⟨written, _, same⟩ := Option.map_eq_some_iff.mp has
      exact same ▸ rfl

end Update

section Index
variable (use : JsonMapper → Bool × JsonMapper) (key : String)

theorem index_value (doc v : JsonValue) (leaf : node doc = .value v) :
    (⟨true, some doc⟩ : JsonMapper).index key use = ((use ⟨true, none⟩).1, ⟨true, some doc⟩) := by
  cases doc with
  | null | object => cases leaf
  | bool | number | real | string | array => rfl

theorem index_inner (doc child : JsonValue) (inner : node doc = .inner) (done : Bool) (left : JsonValue)
    (isChild : (doc.member key).getD (.object []) = child) (used : use ⟨true, some child⟩ = (done, ⟨true, some left⟩)) :
    ∃ after, (⟨true, some doc⟩ : JsonMapper).index key use = (done, ⟨true, some after⟩) ∧ node after = .inner ∧
      ∀ k, after.member k = if key = k then some left else doc.member k := by
  have write (members : List (String × JsonValue)) (same : (get members key).getD (.object []) = child) :
      ∃ written, JsonMapper.index.write key use members = (done, ⟨true, some (.object written)⟩) ∧
        ∀ k, get written k = if key = k then some left else get members k := by
    cases known : get members key with
    | some found =>
        rw [known, Option.getD_some] at same
        refine ⟨assign members key left, ?_, get_assign members key left⟩
        simp [JsonMapper.index.write, known, same, used]
    | none =>
        rw [known, Option.getD_none] at same
        refine ⟨assign members key left, ?_, get_assign members key left⟩
        simp [JsonMapper.index.write, known, get_assign, same, used, assign_assign]
  cases doc with
  | null =>
      obtain ⟨written, same, members⟩ := write [] isChild
      exact ⟨.object written, same, rfl, members⟩
  | object members =>
      obtain ⟨written, same, after⟩ := write members isChild
      exact ⟨.object written, same, rfl, after⟩
  | bool | number | real | string | array => cases inner

theorem index_present (members : List (String × JsonValue)) (child left : JsonValue) (done : Bool) (found : get members key = some child)
    (used : use ⟨true, some child⟩ = (done, ⟨true, some left⟩)) :
    (⟨true, some (.object members)⟩ : JsonMapper).index key use = (done, ⟨true, some (.object (assign members key left))⟩) := by
  simp [JsonMapper.index, JsonMapper.index.write, found, used]

end Index

theorem member_object (doc child : JsonValue) (key : String) (found : doc.member key = some child) :
    ∃ members, doc = .object members ∧ get members key = some child := by
  cases doc with
  | object members => exact ⟨members, rfl, found⟩
  | null | bool | number | real | string | array => cases found

section Paths
variable (u : Update)

-- Behind a value nothing is reached, and the nodes before it are there already.
theorem path_blocked (path : List String) (doc : JsonValue) (blocked : Blocked (view doc) path) :
    indexPath u.perform path ⟨true, some doc⟩ = (false, ⟨true, some doc⟩) := by
  have invalid (path : List String) : indexPath u.perform path ⟨true, none⟩ = (false, ⟨true, none⟩) := by
    induction path with
    | nil => exact u.perform_invalid
    | cons key rest ih => rw [indexPath, JsonMapper.index, ih]
  induction path generalizing doc with
  | nil => exact absurd blocked (never_blocked_nil _)
  | cons key rest ih =>
      obtain ⟨v, leaf⟩ | inside := (blocked_cons (view doc) key rest).mp blocked
      · rw [indexPath, index_value _ key doc v (Option.some.inj leaf), invalid]
      · cases known : doc.member key with
        | none =>
            obtain ⟨reached, v, _, _, stands⟩ := inside
            rw [view_below, known] at stands
            cases stands
        | some child =>
            have stopped := ih child (by rw [view_below, known] at inside; exact inside)
            obtain ⟨members, rfl, found⟩ := member_object doc child key known
            rw [indexPath, index_present _ key members child child false found stopped, assign_same members key child found]

theorem path_free (path : List String) (doc : JsonValue) (free : ¬ Blocked (view doc) path) :
    ∃ after, indexPath u.perform path ⟨true, some doc⟩ = (u.written.isSome, ⟨true, some after⟩) ∧
      view after = PathStore.write (view doc) ⟨path, u.written⟩ := by
  induction path generalizing doc with
  | nil =>
      cases has : u.written with
      | none =>
          refine ⟨doc, u.perform_nothing doc has, ?_⟩
          rw [write_touch _ _ free]
          funext q
          cases q with
          | nil => rfl
          | cons k q => simp [touch]
      | some v =>
          refine ⟨v, u.perform_written doc v has, ?_⟩
          have leaf := u.written_leaf v has
          rw [write_put _ _ v free]
          funext q
          rw [put_nil]
          cases q with
          | nil => rw [view_nil, leaf, if_pos rfl]
          | cons k q =>
              cases v with
              | null | object => cases leaf
              | bool | number | real | string | array => rfl
  | cons key rest ih =>
      have notBlocked := mt (blocked_cons (view doc) key rest).mpr free
      obtain ⟨noValue, inside⟩ := not_or.mp notBlocked
      have inner : node doc = .inner := by
        cases kind : node doc with
        | inner => rfl
        | value v => exact absurd ⟨v, by rw [view_nil, kind]⟩ noValue
      have rooted := view_child doc key
      obtain ⟨left, used, after⟩ := ih ((doc.member key).getD (.object [])) (by rwa [rooted, blocked_rooted])
      rw [rooted, write_rooted _ _ _ inside] at after
      obtain ⟨whole, done, isInner, members⟩ := index_inner _ key doc _ inner _ left rfl used
      refine ⟨whole, done, ?_⟩
      funext q
      cases q with
      | nil => rw [write_cons_nil _ key rest _ free (by rw [view_nil, inner]), view_nil, isInner]
      | cons k q =>
          rw [write_cons _ key rest _ free, ← after]
          simp only [view, descend, members]
          by_cases same : k = key
          · rw [if_pos same, if_pos same.symm, Option.bind_some]
          · rw [if_neg same, if_neg (Ne.symm same)]

end Paths

-- A write through a path whose keys are C strings.
structure PathUpdate where
  path : List String
  plain : ∀ key ∈ path, cStr key = key
  update : Update

def PathUpdate.perform (w : PathUpdate) (m : JsonMapper) : Option (Bool × JsonMapper) :=
  subscripts (fun m => some (w.update.perform m)) w.path m

def performAll : List PathUpdate → JsonMapper → Option JsonMapper
  | [], m => some m
  | w :: rest, m => (w.perform m).bind fun r => performAll rest r.2

def JsonMapper.serialize : JsonMapper := ⟨true, some (.object [])⟩

-- No write succeeds at the path or at one that the path begins with.
def NeverReplaced (path : List String) : List PathUpdate → JsonMapper → Prop
  | [], _ => True
  | w :: rest, m => ∀ done next, w.perform m = some (done, next) → (done = true → ¬ w.path <+: path) ∧ NeverReplaced path rest next

def PathUpdate.write (w : PathUpdate) : PathStore.Write String JsonValue := ⟨w.path, w.update.written⟩

structure PathUpdate.Refines (w : PathUpdate) (doc : JsonValue) (done : Bool) (after : JsonValue) : Prop where
  performed : w.perform ⟨true, some doc⟩ = some (done, ⟨true, some after⟩)
  stored : view after = PathStore.write (view doc) w.write
  succeeds : done = true ↔ Succeeds (view doc) w.write
  blocked : Blocked (view doc) w.path → done = false ∧ after = doc

theorem perform_refines (w : PathUpdate) (doc : JsonValue) : ∃ done after, w.Refines doc done after := by
  have asIndex := subscripts_index w.update.perform w.path w.plain ⟨true, some doc⟩
  by_cases blocked : Blocked (view doc) w.path
  · refine ⟨false, doc, ?_, (write_blocked _ w.write blocked).symm, ?_, fun _ => ⟨rfl, rfl⟩⟩
    · rw [PathUpdate.perform, asIndex, path_blocked w.update w.path doc blocked]
    · exact ⟨fun done => absurd done Bool.false_ne_true, fun free => absurd blocked free.1⟩
  · obtain ⟨after, done, stored⟩ := path_free w.update w.path doc blocked
    refine ⟨_, after, by rw [PathUpdate.perform, asIndex, done], stored, ?_, fun stopped => absurd stopped blocked⟩
    exact ⟨fun some' => ⟨blocked, some'⟩, fun free => free.2⟩

theorem perform_all_refines (updates : List PathUpdate) (doc : JsonValue) :
    ∃ final, performAll updates ⟨true, some doc⟩ = some ⟨true, some final⟩ ∧
      view final = (updates.map PathUpdate.write).foldl PathStore.write (view doc) := by
  induction updates generalizing doc with
  | nil => exact ⟨doc, rfl, rfl⟩
  | cons w rest ih =>
      obtain ⟨done, after, step⟩ := perform_refines w doc
      obtain ⟨final, performed, stored⟩ := ih after
      refine ⟨final, ?_, ?_⟩
      · rw [performAll, step.performed, Option.bind_some, performed]
      · rw [stored, step.stored, List.map_cons, List.foldl_cons]

theorem never_replaced_refines (path : List String) (updates : List PathUpdate) (doc : JsonValue)
    (kept : NeverReplaced path updates ⟨true, some doc⟩) : Unreplaced path (view doc) (updates.map PathUpdate.write) := by
  induction updates generalizing doc with
  | nil => trivial
  | cons w rest ih =>
      obtain ⟨done, after, step⟩ := perform_refines w doc
      obtain ⟨apart, later⟩ := kept done ⟨true, some after⟩ step.performed
      refine ⟨fun succeeds => apart (step.succeeds.mpr succeeds), ?_⟩
      rw [← step.stored]
      exact ih after later

-- Reading navigates to a mapper and leaves the document as it is.
theorem path_read (path : List String) (json : Option JsonValue) :
    indexPath (fun m => (m, m)) path ⟨false, json⟩ = (⟨false, json.bind (descend path)⟩, ⟨false, json⟩) := by
  induction path generalizing json with
  | nil => cases json <;> rfl
  | cons key rest ih =>
      cases json with
      | none => simp [indexPath, JsonMapper.index, ih]
      | some json => simp [indexPath, JsonMapper.index, ih, descend]

theorem node_value (json v : JsonValue) (leaf : node json = .value v) : json = v := by
  cases json with
  | null | object => cases leaf
  | bool | number | real | string | array => exact Node.value.inj leaf

-- Read again with the same type, the value comes back.
def Update.ReadsBack (u : Update) (read : JsonMapper) : Prop :=
  match u with
  | .scalar _ value => ∀ old, (mapScalar none old read).1 = (true, value)
  | .floating double => read = ⟨false, some (.real double)⟩
  | .optional _ value => ∀ old, (mapOptional old read).1 = (true, value)
  | .container _ elements => ∀ old, (mapContainer id [] pushBack none old read).1 = (true, elements)
  | .items _ mapItem elements => ∃ items, writeItems mapItem elements = some items ∧ read = ⟨false, some (.array items)⟩

theorem written_back (u : Update) (v : JsonValue) (has : u.written = some v) : u.ReadsBack ⟨false, some v⟩ := by
  cases u with
  | scalar T value =>
      intro old
      simp [← Option.some.inj has, mapScalar, Scalar.get_set]
  | floating double => rw [← Option.some.inj has]; rfl
  | optional T value =>
      intro old
      obtain ⟨present, rfl, same⟩ := Option.map_eq_some_iff.mp has
      simp [← same, mapOptional, Scalar.get_set]
  | container T elements =>
      intro old
      have back := elements_back pushBack ([] : List T.Value) elements
      rw [show elements.foldl pushBack [] = elements from pushed_back elements []] at back
      simp [← Option.some.inj has, mapContainer, deserializeContainer, back]
  | items blank mapItem elements =>
      obtain ⟨items, written, same⟩ := Option.map_eq_some_iff.mp has
      exact ⟨items, written, by rw [same]⟩

-- A write in the middle of others: the document before it and after it, and the last one.
structure PathWrites (before : List PathUpdate) (w : PathUpdate) (later : List PathUpdate) (doc : JsonValue) (done : Bool)
    (after final : JsonValue) : Prop where
  begun : performAll before JsonMapper.serialize = some ⟨true, some doc⟩
  performed : w.perform ⟨true, some doc⟩ = some (done, ⟨true, some after⟩)
  ended : performAll later ⟨true, some after⟩ = some ⟨true, some final⟩
  lastWins : done = true → NeverReplaced w.path later ⟨true, some after⟩ →
    ∃ read, subscripts (fun m => some (m, m)) w.path ⟨false, some final⟩ = some (read, ⟨false, some final⟩) ∧ w.update.ReadsBack read
  blocked : Blocked (view doc) w.path → done = false ∧ after = doc
  failed : done = false → ¬ Blocked (view doc) w.path → view after = touch w.path (view doc)

theorem last_writer_wins (before : List PathUpdate) (w : PathUpdate) (later : List PathUpdate) :
    ∃ doc done after final, PathWrites before w later doc done after final := by
  obtain ⟨doc, begun, _⟩ := perform_all_refines before (.object [])
  obtain ⟨done, after, step⟩ := perform_refines w doc
  obtain ⟨final, ended, stored⟩ := perform_all_refines later after
  refine ⟨doc, done, after, final, begun, step.performed, ended, ?_, step.blocked, ?_⟩
  · intro succeeded kept
    obtain ⟨free, has⟩ := step.succeeds.mp succeeded
    obtain ⟨v, has⟩ := Option.isSome_iff_exists.mp has
    have written : w.write = ⟨w.path, some v⟩ := congrArg (PathStore.Write.mk w.path) has
    have apart := never_replaced_refines w.path later after kept
    rw [step.stored, written] at apart
    have remains := last_write_stands (view doc) w.path v _ free apart
    rw [List.foldl_cons, ← written, ← step.stored, ← stored] at remains
    obtain ⟨json, reached, leaf⟩ := Option.map_eq_some_iff.mp remains
    obtain rfl := node_value json v leaf
    refine ⟨⟨false, some json⟩, ?_, written_back w.update json has⟩
    rw [subscripts_index (fun m => (m, m)) w.path w.plain, path_read, Option.bind_some, reached]
  · intro unsuccessful free
    have nothing : w.update.written = none := by
      by_contra has
      have succeeded := step.succeeds.mpr ⟨free, Option.isSome_iff_ne_none.mpr has⟩
      rw [unsuccessful] at succeeded
      exact Bool.false_ne_true succeeded
    rw [step.stored, show w.write = ⟨w.path, none⟩ from congrArg (PathStore.Write.mk w.path) nothing, write_touch _ _ free]

def emptyOptional : PathUpdate := ⟨["a"], by decide, .optional .bool none⟩

-- An empty optional is not written, and yet its property is there afterwards. A key is
-- looked up only up to a NUL, where the library asserts.
theorem empty_optional_leaves_object :
    emptyOptional.perform JsonMapper.serialize = some (false, ⟨true, some (.object [("a", .object [])])⟩) ∧
      JsonMapper.serialize.json ≠ some (.object [("a", .object [])]) ∧
      subscripts (fun m => some ((Update.scalar .bool true).perform m)) [String.ofList ['a', Char.ofNat 0]] JsonMapper.serialize =
        none := by
  refine ⟨rfl, ?_, rfl⟩
  intro same
  cases same

end RadeonPanel.Json
