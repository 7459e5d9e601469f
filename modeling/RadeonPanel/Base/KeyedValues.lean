import RadeonPanel.Base.Keyed

set_option autoImplicit false

namespace KeyedValues

open Keyed

variable {κ ν : Type} [DecidableEq κ]

-- A list of pairs as a map whose keys are written one at a time.
def get (l : List (κ × ν)) (k : κ) : Option ν := (lookup Prod.fst l k).map Prod.snd

def assign (l : List (κ × ν)) (k : κ) (v : ν) : List (κ × ν) :=
  match l with
  | [] => [(k, v)]
  | entry :: rest => if entry.1 = k then (k, v) :: rest else entry :: assign rest k v

theorem get_cons (entry : κ × ν) (rest : List (κ × ν)) (k : κ) :
    get (entry :: rest) k = if entry.1 = k then some entry.2 else get rest k := by
  by_cases same : entry.1 = k <;> simp [get, lookup, same]

theorem get_append (l more : List (κ × ν)) (k : κ) : get (l ++ more) k = (get l k).or (get more k) := by
  simp [get, lookup, List.find?_append, Option.map_or]

theorem get_none (l : List (κ × ν)) (k : κ) (absent : k ∉ keys Prod.fst l) : get l k = none := by
  rw [get, (lookup_none Prod.fst l k).mpr absent, Option.map_none]

theorem get_zip_idx (l : List κ) (first : Nat) (k : κ) (listed : k ∈ l) :
    ∃ i, get (l.zipIdx first) k = some (first + i) ∧ l[i]? = some k := by
  induction l generalizing first with
  | nil => contradiction
  | cons key rest ih =>
      rw [List.zipIdx_cons]
      by_cases here : key = k
      · exact ⟨0, by rw [get_cons, if_pos here, Nat.add_zero], by rw [here, List.getElem?_cons_zero]⟩
      · have later : k ∈ rest := (List.mem_cons.mp listed).resolve_left fun same => here same.symm
        obtain ⟨i, found, place⟩ := ih (first + 1) later
        exact ⟨i + 1, by rw [get_cons, if_neg here, found, Nat.add_right_comm, Nat.add_assoc], by rw [List.getElem?_cons_succ, place]⟩

theorem get_assign (l : List (κ × ν)) (k : κ) (v : ν) (other : κ) :
    get (assign l k v) other = if k = other then some v else get l other := by
  induction l with
  | nil => simp [assign, get_cons]
  | cons entry rest ih =>
      by_cases here : entry.1 = k
      · rw [assign, if_pos here, get_cons, get_cons, here]
        split <;> rfl
      · rw [assign, if_neg here, get_cons, get_cons, ih]
        by_cases wanted : k = other
        · subst wanted
          simp [here]
        · simp [wanted]

theorem assign_assign (l : List (κ × ν)) (k : κ) (first second : ν) :
    assign (assign l k first) k second = assign l k second := by
  induction l with
  | nil => simp [assign]
  | cons entry rest ih => by_cases here : entry.1 = k <;> simp [assign, here, ih]

theorem assign_same (l : List (κ × ν)) (k : κ) (v : ν) (found : get l k = some v) : assign l k v = l := by
  induction l with
  | nil => cases found
  | cons entry rest ih =>
      rw [get_cons] at found
      by_cases here : entry.1 = k
      · rw [if_pos here] at found
        rw [assign, if_pos here, ← here, ← Option.some.inj found]
      · rw [if_neg here] at found
        rw [assign, if_neg here, ih found]

theorem assign_absent (l : List (κ × ν)) (k : κ) (v : ν) (absent : get l k = none) : assign l k v = l ++ [(k, v)] := by
  induction l with
  | nil => rfl
  | cons entry rest ih =>
      rw [get_cons] at absent
      by_cases here : entry.1 = k
      · rw [if_pos here] at absent
        cases absent
      · rw [if_neg here] at absent
        rw [assign, if_neg here, ih absent, List.cons_append]

section Written
variable {α : Type} (key : α → κ) (value : α → ν)

theorem get_unwritten (entries : List α) (l : List (κ × ν)) (k : κ) (absent : k ∉ keys key entries) :
    get (entries.foldl (fun written b => assign written (key b) (value b)) l) k = get l k := by
  induction entries generalizing l with
  | nil => rfl
  | cons b rest ih =>
      obtain ⟨apart, later⟩ := not_or.mp (fun listed => absent (List.mem_cons.mpr listed))
      rw [List.foldl_cons, ih _ later, get_assign, if_neg (Ne.symm apart)]

-- The last value that is written for a key stays when the keys are distinct.
theorem get_written (entries : List α) (l : List (κ × ν)) (a : α)
    (distinct : (keys key entries).Nodup) (member : a ∈ entries) :
    get (entries.foldl (fun written b => assign written (key b) (value b)) l) (key a) = some (value a) := by
  induction entries generalizing l with
  | nil => cases member
  | cons b rest ih =>
      obtain ⟨fresh, later⟩ := List.nodup_cons.mp distinct
      obtain rfl | before := List.mem_cons.mp member
      · rw [List.foldl_cons, get_unwritten key value rest _ _ fresh, get_assign, if_pos rfl]
      · rw [List.foldl_cons]
        exact ih _ later before

-- What is found was there before or has been written.
theorem get_written_from (entries : List α) (l : List (κ × ν)) (k : κ) (v : ν)
    (found : get (entries.foldl (fun written b => assign written (key b) (value b)) l) k = some v) :
    get l k = some v ∨ ∃ a ∈ entries, key a = k ∧ value a = v := by
  induction entries generalizing l with
  | nil => exact .inl found
  | cons b rest ih =>
      obtain before | ⟨a, member, same, here⟩ := ih _ found
      · rw [get_assign] at before
        by_cases same : key b = k
        · rw [if_pos same] at before
          exact .inr ⟨b, List.mem_cons_self, same, Option.some.inj before⟩
        · rw [if_neg same] at before
          exact .inl before
      · exact .inr ⟨a, List.mem_cons_of_mem _ member, same, here⟩

end Written

-- A key that comes again is not taken.
theorem get_append_all (f : κ → ν) (names : List κ) (l : List (κ × ν)) (k : κ) :
    get (names.foldl (fun taken name => appendNew Prod.fst taken (name, f name)) l) k =
      (get l k).or (if k ∈ names then some (f k) else none) := by
  induction names generalizing l with
  | nil => simp
  | cons name rest ih =>
      rw [List.foldl_cons, ih]
      by_cases listed : name ∈ keys Prod.fst l
      · rw [appendNew, if_pos listed]
        by_cases here : k = name
        · subst here
          obtain ⟨entry, found⟩ := Option.ne_none_iff_exists'.mp fun none => (lookup_none Prod.fst l k).mp none listed
          simp [get, found]
        · simp [here]
      · rw [appendNew, if_neg listed, get_append, get_cons, Option.or_assoc]
        congr 1
        by_cases here : k = name
        · subst here
          simp
        · simp [here, Ne.symm here, get, lookup]

theorem assign_keys (l : List (κ × ν)) (k : κ) (v : ν) (other : κ) :
    other ∈ keys Prod.fst (assign l k v) ↔ other = k ∨ other ∈ keys Prod.fst l := by
  induction l with
  | nil => simp [assign, keys]
  | cons entry rest ih =>
      by_cases here : entry.1 = k
      · simp [assign, keys, here]
      · simp only [assign, if_neg here, keys, List.map_cons, List.mem_cons] at ih ⊢
        rw [ih]
        tauto

theorem assign_distinct (l : List (κ × ν)) (k : κ) (v : ν) (distinct : (keys Prod.fst l).Nodup) :
    (keys Prod.fst (assign l k v)).Nodup := by
  induction l with
  | nil => simp [assign, keys]
  | cons entry rest ih =>
      obtain ⟨fresh, later⟩ := List.nodup_cons.mp distinct
      by_cases here : entry.1 = k
      · rw [assign, if_pos here]
        exact List.nodup_cons.mpr ⟨here ▸ fresh, later⟩
      · rw [assign, if_neg here]
        refine List.nodup_cons.mpr ⟨fun listed => ?_, ih later⟩
        obtain same | before := (assign_keys rest k v entry.1).mp listed
        · exact here same
        · exact fresh before

theorem mem_assign (l : List (κ × ν)) (k : κ) (v : ν) (entry : κ × ν) (member : entry ∈ assign l k v) :
    entry = (k, v) ∨ entry ∈ l := by
  induction l with
  | nil => exact .inl (List.mem_singleton.mp member)
  | cons first rest ih =>
      by_cases here : first.1 = k
      · rw [assign, if_pos here] at member
        exact (List.mem_cons.mp member).imp id (List.mem_cons_of_mem first)
      · rw [assign, if_neg here] at member
        obtain rfl | later := List.mem_cons.mp member
        · exact .inr List.mem_cons_self
        · exact (ih later).imp id (List.mem_cons_of_mem first)

-- In whatever order a map is walked, a key has its one value.
theorem get_perm (l walk : List (κ × ν)) (distinct : (keys Prod.fst l).Nodup) (perm : walk.Perm l) (k : κ) :
    get walk k = get l k := by
  have walkDistinct : (keys Prod.fst walk).Nodup := (perm.map Prod.fst).nodup_iff.mpr distinct
  cases found : lookup Prod.fst l k with
  | none =>
      have absent := (lookup_none Prod.fst l k).mp found
      have alsoAbsent : k ∉ keys Prod.fst walk := fun listed => absent ((perm.map Prod.fst).mem_iff.mp listed)
      rw [get, get, found, (lookup_none Prod.fst walk k).mpr alsoAbsent]
  | some entry =>
      obtain ⟨member, sameKey⟩ := lookup_mem Prod.fst l k entry found
      have walked := lookup_of_mem Prod.fst walk entry walkDistinct (perm.mem_iff.mpr member)
      rw [sameKey] at walked
      rw [get, get, found, walked]

end KeyedValues
