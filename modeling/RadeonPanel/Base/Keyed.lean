import Mathlib.Data.List.Basic
import Mathlib.Data.List.Nodup

set_option autoImplicit false

namespace Keyed

variable {α κ : Type} [DecidableEq κ] (key : α → κ)

-- Lists whose members are looked up by a key: the first member with the key counts.
def keys (l : List α) : List κ := l.map key

def lookup (l : List α) (k : κ) : Option α := l.find? fun a => key a = k

def remove (l : List α) (k : κ) : List α := l.eraseP fun a => key a = k

def modify (l : List α) (k : κ) (f : α → α) : List α :=
  match l with
  | [] => []
  | a :: rest => if key a = k then f a :: rest else a :: modify rest k f

variable (l : List α) (k : κ)

theorem lookup_mem (a : α) (found : lookup key l k = some a) : a ∈ l ∧ key a = k :=
  ⟨List.mem_of_find?_eq_some found, by simpa using List.find?_some found⟩

theorem lookup_none : lookup key l k = none ↔ k ∉ keys key l := by
  simp [lookup, keys]

theorem remove_keys : keys key (remove key l k) = (keys key l).erase k := by
  induction l with
  | nil => rfl
  | cons a rest ih =>
      by_cases same : key a = k
      · simp [keys, remove, same]
      · simpa [keys, remove, same] using ih

theorem remaining_keys (distinct : (keys key l).Nodup) (other : κ) :
    other ∈ keys key (remove key l k) ↔ other ≠ k ∧ other ∈ keys key l := by
  rw [remove_keys]
  exact distinct.mem_erase_iff

theorem remove_sublist : (remove key l k).Sublist l := List.eraseP_sublist

theorem remove_perm (a : α) (found : lookup key l k = some a) : l.Perm (a :: remove key l k) := by
  induction l with
  | nil => cases found
  | cons b rest ih =>
      by_cases same : key b = k
      · have first : b = a := by simpa [lookup, same] using found
        subst first
        simp [remove, same]
      · have later : lookup key rest k = some a := by simpa [lookup, same] using found
        have kept : remove key (b :: rest) k = b :: remove key rest k := by simp [remove, same]
        rw [kept]
        exact ((ih later).cons b).trans (List.Perm.swap a b _)

theorem modify_keys (f : α → α) (keeps : ∀ a, key a = k → key (f a) = k) :
    keys key (modify key l k f) = keys key l := by
  induction l with
  | nil => rfl
  | cons a rest ih =>
      by_cases same : key a = k
      · simp [keys, modify, same, keeps a same]
      · simpa [keys, modify, same] using ih

theorem lookup_modify_elsewhere (f : α → α) (keeps : ∀ a, key a = k → key (f a) = k) (other : κ)
    (apart : other ≠ k) : lookup key (modify key l k f) other = lookup key l other := by
  induction l with
  | nil => rfl
  | cons a rest ih =>
      by_cases same : key a = k
      · simp [lookup, modify, same, keeps a same, apart.symm]
      · rw [modify, if_neg same]
        simp only [lookup, List.find?_cons] at ih ⊢
        rw [ih]

theorem modify_split (f : α → α) (a : α) (found : lookup key l k = some a) :
    ∃ before after, l = before ++ a :: after ∧ modify key l k f = before ++ f a :: after := by
  induction l with
  | nil => cases found
  | cons b rest ih =>
      by_cases same : key b = k
      · have first : b = a := by simpa [lookup, same] using found
        subst first
        exact ⟨[], rest, rfl, by simp [modify, same]⟩
      · have later : lookup key rest k = some a := by simpa [lookup, same] using found
        obtain ⟨before, after, split, modified⟩ := ih later
        exact ⟨b :: before, after, by rw [split, List.cons_append], by rw [modify, if_neg same, modified, List.cons_append]⟩

-- With distinct keys the one member that is modified is the one with the key.
theorem modify_mem (f : α → α) (distinct : (keys key l).Nodup) (a : α) (member : a ∈ modify key l k f) :
    key a ≠ k ∧ a ∈ l ∨ ∃ b ∈ l, key b = k ∧ a = f b := by
  induction l with
  | nil => cases member
  | cons b rest ih =>
      obtain ⟨fresh, later⟩ := List.nodup_cons.mp distinct
      by_cases same : key b = k
      · rw [modify, if_pos same] at member
        obtain rfl | member := List.mem_cons.mp member
        · exact .inr ⟨b, List.mem_cons_self, same, rfl⟩
        · refine .inl ⟨fun again => fresh ?_, List.mem_cons_of_mem _ member⟩
          rw [same, ← again]
          exact List.mem_map_of_mem member
      · rw [modify, if_neg same] at member
        obtain rfl | member := List.mem_cons.mp member
        · exact .inl ⟨same, List.mem_cons_self⟩
        · obtain ⟨apart, before⟩ | ⟨c, before, sameKey, changed⟩ := ih later member
          · exact .inl ⟨apart, List.mem_cons_of_mem _ before⟩
          · exact .inr ⟨c, List.mem_cons_of_mem _ before, sameKey, changed⟩

-- A member is left as it is or modified.
theorem mem_modify (f : α → α) (a : α) (member : a ∈ l) :
    a ∈ modify key l k f ∨ key a = k ∧ f a ∈ modify key l k f := by
  induction l with
  | nil => cases member
  | cons b rest ih =>
      by_cases same : key b = k
      · rw [modify, if_pos same]
        obtain rfl | later := List.mem_cons.mp member
        · exact .inr ⟨same, List.mem_cons_self⟩
        · exact .inl (List.mem_cons_of_mem _ later)
      · rw [modify, if_neg same]
        obtain rfl | later := List.mem_cons.mp member
        · exact .inl List.mem_cons_self
        · obtain kept | ⟨here, modified⟩ := ih later
          · exact .inl (List.mem_cons_of_mem _ kept)
          · exact .inr ⟨here, List.mem_cons_of_mem _ modified⟩

theorem lookup_of_mem (a : α) (distinct : (keys key l).Nodup) (member : a ∈ l) :
    lookup key l (key a) = some a := by
  induction l with
  | nil => cases member
  | cons b rest ih =>
      obtain ⟨fresh, later⟩ := List.nodup_cons.mp distinct
      obtain rfl | member := List.mem_cons.mp member
      · simp [lookup]
      · have apart : key b ≠ key a := fun same => fresh (same ▸ List.mem_map_of_mem member)
        simpa [lookup, List.find?_cons, apart] using ih later member

theorem mem_modify_iff (f : α → α) (distinct : (keys key l).Nodup) (a : α) (found : lookup key l k = some a)
    (b : α) : b ∈ modify key l k f ↔ key b ≠ k ∧ b ∈ l ∨ b = f a := by
  obtain ⟨member, here⟩ := lookup_mem key l k a found
  have only (c : α) (there : c ∈ l) (same : key c = k) : c = a := by
    have again := lookup_of_mem key l c distinct there
    rw [same] at again
    exact Option.some.inj (again.symm.trans found)
  constructor
  · intro modified
    obtain elsewhere | ⟨c, there, same, rfl⟩ := modify_mem key l k f distinct b modified
    · exact .inl elsewhere
    · exact .inr (by rw [only c there same])
  · rintro (⟨apart, there⟩ | rfl)
    · exact (mem_modify key l k f b there).resolve_right fun modified => apart modified.1
    · obtain ⟨before, after, -, modified⟩ := modify_split key l k f a found
      rw [modified]
      exact List.mem_append_right before List.mem_cons_self

theorem filter_key (distinct : (keys key l).Nodup) :
    l.filter (fun a => key a = k) = (lookup key l k).toList := by
  induction l with
  | nil => rfl
  | cons b rest ih =>
      obtain ⟨fresh, later⟩ := List.nodup_cons.mp distinct
      by_cases same : key b = k
      · have absent : rest.filter (fun a => key a = k) = [] := by
          rw [ih later, (lookup_none key rest k).mpr (same ▸ fresh)]
          rfl
        simp [lookup, same, absent]
      · simpa [lookup, same] using ih later

-- All members with one key.
def only (l : List α) (k : κ) : List α := l.filter fun a => key a = k

theorem mem_only (a : α) : a ∈ only key l k ↔ a ∈ l ∧ key a = k := by
  simp [only]

theorem lookup_only : lookup key l k = (only key l k).head? := List.head?_filter.symm

theorem count_keys : (keys key l).count k = (only key l k).length := by
  rw [keys, List.count_eq_countP, List.countP_map, only, ← List.countP_eq_length_filter]
  exact List.countP_congr fun a _ => by simp

theorem only_add (a : α) : only key (l ++ [a]) k = only key l k ++ if key a = k then [a] else [] := by
  rw [only, List.filter_append]
  by_cases same : key a = k <;> simp [only, same]

theorem only_remove (other : κ) :
    only key (remove key l k) other = if other = k then (only key l k).tail else only key l other := by
  induction l with
  | nil => simp [only, remove]
  | cons a rest ih =>
      by_cases same : key a = k
      · by_cases here : other = k
        · simp [only, remove, same, here]
        · have apart : key a ≠ other := fun again => here (again.symm.trans same)
          simp [only, remove, same, here, Ne.symm here]
      · have kept : remove key (a :: rest) k = a :: remove key rest k := by simp [remove, same]
        have whole : only key (a :: rest) k = only key rest k := by simp [only, same]
        rw [kept, whole, only, List.filter_cons]
        by_cases here : other = k
        · subst here
          simpa [only, same] using ih
        · rw [if_neg here] at ih ⊢
          by_cases listed : key a = other
          · simpa [only, listed] using ih
          · simpa [only, listed] using ih

-- A member goes to the end unless its key is there.
def appendNew (l : List α) (a : α) : List α := if key a ∈ keys key l then l else l ++ [a]

theorem append_new_distinct (a : α) (distinct : (keys key l).Nodup) : (keys key (appendNew key l a)).Nodup := by
  by_cases listed : key a ∈ keys key l
  · rwa [appendNew, if_pos listed]
  · rw [appendNew, if_neg listed, keys, List.map_append]
    refine distinct.append (List.nodup_singleton _) ?_
    simpa [keys] using listed

omit l k in
theorem append_all_extends (l others : List α) : l <+: others.foldl (appendNew key) l := by
  induction others generalizing l with
  | nil => exact List.prefix_refl l
  | cons a rest ih =>
      refine List.IsPrefix.trans ?_ (ih (appendNew key l a))
      by_cases listed : key a ∈ keys key l
      · simpa only [appendNew, if_pos listed] using List.prefix_refl l
      · simpa only [appendNew, if_neg listed] using List.prefix_append l [a]

theorem append_all_distinct (others : List α) (distinct : (keys key l).Nodup) :
    (keys key (others.foldl (appendNew key) l)).Nodup := by
  induction others generalizing l with
  | nil => exact distinct
  | cons a rest ih => exact ih (appendNew key l a) (append_new_distinct key l a distinct)

theorem append_new_keys (a : α) : k ∈ keys key (appendNew key l a) ↔ k ∈ keys key l ∨ k = key a := by
  by_cases listed : key a ∈ keys key l
  · rw [appendNew, if_pos listed]
    exact ⟨.inl, fun there => there.elim id fun same => same ▸ listed⟩
  · rw [appendNew, if_neg listed, keys, List.map_append, List.mem_append, List.map_singleton, List.mem_singleton]
    rfl

theorem append_all_keys (others : List α) :
    k ∈ keys key (others.foldl (appendNew key) l) ↔ k ∈ keys key l ∨ k ∈ keys key others := by
  induction others generalizing l with
  | nil => simp [keys]
  | cons a rest ih =>
      rw [List.foldl_cons, ih, append_new_keys, or_assoc]
      exact or_congr_right List.mem_cons.symm

-- Distinct keys are distinct members of which no two share a key.
omit [DecidableEq κ] in
theorem distinct_iff : (keys key l).Nodup ↔ l.Nodup ∧ ∀ a ∈ l, ∀ b ∈ l, key a = key b → a = b := by
  constructor
  · intro distinct
    exact ⟨distinct.of_map, (List.nodup_map_iff_inj_on distinct.of_map).mp distinct⟩
  · rintro ⟨members, apart⟩
    exact (List.nodup_map_iff_inj_on members).mpr apart

end Keyed
