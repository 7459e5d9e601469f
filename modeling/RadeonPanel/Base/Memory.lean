import RadeonPanel.Base.Bytes

set_option autoImplicit false

namespace Bytes

-- The bytes from some address on. How many there are is for those who read to know.
abbrev Memory := Nat → UInt8

namespace Memory

-- The bytes from `address` on as a number, the lowest first.
def uint (m : Memory) (address : Nat) : Nat → Nat
  | 0 => 0
  | width + 1 => (m address).toNat + 256 * uint m (address + 1) width

def put (m : Memory) (address size : Nat) (data : Memory) : Memory := fun i =>
  if address ≤ i ∧ i < address + size then data (i - address) else m i

def set (m : Memory) (address : Nat) (byte : UInt8) : Memory := fun i => if i = address then byte else m i

def Agrees (m m' : Memory) (bound : Nat) : Prop := ∀ i < bound, m i = m' i

section Reads
variable {m m' : Memory} {address other width bound : Nat}

theorem uint_lt (m : Memory) (address width : Nat) : m.uint address width < 256 ^ width := by
  induction width generalizing address with
  | zero => simp [uint]
  | succ width ih =>
      have byte := (m address).toNat_lt
      have rest := ih (address + 1)
      rw [uint, Nat.pow_succ]
      omega

theorem uint_congr (m m' : Memory) (address other width : Nat) (alike : ∀ i < width, m (address + i) = m' (other + i)) :
    m.uint address width = m'.uint other width := by
  induction width generalizing address other with
  | zero => rfl
  | succ width ih =>
      have first : m address = m' other := by simpa using alike 0 (by omega)
      have rest := ih (address + 1) (other + 1) fun i less => by simpa [Nat.add_assoc, Nat.add_comm 1] using alike (i + 1) (by omega)
      rw [uint, uint, first, rest]

theorem uint_bytes (alike : m.uint address width = m'.uint other width) : ∀ i < width, m (address + i) = m' (other + i) := by
  induction width generalizing address other with
  | zero => intro i less; omega
  | succ width ih =>
      have byte := (m address).toNat_lt
      have byte' := (m' other).toNat_lt
      simp only [uint] at alike
      intro i less
      rcases i with _ | i
      · exact UInt8.toNat_inj.mp (by simp; omega)
      · have rest := @ih (address + 1) (other + 1) (by omega) i (by omega)
        simpa [Nat.add_assoc, Nat.add_comm 1] using rest

theorem uint_agrees (agrees : m.Agrees m' bound) (within : address + width ≤ bound) :
    m.uint address width = m'.uint address width :=
  uint_congr m m' address address width fun i less => agrees (address + i) (by omega)

theorem uint_append (m : Memory) (address front back : Nat) :
    m.uint address (front + back) = m.uint address front + 256 ^ front * m.uint (address + front) back := by
  induction front generalizing address with
  | zero => simp [uint]
  | succ front ih =>
      rw [Nat.add_right_comm, uint, ih, uint, Nat.pow_succ, Nat.add_assoc address 1 front, Nat.add_comm 1 front]
      grind

-- A byte that is not zero makes the number at least as large as its place.
theorem le_uint (m : Memory) {address k : Nat} (marked : m (address + k) ≠ 0) (less : k < width) : 256 ^ k ≤ m.uint address width := by
  obtain ⟨rest, rfl⟩ := Nat.exists_eq_add_of_lt less
  have byte : 0 < (m (address + k)).toNat := Nat.pos_of_ne_zero fun zero => marked (UInt8.toNat_inj.mp zero)
  rw [Nat.add_assoc, uint_append, uint]
  calc
    256 ^ k = 256 ^ k * 1 := (Nat.mul_one _).symm
    _ ≤ 256 ^ k * ((m (address + k)).toNat + 256 * m.uint (address + k + 1) rest) := Nat.mul_le_mul_left _ (by omega)
    _ ≤ _ := Nat.le_add_left _ _

theorem set_agrees (m : Memory) {address : Nat} (byte : UInt8) (above : bound ≤ address) : m.Agrees (m.set address byte) bound := by
  intro i less
  rw [set, if_neg (by omega)]

theorem set_here (m : Memory) (address : Nat) (byte : UInt8) : m.set address byte address = byte := if_pos rfl

theorem set_elsewhere (m : Memory) {address i : Nat} (byte : UInt8) (apart : i ≠ address) : m.set address byte i = m i := if_neg apart

theorem put_here (m : Memory) {address size i : Nat} (data : Memory) (less : i < size) : m.put address size data (address + i) = data i := by
  rw [put, if_pos (by omega), Nat.add_sub_cancel_left]

theorem put_elsewhere (m : Memory) {address size i : Nat} (data : Memory) (apart : i < address ∨ address + size ≤ i) :
    m.put address size data i = m i := by
  rw [put, if_neg (by omega)]

-- A byte that one read covers and the other does not tells them apart.
theorem covered_by_both (i : Nat) (above : bound ≤ i) (covered : address ≤ i ∧ i < address + width)
    (same : ∀ m', m.Agrees m' bound → m'.uint address width = m'.uint other width) : other ≤ i ∧ i < other + width := by
  by_cases missed : other ≤ i ∧ i < other + width
  · exact missed
  obtain ⟨k, rfl⟩ : ∃ k, i = address + k := ⟨i - address, by omega⟩
  have fixed : ∀ byte, (m.set (address + k) byte).uint other width = m.uint other width := fun byte =>
    uint_congr _ _ _ _ _ fun j less => set_elsewhere m byte (by omega)
  have zero := (same _ (set_agrees m 0 above)).trans (fixed 0)
  have one := (same _ (set_agrees m 1 above)).trans (fixed 1)
  have bytes := uint_bytes (zero.trans one.symm) k (by omega)
  rw [set_here, set_here] at bytes
  exact absurd bytes (by decide)

-- Two reads give the same whatever stands from `bound` on only when they read the same place.
theorem same_address (above : bound ≤ address) (positive : 0 < width)
    (same : ∀ m', m.Agrees m' bound → m'.uint address width = m'.uint other width) : address = other := by
  have first := covered_by_both address above (by omega) same
  have last := covered_by_both (address + (width - 1)) (by omega) (by omega) same
  omega

theorem not_constant (above : bound ≤ address) (positive : 0 < width) (value : Nat)
    (same : ∀ m', m.Agrees m' bound → m'.uint address width = value) : False := by
  have zero := same _ (set_agrees m 0 above)
  have one := same _ (set_agrees m 1 above)
  have bytes := uint_bytes (zero.trans one.symm) 0 positive
  rw [Nat.add_zero, set_here, set_here] at bytes
  exact absurd bytes (by decide)

end Reads

def block (m : Memory) (address size : Nat) : List UInt8 := (List.range size).map fun i => m (address + i)

@[simp] theorem block_length (m : Memory) (address size : Nat) : (m.block address size).length = size := by simp [block]

theorem block_append (m : Memory) (address front back : Nat) :
    m.block address (front + back) = m.block address front ++ m.block (address + front) back := by
  simp [block, List.range_add, Nat.add_assoc]

theorem block_congr (m m' : Memory) (address size : Nat) (alike : ∀ i < size, m (address + i) = m' (address + i)) :
    m.block address size = m'.block address size :=
  List.map_congr_left fun i member => alike i (List.mem_range.mp member)

theorem block_take (m : Memory) (address size : Nat) {front : Nat} (within : front ≤ size) :
    (m.block address size).take front = m.block address front := by
  obtain ⟨back, rfl⟩ := Nat.exists_eq_add_of_le within
  rw [block_append, List.take_left' (block_length ..)]

theorem block_drop (m : Memory) (address size front : Nat) :
    (m.block address size).drop front = m.block (address + front) (size - front) := by
  by_cases within : front ≤ size
  · obtain ⟨back, rfl⟩ := Nat.exists_eq_add_of_le within
    rw [block_append, List.drop_left' (block_length ..), Nat.add_sub_cancel_left]
  · rw [List.drop_eq_nil_of_le (by rw [block_length]; omega), Nat.sub_eq_zero_of_le (by omega)]
    rfl

-- A list as a memory, of which only the bytes of the list are looked at.
def ofList (data : List UInt8) : Memory := fun i => data.getD i 0

theorem put_block (m : Memory) (address : Nat) (data : List UInt8) :
    (m.put address data.length (ofList data)).block address data.length = data := by
  refine List.ext_getElem (by simp) fun i less within => ?_
  simp only [block, List.getElem_map, List.getElem_range]
  rw [put_here m (ofList data) within]
  simp [ofList, within]

end Memory

end Bytes
