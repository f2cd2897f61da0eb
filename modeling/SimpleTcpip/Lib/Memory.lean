/-
Byte memories.

A buffer is a function from offsets to bytes: reading is application, writing a run
of bytes is an update, and what a read returns after a write is a comparison of
offsets.  Numbers of two and four bytes are laid out with the least significant
byte first, as the machine the program is written for does.
-/
import SimpleTcpip.Lib.Fallible

/-- A buffer: the byte at every offset. -/
abbrev Memory := Nat → UInt8

namespace Memory

/-- The `n` bytes from offset `p`. -/
def read (m : Memory) (p n : Nat) : List UInt8 := (List.range n).map fun i => m (p + i)

/-- The bytes `bs` written from offset `p` on. -/
def write (m : Memory) (p : Nat) (bs : List UInt8) : Memory :=
  fun i => if p ≤ i ∧ i < p + bs.length then bs.getD (i - p) 0 else m i

/-- The 16-bit number at offset `p`. -/
def load16 (m : Memory) (p : Nat) : UInt16 :=
  UInt16.ofNat ((m p).toNat + 256 * (m (p + 1)).toNat)

/-- The 32-bit number at offset `p`. -/
def load32 (m : Memory) (p : Nat) : UInt32 :=
  UInt32.ofNat ((m p).toNat + 256 * ((m (p + 1)).toNat + 256 * ((m (p + 2)).toNat
    + 256 * (m (p + 3)).toNat)))

/-- The two bytes of a 16-bit number. -/
def bytes16 (v : UInt16) : List UInt8 := [UInt8.ofNat v.toNat, UInt8.ofNat (v.toNat / 256)]

/-- The four bytes of a 32-bit number. -/
def bytes32 (v : UInt32) : List UInt8 :=
  [UInt8.ofNat v.toNat, UInt8.ofNat (v.toNat / 256), UInt8.ofNat (v.toNat / 65536),
    UInt8.ofNat (v.toNat / 16777216)]

def store8 (m : Memory) (p : Nat) (v : UInt8) : Memory := m.write p [v]
def store16 (m : Memory) (p : Nat) (v : UInt16) : Memory := m.write p (bytes16 v)
def store32 (m : Memory) (p : Nat) (v : UInt32) : Memory := m.write p (bytes32 v)

/-- The buffer seen from offset `p` on. -/
def shift (m : Memory) (p : Nat) : Memory := fun i => m (p + i)

/-! ### Reading a run of bytes -/

@[simp] theorem length_read (m : Memory) (p n : Nat) : (m.read p n).length = n := by
  simp [read]

theorem getElem_read (m : Memory) (p n i : Nat) (h : i < (m.read p n).length) :
    (m.read p n)[i] = m (p + i) := by
  simp [read]

theorem getD_read (m : Memory) {p n i : Nat} (h : i < n) (d : UInt8) :
    (m.read p n).getD i d = m (p + i) := by
  simp [read, List.getD, h]

/-- A read only depends on the bytes it covers. -/
theorem read_congr {m m' : Memory} {p p' n : Nat} (h : ∀ i, i < n → m (p + i) = m' (p' + i)) :
    m.read p n = m'.read p' n := by
  refine List.ext_getElem (by simp) ?_
  intro i h1 _
  simp only [length_read] at h1
  rw [getElem_read, getElem_read, h i h1]

@[simp] theorem read_zero (m : Memory) (p : Nat) : m.read p 0 = [] := rfl

/-- A read splits at any point. -/
theorem read_add (m : Memory) (p a b : Nat) :
    m.read p (a + b) = m.read p a ++ m.read (p + a) b := by
  refine List.ext_getElem (by simp) ?_
  intro i h1 h2
  simp only [length_read] at h1
  rw [List.getElem_append]
  split
  · simp only [getElem_read]
  · rename_i hge
    simp only [length_read, Nat.not_lt] at hge
    simp only [getElem_read, length_read]
    congr 1
    omega

theorem take_read (m : Memory) (p : Nat) {k n : Nat} (h : k ≤ n) :
    (m.read p n).take k = m.read p k := by
  obtain ⟨r, rfl⟩ := Nat.exists_eq_add_of_le h
  rw [read_add, List.take_append_of_le_length (by simp), List.take_of_length_le (by simp)]

theorem drop_read (m : Memory) (p : Nat) {k n : Nat} (h : k ≤ n) :
    (m.read p n).drop k = m.read (p + k) (n - k) := by
  obtain ⟨r, rfl⟩ := Nat.exists_eq_add_of_le h
  rw [read_add, List.drop_append_of_le_length (by simp), List.drop_of_length_le (by simp)]
  simp

/-! ### Reading after a write -/

theorem write_apply (m : Memory) (p : Nat) (bs : List UInt8) (i : Nat) :
    m.write p bs i = if p ≤ i ∧ i < p + bs.length then bs.getD (i - p) 0 else m i := rfl

theorem write_before (m : Memory) {p i : Nat} (bs : List UInt8) (h : i < p) :
    m.write p bs i = m i := by
  rw [write_apply, if_neg (by omega)]

theorem write_after (m : Memory) {p i : Nat} (bs : List UInt8) (h : p + bs.length ≤ i) :
    m.write p bs i = m i := by
  rw [write_apply, if_neg (by omega)]

theorem write_inside (m : Memory) (p : Nat) {i : Nat} (bs : List UInt8) (h : i < bs.length) :
    m.write p bs (p + i) = bs.getD i 0 := by
  rw [write_apply, if_pos (by omega)]
  simp

theorem read_write_same (m : Memory) (p : Nat) (bs : List UInt8) :
    (m.write p bs).read p bs.length = bs := by
  refine List.ext_getElem (by simp) ?_
  intro i h1 h2
  rw [getElem_read, write_inside m p bs h2]
  simp [List.getD, h2]

/-- A write elsewhere does not change what is read. -/
theorem read_write_disjoint (m : Memory) {p q n : Nat} (bs : List UInt8)
    (h : p + n ≤ q ∨ q + bs.length ≤ p) : (m.write q bs).read p n = m.read p n := by
  refine read_congr fun i hi => ?_
  rcases h with h | h
  · exact write_before m bs (by omega)
  · exact write_after m bs (by omega)

/-- Bytes copied with a write are read back where they were copied from. -/
theorem write_read_apply (m m' : Memory) (p q n : Nat) {i : Nat} (h : i < n) :
    m.write p (m'.read q n) (p + i) = m' (q + i) := by
  rw [write_inside m p _ (by simpa using h), getD_read m' h]

/-- Writing back what was there changes nothing. -/
theorem write_backup (m : Memory) (p n : Nat) : m.write p (m.read p n) = m := by
  funext i
  by_cases h : p ≤ i ∧ i < p + n
  · obtain ⟨k, rfl⟩ := Nat.exists_eq_add_of_le h.1
    exact write_read_apply m m p p n (by omega)
  · rw [write_apply, if_neg (by simpa using h)]

theorem write_outside (m : Memory) {p i : Nat} (bs : List UInt8)
    (h : i < p ∨ p + bs.length ≤ i) : m.write p bs i = m i := by
  rw [write_apply, if_neg (by omega)]

/-! ### Numbers -/

theorem toNat_load16 (m : Memory) (p : Nat) :
    (m.load16 p).toNat = (m p).toNat + 256 * (m (p + 1)).toNat := by
  have h0 := (m p).toNat_lt
  have h1 := (m (p + 1)).toNat_lt
  rw [load16, UInt16.toNat_ofNat']
  omega

theorem toNat_load32 (m : Memory) (p : Nat) :
    (m.load32 p).toNat = (m p).toNat + 256 * ((m (p + 1)).toNat + 256 * ((m (p + 2)).toNat
      + 256 * (m (p + 3)).toNat)) := by
  have h0 := (m p).toNat_lt
  have h1 := (m (p + 1)).toNat_lt
  have h2 := (m (p + 2)).toNat_lt
  have h3 := (m (p + 3)).toNat_lt
  rw [load32, UInt32.toNat_ofNat']
  omega

@[simp] theorem length_bytes16 (v : UInt16) : (bytes16 v).length = 2 := rfl

@[simp] theorem length_bytes32 (v : UInt32) : (bytes32 v).length = 4 := rfl

@[simp] theorem store8_self (m : Memory) (p : Nat) (v : UInt8) : m.store8 p v p = v :=
  write_inside m p (i := 0) [v] (by simp)

theorem store8_outside (m : Memory) {p i : Nat} (v : UInt8) (h : i ≠ p) :
    m.store8 p v i = m i :=
  write_outside m [v] (by simp only [List.length_singleton]; omega)

theorem store16_outside (m : Memory) {p i : Nat} (v : UInt16) (h : i < p ∨ p + 2 ≤ i) :
    m.store16 p v i = m i :=
  write_outside m (bytes16 v) (by simpa using h)

theorem store32_outside (m : Memory) {p i : Nat} (v : UInt32) (h : i < p ∨ p + 4 ≤ i) :
    m.store32 p v i = m i :=
  write_outside m (bytes32 v) (by simpa using h)

theorem load16_congr {m m' : Memory} {p p' : Nat} (h0 : m p = m' p')
    (h1 : m (p + 1) = m' (p' + 1)) : m.load16 p = m'.load16 p' := by
  rw [load16, load16, h0, h1]

theorem load32_congr {m m' : Memory} {p p' : Nat}
    (h : ∀ i, i < 4 → m (p + i) = m' (p' + i)) : m.load32 p = m'.load32 p' := by
  have h0 := h 0 (by omega)
  have h1 := h 1 (by omega)
  have h2 := h 2 (by omega)
  have h3 := h 3 (by omega)
  simp only [Nat.add_zero] at h0
  rw [load32, load32, h0, h1, h2, h3]

theorem load16_store16 (m : Memory) (p : Nat) (v : UInt16) :
    (m.store16 p v).load16 p = v := by
  apply UInt16.toNat.inj
  have h0 : m.store16 p v p = UInt8.ofNat v.toNat := write_inside m p (i := 0) (bytes16 v) (by simp)
  have h1 : m.store16 p v (p + 1) = UInt8.ofNat (v.toNat / 256) :=
    write_inside m p (i := 1) (bytes16 v) (by simp)
  have hv := v.toNat_lt
  rw [toNat_load16, h0, h1, UInt8.toNat_ofNat', UInt8.toNat_ofNat']
  omega

theorem load32_store32 (m : Memory) (p : Nat) (v : UInt32) :
    (m.store32 p v).load32 p = v := by
  apply UInt32.toNat.inj
  have h0 : m.store32 p v p = UInt8.ofNat v.toNat := write_inside m p (i := 0) (bytes32 v) (by simp)
  have h1 : m.store32 p v (p + 1) = UInt8.ofNat (v.toNat / 256) :=
    write_inside m p (i := 1) (bytes32 v) (by simp)
  have h2 : m.store32 p v (p + 2) = UInt8.ofNat (v.toNat / 65536) :=
    write_inside m p (i := 2) (bytes32 v) (by simp)
  have h3 : m.store32 p v (p + 3) = UInt8.ofNat (v.toNat / 16777216) :=
    write_inside m p (i := 3) (bytes32 v) (by simp)
  have hv := v.toNat_lt
  rw [toNat_load32, h0, h1, h2, h3]
  simp only [UInt8.toNat_ofNat']
  omega

/-- A number is the bytes it was loaded from. -/
theorem bytes32_load32 (m : Memory) (p : Nat) : bytes32 (m.load32 p) = m.read p 4 := by
  have h0 := (m p).toNat_lt
  have h1 := (m (p + 1)).toNat_lt
  have h2 := (m (p + 2)).toNat_lt
  have h3 := (m (p + 3)).toNat_lt
  have hread : m.read p 4 = [m p, m (p + 1), m (p + 2), m (p + 3)] := rfl
  rw [bytes32, hread, toNat_load32]
  have hbyte : ∀ (n : Nat) (b : UInt8), n % 256 = b.toNat → UInt8.ofNat n = b := by
    intro n b h
    apply UInt8.toNat.inj
    rw [UInt8.toNat_ofNat']
    exact h
  rw [hbyte _ (m p) (by omega), hbyte _ (m (p + 1)) (by omega), hbyte _ (m (p + 2)) (by omega),
    hbyte _ (m (p + 3)) (by omega)]

/-- Storing what is there changes nothing. -/
theorem store32_load32 (m : Memory) (p : Nat) : m.store32 p (m.load32 p) = m := by
  rw [store32, bytes32_load32]
  exact write_backup m p 4

/-- A 16-bit number elsewhere survives a write. -/
theorem load16_write (m : Memory) {p q : Nat} (bs : List UInt8)
    (h : p + 2 ≤ q ∨ q + bs.length ≤ p) : (m.write q bs).load16 p = m.load16 p := by
  rcases h with h | h
  · exact load16_congr (write_before m bs (by omega)) (write_before m bs (by omega))
  · exact load16_congr (write_after m bs (by omega)) (write_after m bs (by omega))

/-- A 32-bit number elsewhere survives a write. -/
theorem load32_write (m : Memory) {p q : Nat} (bs : List UInt8)
    (h : p + 4 ≤ q ∨ q + bs.length ≤ p) : (m.write q bs).load32 p = m.load32 p := by
  refine load32_congr fun i hi => ?_
  rcases h with h | h
  · exact write_before m bs (by omega)
  · exact write_after m bs (by omega)

end Memory
