/-
One's-complement sums of 16-bit words.

The Internet checksum adds words with an end-around carry: a 32-bit accumulator is
folded twice, its high half added to its low half.  What the folds leave is the
representative in 0..65535 of the sum modulo 65535, zero only for the sum zero, so a
sum checks exactly when it is a non-zero multiple of 65535.
-/
import SimpleTcpip.Lib.Memory

namespace OnesComplement

/-- Add the high half of an accumulator to its low half. -/
def fold (x : Nat) : Nat := x % 65536 + x / 65536

/-- The complement of the folded sum. -/
def complement (x : Nat) : Nat := 65535 - fold (fold x)

theorem fold_fold_le {x : Nat} (h : x < 2 ^ 32) : fold (fold x) ≤ 65535 := by
  unfold fold
  omega

theorem fold_mod (x : Nat) : fold x % 65535 = x % 65535 := by
  unfold fold
  omega

theorem fold_fold_mod (x : Nat) : fold (fold x) % 65535 = x % 65535 := by
  rw [fold_mod, fold_mod]

theorem fold_eq_zero {x : Nat} : fold x = 0 ↔ x = 0 := by
  unfold fold
  omega

/-- A sum checks when it is a non-zero multiple of 65535. -/
theorem complement_eq_zero {x : Nat} (h : x < 2 ^ 32) :
    complement x = 0 ↔ x ≠ 0 ∧ x % 65535 = 0 := by
  have hle := fold_fold_le h
  have hmod := fold_fold_mod x
  have hzero : fold (fold x) = 0 ↔ x = 0 := fold_eq_zero.trans fold_eq_zero
  unfold complement
  omega

/-- The complement of a sum cancels it. -/
theorem add_complement_mod {x : Nat} (h : x < 2 ^ 32) : (x + complement x) % 65535 = 0 := by
  have hle := fold_fold_le h
  have hmod := fold_fold_mod x
  unfold complement
  omega

/-! ### Sums of the words of a buffer -/

/-- The big-endian word at an offset. -/
def word (m : Memory) (p : Nat) : Nat := 256 * (m p).toNat + (m (p + 1)).toNat

theorem word_lt (m : Memory) (p : Nat) : word m p < 65536 := by
  have h0 := (m p).toNat_lt
  have h1 := (m (p + 1)).toNat_lt
  unfold word
  omega

/-- The sum of the words of the first `size` bytes; an odd last byte is the high byte
of a last word. -/
def wordSum (m : Memory) (size : Nat) : Nat :=
  (∑ i ∈ Finset.range (size / 2), word m (2 * i))
    + if size % 2 = 1 then 256 * (m (size - 1)).toNat else 0

theorem sum_word_le (m : Memory) (k : Nat) :
    ∑ i ∈ Finset.range k, word m (2 * i) ≤ k * 65535 := by
  calc ∑ i ∈ Finset.range k, word m (2 * i)
      ≤ ∑ _i ∈ Finset.range k, 65535 :=
        Finset.sum_le_sum fun i _ => Nat.le_of_lt_succ (word_lt m (2 * i))
    _ = k * 65535 := by simp

/-- The accumulator of a buffer of at most 131074 bytes does not overflow. -/
theorem wordSum_lt (m : Memory) {size : Nat} (h : size ≤ 131074) : wordSum m size < 2 ^ 32 := by
  have hsum := sum_word_le m (size / 2)
  have hlast := (m (size - 1)).toNat_lt
  unfold wordSum
  split <;> omega

theorem wordSum_even (m : Memory) (k : Nat) :
    wordSum m (2 * k) = ∑ i ∈ Finset.range k, word m (2 * i) := by
  rw [wordSum, if_neg (by omega), Nat.add_zero, Nat.mul_div_cancel_left k (by omega)]

theorem word_congr {m m' : Memory} {p p' : Nat} (h0 : m p = m' p')
    (h1 : m (p + 1) = m' (p' + 1)) : word m p = word m' p' := by
  unfold word
  rw [h0, h1]

/-- The sum only depends on the bytes it covers. -/
theorem wordSum_congr {m m' : Memory} {size : Nat} (h : ∀ i, i < size → m i = m' i) :
    wordSum m size = wordSum m' size := by
  unfold wordSum
  congr 1
  · refine Finset.sum_congr rfl fun i hi => ?_
    have hlt := Finset.mem_range.mp hi
    exact word_congr (h _ (by omega)) (h _ (by omega))
  · split
    · rw [h _ (by omega)]
    · rfl

/-- The words, and the odd last byte. -/
theorem wordSum_eq (m : Memory) (size : Nat) :
    wordSum m size = wordSum m (2 * (size / 2)) + if size % 2 = 1 then 256 * (m (size - 1)).toNat else 0 := by
  rw [wordSum_even, wordSum]

/-- The word at an offset of a buffer of `size` bytes: a byte beyond its end counts as zero. -/
def paddedWord (m : Memory) (size p : Nat) : Nat :=
  256 * (m p).toNat + if p + 1 < size then (m (p + 1)).toNat else 0

theorem paddedWord_of_lt (m : Memory) {size p : Nat} (h : p + 1 < size) :
    paddedWord m size p = word m p := by
  rw [paddedWord, if_pos h, word]

theorem paddedWord_congr {m m' : Memory} {size p : Nat} (h0 : m p = m' p)
    (h1 : p + 1 < size → m (p + 1) = m' (p + 1)) : paddedWord m size p = paddedWord m' size p := by
  unfold paddedWord
  rw [h0]
  split
  · rename_i hlt
    rw [h1 hlt]
  · rfl

/-- The sum, with the odd last byte as a word among the others. -/
theorem wordSum_padded (m : Memory) (size : Nat) :
    wordSum m size = ∑ i ∈ Finset.range ((size + 1) / 2), paddedWord m size (2 * i) := by
  have hfull : ∑ i ∈ Finset.range (size / 2), paddedWord m size (2 * i)
      = ∑ i ∈ Finset.range (size / 2), word m (2 * i) := by
    refine Finset.sum_congr rfl fun i hi => paddedWord_of_lt m ?_
    have hlt := Finset.mem_range.mp hi
    omega
  unfold wordSum
  split
  · rename_i hodd
    have hlast : paddedWord m size (2 * (size / 2)) = 256 * (m (size - 1)).toNat := by
      have hpos : 2 * (size / 2) = size - 1 := by omega
      rw [paddedWord, if_neg (by omega), hpos, Nat.add_zero]
    have hcount : (size + 1) / 2 = size / 2 + 1 := by omega
    rw [hcount, Finset.sum_range_succ, hfull, hlast]
  · have hcount : (size + 1) / 2 = size / 2 := by omega
    rw [hcount, hfull, Nat.add_zero]

theorem paddedWord_eq_zero {m : Memory} {size p : Nat} :
    paddedWord m size p = 0 ↔ m p = 0 ∧ (p + 1 < size → m (p + 1) = 0) := by
  unfold paddedWord
  constructor
  · intro h
    refine ⟨UInt8.toNat_inj.mp (show (m p).toNat = 0 by omega), fun hlt => ?_⟩
    rw [if_pos hlt] at h
    exact UInt8.toNat_inj.mp (show (m (p + 1)).toNat = 0 by omega)
  · rintro ⟨h0, h1⟩
    rw [h0]
    split
    · rename_i hlt
      rw [h1 hlt]
      rfl
    · rfl

/-- **The sum is zero only when every byte is.** -/
theorem wordSum_eq_zero {m : Memory} {size : Nat} : wordSum m size = 0 ↔ ∀ i < size, m i = 0 := by
  rw [wordSum_padded, Finset.sum_eq_zero_iff]
  constructor
  · intro h i hi
    have hword := paddedWord_eq_zero.mp (h (i / 2) (Finset.mem_range.mpr (by omega)))
    rcases Nat.mod_two_eq_zero_or_one i with heven | hodd
    · rw [show 2 * (i / 2) = i by omega] at hword
      exact hword.1
    · rw [show 2 * (i / 2) + 1 = i by omega] at hword
      exact hword.2 hi
  · intro h i hi
    have hlt := Finset.mem_range.mp hi
    exact paddedWord_eq_zero.mpr ⟨h _ (by omega), fun hin => h _ hin⟩

/-- Replacing one word changes the sum by the difference. -/
theorem wordSum_replace {m m' : Memory} {size j : Nat} (hj : 2 * j < size)
    (h : ∀ i, i < size → i ≠ 2 * j → i ≠ 2 * j + 1 → m' i = m i) :
    wordSum m' size + paddedWord m size (2 * j) = wordSum m size + paddedWord m' size (2 * j) := by
  have hmem : j ∈ Finset.range ((size + 1) / 2) := Finset.mem_range.mpr (by omega)
  have hcong : ∑ i ∈ (Finset.range ((size + 1) / 2)).erase j, paddedWord m' size (2 * i)
      = ∑ i ∈ (Finset.range ((size + 1) / 2)).erase j, paddedWord m size (2 * i) := by
    refine Finset.sum_congr rfl fun i hi => ?_
    obtain ⟨hne, hi'⟩ := Finset.mem_erase.mp hi
    have hlt := Finset.mem_range.mp hi'
    exact paddedWord_congr (h _ (by omega) (by omega) (by omega))
      fun hin => h _ hin (by omega) (by omega)
  rw [wordSum_padded m', wordSum_padded m,
    ← Finset.add_sum_erase _ (fun i => paddedWord m' size (2 * i)) hmem,
    ← Finset.add_sum_erase _ (fun i => paddedWord m size (2 * i)) hmem, hcong]
  omega

theorem wordSum_pos {m : Memory} {size j : Nat} (hj : 2 * j + 1 < size) (h : word m (2 * j) ≠ 0) :
    wordSum m size ≠ 0 := by
  have hle : word m (2 * j) ≤ ∑ i ∈ Finset.range (size / 2), word m (2 * i) :=
    Finset.single_le_sum (f := fun i => word m (2 * i)) (fun _ _ => Nat.zero_le _)
      (Finset.mem_range.mpr (by omega))
  rw [wordSum_eq, wordSum_even]
  omega

/-- **A word that was zero and becomes the complement of the sum makes the sum check.**  Should
everything else be zero, the complement is not. -/
theorem complement_wordSum_filled {m m' : Memory} {size j : Nat} (hsize : size ≤ 131074)
    (hj : 2 * j + 1 < size) (hzero : word m (2 * j) = 0)
    (hfill : word m' (2 * j) = complement (wordSum m size))
    (h : ∀ i, i < size → i ≠ 2 * j → i ≠ 2 * j + 1 → m' i = m i) :
    complement (wordSum m' size) = 0 := by
  have hlt := wordSum_lt m hsize
  have hsum := wordSum_replace (by omega) h
  rw [paddedWord_of_lt m hj, paddedWord_of_lt m' hj, hzero, hfill, Nat.add_zero] at hsum
  have hmod := add_complement_mod hlt
  have hcheck := complement_eq_zero hlt
  rw [complement_eq_zero (wordSum_lt m' hsize), hsum]
  refine ⟨?_, hmod⟩
  omega

/-- **A sum that checks does not check once a word has changed modulo 65535.** -/
theorem complement_wordSum_changed {m m' : Memory} {size j : Nat} (hsize : size ≤ 131074)
    (hok : complement (wordSum m size) = 0) (hj : 2 * j < size)
    (h : ∀ i, i < size → i ≠ 2 * j → i ≠ 2 * j + 1 → m' i = m i)
    (hne : paddedWord m' size (2 * j) % 65535 ≠ paddedWord m size (2 * j) % 65535) :
    complement (wordSum m' size) ≠ 0 := by
  have hsum := wordSum_replace hj h
  rw [complement_eq_zero (wordSum_lt m hsize)] at hok
  rw [ne_eq, complement_eq_zero (wordSum_lt m' hsize)]
  rintro ⟨-, hmod⟩
  have hok' := hok.2
  omega

end OnesComplement
