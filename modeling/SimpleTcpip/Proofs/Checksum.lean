/-
`calc_checksum_16` is the one's-complement checksum.

The accumulator is 32 bits wide and the words are read through `NTOHS`; the value is
the complement of the folded sum of big-endian words for every buffer short enough
not to overflow the accumulator.  The IP header checksum, at most 60 bytes, always is.
-/
import SimpleTcpip.Proofs.ByteOrder
import SimpleTcpip.Proofs.Output

namespace SimpleTcpip

open OnesComplement

/-! ### The accumulator -/

theorem toNat_foldl_add (f : Nat → Nat) (n : Nat) (r : UInt32) :
    ((List.range n).foldl (fun r i => r + UInt32.ofNat (f i)) r).toNat
      = (r.toNat + ∑ i ∈ Finset.range n, f i) % 2 ^ 32 := by
  induction n with
  | zero =>
      have := r.toNat_lt
      simp only [List.range_zero, List.foldl_nil, Finset.range_zero, Finset.sum_empty]
      omega
  | succ n ih =>
      rw [List.range_succ, List.foldl_append, List.foldl_cons, List.foldl_nil, UInt32.toNat_add,
        ih, UInt32.toNat_ofNat', Finset.sum_range_succ]
      omega

theorem toNat_foldCarry (x : UInt32) : (foldCarry x).toNat = fold x.toNat := by
  have hx := x.toNat_lt
  have hlow : (x &&& (0xffff : UInt32)).toNat = x.toNat % 65536 := by
    rw [UInt32.toNat_and]
    exact Nat.and_two_pow_sub_one_eq_mod _ 16
  have hhigh : (x >>> (16 : UInt32)).toNat = x.toNat / 65536 := by
    rw [UInt32.toNat_shiftRight]
    exact Nat.shiftRight_eq_div_pow _ 16
  rw [foldCarry, UInt32.toNat_add, hlow, hhigh, fold]
  omega

theorem toNat_not_and {x : UInt32} (h : x.toNat ≤ 65535) :
    (~~~x &&& (0xffff : UInt32)).toUInt16.toNat = 65535 - x.toNat := by
  have hnot : (~~~x).toNat = 2 ^ 32 - 1 - x.toNat := UInt32.toNat_not x
  have hand : (~~~x &&& (0xffff : UInt32)).toNat = (~~~x).toNat % 65536 := by
    rw [UInt32.toNat_and]
    exact Nat.and_two_pow_sub_one_eq_mod _ 16
  rw [UInt32.toNat_toUInt16, hand, hnot]
  omega

/-- The accumulator of `calc_checksum_16` once its loop has added `k` words. -/
def addedWords (buff : Memory) (k : Nat) : UInt32 :=
  (List.range k).foldl (fun result i => result + UInt32.ofNat (ntohs (buff.load16 (2 * i)).toNat)) 0

/-- The accumulator before it is folded: an odd last byte is added as the high byte of a word. -/
def addedBytes (buff : Memory) (size : Nat) : UInt32 :=
  if size % 2 = 1 then addedWords buff (size / 2) + (buff (size - 1)).toUInt32 <<< (8 : UInt32)
  else addedWords buff (size / 2)

theorem calcChecksum16_eq (buff : Memory) (size : Nat) : calcChecksum16 buff size
    = (~~~foldCarry (foldCarry (addedBytes buff size)) &&& (0xffff : UInt32)).toUInt16 := rfl

/-- **The loop does not overflow** within 131074 bytes. -/
theorem toNat_addedWords (buff : Memory) {k : Nat} (h : 2 * k ≤ 131074) :
    (addedWords buff k).toNat = ∑ i ∈ Finset.range k, word buff (2 * i) := by
  have hle := sum_word_le buff k
  unfold addedWords
  rw [toNat_foldl_add]
  simp only [ntohs_load16, UInt32.toNat_zero, Nat.zero_add]
  exact Nat.mod_eq_of_lt (by omega)

/-- Nor does adding the last byte. -/
theorem toNat_addedBytes (buff : Memory) {size : Nat} (h : size ≤ 131074) :
    (addedBytes buff size).toNat = wordSum buff size := by
  have hlt := wordSum_lt buff h
  have hlast := (buff (size - 1)).toNat_lt
  have hloop := toNat_addedWords buff (k := size / 2) (by omega)
  have hshift : ((buff (size - 1)).toUInt32 <<< (8 : UInt32)).toNat
      = 256 * (buff (size - 1)).toNat := by
    rw [UInt32.toNat_shiftLeft, UInt8.toNat_toUInt32,
      show (8 : UInt32).toNat % 32 = 8 from rfl, Nat.shiftLeft_eq]
    omega
  unfold addedBytes
  unfold wordSum at hlt ⊢
  split
  · rename_i hodd
    rw [if_pos hodd] at hlt
    rw [UInt32.toNat_add, hloop, hshift]
    exact Nat.mod_eq_of_lt hlt
  · rw [hloop, Nat.add_zero]

/-- The folds leave 16 bits. -/
theorem toNat_folded (buff : Memory) {size : Nat} (h : size ≤ 131074) :
    (foldCarry (foldCarry (addedBytes buff size))).toNat = fold (fold (wordSum buff size)) := by
  rw [toNat_foldCarry, toNat_foldCarry, toNat_addedBytes buff h]

/-- **`calc_checksum_16` is the complement of the folded word sum.** -/
theorem toNat_calcChecksum16 (buff : Memory) {size : Nat} (h : size ≤ 131074) :
    (calcChecksum16 buff size).toNat = complement (wordSum buff size) := by
  have hfolded := toNat_folded buff h
  rw [calcChecksum16_eq, toNat_not_and, hfolded, complement]
  rw [hfolded]
  exact fold_fold_le (wordSum_lt buff h)

/--
**`calc_checksum_16` computes the Internet checksum** of at most 131074 bytes.  The
accumulator is the sum of the big-endian words at every step, and the folds leave the
representative of it modulo 65535 that is 0 only when every byte is.
-/
theorem internet_checksum (buff : Memory) {size : Nat} (h : size ≤ 131074) :
    (∀ k ≤ size / 2, (addedWords buff k).toNat = ∑ i ∈ Finset.range k, word buff (2 * i)) ∧
      (addedBytes buff size).toNat = wordSum buff size ∧
      (foldCarry (foldCarry (addedBytes buff size))).toNat ≤ 65535 ∧
      calcChecksum16 buff size
        = (~~~foldCarry (foldCarry (addedBytes buff size)) &&& (0xffff : UInt32)).toUInt16 ∧
      ∃ r ≤ 65535, r % 65535 = wordSum buff size % 65535 ∧ (r = 0 ↔ ∀ i < size, buff i = 0) ∧
        (calcChecksum16 buff size).toNat = 65535 - r := by
  have hle := fold_fold_le (wordSum_lt buff h)
  refine ⟨fun k hk => toNat_addedWords buff (by omega), toNat_addedBytes buff h, ?_,
    calcChecksum16_eq buff size, fold (fold (wordSum buff size)), hle, fold_fold_mod _, ?_, ?_⟩
  · rw [toNat_folded buff h]
    exact hle
  · rw [fold_eq_zero, fold_eq_zero, wordSum_eq_zero]
  · rw [toNat_calcChecksum16 buff h, complement]

/-- The two bytes and an odd third one of a buffer. -/
theorem internet_checksum_odd :
    (3 : Nat) ≤ 131074 ∧ ∃ r ≤ 65535, r % 65535 = wordSum (fun i => UInt8.ofNat (i + 1)) 3 % 65535 ∧
      (r = 0 ↔ ∀ i < 3, UInt8.ofNat (i + 1) = 0) ∧
      (calcChecksum16 (fun i => UInt8.ofNat (i + 1)) 3).toNat = 65535 - r :=
  ⟨by decide, (internet_checksum (fun i => UInt8.ofNat (i + 1)) (by decide)).2.2.2.2⟩

end SimpleTcpip
