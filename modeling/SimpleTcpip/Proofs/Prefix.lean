/-
Prefixes of addresses: what `(1<<mask) - 1` selects.

An address lies in memory as on the wire, so the integer a little-endian machine reads
from it has the first octet in its lowest byte, and the first bit of the address is the
highest bit of that byte.  The mask counts from the lowest bit up.  The two orders select
the same bits only where a prefix ends between two octets.
-/
import SimpleTcpip.Proofs.Parser

namespace SimpleTcpip

/-- Different addresses are printed differently. -/
theorem convertIpFromIntToStr_inj {a b : UInt32} :
    convertIpFromIntToStr a = convertIpFromIntToStr b ↔ a = b := by
  constructor
  · intro h
    rw [← convertIpFromStrToInt_convertIpFromIntToStr a, h,
      convertIpFromStrToInt_convertIpFromIntToStr]
  · intro h
    rw [h]

/-! ### The bits of an address, in network order -/

/-- Where bit `i` of an address, counted from its first, is in the integer. -/
def bitPos (i : Nat) : Nat := 8 * (i / 8) + (7 - i % 8)

/-- Bit `i` of an address, counted from its first. -/
def netBit (ip : UInt32) (i : Nat) : Bool := ip.toNat.testBit (bitPos i)

theorem bitPos_lt {i : Nat} (h : i < 32) : bitPos i < 32 := by
  unfold bitPos
  omega

theorem bitPos_bitPos (i : Nat) : bitPos (bitPos i) = i := by
  unfold bitPos
  omega

/-- An address is determined by its bits. -/
theorem netBit_ext {a b : UInt32} (h : ∀ i < 32, netBit a i = netBit b i) : a = b := by
  refine UInt32.toNat_inj.mp (Nat.eq_of_testBit_eq fun p => ?_)
  by_cases hp : p < 32
  · have hbit := h (bitPos p) (bitPos_lt hp)
    rwa [netBit, netBit, bitPos_bitPos] at hbit
  · have hout : ∀ x : UInt32, x.toNat.testBit p = false := fun x =>
      Nat.testBit_eq_false_of_lt (Nat.lt_of_lt_of_le x.toNat_lt
        (Nat.pow_le_pow_right (by decide) (Nat.le_of_not_lt hp)))
    rw [hout, hout]

/-- The first `m` bits of two addresses are equal. -/
def SamePrefix (a b : UInt32) (m : Nat) : Prop := ∀ i < m, netBit a i = netBit b i

/-- The first `m` bits of an address, followed by zeros. -/
def IsNetwork (net a : UInt32) (m : Nat) : Prop :=
  ∀ i < 32, netBit net i = (decide (i < m) && netBit a i)

/-! ### The bits the mask selects -/

/-- The mask of a prefix length has its bits at the low end. -/
theorem toNat_maskBits {m : Nat} (hm : m ≤ 32) :
    (maskBits (Int8.ofNat m)).toNat = 2 ^ (m % 32) - 1 := by
  have hall : ∀ m ≤ 32, (maskBits (Int8.ofNat m)).toNat = 2 ^ (m % 32) - 1 := by decide
  exact hall m hm

/-- Whether `(1<<m) - 1` selects a bit of an address. -/
def selects (m i : Nat) : Bool := decide (bitPos i < m) && decide (m < 32)

theorem netBit_intIpMasked (a : UInt32) {m : Nat} (hm : m ≤ 32) (i : Nat) :
    netBit (intIpMasked a (Int8.ofNat m)) i = (selects m i && netBit a i) := by
  rw [netBit, netBit, intIpMasked, UInt32.toNat_and, Nat.testBit_and, toNat_maskBits hm,
    Nat.testBit_two_pow_sub_one, Bool.and_comm]
  congr 1
  by_cases hlt : m < 32
  · rw [selects, Nat.mod_eq_of_lt hlt, decide_eq_true hlt, Bool.and_true]
  · obtain rfl : m = 32 := Nat.le_antisymm hm (Nat.le_of_not_lt hlt)
    rw [selects, decide_eq_false hlt, Bool.and_false]
    exact decide_eq_false (Nat.not_lt_zero _)

/-- Every bit that is set in an address is selected exactly if it belongs to the prefix. -/
def Aligned (a : UInt32) (m : Nat) : Prop :=
  ∀ i < 32, netBit a i = true → (i < m ↔ bitPos i < m ∧ m < 32)

instance (a : UInt32) (m : Nat) : Decidable (Aligned a m) := by
  unfold Aligned
  infer_instance

/-- Masking yields the network address exactly for aligned addresses. -/
theorem isNetwork_intIpMasked {a : UInt32} {m : Nat} (hm : m ≤ 32) :
    IsNetwork (intIpMasked a (Int8.ofNat m)) a m ↔ Aligned a m := by
  unfold IsNetwork Aligned
  refine forall_congr' fun i => forall_congr' fun _ => ?_
  rw [netBit_intIpMasked a hm, selects]
  cases netBit a i with
  | false => simp
  | true =>
      simp only [Bool.and_true, true_implies, ← Bool.decide_and, decide_eq_decide]
      exact Iff.comm

theorem IsNetwork.unique {net net' a : UInt32} {m : Nat} (h : IsNetwork net a m)
    (h' : IsNetwork net' a m) : net = net' :=
  netBit_ext fun i hi => (h i hi).trans (h' i hi).symm

/-- Addresses have one network address exactly if they have one prefix. -/
theorem network_eq_iff {net net' a b : UInt32} {m : Nat} (hm : m ≤ 32) (h : IsNetwork net a m)
    (h' : IsNetwork net' b m) : net = net' ↔ SamePrefix a b m := by
  constructor
  · intro heq i hi
    have hi' := Nat.lt_of_lt_of_le hi hm
    have ha := h i hi'
    rw [heq, h' i hi', decide_eq_true hi, Bool.true_and, Bool.true_and] at ha
    exact ha.symm
  · intro hsame
    refine netBit_ext fun i hi => ?_
    rw [h i hi, h' i hi]
    by_cases him : i < m
    · rw [hsame i him]
    · rw [decide_eq_false him, Bool.false_and, Bool.false_and]

/-! ### Prefix matching -/

/-- Matching and masking follow the prefixes of length `m` of two addresses. -/
structure PrefixMatching (a b : UInt32) (m : Nat) : Prop where
  netEq : ipNetEq a b (Int8.ofNat m) = true ↔ SamePrefix a b m
  subnet : ∀ intf : Intf, intf.ipAddr = b → intf.mask = Int8.ofNat m →
    (isInSubnet intf a = true ↔ SamePrefix a b m)
  applyMask : ∀ s t, convertIpFromStrToInt s = a → convertIpFromStrToInt t = b →
    (applyMask s (Int8.ofNat m) = applyMask t (Int8.ofNat m) ↔ SamePrefix a b m)
  masked : IsNetwork (intIpMasked a (Int8.ofNat m)) a m ∧ IsNetwork (intIpMasked b (Int8.ofNat m)) b m
  printed : ∀ s, convertIpFromStrToInt s = a → ∀ net, IsNetwork net a m →
    SimpleTcpip.applyMask s (Int8.ofNat m) = convertIpFromIntToStr net

/-- For two aligned addresses everything follows the prefixes, and for no others. -/
theorem prefixMatching_aligned {a b : UInt32} {m : Nat} (hm : m ≤ 32) :
    PrefixMatching a b m ↔ Aligned a m ∧ Aligned b m := by
  constructor
  · intro h
    exact ⟨(isNetwork_intIpMasked hm).mp h.masked.1, (isNetwork_intIpMasked hm).mp h.masked.2⟩
  · rintro ⟨ha, hb⟩
    have ha := (isNetwork_intIpMasked hm).mpr ha
    have hb := (isNetwork_intIpMasked hm).mpr hb
    have hiff := network_eq_iff hm ha hb
    refine ⟨?_, ?_, ?_, ⟨ha, hb⟩, ?_⟩
    · rw [ipNetEq, beq_iff_eq]
      exact hiff
    · rintro intf rfl hmask
      rw [isInSubnet, hmask, beq_iff_eq]
      exact hiff
    · rintro s t rfl rfl
      rw [SimpleTcpip.applyMask, SimpleTcpip.applyMask, convertIpFromIntToStr_inj]
      exact hiff
    · rintro s rfl net hnet
      rw [SimpleTcpip.applyMask, ha.unique hnet]

/-- The lengths at which a prefix ends between two octets, and the mask is not empty. -/
theorem aligned_all_iff {m : Nat} (hm : m ≤ 32) :
    (∀ a, Aligned a m) ↔ m = 0 ∨ m = 8 ∨ m = 16 ∨ m = 24 := by
  constructor
  · intro h
    -- in the broadcast address every bit is set
    have hall : ∀ m ≤ 32, Aligned 0xffffffff m → m = 0 ∨ m = 8 ∨ m = 16 ∨ m = 24 := by
      decide +kernel
    exact hall m hm (h 0xffffffff)
  · intro h a i hi _
    unfold bitPos
    omega

/-- **Prefixes are matched as in CIDR for all addresses exactly at the lengths 0, 8, 16 and
24**; at other lengths for the addresses that have no bit the mask gets wrong. -/
theorem prefix_matching_iff {m : Nat} (hm : m ≤ 32) :
    ((∀ a b, PrefixMatching a b m) ↔ m = 0 ∨ m = 8 ∨ m = 16 ∨ m = 24) ∧
    ∀ a b, PrefixMatching a b m ↔ Aligned a m ∧ Aligned b m := by
  refine ⟨?_, fun a b => prefixMatching_aligned hm⟩
  rw [← aligned_all_iff hm]
  constructor
  · intro h a
    exact ((prefixMatching_aligned hm).mp (h a a)).1
  · intro h a b
    exact (prefixMatching_aligned hm).mpr ⟨h a, h b⟩

theorem prefix_matching_24 : PrefixMatching 0x0159a8c0 0x0259a8c0 24 :=
  (prefix_matching_iff (by decide : 24 ≤ 32)).1.mpr (by decide) 0x0159a8c0 0x0259a8c0

/-- With a prefix of 12 bits, 172.16.0.0 and 172.32.0.0 are taken for one network. -/
theorem prefix_not_matched : ¬ ∀ (a b : UInt32) (m : Nat), m ≤ 32 → PrefixMatching a b m := by
  intro h
  have hmatch := h 0x000010ac 0x000020ac 12 (by decide)
  have hsame : SamePrefix 0x000010ac 0x000020ac 12 := hmatch.netEq.mp (by decide)
  exact absurd (hsame 10 (by decide)) (by decide)

end SimpleTcpip
