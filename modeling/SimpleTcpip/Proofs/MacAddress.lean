/-
The hardware addresses of the two ends of a link.

An address is the low 48 bits of a product with one factor for each character of the node's
and of the interface's name.  A product does not tell its factors' order or owners, so what
the ends have to differ in is the product, not the names.
-/
import Mathlib.Algebra.BigOperators.Group.List.Basic
import Mathlib.Data.Int.ModEq
import SimpleTcpip.Model.Program
import SimpleTcpip.Proofs.Topology

namespace SimpleTcpip

open Fallible

/-! ### The product -/

/-- The product `hashcode` forms, without its start value and without overflow. -/
def charProduct (string : List UInt8) : Int := (string.map fun c => c.toInt8.toInt * 31).prod

/-- The product behind the address of an interface: what a node's name and the part of an
interface's name that is kept contribute. -/
def endProduct (nodeName ifName : List UInt8) : Int :=
  charProduct nodeName * charProduct (strncpy ifName maxIfNameSize)

theorem charProduct_append (a b : List UInt8) :
    charProduct (a ++ b) = charProduct a * charProduct b := by
  rw [charProduct, List.map_append, List.prod_append, charProduct, charProduct]

/-- A character enters as a signed number of 64 bits. -/
theorem signedChar_modEq (c : UInt8) :
    (c.toInt8.toInt64.toUInt64.toNat : Int) ≡ c.toInt8.toInt [ZMOD 2 ^ 64] := by
  have hbits : c.toInt8.toInt64.toUInt64.toNat = c.toInt8.toInt64.toBitVec.toNat := rfl
  rw [hbits, ← Int8.toInt_toInt64, ← Int64.toInt_toBitVec]
  unfold Int.ModEq
  rw [BitVec.toInt_eq_toNat_bmod]
  exact (Int.bmod_emod ..).symm

theorem toNat_mul_modEq (a b : UInt64) :
    ((a * b).toNat : Int) ≡ a.toNat * b.toNat [ZMOD 2 ^ 64] := by
  rw [UInt64.toNat_mul]
  push_cast
  exact Int.mod_modEq _ _

/-- The loop keeps the product so far, up to 64 bits. -/
theorem hashcode_modEq (string : List UInt8) :
    ((hashcode string).toNat : Int) ≡ 7 * charProduct string [ZMOD 2 ^ 64] := by
  induction string using List.reverseRecOn with
  | nil => rfl
  | append_singleton string c ih =>
      have hstep : hashcode (string ++ [c])
          = hashcode string * (c.toInt8.toInt64.toUInt64 * 31) := by
        rw [hashcode, List.foldl_append]
        rfl
      have hfactor : ((c.toInt8.toInt64.toUInt64 * 31).toNat : Int)
          ≡ c.toInt8.toInt * 31 [ZMOD 2 ^ 64] :=
        (toNat_mul_modEq _ _).trans ((signedChar_modEq c).mul_right _)
      have hone : charProduct [c] = c.toInt8.toInt * 31 := List.prod_singleton
      rw [hstep, charProduct_append, hone, ← mul_assoc 7]
      exact (toNat_mul_modEq _ _).trans (ih.mul hfactor)

/-! ### The address -/

/-- An address holds the low 48 bits of the code. -/
theorem interfaceAssignMacAddress_eq_iff (a b c d : List UInt8) :
    interfaceAssignMacAddress a b = interfaceAssignMacAddress c d ↔
      (hashcode a * hashcode b).toNat % 2 ^ 48 = (hashcode c * hashcode d).toNat % 2 ^ 48 := by
  have hbyte : ∀ m n : Nat, UInt8.ofNat m = UInt8.ofNat n ↔ m % 256 = n % 256 := by
    intro m n
    rw [← UInt8.toNat_inj, UInt8.toNat_ofNat', UInt8.toNat_ofNat']
  rw [interfaceAssignMacAddress, interfaceAssignMacAddress, MacAddr.mk.injEq, List.map_inj_left]
  generalize (hashcode a * hashcode b).toNat = m
  generalize (hashcode c * hashcode d).toNat = n
  constructor
  · intro h
    -- the six bytes, as digits to base 256
    have hdigit : ∀ k < 6, m / 256 ^ k % 256 = n / 256 ^ k % 256 := fun k hk =>
      (hbyte _ _).mp (h k (List.mem_range.mpr hk))
    have h0 := hdigit 0 (by decide)
    have h1 := hdigit 1 (by decide)
    have h2 := hdigit 2 (by decide)
    have h3 := hdigit 3 (by decide)
    have h4 := hdigit 4 (by decide)
    have h5 := hdigit 5 (by decide)
    norm_num at h0 h1 h2 h3 h4 h5 ⊢
    omega
  · intro h k hk
    have hk : k < 6 := List.mem_range.mp hk
    have hpow : (2 : Nat) ^ 48 = 256 ^ k * (256 * 256 ^ (5 - k)) := by
      rw [← pow_succ', ← pow_add, show k + (5 - k + 1) = 6 by omega]
      rfl
    have hdiv : ∀ x : Nat, x / 256 ^ k % 256 = x % 2 ^ 48 / 256 ^ k % 256 := by
      intro x
      rw [hpow, Nat.mod_mul_right_div_self, Nat.mod_mul_right_mod]
    rw [hbyte, hdiv m, hdiv n, h]

/-- **Two addresses are equal exactly if the products agree in 48 bits.** -/
theorem macAddr_eq_iff (a b c d : List UInt8) :
    interfaceAssignMacAddress a (strncpy b maxIfNameSize)
        = interfaceAssignMacAddress c (strncpy d maxIfNameSize) ↔
      endProduct a b ≡ endProduct c d [ZMOD 2 ^ 48] := by
  have hcode : ∀ s t : List UInt8, ((hashcode s * hashcode t).toNat : Int)
      ≡ 49 * (charProduct s * charProduct t) [ZMOD 2 ^ 48] := by
    intro s t
    have h := (toNat_mul_modEq (hashcode s) (hashcode t)).trans
      ((hashcode_modEq s).mul (hashcode_modEq t))
    rw [mul_mul_mul_comm] at h
    exact h.of_dvd (by norm_num)
  rw [interfaceAssignMacAddress_eq_iff]
  unfold endProduct
  constructor
  · intro h
    have hnat : ((hashcode a * hashcode (strncpy b maxIfNameSize)).toNat : Int)
        ≡ (hashcode c * hashcode (strncpy d maxIfNameSize)).toNat [ZMOD 2 ^ 48] := by
      have := Int.natCast_modEq_iff.mpr (show _ ≡ _ [MOD 2 ^ 48] from h)
      exact_mod_cast this
    have h49 := ((hcode _ _).symm.trans hnat).trans (hcode _ _)
    -- 49 is odd
    have hcancel := Int.ModEq.cancel_left_div_gcd (by norm_num) h49
    rwa [show (2 : Int) ^ 48 / Int.gcd (2 ^ 48) 49 = 2 ^ 48 by rfl] at hcancel
  · intro h
    have hint := ((hcode _ _).trans (h.mul_left 49)).trans (hcode _ _).symm
    exact Int.natCast_modEq_iff.mp (by exact_mod_cast hint)

/-- Only which characters there are counts, not in what order or in which of the two names. -/
theorem macAddr_eq_of_perm {a b c d : List UInt8}
    (h : (a ++ strncpy b maxIfNameSize).Perm (c ++ strncpy d maxIfNameSize)) :
    interfaceAssignMacAddress a (strncpy b maxIfNameSize)
      = interfaceAssignMacAddress c (strncpy d maxIfNameSize) := by
  rw [macAddr_eq_iff, endProduct, endProduct, ← charProduct_append, ← charProduct_append,
    charProduct, charProduct, (h.map _).prod_eq]

/-! ### The ends of a link -/

/-- The ends of a link can be told apart: neither takes a unicast frame for the other. -/
structure EndsDistinct (x y : Intf) : Prop where
  mac : x.macAddr ≠ y.macAddr
  first : isMacBroadcastAddr y.macAddr = false → ethernetInputQualify x y.macAddr = false
  second : isMacBroadcastAddr x.macAddr = false → ethernetInputQualify y x.macAddr = false

theorem endsDistinct_iff {x y : Intf} : EndsDistinct x y ↔ x.macAddr ≠ y.macAddr := by
  have hqualify : ∀ {u v : Intf}, u.macAddr ≠ v.macAddr → isMacBroadcastAddr v.macAddr = false →
      ethernetInputQualify u v.macAddr = false := by
    intro u v hne hunicast
    rw [ethernetInputQualify, hunicast, Bool.or_false, beq_eq_false_iff_ne]
    exact Ne.symm hne
  exact ⟨fun h => h.mac, fun h => ⟨h, hqualify h, hqualify (Ne.symm h)⟩⟩

/-- What `insert_link_between_two_nodes` leaves: two interfaces, each named, owned and
addressed as one end of the link. -/
structure Joined (h' : Host) (l : LinkId) (n1 n2 : NodeId) (x y : Intf) : Prop where
  ends : ∃ link, h'.link l = some link ∧ h'.intf link.intf1 = some x ∧ h'.intf link.intf2 = some y
  nodes : x.node = n1 ∧ y.node = n2
  links : x.link = some l ∧ y.link = some l

theorem insertLinkBetweenTwoNodes_ok {h h' : Host} {n1 n2 : NodeId} {a b : Node}
    {fromIfname toIfname : List UInt8} (ha : h.node n1 = some a) (hb : h.node n2 = some b)
    (hrun : insertLinkBetweenTwoNodes n1 n2 fromIfname toIfname h = .ok ⟨⟩ h') :
    ∃ x y, Joined h' h.nextId n1 n2 x y ∧
      x.macAddr = interfaceAssignMacAddress a.name (strncpy fromIfname maxIfNameSize) ∧
      y.macAddr = interfaceAssignMacAddress b.name (strncpy toIfname maxIfNameSize) := by
  rw [insertLinkBetweenTwoNodes_eq] at hrun
  obtain ⟨u, h5, h1, h2⟩ := bind_ok_iff.mp hrun
  obtain ⟨a', c, ha', -, hfirst⟩ := initInterface_ok (by decide) h1
  obtain ⟨b', d, hb', -, hsecond⟩ := initInterface_ok (by decide) h2
  obtain rfl : a = a' := Option.some.inj (ha.symm.trans ha')
  have hname : b'.name = b.name := by
    obtain ⟨node, s, hnode, -, hupdate⟩ : ∃ node s, h.node n1 = some node ∧ node.intfs s = none ∧
        h5.node = Function.update h.node n1
          (some { node with intfs := Function.update node.intfs s (some (h.nextId + 1)) }) :=
      hfirst.slot
    rw [hupdate] at hb'
    by_cases heq : n2 = n1
    · -- the first end has changed this node, but not its name
      rw [heq] at hb' hb
      obtain rfl : a = b := Option.some.inj (ha.symm.trans hb)
      obtain rfl : a = node := Option.some.inj (ha.symm.trans hnode)
      rw [Function.update_self] at hb'
      rw [← Option.some.inj hb']
    · rw [Function.update_of_ne heq] at hb'
      rw [Option.some.inj (hb'.symm.trans hb)]
  refine ⟨(Intf.blank a.name (strncpy fromIfname maxIfNameSize) n1 (some h.nextId)).withComm c,
    (Intf.blank b'.name (strncpy toIfname maxIfNameSize) n2 (some h.nextId)).withComm d,
    ⟨⟨{ intf1 := h.nextId + 1, intf2 := h.nextId + 2 }, ?_, ?_, ?_⟩, ⟨rfl, rfl⟩, ⟨rfl, rfl⟩⟩, rfl, ?_⟩
  · rw [hsecond.frame, hfirst.frame]
    exact Function.update_self ..
  · rw [hsecond.frame, hfirst.frame]
    have hne : h.nextId + 1 ≠ h.nextId + 2 := by omega
    exact (Function.update_of_ne hne ..).trans (Function.update_self ..)
  · rw [hsecond.frame]
    exact Function.update_self ..
  · rw [← hname]
    rfl

/-- **The two ends of a link can be told apart exactly if the products behind their addresses
differ in 48 bits.** -/
theorem insertLink_distinct_iff {h h' : Host} {n1 n2 : NodeId} {a b : Node}
    {fromIfname toIfname : List UInt8} (ha : h.node n1 = some a) (hb : h.node n2 = some b)
    (hrun : insertLinkBetweenTwoNodes n1 n2 fromIfname toIfname h = .ok ⟨⟩ h') :
    ∃ x y, Joined h' h.nextId n1 n2 x y ∧
      (EndsDistinct x y ↔
        ¬ endProduct a.name fromIfname ≡ endProduct b.name toIfname [ZMOD 2 ^ 48]) := by
  obtain ⟨x, y, hjoined, hx, hy⟩ := insertLinkBetweenTwoNodes_ok ha hb hrun
  refine ⟨x, y, hjoined, ?_⟩
  rw [endsDistinct_iff, Ne, hx, hy, macAddr_eq_iff]

/-- A process with two nodes whose names are `ab` and `ba`. -/
def Fixture.swapped : Host :=
  { Fixture.started with
    node := fun
      | 0 => some { name := [97, 98], intfs := fun _ => none }
      | 1 => some { name := [98, 97], intfs := fun _ => none }
      | _ => none
    nextId := 2
    nodes := [1, 0] }

/-- The two interfaces `eth0` of a link between `ab` and `ba` have the same address. -/
theorem insertLink_alike : ∃ a b h' x y, Fixture.swapped.node 0 = some a ∧
    Fixture.swapped.node 1 = some b ∧ a.name ≠ b.name ∧
    insertLinkBetweenTwoNodes 0 1 [101, 116, 104, 48] [101, 116, 104, 48] Fixture.swapped
      = .ok ⟨⟩ h' ∧ Joined h' 2 0 1 x y ∧ x.macAddr = y.macAddr ∧
    isMacBroadcastAddr y.macAddr = false ∧ ethernetInputQualify x y.macAddr = true := by
  obtain ⟨h', hrun⟩ : ∃ h', insertLinkBetweenTwoNodes 0 1 [101, 116, 104, 48] [101, 116, 104, 48]
      Fixture.swapped = .ok ⟨⟩ h' := ⟨_, rfl⟩
  obtain ⟨x, y, hjoined, hx, hy⟩ := insertLinkBetweenTwoNodes_ok rfl rfl hrun
  have hsame : x.macAddr = y.macAddr := by
    rw [hx, hy]
    exact macAddr_eq_of_perm (List.Perm.append_right _ (List.Perm.swap ..))
  refine ⟨_, _, h', x, y, rfl, rfl, by decide, hrun, hjoined, hsame, ?_, ?_⟩
  · rw [hy]
    decide
  · rw [ethernetInputQualify, hsame, beq_self_eq_true, Bool.true_or]

theorem insertLink_distinct_iff_swapped : ∃ h' x y,
    insertLinkBetweenTwoNodes 0 1 [101, 116, 104, 48] [101, 116, 104, 49] Fixture.swapped
      = .ok ⟨⟩ h' ∧ Joined h' 2 0 1 x y ∧ EndsDistinct x y := by
  obtain ⟨h', hrun⟩ : ∃ h', insertLinkBetweenTwoNodes 0 1 [101, 116, 104, 48] [101, 116, 104, 49]
      Fixture.swapped = .ok ⟨⟩ h' := ⟨_, rfl⟩
  obtain ⟨x, y, hjoined, hiff⟩ := insertLink_distinct_iff rfl rfl hrun
  exact ⟨h', x, y, hrun, hjoined, hiff.mpr (by decide)⟩

end SimpleTcpip
