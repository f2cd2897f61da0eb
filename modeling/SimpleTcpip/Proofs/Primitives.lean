/-
What the primitive steps do.

One lemma per primitive, as an equivalence: the run completes with this value and
this state exactly when these tests pass.  A completed run of a function is taken
apart with `bind_ok_iff` and these, and a run is shown to complete with the same
lemmas read from right to left.
-/
import SimpleTcpip.Model.Process

namespace SimpleTcpip

open Fallible

/-! ### Allocation, the trace and pointers -/

@[simp] theorem log_ok {e : Event} {w w' : World} {u : Unit} :
    log e w = .ok u w' ↔ w' = { w with trace := w.trace ++ [e] } := by
  simp only [log, run_modify, EStateM.Result.ok.injEq, true_and]
  exact eq_comm

@[simp] theorem allocId_ok {id : Nat} {w w' : World} :
    allocId w = .ok id w' ↔ id = w.nextId ∧ w' = { w with nextId := w.nextId + 1 } := by
  show EStateM.Result.ok w.nextId { w with nextId := w.nextId + 1 } = .ok id w' ↔ _
  simp only [EStateM.Result.ok.injEq, eq_comm]

@[simp] theorem derefIntf_ok {i : IntfId} {x : Intf} {w w' : World} :
    derefIntf i w = .ok x w' ↔ w.intf i = some x ∧ w' = w := by
  simp only [derefIntf, bind_ok_iff, run_get, EStateM.Result.ok.injEq]
  cases h : w.intf i <;> simp [h, eq_comm]

@[simp] theorem derefIntfPtr_ok {i : Option IntfId} {x : Intf} {w w' : World} :
    derefIntfPtr i w = .ok x w' ↔ (∃ j, i = some j ∧ w.intf j = some x) ∧ w' = w := by
  cases i <;> simp [derefIntfPtr]

/-- A pointer leads to one interface. -/
theorem intfPtr_unique {p : Option IntfId} {i j : IntfId} {x y : Intf} {w : World} (hi : p = some i)
    (hx : w.intf i = some x) (hj : p = some j) (hy : w.intf j = some y) : i = j ∧ x = y := by
  obtain rfl := Option.some.inj (hi.symm.trans hj)
  exact ⟨rfl, Option.some.inj (hx.symm.trans hy)⟩

@[simp] theorem derefTcpSock_ok {k : SockId} {x : TcpSock} {w w' : World} :
    derefTcpSock k w = .ok x w' ↔ w.tcpSock k = some x ∧ w' = w := by
  simp only [derefTcpSock, bind_ok_iff, run_get, EStateM.Result.ok.injEq]
  cases h : w.tcpSock k <;> simp [h, eq_comm]

@[simp] theorem derefTcpConn_ok {c : ConnId} {x : TcpConnectionSock} {w w' : World} :
    derefTcpConn c w = .ok x w' ↔ w.tcpConn c = some x ∧ w' = w := by
  simp only [derefTcpConn, bind_ok_iff, run_get, EStateM.Result.ok.injEq]
  cases h : w.tcpConn c <;> simp [h, eq_comm]

@[simp] theorem derefUdpSock_ok {k : SockId} {x : UdpSock} {w w' : World} :
    derefUdpSock k w = .ok x w' ↔ w.udpSock k = some x ∧ w' = w := by
  simp only [derefUdpSock, bind_ok_iff, run_get, EStateM.Result.ok.injEq]
  cases h : w.udpSock k <;> simp [h, eq_comm]

@[simp] theorem setTcpSock_ok {k : SockId} {s : TcpSock} {w w' : World} {u : Unit} :
    setTcpSock k s w = .ok u w' ↔
      w' = { w with tcpSock := Function.update w.tcpSock k (some s) } := by
  simp only [setTcpSock, run_modify, EStateM.Result.ok.injEq, true_and]
  exact eq_comm

@[simp] theorem setTcpConn_ok {c : ConnId} {s : TcpConnectionSock} {w w' : World} {u : Unit} :
    setTcpConn c s w = .ok u w' ↔
      w' = { w with tcpConn := Function.update w.tcpConn c (some s) } := by
  simp only [setTcpConn, run_modify, EStateM.Result.ok.injEq, true_and]
  exact eq_comm

@[simp] theorem setUdpSock_ok {k : SockId} {s : UdpSock} {w w' : World} {u : Unit} :
    setUdpSock k s w = .ok u w' ↔
      w' = { w with udpSock := Function.update w.udpSock k (some s) } := by
  simp only [setUdpSock, run_modify, EStateM.Result.ok.injEq, true_and]
  exact eq_comm

@[simp] theorem freeSkb_ok {skb : SkBuff} {w w' : World} {u : Unit} :
    freeSkb skb w = .ok u w' ↔ w' = { w with trace := w.trace ++ [.free skb.id] } := log_ok

/-! ### Socket buffers -/

theorem sizeSub_of_le {a b : Nat} (h : b ≤ a) : sizeSub a b = a - b := if_pos h

/-- The buffer `alloc_skb` returns. -/
def freshSkb (id size : Nat) : SkBuff :=
  { id, intf := none, ipHdr := none, udpHdr := none, len := 0, data := 0, tail := 0,
    limit := size, mem := fun _ => 0 }

@[simp] theorem allocSkb_ok {size : Nat} {skb : SkBuff} {w w' : World} :
    allocSkb size w = .ok skb w' ↔ skb = freshSkb w.nextId size ∧
      w' = { w with nextId := w.nextId + 1, trace := w.trace ++ [.alloc w.nextId] } := by
  simp only [allocSkb, bind_ok_iff, allocId_ok, log_ok, run_pure, EStateM.Result.ok.injEq]
  constructor
  · rintro ⟨_, _, ⟨rfl, rfl⟩, _, _, rfl, rfl, rfl⟩
    exact ⟨rfl, rfl⟩
  · rintro ⟨rfl, rfl⟩
    exact ⟨_, _, ⟨rfl, rfl⟩, ⟨⟩, _, rfl, rfl, rfl⟩

@[simp] theorem skbReserve_ok {skb s : SkBuff} {size : Nat} {w w' : World} :
    skbReserve skb size w = .ok s w' ↔ skb.tail + size ≤ skb.limit ∧
      s = { skb with data := skb.data + size, tail := skb.tail + size } ∧ w' = w := by
  unfold skbReserve
  split <;> simp_all [eq_comm]

@[simp] theorem skbPush_ok {skb s : SkBuff} {size : Nat} {w w' : World} :
    skbPush skb size w = .ok s w' ↔ size ≤ skb.data ∧
      s = { skb with data := skb.data - size, len := skb.len + size } ∧ w' = w := by
  unfold skbPush
  split <;> simp_all [eq_comm]

@[simp] theorem skbPut_ok {skb s : SkBuff} {size : Nat} {w w' : World} :
    skbPut skb size w = .ok s w' ↔ skb.tail + size ≤ skb.limit ∧
      s = { skb with tail := skb.tail + size, len := skb.len + size } ∧ w' = w := by
  unfold skbPut
  split <;> simp_all [eq_comm]

@[simp] theorem skbPull_ok {skb s : SkBuff} {size : Nat} {w w' : World} :
    skbPull skb size w = .ok s w' ↔ (w.checked = true → size ≤ skb.len) ∧
      skb.data + size ≤ skb.tail ∧
      s = { skb with data := skb.data + size, len := sizeSub skb.len size } ∧ w' = w := by
  simp only [skbPull, bind_ok_iff, run_get, EStateM.Result.ok.injEq, Bool.and_eq_true,
    decide_eq_true_eq]
  constructor
  · rintro ⟨_, _, ⟨rfl, rfl⟩, h⟩
    split at h
    · cases h
    · rename_i hc
      split at h
      · rename_i ht
        cases h
        exact ⟨fun hw => Nat.le_of_not_lt fun hl => hc ⟨hw, hl⟩, ht, rfl, rfl⟩
      · cases h
  · rintro ⟨hc, ht, rfl, rfl⟩
    refine ⟨_, _, ⟨rfl, rfl⟩, ?_⟩
    rw [if_neg (fun h => Nat.not_lt.mpr (hc h.1) h.2), if_pos ht]
    rfl

/-- The checker lets the `n` bytes from `p` on be read. -/
def Readable (w : World) (skb : SkBuff) (p n : Nat) : Prop :=
  w.checked = true → recvReservedHeadRoom ≤ p ∧ p + n ≤ skb.tail

@[simp] theorem touch_ok {skb : SkBuff} {p n : Nat} {w w' : World} {u : Unit} :
    touch skb p n w = .ok u w' ↔ Readable w skb p n ∧ w' = w := by
  simp only [touch, bind_ok_iff, run_get, EStateM.Result.ok.injEq, Bool.and_eq_true,
    Bool.or_eq_true, decide_eq_true_eq]
  constructor
  · rintro ⟨_, _, ⟨rfl, rfl⟩, h⟩
    split at h
    · cases h
    · rename_i hc
      cases h
      refine ⟨fun hw => ?_, rfl⟩
      by_contra hr
      exact hc ⟨hw, by omega⟩
  · rintro ⟨hr, rfl⟩
    refine ⟨_, _, ⟨rfl, rfl⟩, ?_⟩
    rw [if_neg fun h => by have := hr h.1; omega]
    rfl

@[simp] theorem readU8_ok {skb : SkBuff} {p : Nat} {v : UInt8} {w w' : World} :
    readU8 skb p w = .ok v w' ↔ Readable w skb p 1 ∧ v = skb.mem p ∧ w' = w := by
  simp only [readU8, bind_ok_iff, touch_ok, run_pure, EStateM.Result.ok.injEq]
  constructor
  · rintro ⟨_, _, ⟨h, rfl⟩, rfl, rfl⟩; exact ⟨h, rfl, rfl⟩
  · rintro ⟨h, rfl, rfl⟩; exact ⟨⟨⟩, _, ⟨h, rfl⟩, rfl, rfl⟩

@[simp] theorem readU16_ok {skb : SkBuff} {p : Nat} {v : UInt16} {w w' : World} :
    readU16 skb p w = .ok v w' ↔ Readable w skb p 2 ∧ v = skb.mem.load16 p ∧ w' = w := by
  simp only [readU16, bind_ok_iff, touch_ok, run_pure, EStateM.Result.ok.injEq]
  constructor
  · rintro ⟨_, _, ⟨h, rfl⟩, rfl, rfl⟩; exact ⟨h, rfl, rfl⟩
  · rintro ⟨h, rfl, rfl⟩; exact ⟨⟨⟩, _, ⟨h, rfl⟩, rfl, rfl⟩

@[simp] theorem readU32_ok {skb : SkBuff} {p : Nat} {v : UInt32} {w w' : World} :
    readU32 skb p w = .ok v w' ↔ Readable w skb p 4 ∧ v = skb.mem.load32 p ∧ w' = w := by
  simp only [readU32, bind_ok_iff, touch_ok, run_pure, EStateM.Result.ok.injEq]
  constructor
  · rintro ⟨_, _, ⟨h, rfl⟩, rfl, rfl⟩; exact ⟨h, rfl, rfl⟩
  · rintro ⟨h, rfl, rfl⟩; exact ⟨⟨⟩, _, ⟨h, rfl⟩, rfl, rfl⟩

@[simp] theorem readMac_ok {skb : SkBuff} {p : Nat} {v : MacAddr} {w w' : World} :
    readMac skb p w = .ok v w' ↔
      Readable w skb p 6 ∧ v = MacAddr.load skb.mem p ∧ w' = w := by
  simp only [readMac, bind_ok_iff, touch_ok, run_pure, EStateM.Result.ok.injEq]
  constructor
  · rintro ⟨_, _, ⟨h, rfl⟩, rfl, rfl⟩; exact ⟨h, rfl, rfl⟩
  · rintro ⟨h, rfl, rfl⟩; exact ⟨⟨⟩, _, ⟨h, rfl⟩, rfl, rfl⟩

@[simp] theorem followIpHdr_ok {skb : SkBuff} {p : Nat} {w w' : World} :
    followIpHdr skb w = .ok p w' ↔
      skb.ipHdr = some p ∧ w' = { w with trace := w.trace ++ [.readIpHdr skb] } := by
  simp only [followIpHdr, bind_ok_iff, log_ok]
  cases h : skb.ipHdr with
  | none => simp
  | some q => simp [eq_comm]

@[simp] theorem readTcpFlags_ok {skb : SkBuff} {hdr : Nat} {f : TcpFlags} {w w' : World} :
    readTcpFlags skb hdr w = .ok f w' ↔
      Readable w skb (hdr + 13) 1 ∧ f = ⟨skb.mem (hdr + 13)⟩ ∧ w' = w := by
  simp only [readTcpFlags, bind_ok_iff, readU8_ok, run_pure, EStateM.Result.ok.injEq]
  constructor
  · rintro ⟨_, _, ⟨h, rfl, rfl⟩, rfl, rfl⟩; exact ⟨h, rfl, rfl⟩
  · rintro ⟨h, rfl, rfl⟩; exact ⟨_, _, ⟨h, rfl, rfl⟩, rfl, rfl⟩

@[simp] theorem readTcpSeq_ok {skb : SkBuff} {hdr : Nat} {v : UInt32} {w w' : World} :
    readTcpSeq skb hdr w = .ok v w' ↔
      Readable w skb (hdr + 4) 4 ∧ v = ntohl (skb.mem.load32 (hdr + 4)) ∧ w' = w := by
  simp only [readTcpSeq, bind_ok_iff, readU32_ok, run_pure, EStateM.Result.ok.injEq]
  constructor
  · rintro ⟨_, _, ⟨h, rfl, rfl⟩, rfl, rfl⟩; exact ⟨h, rfl, rfl⟩
  · rintro ⟨h, rfl, rfl⟩; exact ⟨_, _, ⟨h, rfl, rfl⟩, rfl, rfl⟩

/-! ### Records kept in maps -/

/-- Writing a record back changes none of the fields that stay the same. -/
theorem map_update_of_eq {α β : Type} {m : Nat → Option α} {k : Nat} {x y : α} {f : α → β}
    (hk : m k = some x) (hf : f y = f x) (j : Nat) :
    (Function.update m k (some y) j).map f = (m j).map f := by
  by_cases h : j = k
  · subst h
    rw [Function.update_self, hk, Option.map_some, Option.map_some, hf]
  · rw [Function.update_of_ne h]

/-- What holds of all records and of one written holds of all afterwards. -/
theorem forall_update {α : Type} {m : Nat → Option α} {k : Nat} {x : α} {P : α → Prop} (hx : P x)
    (h : ∀ j y, m j = some y → P y) (j : Nat) (y : α)
    (hj : Function.update m k (some x) j = some y) : P y := by
  by_cases hjk : j = k
  · rw [hjk, Function.update_self] at hj
    exact Option.some.inj hj ▸ hx
  · rw [Function.update_of_ne hjk] at hj
    exact h j y hj

/-! ### Steps that only look

Following a pointer, reading a header and moving the bounds of a buffer leave the
process as it is, whether they complete or stop the run.
-/

section Reads

theorem bind_reads {α β : Type} {x : M α} {f : α → M β} (hx : Keeps Eq x)
    (hf : ∀ a, Keeps Eq (f a)) : Keeps Eq (x >>= f) :=
  keeps_bind (fun _ _ _ h h' => h.trans h') hx hf

theorem pure_reads {α : Type} (a : α) : Keeps Eq (pure a : M α) := keeps_pure (fun _ => rfl) a

theorem throw_reads {α : Type} (e : Fault) : Keeps Eq (throw e : M α) :=
  keeps_throw (fun _ => rfl) e

theorem get_reads : Keeps Eq (get : M World) := keeps_get fun _ => rfl

/-- A program that starts by looking stops there, or goes on from the same state. -/
theorem final_bind_reads {α β : Type} {x : M α} (hx : Keeps Eq x) (f : α → M β) (w : World) :
    final (x >>= f) w = w ∨ ∃ a, x w = .ok a w ∧ final (x >>= f) w = final (f a) w := by
  have hsame := hx w
  cases h : x w with
  | ok a t =>
      rw [final_of_ok h] at hsame
      subst hsame
      exact Or.inr ⟨a, rfl, final_bind_of_ok h⟩
  | error e t =>
      rw [final_of_error h] at hsame
      subst hsame
      exact Or.inl (final_bind_of_error h)

theorem derefIntf_reads (i : IntfId) : Keeps Eq (derefIntf i) := by
  refine bind_reads get_reads fun w => ?_
  cases w.intf i with
  | some x => exact pure_reads x
  | none => exact throw_reads _

theorem derefIntfPtr_reads (i : Option IntfId) : Keeps Eq (derefIntfPtr i) := by
  cases i with
  | some i => exact derefIntf_reads i
  | none => exact throw_reads _

theorem derefTcpSock_reads (k : SockId) : Keeps Eq (derefTcpSock k) := by
  refine bind_reads get_reads fun w => ?_
  cases w.tcpSock k with
  | some x => exact pure_reads x
  | none => exact throw_reads _

theorem derefTcpConn_reads (c : ConnId) : Keeps Eq (derefTcpConn c) := by
  refine bind_reads get_reads fun w => ?_
  cases w.tcpConn c with
  | some x => exact pure_reads x
  | none => exact throw_reads _

theorem derefUdpSock_reads (k : SockId) : Keeps Eq (derefUdpSock k) := by
  refine bind_reads get_reads fun w => ?_
  cases w.udpSock k with
  | some x => exact pure_reads x
  | none => exact throw_reads _

theorem skbReserve_reads (skb : SkBuff) (n : Nat) : Keeps Eq (skbReserve skb n) :=
  keeps_ite (pure_reads _) (throw_reads _)

theorem skbPush_reads (skb : SkBuff) (n : Nat) : Keeps Eq (skbPush skb n) :=
  keeps_ite (pure_reads _) (throw_reads _)

theorem skbPut_reads (skb : SkBuff) (n : Nat) : Keeps Eq (skbPut skb n) :=
  keeps_ite (pure_reads _) (throw_reads _)

theorem skbPull_reads (skb : SkBuff) (n : Nat) : Keeps Eq (skbPull skb n) :=
  bind_reads get_reads fun _ =>
    keeps_ite (throw_reads _) (keeps_ite (pure_reads _) (throw_reads _))

theorem touch_reads (skb : SkBuff) (p n : Nat) : Keeps Eq (touch skb p n) :=
  bind_reads get_reads fun _ => keeps_ite (throw_reads _) (pure_reads _)

theorem readU8_reads (skb : SkBuff) (p : Nat) : Keeps Eq (readU8 skb p) :=
  bind_reads (touch_reads skb p 1) fun _ => pure_reads _

theorem readU16_reads (skb : SkBuff) (p : Nat) : Keeps Eq (readU16 skb p) :=
  bind_reads (touch_reads skb p 2) fun _ => pure_reads _

theorem readU32_reads (skb : SkBuff) (p : Nat) : Keeps Eq (readU32 skb p) :=
  bind_reads (touch_reads skb p 4) fun _ => pure_reads _

theorem readMac_reads (skb : SkBuff) (p : Nat) : Keeps Eq (readMac skb p) :=
  bind_reads (touch_reads skb p macAddrSize) fun _ => pure_reads _

theorem readTcpFlags_reads (skb : SkBuff) (hdr : Nat) : Keeps Eq (readTcpFlags skb hdr) :=
  bind_reads (readU8_reads skb _) fun _ => pure_reads _

theorem readTcpSeq_reads (skb : SkBuff) (hdr : Nat) : Keeps Eq (readTcpSeq skb hdr) :=
  bind_reads (readU32_reads skb _) fun _ => pure_reads _

theorem fillIpHcksum_reads (skb : SkBuff) (hdr : Nat) : Keeps Eq (fillIpHcksum skb hdr) :=
  bind_reads (readU8_reads skb _) fun _ => bind_reads (touch_reads skb _ _) fun _ => pure_reads _

end Reads

/-- The interface `_get_matching_interface` finds has the address. -/
theorem getMatchingInterface_live {w : World} {n : NodeId} {ip : UInt32} {i : IntfId}
    (h : getMatchingInterface w n ip = some i) :
    ∃ intf, w.intf i = some intf ∧ intf.ipAddr = ip := by
  have hfound := List.find?_some h
  obtain ⟨intf, hintf, hboth⟩ := (Option.any_eq_true _ _).mp hfound
  exact ⟨intf, hintf, beq_iff_eq.mp (Bool.and_eq_true_iff.mp hboth).2⟩

end SimpleTcpip
