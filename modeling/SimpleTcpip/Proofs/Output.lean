/-
What handing a packet to the link can change.

Below `ip_postroute` nothing of the configuration and no socket is touched: a run
allocates and frees buffers, makes system calls and records events.  `Emits P` says
exactly that, with `P` bounding the events.  Every function of comm.c and the output
half of arp.c and ethernet.c keeps it, and everything above this file only uses that.
-/
import SimpleTcpip.Proofs.Primitives

namespace SimpleTcpip

open Fallible

/-- Only buffers, system calls and the trace changed, and the new events satisfy `P`. -/
structure Emits (P : Event → Prop) (w w' : World) : Prop where
  frame : w' = { w with nextId := w'.nextId, numSends := w'.numSends, trace := w'.trace }
  nextId : w.nextId ≤ w'.nextId
  trace : ∃ es, w'.trace = w.trace ++ es ∧ ∀ e ∈ es, P e

namespace Emits

variable {P Q : Event → Prop} {w w' w'' : World}

theorem refl (P : Event → Prop) (w : World) : Emits P w w :=
  ⟨rfl, Nat.le_refl _, [], by simp, by simp⟩

theorem trans (h : Emits P w w') (h' : Emits P w' w'') : Emits P w w'' := by
  obtain ⟨es, he, hes⟩ := h.trace
  obtain ⟨es', he', hes'⟩ := h'.trace
  refine ⟨?_, Nat.le_trans h.nextId h'.nextId, es ++ es', ?_, ?_⟩
  · rw [h'.frame, h.frame]
  · rw [he', he, List.append_assoc]
  · intro e hmem
    rcases List.mem_append.mp hmem with hl | hr
    · exact hes e hl
    · exact hes' e hr

theorem mono (hPQ : ∀ e, P e → Q e) (h : Emits P w w') : Emits Q w w' := by
  obtain ⟨es, he, hes⟩ := h.trace
  exact ⟨h.frame, h.nextId, es, he, fun e hmem => hPQ e (hes e hmem)⟩

theorem node (h : Emits P w w') : w'.node = w.node := by rw [h.frame]
theorem intf (h : Emits P w w') : w'.intf = w.intf := by rw [h.frame]
theorem link (h : Emits P w w') : w'.link = w.link := by rw [h.frame]
theorem arpTable (h : Emits P w w') : w'.arpTable = w.arpTable := by rw [h.frame]
theorem rtTable (h : Emits P w w') : w'.rtTable = w.rtTable := by rw [h.frame]
theorem udpSocks (h : Emits P w w') : w'.udpSocks = w.udpSocks := by rw [h.frame]
theorem tcpSocks (h : Emits P w w') : w'.tcpSocks = w.tcpSocks := by rw [h.frame]
theorem udpSock (h : Emits P w w') : w'.udpSock = w.udpSock := by rw [h.frame]
theorem tcpSock (h : Emits P w w') : w'.tcpSock = w.tcpSock := by rw [h.frame]
theorem tcpConn (h : Emits P w w') : w'.tcpConn = w.tcpConn := by rw [h.frame]
theorem udpFdToSock (h : Emits P w w') : w'.udpFdToSock = w.udpFdToSock := by rw [h.frame]
theorem tcpFdToSock (h : Emits P w w') : w'.tcpFdToSock = w.tcpFdToSock := by rw [h.frame]
theorem fdConnToSock (h : Emits P w w') : w'.fdConnToSock = w.fdConnToSock := by rw [h.frame]
theorem sysSend (h : Emits P w w') : w'.sysSend = w.sysSend := by rw [h.frame]
theorem checked (h : Emits P w w') : w'.checked = w.checked := by rw [h.frame]

end Emits

/-- What happens to a buffer below `ethernet_output`. -/
def Event.IsBuffer : Event → Prop
  | .alloc _ | .free _ | .sent _ _ => True
  | _ => False

/-- What `send_arp_broadcast_request` and `send_arp_reply_msg` record. -/
def Event.IsArp : Event → Prop
  | .ethOutput _ _ proto _ => proto = ethProtoArp
  | e => e.IsBuffer

/-! ### The steps of an output run -/

section Steps

variable {P : Event → Prop}

theorem reads_emits {α : Type} {m : M α} (h : Keeps Eq m) : Keeps (Emits P) m :=
  keeps_of_eq (Emits.refl P) h

theorem pure_emits {α : Type} (a : α) : Keeps (Emits P) (pure a : M α) :=
  keeps_pure (Emits.refl P) a

theorem bind_emits {α β : Type} {x : M α} {f : α → M β} (hx : Keeps (Emits P) x)
    (hf : ∀ a, Keeps (Emits P) (f a)) : Keeps (Emits P) (x >>= f) :=
  keeps_bind (fun _ _ _ h h' => h.trans h') hx hf

theorem get_emits : Keeps (Emits P) (get : M World) := keeps_get (Emits.refl P)

theorem log_emits {e : Event} (he : P e) : Keeps (Emits P) (log e) :=
  keeps_modify fun _ => ⟨rfl, Nat.le_refl _, [e], rfl, by simpa using he⟩

theorem logIf_emits {c : Bool} {e : Event} (he : P e) : Keeps (Emits P) (logIf c e) := by
  cases c
  · exact pure_emits _
  · exact log_emits he

theorem getNbrIf_emits (i : IntfId) : Keeps (Emits P) (getNbrIf i) := by
  refine bind_emits (reads_emits <| derefIntf_reads i) fun intf => ?_
  cases intf.link with
  | none => exact pure_emits _
  | some l =>
      refine bind_emits get_emits fun w => ?_
      cases w.link l with
      | none => exact reads_emits (throw_reads _)
      | some link => exact pure_emits _

section SystemCalls

variable {i : IntfId} {frame : List UInt8} (hP : P (.sent i frame))
include hP

theorem sysSendCall_emits : Keeps (Emits P) (sysSendCall i frame) := by
  intro w
  have hset : Emits P w { w with numSends := w.numSends + 1 } :=
    ⟨rfl, Nat.le_refl _, [], (List.append_nil _).symm, by simp⟩
  have hrest : Keeps (Emits P) (do
      logIf (0 ≤ w.sysSend w.numSends) (.sent i frame)
      pure (w.sysSend w.numSends) : M Int) :=
    bind_emits (logIf_emits hP) fun _ => pure_emits _
  exact hset.trans (hrest _)

theorem udpSendBytes_emits : Keeps (Emits P) (udpSendBytes i frame) := by
  refine bind_emits (reads_emits <| derefIntf_reads i) fun intf => bind_emits (getNbrIf_emits i) fun nbr => ?_
  cases nbr with
  | none => exact pure_emits _
  | some j =>
      refine bind_emits (reads_emits <| derefIntf_reads j) fun nbr => keeps_ite (pure_emits _) ?_
      exact bind_emits (sysSendCall_emits hP) fun _ => pure_emits _

theorem sendBytesOut_emits : Keeps (Emits P) (sendBytesOut frame i) := by
  refine bind_emits (reads_emits <| derefIntf_reads i) fun intf => ?_
  cases intf.comm.commType with
  | udp => exact udpSendBytes_emits hP
  | tuntap => exact sysSendCall_emits hP
  | none => exact reads_emits (throw_reads _)

end SystemCalls

section Link

variable (hfree : ∀ id, P (.free id)) (hsent : ∀ i frame, P (.sent i frame))
include hfree hsent

theorem sendPktOut_emits_of (i : IntfId) (skb : SkBuff) : Keeps (Emits P) (sendPktOut i skb) := by
  refine bind_emits (sendBytesOut_emits (hsent _ _)) fun result => keeps_ite ?_ (pure_emits _)
  exact bind_emits (log_emits (hfree skb.id)) fun _ => pure_emits _

/-- Handing a packet to the link allocates nothing. -/
theorem ethernetOutput_emits_of {i : IntfId} {mac : MacAddr} {proto : UInt16} {skb : SkBuff}
    (he : P (.ethOutput i mac proto skb)) :
    Keeps (Emits P) (ethernetOutput i mac proto skb) := by
  refine bind_emits (log_emits he) fun _ => bind_emits (reads_emits <| skbPush_reads _ _) fun skb' =>
    bind_emits (reads_emits <| derefIntf_reads i) fun intf =>
      keeps_ite ?_ (sendPktOut_emits_of hfree hsent i _)
  exact bind_emits (reads_emits <| skbPut_reads _ _) fun skb' => sendPktOut_emits_of hfree hsent i _

end Link

variable (hP : ∀ e : Event, e.IsBuffer → P e)
include hP

theorem freeSkb_emits (skb : SkBuff) : Keeps (Emits P) (freeSkb skb) :=
  log_emits (hP (.free skb.id) trivial)

theorem freeSkbIf_emits (c : Bool) (skb : SkBuff) : Keeps (Emits P) (freeSkbIf c skb) := by
  cases c
  · exact pure_emits _
  · exact freeSkb_emits hP skb

theorem allocSkb_emits (size : Nat) : Keeps (Emits P) (allocSkb size) := by
  have hid : Keeps (Emits P) allocId :=
    fun w => ⟨rfl, Nat.le_succ w.nextId, [], (List.append_nil _).symm, by simp⟩
  exact bind_emits hid fun id => bind_emits (log_emits (hP (.alloc id) trivial)) fun _ =>
    pure_emits _

theorem sendPktOut_emits (i : IntfId) (skb : SkBuff) : Keeps (Emits P) (sendPktOut i skb) :=
  sendPktOut_emits_of (fun _ => hP _ trivial) (fun _ _ => hP _ trivial) i skb

theorem ethernetOutput_emits {i : IntfId} {mac : MacAddr} {proto : UInt16} {skb : SkBuff}
    (he : P (.ethOutput i mac proto skb)) :
    Keeps (Emits P) (ethernetOutput i mac proto skb) :=
  ethernetOutput_emits_of (fun _ => hP _ trivial) (fun _ _ => hP _ trivial) he

theorem allocArpSkb_emits : Keeps (Emits P) allocArpSkb :=
  bind_emits (allocSkb_emits hP _) fun _ =>
    bind_emits (reads_emits <| skbReserve_reads _ _) fun _ => reads_emits (skbPush_reads _ _)

end Steps

theorem isArp_of_isBuffer (e : Event) (h : e.IsBuffer) : e.IsArp := by
  cases e <;> first | exact h | exact absurd h id

theorem sendArpBroadcastRequest_emits (i : IntfId) (ip : UInt32) :
    Keeps (Emits Event.IsArp) (sendArpBroadcastRequest i ip) := by
  refine bind_emits (allocArpSkb_emits isArp_of_isBuffer) fun skb =>
    bind_emits (reads_emits <| derefIntf_reads i) fun intf => bind_emits ?_ fun ok =>
      freeSkbIf_emits isArp_of_isBuffer _ _
  exact ethernetOutput_emits isArp_of_isBuffer rfl

theorem sendArpReplyMsg_emits (i : IntfId) (req : SkBuff) (shdr : Nat) :
    Keeps (Emits Event.IsArp) (sendArpReplyMsg i req shdr) := by
  refine bind_emits (allocArpSkb_emits isArp_of_isBuffer) fun skb =>
    bind_emits (reads_emits <| derefIntf_reads i) fun intf => bind_emits (reads_emits <| readMac_reads _ _) fun hw =>
      bind_emits (reads_emits <| readU32_reads _ _) fun ip => bind_emits ?_ fun ok => pure_emits _
  exact ethernetOutput_emits isArp_of_isBuffer rfl

theorem processArpBroadcastRequest_emits (i : IntfId) (skb : SkBuff) (hdr : Nat) :
    Keeps (Emits Event.IsArp) (processArpBroadcastRequest i skb hdr) := by
  refine bind_emits (reads_emits <| derefIntf_reads i) fun intf => bind_emits (reads_emits <| readU32_reads _ _) fun target =>
    keeps_ite (pure_emits _) ?_
  exact bind_emits (sendArpReplyMsg_emits i skb hdr) fun _ => pure_emits _

/-! ### The buffers of an output run

A completed `ethernet_output` gives its buffer back exactly when it returns true, and no
other buffer.
-/

/-- The event gives a buffer back. -/
def Event.frees (id : SkbId) : Event → Bool
  | .free j => j == id
  | _ => false

/-- How often events give a buffer back. -/
def freeCount (es : List Event) (id : SkbId) : Nat := es.countP (Event.frees id)

@[simp] theorem freeCount_nil (id : SkbId) : freeCount [] id = 0 := rfl

@[simp] theorem freeCount_append (es es' : List Event) (id : SkbId) :
    freeCount (es ++ es') id = freeCount es id + freeCount es' id := List.countP_append

@[simp] theorem freeCount_cons (e : Event) (es : List Event) (id : SkbId) :
    freeCount (e :: es) id = freeCount es id + if e.frees id then 1 else 0 := List.countP_cons

theorem freeCount_eq_zero {es : List Event} (h : ∀ e ∈ es, ∀ id, e.frees id = false) (id : SkbId) :
    freeCount es id = 0 :=
  List.countP_eq_zero.mpr fun e he => by rw [h e he id]; exact Bool.false_ne_true

/-- How often a buffer is in a queue. -/
def idCount (queue : List SkBuff) (id : SkbId) : Nat := queue.countP fun s => s.id == id

@[simp] theorem idCount_nil (id : SkbId) : idCount [] id = 0 := rfl

@[simp] theorem idCount_append (l l' : List SkBuff) (id : SkbId) :
    idCount (l ++ l') id = idCount l id + idCount l' id := List.countP_append

@[simp] theorem idCount_cons (s : SkBuff) (l : List SkBuff) (id : SkbId) :
    idCount (s :: l) id = idCount l id + if s.id = id then 1 else 0 := by
  rw [idCount, List.countP_cons]
  simp [idCount]

theorem freeSkbIf_trace {c : Bool} {skb : SkBuff} {w w' : World} {u : Unit}
    (h : freeSkbIf c skb w = .ok u w') :
    w' = { w with trace := w.trace ++ if c then [.free skb.id] else [] } := by
  cases c with
  | true => exact freeSkb_ok.mp h
  | false =>
      cases h
      rw [if_neg Bool.false_ne_true, List.append_nil]

theorem sendPktOut_frees {i : IntfId} {skb : SkBuff} {w w' : World} {r : Bool}
    (h : sendPktOut i skb w = .ok r w') :
    ∃ es, w'.trace = w.trace ++ es ∧ ∀ id, freeCount es id = if r ∧ skb.id = id then 1 else 0 := by
  obtain ⟨sent, w1, h1, hrest⟩ := bind_ok_iff.mp h
  have hsent := (sendBytesOut_emits (P := fun e => ∀ id, e.frees id = false) fun _ => rfl).ok h1
  obtain ⟨es, hes, hnone⟩ := hsent.trace
  split at hrest
  · obtain ⟨_, w2, h2, hdone⟩ := bind_ok_iff.mp hrest
    cases hdone
    rw [freeSkb_ok] at h2
    refine ⟨es ++ [.free skb.id], ?_, fun id => ?_⟩
    · rw [h2, hes, List.append_assoc]
    · simp [freeCount_eq_zero hnone, Event.frees]
  · cases hrest
    refine ⟨es, hes, fun id => ?_⟩
    simp [freeCount_eq_zero hnone]

theorem ethernetOutput_frees {i : IntfId} {mac : MacAddr} {proto : UInt16} {skb : SkBuff}
    {w w' : World} {r : Bool} (h : ethernetOutput i mac proto skb w = .ok r w') :
    ∃ es, w'.trace = w.trace ++ es ∧ ∀ id, freeCount es id = if r ∧ skb.id = id then 1 else 0 := by
  obtain ⟨_, w1, h1, hrest⟩ := bind_ok_iff.mp h
  rw [log_ok] at h1
  obtain ⟨s, hpush, hrest⟩ := bind_ok_of_eq (skbPush_reads _ _) hrest
  obtain ⟨-, rfl, -⟩ := skbPush_ok.mp hpush
  obtain ⟨intf, -, hrest⟩ := bind_ok_of_eq (derefIntf_reads i) hrest
  have hsend : ∀ s : SkBuff, s.id = skb.id → sendPktOut i s w1 = .ok r w' →
      ∃ es, w'.trace = w.trace ++ es ∧
        ∀ id, freeCount es id = if r ∧ skb.id = id then 1 else 0 := by
    intro s hid hs
    obtain ⟨es, hes, hcount⟩ := sendPktOut_frees hs
    refine ⟨.ethOutput i mac proto skb :: es, ?_, fun id => ?_⟩
    · rw [hes, h1, List.append_assoc, List.singleton_append]
    · rw [freeCount_cons, hcount, hid]
      rfl
  dsimp only at hrest
  split at hrest
  · obtain ⟨s, hput, hs⟩ := bind_ok_of_eq (skbPut_reads _ _) hrest
    obtain ⟨-, rfl, -⟩ := skbPut_ok.mp hput
    refine hsend _ ?_ hs
    rfl
  · refine hsend _ ?_ hrest
    rfl

end SimpleTcpip
