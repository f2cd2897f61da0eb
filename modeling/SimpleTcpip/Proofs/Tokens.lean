/-
Where a buffer is.

A buffer is a token: while a function works on it nobody holds it, and from then on it
has been given back or sits in a queue.  `tokens w id` counts how often it does either,
queue by queue.  The receive path answers for the frame's buffer with its result, false
for "still yours" and true for "taken".  `Takes` is that contract for a run that is given
a live buffer, `Spares` says that no other buffer is touched, and every function below
`pkt_receive` is shown to keep the contract, with one exception in tcp.c.
-/
import SimpleTcpip.Proofs.Changes
import SimpleTcpip.Proofs.Neighbour

namespace SimpleTcpip

open Fallible Relation

/-! ### Counting -/

/-- What can become of a buffer that is handed on. -/
inductive Holder
  /-- It was given back. -/
  | freed
  /-- It waits for an address. -/
  | arp (n : NodeId)
  /-- It is in the queue of a UDP socket. -/
  | udp (k : SockId)
  /-- It is in the queue of a TCP connection. -/
  | tcp (c : ConnId)
  deriving DecidableEq

/-- How often a buffer was given back, and how often it is in each queue. -/
def tokens (w : World) (id : SkbId) : Holder → Nat
  | .freed => freeCount w.trace id
  | .arp n => ((w.arpTable n).map fun entry => idCount entry.pendingPkts id).sum
  | .udp k => (w.udpSock k).elim 0 fun sock => idCount sock.rxSkb id
  | .tcp c => (w.tcpConn c).elim 0 fun conn => idCount conn.rxSkb id

/-- Nobody holds the buffer, or exactly one holder does, once. -/
def Settled (w : World) (id : SkbId) : Prop :=
  tokens w id = 0 ∨ ∃ h, tokens w id = Pi.single h 1

/-- Nothing that was not allocated is held. -/
structure Fresh (w : World) : Prop where
  tokens : ∀ id, w.nextId ≤ id → tokens w id = 0
  conns : ∀ c, w.nextId ≤ c → w.tcpConn c = none

section Counting

variable {w w' : World} {id : SkbId} {es : List Event}

/-- A run that leaves the queues alone only gives buffers back. -/
theorem tokens_of_queues (harp : w'.arpTable = w.arpTable) (hudp : w'.udpSock = w.udpSock)
    (htcp : w'.tcpConn = w.tcpConn) (htrace : w'.trace = w.trace ++ es) :
    tokens w' id = tokens w id + Pi.single .freed (freeCount es id) := by
  funext h
  rw [Pi.add_apply]
  cases h with
  | freed =>
      rw [Pi.single_eq_same]
      change freeCount w'.trace id = freeCount w.trace id + _
      rw [htrace, freeCount_append]
  | arp n =>
      rw [Pi.single_eq_of_ne (by simp), Nat.add_zero]
      simp only [tokens, harp]
  | udp k =>
      rw [Pi.single_eq_of_ne (by simp), Nat.add_zero]
      simp only [tokens, hudp]
  | tcp c =>
      rw [Pi.single_eq_of_ne (by simp), Nat.add_zero]
      simp only [tokens, htcp]

theorem tokens_freed (skb : SkBuff) :
    tokens (w.freed skb) id = tokens w id + Pi.single .freed (if skb.id = id then 1 else 0) := by
  have hfreed : tokens (w.freed skb) id
      = tokens w id + Pi.single .freed (freeCount [.free skb.id] id) :=
    tokens_of_queues rfl rfl rfl rfl
  rw [hfreed]
  simp [Event.frees]

/-- Parking a packet adds it to the queue of its next hop. -/
theorem tokens_parked (n : NodeId) (ip : UInt32) (i : IntfId) (s : SkBuff) :
    tokens (w.parked n ip i s) id
      = tokens w id + Pi.single (.arp n) (if s.id = id then 1 else 0) := by
  have hsum : ((parkPacket (w.arpTable n) ip i s).map fun e => idCount e.pendingPkts id).sum
      = ((w.arpTable n).map fun e => idCount e.pendingPkts id).sum
        + if s.id = id then 1 else 0 := by
    unfold parkPacket
    cases hlook : arpTableLookup (w.arpTable n) ip with
    | some entry =>
        have hchange := List.sum_map_modifyFirst (g := fun e => idCount e.pendingPkts id)
          (f := fun e => { e with pendingPkts := s :: e.pendingPkts }) hlook
        rw [idCount_cons] at hchange
        dsimp only [arpTableModify]
        omega
    | none =>
        rw [List.map_cons, List.sum_cons, idCount_cons, idCount_nil]
        omega
  funext h
  rw [Pi.add_apply]
  cases h with
  | freed =>
      rw [Pi.single_eq_of_ne (by simp), Nat.add_zero]
      change freeCount (w.trace ++ [.parked n ip s]) id = freeCount w.trace id
      simp [Event.frees]
  | arp m =>
      change ((Function.update w.arpTable n _ m).map fun e => idCount e.pendingPkts id).sum = _
      by_cases hm : m = n
      · subst hm
        rw [Function.update_self, Pi.single_eq_same]
        exact hsum
      · rw [Function.update_of_ne hm, Pi.single_eq_of_ne (by simpa using hm)]
        rfl
  | udp k => rw [Pi.single_eq_of_ne (by simp), Nat.add_zero]; rfl
  | tcp c => rw [Pi.single_eq_of_ne (by simp), Nat.add_zero]; rfl

/-- Queueing a datagram on a socket. -/
theorem tokens_udp {k : SockId} {sock sock' : UdpSock} (hk : w.udpSock k = some sock)
    (harp : w'.arpTable = w.arpTable) (htcp : w'.tcpConn = w.tcpConn)
    (hudp : w'.udpSock = Function.update w.udpSock k (some sock')) (htrace : w'.trace = w.trace)
    {d : Nat} (hcount : idCount sock'.rxSkb id = idCount sock.rxSkb id + d) :
    tokens w' id = tokens w id + Pi.single (.udp k) d := by
  funext h
  rw [Pi.add_apply]
  cases h with
  | freed => rw [Pi.single_eq_of_ne (by simp), Nat.add_zero]; simp only [tokens, htrace]
  | arp n => rw [Pi.single_eq_of_ne (by simp), Nat.add_zero]; simp only [tokens, harp]
  | tcp c => rw [Pi.single_eq_of_ne (by simp), Nat.add_zero]; simp only [tokens, htcp]
  | udp j =>
      simp only [tokens, hudp]
      by_cases hj : j = k
      · subst hj
        rw [Function.update_self, Pi.single_eq_same, hk]
        exact hcount
      · rw [Function.update_of_ne hj, Pi.single_eq_of_ne (by simpa using hj)]
        rfl

/-- Writing a connection that may not be there yet. -/
theorem tokens_tcp {c : ConnId} {conn' : TcpConnectionSock} (harp : w'.arpTable = w.arpTable)
    (hudp : w'.udpSock = w.udpSock) (htcp : w'.tcpConn = Function.update w.tcpConn c (some conn'))
    (htrace : w'.trace = w.trace) {d : Nat}
    (hcount : idCount conn'.rxSkb id = tokens w id (.tcp c) + d) :
    tokens w' id = tokens w id + Pi.single (.tcp c) d := by
  funext h
  rw [Pi.add_apply]
  cases h with
  | freed => rw [Pi.single_eq_of_ne (by simp), Nat.add_zero]; simp only [tokens, htrace]
  | arp n => rw [Pi.single_eq_of_ne (by simp), Nat.add_zero]; simp only [tokens, harp]
  | udp k => rw [Pi.single_eq_of_ne (by simp), Nat.add_zero]; simp only [tokens, hudp]
  | tcp j =>
      by_cases hj : j = c
      · subst hj
        rw [Pi.single_eq_same, ← hcount]
        simp only [tokens, htcp, Function.update_self, Option.elim_some]
      · rw [Pi.single_eq_of_ne (by simpa using hj)]
        simp only [tokens, htcp, Function.update_of_ne hj, Nat.add_zero]

/-- A reply moves what waited to the allocator. -/
theorem tokens_flushed {n : NodeId} {ip : UInt32} {mac : MacAddr} {entry : ArpEntry}
    (hlook : arpTableLookup (w.arpTable n) ip = some entry)
    (h : Flushed n (learnMac (w.arpTable n) ip mac) entry.pendingPkts w w') :
    tokens w' id + Pi.single (.arp n) (idCount entry.pendingPkts id)
      = tokens w id + Pi.single .freed (idCount entry.pendingPkts id) := by
  obtain ⟨es, hes, -, hcount⟩ := h.trace
  have hsum := List.sum_map_modifyFirst (g := fun e => idCount e.pendingPkts id)
    (f := fun e => { e with resolved := true, mac := mac, pendingPkts := [] }) hlook
  funext holder
  rw [Pi.add_apply, Pi.add_apply]
  cases holder with
  | freed =>
      rw [Pi.single_eq_of_ne (by simp), Pi.single_eq_same, ← hcount, Nat.add_zero]
      simp only [tokens, hes, freeCount_append]
  | arp m =>
      have hzero : (Pi.single Holder.freed (idCount entry.pendingPkts id) : Holder → Nat) (.arp m)
          = 0 := Pi.single_eq_of_ne (by simp) _
      rw [hzero, Nat.add_zero]
      simp only [tokens, h.arpTable]
      by_cases hm : m = n
      · subst hm
        rw [Function.update_self, Pi.single_eq_same]
        exact hsum
      · rw [Function.update_of_ne hm, Pi.single_eq_of_ne (by simpa using hm), Nat.add_zero]
  | udp k =>
      rw [Pi.single_eq_of_ne (by simp), Pi.single_eq_of_ne (by simp)]
      have hudp : w'.udpSock = w.udpSock := by rw [h.frame]
      simp only [tokens, hudp]
  | tcp c =>
      rw [Pi.single_eq_of_ne (by simp), Pi.single_eq_of_ne (by simp)]
      have htcp : w'.tcpConn = w.tcpConn := by rw [h.frame]
      simp only [tokens, htcp]

end Counting

/-! ### Runs that spare the other buffers -/

/-- Buffers allocated before are where they were, except those in `P`; one allocated since
has at most one holder. -/
structure Spares (P : SkbId → Prop) (w w' : World) : Prop where
  nextId : w.nextId ≤ w'.nextId
  old : ∀ id, id < w.nextId → ¬ P id → tokens w' id = tokens w id
  new : ∀ id, w.nextId ≤ id → Settled w' id
  fresh : Fresh w'

namespace Spares

variable {P Q : SkbId → Prop} {w w' w'' : World}

/-- A run after which everything is where it was. -/
theorem of_tokens (hw : Fresh w) (hP : ∀ id, P id → id < w.nextId) (hid : w.nextId ≤ w'.nextId)
    (hsame : ∀ id, ¬ P id → tokens w' id = tokens w id)
    (hconns : ∀ c, w'.nextId ≤ c → w'.tcpConn c = none) : Spares P w w' := by
  have hnew : ∀ id, w.nextId ≤ id → tokens w' id = 0 := by
    intro id hle
    rw [hsame id fun h => absurd (hP id h) (Nat.not_lt.mpr hle), hw.tokens id hle]
  exact ⟨hid, fun id _ => hsame id, fun id hle => Or.inl (hnew id hle),
    fun id hle => hnew id (Nat.le_trans hid hle), hconns⟩

theorem refl (hw : Fresh w) (hP : ∀ id, P id → id < w.nextId) : Spares P w w :=
  of_tokens hw hP (Nat.le_refl _) (fun _ _ => rfl) hw.conns

theorem trans (hP : ∀ id, P id → id < w.nextId) (h : Spares P w w') (h' : Spares P w' w'') :
    Spares P w w'' := by
  refine ⟨Nat.le_trans h.nextId h'.nextId, fun id hlt hid => ?_, fun id hle => ?_, h'.fresh⟩
  · rw [h'.old id (Nat.lt_of_lt_of_le hlt h.nextId) hid, h.old id hlt hid]
  · by_cases hlt : id < w'.nextId
    · have hnot : ¬ P id := fun hid => absurd (hP id hid) (Nat.not_lt.mpr hle)
      have hsame := h'.old id hlt hnot
      unfold Settled
      rw [hsame]
      exact h.new id hle
    · exact h'.new id (Nat.le_of_not_lt hlt)

theorem mono (hPQ : ∀ id, P id → Q id) (h : Spares P w w') : Spares Q w w' :=
  ⟨h.nextId, fun id hlt hid => h.old id hlt fun hp => hid (hPQ id hp), h.new, h.fresh⟩

end Spares

/-- No buffer is touched. -/
abbrev SparesAll : World → World → Prop := Spares fun _ => False

theorem SparesAll.trans {w w' w'' : World} (h : SparesAll w w') (h' : SparesAll w' w'') :
    SparesAll w w'' :=
  Spares.trans (fun _ hp => hp.elim) h h'

/-- A buffer is in the hands of the function that runs. -/
structure Given (w : World) (b : SkbId) : Prop where
  fresh : Fresh w
  allocated : b < w.nextId
  live : tokens w b = 0

/-- What happens before a function does something with its buffer. -/
theorem SparesAll.given {w w' : World} {b : SkbId} (h : SparesAll w w') (hb : Given w b) :
    Given w' b :=
  ⟨h.fresh, Nat.lt_of_lt_of_le hb.allocated h.nextId, by rw [h.old b hb.allocated id, hb.live]⟩

/-- **The contract of the receive path**: a run that returns false leaves its buffer to the
caller, and after one that returns true the buffer has one holder. -/
structure Takes (b : SkbId) (r : Bool) (w w' : World) : Prop where
  spares : Spares (· = b) w w'
  outcome : if r then ∃ h, tokens w' b = Pi.single h 1 else tokens w' b = 0

namespace Takes

variable {b : SkbId} {r : Bool} {w w' w'' : World}

/-- Something else happens first. -/
theorem after (h : SparesAll w w') (hb : Given w b) (h' : Takes b r w' w'') : Takes b r w w'' :=
  ⟨Spares.trans (fun _ hid => hid ▸ hb.allocated) (h.mono fun _ hf => hf.elim) h'.spares,
    h'.outcome⟩

/-- Something else happens afterwards. -/
theorem before (hb : Given w b) (h : Takes b r w w') (h' : SparesAll w' w'') : Takes b r w w'' := by
  have hlt : b < w'.nextId := Nat.lt_of_lt_of_le hb.allocated h.spares.nextId
  refine ⟨Spares.trans (fun _ hid => hid ▸ hb.allocated) h.spares (h'.mono fun _ hf => hf.elim), ?_⟩
  rw [h'.old b hlt id]
  exact h.outcome

/-- The buffer is left alone. -/
theorem refused (hb : Given w b) (h : SparesAll w w') : Takes b false w w' :=
  ⟨h.mono fun _ hf => hf.elim, by rw [h.old b hb.allocated id]; exact hb.live⟩

/-- The buffer gets its one holder, and that is all that happens. -/
theorem of_tokens (hb : Given w b) (holder : Holder) (hid : w.nextId ≤ w'.nextId)
    (htokens : ∀ id, tokens w' id = tokens w id + Pi.single holder (if b = id then 1 else 0))
    (hconns : ∀ c, w'.nextId ≤ c → w'.tcpConn c = none) : Takes b true w w' := by
  refine ⟨Spares.of_tokens hb.fresh (fun _ hid => hid ▸ hb.allocated) hid
    (fun id hne => ?_) hconns, holder, ?_⟩
  · rw [htokens, if_neg fun h => hne h.symm, Pi.single_zero, add_zero]
  · rw [htokens, if_pos rfl, hb.live, zero_add]

/-- The buffer is given back. -/
theorem freed (skb : SkBuff) (hb : Given w skb.id) : Takes skb.id true w (w.freed skb) :=
  of_tokens hb .freed (Nat.le_refl _) (fun _ => tokens_freed skb) hb.fresh.conns

/-- However it ends, a buffer of its own has at most one holder. -/
theorem settled (h : Takes b r w w') : Settled w' b := by
  have houtcome := h.outcome
  cases r with
  | true => exact Or.inr houtcome
  | false => exact Or.inl houtcome

end Takes

/-! ### Elementary runs -/

section Elementary

variable {w w' : World} {b : SkbId}

/-- A run that leaves the queues alone and gives nothing back. -/
theorem SparesAll.of_queues {es : List Event} (hw : Fresh w) (hid : w.nextId ≤ w'.nextId)
    (harp : w'.arpTable = w.arpTable) (hudp : w'.udpSock = w.udpSock)
    (htcp : w'.tcpConn = w.tcpConn) (htrace : w'.trace = w.trace ++ es)
    (hes : ∀ id, freeCount es id = 0) : SparesAll w w' := by
  refine Spares.of_tokens hw (fun _ hf => hf.elim) hid (fun id _ => ?_) fun c hc => ?_
  · rw [tokens_of_queues harp hudp htcp htrace, hes, Pi.single_zero, add_zero]
  · rw [htcp]
    exact hw.conns c (Nat.le_trans hid hc)

/-- A connection gets other control data. -/
theorem SparesAll.of_conn {c : ConnId} {conn conn' : TcpConnectionSock} (hw : Fresh w)
    (hc : w.tcpConn c = some conn) (hrx : conn'.rxSkb = conn.rxSkb) :
    SparesAll w { w with tcpConn := Function.update w.tcpConn c (some conn') } := by
  refine Spares.of_tokens hw (fun _ hf => hf.elim) (Nat.le_refl _) (fun id _ => ?_) fun c' hc' => ?_
  · have hcount : idCount conn'.rxSkb id = tokens w id (.tcp c) + 0 := by
      rw [hrx]
      simp only [tokens, hc, Option.elim_some, Nat.add_zero]
    have htokens : tokens { w with tcpConn := Function.update w.tcpConn c (some conn') } id
        = tokens w id + Pi.single (.tcp c) 0 := by
      refine tokens_tcp ?_ ?_ ?_ ?_ hcount <;> rfl
    rw [htokens, Pi.single_zero, add_zero]
  · have hne : c' ≠ c := by
      rintro rfl
      rw [hw.conns c' hc'] at hc
      cases hc
    change Function.update w.tcpConn c _ c' = none
    rw [Function.update_of_ne hne]
    exact hw.conns c' hc'

/-- A new connection is filled in. -/
theorem SparesAll.of_new_conn {conn : TcpConnectionSock} (hw : Fresh w) (hrx : conn.rxSkb = []) :
    SparesAll w { w with nextId := w.nextId + 1,
                         tcpConn := Function.update w.tcpConn w.nextId (some conn) } := by
  refine Spares.of_tokens hw (fun _ hf => hf.elim) (Nat.le_succ _) (fun id _ => ?_) fun c hc => ?_
  · have hcount : idCount conn.rxSkb id = tokens w id (.tcp w.nextId) + 0 := by
      rw [hrx]
      simp only [tokens, hw.conns w.nextId (Nat.le_refl _), Option.elim_none, idCount_nil]
    have htokens : tokens { w with nextId := w.nextId + 1,
                                   tcpConn := Function.update w.tcpConn w.nextId (some conn) } id
        = tokens w id + Pi.single (.tcp w.nextId) 0 := by
      refine tokens_tcp ?_ ?_ ?_ ?_ hcount <;> rfl
    rw [htokens, Pi.single_zero, add_zero]
  · have hlt : w.nextId < c := hc
    change Function.update w.tcpConn w.nextId _ c = none
    rw [Function.update_of_ne (Nat.ne_of_gt hlt)]
    exact hw.conns c (Nat.le_of_lt hlt)

/-- What a call does with a buffer it allocates is no other buffer's concern. -/
theorem SparesAll.of_alloc {w₁ : World} (hid : w₁.nextId = w.nextId + 1)
    (hsame : ∀ id, tokens w₁ id = tokens w id) (h : Spares (· = w.nextId) w₁ w')
    (hset : Settled w' w.nextId) : SparesAll w w' := by
  have hlt : ∀ id, id < w.nextId → id < w₁.nextId := fun id hlt => by omega
  refine ⟨Nat.le_trans (by omega) h.nextId, fun id hlt' _ => ?_, fun id hle => ?_, h.fresh⟩
  · rw [h.old id (hlt id hlt') (Nat.ne_of_lt hlt'), hsame]
  · rcases Nat.eq_or_lt_of_le hle with rfl | hgt
    · exact hset
    · exact h.new id (by omega)

/-- The buffer `alloc_skb` returns is the caller's. -/
theorem allocSkb_given {size : Nat} {skb : SkBuff} (hw : Fresh w)
    (h : allocSkb size w = .ok skb w') :
    skb.id = w.nextId ∧ skb.ipHdr = none ∧ w'.nextId = w.nextId + 1 ∧
      (∀ id, tokens w' id = tokens w id) ∧ Given w' w.nextId := by
  obtain ⟨rfl, rfl⟩ := allocSkb_ok.mp h
  have htokens : ∀ id, tokens { w with nextId := w.nextId + 1, trace := w.trace ++ [.alloc w.nextId] } id
      = tokens w id := by
    intro id
    have halloc : tokens { w with nextId := w.nextId + 1, trace := w.trace ++ [.alloc w.nextId] } id
        = tokens w id + Pi.single .freed (freeCount [.alloc w.nextId] id) := by
      refine tokens_of_queues ?_ ?_ ?_ ?_ <;> rfl
    rw [halloc]
    simp [Event.frees]
  refine ⟨rfl, rfl, rfl, htokens, ⟨fun id hle => ?_, fun c hle => ?_⟩, Nat.lt_succ_self _, ?_⟩
  · rw [htokens]
    exact hw.tokens id (Nat.le_of_succ_le hle)
  · exact hw.conns c (Nat.le_of_succ_le hle)
  · rw [htokens]
    exact hw.tokens _ (Nat.le_refl _)

theorem log_spares {e : Event} (hw : Fresh w) (he : ∀ id, e.frees id = false) :
    SparesAll w { w with trace := w.trace ++ [e] } :=
  .of_queues hw (Nat.le_refl _) rfl rfl rfl rfl fun id => by simp [he]

end Elementary

end SimpleTcpip
