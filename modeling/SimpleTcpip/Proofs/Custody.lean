/-
What becomes of a received frame.

`recv_task` frees the frame's buffer when `pkt_receive` returns false.  `Handled` is what
that relies on, together with what happens to the buffers that were there before.  It
holds of every completed run but those on a segment that ends a connection.
-/
import SimpleTcpip.Proofs.Frame
import SimpleTcpip.Proofs.Ownership

namespace SimpleTcpip

open Fallible Relation

/-- A buffer is where it was, or it waited for an address and was sent. -/
def Moved (t t' : Holder → Nat) : Prop :=
  t' = t ∨ ∃ n, t = Pi.single (.arp n) 1 ∧ t' = Pi.single .freed 1

/-- Handling a frame did with its buffer what it says it did. -/
structure Handled (b : SkbId) (r : Bool) (w w' : World) : Prop where
  nextId : w.nextId ≤ w'.nextId
  outcome : if r then ∃ h, tokens w' b = Pi.single h 1 else tokens w' b = 0
  old : ∀ id, id < w.nextId → id ≠ b → Moved (tokens w id) (tokens w' id)
  new : ∀ id, w.nextId ≤ id → Settled w' id
  fresh : Fresh w'

theorem Takes.handled {b : SkbId} {r : Bool} {w w' : World} (h : Takes b r w w') :
    Handled b r w w' :=
  ⟨h.spares.nextId, h.outcome, fun id hlt hne => Or.inl (h.spares.old id hlt hne), h.spares.new,
    h.spares.fresh⟩

/-- A buffer nobody holds stays so. -/
theorem Moved.zero {t' : Holder → Nat} (h : Moved 0 t') : t' = 0 := by
  rcases h with h | ⟨n, h, -⟩
  · exact h
  · have h1 := congrFun h (.arp n)
    rw [Pi.single_eq_same] at h1
    cases h1

/-- A frame that ends a connection is left lying about; any other one is handled. -/
structure Receipt (closes : Prop) (b : SkbId) (r : Bool) (w w' : World) : Prop where
  dropped : closes → r = true ∧ SparesAll w w'
  kept : ¬ closes → Handled b r w w'

theorem Result.receipt {closes : Prop} {b : SkbId} {r : Bool} {w w' : World}
    (h : Result closes b r w w') : Receipt closes b r w w' :=
  ⟨h.dropped, fun hno => (h.kept hno).handled⟩

/-! ### The network layer -/

section Network

variable {w w' : World} {skb : SkBuff} {depth : Nat} {r : Bool}

/-- **`ip_input` of a received packet.** -/
theorem ipInput_result (hb : Given w skb.id)
    (hrun : ipInputDepth (depth + 1) skb.ipPacket w = .ok r w') :
    Result (skb.ipPacket.proto = ipProtoTcp ∧ ClosesConn w skb) skb.id r w w' := by
  have hlog : SparesAll w (w.transports skb) := log_spares hb.fresh fun _ => rfl
  have hgiven := hlog.given hb
  have hother : ∀ {p : UInt8}, skb.ipPacket.proto = p → p ≠ ipProtoTcp →
      ¬ (skb.ipPacket.proto = ipProtoTcp ∧ ClosesConn w skb) :=
    fun hp hne h => hne (hp.symm.trans h.1)
  cases ipInput_ok hrun with
  | icmp hproto hrun =>
      exact .after hlog hb (.of_takes (hother hproto (by decide))
        (icmpInput_takes (by rfl) hgiven hrun))
  | tcp hproto hrun =>
      refine .after hlog hb ((tcpInput_result hgiven hrun).congr ?_)
      exact (and_iff_right hproto).symm
  | udp hproto hrun =>
      exact .after hlog hb (.of_takes (hother hproto (by decide))
        (udpInput_takes (by rfl) hgiven hrun))
  | refused _ htcp _ hr hw =>
      subst hr hw
      exact .of_takes (fun h => htcp h.1) (.refused hb (.refl hb.fresh fun _ hf => hf.elim))

theorem ipForward_takes (hb : Given w skb.id)
    (hlocal : ∀ i intf, skb.intf = some i → w.intf i = some intf →
      isIpLocal w intf.node skb.ipPacket.dstIp = false)
    (hrun : ipForward skb.ipPacket w = .ok r w') : Takes skb.id r w w' := by
  obtain ⟨t, ht, hrun⟩ := bind_ok_of_eq get_reads hrun
  cases ht
  split at hrun
  · exact refused_takes hb hrun
  obtain ⟨ttl, httl, hrun⟩ := bind_ok_of_eq (readU8_reads _ _) hrun
  obtain ⟨-, rfl, -⟩ := readU8_ok.mp httl
  split at hrun
  · exact refused_takes hb hrun
  split at hrun
  · exact refused_takes hb hrun
  obtain ⟨intf, hintf, hrun⟩ := bind_ok_of_eq (derefIntfPtr_reads _) hrun
  obtain ⟨⟨i, hi, hintf⟩, -⟩ := derefIntfPtr_ok.mp hintf
  have hdst : SkBuff.dstIp { skb.ipPacket.store8 (skb.ipPacket.data + 8)
      (skb.ipPacket.mem (skb.ipPacket.data + 8) - 1) with intf := none } = skb.ipPacket.dstIp :=
    dstIp_forwarded skb.ipPacket
  refine ipPostroute_takes (by rfl) hb (fun s _ _ hin _ => ?_) hrun
  rw [hdst, hlocal i intf hi hintf] at hin
  cases hin

end Network

/-! ### Address resolution -/

section Arp

variable {w w' : World} {skb : SkBuff} {r : Bool}

/-- A step that takes a buffer from one holder to the allocator, if that holder had it. -/
theorem settled_step {t t' : Holder → Nat} {holder : Holder} {d : Nat} (hne : holder ≠ .freed)
    (hstep : t' + Pi.single holder d = t + Pi.single .freed d)
    (hset : t = 0 ∨ ∃ h, t = Pi.single h 1) :
    t' = t ∨ t = Pi.single holder 1 ∧ t' = Pi.single .freed 1 := by
  have hle : d ≤ t holder := by
    have hat := congrFun hstep holder
    rw [Pi.add_apply, Pi.add_apply, Pi.single_eq_same, Pi.single_eq_of_ne hne] at hat
    omega
  have hsame : d = 0 → t' = t := by
    intro h0
    rwa [h0, Pi.single_zero, Pi.single_zero, add_zero, add_zero] at hstep
  rcases hset with h0 | ⟨h, hone⟩
  · rw [h0] at hle
    exact Or.inl (hsame (Nat.le_zero.mp hle))
  · by_cases hholds : h = holder
    · subst hholds
      rw [hone, Pi.single_eq_same] at hle
      rcases Nat.le_one_iff_eq_zero_or_eq_one.mp hle with h0 | h1
      · exact Or.inl (hsame h0)
      · rw [h1, hone, add_comm] at hstep
        exact Or.inr ⟨hone, add_left_cancel hstep⟩
    · rw [hone, Pi.single_eq_of_ne fun heq => hholds heq.symm] at hle
      exact Or.inl (hsame (Nat.le_zero.mp hle))

/-- A reply moves each buffer at most once. -/
theorem moved_flushed {n : NodeId} {ip : UInt32} {mac : MacAddr} {entry : ArpEntry}
    (hlook : arpTableLookup (w.arpTable n) ip = some entry)
    (h : Flushed n (learnMac (w.arpTable n) ip mac) entry.pendingPkts w w') {id : SkbId}
    (hset : Settled w id) : Moved (tokens w id) (tokens w' id) :=
  (settled_step (by simp) (tokens_flushed hlook h) hset).imp_right fun h => ⟨n, h⟩

/-- **`arp_input` handles its buffer.** -/
theorem arpInput_handled (hb : Given w skb.id) (hset : ∀ id, Settled w id)
    (hrun : arpInput skb w = .ok r w') : Handled skb.id r w w' := by
  cases arpInput_ok hrun with
  | ignored _ _ => exact (Takes.refused hb (.refl hb.fresh fun _ hf => hf.elim)).handled
  | answered _ _ _ h =>
      have hsend := sendArpReplyMsg_spares hb.fresh h
      exact (Takes.after hsend hb (.freed skb (hsend.given hb))).handled
  | unknown _ _ _ _ => exact (Takes.freed skb hb).handled
  | @reply w₁ i intf entry mac _ _ _ hlook _ h =>
      have hmoved : ∀ id, Moved (tokens w id) (tokens w₁ id) :=
        fun id => moved_flushed hlook h (hset id)
      have hzero : ∀ id, tokens w id = 0 → tokens w₁ id = 0 := by
        intro id h0
        have hid := hmoved id
        rw [h0] at hid
        exact hid.zero
      have hnext : w.nextId ≤ w₁.nextId := h.nextId
      have hgiven : Given w₁ skb.id := by
        refine ⟨⟨fun id hle => hzero id (hb.fresh.tokens id (Nat.le_trans hnext hle)),
          fun c hle => ?_⟩, Nat.lt_of_lt_of_le hb.allocated hnext, hzero _ hb.live⟩
        rw [show w₁.tcpConn = w.tcpConn by rw [h.frame]]
        exact hb.fresh.conns c (Nat.le_trans hnext hle)
      have htakes := Takes.freed skb hgiven
      refine ⟨Nat.le_trans hnext htakes.spares.nextId, htakes.outcome, fun id hlt hne => ?_,
        fun id hle => ?_, htakes.spares.fresh⟩
      · rw [htakes.spares.old id (Nat.lt_of_lt_of_le hlt hnext) hne]
        exact hmoved id
      · have hne : id ≠ skb.id := fun heq => absurd hb.allocated (Nat.not_lt.mpr (heq ▸ hle))
        refine Or.inl ?_
        rw [tokens_freed, if_neg fun heq => hne heq.symm, Pi.single_zero, add_zero]
        exact hzero id (hb.fresh.tokens id hle)

end Arp

/-! ### The frame -/

/-- The frame ends an established connection. -/
def Closes (w : World) (skb : SkBuff) : Prop := TakenTo w ipProtoTcp skb ∧ ClosesConn w skb

section Frame

variable {w w' : World} {skb : SkBuff} {r : Bool}

/-- **`pkt_receive` handles every frame but one that ends a connection.** -/
theorem pktReceive_receipt (hb : Given w skb.id) (hset : ∀ id, Settled w id)
    (hrun : pktReceive skb w = .ok r w') : Receipt (Closes w skb) skb.id r w w' := by
  have hkept : ¬ IpAccepted w skb → Handled skb.id r w w' → Receipt (Closes w skb) skb.id r w w' :=
    fun hno h => ⟨fun hc => absurd hc.1.1 hno, fun _ => h⟩
  cases pktReceive_ok hrun with
  | ignored hno hr hw =>
      subst hr hw
      exact hkept hno (Takes.refused hb (.refl hb.fresh fun _ hf => hf.elim)).handled
  | arp hno _ _ hrun =>
      refine hkept hno ?_
      change Handled (skb.pulled ethHdrSize).id r w w'
      exact arpInput_handled hb hset hrun
  | @forwarded i intf hno _ hi hintf hlocal hrun =>
      refine hkept hno (ipForward_takes hb (fun j intf' hj hintf' => ?_) hrun).handled
      obtain ⟨rfl, rfl⟩ := intfPtr_unique hi hintf hj hintf'
      exact hlocal
  | delivered hip hrun =>
      refine ((ipInput_result hb hrun).congr ?_).receipt
      constructor
      · rintro ⟨hproto, hcloses⟩
        exact ⟨⟨hip, hproto⟩, hcloses⟩
      · rintro ⟨⟨-, hproto⟩, hcloses⟩
        exact ⟨hproto, hcloses⟩

end Frame

/-! ### Runs -/

/-- Every buffer has at most one holder. -/
structure Accounted (w : World) : Prop where
  fresh : Fresh w
  settled : ∀ id, Settled w id

section Accounts

variable {w w' : World}

theorem SparesAll.accounted (h : SparesAll w w') (hw : Accounted w) : Accounted w' := by
  refine ⟨h.fresh, fun id => ?_⟩
  by_cases hlt : id < w.nextId
  · unfold Settled
    rw [h.old id hlt fun hf => hf]
    exact hw.settled id
  · exact h.new id (Nat.le_of_not_lt hlt)

theorem Moved.settled {t t' : Holder → Nat} (h : Moved t t') (hset : t = 0 ∨ ∃ h, t = Pi.single h 1) :
    t' = 0 ∨ ∃ h, t' = Pi.single h 1 := by
  rcases h with rfl | ⟨n, -, h⟩
  · exact hset
  · exact Or.inr ⟨.freed, h⟩

theorem Handled.accounted {b : SkbId} {r : Bool} (h : Handled b r w w') (hw : Accounted w) :
    Accounted w' := by
  refine ⟨h.fresh, fun id => ?_⟩
  by_cases hid : id = b
  · subst hid
    have houtcome := h.outcome
    cases r with
    | true => exact Or.inr houtcome
    | false => exact Or.inl houtcome
  · by_cases hlt : id < w.nextId
    · exact (h.old id hlt hid).settled (hw.settled id)
    · exact h.new id (Nat.le_of_not_lt hlt)

/-- Forgetting buffers is no double use of one. -/
theorem Accounted.of_le (hw : Accounted w) (hnext : w.nextId ≤ w'.nextId)
    (hconn : w'.tcpConn = w.tcpConn) (hle : ∀ id, tokens w' id ≤ tokens w id) : Accounted w' := by
  refine ⟨⟨fun id hid => ?_, fun c hc => ?_⟩, fun id => ?_⟩
  · have h := hle id
    rw [hw.fresh.tokens id (Nat.le_trans hnext hid)] at h
    exact le_antisymm h zero_le
  · rw [hconn]
    exact hw.fresh.conns c (Nat.le_trans hnext hc)
  · have h := hle id
    rcases hw.settled id with h0 | ⟨holder, hone⟩
    · rw [h0] at h
      exact Or.inl (le_antisymm h zero_le)
    · rw [hone] at h
      have hother : ∀ h', h' ≠ holder → tokens w' id h' = 0 := by
        intro h' hne
        have hat := h h'
        rw [Pi.single_eq_of_ne hne] at hat
        exact Nat.le_zero.mp hat
      have hat := h holder
      rw [Pi.single_eq_same] at hat
      rcases Nat.le_one_iff_eq_zero_or_eq_one.mp hat with h0 | h1
      · left
        funext h'
        by_cases hh : h' = holder
        · rw [hh, h0]
          rfl
        · rw [hother h' hh]
          rfl
      · right
        refine ⟨holder, funext fun h' => ?_⟩
        by_cases hh : h' = holder
        · rw [hh, h1, Pi.single_eq_same]
        · rw [hother h' hh, Pi.single_eq_of_ne hh]

/-- A call that writes no queue of a connection forgets at most datagrams. -/
theorem Confined.accounted {own : Part → Prop} (h : Confined own w w') (hw : Accounted w)
    (hudp : own .udp → ∀ id k, tokens w' id (.udp k) ≤ tokens w id (.udp k)) : Accounted w' := by
  have hsame : w'.arpTable = w.arpTable ∧ w'.tcpConn = w.tcpConn ∧ w'.trace = w.trace := by
    rw [h.frame]
    exact ⟨rfl, rfl, rfl⟩
  obtain ⟨harp, htcp, htrace⟩ := hsame
  refine hw.of_le h.nextId htcp fun id holder => ?_
  cases holder with
  | freed => simp only [tokens, htrace, le_refl]
  | arp n => simp only [tokens, harp, le_refl]
  | tcp c => simp only [tokens, htcp, le_refl]
  | udp k =>
      rcases h.parts .udp with hown | hother
      · exact hudp hown id k
      · simp only [tokens, hother.1, le_refl]

/-- Another socket, or none, whose queue holds no more. -/
theorem tokens_update_udp {k : SockId} {sock : Option UdpSock}
    (hudp : w'.udpSock = Function.update w.udpSock k sock)
    (hle : ∀ id, sock.elim 0 (fun s => idCount s.rxSkb id) ≤ tokens w id (.udp k)) (id : SkbId)
    (j : SockId) : tokens w' id (.udp j) ≤ tokens w id (.udp j) := by
  by_cases hj : j = k
  · subst hj
    have h := hle id
    simp only [tokens, hudp, Function.update_self] at h ⊢
    exact h
  · simp only [tokens, hudp, Function.update_of_ne hj, le_refl]

theorem udpSocket_tokens {n : NodeId} {r : Int} (hrun : udpSocket n w = .ok r w') (id : SkbId)
    (k : SockId) : tokens w' id (.udp k) ≤ tokens w id (.udp k) := by
  obtain ⟨t, ht, hrun⟩ := bind_ok_of_eq get_reads hrun
  cases ht
  cases hfree : firstFree maxUdpSocks w.udpFdToSock with
  | none =>
      rw [hfree] at hrun
      cases hrun
      exact Nat.le_refl _
  | some i =>
      rw [hfree] at hrun
      obtain ⟨k', w1, h1, hrun⟩ := bind_ok_iff.mp hrun
      obtain ⟨rfl, rfl⟩ := allocId_ok.mp h1
      obtain ⟨_, w2, h2, hrun⟩ := bind_ok_iff.mp hrun
      rw [setUdpSock_ok] at h2
      obtain ⟨_, w3, h3, hdone⟩ := bind_ok_iff.mp hrun
      cases h3
      cases hdone
      refine tokens_update_udp (k := w.nextId) (by rw [h2]) (fun _ => ?_) id k
      exact Nat.zero_le _

theorem udpBind_tokens {sockfd : Int} {ip : UInt32} {port : UInt16} {r : Int}
    (hrun : udpBind sockfd ip port w = .ok r w') (id : SkbId) (k : SockId) :
    tokens w' id (.udp k) ≤ tokens w id (.udp k) := by
  obtain ⟨t, ht, hrun⟩ := bind_ok_of_eq get_reads hrun
  cases ht
  cases hgood : goodUdpSock w sockfd with
  | none =>
      rw [hgood] at hrun
      cases hrun
      exact Nat.le_refl _
  | some j =>
      rw [hgood] at hrun
      obtain ⟨sock, hsock, hrun⟩ := bind_ok_of_eq (derefUdpSock_reads j) hrun
      obtain ⟨hsock, -⟩ := derefUdpSock_ok.mp hsock
      split at hrun
      · cases hrun
        exact Nat.le_refl _
      obtain ⟨t, ht, hrun⟩ := bind_ok_of_eq get_reads hrun
      cases ht
      cases hmatch : getMatchingInterface w sock.node ip with
      | none =>
          rw [hmatch] at hrun
          cases hrun
          exact Nat.le_refl _
      | some i =>
          rw [hmatch] at hrun
          obtain ⟨_, w1, h1, hrun⟩ := bind_ok_iff.mp hrun
          rw [setUdpSock_ok] at h1
          obtain ⟨_, w2, h2, hdone⟩ := bind_ok_iff.mp hrun
          cases h2
          cases hdone
          refine tokens_update_udp (k := j) (by rw [h1]) (fun _ => ?_) id k
          simp only [tokens, hsock, Option.elim_some, le_refl]

theorem unlinkUdpSock_udpSock {k : SockId} {sock : UdpSock} {u : Unit}
    (hrun : unlinkUdpSock k sock w = .ok u w') : w'.udpSock = w.udpSock := by
  have hkeeps : Keeps (fun w w' => w'.udpSock = w.udpSock) (unlinkUdpSock k sock) := by
    unfold unlinkUdpSock
    split
    · exact keeps_modify fun _ => rfl
    · exact fun _ => rfl
  exact hkeeps.ok hrun

theorem udpClose_tokens {sockfd : Int} {r : Int} (hrun : udpClose sockfd w = .ok r w')
    (id : SkbId) (k : SockId) : tokens w' id (.udp k) ≤ tokens w id (.udp k) := by
  obtain ⟨t, ht, hrun⟩ := bind_ok_of_eq get_reads hrun
  cases ht
  cases hgood : goodUdpSock w sockfd with
  | none =>
      rw [hgood] at hrun
      cases hrun
      exact Nat.le_refl _
  | some j =>
      rw [hgood] at hrun
      obtain ⟨sock, -, hrun⟩ := bind_ok_of_eq (derefUdpSock_reads j) hrun
      obtain ⟨_, w1, h1, hrun⟩ := bind_ok_iff.mp hrun
      cases h1
      obtain ⟨_, w2, h2, hrun⟩ := bind_ok_iff.mp hrun
      have hlist : w2.udpSock = w.udpSock := (unlinkUdpSock_udpSock h2).trans rfl
      obtain ⟨_, w3, h3, hdone⟩ := bind_ok_iff.mp hrun
      cases h3
      cases hdone
      refine tokens_update_udp (k := j) (by rw [← hlist]) (fun _ => ?_) id k
      exact Nat.zero_le _

/-- A queue gives a buffer to the allocator. -/
theorem Accounted.consumed (hw : Accounted w) (holder : Holder) (hne : holder ≠ .freed) {x : SkbId}
    (hnext : w.nextId ≤ w'.nextId) (hconn : ∀ c, w'.nextId ≤ c → w'.tcpConn c = none)
    (hstep : ∀ id, tokens w' id + Pi.single holder (if x = id then 1 else 0)
      = tokens w id + Pi.single .freed (if x = id then 1 else 0)) : Accounted w' := by
  refine ⟨⟨fun id hid => ?_, hconn⟩, fun id => ?_⟩
  · have h0 := hw.fresh.tokens id (Nat.le_trans hnext hid)
    rcases settled_step hne (hstep id) (Or.inl h0) with hsame | ⟨hone, -⟩
    · rw [hsame, h0]
    · have hat := congrFun (h0.symm.trans hone) holder
      rw [Pi.single_eq_same] at hat
      cases hat
  · rcases settled_step hne (hstep id) (hw.settled id) with hsame | ⟨-, hfreed⟩
    · unfold Settled
      rw [hsame]
      exact hw.settled id
    · exact Or.inr ⟨.freed, hfreed⟩

theorem idCount_getLast {q : List SkBuff} {s : SkBuff} (hlast : q.getLast? = some s) (id : SkbId) :
    idCount q id = idCount q.dropLast id + if s.id = id then 1 else 0 := by
  obtain ⟨q', rfl⟩ := List.getLast?_eq_some_iff.mp hlast
  rw [List.dropLast_concat, idCount_append, idCount_cons, idCount_nil, Nat.zero_add]

theorem finishUdpRecv_accounted {k : SockId} {sock : UdpSock} {s skb : SkBuff} {u : Unit}
    (hw : Accounted w) (hk : w.udpSock k = some sock) (hlast : sock.rxSkb.getLast? = some s)
    (hid : skb.id = s.id) (hrun : finishUdpRecv k sock skb w = .ok u w') : Accounted w' := by
  unfold finishUdpRecv at hrun
  split at hrun
  · obtain ⟨_, w1, h1, hfree⟩ := bind_ok_iff.mp hrun
    rw [setUdpSock_ok] at h1
    obtain rfl := freeSkb_ok.mp hfree
    have hudp : w1.udpSock
        = Function.update w.udpSock k (some { sock with rxSkb := sock.rxSkb.dropLast }) := by rw [h1]
    have hk1 : w1.udpSock k = some { sock with rxSkb := sock.rxSkb.dropLast } := by
      rw [hudp, Function.update_self]
    have hback : w.udpSock = Function.update w1.udpSock k (some sock) := by
      rw [hudp, Function.update_idem, ← hk, Function.update_eq_self]
    have hqueue : ∀ id, tokens w id
        = tokens w1 id + Pi.single (.udp k) (if skb.id = id then 1 else 0) := by
      intro id
      refine tokens_udp hk1 (by rw [h1]) (by rw [h1]) hback (by rw [h1]) ?_
      rw [hid]
      exact idCount_getLast hlast id
    refine hw.consumed (.udp k) (by simp) (x := skb.id) (by rw [h1]) ?_ fun id => ?_
    · rw [h1]
      exact hw.fresh.conns
    · have hfreed : tokens { w1 with trace := w1.trace ++ [.free skb.id] } id
          = tokens w1 id + Pi.single .freed (if skb.id = id then 1 else 0) := tokens_freed skb
      rw [hfreed, hqueue, add_right_comm]
  · rw [setUdpSock_ok] at hrun
    refine hw.of_le (by rw [hrun]) (by rw [hrun]) fun id => ?_
    have hsame : tokens w' id = tokens w id + Pi.single (.udp k) 0 := by
      refine tokens_udp hk (by rw [hrun]) (by rw [hrun]) (by rw [hrun]) (by rw [hrun]) ?_
      rw [idCount_append, idCount_cons, idCount_nil, hid, idCount_getLast hlast, Nat.zero_add,
        Nat.add_zero]
    rw [hsame, Pi.single_zero, add_zero]

theorem finishTcpRecv_accounted {c : ConnId} {conn : TcpConnectionSock} {s skb : SkBuff} {u : Unit}
    (hw : Accounted w) (hc : w.tcpConn c = some conn) (hlast : conn.rxSkb.getLast? = some s)
    (hid : skb.id = s.id) (hrun : finishTcpRecv c conn skb w = .ok u w') : Accounted w' := by
  have hconns : ∀ {conn'} c', w.nextId ≤ c' →
      Function.update w.tcpConn c (some conn') c' = none := by
    intro conn' c' hc'
    have hne : c' ≠ c := by
      rintro rfl
      rw [hw.fresh.conns c' hc'] at hc
      cases hc
    rw [Function.update_of_ne hne]
    exact hw.fresh.conns c' hc'
  have hcount : ∀ id, tokens w id (.tcp c) = idCount conn.rxSkb id := fun id => by
    simp only [tokens, hc, Option.elim_some]
  unfold finishTcpRecv at hrun
  split at hrun
  · obtain ⟨_, w1, h1, hfree⟩ := bind_ok_iff.mp hrun
    rw [setTcpConn_ok] at h1
    obtain rfl := freeSkb_ok.mp hfree
    have htcp : w1.tcpConn
        = Function.update w.tcpConn c (some { conn with rxSkb := conn.rxSkb.dropLast }) := by rw [h1]
    have hback : w.tcpConn = Function.update w1.tcpConn c (some conn) := by
      rw [htcp, Function.update_idem, ← hc, Function.update_eq_self]
    have hqueue : ∀ id, tokens w id
        = tokens w1 id + Pi.single (.tcp c) (if skb.id = id then 1 else 0) := by
      intro id
      refine tokens_tcp (by rw [h1]) (by rw [h1]) hback (by rw [h1]) ?_
      have hrest : tokens w1 id (.tcp c) = idCount conn.rxSkb.dropLast id := by
        simp only [tokens, htcp, Function.update_self, Option.elim_some]
      rw [hrest, hid]
      exact idCount_getLast hlast id
    refine hw.consumed (.tcp c) (by simp) (x := skb.id) (by rw [h1]) ?_ fun id => ?_
    · rw [h1]
      exact hconns
    · have hfreed : tokens { w1 with trace := w1.trace ++ [.free skb.id] } id
          = tokens w1 id + Pi.single .freed (if skb.id = id then 1 else 0) := tokens_freed skb
      rw [hfreed, hqueue, add_right_comm]
  · rw [setTcpConn_ok] at hrun
    have hsame : ∀ id, tokens w' id = tokens w id := by
      intro id
      have htcp : tokens w' id = tokens w id + Pi.single (.tcp c) 0 := by
        refine tokens_tcp (by rw [hrun]) (by rw [hrun]) (by rw [hrun]) (by rw [hrun]) ?_
        rw [hcount, idCount_append, idCount_cons, idCount_nil, hid, idCount_getLast hlast,
          Nat.zero_add, Nat.add_zero]
      rw [htcp, Pi.single_zero, add_zero]
    refine ⟨⟨fun id hle => ?_, ?_⟩, fun id => ?_⟩
    · rw [hsame]
      rw [hrun] at hle
      exact hw.fresh.tokens id hle
    · rw [hrun]
      exact hconns
    · unfold Settled
      rw [hsame]
      exact hw.settled id

theorem udpRecvfrom_accounted {fd : Int} {size : Nat} {wantIp wantPort : Bool}
    {r : Option Datagram} (hw : Accounted w)
    (hrun : udpRecvfrom fd size wantIp wantPort w = .ok r w') : Accounted w' := by
  obtain ⟨t, ht, hrun⟩ := bind_ok_of_eq get_reads hrun
  cases ht
  cases hgood : goodUdpSock w fd with
  | none =>
      rw [hgood] at hrun
      cases hrun
      exact hw
  | some k =>
      rw [hgood] at hrun
      obtain ⟨sock, hsock, hrun⟩ := bind_ok_of_eq (derefUdpSock_reads k) hrun
      obtain ⟨hsock, -⟩ := derefUdpSock_ok.mp hsock
      split at hrun
      · cases hrun
        exact hw
      cases hlast : sock.rxSkb.getLast? with
      | none =>
          rw [hlast] at hrun
          cases hrun
          exact hw
      | some s =>
          rw [hlast] at hrun
          obtain ⟨s', hs, hrun⟩ := bind_ok_of_eq (skbPull_reads _ _) hrun
          obtain ⟨-, -, rfl, -⟩ := skbPull_ok.mp hs
          obtain ⟨ip, w1, h1, hrun⟩ := bind_ok_iff.mp hrun
          -- at most the use of the header is recorded
          have hlog : SparesAll w w1 ∧ w1.udpSock = w.udpSock := by
            unfold recvSrcIp at h1
            split at h1
            · obtain ⟨p, w2, h2, h1⟩ := bind_ok_iff.mp h1
              obtain ⟨-, rfl⟩ := followIpHdr_ok.mp h2
              obtain ⟨src, -, hdone⟩ := bind_ok_of_eq (readU32_reads _ _) h1
              cases hdone
              exact ⟨log_spares hw.fresh fun _ => rfl, rfl⟩
            · cases h1
              exact ⟨.refl hw.fresh fun _ hf => hf.elim, rfl⟩
          obtain ⟨port, -, hrun⟩ := bind_ok_of_eq (recvSrcPort_reads _ wantPort) hrun
          obtain ⟨_, w2, h2, hdone⟩ := bind_ok_iff.mp hrun
          cases hdone
          exact finishUdpRecv_accounted (hlog.1.accounted hw) (by rw [hlog.2, hsock]) hlast (by rfl) h2

theorem tcpRecv_accounted {fd : Int} {size : Nat} {r : Option (List UInt8)} (hw : Accounted w)
    (hrun : tcpRecv fd size w = .ok r w') : Accounted w' := by
  cases tcpRecv_ok hrun with
  | nothing _ heq =>
      rw [heq]
      exact hw
  | read _ hconn _ hlast _ hfinish => exact finishTcpRecv_accounted hw hconn hlast (by rfl) hfinish

theorem received_tokens (i : IntfId) (frame : List UInt8) (id : SkbId) :
    tokens (w.received i frame) id = tokens w id := by
  have htokens : tokens (w.received i frame) id = tokens w id + Pi.single .freed
      (freeCount [.alloc w.nextId, .received i (recvBuffer w.nextId i frame)] id) :=
    tokens_of_queues rfl rfl rfl rfl
  rw [htokens]
  simp [Event.frees]

theorem received_spares (hw : Fresh w) (i : IntfId) (frame : List UInt8) :
    SparesAll w (w.received i frame) :=
  Spares.of_tokens hw (fun _ hf => hf.elim) (Nat.le_succ _) (fun id _ => received_tokens i frame id)
    fun c hc => hw.conns c (Nat.le_of_succ_le hc)

/-- The frame's buffer is in the hands of `pkt_receive`. -/
theorem received_given (hw : Fresh w) (i : IntfId) (frame : List UInt8) :
    Given (w.received i frame) (recvBuffer w.nextId i frame).id :=
  ⟨(received_spares hw i frame).fresh, Nat.lt_succ_self _, by
    rw [received_tokens]
    exact hw.tokens _ (Nat.le_refl _)⟩

theorem recvFrame_accounted {i : IntfId} {frame : List UInt8} {u : Unit} (hw : Accounted w)
    (hrun : recvFrame i frame w = .ok u w') : Accounted w' := by
  obtain ⟨skb, w1, h1, hrun⟩ := bind_ok_iff.mp hrun
  rw [recvSkb_eq] at h1
  cases h1
  obtain ⟨r, w2, h2, hfree⟩ := bind_ok_iff.mp hrun
  have hw1 := (received_spares hw.fresh i frame).accounted hw
  have hb := received_given hw.fresh i frame
  have hreceipt := pktReceive_receipt hb hw1.settled h2
  by_cases hcloses : Closes (w.received i frame) (recvBuffer w.nextId i frame)
  · obtain ⟨rfl, hspares⟩ := hreceipt.dropped hcloses
    cases hfree
    exact hspares.accounted hw1
  · have hhandled := hreceipt.kept hcloses
    have hw2 := hhandled.accounted hw1
    cases r with
    | true =>
        cases hfree
        exact hw2
    | false =>
        have hgiven : Given w2 (recvBuffer w.nextId i frame).id :=
          ⟨hw2.fresh, Nat.lt_of_lt_of_le hb.allocated hhandled.nextId, hhandled.outcome⟩
        obtain rfl := freeSkb_ok.mp hfree
        exact (Takes.freed _ hgiven).handled.accounted hw2

theorem udpSendto_spares {fd : Int} {buff : List UInt8} {ip : UInt32} {port : UInt16} {r : Int}
    (hw : Fresh w) (hrun : udpSendto ipInput fd buff ip port w = .ok r w') : SparesAll w w' := by
  obtain ⟨t, ht, hrun⟩ := bind_ok_of_eq get_reads hrun
  cases ht
  have hsame : SparesAll w w := .refl hw fun _ hf => hf.elim
  cases hgood : goodUdpSock w fd with
  | none =>
      rw [hgood] at hrun
      cases hrun
      exact hsame
  | some k =>
      rw [hgood] at hrun
      obtain ⟨sock, -, hrun⟩ := bind_ok_of_eq (derefUdpSock_reads k) hrun
      split at hrun
      · cases hrun
        exact hsame
      obtain ⟨_, w1, h1, hdone⟩ := bind_ok_iff.mp hrun
      cases hdone
      exact udpOut_spares hw h1

theorem tcpSend_spares {fd : Int} {buff : List UInt8} {r : Int} (hw : Fresh w)
    (hrun : tcpSend ipInput fd buff w = .ok r w') : SparesAll w w' := by
  obtain ⟨t, ht, hrun⟩ := bind_ok_of_eq get_reads hrun
  cases ht
  have hsame : SparesAll w w := .refl hw fun _ hf => hf.elim
  cases hgood : goodTcpConnectionSock w fd with
  | none =>
      rw [hgood] at hrun
      cases hrun
      exact hsame
  | some c =>
      rw [hgood] at hrun
      obtain ⟨conn, -, hrun⟩ := bind_ok_of_eq (derefTcpConn_reads c) hrun
      split at hrun
      · cases hrun
        exact hsame
      obtain ⟨_, w1, h1, hdone⟩ := bind_ok_iff.mp hrun
      cases hdone
      exact tcpOut_spares hw h1

/-- **Every completed call keeps the account.** -/
theorem runOp_accounted {op : Op} {r : Ret} (hw : Accounted w) (hrun : runOp op w = .ok r w') :
    Accounted w' := by
  -- the calls that write no queue
  have hconfined : ∀ {α : Type} {m : M α} {f : α → Ret} (p : Part), p ≠ .udp →
      Keeps (Confined (Eq p)) m → (m >>= fun a => pure (f a)) w = .ok r w' → Accounted w' := by
    intro α m f p hp hm hrun
    obtain ⟨_, w1, h1, hdone⟩ := bind_ok_iff.mp hrun
    cases hdone
    exact (hm.ok h1).accounted hw fun hudp => absurd hudp hp
  cases op with
  | recvFrame i frame =>
      obtain ⟨_, w1, h1, hdone⟩ := bind_ok_iff.mp hrun
      cases hdone
      exact recvFrame_accounted hw h1
  | udpSocket n =>
      obtain ⟨_, w1, h1, hdone⟩ := bind_ok_iff.mp hrun
      cases hdone
      have hconf : Keeps (Confined (Eq Part.udp)) (udpSocket n) := udpSocket_confined rfl n
      exact (hconf.ok h1).accounted hw fun _ => udpSocket_tokens h1
  | udpBind fd ip port =>
      obtain ⟨_, w1, h1, hdone⟩ := bind_ok_iff.mp hrun
      cases hdone
      have hconf : Keeps (Confined (Eq Part.udp)) (udpBind fd ip port) :=
        udpBind_confined rfl fd ip port
      exact (hconf.ok h1).accounted hw fun _ => udpBind_tokens h1
  | udpClose fd =>
      obtain ⟨_, w1, h1, hdone⟩ := bind_ok_iff.mp hrun
      cases hdone
      have hconf : Keeps (Confined (Eq Part.udp)) (udpClose fd) := udpClose_confined rfl fd
      exact (hconf.ok h1).accounted hw fun _ => udpClose_tokens h1
  | udpSendto fd buff ip port =>
      obtain ⟨_, w1, h1, hdone⟩ := bind_ok_iff.mp hrun
      cases hdone
      exact (udpSendto_spares hw.fresh h1).accounted hw
  | udpRecvfrom fd size wantIp wantPort =>
      obtain ⟨_, w1, h1, hdone⟩ := bind_ok_iff.mp hrun
      cases hdone
      exact udpRecvfrom_accounted hw h1
  | tcpRecv fd size =>
      obtain ⟨_, w1, h1, hdone⟩ := bind_ok_iff.mp hrun
      cases hdone
      exact tcpRecv_accounted hw h1
  | tcpSend fd buff =>
      obtain ⟨_, w1, h1, hdone⟩ := bind_ok_iff.mp hrun
      cases hdone
      exact (tcpSend_spares hw.fresh h1).accounted hw
  | icmpOut n ip type code payload =>
      obtain ⟨_, w1, h1, hdone⟩ := bind_ok_iff.mp hrun
      cases hdone
      exact (icmpOut_spares hw.fresh h1).accounted hw
  | ping n ipAddr =>
      obtain ⟨_, w1, h1, hdone⟩ := bind_ok_iff.mp hrun
      cases hdone
      exact (icmpOut_spares hw.fresh h1).accounted hw
  | sendArpBroadcastRequest i ip =>
      obtain ⟨_, w1, h1, hdone⟩ := bind_ok_iff.mp hrun
      cases hdone
      exact (sendArpBroadcastRequest_spares hw.fresh h1).accounted hw
  | tcpSocket n => exact hconfined .tcp (by simp) (tcpSocket_confined rfl n) hrun
  | tcpBind fd ip port => exact hconfined .tcp (by simp) (tcpBind_confined rfl fd ip port) hrun
  | tcpListen fd => exact hconfined .tcp (by simp) (tcpListen_confined rfl fd) hrun
  | tcpAccept fd => exact hconfined .accept (by simp) (tcpAccept_confined rfl fd) hrun
  | tcpClose fd => exact hconfined .tcp (by simp) (tcpClose_confined rfl fd) hrun
  | nodeSetIntfIpAddr n ifName ipAddr mask =>
      exact hconfined .config (by simp) (nodeSetIntfIpAddr_confined rfl n ifName ipAddr mask) hrun
  | rtTableAddRoute n dst mask next i =>
      have hm : Keeps (Confined (Eq Part.config)) (rtTableAddRoute n dst mask next i) :=
        modify_confined rfl fun _ => rfl
      exact hconfined .config (by simp) hm hrun
  | setIpForward val =>
      have hm : Keeps (Confined (Eq Part.config))
          (modify fun w => { w with ipForwardEnable := val } : M Unit) :=
        modify_confined rfl fun _ => rfl
      exact hconfined .config (by simp) hm hrun

end Accounts

/-- **In every state of a run each buffer has at most one holder.** -/
theorem Reachable.accounted {w : World} (h : Reachable w) : Accounted w := by
  induction h with
  | @init w h =>
      have htokens : ∀ id, tokens w id = 0 := by
        intro id
        funext holder
        cases holder with
        | freed => simp only [tokens, h.trace, freeCount_nil, Pi.zero_apply]
        | arp n => simp only [tokens, h.arpTable, List.map_nil, List.sum_nil, Pi.zero_apply]
        | udp k => simp only [tokens, h.udpSock, Option.elim_none, Pi.zero_apply]
        | tcp c => simp only [tokens, h.tcpConn, Option.elim_none, Pi.zero_apply]
      exact ⟨⟨fun id _ => htokens id, fun c _ => congrFun h.tcpConn c⟩, fun id => Or.inl (htokens id)⟩
  | step _ _ hrun ih => exact runOp_accounted ih hrun

end SimpleTcpip
