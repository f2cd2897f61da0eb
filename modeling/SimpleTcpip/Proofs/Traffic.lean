/-
What traffic costs.

A packet is worth something as long as it waits for an address, travels on a link or lies in
the queue of a socket, and so is an open connection.  A `Tariff` says how much, and
`Tariff.Fair` that no function between `recv_task` or a send call and the link makes anything
out of nothing: a frame pays for what its handling sends and queues, and for being handled.
Every function is then shown to keep the books, once for all tariffs.

What a packet is worth may depend on the bytes the next node gets to see, but not on the
source address and the checksum, which every router writes anew.
-/
import SimpleTcpip.Lib.Ledger
import SimpleTcpip.Proofs.Echo
import SimpleTcpip.Proofs.Exchange
import SimpleTcpip.Proofs.Ownership

namespace SimpleTcpip

open Fallible Ledger

/-! ### A packet as the next node gets it -/

/-- The bytes of a packet the next node gets: a short one is padded, and a long one cut. -/
def SkBuff.onWire (skb : SkBuff) : List UInt8 :=
  skb.mem.read skb.data (min (max skb.len 46) maxPacket)

theorem getD_onWire (skb : SkBuff) {k : Nat} (hk : k < 46) :
    skb.onWire.getD k 0 = skb.mem (skb.data + k) := by
  have hmax : 46 ≤ maxPacket := by decide
  exact Memory.getD_read _ (by omega) 0

theorem getD_proto (skb : SkBuff) : skb.onWire.getD 9 0 = skb.proto := getD_onWire skb (by omega)

theorem onWire_congr {s t : SkBuff} (hlen : min (max t.len 46) maxPacket = min (max s.len 46) maxPacket)
    (hmem : ∀ k, k < min (max s.len 46) maxPacket → t.mem (t.data + k) = s.mem (s.data + k)) :
    t.onWire = s.onWire := by
  rw [SkBuff.onWire, hlen]
  exact Memory.read_congr hmem

/-- The bytes of a received frame, as far as the buffer holds it. -/
theorem recvBuffer_byte (id : SkbId) (i : IntfId) {frame : List UInt8} {k : Nat}
    (hk : k < frame.length) (hfits : k < recvBufferSize - recvReservedHeadRoom) :
    (recvBuffer id i frame).mem (recvReservedHeadRoom + k) = frame.getD k 0 := by
  have hk' : k < (frame.take (recvBufferSize - recvReservedHeadRoom)).length := by
    rw [List.length_take]
    omega
  show Memory.write (fun _ => 0) recvReservedHeadRoom _ (recvReservedHeadRoom + k) = _
  rw [Memory.write_inside _ _ _ hk', List.getD_eq_getElem _ _ hk', List.getD_eq_getElem _ _ hk,
    List.getElem_take]

section Framed

variable (id : SkbId) (j : IntfId) (dst src : MacAddr) (proto : UInt16) (s : SkBuff)

/-- The type of a frame is read as it was written, whatever its length. -/
theorem type_received :
    (recvBuffer id j (ethFrame dst src proto s)).mem.load16 (recvReservedHeadRoom + 12)
      = UInt16.ofNat (htons proto.toNat) := by
  have hlen := length_ethFrame dst src proto s
  have hbyte : ∀ k, k < 2 → (recvBuffer id j (ethFrame dst src proto s)).mem
      (recvReservedHeadRoom + (12 + k))
        = (Memory.bytes16 (UInt16.ofNat (htons proto.toNat))).getD k 0 := by
    intro k hk
    rw [recvBuffer_byte _ _ (by omega) (by rw [recvBufferSize, recvReservedHeadRoom]; omega),
      type_ethFrame _ _ _ _ k hk]
  refine Eq.trans ?_ (Memory.load16_store16 (fun _ => 0) 0 (UInt16.ofNat (htons proto.toNat)))
  exact Memory.load16_congr (hbyte 0 (by omega)) (hbyte 1 (by omega))

/-- **The packet of a frame is the packet that was framed.** -/
theorem onWire_received :
    (recvBuffer id j (ethFrame dst src proto s)).ipPacket.onWire = s.onWire := by
  have hlen := length_ethFrame dst src proto s
  have hmax : maxPacket = 2030 := rfl
  have hlen' : (recvBuffer id j (ethFrame dst src proto s)).ipPacket.len
      = min (max s.len 46) maxPacket := by
    show sizeSub (List.take _ (ethFrame dst src proto s)).length 14 = _
    rw [List.length_take, hlen, recvBufferSize, recvReservedHeadRoom, sizeSub_of_le (by omega)]
    omega
  refine onWire_congr (by rw [hlen']; omega) fun k hk => ?_
  show (recvBuffer id j (ethFrame dst src proto s)).mem (recvReservedHeadRoom + 14 + k) = _
  rw [Nat.add_assoc, recvBuffer_byte _ _ (by omega)
    (by rw [recvBufferSize, recvReservedHeadRoom]; omega), body_ethFrame _ _ _ _ k (by omega)]

end Framed

/-! ### What things are worth -/

/-- What packets, ARP messages and connections are worth. -/
structure Tariff (A : Type) where
  /-- A packet, by the bytes the next node gets. -/
  packet : List UInt8 → A
  /-- A datagram in the queue of a socket, by the packet it came in. -/
  queued : List UInt8 → A
  /-- An ARP request. -/
  ask : A
  /-- An ARP reply. -/
  answer : A
  /-- A connection on the list of its socket. -/
  conn : A
  /-- A packet the node sends of its own accord. -/
  own : A
  /-- What handling a frame costs. -/
  tick : A

/-- The buffer a socket queues, back at its IP header. -/
def SkBuff.rewound (skb : SkBuff) : SkBuff :=
  let hdr := skb.udpHdr.getD 0 - ipHdrSize
  { skb with data := hdr, len := skb.tail - hdr }

/-- Where something is held. -/
inductive Place
  /-- It was put on a link. -/
  | link
  /-- It waits for an address. -/
  | arp (n : NodeId)
  /-- It is in the queue of a UDP socket. -/
  | udp (k : SockId)
  /-- It is on the list of a TCP socket. -/
  | tcp (k : SockId)
  deriving DecidableEq

instance (skb : SkBuff) : Decidable skb.IsArpReply := inferInstanceAs (Decidable (_ ∧ _))

namespace Tariff

variable {A : Type} [AddCommMonoid A]

/-- A frame is worth what its packet is. -/
def frame (t : Tariff A) (frame : List UInt8) : A :=
  let skb := recvBuffer 0 0 frame
  let type := skb.mem.load16 (skb.data + 12)
  if type.toNat = htons ethProtoIp.toNat then t.packet skb.ipPacket.onWire
  else if type.toNat = htons ethProtoArp.toNat ∧ (skb.pulled ethHdrSize).IsArpReply then t.answer
  else t.ask

/-- What the packets of a list are worth. -/
def packets (t : Tariff A) (pkts : List SkBuff) : A := (pkts.map fun s => t.packet s.onWire).sum

/-- What the frames of a list are worth. -/
def frames (t : Tariff A) (fs : List (IntfId × List UInt8)) : A := (fs.map fun f => t.frame f.2).sum

/-- What is held where: on the links is all that was ever put there. -/
def stock (t : Tariff A) (w : World) : Place → A
  | .link => t.frames (w.trace.filterMap Event.sentFrame)
  | .arp n => ((w.arpTable n).map fun entry => t.packets entry.pendingPkts).sum
  | .udp k => (w.udpSock k).elim 0 fun sock => (sock.rxSkb.map fun s => t.queued s.rewound.onWire).sum
  | .tcp k => (w.tcpSock k).elim 0 fun sock => sock.conns.length • t.conn

@[simp] theorem packets_nil (t : Tariff A) : t.packets [] = 0 := rfl

@[simp] theorem packets_cons (t : Tariff A) (s : SkBuff) (pkts : List SkBuff) :
    t.packets (s :: pkts) = t.packet s.onWire + t.packets pkts := by
  rw [packets, List.map_cons, List.sum_cons, packets]

@[simp] theorem frames_nil (t : Tariff A) : t.frames [] = 0 := rfl

@[simp] theorem frames_singleton (t : Tariff A) (f : IntfId × List UInt8) :
    t.frames [f] = t.frame f.2 := by
  rw [frames, List.map_singleton, List.sum_singleton]

theorem frames_append (t : Tariff A) (fs fs' : List (IntfId × List UInt8)) :
    t.frames (fs ++ fs') = t.frames fs + t.frames fs' := by
  rw [frames, List.map_append, List.sum_append, frames, frames]

end Tariff

/-- Two packets a router tells apart by nothing but the source and the checksum. -/
def SameRoute (p q : List UInt8) : Prop :=
  p.length = q.length ∧ ∀ k, k < 10 ∨ 16 ≤ k → p.getD k 0 = q.getD k 0

/-- A packet a node passes on, seen before and after. -/
def HopCounted (p q : List UInt8) : Prop :=
  p.length = q.length ∧ (∀ k, k < 8 ∨ k = 9 ∨ 16 ≤ k → p.getD k 0 = q.getD k 0) ∧
    1 < (p.getD 8 0).toNat ∧ q.getD 8 0 = p.getD 8 0 - 1

/-- The flags of the segment in a packet. -/
def packetFlags (p : List UInt8) : TcpFlags := ⟨p.getD 33 0⟩

/-- A segment that may open a connection. -/
def OpensConn (p : List UInt8) : Prop := (packetFlags p).syn = true ∧ (packetFlags p).ack = false

instance (p : List UInt8) : Decidable (OpensConn p) := inferInstanceAs (Decidable (_ ∧ _))

/-- What a node answers, or sends on a connection. -/
def OwnPacket (p : List UInt8) : Prop :=
  p.getD 8 0 = 64 ∧ (p.getD 9 0 = ipProtoIcmp ∧ p.getD 20 0 ≠ icmpEchoRequestType ∨
    p.getD 9 0 = ipProtoTcp ∧ ¬ OpensConn p)

/-- **A tariff is fair** if a frame pays for all that its handling sends and queues, and for
being handled. -/
structure Tariff.Fair {A : Type} [AddCommMonoid A] [PartialOrder A] (t : Tariff A) : Prop where
  /-- The source and the checksum are not counted. -/
  route : ∀ p q, SameRoute p q → t.packet p = t.packet q
  answer : t.answer + t.tick ≤ t.ask
  reply : t.tick ≤ t.answer
  handled : ∀ p, t.tick ≤ t.packet p
  passed : ∀ p q, HopCounted p q → t.packet q + t.ask + t.tick ≤ t.packet p
  datagram : ∀ p, p.getD 9 0 = ipProtoUdp → t.queued p + t.tick ≤ t.packet p
  echo : ∀ p, p.getD 9 0 = ipProtoIcmp → p.getD 20 0 = icmpEchoRequestType →
    t.own + t.tick ≤ t.packet p
  opens : ∀ p, p.getD 9 0 = ipProtoTcp → OpensConn p → t.conn + t.own + t.tick ≤ t.packet p
  closes : t.own ≤ t.conn
  own : ∀ p, OwnPacket p → t.packet p + t.ask ≤ t.own

section Elementary

variable {A : Type} [AddCommMonoid A] [PartialOrder A] [IsOrderedAddMonoid A] {t : Tariff A}
  {w w' : World}

/-- A run that changes no table costs the frames it puts on the links. -/
theorem books_of_quiet {es : List Event} (harp : w'.arpTable = w.arpTable)
    (hudp : w'.udpSock = w.udpSock) (htcp : w'.tcpSock = w.tcpSock)
    (htrace : w'.trace = w.trace ++ es) :
    Books t.stock (t.frames (es.filterMap Event.sentFrame)) 0 w w' := by
  refine .of_place .link (fun place hplace => ?_) ?_
  · cases place with
    | link => exact absurd rfl hplace
    | arp n => exact le_of_eq (by simp only [Tariff.stock, harp])
    | udp k => exact le_of_eq (by simp only [Tariff.stock, hudp])
    | tcp k => exact le_of_eq (by simp only [Tariff.stock, htcp])
  · rw [Tariff.stock, Tariff.stock, htrace, List.filterMap_append, Tariff.frames_append, add_zero]

theorem Puts.books {fs : List (IntfId × List UInt8)} (h : Puts fs w w') :
    Books t.stock (t.frames fs) 0 w w' := by
  obtain ⟨es, hes, -⟩ := h.emits.trace
  have hfs := h.sent
  rw [sentFrames, newEvents_append hes] at hfs
  exact hfs ▸ books_of_quiet h.emits.arpTable h.emits.udpSock h.emits.tcpSock hes

/-- A run that only allocates, logs and writes connections costs nothing. -/
theorem books_zero {es : List Event} (harp : w'.arpTable = w.arpTable)
    (hudp : w'.udpSock = w.udpSock) (htcp : w'.tcpSock = w.tcpSock)
    (htrace : w'.trace = w.trace ++ es) (hes : es.filterMap Event.sentFrame = []) :
    Books t.stock 0 0 w w' := by
  have h := books_of_quiet (t := t) harp hudp htcp htrace
  rwa [hes, Tariff.frames_nil] at h

/-- Two things happen, one after the other. -/
theorem books_then {w'' : World} {a b : A} (h : Books t.stock a 0 w w') (h' : Books t.stock b 0 w' w'') :
    Books t.stock (a + b) 0 w w'' := by
  have hboth := h.trans h'
  rwa [add_zero] at hboth

/-- Something that costs nothing happens first. -/
theorem books_after {w'' : World} {a b : A} (h : Books t.stock 0 0 w w')
    (h' : Books t.stock a b w' w'') : Books t.stock a b w w'' := by
  have hboth := h.trans h'
  rwa [zero_add, zero_add] at hboth

/-- Something that costs nothing happens afterwards. -/
theorem books_before {w'' : World} {a b : A} (h : Books t.stock a b w w')
    (h' : Books t.stock 0 0 w' w'') : Books t.stock a b w w'' := by
  have hboth := h.trans h'
  rwa [add_zero, add_zero] at hboth

theorem books_freed (skb : SkBuff) : Books t.stock 0 0 w (w.freed skb) :=
  books_zero rfl rfl rfl rfl rfl

theorem freeSkbIf_books {c : Bool} {skb : SkBuff} {u : Unit} (h : freeSkbIf c skb w = .ok u w') :
    Books t.stock 0 0 w w' := by
  obtain rfl := freeSkbIf_trace h
  refine books_zero rfl rfl rfl rfl ?_
  cases c <;> rfl

theorem allocId_books {id : Nat} (h : allocId w = .ok id w') : Books t.stock 0 0 w w' := by
  obtain ⟨-, rfl⟩ := allocId_ok.mp h
  exact books_zero rfl rfl rfl (List.append_nil _).symm rfl

theorem followIpHdr_books {skb : SkBuff} {p : Nat} (h : followIpHdr skb w = .ok p w') :
    Books t.stock 0 0 w w' := by
  obtain ⟨-, rfl⟩ := followIpHdr_ok.mp h
  exact books_zero rfl rfl rfl rfl rfl

theorem setTcpConn_books {c : ConnId} {conn : TcpConnectionSock} {u : Unit}
    (h : setTcpConn c conn w = .ok u w') : Books t.stock 0 0 w w' := by
  obtain rfl := setTcpConn_ok.mp h
  exact books_zero rfl rfl rfl (List.append_nil _).symm rfl

/-- The connections of one socket change. -/
theorem setTcpSock_books {k : SockId} {sock sock' : TcpSock} {a b : A} {u : Unit}
    (hk : w.tcpSock k = some sock)
    (hle : sock'.conns.length • t.conn + b ≤ sock.conns.length • t.conn + a)
    (h : setTcpSock k sock' w = .ok u w') : Books t.stock a b w w' := by
  obtain rfl := setTcpSock_ok.mp h
  refine .of_place (.tcp k) (fun place hplace => ?_) ?_
  · cases place with
    | tcp j =>
        have hj : j ≠ k := fun heq => hplace (congrArg Place.tcp heq)
        refine le_of_eq ?_
        simp only [Tariff.stock, Function.update_of_ne hj]
    | _ => exact le_rfl
  · simp only [Tariff.stock, Function.update_self, hk, Option.elim_some]
    exact hle

end Elementary

/-! ### The link -/

section Link

variable {w w' : World} {i : IntfId}

theorem sysSendCall_puts {frame : List UInt8} {n : Int} (h : sysSendCall i frame w = .ok n w') :
    Puts [] w w' ∨ 0 ≤ n ∧ Puts [(i, frame)] w w' := by
  have hemits := (sysSendCall_emits (P := fun _ => True) trivial).ok h
  rw [sysSendCall_run] at h
  cases h
  by_cases hsent : 0 ≤ w.sysSend w.numSends
  · have htrace : (w.sysSent i frame).trace = w.trace ++ [.sent i frame] := by
      rw [World.sysSent, if_pos hsent]
    exact Or.inr ⟨hsent, .of_trace hemits htrace⟩
  · have htrace : (w.sysSent i frame).trace = w.trace ++ [] := by
      rw [World.sysSent, if_neg hsent]
    exact Or.inl (.of_trace hemits htrace)

theorem getNbrIf_reads (i : IntfId) : Keeps Eq (getNbrIf i) := by
  refine bind_reads (derefIntf_reads i) fun intf => ?_
  cases intf.link with
  | none => exact pure_reads _
  | some l =>
      refine bind_reads get_reads fun w => ?_
      cases w.link l with
      | none => exact throw_reads _
      | some link => exact pure_reads _

/-- A backend puts its frame on the link once, or not at all. -/
theorem sendBytesOut_puts {frame : List UInt8} {n : Int} (h : sendBytesOut frame i w = .ok n w') :
    Puts [] w w' ∨ 0 ≤ n ∧ Puts [(i, frame)] w w' := by
  obtain ⟨intf, -, hsend⟩ := bind_ok_of_eq (derefIntf_reads i) h
  cases hcomm : intf.comm.commType with
  | none =>
      rw [hcomm] at hsend
      cases hsend
  | tuntap =>
      rw [hcomm] at hsend
      exact sysSendCall_puts hsend
  | udp =>
      rw [hcomm] at hsend
      obtain ⟨intf', -, hsend⟩ := bind_ok_of_eq (derefIntf_reads i) hsend
      obtain ⟨nbr, -, hsend⟩ := bind_ok_of_eq (getNbrIf_reads i) hsend
      cases nbr with
      | none =>
          cases hsend
          exact Or.inl (.refl w)
      | some j =>
          obtain ⟨nbr, -, hsend⟩ := bind_ok_of_eq (derefIntf_reads j) hsend
          split at hsend
          · cases hsend
            exact Or.inl (.refl w)
          · obtain ⟨nsent, w1, h1, hdone⟩ := bind_ok_iff.mp hsend
            cases hdone
            refine (sysSendCall_puts h1).imp_right fun hput => ⟨?_, hput.2⟩
            rw [if_neg (not_lt.mpr hput.1)]
            exact Int.one_nonneg

theorem sendPktOut_puts {skb : SkBuff} {r : Bool} (h : sendPktOut i skb w = .ok r w') :
    Puts [] w w' ∨ r = true ∧ Puts [(i, skb.bytes)] w w' := by
  obtain ⟨n, w1, h1, hfree⟩ := bind_ok_iff.mp h
  split at hfree
  · obtain ⟨_, w2, h2, hdone⟩ := bind_ok_iff.mp hfree
    cases hdone
    obtain rfl := freeSkb_ok.mp h2
    rcases sendBytesOut_puts h1 with hput | ⟨-, hput⟩
    · exact Or.inl (hput.trans (.freed w1 skb))
    · exact Or.inr ⟨rfl, hput.trans (.freed w1 skb)⟩
  · rename_i hneg
    cases hfree
    exact Or.inl ((sendBytesOut_puts h1).resolve_right fun hput => hneg hput.1)

/-- **`ethernet_output` puts the frame of its packet on the link once, or not at all.** -/
theorem ethernetOutput_once {mac : MacAddr} {proto : UInt16} {skb : SkBuff} {r : Bool}
    (h : ethernetOutput i mac proto skb w = .ok r w') :
    Puts [] w w' ∨ r = true ∧ ∃ src, Puts [(i, ethFrame mac src proto skb)] w w' := by
  obtain ⟨_, w1, h1, hrest⟩ := bind_ok_iff.mp h
  obtain rfl := log_ok.mp h1
  obtain ⟨s, hpush, hrest⟩ := bind_ok_of_eq (skbPush_reads _ _) hrest
  obtain ⟨hroom, rfl, -⟩ := skbPush_ok.mp hpush
  obtain ⟨intf, -, hrest⟩ := bind_ok_of_eq (derefIntf_reads i) hrest
  have hlog : Puts [] w (w.framing i mac proto skb) := .logged w 0 [.ethOutput i mac proto skb]
  have hsend : ∀ s : SkBuff, s.bytes = ethFrame mac intf.macAddr proto skb →
      sendPktOut i s (w.framing i mac proto skb) = .ok r w' →
      Puts [] w w' ∨ r = true ∧ ∃ src, Puts [(i, ethFrame mac src proto skb)] w w' := by
    intro s hbytes hs
    rcases sendPktOut_puts hs with hput | ⟨hr, hput⟩
    · exact Or.inl (hlog.trans hput)
    · rw [hbytes] at hput
      exact Or.inr ⟨hr, intf.macAddr, hlog.trans hput⟩
  dsimp only at hrest
  split at hrest
  · rename_i hshort
    obtain ⟨s, hput, hs⟩ := bind_ok_of_eq (skbPut_reads _ _) hrest
    obtain ⟨-, rfl, -⟩ := skbPut_ok.mp hput
    refine hsend _ ?_ hs
    have hmax : skb.len + ethHdrSize + (60 - (skb.len + ethHdrSize)) = 14 + max skb.len 46 := by
      simp only [SkBuff.store16, SkBuff.copyIn, ethHdrSize] at hshort ⊢
      omega
    rw [ethFrame, ← read_framed hroom, ← hmax]
    rfl
  · rename_i hshort
    refine hsend _ ?_ hrest
    have hmax : skb.len + ethHdrSize = 14 + max skb.len 46 := by
      simp only [SkBuff.store16, SkBuff.copyIn, ethHdrSize] at hshort ⊢
      omega
    rw [ethFrame, ← read_framed hroom, ← hmax]
    rfl

end Link

/-! ### The output path -/

section Frames

variable {A : Type} (t : Tariff A) (dst src : MacAddr)

/-- The frame of a packet is worth the packet. -/
theorem frame_ip (s : SkBuff) : t.frame (ethFrame dst src ethProtoIp s) = t.packet s.onWire := by
  have htype := type_received 0 0 dst src ethProtoIp s
  unfold Tariff.frame
  dsimp only
  rw [if_pos, onWire_received]
  rw [show (recvBuffer 0 0 (ethFrame dst src ethProtoIp s)).data = recvReservedHeadRoom from rfl, htype]
  decide

/-- The frame of an ARP message is worth what its kind is. -/
theorem frame_arp (hdr : ArpHdr) (id : SkbId) :
    t.frame (ethFrame dst src ethProtoArp (hdr.packet id))
      = if (UInt16.ofNat (htons hdr.opcode)).toNat = htons arpOpReply then t.answer else t.ask := by
  have htype := type_received 0 0 dst src ethProtoArp (hdr.packet id)
  have hat := hdr.at_received 0 id 0 dst src ethProtoArp
  unfold Tariff.frame
  dsimp only
  rw [show (recvBuffer 0 0 (ethFrame dst src ethProtoArp (hdr.packet id))).data
    = recvReservedHeadRoom from rfl, htype, if_neg (by decide)]
  refine if_congr ?_ rfl rfl
  rw [SkBuff.IsArpReply, hat.opcode]
  constructor
  · rintro ⟨-, -, hreply⟩
    exact hreply
  · exact fun hreply => ⟨by decide, hat.len, hreply⟩

end Frames

section Output

variable {A : Type} [AddCommMonoid A] [PartialOrder A] [IsOrderedCancelAddMonoid A] {t : Tariff A}
  {w w' : World} {i : IntfId} {skb : SkBuff} {r : Bool}

theorem allocated_books (w : World) : Books t.stock 0 0 w w.allocated :=
  books_zero rfl rfl rfl rfl rfl

/-- The queue of one next hop changes. -/
theorem books_modifyArp {n : NodeId} {ip : UInt32} {f : ArpEntry → ArpEntry} {entry : ArpEntry}
    {a b : A} (hlook : arpTableLookup (w.arpTable n) ip = some entry)
    (h : t.packets (f entry).pendingPkts + b ≤ t.packets entry.pendingPkts + a) :
    Books t.stock a b w (w.modifyArp n ip f) := by
  refine .of_place (.arp n) (fun place hplace => ?_) ?_
  · cases place with
    | arp m =>
        have hm : m ≠ n := fun heq => hplace (congrArg Place.arp heq)
        refine le_of_eq ?_
        simp only [Tariff.stock, World.modifyArp, Function.update_of_ne hm]
    | _ => exact le_rfl
  · have hsum := List.sum_map_modifyFirst (g := fun e : ArpEntry => t.packets e.pendingPkts)
      (f := f) hlook
    have htable : (w.modifyArp n ip f).arpTable n = arpTableModify (w.arpTable n) ip f :=
      Function.update_self ..
    simp only [Tariff.stock, htable, arpTableModify]
    refine le_of_add_le_add_right (a := t.packets entry.pendingPkts) ?_
    rw [add_right_comm, hsum, add_assoc, add_right_comm _ a, add_assoc _ _ a]
    exact add_le_add_right h _

/-- A packet that waits is worth what it was. -/
theorem parked_books (n : NodeId) (ip : UInt32) (i : IntfId) (skb : SkBuff) (w : World) :
    Books t.stock (t.packet skb.onWire) 0 w (w.parked n ip i skb) := by
  cases hlook : arpTableLookup (w.arpTable n) ip with
  | some entry =>
      have hlog : Books t.stock 0 0 w { w with trace := w.trace ++ [.parked n ip skb] } :=
        books_zero rfl rfl rfl rfl rfl
      have hpark : w.parked n ip i skb = World.modifyArp
          { w with trace := w.trace ++ [.parked n ip skb] } n ip
          fun entry => { entry with pendingPkts := skb :: entry.pendingPkts } := by
        rw [World.parked, parkPacket, hlook]
        rfl
      rw [hpark]
      refine books_after hlog (books_modifyArp hlook ?_)
      rw [Tariff.packets_cons, add_zero, add_comm]
  | none =>
      refine .of_place (.arp n) (fun place hplace => ?_) ?_
      · cases place with
        | link =>
            refine le_of_eq ?_
            simp only [Tariff.stock, World.parked, List.filterMap_append]
            exact congrArg t.frames (List.append_nil _)
        | arp m =>
            have hm : m ≠ n := fun heq => hplace (congrArg Place.arp heq)
            refine le_of_eq ?_
            simp only [Tariff.stock, World.parked, Function.update_of_ne hm]
        | _ => exact le_rfl
      · have htable : (w.parked n ip i skb).arpTable n
            = { initArpEntry ip i with pendingPkts := [skb] } :: w.arpTable n := by
          rw [World.parked, parkPacket, hlook]
          exact Function.update_self ..
        simp only [Tariff.stock, htable, List.map_cons, List.sum_cons, Tariff.packets_cons,
          Tariff.packets_nil, add_zero]
        exact le_of_eq (add_comm _ _)

variable [CanonicallyOrderedAdd A]

/-- What is put on the link once costs that much at most. -/
theorem ethernetOutput_books {mac : MacAddr} {proto : UInt16} {a : A}
    (ha : ∀ src, t.frame (ethFrame mac src proto skb) = a)
    (h : ethernetOutput i mac proto skb w = .ok r w') :
    Books t.stock (if r then a else 0) 0 w w' := by
  rcases ethernetOutput_once h with hput | ⟨rfl, src, hput⟩
  · exact hput.books.mono zero_le le_rfl
  · have hbooks : Books t.stock _ 0 w w' := hput.books
    rwa [Tariff.frames_singleton, ha] at hbooks

theorem sendArpBroadcastRequest_books {ip : UInt32} {u : Unit}
    (h : sendArpBroadcastRequest i ip w = .ok u w') : Books t.stock t.ask 0 w w' := by
  unfold sendArpBroadcastRequest at h
  rw [run_bind_ok allocArpSkb_run] at h
  obtain ⟨intf, -, hsend⟩ := bind_ok_of_eq (derefIntf_reads i) h
  obtain ⟨ok, w1, h1, hfree⟩ := bind_ok_iff.mp hsend
  have hrequest : (UInt16.ofNat (htons arpOpRequest)).toNat ≠ htons arpOpReply := by decide
  have hout := ethernetOutput_books (fun src =>
    (frame_arp t MacAddr.broadcast src (intf.arpRequest ip) w.nextId).trans (if_neg hrequest)) h1
  refine books_after (allocated_books w) (books_before (hout.mono ?_ le_rfl) (freeSkbIf_books hfree))
  cases ok
  · exact zero_le
  · exact le_rfl

theorem sendArpReplyMsg_books {req : SkBuff} {shdr : Nat} {u : Unit}
    (h : sendArpReplyMsg i req shdr w = .ok u w') : Books t.stock t.answer 0 w w' := by
  unfold sendArpReplyMsg at h
  rw [run_bind_ok allocArpSkb_run] at h
  obtain ⟨intf, -, hsend⟩ := bind_ok_of_eq (derefIntf_reads i) h
  obtain ⟨hw, -, hsend⟩ := bind_ok_of_eq (readMac_reads _ _) hsend
  obtain ⟨ip, -, hsend⟩ := bind_ok_of_eq (readU32_reads _ _) hsend
  obtain ⟨ok, w1, h1, hdone⟩ := bind_ok_iff.mp hsend
  cases hdone
  have hreply : (UInt16.ofNat (htons arpOpReply)).toNat = htons arpOpReply := by decide
  have hout := ethernetOutput_books (fun src =>
    (frame_arp t hw src (intf.arpReply hw ip) w.nextId).trans (if_pos hreply)) h1
  refine books_after (allocated_books w) (hout.mono ?_ le_rfl)
  cases ok
  · exact zero_le
  · exact le_rfl

/-- **The end of `ip_postroute`**: the packet waits and its next hop is asked for, or it is put
on the link. -/
theorem ipNeighbourOutput_books {n : NodeId} {ip : UInt32}
    (h : ipNeighbourOutput n i ip skb w = .ok r w') :
    Books t.stock (if r then t.packet skb.onWire + t.ask else 0) 0 w w' := by
  by_cases hwait : Unresolved (w.arpTable n) ip
  · rw [ipNeighbourOutput_unresolved hwait] at h
    obtain ⟨_, w1, h1, hdone⟩ := bind_ok_iff.mp h
    cases hdone
    exact books_then (parked_books n ip i skb w) (sendArpBroadcastRequest_books h1)
  · unfold Unresolved at hwait
    push Not at hwait
    obtain ⟨entry, hlook, hres⟩ := hwait
    rw [ipNeighbourOutput_resolved hlook (Bool.not_eq_false _ ▸ hres)] at h
    refine (ethernetOutput_books (fun src => frame_ip t entry.mac src skb) h).mono ?_ le_rfl
    cases r
    · exact le_rfl
    · exact le_self_add

end Output

/-! ### Packets the node sends -/

section Headers

variable (skb : SkBuff) (i : IntfId) (src ip : UInt32) (proto : UInt8)

/-- A router writes the source and the checksum. -/
theorem sameRoute_routed : SameRoute (skb.routed i src).onWire skb.onWire := by
  refine ⟨by rw [SkBuff.onWire, SkBuff.onWire, Memory.length_read, Memory.length_read, routed_len],
    fun k hk => ?_⟩
  by_cases hlt : k < min (max skb.len 46) maxPacket
  · rw [SkBuff.onWire, SkBuff.onWire, routed_len, Memory.getD_read _ hlt, Memory.getD_read _ hlt,
      routed_data, routed_mem_outside skb i src (by omega)]
  · rw [List.getD_eq_default _ _ (by rw [SkBuff.onWire, Memory.length_read, routed_len]; omega),
      List.getD_eq_default _ _ (by rw [SkBuff.onWire, Memory.length_read]; omega)]

/-- `ip_forward` counts a hop. -/
theorem hopCounted_forwarded (httl : 1 < (skb.mem (skb.data + 8)).toNat) :
    HopCounted skb.onWire skb.forwarded.onWire := by
  have hmem : ∀ k, k ≠ 8 → skb.forwarded.mem (skb.data + k) = skb.mem (skb.data + k) :=
    fun k hk => Memory.store8_outside _ _ (by omega)
  refine ⟨by rw [SkBuff.onWire, SkBuff.onWire, Memory.length_read, Memory.length_read]; rfl,
    fun k hk => ?_, ?_, ?_⟩
  · by_cases hlt : k < min (max skb.len 46) maxPacket
    · rw [SkBuff.onWire, SkBuff.onWire, Memory.getD_read _ hlt]
      exact (hmem k (by omega)).symm.trans (Memory.getD_read skb.forwarded.mem hlt 0).symm
    · have hle : ∀ s : SkBuff, s.len = skb.len → s.onWire.getD k 0 = 0 := fun s hs =>
        List.getD_eq_default _ _ (by rw [SkBuff.onWire, Memory.length_read, hs]; omega)
      rw [hle skb rfl, hle skb.forwarded rfl]
  · rwa [getD_onWire _ (by omega)]
  · rw [getD_onWire _ (by omega), getD_onWire _ (by omega)]
    exact Memory.store8_self _ _ _

variable {skb}

/-- `ip_output` starts a packet with 64 hops, and leaves what is behind the header. -/
theorem ttl_onWire : (skb.withIpHdr ip proto).onWire.getD 8 0 = 64 := by
  rw [getD_onWire _ (by omega), withIpHdr_data, withIpHdr_mem, ipHdrSize,
    Memory.store16_outside _ _ (by omega), Memory.store8_outside _ _ (by omega),
    Memory.store32_outside _ _ (by omega), Memory.store8_self]

theorem body_withIpHdr (h : ipHdrSize ≤ skb.data) {k : Nat} (hk : k < 26) :
    (skb.withIpHdr ip proto).onWire.getD (20 + k) 0 = skb.mem (skb.data + k) := by
  rw [getD_onWire _ (by omega), withIpHdr_mem_behind h (by rw [withIpHdr_data, ipHdrSize]; omega),
    withIpHdr_data, ipHdrSize]
  rw [ipHdrSize] at h
  exact congrArg skb.mem (by omega)

end Headers

/-- What `icmp_out` sends besides echo requests is the node's own packet. -/
theorem ownPacket_icmp (id : SkbId) (ip : UInt32) {type : UInt8} (code : UInt8)
    (payload : List UInt8) (htype : type ≠ icmpEchoRequestType) :
    OwnPacket ((icmpMessage id type code payload).withIpHdr ip ipProtoIcmp).onWire := by
  have hdata : ipHdrSize ≤ (icmpMessage id type code payload).data := by
    rw [icmpMessage_data]
    decide
  refine ⟨ttl_onWire ip _, Or.inl ⟨(getD_proto _).trans (proto_withIpHdr ..), ?_⟩⟩
  rw [body_withIpHdr ip _ hdata (k := 0) (by omega)]
  exact fun h => htype ((icmpType_icmpMessage id type code payload).symm.trans h)

theorem tcpFlags_tcpSegment (id : SkbId) (parent : TcpSock) (conn : TcpConnectionSock)
    (buff : List UInt8) (flags : TcpFlags) :
    (tcpSegment id parent conn buff flags).tcpFlags = flags := by
  have hfill : (fillTcpHdr (tcpHdrSkb id parent conn buff.length) buffHeadroom conn flags).mem 73
      = flags.val := by
    simp only [fillTcpHdr, SkBuff.store8, SkBuff.store16, SkBuff.store32, buffHeadroom]
    rw [Memory.store8_outside _ _ (by omega), Memory.store16_outside _ _ (by omega),
      Memory.store8_self]
  have hmem := tcpSegment_mem id parent conn buff flags (q := 73) (by omega)
  rw [Memory.write_outside _ _ (by omega), hfill] at hmem
  exact congrArg TcpFlags.mk hmem

/-- What `tcp_out` sends is the node's own packet. -/
theorem ownPacket_tcp (id : SkbId) (ip : UInt32) (parent : TcpSock) (conn : TcpConnectionSock)
    (buff : List UInt8) {flags : TcpFlags} (hflags : flags.ack = true) :
    OwnPacket ((tcpSegment id parent conn buff flags).withIpHdr ip ipProtoTcp).onWire := by
  have hdata : ipHdrSize ≤ (tcpSegment id parent conn buff flags).data := by
    rw [tcpSegment_data]
    decide
  refine ⟨ttl_onWire ip _, Or.inr ⟨(getD_proto _).trans (proto_withIpHdr ..), ?_⟩⟩
  have hval : packetFlags ((tcpSegment id parent conn buff flags).withIpHdr ip ipProtoTcp).onWire
      = flags := by
    rw [packetFlags, body_withIpHdr ip _ hdata (k := 13) (by omega)]
    exact tcpFlags_tcpSegment id parent conn buff flags
  rw [OpensConn, hval, hflags]
  rintro ⟨-, h⟩
  cases h

section Senders

variable {A : Type} [AddCommMonoid A] [PartialOrder A] [IsOrderedCancelAddMonoid A] {t : Tariff A}
  {w w' : World} {skb : SkBuff} {r : Bool}

theorem books_queued {k : SockId} {sock : UdpSock} (hk : w.udpSock k = some sock) :
    Books t.stock (t.queued ({ skb with udpHdr := some skb.data }.pulled udpHdrSize).rewound.onWire) 0
      w (w.queued k sock skb) := by
  refine .of_place (.udp k) (fun place hplace => ?_) ?_
  · cases place with
    | udp j =>
        have hj : j ≠ k := fun heq => hplace (congrArg Place.udp heq)
        refine le_of_eq ?_
        simp only [Tariff.stock, World.queued, Function.update_of_ne hj]
    | _ => exact le_rfl
  · simp only [Tariff.stock, World.queued, Function.update_self, hk, Option.elim_some, List.map_cons,
      List.sum_cons, add_zero]
    exact le_of_eq (add_comm _ _)

/-- A buffer `udp_input` queues is worth what the packet it came in was. -/
theorem onWire_rewound (hfits : skb.data + skb.len = skb.tail) {s : SkBuff}
    (hs : s = { (skb.pulled ipHdrSize) with
      udpHdr := some (skb.pulled ipHdrSize).data }.pulled udpHdrSize) :
    s.rewound.onWire = skb.onWire := by
  subst hs
  have hdata : skb.data + ipHdrSize - ipHdrSize = skb.data := Nat.add_sub_cancel ..
  have hlen : skb.tail - (skb.data + ipHdrSize - ipHdrSize) = skb.len := by
    rw [hdata]
    omega
  refine onWire_congr ?_ fun k _ => ?_
  · exact congrArg (fun n => min (max n 46) maxPacket) hlen
  · exact congrArg (fun p => skb.mem (p + k)) hdata

/-- **`udp_input` queues a datagram for what its packet was worth.** -/
theorem udpInput_books (hfits : skb.data + skb.len = skb.tail)
    (h : UdpInput w (skb.pulled ipHdrSize) r w') :
    Books t.stock (if r then t.queued skb.onWire else 0) 0 w w' := by
  cases h with
  | refused _ _ => exact .refl t.stock w
  | queued _ _ hk =>
      have hbooks : Books t.stock (t.queued (({ skb.pulled ipHdrSize with
          udpHdr := some (skb.pulled ipHdrSize).data }.pulled udpHdrSize).rewound.onWire)) 0 w _ :=
        books_queued hk
      rwa [onWire_rewound hfits rfl] at hbooks

variable [CanonicallyOrderedAdd A]

/-- A packet for the node itself costs what its local delivery does. -/
theorem ipPostroute_books (ht : t.Fair) {ipInput : SkBuff → M Bool} {n : NodeId}
    (hin : ∀ i src, isIpLocal w n skb.dstIp = true → ipInput (skb.routed i src) w = .ok r w' →
      Books t.stock (if r then t.packet skb.onWire + t.ask else 0) 0 w w')
    (hrun : ipPostroute ipInput n skb w = .ok r w') :
    Books t.stock (if r then t.packet skb.onWire + t.ask else 0) 0 w w' := by
  cases ipPostroute_ok hrun with
  | unrouted _ => exact .refl t.stock w
  | otherIntf _ _ => exact .refl t.stock w
  | looped _ _ _ hlocal hloop => exact hin _ _ hlocal hloop
  | @sent rt out _ _ _ _ _ _ hsend =>
      rw [← ht.route _ _ (sameRoute_routed skb rt.intf out.ipAddr)]
      exact ipNeighbourOutput_books hsend

/-- **Local delivery of a packet the node sent itself.** -/
theorem ipInput_looped_books (ht : t.Fair) {depth : Nat} (hhdr : skb.ipHdr = none)
    (hfits : skb.data + skb.len = skb.tail) (hrun : ipInputDepth depth skb w = .ok r w') :
    Books t.stock (if r then t.packet skb.onWire else 0) 0 w w' := by
  have hloops : Books t.stock 0 0 w (w.loops skb) := books_zero rfl rfl rfl rfl rfl
  cases ipInput_looped_ok hhdr hrun with
  | unknown _ _ => exact .refl t.stock w
  | tcp _ => exact hloops
  | short _ _ => exact hloops
  | freed _ _ => exact (books_after hloops (books_freed _)).mono zero_le le_rfl
  | udp hproto hudp =>
      refine books_after hloops ((udpInput_books hfits hudp).mono ?_ le_rfl)
      cases r
      · exact le_rfl
      · exact le_self_add.trans (ht.datagram skb.onWire ((getD_proto skb).trans hproto))

/-- **`ip_output`** costs the packet and the request for its next hop, and nothing if it fails. -/
theorem ipOutput_books (ht : t.Fair) (hskb : Packed skb) {depth : Nat} {n : NodeId} {ip : UInt32}
    {proto : UInt8} (hrun : ipOutput (ipInputDepth depth) n ip proto skb w = .ok r w') :
    Books t.stock (if r then t.packet (skb.withIpHdr ip proto).onWire + t.ask else 0) 0 w w' := by
  obtain ⟨_, w1, h1, hrest⟩ := bind_ok_iff.mp hrun
  obtain rfl := log_ok.mp h1
  obtain ⟨s, hpush, hpost⟩ := bind_ok_of_eq (skbPush_reads _ _) hrest
  obtain ⟨-, rfl, -⟩ := skbPush_ok.mp hpush
  have hlog : Books t.stock 0 0 w (w.output n ip proto skb) := books_zero rfl rfl rfl rfl rfl
  have hfits := (hskb.tidy_withIpHdr ip proto).len
  refine books_after hlog (ipPostroute_books ht (fun i src _ hin => ?_) hpost)
  have hnull : ((skb.withIpHdr ip proto).routed i src).ipHdr = none := hskb.ipHdr
  have hloop := ipInput_looped_books ht hnull hfits hin
  rw [ht.route _ _ (sameRoute_routed _ i src)] at hloop
  refine hloop.mono ?_ le_rfl
  cases r
  · exact le_rfl
  · exact le_self_add

theorem icmpOut_books (ht : t.Fair) {depth : Nat} {n : NodeId} {ip : UInt32} {type code : UInt8}
    {payload : List UInt8} (hrun : icmpOut (ipInputDepth depth) n ip type code payload w = .ok r w') :
    Books t.stock (t.packet ((icmpMessage 0 type code payload).withIpHdr ip ipProtoIcmp).onWire + t.ask)
      0 w w' := by
  rw [icmpOut_run] at hrun
  obtain ⟨sent, w1, h1, hrest⟩ := bind_ok_iff.mp hrun
  have hout := ipOutput_books ht (packed_icmpMessage w.nextId type code payload) h1
  refine books_after (allocated_books w) (books_before (hout.mono ?_ le_rfl) ?_)
  · cases sent
    · exact zero_le
    · exact le_rfl
  · split at hrest
    · cases hrest
      exact .refl t.stock w'
    · obtain ⟨_, w2, h2, hdone⟩ := bind_ok_iff.mp hrest
      cases hdone
      obtain rfl := freeSkb_ok.mp h2
      exact books_freed _

theorem udpOut_books (ht : t.Fair) {depth : Nat} {sock : UdpSock} {buff : List UInt8} {ip : UInt32}
    {port : UInt16} (hrun : udpOut (ipInputDepth depth) sock buff ip port w = .ok r w') :
    Books t.stock (if r then
        t.packet ((udpDatagram 0 sock buff port).withIpHdr ip ipProtoUdp).onWire + t.ask else 0)
      0 w w' := by
  rw [udpOut_run] at hrun
  obtain ⟨intf, -, hout⟩ := bind_ok_of_eq (derefIntfPtr_reads _) hrun
  exact books_after (allocated_books w)
    (ipOutput_books ht (packed_udpDatagram w.nextId sock buff port) hout)

/-- **`tcp_out`** costs what a packet of the node's own does. -/
theorem tcpOut_books (ht : t.Fair) {depth : Nat} {c : ConnId} {buff : List UInt8} {flags : TcpFlags}
    (hflags : flags.ack = true) (hrun : tcpOut (ipInputDepth depth) c buff flags w = .ok r w') :
    Books t.stock t.own 0 w w' := by
  cases hconn : w.tcpConn c with
  | none =>
      obtain ⟨conn, h1, -⟩ := bind_ok_of_eq (derefTcpConn_reads c) hrun
      rw [derefTcpConn_ok, hconn] at h1
      cases h1.1
  | some conn =>
      obtain ⟨parent, hparent⟩ := tcpOut_parent hconn hrun
      rw [tcpOut_run hconn hparent] at hrun
      split at hrun
      · cases hrun
        exact (allocated_books w).mono zero_le le_rfl
      · obtain ⟨intf, -, hout⟩ := bind_ok_of_eq (derefIntfPtr_reads _) hrun
        have hseg : Books t.stock 0 0 w (w.segmented c conn buff.length flags) :=
          books_zero rfl rfl rfl rfl rfl
        refine books_after hseg ((ipOutput_books ht (packed_tcpSegment ..) hout).mono ?_ le_rfl)
        cases r
        · exact zero_le
        · exact ht.own _ (ownPacket_tcp _ _ parent conn buff hflags)

end Senders

/-! ### Packets and frames received -/

section Receivers

variable {A : Type} [AddCommMonoid A] [PartialOrder A] [IsOrderedCancelAddMonoid A] {t : Tariff A}
  {w w' : World} {skb : SkBuff} {r : Bool}

/-- What was received pays for what became of it, and for being handled. -/
theorem books_paid {a p : A} (h : Books t.stock a 0 w w') (hp : a + t.tick ≤ p) :
    Books t.stock p t.tick w w' :=
  (h.charge t.tick).mono hp (le_of_eq (zero_add _).symm)

theorem handleSynSent_books {c : ConnId} (hrun : handleSynSent c skb w = .ok r w') :
    Books t.stock 0 0 w w' := by
  obtain ⟨flags, -, hrun⟩ := bind_ok_of_eq (readTcpFlags_reads _ _) hrun
  split at hrun
  · obtain ⟨seq, -, hrun⟩ := bind_ok_of_eq (readTcpSeq_reads _ _) hrun
    obtain ⟨conn, -, hrun⟩ := bind_ok_of_eq (derefTcpConn_reads c) hrun
    split at hrun
    · obtain ⟨_, w1, h1, hdone⟩ := bind_ok_iff.mp hrun
      cases hdone
      exact setTcpConn_books h1
    · cases hrun
      exact .refl t.stock w
  · cases hrun
    exact .refl t.stock w

variable [CanonicallyOrderedAdd A] {depth : Nat}

/-- **An echo request pays for its answer.** -/
theorem icmpInput_books (ht : t.Fair) (hproto : skb.ipPacket.proto = ipProtoIcmp)
    (hrun : icmpInput (ipInputDepth depth) skb.segment w = .ok r w') :
    Books t.stock (t.packet skb.ipPacket.onWire) t.tick w w' := by
  have hnothing : 0 + t.tick ≤ t.packet skb.ipPacket.onWire :=
    (zero_add t.tick).symm ▸ ht.handled _
  unfold icmpInput at hrun
  split at hrun
  · cases hrun
    exact books_paid (.refl t.stock w) hnothing
  obtain ⟨type, htype, hrun⟩ := bind_ok_of_eq (readU8_reads _ _) hrun
  obtain ⟨-, rfl, -⟩ := readU8_ok.mp htype
  obtain ⟨code, -, hrun⟩ := bind_ok_of_eq (readU8_reads _ _) hrun
  split at hrun
  · rename_i hreq
    obtain ⟨intf, -, hrun⟩ := bind_ok_of_eq (derefIntfPtr_reads _) hrun
    obtain ⟨iph, w1, h1, hrun⟩ := bind_ok_iff.mp hrun
    obtain ⟨src, -, hrun⟩ := bind_ok_of_eq (readU32_reads _ _) hrun
    obtain ⟨_, w2, h2, hfree⟩ := bind_ok_iff.mp hrun
    obtain ⟨_, w3, h3, hdone⟩ := bind_ok_iff.mp hfree
    cases hdone
    obtain rfl := freeSkb_ok.mp h3
    have hecho : skb.ipPacket.onWire.getD 20 0 = icmpEchoRequestType :=
      (getD_onWire skb.ipPacket (by omega)).trans hreq.1
    have hown := ht.own _ (ownPacket_icmp 0 src icmpEchoRequestCode
      (skb.segment.mem.read (skb.segment.data + 4) (skb.segment.len - icmpHdrSize))
      (show icmpEchoReplyType ≠ icmpEchoRequestType by decide))
    have hreply := books_after (followIpHdr_books h1)
      (books_before (icmpOut_books ht h2) (books_freed skb.segment))
    exact books_paid (hreply.mono hown le_rfl)
      (ht.echo _ ((getD_proto skb.ipPacket).trans hproto) hecho)
  · obtain ⟨_, w1, h1, hdone⟩ := bind_ok_iff.mp hrun
    cases hdone
    obtain rfl := freeSkb_ok.mp h1
    exact books_paid (books_freed _) hnothing

/-- A connection that is closed pays for the reset. -/
theorem closeConnection_books (ht : t.Fair) {c : ConnId} {conn : TcpConnectionSock}
    {parent : TcpSock} (hconn : w.tcpConn c = some conn) (hparent : w.tcpSock conn.parent = some parent)
    (hmem : c ∈ parent.conns) (hrun : closeConnection (ipInputDepth depth) c w = .ok r w') :
    Books t.stock 0 0 w w' := by
  obtain ⟨_, w1, h1, hrest⟩ := bind_ok_iff.mp hrun
  obtain ⟨-, hsock, htcp⟩ := tcpOut_frame hconn h1
  have hsame : w1.tcpConn = w.tcpConn := by
    rcases htcp with heq | heq
    · exact heq
    · rw [heq, List.length_nil, numbered_ackRst, ← hconn, Function.update_eq_self]
  obtain ⟨conn', hconn', hrest⟩ := bind_ok_of_eq (derefTcpConn_reads c) hrest
  rw [derefTcpConn_ok, hsame, hconn] at hconn'
  obtain rfl := Option.some.inj hconn'.1
  obtain ⟨parent', hparent', hset⟩ := bind_ok_of_eq (derefTcpSock_reads _) hrest
  rw [derefTcpSock_ok, hsock, hparent] at hparent'
  obtain rfl := Option.some.inj hparent'.1
  obtain ⟨_, w2, h2, hdone⟩ := bind_ok_iff.mp hset
  cases hdone
  have hless : (parent.conns.erase c).length + 1 = parent.conns.length :=
    List.length_erase_add_one hmem
  have hgone : Books t.stock 0 t.conn w1 w' := by
    refine setTcpSock_books (hsock ▸ hparent) (le_of_eq ?_) h2
    rw [← hless, succ_nsmul, add_zero]
  have hreset := tcpOut_books ht (by decide) h1
  exact ((hreset.trans hgone).mono (le_of_eq (add_comm _ _)) (add_le_add_right ht.closes 0)).cancel t.own

/-- What a connection does with a segment costs nothing. -/
theorem handleEstab_books (ht : t.Fair) {c : ConnId} {conn : TcpConnectionSock} {parent : TcpSock}
    (hconn : w.tcpConn c = some conn) (hparent : w.tcpSock conn.parent = some parent)
    (hmem : c ∈ parent.conns) (hrun : handleEstab (ipInputDepth depth) c skb w = .ok r w') :
    Books t.stock 0 0 w w' := by
  obtain ⟨seq, -, hrun⟩ := bind_ok_of_eq (readTcpSeq_reads _ _) hrun
  obtain ⟨conn', hconn', hrun⟩ := bind_ok_of_eq (derefTcpConn_reads c) hrun
  rw [derefTcpConn_ok, hconn] at hconn'
  obtain rfl := Option.some.inj hconn'.1
  split at hrun
  · obtain ⟨flags, -, hrun⟩ := bind_ok_of_eq (readTcpFlags_reads _ _) hrun
    split at hrun
    · exact closeConnection_books ht hconn hparent hmem hrun
    split at hrun
    · obtain ⟨_, w1, h1, hclose⟩ := bind_ok_iff.mp hrun
      have hbooks : Books t.stock 0 0 w w1 := setTcpConn_books h1
      obtain rfl := setTcpConn_ok.mp h1
      exact books_after hbooks
        (closeConnection_books ht (Function.update_self ..) hparent hmem hclose)
    · obtain ⟨s, -, hrun⟩ := bind_ok_of_eq (skbPull_reads _ _) hrun
      obtain ⟨_, w1, h1, hdone⟩ := bind_ok_iff.mp hrun
      cases hdone
      exact setTcpConn_books h1
  · cases hrun
    exact .refl t.stock w

/-- **A connection that is opened costs itself and its answer.** -/
theorem handleNewConnection_books (ht : t.Fair) {k : SockId}
    (hrun : handleNewConnection (ipInputDepth depth) k skb w = .ok r w') :
    Books t.stock (t.conn + t.own) 0 w w' := by
  obtain ⟨c, w1, h1, hrun⟩ := bind_ok_iff.mp hrun
  obtain ⟨iph, w2, h2, hrun⟩ := bind_ok_iff.mp hrun
  obtain ⟨remoteIp, -, hrun⟩ := bind_ok_of_eq (readU32_reads _ _) hrun
  obtain ⟨srcPort, -, hrun⟩ := bind_ok_of_eq (readU16_reads _ _) hrun
  obtain ⟨wndSz, -, hrun⟩ := bind_ok_of_eq (readU16_reads _ _) hrun
  obtain ⟨seq, -, hrun⟩ := bind_ok_of_eq (readU32_reads _ _) hrun
  obtain ⟨_, w3, h3, hrun⟩ := bind_ok_iff.mp hrun
  obtain ⟨sock, hsock, hrun⟩ := bind_ok_of_eq (derefTcpSock_reads k) hrun
  obtain ⟨hsock, -⟩ := derefTcpSock_ok.mp hsock
  obtain ⟨_, w4, h4, hrun⟩ := bind_ok_iff.mp hrun
  obtain ⟨_, w5, h5, hdone⟩ := bind_ok_iff.mp hrun
  cases hdone
  have hquiet : Books t.stock 0 0 w w3 :=
    books_after (allocId_books h1) (books_after (followIpHdr_books h2) (setTcpConn_books h3))
  have hlisted : Books t.stock t.conn 0 w3 w4 := by
    refine setTcpSock_books hsock (le_of_eq ?_) h4
    rw [List.length_cons, succ_nsmul, add_zero]
  exact books_after hquiet (books_then hlisted (tcpOut_books ht (by decide) h5))

/-- **A segment that opens a connection pays for it, and any other costs nothing.** -/
theorem tcpInput_books (ht : t.Fair) (hw : ConnTables w) (hproto : skb.ipPacket.proto = ipProtoTcp)
    (hrun : tcpInput (ipInputDepth depth) skb.segment w = .ok r w') :
    Books t.stock (t.packet skb.ipPacket.onWire) t.tick w w' := by
  have hnothing : 0 + t.tick ≤ t.packet skb.ipPacket.onWire :=
    (zero_add t.tick).symm ▸ ht.handled _
  have hfollow : Books t.stock 0 0 w (w.followed skb) := books_zero rfl rfl rfl rfl rfl
  cases tcpInput_ok hrun with
  | unheard _ _ hw' =>
      subst hw'
      exact books_paid (.refl t.stock w') hnothing
  | refused _ _ _ _ _ hw' =>
      subst hw'
      exact books_paid hfollow hnothing
  | synSent _ _ _ _ _ hsyn =>
      exact books_paid (books_after hfollow (handleSynSent_books hsyn)) hnothing
  | @estab k sock c conn _ hk hfound hconn _ hestab =>
      have hmem : c ∈ sock.conns := List.mem_of_find?_eq_some hfound
      have hparent := hw.parent k sock c hk (List.mem_append_left _ hmem)
      rw [hconn, Option.map_some, Option.some.injEq] at hparent
      have hsock : (w.followed skb).tcpSock conn.parent = some sock := by
        rw [hparent]
        exact hk
      exact books_paid (books_after hfollow (handleEstab_books ht hconn hsock hmem hestab)) hnothing
  | opened _ _ _ hopens hnew =>
      have hsyn : OpensConn skb.ipPacket.onWire := by
        rw [OpensConn, packetFlags, getD_onWire _ (by omega)]
        exact ⟨hopens.2.1, Bool.eq_false_iff.mpr hopens.2.2⟩
      exact books_paid (books_after hfollow (handleNewConnection_books ht hnew))
        (ht.opens _ ((getD_proto skb.ipPacket).trans hproto) hsyn)

/-- **A packet pays for what the node it is for does with it.** -/
theorem ipInput_books (ht : t.Fair) (hw : ConnTables w) (hskb : Filled skb)
    (hlen : ethHdrSize ≤ skb.len) (hrun : ipInputDepth (depth + 1) skb.ipPacket w = .ok r w') :
    Books t.stock (t.packet skb.ipPacket.onWire) t.tick w w' := by
  have hlog : Books t.stock 0 0 w (w.transports skb) := books_zero rfl rfl rfl rfl rfl
  cases ipInput_ok hrun with
  | icmp hproto hicmp => exact books_after hlog (icmpInput_books ht hproto hicmp)
  | tcp hproto htcp =>
      have hw' : ConnTables (w.transports skb) :=
        ⟨hw.connLt, hw.parent, hw.nodup, hw.closed, hw.accepted⟩
      exact books_after hlog (tcpInput_books ht hw' hproto htcp)
  | udp hproto hudp =>
      have hfits : skb.ipPacket.data + skb.ipPacket.len = skb.ipPacket.tail :=
        (hskb.pulled hlen).tail.symm
      refine books_paid (books_after hlog (udpInput_books hfits (udpInput_ok hudp))) ?_
      have hqueued := ht.datagram _ ((getD_proto skb.ipPacket).trans hproto)
      cases r
      · exact (add_le_add_left zero_le _).trans hqueued
      · exact hqueued
  | refused _ _ _ _ hw' =>
      subst hw'
      exact books_paid (.refl t.stock w') ((zero_add t.tick).symm ▸ ht.handled _)

/-- **A packet pays for the next hop.** -/
theorem ipForward_books (ht : t.Fair)
    (hlocal : ∀ i intf, skb.intf = some i → w.intf i = some intf →
      isIpLocal w intf.node skb.ipPacket.dstIp = false)
    (hrun : ipForward skb.ipPacket w = .ok r w') :
    Books t.stock (t.packet skb.ipPacket.onWire) t.tick w w' := by
  have hrefused : (pure false : M Bool) w = .ok r w' →
      Books t.stock (t.packet skb.ipPacket.onWire) t.tick w w' := by
    intro hpure
    cases hpure
    exact books_paid (.refl t.stock w) ((zero_add t.tick).symm ▸ ht.handled _)
  obtain ⟨u, hu, hrun⟩ := bind_ok_of_eq get_reads hrun
  cases hu
  split at hrun
  · exact hrefused hrun
  obtain ⟨ttl, httl, hrun⟩ := bind_ok_of_eq (readU8_reads _ _) hrun
  obtain ⟨-, rfl, -⟩ := readU8_ok.mp httl
  split at hrun
  · exact hrefused hrun
  rename_i hzero
  split at hrun
  · exact hrefused hrun
  rename_i hone
  obtain ⟨intf, hintf, hrun⟩ := bind_ok_of_eq (derefIntfPtr_reads _) hrun
  obtain ⟨⟨i, hi, hintf⟩, -⟩ := derefIntfPtr_ok.mp hintf
  have hhops : 1 < (skb.ipPacket.mem (skb.ipPacket.data + 8)).toNat := by
    generalize skb.ipPacket.mem (skb.ipPacket.data + 8) = b at hzero hone
    rw [UInt8.sub_eq_iff_eq_add, zero_add] at hone
    have h0 : b.toNat ≠ 0 := fun h => hzero (UInt8.toNat_inj.mp h)
    have h1 : b.toNat ≠ 1 := fun h => hone (UInt8.toNat_inj.mp h)
    omega
  have hout : Books t.stock (if r then t.packet skb.ipPacket.forwarded.onWire + t.ask else 0) 0 w w' := by
    refine ipPostroute_books ht (fun j src hin _ => ?_) hrun
    rw [dstIp_forwarded, hlocal i intf hi hintf] at hin
    cases hin
  have hpaid : Books t.stock (t.packet skb.ipPacket.forwarded.onWire + t.ask) 0 w w' := by
    refine hout.mono ?_ le_rfl
    cases r
    · exact zero_le
    · exact le_rfl
  exact books_paid hpaid (ht.passed _ _ (hopCounted_forwarded skb.ipPacket hhops))

/-- **The loop of `arp_table_update_from_arp_reply`** moves packets from the table to the link. -/
theorem flushPending_books {n : NodeId} {ip : UInt32} {mac : MacAddr} {pkts : List SkBuff} {u : Unit}
    {entry : ArpEntry} (hlook : arpTableLookup (w.arpTable n) ip = some entry)
    (hpkts : entry.pendingPkts = pkts) (hrun : flushPending n ip mac pkts w = .ok u w') :
    Books t.stock 0 0 w w' := by
  induction pkts generalizing w entry with
  | nil =>
      cases hrun
      exact .refl t.stock w'
  | cons skb rest ih =>
      obtain ⟨_, w1, h1, hrest⟩ := bind_ok_iff.mp hrun
      obtain rfl := modifyArpEntry_ok.mp h1
      have hkeep : ∀ e : ArpEntry, ({ e with pendingPkts := rest } : ArpEntry).ip = e.ip := fun _ => rfl
      cases hi : skb.intf with
      | none =>
          rw [hi] at hrest
          cases hrest
      | some i =>
          rw [hi] at hrest
          obtain ⟨result, w2, h2, hrest⟩ := bind_ok_iff.mp hrest
          obtain ⟨_, w3, h3, hloop⟩ := bind_ok_iff.mp hrest
          have htaken : Books t.stock 0 (t.packet skb.onWire) w
              (w.modifyArp n ip fun entry => { entry with pendingPkts := rest }) := by
            refine books_modifyArp hlook (le_of_eq ?_)
            rw [hpkts, Tariff.packets_cons, add_zero, add_comm]
          have hsent : Books t.stock (t.packet skb.onWire) 0
              (w.modifyArp n ip fun entry => { entry with pendingPkts := rest }) w3 := by
            refine books_before ((ethernetOutput_books (fun src => frame_ip t mac src skb) h2).mono ?_
              le_rfl) (freeSkbIf_books h3)
            cases result
            · exact zero_le
            · exact le_rfl
          have hmoved : Books t.stock 0 0 w w3 :=
            ((htaken.trans hsent).mono le_rfl (le_of_eq (add_comm _ _))).cancel (t.packet skb.onWire)
          have hsend := (ethernetOutput_emits (P := fun _ => True) (fun _ _ => trivial) trivial).ok h2
          have hfree := (freeSkbIf_emits (P := Event.IsBuffer) (fun _ h => h) _ _).ok h3
          have hnext : arpTableLookup (w3.arpTable n) ip = some { entry with pendingPkts := rest } := by
            rw [hfree.arpTable, hsend.arpTable, arpTableLookup_modifyArp hkeep, hlook]
            rfl
          exact books_after hmoved (ih hnext rfl hloop)

theorem arpTableUpdateFromArpReply_books {n : NodeId} {u : Unit}
    (hrun : arpTableUpdateFromArpReply n skb skb.data w = .ok u w') : Books t.stock 0 0 w w' := by
  obtain ⟨ip, -, hrun⟩ := bind_ok_of_eq (readU32_reads _ _) hrun
  obtain ⟨s, hs, hrun⟩ := bind_ok_of_eq get_reads hrun
  cases hs
  cases hlook : arpTableLookup (w.arpTable n) ip with
  | none =>
      rw [hlook] at hrun
      cases hrun
      exact .refl t.stock w
  | some entry =>
      rw [hlook] at hrun
      obtain ⟨mac, -, hset⟩ := bind_ok_of_eq (readMac_reads _ _) hrun
      obtain ⟨_, w1, h1, hloop⟩ := bind_ok_iff.mp hset
      obtain rfl := modifyArpEntry_ok.mp h1
      have hknown : Books t.stock 0 0 w
          (w.modifyArp n ip fun entry => { entry with resolved := true, mac := mac }) :=
        books_modifyArp hlook le_rfl
      have hkeep : ∀ e : ArpEntry, ({ e with resolved := true, mac := mac } : ArpEntry).ip = e.ip :=
        fun _ => rfl
      have hnext := (congrArg (Option.map _) hlook).symm.trans
        (arpTableLookup_modifyArp hkeep).symm
      exact books_after hknown (flushPending_books hnext.symm rfl hloop)

/-- **A request pays for the reply, and a reply for being handled.** -/
theorem arpInput_books (ht : t.Fair) (hrun : arpInput skb w = .ok r w') :
    Books t.stock (if skb.IsArpReply then t.answer else t.ask) t.tick w w' := by
  have htick : t.tick ≤ t.ask := le_add_self.trans ht.answer
  have hhandled : 0 + t.tick ≤ if skb.IsArpReply then t.answer else t.ask := by
    rw [zero_add]
    split
    · exact ht.reply
    · exact htick
  unfold arpInput at hrun
  split at hrun
  · cases hrun
    exact books_paid (.refl t.stock w) hhandled
  rename_i hlen
  obtain ⟨opcode, hop, hrun⟩ := bind_ok_of_eq (readU16_reads _ _) hrun
  obtain ⟨-, rfl, -⟩ := readU16_ok.mp hop
  cases hi : skb.intf with
  | none =>
      rw [hi] at hrun
      cases hrun
  | some i =>
      rw [hi] at hrun
      obtain ⟨ok, w1, h1, hrun⟩ := bind_ok_iff.mp hrun
      obtain ⟨_, w2, h2, hdone⟩ := bind_ok_iff.mp hrun
      cases hdone
      have hfree : Books t.stock 0 0 w1 w' := freeSkbIf_books h2
      unfold arpDispatch at h1
      split at h1
      · rename_i hreq
        have hno : ¬ skb.IsArpReply := fun h => absurd (hreq.symm.trans h.2) (by decide)
        obtain ⟨intf, -, h1⟩ := bind_ok_of_eq (derefIntf_reads i) h1
        obtain ⟨target, -, h1⟩ := bind_ok_of_eq (readU32_reads _ _) h1
        split at h1
        · cases h1
          exact books_paid hfree hhandled
        · obtain ⟨_, w3, h3, hdone⟩ := bind_ok_iff.mp h1
          cases hdone
          rw [if_neg hno]
          exact books_paid (books_before (sendArpReplyMsg_books h3) hfree) ht.answer
      split at h1
      · obtain ⟨intf, -, h1⟩ := bind_ok_of_eq (derefIntf_reads i) h1
        obtain ⟨_, w3, h3, hdone⟩ := bind_ok_iff.mp h1
        cases hdone
        exact books_paid (books_after (arpTableUpdateFromArpReply_books h3) hfree) hhandled
      · cases h1
        exact books_paid hfree hhandled

/-- **The type of a frame says who gets it.** -/
theorem pktReceive_typed (hrun : pktReceive skb w = .ok r w') : r = false ∧ w' = w ∨
    ethHdrSize ≤ skb.len ∧
      ((skb.mem.load16 (skb.data + 12)).toNat = htons ethProtoArp.toNat ∧
          arpInput (skb.pulled ethHdrSize) w = .ok r w' ∨
        (skb.mem.load16 (skb.data + 12)).toNat = htons ethProtoIp.toNat ∧
          ipPreroute skb.ipPacket w = .ok r w') := by
  have hignored : (pure false : M Bool) w = .ok r w' → r = false ∧ w' = w := by
    intro hpure
    cases hpure
    exact ⟨rfl, rfl⟩
  obtain ⟨intf, -, hrun⟩ := bind_ok_of_eq (derefIntfPtr_reads _) hrun
  split at hrun
  swap
  · exact Or.inl (hignored hrun)
  unfold ethernetInput at hrun
  split at hrun
  · exact Or.inl (hignored hrun)
  rename_i hlen
  obtain ⟨intf', -, hrun⟩ := bind_ok_of_eq (derefIntfPtr_reads _) hrun
  obtain ⟨mac, -, hrun⟩ := bind_ok_of_eq (readMac_reads _ _) hrun
  split at hrun
  · exact Or.inl (hignored hrun)
  obtain ⟨type, htype, hrun⟩ := bind_ok_of_eq (readU16_reads _ _) hrun
  obtain ⟨-, rfl, -⟩ := readU16_ok.mp htype
  split at hrun
  · rename_i harp
    obtain ⟨s, hs, hrun⟩ := bind_ok_of_eq (skbPull_reads _ _) hrun
    obtain ⟨-, -, rfl, -⟩ := skbPull_ok.mp hs
    exact Or.inr ⟨Nat.le_of_not_lt hlen, Or.inl ⟨harp, hrun⟩⟩
  split at hrun
  · rename_i hip
    obtain ⟨s, hs, hrun⟩ := bind_ok_of_eq (skbPull_reads _ _) hrun
    obtain ⟨-, -, rfl, -⟩ := skbPull_ok.mp hs
    exact Or.inr ⟨Nat.le_of_not_lt hlen, Or.inr ⟨hip, hrun⟩⟩
  · exact Or.inl (hignored hrun)

theorem ipPreroute_books (ht : t.Fair) (hw : ConnTables w) (hskb : Filled skb)
    (hlen : ethHdrSize ≤ skb.len) (hrun : ipPreroute skb.ipPacket w = .ok r w') :
    Books t.stock (t.packet skb.ipPacket.onWire) t.tick w w' := by
  obtain ⟨intf, hintf, hrun⟩ := bind_ok_of_eq (derefIntfPtr_reads _) hrun
  obtain ⟨⟨i, hi, hintf⟩, -⟩ := derefIntfPtr_ok.mp hintf
  obtain ⟨dst, hdst, hrun⟩ := bind_ok_of_eq (readU32_reads _ _) hrun
  obtain ⟨-, rfl, -⟩ := readU32_ok.mp hdst
  obtain ⟨s, hs, hrun⟩ := bind_ok_of_eq get_reads hrun
  cases hs
  split at hrun
  · exact ipInput_books ht hw hskb hlen hrun
  · rename_i hlocal
    refine ipForward_books ht (fun j intf' hj hintf' => ?_) hrun
    obtain ⟨rfl, rfl⟩ := intfPtr_unique hi hintf hj hintf'
    exact Bool.eq_false_iff.mpr hlocal

/-- **A frame pays for what becomes of it.** -/
theorem pktReceive_books (ht : t.Fair) (hw : ConnTables w) {id : SkbId} {i : IntfId}
    {frame : List UInt8} (hrun : pktReceive (recvBuffer id i frame) w = .ok r w') :
    Books t.stock (t.frame frame) t.tick w w' := by
  have hworth : t.frame frame =
      if ((recvBuffer id i frame).mem.load16 ((recvBuffer id i frame).data + 12)).toNat
          = htons ethProtoIp.toNat then t.packet (recvBuffer id i frame).ipPacket.onWire
      else if ((recvBuffer id i frame).mem.load16 ((recvBuffer id i frame).data + 12)).toNat
          = htons ethProtoArp.toNat ∧ ((recvBuffer id i frame).pulled ethHdrSize).IsArpReply
        then t.answer
      else t.ask := rfl
  rw [hworth]
  rcases pktReceive_typed hrun with ⟨-, rfl⟩ | ⟨hlen, ⟨htype, harp⟩ | ⟨htype, hip⟩⟩
  · refine books_paid (.refl t.stock w') ?_
    rw [zero_add]
    split
    · exact ht.handled _
    split
    · exact ht.reply
    · exact le_add_self.trans ht.answer
  · rw [htype, if_neg (by decide)]
    refine (arpInput_books ht harp).mono (le_of_eq (if_congr ?_ rfl rfl)) le_rfl
    exact (and_iff_right rfl).symm
  · rw [if_pos htype]
    exact ipPreroute_books ht hw (filled_recvBuffer id i frame) hlen hip

/-- **What `recv_task` does with a frame** costs no more than the frame is worth. -/
theorem recvFrame_books (ht : t.Fair) (hw : ConnTables w) {i : IntfId} {frame : List UInt8} {u : Unit}
    (hrun : recvFrame i frame w = .ok u w') : Books t.stock (t.frame frame) t.tick w w' := by
  obtain ⟨skb, w1, h1, hrun⟩ := bind_ok_iff.mp hrun
  rw [recvSkb_eq] at h1
  cases h1
  obtain ⟨ok, w2, h2, hfree⟩ := bind_ok_iff.mp hrun
  have hreceived : Books t.stock 0 0 w (w.received i frame) := books_zero rfl rfl rfl rfl rfl
  have hw' : ConnTables (w.received i frame) :=
    ⟨fun c hc => Nat.lt_succ_of_lt (hw.connLt c hc), hw.parent, hw.nodup, hw.closed, hw.accepted⟩
  exact books_after hreceived (books_before (pktReceive_books ht hw' h2) (freeSkbIf_books hfree))

end Receivers

end SimpleTcpip
