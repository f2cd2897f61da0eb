/-
What the network side of the process can change, said once.

A frame that arrives, or a packet an application sends, runs through a tree of
functions, and any of them may stop the run.  `Change` lists the single effects such a
run consists of, each with the guards the code has checked by then.  Every function
between `recv_task` or a send call and the link only makes changes, whether its run
completes or not; an invariant is then a case analysis over `Change`, and never
follows a function again.

A change is made on behalf of a call.  `Scope` says what that call may use: buffers
and connections allocated since it began, the frame it received, and the connection
it sends on.
-/
import SimpleTcpip.Proofs.Segment

namespace SimpleTcpip

open Fallible Relation

/-! ### Buffers of a received frame -/

/-- The buffer `recv_task` fills with a frame. -/
def recvBuffer (id : SkbId) (i : IntfId) (frame : List UInt8) : SkBuff :=
  let frame := frame.take (recvBufferSize - recvReservedHeadRoom)
  { id, intf := some i, ipHdr := none, udpHdr := none, len := frame.length,
    data := recvReservedHeadRoom, tail := recvReservedHeadRoom + frame.length,
    limit := recvBufferSize, mem := Memory.write (fun _ => 0) recvReservedHeadRoom frame }

/-- A buffer with its first `n` bytes pulled. -/
def SkBuff.pulled (skb : SkBuff) (n : Nat) : SkBuff :=
  { skb with data := skb.data + n, len := sizeSub skb.len n }

/-- The buffer `ethernet_input` hands to `ip_preroute`. -/
def SkBuff.ipPacket (skb : SkBuff) : SkBuff :=
  { skb.pulled ethHdrSize with ipHdr := some (skb.data + ethHdrSize) }

/-- The buffer `ip_input` hands to a transport protocol. -/
def SkBuff.segment (skb : SkBuff) : SkBuff := skb.ipPacket.pulled ipHdrSize

/-- The buffer `udp_input` queues. -/
def SkBuff.datagram (skb : SkBuff) : SkBuff :=
  { skb.segment with udpHdr := some skb.segment.data }.pulled udpHdrSize

/-! ### Where a received segment belongs -/

/-- `ethernet_input` and `ip_preroute` hand a received packet to `ip_input`. -/
def IpAccepted (w : World) (skb : SkBuff) : Prop :=
  ∃ i intf, skb.intf = some i ∧ w.intf i = some intf ∧ intf.isIpAddrConfig = true ∧
    ethHdrSize ≤ skb.len ∧ ethernetInputQualify intf (MacAddr.load skb.mem skb.data) = true ∧
    (skb.mem.load16 (skb.data + 12)).toNat = htons ethProtoIp.toNat ∧
    isIpLocal w intf.node skb.ipPacket.dstIp = true

instance (w : World) (skb : SkBuff) : Decidable (IpAccepted w skb) :=
  decidable_of_iff ((skb.intf.bind w.intf).any (fun intf => decide (intf.isIpAddrConfig = true ∧
      ethHdrSize ≤ skb.len ∧ ethernetInputQualify intf (MacAddr.load skb.mem skb.data) = true ∧
      (skb.mem.load16 (skb.data + 12)).toNat = htons ethProtoIp.toNat ∧
      isIpLocal w intf.node skb.ipPacket.dstIp = true)) = true) <| by
    constructor
    · intro h
      obtain ⟨intf, hintf, htests⟩ := (Option.any_eq_true _ _).mp h
      obtain ⟨i, hi, hintf⟩ := Option.bind_eq_some_iff.mp hintf
      exact ⟨i, intf, hi, hintf, of_decide_eq_true htests⟩
    · rintro ⟨i, intf, hi, hintf, htests⟩
      rw [hi, Option.bind_some, hintf, Option.any_some]
      exact decide_eq_true htests

/-- The protocol of the packet a buffer carries. -/
def SkBuff.proto (skb : SkBuff) : UInt8 := skb.mem (skb.data + 9)

/-- A received packet `ip_input` takes to a transport protocol. -/
def TakenTo (w : World) (proto : UInt8) (skb : SkBuff) : Prop :=
  IpAccepted w skb ∧ skb.ipPacket.proto = proto

instance (w : World) (proto : UInt8) (skb : SkBuff) : Decidable (TakenTo w proto skb) :=
  inferInstanceAs (Decidable (_ ∧ _))

/-- The destination port of the datagram in a buffer. -/
def SkBuff.udpDst (skb : SkBuff) : UInt16 :=
  UInt16.ofNat (ntohs (skb.mem.load16 (skb.data + 2)).toNat)

/-- The socket `udp_input` finds for a received packet. -/
def rxUdpSock (w : World) (skb : SkBuff) : Option SockId :=
  skb.intf.bind fun i => udpSocksManagerFind w i skb.segment.udpDst

/-- The socket `tcp_input` finds for a received packet. -/
def rxSock (w : World) (skb : SkBuff) : Option SockId :=
  skb.intf.bind fun i => tcpSocksManagerFind w i skb.segment.tcpDst

/-- The connection `tcp_input` finds for a received packet. -/
def rxConn (w : World) (skb : SkBuff) : Option ConnId :=
  ((rxSock w skb).bind w.tcpSock).bind fun sock =>
    findMatchingConnection w sock skb.ipPacket.srcIp skb.segment.tcpSrc

theorem rxConn_of_sock {w : World} {skb : SkBuff} {k : SockId} {sock : TcpSock}
    (hsock : rxSock w skb = some k) (hk : w.tcpSock k = some sock) :
    rxConn w skb = findMatchingConnection w sock skb.ipPacket.srcIp skb.segment.tcpSrc := by
  rw [rxConn, hsock, Option.bind_some, hk, Option.bind_some]

/-- Only the socket lists and the remote ends of connections decide that. -/
theorem rxConn_congr {w w' : World} (skb : SkBuff) (hsocks : w'.tcpSocks = w.tcpSocks)
    (hsock : w'.tcpSock = w.tcpSock)
    (hconn : ∀ c, (w'.tcpConn c).map (fun conn => (conn.remotePort, conn.remoteIp))
      = (w.tcpConn c).map fun conn => (conn.remotePort, conn.remoteIp)) :
    rxConn w' skb = rxConn w skb := by
  have hmatch : findMatchingConnection w' = findMatchingConnection w := by
    funext sock ip port
    refine congrArg (fun p => List.find? p sock.conns) (funext fun c => ?_)
    have hany := congrArg (Option.any fun end' => end'.1 == port && end'.2 == ip) (hconn c)
    rwa [Option.any_map, Option.any_map] at hany
  unfold rxConn rxSock tcpSocksManagerFind
  rw [hmatch, hsocks, hsock]

/-- The connection a received SYN opens on a socket. -/
def SkBuff.opens (skb : SkBuff) (k : SockId) : TcpConnectionSock :=
  newConnection k skb.ipPacket.srcIp skb.segment.tcpSrc skb.segment.tcpWnd
    (skb.segment.mem.load32 (skb.segment.data + 4))

/-! ### Buffers the node made -/

/-- A packet the link layer can take: room for the frame header and the padding, and a
live interface. -/
structure Ready (w : World) (s : SkBuff) : Prop where
  headroom : ethHdrSize ≤ s.data
  tailroom : s.tail + (60 - (s.len + ethHdrSize)) ≤ s.limit
  intf : ∃ i, s.intf = some i ∧ (w.intf i).isSome

/-- A packet of a buffer allocated since `base`. -/
structure Outgoing (base : Nat) (w : World) (s : SkBuff) : Prop extends Ready w s where
  fresh : base ≤ s.id
  allocated : s.id < w.nextId

/-- A buffer as the senders build it before `ip_output`. -/
structure Built (base : Nat) (s : SkBuff) : Prop where
  fresh : base ≤ s.id
  ipHdr : s.ipHdr = none
  data : s.data = buffHeadroom
  tailroom : s.tail + buffTailroom ≤ s.limit

/-! ### The changes -/

/-- What a call may use. -/
structure Scope where
  /-- Identities from here on were allocated by the call. -/
  base : Nat
  /-- The buffer of the frame it received. -/
  rx : SkBuff → Prop
  /-- A received packet that `ip_input` takes to a transport protocol. -/
  accepts : UInt8 → SkBuff → Prop
  /-- The connection `tcp_input` finds for it. -/
  finds : ConnId → Prop
  /-- The connection it sends data on. -/
  sender : ConnId → Prop

/-- One effect of a network call. -/
inductive Change (sc : Scope) (w : World) : World → Prop
  /-- The node's own packets are sent, parked or looped back. -/
  | sends {w' : World}
      (h : Sends (Outgoing sc.base w) (fun id => sc.base ≤ id ∧ id < w.nextId) w w') :
      Change sc w w'
  /-- `ip_output` is called; a segment with data is the sender's. -/
  | output {node : NodeId} {ip : UInt32} {proto : UInt8} {skb : SkBuff}
      (hdata : proto = ipProtoTcp → (∃ c, sc.sender c) ∨ skb.len = tcpHdrSize) :
      Change sc w (w.output node ip proto skb)
  /-- `ip_input` takes a received packet to a transport protocol. -/
  | transport {proto : UInt8} {skb : SkBuff} (hrx : sc.rx skb) (hto : sc.accepts proto skb) :
      Change sc w { w with trace := w.trace ++ [.transport proto skb.segment] }
  /-- A transport protocol reads the IP header of a received packet. -/
  | readIpHdr {skb : SkBuff} (hrx : sc.rx skb) :
      Change sc w { w with trace := w.trace ++ [.readIpHdr skb.segment] }
  /-- `ip_forward` passes a received packet on. -/
  | forwards {w' : World} {skb : SkBuff} {i : IntfId} {intf out : Intf} {rt : RtEntry}
      (hrx : sc.rx skb) (hi : skb.intf = some i) (hintf : w.intf i = some intf)
      (httl : 1 < (skb.ipPacket.mem (skb.ipPacket.data + 8)).toNat)
      (hlocal : isIpLocal w intf.node skb.ipPacket.dstIp = false)
      (hrt : rtLookupLpm (w.rtTable intf.node) skb.ipPacket.dstIp = some rt)
      (hout : w.intf rt.intf = some out)
      (h : Sends (fun s => s = skb.ipPacket.forwarded.routed rt.intf out.ipAddr)
        (fun _ => False) w w') : Change sc w w'
  /-- An ARP reply resolves an entry. -/
  | resolved {n : NodeId} {ip : UInt32} {mac : MacAddr} :
      Change sc w (w.modifyArp n ip fun entry => { entry with resolved := true, mac := mac })
  /-- A waiting packet leaves the pending list and is sent. -/
  | flushed {w' : World} {n : NodeId} {ip : UInt32} {entry : ArpEntry} {skb : SkBuff}
      {rest : List SkBuff} (hfind : arpTableLookup (w.arpTable n) ip = some entry)
      (hpending : entry.pendingPkts = skb :: rest)
      (h : Sends (fun s => s = skb) (fun _ => False)
        (w.modifyArp n ip fun entry => { entry with pendingPkts := rest }) w') : Change sc w w'
  /-- A received datagram is queued. -/
  | queued {skb : SkBuff} {k : SockId} {sock : UdpSock} (hrx : sc.rx skb)
      (hto : sc.accepts ipProtoUdp skb) (hsock : rxUdpSock w skb = some k)
      (hk : w.udpSock k = some sock) :
      Change sc w { w with
        udpSock := Function.update w.udpSock k
          (some { sock with rxSkb := skb.datagram :: sock.rxSkb }) }
  /-- A SYN to a listening socket creates a connection. -/
  | connected {skb : SkBuff} {k : SockId} {sock : TcpSock} (hrx : sc.rx skb)
      (hto : sc.accepts ipProtoTcp skb) (hbase : sc.base ≤ w.nextId) (hsock : rxSock w skb = some k) (hk : w.tcpSock k = some sock)
      (hlisten : sock.listening = true) (hnew : rxConn w skb = none)
      (hsyn : skb.segment.tcpFlags.syn = true) :
      Change sc w { w with
        nextId := w.nextId + 1
        trace := w.trace ++ [.readIpHdr skb.segment]
        tcpConn := Function.update w.tcpConn w.nextId (some (skb.opens k))
        tcpSock := Function.update w.tcpSock k
          (some { sock with conns := w.nextId :: sock.conns }) }
  /-- The last acknowledgement of the handshake. -/
  | established {skb : SkBuff} {c : ConnId} {conn : TcpConnectionSock} (hrx : sc.rx skb)
      (hto : sc.accepts ipProtoTcp skb) (hfinds : sc.finds c) (hseg : rxConn w skb = some c) (hc : w.tcpConn c = some conn)
      (hstate : conn.state = .handleSynSent) (hack : skb.segment.tcpFlags.ack = true)
      (hsyn : skb.segment.tcpFlags.syn = false) (hseq : skb.segment.tcpSeq = conn.rcv.nxt) :
      Change sc w { w with
        tcpConn := Function.update w.tcpConn c (some { conn with state := .handleEstab }) }
  /-- An in-order segment is queued. -/
  | delivered {skb : SkBuff} {c : ConnId} {conn : TcpConnectionSock} (hrx : sc.rx skb)
      (hto : sc.accepts ipProtoTcp skb) (hfinds : sc.finds c) (hseg : rxConn w skb = some c) (hc : w.tcpConn c = some conn)
      (hstate : conn.state = .handleEstab) (hseq : skb.segment.tcpSeq = conn.rcv.nxt)
      (hrst : skb.segment.tcpFlags.rst = false) (hfin : skb.segment.tcpFlags.fin = false) :
      Change sc w { w with
        tcpConn := Function.update w.tcpConn c (some { conn with
          rcv := { conn.rcv with
            nxt := conn.rcv.nxt + UInt32.ofNat (skb.segment.pulled tcpHdrSize).len }
          rxSkb := skb.segment.pulled tcpHdrSize :: conn.rxSkb }) }
  /-- An in-order FIN is counted. -/
  | finished {skb : SkBuff} {c : ConnId} {conn : TcpConnectionSock} (hrx : sc.rx skb)
      (hto : sc.accepts ipProtoTcp skb) (hfinds : sc.finds c) (hseg : rxConn w skb = some c) (hc : w.tcpConn c = some conn)
      (hstate : conn.state = .handleEstab) (hseq : skb.segment.tcpSeq = conn.rcv.nxt)
      (hrst : skb.segment.tcpFlags.rst = false) (hfin : skb.segment.tcpFlags.fin = true) :
      Change sc w { w with
        tcpConn := Function.update w.tcpConn c (some { conn with
          rcv := { conn.rcv with nxt := conn.rcv.nxt + 1 } }) }
  /-- `tcp_out` takes sequence numbers: for data only on the sender's connection. -/
  | numbered {c : ConnId} {conn : TcpConnectionSock} {span : UInt32}
      (hc : w.tcpConn c = some conn) (hspan : sc.sender c ∨ sc.base ≤ c ∨ span = 0) :
      Change sc w { w with
        tcpConn := Function.update w.tcpConn c (some { conn with
          snt := { conn.snt with nxt := conn.snt.nxt + span } }) }
  /-- An established connection is closed. -/
  | closed {skb : SkBuff} {c : ConnId} {conn : TcpConnectionSock} {parent : TcpSock}
      (hrx : sc.rx skb) (hto : sc.accepts ipProtoTcp skb) (hfinds : sc.finds c)
      (hseg : rxConn w skb = some c) (hc : w.tcpConn c = some conn) (hstate : conn.state = .handleEstab) (hp : w.tcpSock conn.parent = some parent) :
      Change sc w { w with
        tcpSock := Function.update w.tcpSock conn.parent (some { parent with
          conns := parent.conns.erase c, closedConns := c :: parent.closedConns }) }

/-- A run from a state in which everything allocated so far precedes the scope. -/
def Changes (sc : Scope) (w w' : World) : Prop :=
  sc.base ≤ w.nextId → ReflTransGen (Change sc) w w'

namespace Change

variable {sc : Scope} {w w' : World}

theorem nextId_le (h : Change sc w w') : w.nextId ≤ w'.nextId := by
  cases h with
  | sends h => exact h.nextId
  | forwards _ _ _ _ _ _ _ h => exact h.nextId
  | flushed _ _ h => exact h.nextId
  | connected => exact Nat.le_succ _
  | _ => exact Nat.le_refl _

/-- What no network call changes: the configuration and the descriptors. -/
theorem frame (h : Change sc w w') : w' = { w with
    arpTable := w'.arpTable, udpSock := w'.udpSock, tcpSock := w'.tcpSock,
    tcpConn := w'.tcpConn, nextId := w'.nextId, numSends := w'.numSends, trace := w'.trace } := by
  cases h with
  | sends h => rw [h.frame]
  | forwards _ _ _ _ _ _ _ h => rw [h.frame]
  | flushed _ _ h =>
      rw [h.frame]
      rfl
  | _ => rfl

end Change

/-- What a network call records, with `K` bounding the packets it hands over. -/
def Event.Of (sc : Scope) (K : SkBuff → Prop) : Event → Prop
  | .received _ _ => False
  | .transport _ s | .readIpHdr s =>
      Looped (fun id => sc.base ≤ id) s ∨ ∃ r, sc.rx r ∧ s = r.segment
  | .ipOutput _ _ proto s => proto = ipProtoTcp → (∃ c, sc.sender c) ∨ s.len = tcpHdrSize
  | .parked _ _ s => K s
  | .ethOutput _ _ proto s => proto = ethProtoArp ∨ K s
  | .alloc _ | .free _ | .sent _ _ => True

theorem Event.of_sent {sc : Scope} {K : SkBuff → Prop} {L : SkbId → Prop} {e : Event}
    (hL : ∀ id, L id → sc.base ≤ id) (h : e.Sent K L) : e.Of sc K := by
  cases e with
  | transport proto s => exact Or.inl ⟨h.1, hL s.id h.2⟩
  | readIpHdr s => exact Or.inl ⟨h.1, hL s.id h.2⟩
  | received i s => exact h
  | ipOutput node ip proto s => exact absurd h id
  | parked n ip s => exact h
  | ethOutput i mac proto s => exact h
  | _ => trivial

/-- The packets a call may hand over: its own, of the buffers allocated up to `top`, the one
it forwards, and those that waited. -/
structure Covers (sc : Scope) (w : World) (top : Nat) (K : SkBuff → Prop) : Prop where
  own : ∀ s, sc.base ≤ s.id → s.id < top → K s
  forwarded : ∀ r i intf rt out, sc.rx r → r.intf = some i → w.intf i = some intf →
    1 < (r.ipPacket.mem (r.ipPacket.data + 8)).toNat →
    isIpLocal w intf.node r.ipPacket.dstIp = false →
    rtLookupLpm (w.rtTable intf.node) r.ipPacket.dstIp = some rt → w.intf rt.intf = some out →
    K (r.ipPacket.forwarded.routed rt.intf out.ipAddr)
  waiting : ∀ n s, Pending w n s → K s

theorem Sends.records (sc : Scope) {K K' : SkBuff → Prop} {L : SkbId → Prop} {w w' : World}
    (h : Sends K' L w w') (hK' : ∀ s, K' s → K s) (hL : ∀ id, L id → sc.base ≤ id)
    (hK : ∀ n s, Pending w n s → K s) :
    (∃ es, w'.trace = w.trace ++ es ∧ ∀ e ∈ es, e.Of sc K) ∧ ∀ n s, Pending w' n s → K s := by
  obtain ⟨es, he, hes⟩ := (h.mono hK' hL).trace
  refine ⟨⟨es, he, fun e hmem => Event.of_sent (fun _ hid => hid) (hes e hmem)⟩, fun n s hs => ?_⟩
  rcases h.pending n s hs with hw | hl
  · exact hK n s hw
  · exact hK' s hl

theorem Change.records {sc : Scope} {K : SkBuff → Prop} {w w' : World} {top : Nat}
    (h : Change sc w w') (htop : w.nextId ≤ top) (hK : Covers sc w top K) :
    (∃ es, w'.trace = w.trace ++ es ∧ ∀ e ∈ es, e.Of sc K) ∧ ∀ n s, Pending w' n s → K s := by
  have hone : ∀ e : Event, e.Of sc K →
      (∃ es, w.trace ++ [e] = w.trace ++ es ∧ ∀ e ∈ es, e.Of sc K) :=
    fun e he => ⟨[e], rfl, by simpa using he⟩
  have hnone : ∃ es, w.trace = w.trace ++ es ∧ ∀ e ∈ es, e.Of sc K := ⟨[], by simp, by simp⟩
  cases h with
  | sends h =>
      exact h.records sc (fun s hs => hK.own s hs.fresh (Nat.lt_of_lt_of_le hs.allocated htop))
        (fun _ hid => hid.1) hK.waiting
  | @output node ip proto skb hdata => exact ⟨hone (.ipOutput node ip proto skb) hdata, hK.waiting⟩
  | transport hrx => exact ⟨hone (.transport _ _) (Or.inr ⟨_, hrx, rfl⟩), hK.waiting⟩
  | readIpHdr hrx => exact ⟨hone (.readIpHdr _) (Or.inr ⟨_, hrx, rfl⟩), hK.waiting⟩
  | forwards hrx hi hintf httl hlocal hrt hout h =>
      refine h.records sc (fun s hs => ?_) (fun _ hid => absurd hid id) hK.waiting
      rw [hs]
      exact hK.forwarded _ _ _ _ _ hrx hi hintf httl hlocal hrt hout
  | @resolved n ip mac =>
      have hsends : Sends K (fun _ => False) w (w.modifyArp n ip fun entry =>
          { entry with resolved := true, mac := mac }) := modifyArp_sends fun _ _ _ => Or.inl
      exact hsends.records sc (fun _ hs => hs) (fun _ hid => absurd hid id) hK.waiting
  | @flushed _ n ip entry skb rest hfind hpending h =>
      have hskb : K skb := by
        refine hK.waiting n skb ⟨entry, List.mem_of_find?_eq_some hfind, ?_⟩
        rw [hpending]
        exact List.mem_cons_self
      -- what is left in the entry waited before
      have hrest : Sends K (fun _ => False) w
          (w.modifyArp n ip fun entry => { entry with pendingPkts := rest }) := by
        refine modifyArp_sends fun entry' hfind' s hs => Or.inl ?_
        obtain rfl : entry = entry' := Option.some.inj (hfind.symm.trans hfind')
        rw [hpending]
        exact List.mem_cons_of_mem skb hs
      have hwaiting := (hrest.records sc (fun _ hs => hs) (fun _ hid => absurd hid id) hK.waiting).2
      exact h.records sc (fun s hs => hs ▸ hskb) (fun _ hid => absurd hid id) hwaiting
  | connected hrx => exact ⟨hone (.readIpHdr _) (Or.inr ⟨_, hrx, rfl⟩), hK.waiting⟩
  | _ => exact ⟨hnone, hK.waiting⟩

namespace Changes

variable {sc : Scope} {w w' w'' : World}

theorem refl (sc : Scope) (w : World) : Changes sc w w := fun _ => .refl

theorem nextId_le_of_steps (h : ReflTransGen (Change sc) w w') : w.nextId ≤ w'.nextId := by
  induction h with
  | refl => exact Nat.le_refl _
  | tail _ hstep ih => exact Nat.le_trans ih hstep.nextId_le

theorem trans (h : Changes sc w w') (h' : Changes sc w' w'') : Changes sc w w'' := by
  intro hb
  have h1 := h hb
  exact h1.trans (h' (Nat.le_trans hb (nextId_le_of_steps h1)))

theorem single (h : Change sc w w') : Changes sc w w' := fun _ => .single h

/-- An invariant every change keeps holds after a run. -/
theorem induct {I : World → Prop} (hstep : ∀ w w', I w → Change sc w w' → I w')
    (hb : sc.base ≤ w.nextId) (h : Changes sc w w') (hI : I w) : I w' := by
  have hsteps := h hb
  clear h
  induction hsteps with
  | refl => exact hI
  | tail _ hc ih => exact hstep _ _ ih hc

/-- A whole call leaves the configuration and the descriptors as they were. -/
theorem frame (hb : sc.base ≤ w.nextId) (h : Changes sc w w') : w' = { w with
    arpTable := w'.arpTable, udpSock := w'.udpSock, tcpSock := w'.tcpSock,
    tcpConn := w'.tcpConn, nextId := w'.nextId, numSends := w'.numSends, trace := w'.trace } := by
  refine h.induct (I := fun t => t = { w with
    arpTable := t.arpTable, udpSock := t.udpSock, tcpSock := t.tcpSock,
    tcpConn := t.tcpConn, nextId := t.nextId, numSends := t.numSends, trace := t.trace })
    ?_ hb rfl
  intro t t' ht hc
  rw [hc.frame, ht]

/-- **A call hands over only what its scope covers**, and nothing else waits afterwards. -/
theorem records {K : SkBuff → Prop} (hb : sc.base ≤ w.nextId) (h : Changes sc w w')
    (hK : Covers sc w w'.nextId K) :
    (∃ es, w'.trace = w.trace ++ es ∧ ∀ e ∈ es, e.Of sc K) ∧ ∀ n s, Pending w' n s → K s := by
  have hall : (t : World) → ReflTransGen (Change sc) w t → t.nextId ≤ w'.nextId →
      t.intf = w.intf ∧ t.node = w.node ∧ t.rtTable = w.rtTable ∧
      (∃ es, t.trace = w.trace ++ es ∧ ∀ e ∈ es, e.Of sc K) ∧ ∀ n s, Pending t n s → K s := by
    intro t ht
    induction ht with
    | refl => exact fun _ => ⟨rfl, rfl, rfl, ⟨[], by simp, by simp⟩, hK.waiting⟩
    | @tail t u _ hc ih =>
        intro htop
        have htop' := Nat.le_trans hc.nextId_le htop
        obtain ⟨hintf, hnode, hrt, ⟨es, he, hes⟩, hwait⟩ := ih htop'
        have hcov : Covers sc t w'.nextId K := by
          refine ⟨hK.own, ?_, hwait⟩
          intro r i intf rt out hrx hi hti httl hlocal hroute hout
          rw [hintf] at hti hout
          rw [hrt] at hroute
          refine hK.forwarded r i intf rt out hrx hi hti httl ?_ hroute hout
          rw [← hlocal]
          unfold isIpLocal nodeIntfs
          rw [hintf, hnode]
        obtain ⟨⟨es', he', hes'⟩, hwait'⟩ := hc.records htop' hcov
        have hframe := hc.frame
        refine ⟨by rw [hframe, ← hintf], by rw [hframe, ← hnode], by rw [hframe, ← hrt],
          ⟨es ++ es', by rw [he', he, List.append_assoc], ?_⟩, hwait'⟩
        intro e hmem
        rcases List.mem_append.mp hmem with hl | hr
        · exact hes e hl
        · exact hes' e hr
  exact (hall w' (h hb) (Nat.le_refl _)).2.2.2

end Changes

/-! ### The steps of a network call -/

section Steps

variable {sc : Scope} {α β : Type}

theorem reads_changes {m : M α} (h : Keeps Eq m) : Keeps (Changes sc) m :=
  keeps_of_eq (Changes.refl sc) h

theorem pure_changes (a : α) : Keeps (Changes sc) (pure a : M α) :=
  keeps_pure (Changes.refl sc) a

theorem bind_changes {x : M α} {f : α → M β} (hx : Keeps (Changes sc) x)
    (hf : ∀ a, Keeps (Changes sc) (f a)) : Keeps (Changes sc) (x >>= f) :=
  keeps_bind (fun _ _ _ h h' => h.trans h') hx hf

/-- From one state, what the first part returned and left may be used. -/
theorem final_bind_changes {x : M α} {f : α → M β} {w : World} (hx : Keeps (Changes sc) x)
    (hf : ∀ a w', x w = .ok a w' → sc.base ≤ w.nextId → Changes sc w' (final (f a) w')) :
    Changes sc w (final (x >>= f) w) := by
  intro hb
  exact final_bind_rel (fun _ _ _ h h' => h.trans h') (hx w) (fun a w' h => hf a w' h hb) hb

/-- The same when only this run is known to make changes, seen from an earlier state. -/
theorem final_bind_changes_at {x : M α} {f : α → M β} {w₀ w : World}
    (hx : Changes sc w₀ (final x w))
    (hf : ∀ a w', x w = .ok a w' → Changes sc w' (final (f a) w')) :
    Changes sc w₀ (final (x >>= f) w) :=
  final_bind_rel (fun _ _ _ h h' => h.trans h') hx hf

theorem final_ite_changes {c : Prop} [Decidable c] {x y : M α} {w : World}
    (hx : c → Changes sc w (final x w)) (hy : ¬ c → Changes sc w (final y w)) :
    Changes sc w (final (if c then x else y) w) := by
  split
  · exact hx ‹_›
  · exact hy ‹_›

/-- A run that sends nothing of its own makes no other change. -/
theorem sends_changes {m : M α} (h : ∀ K L, Keeps (Sends K L) m) : Keeps (Changes sc) m :=
  fun w => .single (.sends (h _ _ w))

theorem allocId_sends {K : SkBuff → Prop} {L : SkbId → Prop} : Keeps (Sends K L) allocId :=
  fun w => ⟨rfl, Nat.le_succ w.nextId, ⟨[], (List.append_nil _).symm, by simp⟩,
    fun n s h => Or.inl h, (Sends.refl K L w).udpSock⟩

theorem allocSkb_sends {K : SkBuff → Prop} {L : SkbId → Prop} (size : Nat) :
    Keeps (Sends K L) (allocSkb size) :=
  emits_sends isBuffer_sent (allocSkb_emits (fun _ h => h) size)

end Steps

/-! ### The senders -/

section Senders

variable {sc : Scope} {depth : Nat} {node : NodeId} {ip : UInt32} {proto : UInt8}

/-- **`ip_output` of a buffer the call built.** -/
theorem ipOutput_changes {skb : SkBuff} {w : World} (hskb : Built sc.base skb)
    (hid : skb.id < w.nextId)
    (hdata : proto = ipProtoTcp → (∃ c, sc.sender c) ∨ skb.len = tcpHdrSize) :
    Changes sc w (final (ipOutput (ipInputDepth depth) node ip proto skb) w) := by
  have houtput : Change sc w (w.output node ip proto skb) := .output hdata
  refine (Changes.single houtput).trans ?_
  refine .single (.sends (ipOutput_sends ⟨hskb.ipHdr, hskb.fresh, hid⟩ fun i out _ hout => ?_))
  have hdata := hskb.data
  have htail := hskb.tailroom
  unfold buffTailroom at htail
  unfold buffHeadroom at hdata
  have houtId : ((skb.withIpHdr ip proto).routed i out.ipAddr).id = skb.id := by
    rw [routed_id, withIpHdr_id]
  refine ⟨⟨?_, ?_, i, routed_intf _ _ _, Option.isSome_iff_exists.mpr ⟨out, hout⟩⟩,
    houtId.symm ▸ hskb.fresh, houtId.symm ▸ hid⟩
  · simp only [routed_data, withIpHdr_data, ethHdrSize, ipHdrSize]
    omega
  · simp only [routed_tail, routed_len, routed_limit, withIpHdr_tail, withIpHdr_len,
      withIpHdr_limit, ethHdrSize, ipHdrSize]
    omega

theorem allocSkb_changes (size : Nat) : Keeps (Changes sc) (allocSkb size) :=
  sends_changes fun _ _ => allocSkb_sends size

theorem icmpOut_changes (type code : UInt8) (payload : List UInt8) :
    Keeps (Changes sc) (icmpOut (ipInputDepth depth) node ip type code payload) := by
  intro w
  refine final_bind_changes (allocSkb_changes _) fun skb w1 h1 hb => ?_
  obtain ⟨rfl, rfl⟩ := allocSkb_ok.mp h1
  refine final_bind_changes (reads_changes (skbReserve_reads _ _)) fun skb w2 h2 _ => ?_
  obtain ⟨-, rfl, rfl⟩ := skbReserve_ok.mp h2
  refine final_bind_changes (reads_changes (skbPut_reads _ _)) fun skb w3 h3 _ => ?_
  obtain ⟨-, rfl, rfl⟩ := skbPut_ok.mp h3
  refine final_bind_changes_at (ipOutput_changes ⟨hb, rfl, rfl, ?_⟩ (Nat.lt_succ_self _)
    fun h => absurd h (by decide)) fun result w4 _ => ?_
  · show 0 + buffHeadroom + (icmpHdrSize + payload.length) + buffTailroom
      ≤ buffHeadroom + buffTailroom + icmpHdrSize + payload.length
    omega
  · refine keeps_ite (pure_changes _) ?_ w4
    exact bind_changes (sends_changes fun _ _ => freeSkb_sends _) fun _ => pure_changes _

theorem udpOut_changes (sock : UdpSock) (buff : List UInt8) (port : UInt16) :
    Keeps (Changes sc) (udpOut (ipInputDepth depth) sock buff ip port) := by
  intro w
  refine final_bind_changes (allocSkb_changes _) fun skb w1 h1 hb => ?_
  obtain ⟨rfl, rfl⟩ := allocSkb_ok.mp h1
  refine final_bind_changes (reads_changes (skbReserve_reads _ _)) fun skb w2 h2 _ => ?_
  obtain ⟨-, rfl, rfl⟩ := skbReserve_ok.mp h2
  refine final_bind_changes (reads_changes (skbPut_reads _ _)) fun skb w3 h3 _ => ?_
  obtain ⟨-, rfl, rfl⟩ := skbPut_ok.mp h3
  refine final_bind_changes (reads_changes (skbPut_reads _ _)) fun skb w4 h4 _ => ?_
  obtain ⟨-, rfl, rfl⟩ := skbPut_ok.mp h4
  refine final_bind_changes (reads_changes (derefIntfPtr_reads _)) fun intf w5 h5 _ => ?_
  obtain ⟨-, rfl⟩ := derefIntfPtr_ok.mp h5
  refine ipOutput_changes ⟨hb, rfl, rfl, ?_⟩ (Nat.lt_succ_self _) fun h => absurd h (by decide)
  show 0 + buffHeadroom + udpHdrSize + buff.length + buffTailroom
    ≤ buffHeadroom + buffTailroom + udpHdrSize + buff.length
  omega

/-- `setTcpConn` in `tcp_out`. -/
theorem setTcpConn_numbered {w : World} {c : ConnId} {conn : TcpConnectionSock} {span : UInt32}
    (hc : w.tcpConn c = some conn) (hspan : sc.sender c ∨ sc.base ≤ c ∨ span = 0) :
    Changes sc w (final (setTcpConn c { conn with
      snt := { conn.snt with nxt := conn.snt.nxt + span } }) w) :=
  .single (.numbered hc hspan)

/-- **`tcp_out`**, for a segment its caller may number. -/
theorem tcpOut_changes {c : ConnId} {buff : List UInt8} {flags : TcpFlags}
    (hspan : sc.sender c ∨ buff = [] ∧ (sc.base ≤ c ∨ seqSpan 0 flags = 0)) :
    Keeps (Changes sc) (tcpOut (ipInputDepth depth) c buff flags) := by
  intro w
  refine final_bind_changes (reads_changes (derefTcpConn_reads _)) fun conn w1 h1 _ => ?_
  obtain ⟨hconn, rfl⟩ := derefTcpConn_ok.mp h1
  refine final_bind_changes (allocSkb_changes _) fun skb w2 h2 hb => ?_
  obtain ⟨rfl, rfl⟩ := allocSkb_ok.mp h2
  refine final_bind_changes (reads_changes (derefTcpSock_reads _)) fun parent w3 h3 _ => ?_
  obtain ⟨-, rfl⟩ := derefTcpSock_ok.mp h3
  refine final_bind_changes (reads_changes (skbReserve_reads _ _)) fun skb w4 h4 _ => ?_
  obtain ⟨-, rfl, rfl⟩ := skbReserve_ok.mp h4
  refine final_bind_changes (reads_changes (skbPut_reads _ _)) fun skb w5 h5 _ => ?_
  obtain ⟨-, rfl, rfl⟩ := skbPut_ok.mp h5
  refine final_ite_changes (fun _ => pure_changes _ _) fun _ => ?_
  refine final_bind_changes (reads_changes (skbPut_reads _ _)) fun skb w6 h6 _ => ?_
  obtain ⟨-, rfl, rfl⟩ := skbPut_ok.mp h6
  have hspan' : sc.sender c ∨ sc.base ≤ c ∨ seqSpan buff.length flags = 0 := by
    refine hspan.imp_right fun h => ?_
    rw [h.1]
    exact h.2
  refine .trans (setTcpConn_numbered hconn hspan') ?_
  refine final_bind_changes (reads_changes (derefIntfPtr_reads _)) fun intf w7 h7 _ => ?_
  obtain ⟨-, rfl⟩ := derefIntfPtr_ok.mp h7
  refine ipOutput_changes ⟨hb, rfl, rfl, ?_⟩ (Nat.lt_succ_self _) fun _ => ?_
  · show 0 + buffHeadroom + tcpHdrSize + buff.length + buffTailroom
      ≤ buffHeadroom + buffTailroom + tcpHdrSize + buff.length
    omega
  · refine hspan.imp (fun h => ⟨c, h⟩) fun h => ?_
    rw [h.1]
    rfl

theorem udpSendto_changes (sockfd : Int) (buff : List UInt8) (port : UInt16) :
    Keeps (Changes sc) (udpSendto (ipInputDepth depth) sockfd buff ip port) := by
  refine bind_changes (reads_changes get_reads) fun w => ?_
  cases goodUdpSock w sockfd with
  | none => exact pure_changes _
  | some k =>
      refine bind_changes (reads_changes (derefUdpSock_reads k)) fun sock =>
        keeps_ite (pure_changes _) ?_
      exact bind_changes (udpOut_changes sock _ port) fun _ => pure_changes _

/-- **`tcp_send` numbers bytes of its own connection only.** -/
theorem tcpSend_changes {connfd : Int} (buff : List UInt8) {w : World}
    (hsender : ∀ c, goodTcpConnectionSock w connfd = some c → sc.sender c) :
    Changes sc w (final (tcpSend (ipInputDepth depth) connfd buff) w) := by
  refine final_bind_changes (reads_changes get_reads) fun w1 w2 h1 _ => ?_
  cases h1
  cases hfd : goodTcpConnectionSock w connfd with
  | none => exact pure_changes _ _
  | some c =>
      refine bind_changes (reads_changes (derefTcpConn_reads c)) (fun conn =>
        keeps_ite (pure_changes _) ?_) w
      exact bind_changes (tcpOut_changes (Or.inl (hsender c hfd))) fun _ => pure_changes _

theorem ping_changes (ipAddr : List UInt8) :
    Keeps (Changes sc) (ping (ipInputDepth depth) node ipAddr) :=
  icmpOut_changes _ _ _

theorem sendArpBroadcastRequest_changes (i : IntfId) (ip : UInt32) :
    Keeps (Changes sc) (sendArpBroadcastRequest i ip) :=
  sends_changes fun _ _ => sendArpBroadcastRequest_sends i ip

end Senders

/-! ### Connections -/

section Connections

variable {sc : Scope} {depth : Nat} {c : ConnId} {skb : SkBuff}

/-- `close_connection` resets the peer with a segment that takes no sequence number. -/
theorem closeConnection_changes (hrx : sc.rx skb) (hto : sc.accepts ipProtoTcp skb)
    (hfinds : sc.finds c) {conn : TcpConnectionSock} {w : World}
    (hseg : rxConn w skb = some c) (hconn : w.tcpConn c = some conn)
    (hstate : conn.state = .handleEstab) :
    Changes sc w (final (closeConnection (ipInputDepth depth) c) w) := by
  refine final_bind_changes_at (tcpOut_changes (Or.inr ⟨rfl, Or.inr rfl⟩) w) fun _ w1 h1 => ?_
  obtain ⟨hsocks, hsock, htcpConn⟩ := tcpOut_frame hconn h1
  -- the reset leaves the connection where it was, in the state it was in
  have hsame : ∀ {α : Type} {f : TcpConnectionSock → α},
      (∀ s : TcpSnt, f { conn with snt := s } = f conn) →
      ∀ c', (w1.tcpConn c').map f = (w.tcpConn c').map f := by
    intro α f hf c'
    rcases htcpConn with heq | heq
    · rw [heq]
    · rw [heq]
      exact map_update_of_eq hconn (hf _) c'
  have hseg1 : rxConn w1 skb = some c := by
    rw [rxConn_congr skb hsocks hsock (hsame fun _ => rfl), hseg]
  refine final_bind_changes (reads_changes (derefTcpConn_reads c)) fun conn1 w2 h2 _ => ?_
  obtain ⟨hconn1, rfl⟩ := derefTcpConn_ok.mp h2
  have hstate1 := hsame (f := TcpConnectionSock.state) (fun _ => rfl) c
  rw [hconn1, hconn] at hstate1
  refine final_bind_changes (reads_changes (derefTcpSock_reads _)) fun parent w3 h3 _ => ?_
  obtain ⟨hparent, rfl⟩ := derefTcpSock_ok.mp h3
  exact .single (.closed hrx hto hfinds hseg1 hconn1 ((Option.some.inj hstate1).trans hstate) hparent)

theorem handleEstab_changes (hrx : sc.rx skb) (hto : sc.accepts ipProtoTcp skb)
    (hfinds : sc.finds c) {w : World} (hseg : rxConn w skb = some c)
    (hstate : ∀ conn, w.tcpConn c = some conn → conn.state = .handleEstab) :
    Changes sc w (final (handleEstab (ipInputDepth depth) c skb.segment) w) := by
  refine final_bind_changes (reads_changes (readTcpSeq_reads _ _)) fun seq w1 h1 _ => ?_
  obtain ⟨-, rfl, rfl⟩ := readTcpSeq_ok.mp h1
  refine final_bind_changes (reads_changes (derefTcpConn_reads c)) fun conn w2 h2 _ => ?_
  obtain ⟨hconn, rfl⟩ := derefTcpConn_ok.mp h2
  refine final_ite_changes (fun hseq => ?_) fun _ => pure_changes _ _
  refine final_bind_changes (reads_changes (readTcpFlags_reads _ _)) fun flags w3 h3 _ => ?_
  obtain ⟨-, rfl, rfl⟩ := readTcpFlags_ok.mp h3
  refine final_ite_changes
    (fun _ => closeConnection_changes hrx hto hfinds hseg hconn (hstate conn hconn)) fun hrst => ?_
  have hrst' : skb.segment.tcpFlags.rst = false := Bool.eq_false_iff.mpr hrst
  refine final_ite_changes (fun hfin => ?_) fun hfin => ?_
  · refine .trans (.single (.finished hrx hto hfinds hseg hconn (hstate conn hconn) hseq hrst' hfin)) ?_
    refine closeConnection_changes hrx hto hfinds ?_ (Function.update_self ..) (hstate conn hconn)
    rw [← hseg]
    refine rxConn_congr skb ?_ ?_ (map_update_of_eq hconn ?_)
    all_goals rfl
  · refine final_bind_changes (reads_changes (skbPull_reads _ _)) fun s w4 h4 _ => ?_
    obtain ⟨-, -, rfl, rfl⟩ := skbPull_ok.mp h4
    exact .single (.delivered hrx hto hfinds hseg hconn (hstate conn hconn) hseq hrst'
      (Bool.eq_false_iff.mpr hfin))

theorem handleSynSent_changes (hrx : sc.rx skb) (hto : sc.accepts ipProtoTcp skb)
    (hfinds : sc.finds c) {w : World} (hseg : rxConn w skb = some c)
    (hstate : ∀ conn, w.tcpConn c = some conn → conn.state = .handleSynSent) :
    Changes sc w (final (handleSynSent c skb.segment) w) := by
  refine final_bind_changes (reads_changes (readTcpFlags_reads _ _)) fun flags w1 h1 _ => ?_
  obtain ⟨-, rfl, rfl⟩ := readTcpFlags_ok.mp h1
  refine final_ite_changes (fun hflags => ?_) fun _ => pure_changes _ _
  refine final_bind_changes (reads_changes (readTcpSeq_reads _ _)) fun seq w2 h2 _ => ?_
  obtain ⟨-, rfl, rfl⟩ := readTcpSeq_ok.mp h2
  refine final_bind_changes (reads_changes (derefTcpConn_reads c)) fun conn w3 h3 _ => ?_
  obtain ⟨hconn, rfl⟩ := derefTcpConn_ok.mp h3
  refine final_ite_changes (fun hseq => ?_) fun _ => pure_changes _ _
  exact .single (.established hrx hto hfinds hseg hconn (hstate conn hconn) hflags.1
    (Bool.eq_false_iff.mpr hflags.2) hseq)

theorem runState_changes (hrx : sc.rx skb) (hto : sc.accepts ipProtoTcp skb)
    (hfinds : sc.finds c) {w : World} (hseg : rxConn w skb = some c) :
    Changes sc w (final (runState (ipInputDepth depth) c skb.segment) w) := by
  refine final_bind_changes (reads_changes (derefTcpConn_reads c)) fun conn w1 h1 _ => ?_
  obtain ⟨hconn, rfl⟩ := derefTcpConn_ok.mp h1
  have honly : ∀ conn', w1.tcpConn c = some conn' → conn'.state = conn.state := by
    intro conn' h
    rw [hconn] at h
    rw [Option.some.inj h]
  cases hs : conn.state with
  | handleSynSent => exact handleSynSent_changes hrx hto hfinds hseg fun conn' h => (honly conn' h).trans hs
  | handleEstab => exact handleEstab_changes hrx hto hfinds hseg fun conn' h => (honly conn' h).trans hs

theorem followIpHdr_changes (hrx : sc.rx skb) :
    Keeps (Changes sc) (followIpHdr skb.segment) :=
  fun _ => .single (.readIpHdr hrx)

/-- Filling in a connection and linking it to its socket. -/
theorem setTcpConn_link {α : Type} {k : SockId} {sock : TcpSock} {conn : TcpConnectionSock}
    {w : World} {rest : M α} (hk : w.tcpSock k = some sock) :
    final (do
      setTcpConn c conn
      let sock ← derefTcpSock k
      setTcpSock k { sock with conns := c :: sock.conns }
      rest) w
      = final rest { w with
          tcpConn := Function.update w.tcpConn c (some conn)
          tcpSock := Function.update w.tcpSock k (some { sock with conns := c :: sock.conns }) } := by
  have hderef : derefTcpSock k { w with tcpConn := Function.update w.tcpConn c (some conn) }
      = .ok sock { w with tcpConn := Function.update w.tcpConn c (some conn) } :=
    derefTcpSock_ok.mpr ⟨hk, rfl⟩
  rw [final_bind_of_ok (a := ()) (setTcpConn_ok.mpr rfl), final_bind_of_ok hderef,
    final_bind_of_ok (a := ()) (setTcpSock_ok.mpr rfl)]

theorem handleNewConnection_changes (hrx : sc.rx skb) (hto : sc.accepts ipProtoTcp skb) {k : SockId} {sock : TcpSock} {w : World}
    (hsock : rxSock w skb = some k) (hk : w.tcpSock k = some sock)
    (hlisten : sock.listening = true) (hnew : rxConn w skb = none)
    (hsyn : skb.segment.tcpFlags.syn = true) :
    Changes sc w (final (handleNewConnection (ipInputDepth depth) k skb.segment) w) := by
  intro hb
  unfold handleNewConnection
  rw [final_bind_of_ok (allocId_ok.mpr ⟨rfl, rfl⟩),
    final_bind_of_ok (followIpHdr_ok.mpr ⟨rfl, rfl⟩)]
  -- a header that cannot be read stops the run before the connection is filled in
  have hstop : Changes sc w
      { w with nextId := w.nextId + 1, trace := w.trace ++ [.readIpHdr skb.segment] } :=
    .trans (.single (.sends (allocId_sends w))) (followIpHdr_changes hrx _)
  rcases final_bind_reads (readU32_reads skb.segment _) _ _ with h | ⟨remoteIp, h1, heq⟩
  · rw [h]
    exact hstop hb
  rw [heq]
  rcases final_bind_reads (readU16_reads skb.segment _) _ _ with h | ⟨srcPort, h2, heq⟩
  · rw [h]
    exact hstop hb
  rw [heq]
  rcases final_bind_reads (readU16_reads skb.segment _) _ _ with h | ⟨wndSz, h3, heq⟩
  · rw [h]
    exact hstop hb
  rw [heq]
  rcases final_bind_reads (readU32_reads skb.segment _) _ _ with h | ⟨seq, h4, heq⟩
  · rw [h]
    exact hstop hb
  rw [heq]
  obtain ⟨-, rfl, -⟩ := readU32_ok.mp h1
  obtain ⟨-, rfl, -⟩ := readU16_ok.mp h2
  obtain ⟨-, rfl, -⟩ := readU16_ok.mp h3
  obtain ⟨-, rfl, -⟩ := readU32_ok.mp h4
  rw [setTcpConn_link (w := { w with nextId := w.nextId + 1,
                                     trace := w.trace ++ [.readIpHdr skb.segment] }) hk]
  refine Changes.trans (.single (.connected hrx hto hb hsock hk hlisten hnew hsyn)) ?_ hb
  exact bind_changes (tcpOut_changes (Or.inr ⟨rfl, Or.inl hb⟩)) (fun _ => pure_changes _) _

theorem tcpSockInput_changes (hrx : sc.rx skb) (hto : sc.accepts ipProtoTcp skb) {k : SockId}
    {w : World} (hfinds : ∀ c, rxConn w skb = some c → sc.finds c)
    (hsock : rxSock w skb = some k) :
    Changes sc w (final (tcpSockInput (ipInputDepth depth) k skb.segment) w) := by
  refine final_bind_changes (reads_changes (derefTcpSock_reads k)) fun sock w1 h1 _ => ?_
  obtain ⟨hk, rfl⟩ := derefTcpSock_ok.mp h1
  refine final_bind_changes (followIpHdr_changes hrx) fun iph w2 h2 _ => ?_
  obtain ⟨hiph, rfl⟩ := followIpHdr_ok.mp h2
  refine final_bind_changes (reads_changes (readU32_reads _ _)) fun srcIp w3 h3 _ => ?_
  obtain ⟨-, rfl, rfl⟩ := readU32_ok.mp h3
  refine final_bind_changes (reads_changes (readU16_reads _ _)) fun srcPort w4 h4 _ => ?_
  obtain ⟨-, rfl, rfl⟩ := readU16_ok.mp h4
  refine final_bind_changes (reads_changes get_reads) fun w5 w6 h5 _ => ?_
  cases h5
  have hmatch : rxConn { w1 with trace := w1.trace ++ [.readIpHdr skb.segment] } skb
      = findMatchingConnection { w1 with trace := w1.trace ++ [.readIpHdr skb.segment] } sock
          (skb.segment.mem.load32 (iph + 12))
          (UInt16.ofNat (ntohs (skb.segment.mem.load16 skb.segment.data).toNat)) := by
    obtain rfl := Option.some.inj hiph
    exact rxConn_of_sock hsock hk
  split
  · rename_i c hfind
    exact runState_changes hrx hto (hfinds c (hmatch.trans hfind)) (hmatch.trans hfind)
  · rename_i hfind
    refine final_ite_changes (fun hlisten => ?_) fun _ => pure_changes _ _
    refine final_bind_changes (reads_changes (readTcpFlags_reads _ _)) fun flags w7 h7 _ => ?_
    obtain ⟨-, rfl, rfl⟩ := readTcpFlags_ok.mp h7
    refine final_ite_changes (fun hflags => ?_) fun _ => pure_changes _ _
    exact handleNewConnection_changes hrx hto hsock hk hlisten (hmatch.trans hfind) hflags.1

theorem tcpInput_changes (hrx : sc.rx skb) (hto : sc.accepts ipProtoTcp skb) {w : World}
    (hfinds : ∀ c, rxConn w skb = some c → sc.finds c) :
    Changes sc w (final (tcpInput (ipInputDepth depth) skb.segment) w) := by
  unfold tcpInput
  split
  · exact reads_changes (throw_reads _) _
  · rename_i i hi
    refine final_bind_changes (reads_changes (readU16_reads _ _)) fun dstPort w1 h1 _ => ?_
    obtain ⟨-, rfl, rfl⟩ := readU16_ok.mp h1
    refine final_bind_changes (reads_changes get_reads) fun w2 w3 h2 _ => ?_
    cases h2
    have hsock : rxSock w1 skb = tcpSocksManagerFind w1 i skb.segment.tcpDst := by
      rw [rxSock, show skb.intf = some i from hi, Option.bind_some]
    split
    · exact pure_changes _ _
    · rename_i k hfind
      exact tcpSockInput_changes hrx hto hfinds (hsock.trans hfind)

end Connections

/-! ### The other protocols and the frame itself -/

section Input

variable {sc : Scope} {depth : Nat} {skb : SkBuff}

theorem icmpInput_changes (hrx : sc.rx skb) :
    Keeps (Changes sc) (icmpInput (ipInputDepth depth) skb.segment) := by
  refine keeps_ite (pure_changes _) ?_
  refine bind_changes (reads_changes (readU8_reads _ _)) fun type => ?_
  refine bind_changes (reads_changes (readU8_reads _ _)) fun code => keeps_ite ?_ ?_
  · refine bind_changes (reads_changes (derefIntfPtr_reads _)) fun intf => ?_
    refine bind_changes (followIpHdr_changes hrx) fun iph => ?_
    refine bind_changes (reads_changes (readU32_reads _ _)) fun src => ?_
    refine bind_changes (icmpOut_changes _ _ _) fun _ => ?_
    exact bind_changes (sends_changes fun _ _ => freeSkb_sends _) fun _ => pure_changes _
  · exact bind_changes (sends_changes fun _ _ => freeSkb_sends _) fun _ => pure_changes _

theorem udpInput_changes (hrx : sc.rx skb) (hto : sc.accepts ipProtoUdp skb) :
    Keeps (Changes sc) (udpInput skb.segment) := by
  intro w
  unfold udpInput
  split
  · exact reads_changes (throw_reads _) _
  · rename_i i hi
    refine final_bind_changes (reads_changes (readU16_reads _ _)) fun dstPort w1 h1 _ => ?_
    obtain ⟨-, rfl, rfl⟩ := readU16_ok.mp h1
    refine final_bind_changes (reads_changes get_reads) fun w2 w3 h2 _ => ?_
    cases h2
    have hsock : rxUdpSock w1 skb = udpSocksManagerFind w1 i skb.segment.udpDst := by
      rw [rxUdpSock, show skb.intf = some i from hi, Option.bind_some]
    simp only
    split
    · exact pure_changes _ _
    · rename_i k hfind
      refine final_bind_changes (reads_changes (skbPull_reads _ _)) fun s w4 h4 _ => ?_
      obtain ⟨-, -, rfl, rfl⟩ := skbPull_ok.mp h4
      refine final_bind_changes (reads_changes (derefUdpSock_reads k)) fun sock w5 h5 _ => ?_
      obtain ⟨hk, rfl⟩ := derefUdpSock_ok.mp h5
      exact .single (.queued hrx hto (hsock.trans hfind) hk)

/-- **`ip_input` of a received packet.** -/
theorem ipInput_changes (hrx : sc.rx skb) (hto : sc.accepts skb.ipPacket.proto skb) {w : World}
    (hfinds : ∀ c, rxConn w skb = some c → sc.finds c) :
    Changes sc w (final (ipInputDepth depth skb.ipPacket) w) := by
  cases depth with
  | zero => exact reads_changes (throw_reads _) w
  | succ depth =>
      refine final_bind_changes (reads_changes (readU8_reads _ _)) fun proto w1 h1 _ => ?_
      obtain ⟨-, rfl, rfl⟩ := readU8_ok.mp h1
      have hpull : ∀ handler : SkBuff → M Bool,
          (∀ t, rxConn t skb = rxConn w1 skb → Changes sc t (final (handler skb.segment) t)) →
          Changes sc w1 (final (do
            let s ← skbPull skb.ipPacket ipHdrSize
            log (.transport skb.ipPacket.proto s)
            handler s) w1) := by
        intro handler hhandler
        refine final_bind_changes (reads_changes (skbPull_reads _ _)) fun s w2 h2 _ => ?_
        obtain ⟨-, -, rfl, rfl⟩ := skbPull_ok.mp h2
        exact .trans (.single (.transport hrx hto)) (hhandler _ rfl)
      refine final_ite_changes (fun _ => hpull _ fun t _ => icmpInput_changes hrx t) fun _ => ?_
      refine final_ite_changes (fun htcp => hpull _ fun t ht => ?_) fun _ => ?_
      · refine tcpInput_changes hrx ?_ fun c hc => hfinds c (ht.symm.trans hc)
        rw [← htcp]
        exact hto
      refine final_ite_changes (fun hudp => hpull _ fun t _ => ?_) fun _ => ?_
      · refine udpInput_changes hrx ?_ t
        rw [← hudp]
        exact hto
      · exact pure_changes _ _

/-- **`ip_forward` of a received packet.** -/
theorem ipForward_changes (hrx : sc.rx skb) {w : World}
    (hlocal : ∀ i intf, skb.intf = some i → w.intf i = some intf →
      isIpLocal w intf.node skb.ipPacket.dstIp = false) :
    Changes sc w (final (ipForward skb.ipPacket) w) := by
  by_cases hcase : ∃ i intf rt out, 1 < (skb.ipPacket.mem (skb.ipPacket.data + 8)).toNat ∧
      skb.intf = some i ∧ w.intf i = some intf ∧
      rtLookupLpm (w.rtTable intf.node) skb.ipPacket.dstIp = some rt ∧ w.intf rt.intf = some out
  · obtain ⟨i, intf, rt, out, httl, hi, hintf, hrt, hout⟩ := hcase
    refine .single (.forwards hrx hi hintf httl (hlocal i intf hi hintf) hrt hout ?_)
    refine ipForward_sends hlocal ?_
    intro i' intf' rt' out' _ hi' hintf' hrt' hout'
    obtain ⟨rfl, rfl⟩ := intfPtr_unique hi hintf hi' hintf'
    obtain rfl : rt = rt' := Option.some.inj (hrt.symm.trans hrt')
    obtain rfl : out = out' := Option.some.inj (hout.symm.trans hout')
    rfl
  · -- an expired packet, or one with no route to a live interface, is not passed on
    refine .single (.sends (ipForward_sends hlocal ?_))
    intro i intf rt out httl hi hintf hrt hout
    exact absurd ⟨i, intf, rt, out, httl, hi, hintf, hrt, hout⟩ hcase

theorem ipPreroute_changes (hrx : sc.rx skb) {w : World}
    (hto : ∀ i intf, skb.intf = some i → w.intf i = some intf →
      isIpLocal w intf.node skb.ipPacket.dstIp = true → sc.accepts skb.ipPacket.proto skb)
    (hfinds : ∀ c, rxConn w skb = some c → sc.finds c) :
    Changes sc w (final (ipPreroute skb.ipPacket) w) := by
  refine final_bind_changes (reads_changes (derefIntfPtr_reads _)) fun intf w1 h1 _ => ?_
  obtain ⟨⟨i, hi, hintf⟩, rfl⟩ := derefIntfPtr_ok.mp h1
  refine final_bind_changes (reads_changes (readU32_reads _ _)) fun dstIp w2 h2 _ => ?_
  obtain ⟨-, rfl, rfl⟩ := readU32_ok.mp h2
  refine final_bind_changes (reads_changes get_reads) fun w3 w4 h3 _ => ?_
  cases h3
  refine final_ite_changes (fun hlocal => ipInput_changes hrx (hto i intf hi hintf hlocal) hfinds)
    fun hlocal => ?_
  refine ipForward_changes hrx fun j intf' hj hintf' => ?_
  obtain ⟨rfl, rfl⟩ := intfPtr_unique hi hintf hj hintf'
  exact Bool.eq_false_iff.mpr hlocal

/-- Flushing the rest of an entry's pending list. -/
theorem flushPending_changes (n : NodeId) (ip : UInt32) (mac : MacAddr) (pending : List SkBuff)
    {w : World} {entry : ArpEntry} (hfind : arpTableLookup (w.arpTable n) ip = some entry)
    (hpending : entry.pendingPkts = pending) :
    Changes sc w (final (flushPending n ip mac pending) w) := by
  induction pending generalizing w entry with
  | nil => exact pure_changes _ _
  | cons skb rest ih =>
      have hflushed : ∀ {t : World}, Sends (fun s => s = skb) (fun _ => False)
          (w.modifyArp n ip fun entry => { entry with pendingPkts := rest }) t → Change sc w t :=
        fun h => .flushed hfind hpending h
      unfold flushPending
      rw [final_bind_of_ok (a := ⟨⟩) (modifyArpEntry_ok.mpr rfl)]
      cases skb.intf with
      | none => exact .single (hflushed (Sends.refl _ _ _))
      | some i =>
          refine final_bind_changes_at (.single (hflushed (ethernetOutput_sends (K := fun s => s = skb) rfl _)))
            fun result w1 h1 => ?_
          have hemits := (ethernetOutput_emits (P := fun _ => True) (fun _ _ => trivial)
            trivial).ok h1
          refine final_bind_changes_at (sends_changes (fun K L => ?_) _) fun _ w2 h2 => ?_
          · exact emits_sends isBuffer_sent (freeSkbIf_emits (fun _ h => h) _ _)
          have hemits' := (freeSkbIf_emits (P := fun _ => True) (fun _ _ => trivial) _ _).ok h2
          have hnext : arpTableLookup (w2.arpTable n) ip
              = some { entry with pendingPkts := rest } := by
            rw [hemits'.arpTable, hemits.arpTable, arpTableLookup_modifyArp, hfind]
            · rfl
            · intro entry
              rfl
          exact ih hnext rfl

theorem arpTableUpdateFromArpReply_changes (n : NodeId) (skb : SkBuff) (hdr : Nat) :
    Keeps (Changes sc) (arpTableUpdateFromArpReply n skb hdr) := by
  refine bind_changes (reads_changes (readU32_reads _ _)) fun ip => ?_
  intro w
  refine final_bind_changes (reads_changes get_reads) fun w1 w2 h1 _ => ?_
  cases h1
  cases hfind : arpTableLookup (w.arpTable n) ip with
  | none => exact pure_changes _ _
  | some entry =>
      refine final_bind_changes (reads_changes (readMac_reads _ _)) fun mac w3 h3 _ => ?_
      obtain ⟨-, -, rfl⟩ := readMac_ok.mp h3
      refine final_bind_changes_at (.single .resolved) fun _ w4 h4 => ?_
      rw [modifyArpEntry_ok] at h4
      subst h4
      have hresolved : arpTableLookup ((w3.modifyArp n ip fun entry =>
          { entry with resolved := true, mac := mac }).arpTable n) ip
            = some { entry with resolved := true, mac := mac } := by
        rw [arpTableLookup_modifyArp, hfind]
        · rfl
        · intro entry
          rfl
      exact flushPending_changes n ip mac _ hresolved rfl

theorem arpDispatch_changes (i : IntfId) (skb : SkBuff) (opcode : UInt16) :
    Keeps (Changes sc) (arpDispatch i skb opcode) := by
  refine keeps_ite ?_ (keeps_ite ?_ (pure_changes _))
  · exact sends_changes fun _ _ =>
      emits_sends isArp_sent (processArpBroadcastRequest_emits i skb skb.data)
  · refine bind_changes (reads_changes (derefIntf_reads i)) fun intf => ?_
    exact bind_changes (arpTableUpdateFromArpReply_changes _ _ _) fun _ => pure_changes _

theorem freeSkbIf_changes (c : Bool) (skb : SkBuff) : Keeps (Changes sc) (freeSkbIf c skb) :=
  sends_changes fun _ _ => emits_sends isBuffer_sent (freeSkbIf_emits (fun _ h => h) c skb)

theorem arpInput_changes (skb : SkBuff) : Keeps (Changes sc) (arpInput skb) := by
  refine keeps_ite (pure_changes _) ?_
  refine bind_changes (reads_changes (readU16_reads _ _)) fun opcode => ?_
  cases skb.intf with
  | none => exact reads_changes (throw_reads _)
  | some i =>
      refine bind_changes (arpDispatch_changes i skb opcode) fun ok => ?_
      exact bind_changes (freeSkbIf_changes ok skb) fun _ => pure_changes _

theorem ethernetInput_changes (hrx : sc.rx skb) {w : World} {i : IntfId} {intf : Intf}
    (hi : skb.intf = some i) (hintf : w.intf i = some intf) (hconfig : intf.isIpAddrConfig = true)
    (hto : IpAccepted w skb → sc.accepts skb.ipPacket.proto skb)
    (hfinds : ∀ c, rxConn w skb = some c → sc.finds c) :
    Changes sc w (final (ethernetInput skb) w) := by
  refine final_ite_changes (fun _ => pure_changes _ _) fun hlen => ?_
  refine final_bind_changes (reads_changes (derefIntfPtr_reads _)) fun intf' w1 h1 _ => ?_
  obtain ⟨⟨i', hi', hintf'⟩, rfl⟩ := derefIntfPtr_ok.mp h1
  obtain ⟨rfl, rfl⟩ := intfPtr_unique hi hintf hi' hintf'
  refine final_bind_changes (reads_changes (readMac_reads _ _)) fun dstMac w2 h2 _ => ?_
  obtain ⟨-, rfl, rfl⟩ := readMac_ok.mp h2
  refine final_ite_changes (fun _ => pure_changes _ _) fun hmac => ?_
  refine final_bind_changes (reads_changes (readU16_reads _ _)) fun type w3 h3 _ => ?_
  obtain ⟨-, rfl, rfl⟩ := readU16_ok.mp h3
  refine final_ite_changes (fun _ => ?_) fun _ => final_ite_changes (fun htype => ?_) fun _ => ?_
  · exact bind_changes (reads_changes (skbPull_reads _ _)) (fun s => arpInput_changes s) _
  · refine final_bind_changes (reads_changes (skbPull_reads _ _)) fun s w4 h4 _ => ?_
    obtain ⟨-, -, rfl, rfl⟩ := skbPull_ok.mp h4
    refine ipPreroute_changes hrx (fun j intf' hj hintf' hlocal => hto ?_) hfinds
    obtain ⟨rfl, rfl⟩ := intfPtr_unique hi hintf hj hintf'
    exact ⟨i, intf, hi, hintf, hconfig, Nat.le_of_not_lt hlen, Decidable.not_not.mp hmac, htype,
      hlocal⟩
  · exact pure_changes _ _

theorem pktReceive_changes (hrx : sc.rx skb) {w : World}
    (hto : IpAccepted w skb → sc.accepts skb.ipPacket.proto skb)
    (hfinds : ∀ c, rxConn w skb = some c → sc.finds c) :
    Changes sc w (final (pktReceive skb) w) := by
  refine final_bind_changes (reads_changes (derefIntfPtr_reads _)) fun intf w1 h1 _ => ?_
  obtain ⟨⟨i, hi, hintf⟩, rfl⟩ := derefIntfPtr_ok.mp h1
  exact final_ite_changes (fun hconfig => ethernetInput_changes hrx hi hintf hconfig hto hfinds)
    fun _ => pure_changes _ _

end Input

/-! ### Whole calls -/

/-- The process once `recv_task` has filled a buffer. -/
def World.received (w : World) (i : IntfId) (frame : List UInt8) : World :=
  { w with
    nextId := w.nextId + 1
    trace := w.trace ++ [.alloc w.nextId, .received i (recvBuffer w.nextId i frame)] }

theorem recvSkb_eq (i : IntfId) (frame : List UInt8) (w : World) :
    recvSkb i frame w = .ok (recvBuffer w.nextId i frame) (w.received i frame) := by
  simp only [recvSkb, bind_ok_iff, allocSkb_ok, skbReserve_ok, skbPut_ok, log_ok, run_pure,
    EStateM.Result.ok.injEq]
  refine ⟨_, _, ⟨rfl, rfl⟩, _, _, ⟨?_, rfl, rfl⟩, _, _, ⟨?_, rfl, rfl⟩, ⟨⟩, _, rfl, ?_, ?_⟩
  · simp only [freshSkb, recvBufferSize, recvReservedHeadRoom]
    omega
  · simp only [freshSkb, skbTailroom, recvBufferSize, recvReservedHeadRoom, List.length_take]
    omega
  · simp only [freshSkb, skbTailroom, recvBuffer, SkBuff.copyIn, recvBufferSize,
      recvReservedHeadRoom, Nat.zero_add]
  · simp only [World.received, freshSkb, skbTailroom, recvBuffer, SkBuff.copyIn, recvBufferSize,
      recvReservedHeadRoom, Nat.zero_add, List.append_assoc, List.cons_append, List.nil_append]

/-- What the receive thread may use for one frame. -/
def frameScope (w : World) (i : IntfId) (frame : List UInt8) : Scope where
  base := w.nextId + 1
  rx skb := skb = recvBuffer w.nextId i frame
  accepts proto skb := skb = recvBuffer w.nextId i frame ∧ TakenTo w proto skb
  finds c := rxConn w (recvBuffer w.nextId i frame) = some c
  sender _ := False

/-- **Handling a frame makes changes only**, once its buffer is filled. -/
theorem recvFrame_changes (i : IntfId) (frame : List UInt8) (w : World) :
    Changes (frameScope w i frame) (w.received i frame) (final (recvFrame i frame) w) := by
  refine final_bind_changes_at ?_ fun skb w1 h1 => ?_
  · rw [final_of_ok (recvSkb_eq i frame w)]
    exact .refl _ _
  · rw [recvSkb_eq] at h1
    cases h1
    exact final_bind_changes_at (pktReceive_changes rfl (fun hip => ⟨rfl, hip, rfl⟩) fun _ hc => hc)
      fun ok w2 _ => freeSkbIf_changes _ _ w2

end SimpleTcpip
