/-
Echo.

`icmp_input` answers a request with a message of its own: type and code of a reply, the bytes
behind the request's header, and a checksum over the whole of it.  It answers nothing else,
not even a reply, and it gives the received buffer back either way.
-/
import SimpleTcpip.Proofs.Custody
import SimpleTcpip.Proofs.Detection
import SimpleTcpip.Proofs.Reception

namespace SimpleTcpip

open Fallible OnesComplement

/-! ### Messages -/

namespace SkBuff

/-- The type of the ICMP message in a buffer. -/
def icmpType (skb : SkBuff) : UInt8 := skb.mem skb.data

/-- The code of the ICMP message in a buffer. -/
def icmpCode (skb : SkBuff) : UInt8 := skb.mem (skb.data + 1)

/-- The bytes behind the header of the ICMP message in a buffer. -/
def icmpRest (skb : SkBuff) : List UInt8 :=
  skb.mem.read (skb.data + icmpHdrSize) (skb.len - icmpHdrSize)

/-- `icmp_input` answers the message. -/
def IsEchoRequest (skb : SkBuff) : Prop :=
  skb.icmpType = icmpEchoRequestType ∧ skb.icmpCode = icmpEchoRequestCode

instance (skb : SkBuff) : Decidable skb.IsEchoRequest := inferInstanceAs (Decidable (_ ∧ _))

end SkBuff

/-- A message answers an echo request. -/
structure EchoReply (request reply : SkBuff) : Prop where
  type : reply.icmpType = icmpEchoReplyType
  code : reply.icmpCode = icmpEchoReplyCode
  len : reply.len = request.len
  rest : reply.icmpRest = request.icmpRest
  cksum : checkIcmpCksum reply.mem reply.data reply.len = true

section Message

variable (id : SkbId) (type code : UInt8) (payload : List UInt8)

theorem icmpMessage_data : (icmpMessage id type code payload).data = 60 := rfl

theorem icmpMessage_len :
    (icmpMessage id type code payload).len = icmpHdrSize + payload.length := Nat.zero_add _

/-- The writes of `icmp_out`, in order, up to the checksum field. -/
theorem icmpMessage_mem {q : Nat} (hq : q < 62 ∨ 64 ≤ q) : (icmpMessage id type code payload).mem q
    = (((Memory.store8 (fun _ => 0) 60 type).store8 61 code).write 64 payload) q :=
  Memory.store16_outside _ _ (show q < 62 ∨ 62 + 2 ≤ q from hq)

theorem icmpType_icmpMessage : (icmpMessage id type code payload).icmpType = type := by
  rw [SkBuff.icmpType, icmpMessage_data, icmpMessage_mem _ _ _ _ (by omega),
    Memory.write_outside _ _ (by omega), Memory.store8_outside _ _ (by omega), Memory.store8_self]

theorem icmpCode_icmpMessage : (icmpMessage id type code payload).icmpCode = code := by
  rw [SkBuff.icmpCode, icmpMessage_data, icmpMessage_mem _ _ _ _ (by omega),
    Memory.write_outside _ _ (by omega), Memory.store8_self]

theorem icmpRest_icmpMessage : (icmpMessage id type code payload).icmpRest = payload := by
  have hlen : (icmpMessage id type code payload).len - icmpHdrSize = payload.length := by
    rw [icmpMessage_len]
    omega
  rw [SkBuff.icmpRest, hlen, icmpMessage_data]
  show (icmpMessage id type code payload).mem.read 64 payload.length = payload
  rw [Memory.read_congr fun i _ => icmpMessage_mem id type code payload (q := 64 + i) (by omega),
    Memory.read_write_same]

/-- **The checksum of `icmp_out` verifies over the whole message.** -/
theorem checkIcmpCksum_icmpMessage (hsize : icmpHdrSize + payload.length ≤ 131074) :
    checkIcmpCksum (icmpMessage id type code payload).mem (icmpMessage id type code payload).data
      (icmpMessage id type code payload).len = true := by
  refine checkIcmpCksum_filled (Nat.le_trans (Nat.le_add_right _ _) (Nat.le_add_left _ _)) ?_ ?_
  · show 0 + (icmpHdrSize + payload.length) ≤ 131074
    rwa [Nat.zero_add]
  · -- the field is as `alloc_skb` left it
    show word (((Memory.store8 (fun _ => 0) 60 type).store8 61 code).write 64 payload) 62 = 0
    unfold word
    rw [Memory.write_outside _ _ (by omega), Memory.write_outside _ _ (by omega),
      Memory.store8_outside _ _ (by omega), Memory.store8_outside _ _ (by omega),
      Memory.store8_outside _ _ (by omega), Memory.store8_outside _ _ (by omega)]
    rfl

end Message

/-- **What `icmp_out` makes of the bytes behind a request's header.** -/
theorem echoReply_icmpMessage (id : SkbId) {request : SkBuff} (hlen : icmpHdrSize ≤ request.len)
    (hsize : request.len ≤ 131074) : EchoReply request
      (icmpMessage id icmpEchoReplyType icmpEchoReplyCode request.icmpRest) := by
  have hrest : icmpHdrSize + request.icmpRest.length = request.len := by
    rw [SkBuff.icmpRest, Memory.length_read]
    omega
  refine ⟨icmpType_icmpMessage .., icmpCode_icmpMessage .., ?_, icmpRest_icmpMessage .., ?_⟩
  · rw [icmpMessage_len, hrest]
  · refine checkIcmpCksum_icmpMessage _ _ _ _ ?_
    rwa [hrest]

/-! ### What is handed to `ip_output` -/

/-- A call of `ip_output`. -/
structure OutputCall where
  node : NodeId
  ip : UInt32
  proto : UInt8
  skb : SkBuff

/-- The call an event records. -/
def Event.outputCall : Event → Option OutputCall
  | .ipOutput node ip proto skb => some ⟨node, ip, proto, skb⟩
  | _ => none

/-- The calls of `ip_output` a run made, in order. -/
def outputCalls (w w' : World) : List OutputCall := (newEvents w w').filterMap Event.outputCall

theorem outputCalls_of_trace {w w' : World} {es : List Event} (h : w'.trace = w.trace ++ es) :
    outputCalls w w' = es.filterMap Event.outputCall := by
  rw [outputCalls, newEvents_append h]

theorem outputCall_of_sent {K : SkBuff → Prop} {L : SkbId → Prop} {e : Event} (h : e.Sent K L) :
    e.outputCall = none := by
  cases e with
  | ipOutput n ip proto s => exact absurd h id
  | _ => rfl

section Input

variable {w : World} {skb : SkBuff} {ipInput : SkBuff → M Bool}

/-- **`icmp_out` to another node returns, and calls `ip_output` once.** -/
theorem icmpOut_calls {node : NodeId} {ip : UInt32} (depth : Nat) (type code : UInt8)
    (payload : List UInt8) (hg : GraphOk w) (hremote : isIpLocal w node ip = false) :
    ∃ r w' es, icmpOut (ipInputDepth depth) node ip type code payload w = .ok r w' ∧
      w'.trace = w.trace ++ es ∧ es.filterMap Event.outputCall =
        [⟨node, ip, ipProtoIcmp, icmpMessage w.nextId type code payload⟩] := by
  have hcompletes : Completes (icmpOut (ipInputDepth depth) node ip type code payload) w :=
    completes_of_faultsIn (icmpOut_faultsIn (Or.inr hg) (Or.inr hremote))
  obtain ⟨r, w', hrun⟩ := hcompletes
  have hout := hrun
  rw [icmpOut_run] at hout
  obtain ⟨sent, w1, h1, hrest⟩ := bind_ok_iff.mp hout
  have hsends : Sends (fun _ => True) (fun _ => True) (w.allocated.output node ip ipProtoIcmp
      (icmpMessage w.nextId type code payload)) w1 := by
    rw [← final_of_ok h1]
    exact ipOutput_sends ⟨rfl, trivial⟩ fun _ _ _ _ => trivial
  -- a message that was refused is given back
  have hfree : Sends (fun _ => True) (fun _ => True) w1 w' := by
    refine (keeps_ite (pure_sends _) (bind_sends (freeSkb_sends _) fun _ => pure_sends _)).ok hrest
  obtain ⟨es, he, hes⟩ := (hsends.trans hfree).trace
  have hnone : es.filterMap Event.outputCall = [] := by
    rw [List.filterMap_eq_nil_iff]
    intro e hmem
    exact outputCall_of_sent (hes e hmem)
  refine ⟨r, w', [.alloc w.nextId, .ipOutput node ip ipProtoIcmp
    (icmpMessage w.nextId type code payload)] ++ es, hrun, ?_, ?_⟩
  · rw [he, ← List.append_assoc, List.append_cons]
    rfl
  · rw [List.filterMap_append, hnone, List.append_nil]
    rfl

/-- `icmp_input` of a message in a received packet: `icmp_out` if it is a request, and the buffer
is given back. -/
theorem icmpInput_run {i : IntfId} {intf : Intf} (hskb : Filled skb)
    (hlen : ethHdrSize + ipHdrSize + icmpHdrSize ≤ skb.len) (hi : skb.intf = some i)
    (hintf : w.intf i = some intf) :
    icmpInput ipInput skb.segment w =
      if skb.segment.IsEchoRequest then (do
        let _ ← icmpOut ipInput intf.node skb.ipPacket.srcIp icmpEchoReplyType icmpEchoReplyCode
          skb.segment.icmpRest
        freeSkb skb.segment
        pure true : M Bool) (w.followed skb)
      else .ok true (w.freed skb.segment) := by
  have hdata := hskb.data
  have htail := hskb.tail
  have hhdr : ethHdrSize + ipHdrSize ≤ skb.len := Nat.le_of_add_right_le hlen
  have hseg := hskb.segment hhdr
  have hseglen : icmpHdrSize ≤ skb.segment.len := by
    rw [segment_len hhdr]
    omega
  have htype : Readable w skb.segment skb.segment.data 1 := hseg.readable_start fun _ =>
    Nat.le_trans (by decide) hseglen
  have hcode : Readable w skb.segment (skb.segment.data + 1) 1 := hseg.readable fun _ =>
    Nat.le_trans (by decide) hseglen
  have hderef : derefIntfPtr skb.segment.intf w = .ok intf w :=
    derefIntfPtr_ok.mpr ⟨⟨i, hi, hintf⟩, rfl⟩
  have hsrc : Readable (w.followed skb) skb.segment (skb.data + ethHdrSize + 12) 4 := by
    intro _
    rw [ethHdrSize, ipHdrSize] at *
    show recvReservedHeadRoom ≤ skb.data + 14 + 12 ∧ skb.data + 14 + 12 + 4 ≤ skb.tail
    omega
  unfold icmpInput
  rw [if_neg (Nat.not_lt.mpr hseglen), run_bind_ok (readU8_ok.mpr ⟨htype, rfl, rfl⟩),
    run_bind_ok (readU8_ok.mpr ⟨hcode, rfl, rfl⟩)]
  change (if skb.segment.IsEchoRequest then _ else _ : M Bool) w = _
  by_cases hreq : skb.segment.IsEchoRequest
  · rw [if_pos hreq, if_pos hreq, run_bind_ok hderef, run_bind_ok (followIpHdr_ok.mpr ⟨rfl, rfl⟩)]
    change (readU32 skb.segment (skb.data + ethHdrSize + 12) >>= _) (w.followed skb) = _
    rw [run_bind_ok (readU32_ok.mpr ⟨hsrc, rfl, rfl⟩)]
    rfl
  · rw [if_neg hreq, if_neg hreq]
    rfl

/-- The call of `ip_output` a message leads to, with the buffer `icmp_out` allocates. -/
def echoCalls (node : NodeId) (id : SkbId) (skb : SkBuff) : List OutputCall :=
  if skb.segment.IsEchoRequest then
    [⟨node, skb.ipPacket.srcIp, ipProtoIcmp,
      icmpMessage id icmpEchoReplyType icmpEchoReplyCode skb.segment.icmpRest⟩]
  else []

/-- **`icmp_input` of a message from another node returns true**, and the last thing it does is
to give the buffer back. -/
theorem icmpInput_calls {i : IntfId} {intf : Intf} (depth : Nat) (hskb : Filled skb)
    (hlen : ethHdrSize + ipHdrSize + icmpHdrSize ≤ skb.len) (hi : skb.intf = some i)
    (hintf : w.intf i = some intf) (hg : GraphOk w)
    (hremote : isIpLocal w intf.node skb.ipPacket.srcIp = false) :
    ∃ w' es, icmpInput (ipInputDepth depth) skb.segment w = .ok true w' ∧
      w'.trace = w.trace ++ (es ++ [.free skb.id]) ∧
      es.filterMap Event.outputCall = echoCalls intf.node w.nextId skb := by
  rw [icmpInput_run hskb hlen hi hintf, echoCalls]
  by_cases hreq : skb.segment.IsEchoRequest
  · rw [if_pos hreq, if_pos hreq]
    have hg' : GraphOk (w.followed skb) := hg.of_frame rfl rfl rfl
    obtain ⟨r, w1, es, hrun, htrace, hcalls⟩ := icmpOut_calls depth icmpEchoReplyType
      icmpEchoReplyCode skb.segment.icmpRest hg' hremote
    refine ⟨w1.freed skb.segment, .readIpHdr skb.segment :: es, ?_, ?_, ?_⟩
    · rw [run_bind_ok hrun]
      rfl
    · change w1.trace ++ [.free skb.id] = _
      rw [htrace, List.append_assoc]
      exact List.append_assoc _ [_] _
    · exact hcalls
  · rw [if_neg hreq, if_neg hreq]
    exact ⟨w.freed skb.segment, [], rfl, rfl, rfl⟩

end Input

/-- What became of a message: the calls of `ip_output` it led to, and its buffer. -/
structure Echoed (node : NodeId) (skb : SkBuff) (w w' : World) : Prop where
  request : skb.segment.IsEchoRequest → ∃ reply,
    outputCalls w w' = [⟨node, skb.ipPacket.srcIp, ipProtoIcmp, reply⟩] ∧
      EchoReply skb.segment reply
  other : ¬ skb.segment.IsEchoRequest → outputCalls w w' = []
  freed : freeCount (newEvents w w') skb.id = 1

/-- **A message from another node that `icmp_input` gets is answered once if it is a request,
and not at all otherwise**; its buffer is given back once, and the result is true. -/
theorem icmpInput_echo {w : World} (hw : Reachable w) {i : IntfId} {intf : Intf}
    {frame : List UInt8} (hintf : w.intf i = some intf)
    (htaken : TakenTo w ipProtoIcmp (recvBuffer w.nextId i frame))
    (hlen : ethHdrSize + ipHdrSize + icmpHdrSize ≤ (recvBuffer w.nextId i frame).len)
    (hremote : isIpLocal w intf.node (recvBuffer w.nextId i frame).ipPacket.srcIp = false) :
    ∃ w', icmpInput (ipInputDepth 1) (recvBuffer w.nextId i frame).segment
        ((w.received i frame).transports (recvBuffer w.nextId i frame)) = .ok true w' ∧
      runOp (.recvFrame i frame) w = .ok .unit w' ∧
      Echoed intf.node (recvBuffer w.nextId i frame) w w' := by
  have hskb : Filled (recvBuffer w.nextId i frame) := filled_recvBuffer w.nextId i frame
  have hhdr : ethHdrSize + ipHdrSize ≤ (recvBuffer w.nextId i frame).len :=
    Nat.le_of_add_right_le hlen
  have hsize : (recvBuffer w.nextId i frame).len ≤ recvBufferSize - recvReservedHeadRoom :=
    List.length_take_le _ _
  have hreceive : pktReceive (recvBuffer w.nextId i frame) (w.received i frame)
      = icmpInput (ipInputDepth 1) (recvBuffer w.nextId i frame).segment
          ((w.received i frame).transports (recvBuffer w.nextId i frame)) := by
    rw [pktReceive_accepted (w := w.received i frame) htaken.1 hskb hhdr]
    exact (ipInput_run hskb hhdr).trans (if_pos htaken.2)
  have hgiven := received_given hw.accounted.fresh i frame
  generalize hbuf : recvBuffer w.nextId i frame = skb at *
  have hid : skb.id = w.nextId := by rw [← hbuf]; rfl
  have hi : skb.intf = some i := by rw [← hbuf]; rfl
  have hg : GraphOk ((w.received i frame).transports skb) := hw.graphOk.of_frame rfl rfl rfl
  obtain ⟨w', es, hrun, htrace, hcalls⟩ :=
    icmpInput_calls (w := (w.received i frame).transports skb) 1 hskb hlen hi hintf hg hremote
  have hnew : w'.trace = w.trace ++ ([.alloc w.nextId, .received i skb,
      .transport skb.ipPacket.proto skb.segment] ++ es ++ [.free skb.id]) := by
    rw [htrace, ← hbuf]
    change w.trace ++ [_, _] ++ [_] ++ _ = _
    simp only [List.append_assoc, List.cons_append, List.nil_append]
  have hout : outputCalls w w'
      = echoCalls intf.node ((w.received i frame).transports skb).nextId skb := by
    rw [outputCalls_of_trace hnew, ← hcalls, List.filterMap_append, List.filterMap_append]
    exact List.append_nil _
  refine ⟨w', hrun, ?_, fun hreq => ?_, fun hreq => ?_, ?_⟩
  · change (recvFrame i frame >>= fun _ => pure Ret.unit) w = _
    have hframe : recvFrame i frame w = .ok ⟨⟩ w' := by
      unfold recvFrame
      rw [run_bind_ok (recvSkb_eq i frame w), hbuf, run_bind_ok (hreceive.trans hrun)]
      rfl
    rw [run_bind_ok hframe]
    rfl
  · refine ⟨_, by rw [hout, echoCalls, if_pos hreq], echoReply_icmpMessage _ ?_ ?_⟩
    · rw [segment_len hhdr]
      omega
    · rw [segment_len hhdr, recvBufferSize] at *
      omega
  · rw [hout, echoCalls, if_neg hreq]
  · -- the buffer has one holder afterwards, and it was given back at least once
    have hlog : SparesAll (w.received i frame) ((w.received i frame).transports skb) :=
      log_spares hgiven.fresh fun _ => rfl
    have hid' : skb.segment.id = skb.id := rfl
    have htakes := icmpInput_takes hid' (hlog.given hgiven) hrun
    obtain ⟨holder, hone⟩ := htakes.outcome
    have hzero : freeCount w.trace skb.id = 0 :=
      congrFun (hw.accounted.fresh.tokens skb.id (Nat.le_of_eq hid.symm)) .freed
    have hcount : freeCount w'.trace skb.id = (Pi.single holder 1 : Holder → Nat) .freed :=
      congrFun hone .freed
    rw [newEvents_append hnew]
    rw [hnew, freeCount_append, hzero, Nat.zero_add] at hcount
    rw [hcount]
    by_cases hfreed : holder = .freed
    · rw [hfreed, Pi.single_eq_same]
    · rw [Pi.single_eq_of_ne (Ne.symm hfreed), freeCount_append] at hcount
      simp [Event.frees] at hcount

/-- An echo request from `192.168.89.2` to `192.168.89.1` with three bytes behind its header. -/
def Fixture.requestFrame : List UInt8 :=
  List.replicate 12 0xff ++ [0x08, 0x00] ++
    [0x45, 0, 0, 27, 0, 0, 0, 0, 64, 1, 0, 0, 192, 168, 89, 2, 192, 168, 89, 1] ++
    [8, 0, 0, 0, 7, 8, 9]

theorem icmpInput_echo_fixture : ∃ w' reply,
    runOp (.recvFrame 0 Fixture.requestFrame) (Fixture.after []) = .ok .unit w' ∧
      outputCalls (Fixture.after []) w' =
        [⟨0, Fixture.addr 192 168 89 2, ipProtoIcmp, reply⟩] ∧
      reply.icmpRest = [7, 8, 9] := by
  have hreach : Reachable (Fixture.after []) := Fixture.reachable_after []
  have hnode : ((Fixture.after []).intf 0).any (fun intf => intf.node == 0) = true := by
    decide +kernel
  have htaken : TakenTo (Fixture.after []) ipProtoIcmp
      (recvBuffer (Fixture.after []).nextId 0 Fixture.requestFrame) := by
    decide +kernel
  have hlen : ethHdrSize + ipHdrSize + icmpHdrSize
      ≤ (recvBuffer (Fixture.after []).nextId 0 Fixture.requestFrame).len := by
    decide +kernel
  have hsrc : (recvBuffer (Fixture.after []).nextId 0 Fixture.requestFrame).ipPacket.srcIp
      = Fixture.addr 192 168 89 2 := by
    decide +kernel
  have hremote : isIpLocal (Fixture.after []) 0 (Fixture.addr 192 168 89 2) = false := by
    decide +kernel
  have hreq : (recvBuffer (Fixture.after []).nextId 0 Fixture.requestFrame).segment.IsEchoRequest := by
    decide +kernel
  have hrest : (recvBuffer (Fixture.after []).nextId 0 Fixture.requestFrame).segment.icmpRest
      = [7, 8, 9] := by
    decide +kernel
  generalize Fixture.after [] = w at *
  obtain ⟨intf, hintf, hnode⟩ := (Option.any_eq_true _ _).mp hnode
  have hnode : intf.node = 0 := beq_iff_eq.mp hnode
  obtain ⟨w', -, hrun, hechoed⟩ := icmpInput_echo hreach hintf htaken hlen
    (by rw [hnode, hsrc]; exact hremote)
  obtain ⟨reply, hcalls, hreply⟩ := hechoed.request hreq
  rw [hnode, hsrc] at hcalls
  exact ⟨w', reply, hrun, hcalls, hreply.rest.trans hrest⟩

end SimpleTcpip
