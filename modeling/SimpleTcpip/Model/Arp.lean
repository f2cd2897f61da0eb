/-
Address resolution: arp.c.

The fields of `struct arp_hdr` are at the offsets 0 (`hw_type`), 2 (`proto_type`),
4 (`hw_addr_len`), 5 (`proto_addr_len`), 6 (`opcode`), 8 (`sender_hw_addr`),
14 (`sender_proto_addr`), 18 (`target_hw_addr`) and 24 (`target_proto_addr`).
-/
import SimpleTcpip.Lib.Lists
import SimpleTcpip.Model.Link

namespace SimpleTcpip

def arpOpRequest : Nat := 1
def arpOpReply : Nat := 2
def arpProtoEth : Nat := 1
def arpProtoIp : Nat := 0x0800
def arpHdrSize : Nat := 28

def buffHeadroom : Nat := 60
def buffTailroom : Nat := 46

/-! ### The table -/

/-- `arp_table_lookup`: the first entry of an address. -/
def arpTableLookup (table : List ArpEntry) (ip : UInt32) : Option ArpEntry :=
  table.find? fun entry => entry.ip == ip

/-- Write to the entry `arp_table_lookup` returns. -/
def arpTableModify (table : List ArpEntry) (ip : UInt32) (f : ArpEntry → ArpEntry) :
    List ArpEntry :=
  table.modifyFirst (fun entry => entry.ip == ip) f

/-- A new entry as `calloc` and `init_arp_entry` leave it. -/
def initArpEntry (ip : UInt32) (intf : IntfId) : ArpEntry :=
  { ip, mac := MacAddr.zero, intf, resolved := false, pendingPkts := [] }

/-- `arp_table_entry_add`. -/
def arpTableEntryAdd (n : NodeId) (entry : ArpEntry) : M Unit :=
  modify fun w => { w with arpTable := Function.update w.arpTable n (entry :: w.arpTable n) }

/-- Write to an entry of a node's table. -/
def modifyArpEntry (n : NodeId) (ip : UInt32) (f : ArpEntry → ArpEntry) : M Unit :=
  modify fun w =>
    { w with arpTable := Function.update w.arpTable n (arpTableModify (w.arpTable n) ip f) }

/-! ### Sending -/

/-- The header `send_arp_broadcast_request` and `send_arp_reply_msg` write. -/
def fillArpHdr (skb : SkBuff) (hdr : Nat) (opcode : Nat) (senderHw : MacAddr) (senderIp : UInt32)
    (targetHw : MacAddr) (targetIp : UInt32) : SkBuff :=
  let skb := skb.store16 hdr (UInt16.ofNat (htons arpProtoEth))
  let skb := skb.store16 (hdr + 2) (UInt16.ofNat (htons arpProtoIp))
  let skb := skb.store8 (hdr + 4) (UInt8.ofNat macAddrSize)
  let skb := skb.store8 (hdr + 5) (UInt8.ofNat ipAddrSize)
  let skb := skb.store16 (hdr + 6) (UInt16.ofNat (htons opcode))
  let skb := skb.copyIn (hdr + 8) senderHw.addr
  let skb := skb.store32 (hdr + 14) senderIp
  let skb := skb.copyIn (hdr + 18) targetHw.addr
  skb.store32 (hdr + 24) targetIp

/-- The buffer both senders allocate: the header is pushed into the head room. -/
def allocArpSkb : M SkBuff := do
  let skb ← allocSkb (buffHeadroom + buffTailroom + arpHdrSize)
  let skb ← skbReserve skb buffHeadroom
  skbPush skb arpHdrSize

/-- `send_arp_broadcast_request`. -/
def sendArpBroadcastRequest (i : IntfId) (ip : UInt32) : M Unit := do
  let skb ← allocArpSkb
  let intf ← derefIntf i
  let skb := fillArpHdr skb skb.data arpOpRequest intf.macAddr intf.ipAddr MacAddr.zero ip
  let ok ← ethernetOutput i MacAddr.broadcast ethProtoArp skb
  freeSkbIf (!ok) skb

/-- `send_arp_reply_msg`; `shdr` is the request's header in `req`. -/
def sendArpReplyMsg (i : IntfId) (req : SkBuff) (shdr : Nat) : M Unit := do
  let skb ← allocArpSkb
  let intf ← derefIntf i
  let hw ← readMac req (shdr + 8)
  let ip ← readU32 req (shdr + 14)
  let skb := fillArpHdr skb skb.data arpOpReply intf.macAddr intf.ipAddr hw ip
  let _ ← ethernetOutput i hw ethProtoArp skb
  pure ()

/-! ### Receiving -/

/-- `process_arp_broadcast_request`. -/
def processArpBroadcastRequest (i : IntfId) (skb : SkBuff) (hdr : Nat) : M Bool := do
  let intf ← derefIntf i
  let target ← readU32 skb (hdr + 24)
  if intf.ipAddr ≠ target then pure false
  else do
    sendArpReplyMsg i skb hdr
    pure true

/-- The loop of `arp_table_update_from_arp_reply`, from the head of the pending list. -/
def flushPending (n : NodeId) (ip : UInt32) (mac : MacAddr) : List SkBuff → M Unit
  | [] => pure ()
  | skb :: rest => do
      modifyArpEntry n ip fun entry => { entry with pendingPkts := rest }
      match skb.intf with
      | none => throw .nullDeref
      | some i =>
          let result ← ethernetOutput i mac ethProtoIp skb
          freeSkbIf (!result) skb
          flushPending n ip mac rest

/-- `arp_table_update_from_arp_reply` on the table of node `n`. -/
def arpTableUpdateFromArpReply (n : NodeId) (skb : SkBuff) (hdr : Nat) : M Unit := do
  let ip ← readU32 skb (hdr + 14)
  match arpTableLookup ((← get).arpTable n) ip with
  | none => pure ()
  | some entry => do
      let mac ← readMac skb (hdr + 8)
      modifyArpEntry n ip fun entry => { entry with resolved := true, mac := mac }
      flushPending n ip mac entry.pendingPkts

/-- `process_arp_reply_msg`. -/
def processArpReplyMsg (i : IntfId) (skb : SkBuff) (hdr : Nat) : M Bool := do
  let intf ← derefIntf i
  arpTableUpdateFromArpReply intf.node skb hdr
  pure true

/-- The cases of `arp_input` on `hdr->opcode`. -/
def arpDispatch (i : IntfId) (skb : SkBuff) (opcode : UInt16) : M Bool :=
  if opcode.toNat = htons arpOpRequest then processArpBroadcastRequest i skb skb.data
  else if opcode.toNat = htons arpOpReply then processArpReplyMsg i skb skb.data
  else pure false

/-- `arp_input`. -/
def arpInput (skb : SkBuff) : M Bool :=
  if skb.len < arpHdrSize then pure false
  else do
    let opcode ← readU16 skb (skb.data + 6)
    match skb.intf with
    | none => throw .nullDeref
    | some i =>
        let ok ← arpDispatch i skb opcode
        freeSkbIf ok skb
        pure ok

end SimpleTcpip
