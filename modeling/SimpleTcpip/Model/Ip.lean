/-
Routing and output: ip.c without its input half, and the address lookups of net.c.

The fields of `struct ip_hdr` are at the offsets 0 (`hlen` and `ver`), 2
(`total_len`), 8 (`ttl`), 9 (`proto`), 10 (`hcksum`), 12 (`src_ip`) and 16
(`dst_ip`).

`ip_postroute` hands a packet for one of the node's own addresses to `ip_input`,
which is defined after the protocols it dispatches to.  Every function from which
`ip_postroute` can be reached therefore takes `ip_input` as its first argument.
-/
import SimpleTcpip.Model.Arp

namespace SimpleTcpip

def ipProtoIcmp : UInt8 := 1
def ipProtoTcp : UInt8 := 6
def ipProtoUdp : UInt8 := 17
def ipHdrSize : Nat := 20

/-! ### Addresses and prefixes -/

/--
`(1<<mask) - 1` for a mask of type `char`.  The shift is defined by the C standard
for 0 to 30; beyond that the count is taken modulo 32 and the difference wraps, as on
the x86 target.
-/
def maskBits (mask : Int8) : UInt32 := (1 : UInt32) <<< UInt32.ofNat mask.toUInt8.toNat - 1

/-- `INT_IP_MASKED`, and what `MASK_IP` assigns. -/
def intIpMasked (ip : UInt32) (mask : Int8) : UInt32 := ip &&& maskBits mask

/-- `IP_NET_EQ`. -/
def ipNetEq (ip1 ip2 : UInt32) (mask : Int8) : Bool := intIpMasked ip1 mask == intIpMasked ip2 mask

/-- `apply_mask`: what it writes to `str_prefix`. -/
def applyMask (pre : List UInt8) (mask : Int8) : List UInt8 :=
  convertIpFromIntToStr (intIpMasked (convertIpFromStrToInt pre) mask)

/-- The interfaces in a node's slots, in slot order. -/
def nodeIntfs (w : World) (n : NodeId) : List IntfId :=
  match w.node n with
  | none => []
  | some node => (List.finRange maxIntfsPerNode).filterMap node.intfs

/--
`is_ip_local`.  `destroy_interface` frees the interface of a tap and leaves it in its slot.  The
source then compares an address in memory that is no longer allocated; here such a slot, which
holds no live interface, is passed over.
-/
def isIpLocal (w : World) (n : NodeId) (ip : UInt32) : Bool :=
  (nodeIntfs w n).any fun i => (w.intf i).any fun intf => intf.ipAddr == ip

/-- `_get_matching_interface`. -/
def getMatchingInterface (w : World) (n : NodeId) (ip : UInt32) : Option IntfId :=
  (nodeIntfs w n).find? fun i =>
    (w.intf i).any fun intf => intf.isIpAddrConfig && intf.ipAddr == ip

/-- The test `_get_matching_subnet_interface` makes of an interface in L3 mode. -/
def isInSubnet (intf : Intf) (ip : UInt32) : Bool :=
  ip &&& maskBits intf.mask == intf.ipAddr &&& maskBits intf.mask

/-- `_get_matching_subnet_interface`. -/
def getMatchingSubnetInterface (w : World) (n : NodeId) (ip : UInt32) : Option IntfId :=
  (nodeIntfs w n).find? fun i =>
    (w.intf i).any fun intf => intf.isIpAddrConfig && isInSubnet intf ip

/-- `get_node_if_by_name`: `strncmp` over `MAX_IF_NAME_SIZE` bytes. -/
def getNodeIfByName (w : World) (n : NodeId) (ifName : List UInt8) : Option IntfId :=
  (nodeIntfs w n).find? fun i =>
    (w.intf i).any fun intf => intf.name.take maxIfNameSize == ifName.take maxIfNameSize

/-! ### The routing table -/

/-- The candidates `rt_lookup_lpm` carries through its loop. -/
structure LpmState where
  maxMask : Int8
  maxEntry : Option RtEntry
  defaultEntry : Option RtEntry

/-- The body of the loop of `rt_lookup_lpm`. -/
def lpmStep (ip : UInt32) (s : LpmState) (entry : RtEntry) : LpmState :=
  if entry.dst = 0 then { s with defaultEntry := some entry }
  else if ipNetEq ip entry.dst entry.mask ∧ s.maxMask < entry.mask then
    { s with maxMask := entry.mask, maxEntry := some entry }
  else s

/-- `rt_lookup_lpm`. -/
def rtLookupLpm (table : List RtEntry) (ip : UInt32) : Option RtEntry :=
  let s := table.foldl (lpmStep ip) { maxMask := 0, maxEntry := none, defaultEntry := none }
  s.maxEntry <|> s.defaultEntry

/-- `rt_table_add_route`. -/
def rtTableAddRoute (n : NodeId) (dst : UInt32) (mask : Int8) (next : UInt32) (i : IntfId) :
    M Unit :=
  modify fun w => { w with
    rtTable := Function.update w.rtTable n ({ dst, mask, next, intf := i } :: w.rtTable n) }

/-! ### The header checksum -/

/-- The `hlen` nibble of the header at `hdr`. -/
def ipHlen (m : Memory) (hdr : Nat) : Nat := (m hdr).toNat % 16

/-- `calc_ip_hcksum` of the header at `hdr`. -/
def calcIpHcksum (m : Memory) (hdr : Nat) : UInt16 :=
  calcChecksum16 (fun i => m (hdr + i)) (ipHlen m hdr * 4)

/-- `check_ip_hcksum`. -/
def checkIpHcksum (m : Memory) (hdr : Nat) : Bool := calcIpHcksum m hdr == 0

/-- `fill_ip_hcksum`. -/
def fillIpHcksum (skb : SkBuff) (hdr : Nat) : M SkBuff := do
  let b ← readU8 skb hdr
  touch skb hdr (b.toNat % 16 * 4)
  pure (skb.store16 (hdr + 10) (UInt16.ofNat (htons (calcIpHcksum skb.mem hdr).toNat)))

/-! ### Output -/

/-- The entry of a next hop, added to the table if it is missing. -/
def arpEntryFor (node : NodeId) (i : IntfId) (targetIp : UInt32) : M ArpEntry := do
  match arpTableLookup ((← get).arpTable node) targetIp with
  | some entry => pure entry
  | none => do
      arpTableEntryAdd node (initArpEntry targetIp i)
      pure (initArpEntry targetIp i)

/-- The end of `ip_postroute`: wait for the next hop's address, or send. -/
def ipNeighbourOutput (node : NodeId) (i : IntfId) (targetIp : UInt32) (skb : SkBuff) :
    M Bool := do
  let arpEntry ← arpEntryFor node i targetIp
  if ¬ arpEntry.resolved then do
    log (.parked node targetIp skb)
    modifyArpEntry node targetIp fun entry =>
      { entry with pendingPkts := skb :: entry.pendingPkts }
    sendArpBroadcastRequest i targetIp
    pure true
  else ethernetOutput i arpEntry.mac ethProtoIp skb

/-- `ip_postroute` once the route is known. -/
def ipRouteOutput (ipInput : SkBuff → M Bool) (node : NodeId) (skb : SkBuff) (dstIp : UInt32)
    (rtEntry : RtEntry) : M Bool := do
  let hdr := skb.data
  let skb := { skb with intf := some rtEntry.intf }
  let intf ← derefIntf rtEntry.intf
  let skb := skb.store32 (hdr + 12) intf.ipAddr
  let skb ← fillIpHcksum skb hdr
  if isIpLocal (← get) node dstIp then ipInput skb
  else
    let targetIp := if rtEntry.next = 0 then dstIp else rtEntry.next
    ipNeighbourOutput node rtEntry.intf targetIp skb

/-- `ip_postroute`. -/
def ipPostroute (ipInput : SkBuff → M Bool) (node : NodeId) (skb : SkBuff) : M Bool := do
  let dstIp ← readU32 skb (skb.data + 16)
  match rtLookupLpm ((← get).rtTable node) dstIp with
  | none => pure false
  | some rtEntry =>
      if skb.intf.isSome ∧ skb.intf ≠ some rtEntry.intf then pure false
      else ipRouteOutput ipInput node skb dstIp rtEntry

/-- `init_ip_hdr`. -/
def initIpHdr (skb : SkBuff) (hdr : Nat) : SkBuff :=
  let skb := skb.copyIn hdr (List.replicate ipHdrSize 0)
  let skb := skb.store8 hdr 0x45
  skb.store8 (hdr + 8) 64

/-- `ip_output`. -/
def ipOutput (ipInput : SkBuff → M Bool) (node : NodeId) (ip : UInt32) (proto : UInt8)
    (skb : SkBuff) : M Bool := do
  log (.ipOutput node ip proto skb)
  let skb ← skbPush skb ipHdrSize
  let hdr := skb.data
  let skb := initIpHdr skb hdr
  let skb := skb.store32 (hdr + 16) ip
  let skb := skb.store8 (hdr + 9) proto
  let skb := skb.store16 (hdr + 2) (UInt16.ofNat (htons skb.len))
  ipPostroute ipInput node skb

end SimpleTcpip
