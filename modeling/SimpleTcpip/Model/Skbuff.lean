/-
Socket buffers: skbuff.h.

The asserts are kept: a push, pull, put or reserve that leaves the buffer stops the
run.  `len` is a `size_t`, so a pull of more than `len` wraps.

Header fields are read through `readU8`, `readU16` and `readU32`, which name an
offset from `head` as the source's header pointers do.
-/
import SimpleTcpip.Model.World

namespace SimpleTcpip

/-- `a - b` in `size_t`. -/
def sizeSub (a b : Nat) : Nat := if b ≤ a then a - b else 2 ^ 64 + a - b

/-- `alloc_skb`. -/
def allocSkb (size : Nat) : M SkBuff := do
  let id ← allocId
  log (.alloc id)
  pure { id, intf := none, ipHdr := none, udpHdr := none, len := 0, data := 0, tail := 0,
         limit := size, mem := fun _ => 0 }

/-- `free_skb`. -/
def freeSkb (skb : SkBuff) : M Unit := log (.free skb.id)

/-- `if (c) free_skb(skb)`. -/
def freeSkbIf (c : Bool) (skb : SkBuff) : M Unit := if c then freeSkb skb else pure ()

/-- `skb_reserve`. -/
def skbReserve (skb : SkBuff) (size : Nat) : M SkBuff :=
  if skb.tail + size ≤ skb.limit then
    pure { skb with data := skb.data + size, tail := skb.tail + size }
  else throw .assertion

/-- `skb_push`; the new header is at the new `data`. -/
def skbPush (skb : SkBuff) (size : Nat) : M SkBuff :=
  if size ≤ skb.data then
    pure { skb with data := skb.data - size, len := skb.len + size }
  else throw .assertion

/-- `skb_pull`. -/
def skbPull (skb : SkBuff) (size : Nat) : M SkBuff := do
  let w ← get
  if w.checked && skb.len < size then throw .lenUnderflow
  else if skb.data + size ≤ skb.tail then
    pure { skb with data := skb.data + size, len := sizeSub skb.len size }
  else throw .assertion

/-- `skb_put`; the new room is at the old `tail`. -/
def skbPut (skb : SkBuff) (size : Nat) : M SkBuff :=
  if skb.tail + size ≤ skb.limit then
    pure { skb with tail := skb.tail + size, len := skb.len + size }
  else throw .assertion

/-- `skb_tailroom`. -/
def skbTailroom (skb : SkBuff) : Nat := skb.limit - skb.tail

/-- The head room `recv_task` reserves: a received packet starts there. -/
def recvReservedHeadRoom : Nat := 4

/-- The checker's test: the `n` bytes from `p` on lie in the packet. -/
def touch (skb : SkBuff) (p n : Nat) : M Unit := do
  let w ← get
  if w.checked && (p < recvReservedHeadRoom || skb.tail < p + n) then throw .overread
  else pure ()

def readU8 (skb : SkBuff) (p : Nat) : M UInt8 := do
  touch skb p 1
  pure (skb.mem p)

def readU16 (skb : SkBuff) (p : Nat) : M UInt16 := do
  touch skb p 2
  pure (skb.mem.load16 p)

def readU32 (skb : SkBuff) (p : Nat) : M UInt32 := do
  touch skb p 4
  pure (skb.mem.load32 p)

def readMac (skb : SkBuff) (p : Nat) : M MacAddr := do
  touch skb p macAddrSize
  pure (MacAddr.load skb.mem p)

/-- `skb->ip_hdr`, followed by a transport protocol or a socket call. -/
def followIpHdr (skb : SkBuff) : M Nat := do
  log (.readIpHdr skb)
  match skb.ipHdr with
  | some p => pure p
  | none => throw .nullIpHdr

end SimpleTcpip
