/-
Addresses, byte order, the checksum and the address scanner: address.h, utils.h
and utils.c.

An IP address is the 32-bit number the source keeps in `iaddr`, its first octet in
the least significant byte.  The byte-order macros are computed on the promoted
integer, as the C preprocessor leaves them; an assignment to a narrower field
truncates afterwards.
-/
import SimpleTcpip.Lib.Memory

namespace SimpleTcpip

def macAddrSize : Nat := 6
def ipAddrSize : Nat := 4

/-- `struct mac_addr`: six bytes. -/
structure MacAddr where
  addr : List UInt8
  size : addr.length = macAddrSize
  deriving DecidableEq

namespace MacAddr

@[ext] theorem ext {a b : MacAddr} (h : a.addr = b.addr) : a = b := by
  cases a
  cases b
  cases h
  rfl

@[simp] theorem length_addr (m : MacAddr) : m.addr.length = 6 := m.size

/-- The six bytes a buffer holds at `p`. -/
def load (m : Memory) (p : Nat) : MacAddr := ⟨m.read p macAddrSize, by simp⟩

/-- The address `calloc` leaves. -/
def zero : MacAddr := ⟨List.replicate macAddrSize 0, by simp⟩

/-- `layer2_fill_with_broadcast_mac`. -/
def broadcast : MacAddr := ⟨List.replicate macAddrSize 0xff, by simp⟩

end MacAddr

/-- `IS_MAC_BROADCAST_ADDR`. -/
def isMacBroadcastAddr (mac : MacAddr) : Bool := mac.addr.all (· == 0xff)

/-- `HTONS`. -/
def htons (n : Nat) : Nat := (n >>> 8) + ((n &&& 0xff) <<< 8)

/-- `NTOHS`. -/
def ntohs (n : Nat) : Nat := htons n

/-- `HTONL`. -/
def htonl (n : UInt32) : UInt32 :=
  n >>> (24 : UInt32) + (n >>> (8 : UInt32) &&& (0x0000ff00 : UInt32))
    + (n <<< (8 : UInt32) &&& (0x00ff0000 : UInt32))
    + (n <<< (24 : UInt32) &&& (0xff000000 : UInt32))

/-- `NTOHL`. -/
def ntohl (n : UInt32) : UInt32 := htonl n

/-- One fold of the accumulator of `calc_checksum_16`. -/
def foldCarry (result : UInt32) : UInt32 :=
  (result &&& (0xffff : UInt32)) + result >>> (16 : UInt32)

/-- `calc_checksum_16` over the `size` bytes `buff` points to. -/
def calcChecksum16 (buff : Memory) (size : Nat) : UInt16 :=
  let result : UInt32 := (List.range (size / 2)).foldl
    (fun result i => result + UInt32.ofNat (ntohs (buff.load16 (2 * i)).toNat)) 0
  let result := if size % 2 = 1 then result + (buff (size - 1)).toUInt32 <<< (8 : UInt32)
    else result
  let result := foldCarry (foldCarry result)
  (~~~result &&& (0xffff : UInt32)).toUInt16

/-! ### `sscanf(ip_addr, "%u.%u.%u.%u", ...)`

A `%u` conversion skips white space, takes a sign and a run of decimal digits, and
converts with `strtoul`: a value beyond an `unsigned long` saturates, a minus sign
negates in it, and the `unsigned int` stored keeps its low 32 bits.
-/

def isSpace (c : UInt8) : Bool := c == 32 || (9 ≤ c && c ≤ 13)

def isDigit (c : UInt8) : Bool := 48 ≤ c && c ≤ 57

/-- `strtoul` of a sign and a run of digits. -/
def strtoul (negative : Bool) (digits : List UInt8) : Nat :=
  let value := digits.foldl (fun acc c => 10 * acc + (c.toNat - 48)) 0
  if 2 ^ 64 ≤ value then 2 ^ 64 - 1
  else if negative then (2 ^ 64 - value) % 2 ^ 64
  else value

/-- The sign in front of a number, and what follows it. -/
def scanSign (s : List UInt8) : Bool × List UInt8 :=
  match s with
  | 45 :: rest => (true, rest)
  | 43 :: rest => (false, rest)
  | _ => (false, s)

/-- One `%u` conversion: the number and what is left of the string. -/
def scanUnsigned (s : List UInt8) : Option (UInt32 × List UInt8) :=
  let (negative, s) := scanSign (s.dropWhile isSpace)
  let digits := s.takeWhile isDigit
  if digits.isEmpty then none
  else some (UInt32.ofNat (strtoul negative digits), s.dropWhile isDigit)

/-- The literal `.` of the format. -/
def scanDot (s : List UInt8) : Option (List UInt8) :=
  match s with
  | 46 :: rest => some rest
  | _ => none

/-- The four numbers the format stores when `sscanf` returns 4. -/
def scanDottedQuad (s : List UInt8) : Option (UInt32 × UInt32 × UInt32 × UInt32) := do
  let (a, s) ← scanUnsigned s
  let s ← scanDot s
  let (b, s) ← scanUnsigned s
  let s ← scanDot s
  let (c, s) ← scanUnsigned s
  let s ← scanDot s
  let (d, _) ← scanUnsigned s
  some (a, b, c, d)

/-- `convert_ip_from_str_to_int`. -/
def convertIpFromStrToInt (ipAddr : List UInt8) : UInt32 :=
  match scanDottedQuad ipAddr with
  | none => 0
  | some (a, b, c, d) =>
      if 255 < a || 255 < b || 255 < c || 255 < d then 0
      else UInt32.ofNat (a.toNat + 256 * (b.toNat + 256 * (c.toNat + 256 * d.toNat)))

/-- `%u` in the format of a `sprintf`. -/
def printUnsigned (n : UInt32) : List UInt8 :=
  (Nat.toDigits 10 n.toNat).map fun c => UInt8.ofNat c.toNat

/-- `convert_ip_from_int_to_str`, without the zero at the end. -/
def convertIpFromIntToStr (ipAddr : UInt32) : List UInt8 :=
  printUnsigned (ipAddr &&& (0xff : UInt32)) ++ [46]
    ++ (printUnsigned (ipAddr >>> (8 : UInt32) &&& (0xff : UInt32)) ++ [46]
    ++ (printUnsigned (ipAddr >>> (16 : UInt32) &&& (0xff : UInt32)) ++ [46]
    ++ printUnsigned (ipAddr >>> (24 : UInt32) &&& (0xff : UInt32))))

/-- `test_convert_ip_from_str_to_int`: the text is `192.168.1.1`. -/
example : convertIpFromStrToInt [49, 57, 50, 46, 49, 54, 56, 46, 49, 46, 49] = 16885952 := by
  decide

end SimpleTcpip
