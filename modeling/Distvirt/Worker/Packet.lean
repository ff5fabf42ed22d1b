import Distvirt.Worker.Flow

/-! The frames of the fabric as bytes: a fabric header of three bytes and an IP packet. The readers
come after a check of the length, so that the default of `getD` is never read. -/

namespace Distvirt.Worker.Packet

abbrev Bytes := List UInt8

def fabricHdrSz : Nat := 3

def ipProtoUdp : Nat := 17

structure Ipv4Addr where
  a : UInt8
  b : UInt8
  c : UInt8
  d : UInt8
deriving DecidableEq, Repr

def byte (bytes : Bytes) (i : Nat) : Nat := (bytes.getD i 0).toNat

/-- `u16::from_be_bytes` of two bytes. -/
def word (bytes : Bytes) (i : Nat) : Nat := byte bytes i * 256 + byte bytes (i + 1)

def addrAt (bytes : Bytes) (i : Nat) : Ipv4Addr :=
  ⟨bytes.getD i 0,bytes.getD (i + 1) 0,bytes.getD (i + 2) 0,bytes.getD (i + 3) 0⟩

def Ipv4Addr.hi (ip : Ipv4Addr) : Nat := ip.a.toNat * 256 + ip.b.toNat

def Ipv4Addr.lo (ip : Ipv4Addr) : Nat := ip.c.toNat * 256 + ip.d.toNat

def Ipv4Addr.value (ip : Ipv4Addr) : Nat := ip.hi * 65536 + ip.lo

/-- `FabricPacket::new`. -/
def accepts (raw : Bytes) : Bool := fabricHdrSz + 20 ≤ raw.length

def ipPacket (raw : Bytes) : Bytes := raw.drop fabricHdrSz

def ipv4Src (raw : Bytes) : Ipv4Addr := addrAt raw (fabricHdrSz + 12)

def ipv4Dst (raw : Bytes) : Ipv4Addr := addrAt raw (fabricHdrSz + 16)

def ipProtocol (raw : Bytes) : Nat := byte raw (fabricHdrSz + 9)

/-- The header length that the first byte of the IP packet gives, whatever it is. -/
def ihl (raw : Bytes) : Nat := byte raw fabricHdrSz % 16 * 4

def transportPorts (raw : Bytes) : Option (Nat × Nat) :=
  let start := fabricHdrSz + ihl raw
  if ipProtocol raw ≠ ipProtoTcp ∧ ipProtocol raw ≠ ipProtoUdp then none
  else if raw.length < start + 4 then none
  else some (word raw start,word raw (start + 2))

def tcpFlags (raw : Bytes) : Option Nat :=
  let start := fabricHdrSz + ihl raw
  if ipProtocol raw ≠ ipProtoTcp then none
  else if raw.length < start + 14 then none
  else some (byte raw (start + 13))

def header (raw : Bytes) : Option Header :=
  if accepts raw then
    some ⟨(ipv4Src raw).value,(ipv4Dst raw).value,ipProtocol raw,transportPorts raw,tcpFlags raw⟩
  else none

end Distvirt.Worker.Packet
