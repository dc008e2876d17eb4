import Pesigitg.Base.Endian

/-!
# Network constants and addresses

The header sizes, protocol numbers and address types that the XDP program and
the daemon share.
-/

namespace Pesigitg

open Base

@[simp, reducible] def ethHdrLen : Nat := 14
@[simp, reducible] def ipv4MinHdrLen : Nat := 20
@[simp, reducible] def ipv6HdrLen : Nat := 40
@[simp, reducible] def udpHdrLen : Nat := 8

@[simp] def ethPIp : UInt16 := 0x0800
@[simp] def ethPIpv6 : UInt16 := 0x86dd

@[simp] def ipprotoIcmp : UInt8 := 1
@[simp] def ipprotoHopopts : UInt8 := 0
@[simp] def ipprotoUdp : UInt8 := 17
@[simp] def ipprotoRouting : UInt8 := 43
@[simp] def ipprotoFragment : UInt8 := 44
@[simp] def ipprotoIcmpv6 : UInt8 := 58
@[simp] def ipprotoDstopts : UInt8 := 60

/-- Size of an ICMP or ICMPv6 error header. -/
@[simp, reducible] def icmpHdrLen : Nat := 8

@[simp] def icmpDestUnreach : UInt8 := 3
@[simp] def icmpTimeExceeded : UInt8 := 11

@[simp] def icmpv6DestUnreach : UInt8 := 1
@[simp] def icmpv6PacketTooBig : UInt8 := 2
@[simp] def icmpv6TimeExceeded : UInt8 := 3

/-- IPv6 extension headers walked before giving up. -/
@[simp, reducible] def maxIpv6ExtHdrs : Nat := 6

/-- An Ethernet address. -/
abbrev Mac := Octets 6

/-- `std::net::IpAddr`. -/
inductive IpAddr where
  | v4 (octets : Octets 4)
  | v6 (octets : Octets 16)
deriving DecidableEq, Repr

theorem length_four (a b c d : UInt8) : [a, b, c, d].length = 4 := rfl

theorem length_six (a b c d e f : UInt8) : [a, b, c, d, e, f].length = 6 := rfl

/-- The octets of an IPv4 address. -/
def ipv4Octets (a b c d : UInt8) : Octets 4 := ⟨[a, b, c, d], length_four a b c d⟩

/-- The octets of an Ethernet address. -/
def macOctets (a b c d e f : UInt8) : Mac := ⟨[a, b, c, d, e, f], length_six a b c d e f⟩

/-- A monotonic clock reading, in nanoseconds. -/
abbrev Instant := Nat

/-- `Duration::from_secs`. -/
@[simp] def seconds (count : Nat) : Nat := count * 1000000000

/-- Block size of AES-128. -/
abbrev Block := Octets 16

/-- An AES-128 key. -/
abbrev Key := Octets 16

/-- The `aes` crate's block cipher: its two directions under a key. -/
structure Aes128 where
  encryptBlock : Key → Block → Block
  decryptBlock : Key → Block → Block

/-- Block decryption inverts block encryption for every key. -/
def Aes128.Inverts (aes : Aes128) : Prop :=
  ∀ key block, aes.decryptBlock key (aes.encryptBlock key block) = block

end Pesigitg
