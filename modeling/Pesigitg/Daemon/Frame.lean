import Pesigitg.Base.Fields
import Pesigitg.Daemon.Conntable

/-!
# The frame parser

`parseFrame` reads the L2/L3/L4 layout out of a received Ethernet frame. Every
index it takes is a checked read here. `Layout` describes the accepted frames
without reading order or bounds checks, and `parseFrame_eq_some_iff` is the equivalence:
the parser always returns, and it returns the layout the frame has.
-/

namespace Pesigitg

open Base

inductive IpFamily where
  | ipv4
  | ipv6
deriving DecidableEq, Repr

inductive L4 where
  /-- Regular UDP/QUIC packet. -/
  | udp (udpOffset quicOffset : Nat) (srcPort dstPort : UInt16)
  /-- ICMP error containing an echoed UDP/QUIC packet. -/
  | icmp (innerQuicOffset : Nat) (reversedFlow : FlowKey)
deriving DecidableEq, Repr

/-- Parsed layout shared between the retry classifier and the routing pipeline. -/
structure ParsedFrame where
  family : IpFamily
  ipHdrLen : Nat
  srcMac : Mac
  srcAddr : IpAddr
  dstAddr : IpAddr
  l4 : L4
deriving DecidableEq, Repr

section Reads

/-- `u16::from_be_bytes([frame[offset], frame[offset + 1]])`. -/
def readU16 (frame : Bytes) (offset : Nat) : Checked UInt16 := do
  let high ← readByte frame offset
  let low ← readByte frame (offset + 1)
  pure (beU16 high low)

/-- `Ipv4Addr::new` of four consecutive bytes. -/
def readIpv4 (frame : Bytes) (offset : Nat) : Checked IpAddr := do
  let a ← readByte frame offset
  let b ← readByte frame (offset + 1)
  let c ← readByte frame (offset + 2)
  let d ← readByte frame (offset + 3)
  pure (.v4 ⟨[a, b, c, d], rfl⟩)

/-- `copy_from_slice(&frame[offset..offset + count])` into a fresh array. -/
def readOctets (count : Nat) (frame : Bytes) (offset : Nat) : Checked (Octets count) :=
  slice frame offset (offset + count) >>= toOctets count

/-- The header length field of an IPv4 header, in bytes. -/
def ihlOf (byte : UInt8) : Nat := (byte &&& 0x0F).toNat * 4

end Reads

/-- The loop over IPv6 extension headers. `stops` is the set of protocols that end
it; running out of headers to walk leaves the current position. -/
def walkExtHdrs (stops : UInt8 → Bool) (frame : Bytes) :
    Nat → UInt8 → Nat → Checked (Option (UInt8 × Nat))
  | 0, nextHdr, offset => pure (some (nextHdr, offset))
  | fuel + 1, nextHdr, offset =>
    if stops nextHdr then pure (some (nextHdr, offset))
    else if nextHdr = ipprotoFragment then
      if frame.length ≤ offset then pure none
      else do
        let next ← readByte frame offset
        walkExtHdrs stops frame fuel next (offset + 8)
    else if nextHdr = ipprotoHopopts ∨ nextHdr = ipprotoRouting ∨ nextHdr = ipprotoDstopts then
      if frame.length ≤ offset + 1 then pure none
      else do
        let next ← readByte frame offset
        let extLen ← readByte frame (offset + 1)
        walkExtHdrs stops frame fuel next (offset + (extLen.toNat + 1) * 8)
    else pure none

/-- Protocols that end the walk over the frame's own headers. -/
def outerStops (protocol : UInt8) : Bool := protocol = ipprotoUdp ∨ protocol = ipprotoIcmpv6

/-- Protocol that ends the walk over a quoted packet's headers. -/
def innerStops (protocol : UInt8) : Bool := protocol = ipprotoUdp

/-- The UDP arm of the two IP parsers. -/
def parseFrameUdp (frame : Bytes) (family : IpFamily) (ipHdrLen : Nat) (srcMac : Mac)
    (srcAddr dstAddr : IpAddr) (udpOffset : Nat) : Checked (Option ParsedFrame) :=
  let quicOffset := udpOffset + udpHdrLen
  if frame.length < quicOffset then pure none
  else do
    let srcPort ← readU16 frame udpOffset
    let dstPort ← readU16 frame (udpOffset + 2)
    pure (some ⟨family, ipHdrLen, srcMac, srcAddr, dstAddr,
      .udp udpOffset quicOffset srcPort dstPort⟩)

/-- An ICMP error packet with an echoed IPv4/UDP/QUIC inner packet. -/
def parseFrameIcmpIpv4 (frame : Bytes) (srcMac : Mac) (outerIhl : Nat) (srcAddr dstAddr : IpAddr) :
    Checked (Option ParsedFrame) :=
  let icmpOffset := ethHdrLen + outerIhl
  if frame.length < icmpOffset + icmpHdrLen then pure none
  else do
    let icmpType ← readByte frame icmpOffset
    if icmpType ≠ icmpDestUnreach ∧ icmpType ≠ icmpTimeExceeded then pure none
    else
      let innerIpOffset := icmpOffset + icmpHdrLen
      if frame.length < innerIpOffset + ipv4MinHdrLen then pure none
      else do
        let first ← readByte frame innerIpOffset
        let innerIhl := ihlOf first
        if innerIhl < ipv4MinHdrLen then pure none
        else do
          let protocol ← readByte frame (innerIpOffset + 9)
          if protocol ≠ ipprotoUdp then pure none
          else
            let innerUdpOffset := innerIpOffset + innerIhl
            let innerQuicOffset := innerUdpOffset + udpHdrLen
            -- Only the ports are checked to be present, not the whole UDP header.
            if frame.length < innerUdpOffset + 4 then pure none
            else do
              let innerSrc ← readIpv4 frame (innerIpOffset + 12)
              let innerDst ← readIpv4 frame (innerIpOffset + 16)
              let innerSrcPort ← readU16 frame innerUdpOffset
              let innerDstPort ← readU16 frame (innerUdpOffset + 2)
              pure (some ⟨.ipv4, outerIhl, srcMac, srcAddr, dstAddr,
                .icmp innerQuicOffset ⟨innerDst, innerSrc, innerDstPort, innerSrcPort⟩⟩)

def parseFrameIpv4 (frame : Bytes) (srcMac : Mac) : Checked (Option ParsedFrame) :=
  if frame.length < ethHdrLen + ipv4MinHdrLen then pure none
  else do
    let first ← readByte frame ethHdrLen
    let ihl := ihlOf first
    if ihl < ipv4MinHdrLen then pure none
    else do
      let protocol ← readByte frame (ethHdrLen + 9)
      let srcAddr ← readIpv4 frame (ethHdrLen + 12)
      let dstAddr ← readIpv4 frame (ethHdrLen + 16)
      if protocol = ipprotoUdp then
        parseFrameUdp frame .ipv4 ihl srcMac srcAddr dstAddr (ethHdrLen + ihl)
      else if protocol = ipprotoIcmp then parseFrameIcmpIpv4 frame srcMac ihl srcAddr dstAddr
      else pure none

/-- The echoed packet's UDP part, once its extension headers are walked. -/
def parseFrameIcmpv6Inner (frame : Bytes) (srcMac : Mac) (ipHdrLen : Nat)
    (srcAddr dstAddr innerSrcAddr innerDstAddr : IpAddr) :
    Option (UInt8 × Nat) → Checked (Option ParsedFrame)
  | none => pure none
  | some (innerNextHdr, innerOffset) =>
    if innerNextHdr ≠ ipprotoUdp then pure none
    else if frame.length < innerOffset + 4 then pure none
    else do
      let innerSrcPort ← readU16 frame innerOffset
      let innerDstPort ← readU16 frame (innerOffset + 2)
      let innerQuicOffset := innerOffset + udpHdrLen
      pure (some ⟨.ipv6, ipHdrLen, srcMac, srcAddr, dstAddr,
        .icmp innerQuicOffset ⟨innerDstAddr, innerSrcAddr, innerDstPort, innerSrcPort⟩⟩)

/-- An ICMPv6 error packet with an echoed IPv6/UDP/QUIC inner packet. -/
def parseFrameIcmpv6 (frame : Bytes) (srcMac : Mac) (ipHdrLen : Nat) (srcAddr dstAddr : IpAddr)
    (icmpOffset : Nat) : Checked (Option ParsedFrame) :=
  if frame.length < icmpOffset + icmpHdrLen then pure none
  else do
    let icmpType ← readByte frame icmpOffset
    if icmpType ≠ icmpv6DestUnreach ∧ icmpType ≠ icmpv6PacketTooBig ∧
        icmpType ≠ icmpv6TimeExceeded then pure none
    else
      let innerIpOffset := icmpOffset + icmpHdrLen
      if frame.length < innerIpOffset + ipv6HdrLen then pure none
      else do
        let innerSrc ← readOctets 16 frame (innerIpOffset + 8)
        let innerDst ← readOctets 16 frame (innerIpOffset + 24)
        let innerNextHdr ← readByte frame (innerIpOffset + 6)
        let walked ← walkExtHdrs innerStops frame maxIpv6ExtHdrs innerNextHdr
          (innerIpOffset + ipv6HdrLen)
        parseFrameIcmpv6Inner frame srcMac ipHdrLen srcAddr dstAddr (.v6 innerSrc) (.v6 innerDst)
          walked

/-- The L4 dispatch of `parseFrameIpv6`, once the extension headers are walked. -/
def parseFrameIpv6L4 (frame : Bytes) (srcMac : Mac) (srcAddr dstAddr : IpAddr) :
    Option (UInt8 × Nat) → Checked (Option ParsedFrame)
  | none => pure none
  | some (nextHdr, offset) =>
    let ipHdrLen := offset - ethHdrLen
    if nextHdr = ipprotoUdp then parseFrameUdp frame .ipv6 ipHdrLen srcMac srcAddr dstAddr offset
    else if nextHdr = ipprotoIcmpv6 then
      parseFrameIcmpv6 frame srcMac ipHdrLen srcAddr dstAddr offset
    else pure none

def parseFrameIpv6 (frame : Bytes) (srcMac : Mac) : Checked (Option ParsedFrame) :=
  if frame.length < ethHdrLen + ipv6HdrLen then pure none
  else do
    let src ← readOctets 16 frame (ethHdrLen + 8)
    let dst ← readOctets 16 frame (ethHdrLen + 24)
    let nextHdr ← readByte frame (ethHdrLen + 6)
    let walked ← walkExtHdrs outerStops frame maxIpv6ExtHdrs nextHdr (ethHdrLen + ipv6HdrLen)
    parseFrameIpv6L4 frame srcMac (.v6 src) (.v6 dst) walked

/-- Parse a raw Ethernet frame to extract the L2/L3/L4 layout. -/
def parseFrame (frame : Bytes) : Checked (Option ParsedFrame) :=
  if frame.length < ethHdrLen then pure none
  else do
    let srcMac ← readOctets 6 frame 6
    let ethertype ← readU16 frame 12
    if ethertype = ethPIp then parseFrameIpv4 frame srcMac
    else if ethertype = ethPIpv6 then parseFrameIpv6 frame srcMac
    else pure none

section Fields

variable {frame : Bytes} {offset : Nat}

/-- The big-endian field at an offset. -/
def u16At (frame : Bytes) (offset : Nat) : UInt16 :=
  beU16 (byteAt frame offset) (byteAt frame (offset + 1))

/-- The IPv4 address at an offset. -/
def ipv4At (frame : Bytes) (offset : Nat) : IpAddr :=
  .v4 ⟨[byteAt frame offset, byteAt frame (offset + 1), byteAt frame (offset + 2),
    byteAt frame (offset + 3)], rfl⟩

/-- The `count` bytes at an offset. -/
def octetsAt (count : Nat) (frame : Bytes) (offset : Nat) : Octets count :=
  ⟨(List.range count).map fun index => byteAt frame (offset + index), by simp⟩

/-- The IPv6 address at an offset. -/
def ipv6At (frame : Bytes) (offset : Nat) : IpAddr := .v6 (octetsAt 16 frame offset)

/-- The IPv4 header length at an offset. -/
def ihlAt (frame : Bytes) (offset : Nat) : Nat := ihlOf (byteAt frame offset)

/-- A word inside the frame can be read. -/
theorem readU16_of_le (inside : offset + 2 ≤ frame.length) :
    readU16 frame offset = .ok (u16At frame offset) := by
  rw [readU16, readByte_of_lt (by omega), Checked.ok_bind, readByte_of_lt (by omega)]
  rfl

/-- An IPv4 address inside the frame can be read. -/
theorem readIpv4_of_le (inside : offset + 4 ≤ frame.length) :
    readIpv4 frame offset = .ok (ipv4At frame offset) := by
  rw [readIpv4, readByte_of_lt (by omega), Checked.ok_bind, readByte_of_lt (by omega),
    Checked.ok_bind, readByte_of_lt (by omega), Checked.ok_bind, readByte_of_lt (by omega)]
  rfl

/-- Octets inside the frame can be read. -/
theorem readOctets_of_le {count : Nat} (inside : offset + count ≤ frame.length) :
    readOctets count frame offset = .ok (octetsAt count frame offset) := by
  rw [readOctets, slice_toOctets inside]
  congr 1
  apply Subtype.ext
  apply List.ext_getElem
  · simp [octetsAt]
    omega
  · intro index left right
    have bound : index < count := by simpa [octetsAt] using right
    have within : offset + index < frame.length := by omega
    simp [octetsAt, byteAt, within]

/-- A word that was written is read back. -/
theorem holds_u16 {value : UInt16} (holds : Holds frame offset (toBe 2 value.toNat)) :
    u16At frame offset = value := by
  have first := holds.byteAt_eq 0 (by simp)
  have second := holds.byteAt_eq 1 (by simp)
  rw [Nat.add_zero] at first
  rw [u16At, first, second]
  exact beU16_toBe value rfl

/-- Octets that were written are read back. -/
theorem holds_octets {count : Nat} {octets : Octets count} (holds : Holds frame offset octets.val) :
    octetsAt count frame offset = octets := by
  have sized := octets.property
  apply Subtype.ext
  apply List.ext_getElem
  · simp [octetsAt, sized]
  · intro index left right
    have bound : index < count := by omega
    have read := holds.byteAt_eq index right
    simpa [octetsAt, byteAt, right] using read

/-- An IPv4 address that was written is read back. -/
theorem holds_ipv4 {octets : Octets 4} (holds : Holds frame offset octets.val) :
    ipv4At frame offset = .v4 octets := by
  rw [← holds_octets holds]
  rfl

/-- An IPv6 address that was written is read back. -/
theorem holds_ipv6 {octets : Octets 16} (holds : Holds frame offset octets.val) :
    ipv6At frame offset = .v6 octets := by
  rw [ipv6At, holds_octets holds]

end Fields

/-- A chain of extension headers: from protocol `nextHdr` at `offset`, at most
`fuel` headers lead to protocol `last` at `stop`, where the walk ends because the
protocol is one it stops at or because no header is left to take. -/
inductive ExtChain (stops : UInt8 → Bool) (frame : Bytes) :
    Nat → UInt8 → Nat → UInt8 → Nat → Prop where
  | exhausted (nextHdr : UInt8) (offset : Nat) :
      ExtChain stops frame 0 nextHdr offset nextHdr offset
  | stopped {fuel : Nat} {nextHdr : UInt8} (offset : Nat) (stop : stops nextHdr = true) :
      ExtChain stops frame (fuel + 1) nextHdr offset nextHdr offset
  | fragment {fuel offset finish : Nat} {nextHdr last : UInt8} (going : stops nextHdr = false)
      (kind : nextHdr = ipprotoFragment) (inside : offset < frame.length)
      (rest : ExtChain stops frame fuel (byteAt frame offset) (offset + 8) last finish) :
      ExtChain stops frame (fuel + 1) nextHdr offset last finish
  | options {fuel offset finish : Nat} {nextHdr last : UInt8} (going : stops nextHdr = false)
      (kind : nextHdr = ipprotoHopopts ∨ nextHdr = ipprotoRouting ∨ nextHdr = ipprotoDstopts)
      (inside : offset + 1 < frame.length)
      (rest : ExtChain stops frame fuel (byteAt frame offset)
        (offset + ((byteAt frame (offset + 1)).toNat + 1) * 8) last finish) :
      ExtChain stops frame (fuel + 1) nextHdr offset last finish

section Walk

variable {stops : UInt8 → Bool} {frame : Bytes}

/-- The fragment header is not an options header. -/
theorem options_ne_fragment {protocol : UInt8}
    (kind : protocol = ipprotoHopopts ∨ protocol = ipprotoRouting ∨ protocol = ipprotoDstopts) :
    protocol ≠ ipprotoFragment := by
  rcases kind with rfl | rfl | rfl <;> decide

namespace ExtChain

variable {fuel offset finish : Nat} {nextHdr last : UInt8}

/-- A chain ends at the first header that stops it. -/
theorem stopped_iff (stop : stops nextHdr = true) :
    ExtChain stops frame (fuel + 1) nextHdr offset last finish ↔
      nextHdr = last ∧ offset = finish := by
  constructor
  · intro chain
    cases chain with
    | stopped => exact ⟨rfl, rfl⟩
    | fragment going => exact absurd stop (Bool.eq_false_iff.mp going)
    | options going => exact absurd stop (Bool.eq_false_iff.mp going)
  · rintro ⟨rfl, rfl⟩
    exact .stopped offset stop

/-- A fragment header has eight bytes. -/
theorem fragment_iff (going : ¬ stops nextHdr = true) (kind : nextHdr = ipprotoFragment) :
    ExtChain stops frame (fuel + 1) nextHdr offset last finish ↔ offset < frame.length ∧
      ExtChain stops frame fuel (byteAt frame offset) (offset + 8) last finish := by
  constructor
  · intro chain
    cases chain with
    | stopped _ stop => exact absurd stop going
    | fragment _ _ inside rest => exact ⟨inside, rest⟩
    | options _ other => exact absurd kind (options_ne_fragment other)
  · rintro ⟨inside, rest⟩
    exact .fragment (Bool.eq_false_iff.mpr going) kind inside rest

/-- An options header says how long it is. -/
theorem options_iff (going : ¬ stops nextHdr = true)
    (kind : nextHdr = ipprotoHopopts ∨ nextHdr = ipprotoRouting ∨ nextHdr = ipprotoDstopts) :
    ExtChain stops frame (fuel + 1) nextHdr offset last finish ↔ offset + 1 < frame.length ∧
      ExtChain stops frame fuel (byteAt frame offset)
        (offset + ((byteAt frame (offset + 1)).toNat + 1) * 8) last finish := by
  constructor
  · intro chain
    cases chain with
    | stopped _ stop => exact absurd stop going
    | fragment _ other => exact absurd other (options_ne_fragment kind)
    | options _ _ inside rest => exact ⟨inside, rest⟩
  · rintro ⟨inside, rest⟩
    exact .options (Bool.eq_false_iff.mpr going) kind inside rest

end ExtChain

/-- The walk never indexes past the frame, and finds exactly the end of the chain. -/
theorem walkExtHdrs_finds (stops : UInt8 → Bool) (frame : Bytes) (fuel : Nat) (nextHdr : UInt8)
    (offset : Nat) :
    (walkExtHdrs stops frame fuel nextHdr offset).Finds
      fun place => ExtChain stops frame fuel nextHdr offset place.1 place.2 := by
  induction fuel generalizing nextHdr offset with
  | zero =>
    refine .just ?_
    rintro ⟨last, finish⟩
    constructor
    · intro chain
      cases chain
      rfl
    · rintro ⟨⟩
      exact .exhausted nextHdr offset
  | succ fuel ih =>
    refine .branch (fun stop => .just ?_) fun going => .branch (fun kind => .guard ?_ ?_) fun other =>
      .branch (fun kind => .guard ?_ ?_) fun unknown => .nothing ?_
    · rintro ⟨last, finish⟩
      rw [ExtChain.stopped_iff stop, Prod.mk.injEq]
    · intro past place chain
      exact Nat.not_le.mpr ((ExtChain.fragment_iff going kind).mp chain).1 past
    · intro inside
      have inside := Nat.not_le.mp inside
      rw [readByte_of_lt inside, Checked.ok_bind]
      refine (ih _ _).congr fun place => ?_
      rw [ExtChain.fragment_iff going kind, and_iff_right inside]
    · intro past place chain
      exact Nat.not_le.mpr ((ExtChain.options_iff going kind).mp chain).1 past
    · intro inside
      have inside := Nat.not_le.mp inside
      rw [readByte_of_lt (by omega), Checked.ok_bind, readByte_of_lt inside, Checked.ok_bind]
      refine (ih _ _).congr fun place => ?_
      rw [ExtChain.options_iff going kind, and_iff_right inside]
    · intro place chain
      cases chain with
      | stopped _ stop => exact going stop
      | fragment _ kind => exact other kind
      | options _ kind => exact unknown kind

/-- A chain has one end. -/
theorem ExtChain.unique {fuel : Nat} {nextHdr last last' : UInt8} {offset finish finish' : Nat}
    (chain : ExtChain stops frame fuel nextHdr offset last finish)
    (chain' : ExtChain stops frame fuel nextHdr offset last' finish') :
    last = last' ∧ finish = finish' :=
  Prod.mk.inj ((walkExtHdrs_finds stops frame fuel nextHdr offset).unique chain chain')

/-- A chain only moves forward. -/
theorem ExtChain.offset_le {fuel : Nat} {nextHdr last : UInt8} {offset finish : Nat}
    (chain : ExtChain stops frame fuel nextHdr offset last finish) : offset ≤ finish := by
  induction chain with
  | exhausted nextHdr offset => exact Nat.le_refl _
  | stopped offset stop => exact Nat.le_refl _
  | fragment going kind inside rest ih => omega
  | options going kind inside rest ih => omega

end Walk

/-- The outer IPv4 header of a frame, with its length in bytes. -/
structure Ipv4Frame (frame : Bytes) (ihl : Nat) : Prop where
  long : 34 ≤ frame.length
  ethertype : u16At frame 12 = ethPIp
  ihl_eq : ihlAt frame 14 = ihl
  ihl_ge : 20 ≤ ihl

/-- The outer IPv6 header of a frame and its extension headers, which lead to
`protocol` at `offset`. -/
structure Ipv6Frame (frame : Bytes) (protocol : UInt8) (offset : Nat) : Prop where
  long : 54 ≤ frame.length
  ethertype : u16At frame 12 = ethPIpv6
  chain : ExtChain outerStops frame 6 (byteAt frame 20) 54 protocol offset

/-- An ICMP error at `icmp` quoting an IPv4 packet whose UDP header starts at `udp`. -/
structure Ipv4Quote (frame : Bytes) (icmp udp : Nat) : Prop where
  kind : byteAt frame icmp = icmpDestUnreach ∨ byteAt frame icmp = icmpTimeExceeded
  long : icmp + 28 ≤ frame.length
  ihl_ge : 20 ≤ ihlAt frame (icmp + 8)
  protocol : byteAt frame (icmp + 17) = ipprotoUdp
  udp_eq : udp = icmp + 8 + ihlAt frame (icmp + 8)

/-- An ICMPv6 error at `icmp` quoting an IPv6 packet whose UDP header starts at `udp`. -/
structure Ipv6Quote (frame : Bytes) (icmp udp : Nat) : Prop where
  kind : byteAt frame icmp = icmpv6DestUnreach ∨ byteAt frame icmp = icmpv6PacketTooBig ∨
    byteAt frame icmp = icmpv6TimeExceeded
  long : icmp + 48 ≤ frame.length
  chain : ExtChain innerStops frame 6 (byteAt frame (icmp + 14)) (icmp + 48) ipprotoUdp udp

/-- The frames `parseFrame` accepts, with what it makes of them. -/
inductive Layout (frame : Bytes) : ParsedFrame → Prop where
  | udp4 {ihl : Nat} (header : Ipv4Frame frame ihl) (protocol : byteAt frame 23 = ipprotoUdp)
      (inside : 14 + ihl + 8 ≤ frame.length) :
      Layout frame ⟨.ipv4, ihl, octetsAt 6 frame 6, ipv4At frame 26, ipv4At frame 30,
        .udp (14 + ihl) (14 + ihl + 8) (u16At frame (14 + ihl)) (u16At frame (14 + ihl + 2))⟩
  | icmp4 {ihl udp : Nat} (header : Ipv4Frame frame ihl)
      (protocol : byteAt frame 23 = ipprotoIcmp) (quote : Ipv4Quote frame (14 + ihl) udp)
      (inside : udp + 4 ≤ frame.length) :
      Layout frame ⟨.ipv4, ihl, octetsAt 6 frame 6, ipv4At frame 26, ipv4At frame 30,
        .icmp (udp + 8) ⟨ipv4At frame (14 + ihl + 8 + 16), ipv4At frame (14 + ihl + 8 + 12),
          u16At frame (udp + 2), u16At frame udp⟩⟩
  | udp6 {offset : Nat} (header : Ipv6Frame frame ipprotoUdp offset)
      (inside : offset + 8 ≤ frame.length) :
      Layout frame ⟨.ipv6, offset - 14, octetsAt 6 frame 6, ipv6At frame 22, ipv6At frame 38,
        .udp offset (offset + 8) (u16At frame offset) (u16At frame (offset + 2))⟩
  | icmp6 {offset udp : Nat} (header : Ipv6Frame frame ipprotoIcmpv6 offset)
      (quote : Ipv6Quote frame offset udp) (inside : udp + 4 ≤ frame.length) :
      Layout frame ⟨.ipv6, offset - 14, octetsAt 6 frame 6, ipv6At frame 22, ipv6At frame 38,
        .icmp (udp + 8) ⟨ipv6At frame (offset + 8 + 24), ipv6At frame (offset + 8 + 8),
          u16At frame (udp + 2), u16At frame udp⟩⟩

section Uniqueness

variable {frame : Bytes}

/-- A frame has one IPv4 header length. -/
theorem Ipv4Frame.unique {ihl ihl' : Nat} (header : Ipv4Frame frame ihl)
    (header' : Ipv4Frame frame ihl') : ihl = ihl' :=
  header.ihl_eq.symm.trans header'.ihl_eq

/-- A frame has one IPv6 chain. -/
theorem Ipv6Frame.unique {protocol protocol' : UInt8} {offset offset' : Nat}
    (header : Ipv6Frame frame protocol offset) (header' : Ipv6Frame frame protocol' offset') :
    protocol = protocol' ∧ offset = offset' :=
  header.chain.unique header'.chain

/-- A frame is not of both families. -/
theorem Ipv4Frame.not_ipv6 {ihl offset : Nat} {protocol : UInt8} (header : Ipv4Frame frame ihl)
    (other : Ipv6Frame frame protocol offset) : False := by
  have same := header.ethertype.symm.trans other.ethertype
  exact absurd same (by decide)

/-- An ICMP error quotes one UDP header. -/
theorem Ipv4Quote.unique {icmp udp udp' : Nat} (quote : Ipv4Quote frame icmp udp)
    (quote' : Ipv4Quote frame icmp udp') : udp = udp' :=
  quote.udp_eq.trans quote'.udp_eq.symm

/-- An ICMPv6 error quotes one UDP header. -/
theorem Ipv6Quote.unique {icmp udp udp' : Nat} (quote : Ipv6Quote frame icmp udp)
    (quote' : Ipv6Quote frame icmp udp') : udp = udp' :=
  (quote.chain.unique quote'.chain).2

end Uniqueness

section Parse

variable {frame : Bytes} {srcMac : Mac} {srcAddr dstAddr : IpAddr} {family : IpFamily}

/-- The UDP arm accepts exactly when the UDP header is inside the frame. -/
theorem parseFrameUdp_finds {ipHdrLen udpOffset : Nat} :
    (parseFrameUdp frame family ipHdrLen srcMac srcAddr dstAddr udpOffset).Finds fun parsed =>
      udpOffset + 8 ≤ frame.length ∧
        ⟨family, ipHdrLen, srcMac, srcAddr, dstAddr, .udp udpOffset (udpOffset + 8)
          (u16At frame udpOffset) (u16At frame (udpOffset + 2))⟩ = parsed := by
  refine .guard ?_ fun long => ?_
  · rintro short parsed ⟨inside, -⟩
    exact Nat.not_lt.mpr inside short
  · have inside : udpOffset + 8 ≤ frame.length := Nat.not_lt.mp long
    rw [readU16_of_le (by omega), Checked.ok_bind, readU16_of_le (by omega), Checked.ok_bind]
    exact .just fun parsed => and_iff_right inside

/-- The quoted-packet arm of the IPv4 parser accepts exactly the quotes whose ports
are inside the frame, and rejects everything else without a panic. -/
theorem parseFrameIcmpIpv4_finds (ihl : Nat) :
    (parseFrameIcmpIpv4 frame srcMac ihl srcAddr dstAddr).Finds fun parsed =>
      ∃ udp, Ipv4Quote frame (14 + ihl) udp ∧ udp + 4 ≤ frame.length ∧
        ⟨.ipv4, ihl, srcMac, srcAddr, dstAddr, .icmp (udp + 8)
          ⟨ipv4At frame (14 + ihl + 8 + 16), ipv4At frame (14 + ihl + 8 + 12),
            u16At frame (udp + 2), u16At frame udp⟩⟩ = parsed := by
  unfold parseFrameIcmpIpv4
  simp only [ethHdrLen, icmpHdrLen, ipv4MinHdrLen, udpHdrLen]
  refine .guard ?_ fun header => ?_
  · rintro short parsed ⟨udp, quote, -⟩
    have long := quote.long
    omega
  rw [readByte_of_lt (by omega), Checked.ok_bind]
  refine .guard ?_ fun kind => .guard ?_ fun inner => ?_
  · rintro unknown parsed ⟨udp, quote, -⟩
    exact not_or.mpr unknown quote.kind
  · rintro short parsed ⟨udp, quote, -⟩
    have long := quote.long
    omega
  rw [readByte_of_lt (by omega), Checked.ok_bind]
  refine .guard ?_ fun ihl_ge => ?_
  · rintro short parsed ⟨udp, quote, -⟩
    exact Nat.not_lt.mpr quote.ihl_ge short
  rw [readByte_of_lt (by omega), Checked.ok_bind]
  refine .guard ?_ fun protocol => .guard ?_ fun ports => ?_
  · rintro unknown parsed ⟨udp, quote, -⟩
    exact unknown quote.protocol
  · rintro short parsed ⟨udp, quote, inside, -⟩
    rw [quote.udp_eq] at inside
    exact Nat.not_lt.mpr inside short
  rw [readIpv4_of_le (by omega), Checked.ok_bind, readIpv4_of_le (by omega), Checked.ok_bind,
    readU16_of_le (by omega), Checked.ok_bind, readU16_of_le (by omega), Checked.ok_bind]
  -- Every check passed, so the frame holds a quote, and there is only one.
  have quote : Ipv4Quote frame (14 + ihl) (14 + ihl + 8 + ihlAt frame (14 + ihl + 8)) := {
    kind := Decidable.not_not.mp fun unknown => kind (not_or.mp unknown)
    long := by omega
    ihl_ge := Nat.not_lt.mp ihl_ge
    protocol := Decidable.not_not.mp protocol
    udp_eq := rfl }
  refine .just fun parsed => ?_
  constructor
  · rintro ⟨udp, other, -, same⟩
    obtain rfl := quote.unique other
    exact same
  · intro same
    exact ⟨_, quote, Nat.not_lt.mp ports, same⟩

/-- The quoted-packet arm of the IPv6 parser, in the same form. -/
theorem parseFrameIcmpv6_finds (ipHdrLen icmp : Nat) :
    (parseFrameIcmpv6 frame srcMac ipHdrLen srcAddr dstAddr icmp).Finds fun parsed =>
      ∃ udp, Ipv6Quote frame icmp udp ∧ udp + 4 ≤ frame.length ∧
        ⟨.ipv6, ipHdrLen, srcMac, srcAddr, dstAddr, .icmp (udp + 8)
          ⟨ipv6At frame (icmp + 8 + 24), ipv6At frame (icmp + 8 + 8),
            u16At frame (udp + 2), u16At frame udp⟩⟩ = parsed := by
  unfold parseFrameIcmpv6
  simp only [icmpHdrLen, ipv6HdrLen, maxIpv6ExtHdrs]
  refine .guard ?_ fun header => ?_
  · rintro short parsed ⟨udp, quote, -⟩
    have long := quote.long
    omega
  rw [readByte_of_lt (by omega), Checked.ok_bind]
  refine .guard ?_ fun kind => .guard ?_ fun inner => ?_
  · rintro ⟨notUnreach, notBig, notExceeded⟩ parsed ⟨udp, quote, -⟩
    exact not_or.mpr ⟨notUnreach, not_or.mpr ⟨notBig, notExceeded⟩⟩ quote.kind
  · rintro short parsed ⟨udp, quote, -⟩
    have long := quote.long
    omega
  rw [readOctets_of_le (by omega), Checked.ok_bind, readOctets_of_le (by omega),
    Checked.ok_bind, readByte_of_lt (by omega), Checked.ok_bind]
  refine (walkExtHdrs_finds ..).bind ?_ ?_
  · intro absent
    refine .nothing ?_
    rintro parsed ⟨udp, quote, -⟩
    exact absent (ipprotoUdp, udp) quote.chain
  rintro ⟨last, finish⟩ chain
  refine .guard ?_ fun protocol => .guard ?_ fun ports => ?_
  · rintro unknown parsed ⟨udp, quote, -⟩
    exact unknown (quote.chain.unique chain).1.symm
  · rintro short parsed ⟨udp, quote, inside, -⟩
    obtain ⟨-, rfl⟩ := quote.chain.unique chain
    exact Nat.not_lt.mpr inside short
  rw [readU16_of_le (by omega), Checked.ok_bind, readU16_of_le (by omega), Checked.ok_bind]
  obtain rfl : last = ipprotoUdp := Decidable.not_not.mp protocol
  have quote : Ipv6Quote frame icmp finish := {
    kind := Decidable.not_not.mp fun unknown =>
      kind ⟨(not_or.mp unknown).1, not_or.mp (not_or.mp unknown).2⟩
    long := by omega
    chain := chain }
  refine .just fun parsed => ?_
  constructor
  · rintro ⟨udp, other, -, same⟩
    obtain rfl := quote.unique other
    exact same
  · intro same
    exact ⟨_, quote, Nat.not_lt.mp ports, same⟩

/-- The layouts of a frame with an IPv4 header. -/
theorem Ipv4Frame.layout_iff {ihl : Nat} (outer : Ipv4Frame frame ihl) {parsed : ParsedFrame} :
    Layout frame parsed ↔
      byteAt frame 23 = ipprotoUdp ∧ 14 + ihl + 8 ≤ frame.length ∧
        ⟨.ipv4, ihl, octetsAt 6 frame 6, ipv4At frame 26, ipv4At frame 30, .udp (14 + ihl)
          (14 + ihl + 8) (u16At frame (14 + ihl)) (u16At frame (14 + ihl + 2))⟩ = parsed ∨
      byteAt frame 23 = ipprotoIcmp ∧ ∃ udp, Ipv4Quote frame (14 + ihl) udp ∧
        udp + 4 ≤ frame.length ∧
        ⟨.ipv4, ihl, octetsAt 6 frame 6, ipv4At frame 26, ipv4At frame 30, .icmp (udp + 8)
          ⟨ipv4At frame (14 + ihl + 8 + 16), ipv4At frame (14 + ihl + 8 + 12),
            u16At frame (udp + 2), u16At frame udp⟩⟩ = parsed := by
  constructor
  · intro layout
    cases layout with
    | udp4 other protocol inside =>
      obtain rfl := outer.unique other
      exact .inl ⟨protocol, inside, rfl⟩
    | icmp4 other protocol quote inside =>
      obtain rfl := outer.unique other
      exact .inr ⟨protocol, _, quote, inside, rfl⟩
    | udp6 other inside => exact (outer.not_ipv6 other).elim
    | icmp6 other quote inside => exact (outer.not_ipv6 other).elim
  · rintro (⟨protocol, inside, rfl⟩ | ⟨protocol, udp, quote, inside, rfl⟩)
    · exact .udp4 outer protocol inside
    · exact .icmp4 outer protocol quote inside

/-- The layouts of a frame with an IPv6 header. -/
theorem Ipv6Frame.layout_iff {protocol : UInt8} {offset : Nat}
    (outer : Ipv6Frame frame protocol offset) {parsed : ParsedFrame} :
    Layout frame parsed ↔
      protocol = ipprotoUdp ∧ offset + 8 ≤ frame.length ∧
        ⟨.ipv6, offset - 14, octetsAt 6 frame 6, ipv6At frame 22, ipv6At frame 38, .udp offset
          (offset + 8) (u16At frame offset) (u16At frame (offset + 2))⟩ = parsed ∨
      protocol = ipprotoIcmpv6 ∧ ∃ udp, Ipv6Quote frame offset udp ∧ udp + 4 ≤ frame.length ∧
        ⟨.ipv6, offset - 14, octetsAt 6 frame 6, ipv6At frame 22, ipv6At frame 38, .icmp (udp + 8)
          ⟨ipv6At frame (offset + 8 + 24), ipv6At frame (offset + 8 + 8),
            u16At frame (udp + 2), u16At frame udp⟩⟩ = parsed := by
  constructor
  · intro layout
    cases layout with
    | udp4 other protocol inside => exact (other.not_ipv6 outer).elim
    | icmp4 other protocol quote inside => exact (other.not_ipv6 outer).elim
    | udp6 other inside =>
      obtain ⟨rfl, rfl⟩ := outer.unique other
      exact .inl ⟨rfl, inside, rfl⟩
    | icmp6 other quote inside =>
      obtain ⟨rfl, rfl⟩ := outer.unique other
      exact .inr ⟨rfl, _, quote, inside, rfl⟩
  · rintro (⟨rfl, inside, rfl⟩ | ⟨rfl, udp, quote, inside, rfl⟩)
    · exact .udp6 outer inside
    · exact .icmp6 outer quote inside

/-- A frame with a layout has one of the two IP headers. -/
theorem Layout.header {parsed : ParsedFrame} (layout : Layout frame parsed) :
    (∃ ihl, Ipv4Frame frame ihl) ∨ ∃ protocol offset, Ipv6Frame frame protocol offset := by
  cases layout with
  | udp4 outer protocol inside => exact .inl ⟨_, outer⟩
  | icmp4 outer protocol quote inside => exact .inl ⟨_, outer⟩
  | udp6 outer inside => exact .inr ⟨_, _, outer⟩
  | icmp6 outer quote inside => exact .inr ⟨_, _, outer⟩

/-- A layout of an IPv4 frame has its header. -/
theorem Layout.ipv4 {parsed : ParsedFrame} (layout : Layout frame parsed)
    (ethertype : u16At frame 12 = ethPIp) : ∃ ihl, Ipv4Frame frame ihl := by
  rcases layout.header with ipv4 | ⟨protocol, offset, ipv6⟩
  · exact ipv4
  · exact absurd (ethertype.symm.trans ipv6.ethertype) (by decide)

/-- A layout of an IPv6 frame has its chain. -/
theorem Layout.ipv6 {parsed : ParsedFrame} (layout : Layout frame parsed)
    (ethertype : u16At frame 12 = ethPIpv6) :
    ∃ protocol offset, Ipv6Frame frame protocol offset := by
  rcases layout.header with ⟨ihl, ipv4⟩ | ipv6
  · exact absurd (ethertype.symm.trans ipv4.ethertype) (by decide)
  · exact ipv6

/-- What `parseFrame` does with an IPv4 frame. -/
theorem parseFrameIpv4_finds (ethertype : u16At frame 12 = ethPIp) :
    (parseFrameIpv4 frame (octetsAt 6 frame 6)).Finds (Layout frame) := by
  unfold parseFrameIpv4
  simp only [ethHdrLen, ipv4MinHdrLen]
  refine .guard ?_ fun header => ?_
  · intro short parsed layout
    obtain ⟨ihl, outer⟩ := layout.ipv4 ethertype
    have long := outer.long
    omega
  rw [readByte_of_lt (by omega), Checked.ok_bind]
  refine .guard ?_ fun ihl_ge => ?_
  · intro short parsed layout
    obtain ⟨ihl, outer⟩ := layout.ipv4 ethertype
    have ihl_ge := outer.ihl_ge
    rw [← outer.ihl_eq] at ihl_ge
    exact Nat.not_lt.mpr ihl_ge short
  rw [readByte_of_lt (by omega), Checked.ok_bind, readIpv4_of_le (by omega),
    Checked.ok_bind, readIpv4_of_le (by omega), Checked.ok_bind]
  have outer : Ipv4Frame frame (ihlAt frame 14) := {
    long := by omega
    ethertype := ethertype
    ihl_eq := rfl
    ihl_ge := Nat.not_lt.mp ihl_ge }
  refine .branch (fun udp => parseFrameUdp_finds.congr fun parsed => ?_) fun notUdp =>
    .branch (fun icmp => (parseFrameIcmpIpv4_finds _).congr fun parsed => ?_) fun notIcmp =>
    .nothing fun parsed => ?_
  · have notIcmp : byteAt frame 23 ≠ ipprotoIcmp := fun icmp => absurd (udp.symm.trans icmp) (by decide)
    rw [outer.layout_iff, or_iff_left fun other => notIcmp other.1]
    exact and_iff_right udp
  · rw [outer.layout_iff, or_iff_right fun other => notUdp other.1]
    exact and_iff_right icmp
  · rw [outer.layout_iff]
    rintro (⟨udp, -⟩ | ⟨icmp, -⟩)
    · exact notUdp udp
    · exact notIcmp icmp

/-- What `parseFrame` does with an IPv6 frame. -/
theorem parseFrameIpv6_finds (ethertype : u16At frame 12 = ethPIpv6) :
    (parseFrameIpv6 frame (octetsAt 6 frame 6)).Finds (Layout frame) := by
  unfold parseFrameIpv6
  simp only [ethHdrLen, ipv6HdrLen, maxIpv6ExtHdrs]
  refine .guard ?_ fun header => ?_
  · intro short parsed layout
    obtain ⟨protocol, offset, outer⟩ := layout.ipv6 ethertype
    have long := outer.long
    omega
  rw [readOctets_of_le (by omega), Checked.ok_bind, readOctets_of_le (by omega),
    Checked.ok_bind, readByte_of_lt (by omega), Checked.ok_bind]
  refine (walkExtHdrs_finds ..).bind ?_ ?_
  · intro absent
    refine .nothing fun parsed layout => ?_
    obtain ⟨protocol, offset, outer⟩ := layout.ipv6 ethertype
    exact absent (protocol, offset) outer.chain
  rintro ⟨last, finish⟩ chain
  have outer : Ipv6Frame frame last finish := ⟨by omega, ethertype, chain⟩
  refine .branch (fun udp => parseFrameUdp_finds.congr fun parsed => ?_) fun notUdp =>
    .branch (fun icmp => (parseFrameIcmpv6_finds _ _).congr fun parsed => ?_) fun notIcmp =>
    .nothing fun parsed => ?_
  · have notIcmp : last ≠ ipprotoIcmpv6 := fun icmp => absurd (udp.symm.trans icmp) (by decide)
    rw [outer.layout_iff, or_iff_left fun other => notIcmp other.1]
    exact and_iff_right udp
  · rw [outer.layout_iff, or_iff_right fun other => notUdp other.1]
    exact and_iff_right icmp
  · rw [outer.layout_iff]
    rintro (⟨udp, -⟩ | ⟨icmp, -⟩)
    · exact notUdp udp
    · exact notIcmp icmp

/-- The parser returns on every byte string: with the frame's layout if it has
one, with nothing otherwise. -/
theorem parseFrame_finds (frame : Bytes) : (parseFrame frame).Finds (Layout frame) := by
  unfold parseFrame
  simp only [ethHdrLen]
  refine .guard ?_ fun header => ?_
  · intro short parsed layout
    rcases layout.header with ⟨ihl, ipv4⟩ | ⟨protocol, offset, ipv6⟩
    · have long := ipv4.long
      omega
    · have long := ipv6.long
      omega
  rw [readOctets_of_le (by omega), Checked.ok_bind, readU16_of_le (by omega), Checked.ok_bind]
  refine .branch parseFrameIpv4_finds fun notIpv4 => .branch parseFrameIpv6_finds fun notIpv6 =>
    .nothing fun parsed layout => ?_
  rcases layout.header with ⟨ihl, ipv4⟩ | ⟨protocol, offset, ipv6⟩
  · exact notIpv4 ipv4.ethertype
  · exact notIpv6 ipv6.ethertype

/-- Parsing never panics. -/
theorem parseFrame_returns (frame : Bytes) : (parseFrame frame).Returns :=
  (parseFrame_finds frame).returns

/-- The parser computes the layout. -/
theorem parseFrame_eq_some_iff {parsed : ParsedFrame} :
    parseFrame frame = .ok (some parsed) ↔ Layout frame parsed :=
  (parseFrame_finds frame).eq_some_iff

/-- A frame has at most one layout. -/
theorem Layout.unique {parsed parsed' : ParsedFrame} (layout : Layout frame parsed)
    (layout' : Layout frame parsed') : parsed = parsed' :=
  (parseFrame_finds frame).unique layout layout'

end Parse

/-- The offsets a layout carries into the frame. -/
def L4.offsets : L4 → List Nat
  | .udp udpOffset quicOffset _ _ => [udpOffset, quicOffset]
  | .icmp innerQuicOffset _ => [innerQuicOffset]

/-- An ICMP or ICMPv6 error that quotes a UDP packet cut off inside the UDP header,
after the ports: four to seven of its eight bytes are there. -/
inductive TruncatedQuote (frame : Bytes) : Prop where
  | ipv4 {ihl udp : Nat} (header : Ipv4Frame frame ihl)
      (protocol : byteAt frame 23 = ipprotoIcmp) (quote : Ipv4Quote frame (14 + ihl) udp)
      (ports : udp + 4 ≤ frame.length) (cut : frame.length < udp + 8)
  | ipv6 {offset udp : Nat} (header : Ipv6Frame frame ipprotoIcmpv6 offset)
      (quote : Ipv6Quote frame offset udp) (ports : udp + 4 ≤ frame.length)
      (cut : frame.length < udp + 8)

/-- The offsets of a layout stay inside the frame exactly when the frame does not
quote a truncated UDP header. -/
theorem Layout.offsets_inside_iff {frame : Bytes} {parsed : ParsedFrame}
    (layout : Layout frame parsed) :
    (∀ offset ∈ parsed.l4.offsets, offset ≤ frame.length) ↔ ¬ TruncatedQuote frame := by
  cases layout with
  | udp4 header protocol inside =>
    constructor
    · intro offsets truncated
      cases truncated with
      | ipv4 header' protocol' quote ports cut =>
        exact absurd (protocol.symm.trans protocol') (by decide)
      | ipv6 header' quote ports cut => exact header.not_ipv6 header'
    · intro intact offset member
      simp only [L4.offsets, List.mem_cons, List.not_mem_nil, or_false] at member
      omega
  | icmp4 header protocol quote inside =>
    constructor
    · intro offsets truncated
      have quicInside := offsets _ List.mem_cons_self
      cases truncated with
      | ipv4 header' protocol' quote' ports cut =>
        obtain rfl := header.unique header'
        obtain rfl := quote.unique quote'
        omega
      | ipv6 header' quote' ports cut => exact header.not_ipv6 header'
    · intro intact offset member
      simp only [L4.offsets, List.mem_cons, List.not_mem_nil, or_false] at member
      subst member
      apply Nat.not_lt.mp
      intro cut
      exact intact (.ipv4 header protocol quote inside cut)
  | udp6 header inside =>
    constructor
    · intro offsets truncated
      cases truncated with
      | ipv4 header' protocol' quote ports cut => exact header'.not_ipv6 header
      | ipv6 header' quote ports cut => exact absurd (header.unique header').1 (by decide)
    · intro intact offset member
      simp only [L4.offsets, List.mem_cons, List.not_mem_nil, or_false] at member
      omega
  | icmp6 header quote inside =>
    constructor
    · intro offsets truncated
      have quicInside := offsets _ List.mem_cons_self
      cases truncated with
      | ipv4 header' protocol' quote' ports cut => exact header'.not_ipv6 header
      | ipv6 header' quote' ports cut =>
        obtain ⟨-, rfl⟩ := header.unique header'
        obtain rfl := quote.unique quote'
        omega
    · intro intact offset member
      simp only [L4.offsets, List.mem_cons, List.not_mem_nil, or_false] at member
      subst member
      apply Nat.not_lt.mp
      intro cut
      exact intact (.ipv6 header quote inside cut)

/-- A frame that quotes a truncated UDP header is accepted all the same. -/
theorem TruncatedQuote.layout {frame : Bytes} (truncated : TruncatedQuote frame) :
    ∃ parsed, Layout frame parsed := by
  cases truncated with
  | ipv4 header protocol quote ports cut => exact ⟨_, .icmp4 header protocol quote ports⟩
  | ipv6 header quote ports cut => exact ⟨_, .icmp6 header quote ports⟩

/-- On every byte string, the parser gets through and hands out offsets inside the
frame exactly when the frame does not quote a truncated UDP header. -/
theorem parseFrame_offsets_inside_iff (frame : Bytes) :
    ((parseFrame frame).Returns ∧ ∀ parsed, parseFrame frame = .ok (some parsed) →
      ∀ offset ∈ parsed.l4.offsets, offset ≤ frame.length) ↔ ¬ TruncatedQuote frame := by
  constructor
  · rintro ⟨-, inside⟩ truncated
    obtain ⟨parsed, layout⟩ := truncated.layout
    exact layout.offsets_inside_iff.mp (inside parsed (parseFrame_eq_some_iff.mpr layout)) truncated
  · intro intact
    refine ⟨parseFrame_returns frame, ?_⟩
    intro parsed accepted
    exact (parseFrame_eq_some_iff.mp accepted).offsets_inside_iff.mpr intact

/-- An ICMP destination-unreachable message that quotes an IPv4 header and the first
four bytes of a UDP header. -/
def truncatedQuoteFrame : Bytes :=
  [0x02, 0, 0, 0, 0, 1, 0x02, 0, 0, 0, 0, 2, 0x08, 0x00] ++
  [0x45, 0, 0, 52, 0, 0, 0, 0, 64, 1, 0, 0, 198, 51, 100, 1, 192, 0, 2, 1] ++
  [3, 1, 0, 0, 0, 0, 0, 0] ++
  [0x45, 0, 0, 28, 0, 0, 0, 0, 64, 17, 0, 0, 192, 0, 2, 1, 203, 0, 113, 9] ++
  [0x01, 0xbb, 0x30, 0x39]

/-- The parser puts the quoted QUIC bytes four bytes past the end of the frame, so
the slice every consumer takes there panics. -/
theorem truncated_quote_offset_outside :
    truncatedQuoteFrame.length = 66 ∧
      parseFrame truncatedQuoteFrame = .ok (some ⟨.ipv4, 20, ⟨[0x02, 0, 0, 0, 0, 2], rfl⟩,
        .v4 ⟨[198, 51, 100, 1], rfl⟩, .v4 ⟨[192, 0, 2, 1], rfl⟩,
        .icmp 70 ⟨.v4 ⟨[203, 0, 113, 9], rfl⟩, .v4 ⟨[192, 0, 2, 1], rfl⟩, 12345, 443⟩⟩) ∧
      ¬ 70 ≤ truncatedQuoteFrame.length ∧ sliceFrom truncatedQuoteFrame 70 = .error .slice := by
  refine ⟨by decide, by decide +kernel, by decide, by decide⟩

end Pesigitg
