import Pesigitg.Daemon.Frame

/-!
# Frames built from their headers

The frames a sender builds: an Ethernet header, an IPv4 header with options or an IPv6 header
with extension headers, a UDP header and a payload. Fields the parser does not read are kept
as bytes. `parseFrame_build` reads every such frame back, and shows where the walk over
extension headers ends: six are followed, a seventh makes the parser give up.
-/

namespace Pesigitg

open Base

structure EthHeader where
  dst : Mac
  src : Mac
deriving DecidableEq, Repr

def EthHeader.bytes (eth : EthHeader) (ethertype : UInt16) : Bytes :=
  eth.dst.val ++ eth.src.val ++ toBe 2 ethertype.toNat

structure UdpHeader where
  srcPort : UInt16
  dstPort : UInt16
  /-- Length and checksum. -/
  rest : Octets 4
deriving DecidableEq, Repr

def UdpHeader.bytes (udp : UdpHeader) : Bytes :=
  toBe 2 udp.srcPort.toNat ++ toBe 2 udp.dstPort.toNat ++ udp.rest.val

structure Ipv4Header where
  /-- Header length in words. -/
  ihl : Nat
  ihl_ge : 5 ≤ ihl
  ihl_le : ihl ≤ 15
  /-- From the type of service to the time to live. -/
  head : Octets 8
  checksum : Octets 2
  src : Octets 4
  dst : Octets 4
  options : Octets (ihl * 4 - 20)
deriving DecidableEq, Repr

def Ipv4Header.bytes (ip : Ipv4Header) (protocol : UInt8) : Bytes :=
  [UInt8.ofNat (0x40 + ip.ihl)] ++ ip.head.val ++ [protocol] ++ ip.checksum.val ++
    ip.src.val ++ ip.dst.val ++ ip.options.val

structure Ipv6Header where
  /-- From the version to the payload length. -/
  head : Octets 6
  hopLimit : UInt8
  src : Octets 16
  dst : Octets 16
deriving DecidableEq, Repr

def Ipv6Header.bytes (ip : Ipv6Header) (nextHdr : UInt8) : Bytes :=
  ip.head.val ++ [nextHdr] ++ [ip.hopLimit] ++ ip.src.val ++ ip.dst.val

/-- The extension headers that share one format. -/
inductive OptionsKind where
  | hopopts
  | routing
  | dstopts
deriving DecidableEq, Repr

def OptionsKind.protocol : OptionsKind → UInt8
  | .hopopts => ipprotoHopopts
  | .routing => ipprotoRouting
  | .dstopts => ipprotoDstopts

/-- An IPv6 extension header behind its next-header byte. -/
inductive ExtHeader where
  | fragment (body : Octets 7)
  /-- `length` counts units of eight bytes, without the first. -/
  | options (kind : OptionsKind) (length : UInt8) (body : Octets (length.toNat * 8 + 6))
deriving DecidableEq, Repr

namespace ExtHeader

/-- The protocol number that announces the header. -/
def protocol : ExtHeader → UInt8
  | fragment _ => ipprotoFragment
  | options kind _ _ => kind.protocol

def bytes : ExtHeader → UInt8 → Bytes
  | fragment body, next => next :: body.val
  | options _ length body, next => next :: length :: body.val

end ExtHeader

/-- The protocol number in front of a chain of extension headers that ends in `last`. -/
def chainProtocol : List ExtHeader → UInt8 → UInt8
  | [], last => last
  | header :: _, _ => header.protocol

/-- The bytes of a chain of extension headers that ends in `last`. -/
def chainBytes : List ExtHeader → UInt8 → Bytes
  | [], _ => []
  | header :: rest, last => header.bytes (chainProtocol rest last) ++ chainBytes rest last

/-- An IPv4 frame up to its UDP header. -/
def ipv4Head (eth : EthHeader) (ip : Ipv4Header) : Bytes :=
  eth.bytes ethPIp ++ ip.bytes ipprotoUdp

/-- An IPv6 frame up to its UDP header. -/
def ipv6Head (eth : EthHeader) (ip : Ipv6Header) (chain : List ExtHeader) : Bytes :=
  eth.bytes ethPIpv6 ++ ip.bytes (chainProtocol chain ipprotoUdp) ++ chainBytes chain ipprotoUdp

section Lengths

/-- An Ethernet header has 14 bytes. -/
@[simp] theorem EthHeader.bytes_length (eth : EthHeader) (ethertype : UInt16) :
    (eth.bytes ethertype).length = 14 := by
  simp [bytes, eth.dst.property, eth.src.property]

/-- A UDP header has 8 bytes. -/
@[simp] theorem UdpHeader.bytes_length (udp : UdpHeader) : udp.bytes.length = 8 := by
  simp [bytes, udp.rest.property]

/-- An IPv4 header is as long as its length field says. -/
@[simp] theorem Ipv4Header.bytes_length (ip : Ipv4Header) (protocol : UInt8) :
    (ip.bytes protocol).length = ip.ihl * 4 := by
  have long := ip.ihl_ge
  simp [bytes, ip.head.property, ip.checksum.property, ip.src.property, ip.dst.property,
    ip.options.property]
  omega

/-- An IPv6 header has 40 bytes. -/
@[simp] theorem Ipv6Header.bytes_length (ip : Ipv6Header) (nextHdr : UInt8) :
    (ip.bytes nextHdr).length = 40 := by
  simp [bytes, ip.head.property, ip.src.property, ip.dst.property]

end Lengths

section Fields

variable (before after : Bytes)

/-- The fields of an Ethernet header at the front of a frame. -/
theorem EthHeader.fields (eth : EthHeader) (ethertype : UInt16) :
    octetsAt 6 (eth.bytes ethertype ++ after) 6 = eth.src ∧
      u16At (eth.bytes ethertype ++ after) 12 = ethertype := by
  have srcPlace : eth.dst.val.length = 6 := eth.dst.property
  have typePlace : (eth.dst.val ++ eth.src.val).length = 12 := by
    simp [eth.dst.property, eth.src.property]
  have src := Holds.of_append eth.dst.val eth.src.val (toBe 2 ethertype.toNat ++ after)
  have kind := Holds.of_append (eth.dst.val ++ eth.src.val) (toBe 2 ethertype.toNat) after
  rw [srcPlace] at src
  rw [typePlace] at kind
  rw [← List.append_assoc] at src
  exact ⟨holds_octets src, holds_u16 kind⟩

/-- The ports of a UDP header that stands behind something. -/
theorem UdpHeader.ports (udp : UdpHeader) :
    u16At (before ++ (udp.bytes ++ after)) before.length = udp.srcPort ∧
      u16At (before ++ (udp.bytes ++ after)) (before.length + 2) = udp.dstPort := by
  have src := Holds.of_append before (toBe 2 udp.srcPort.toNat)
    (toBe 2 udp.dstPort.toNat ++ udp.rest.val ++ after)
  have dst := Holds.of_append (before ++ toBe 2 udp.srcPort.toNat) (toBe 2 udp.dstPort.toNat)
    (udp.rest.val ++ after)
  rw [List.length_append, toBe_length] at dst
  simp only [List.append_assoc] at src dst
  simp only [bytes, List.append_assoc]
  exact ⟨holds_u16 src, holds_u16 dst⟩

/-- The fields of an IPv4 header behind the Ethernet header. -/
theorem Ipv4Header.fields (ip : Ipv4Header) (protocol : UInt8) (placed : before.length = 14) :
    ihlAt (before ++ (ip.bytes protocol ++ after)) 14 = ip.ihl * 4 ∧
      byteAt (before ++ (ip.bytes protocol ++ after)) 23 = protocol ∧
      ipv4At (before ++ (ip.bytes protocol ++ after)) 26 = .v4 ip.src ∧
      ipv4At (before ++ (ip.bytes protocol ++ after)) 30 = .v4 ip.dst := by
  have first := Holds.of_append before [UInt8.ofNat (0x40 + ip.ihl)] (ip.head.val ++ [protocol] ++
    ip.checksum.val ++ ip.src.val ++ ip.dst.val ++ ip.options.val ++ after)
  have kind := Holds.of_append (before ++ [UInt8.ofNat (0x40 + ip.ihl)] ++ ip.head.val) [protocol]
    (ip.checksum.val ++ ip.src.val ++ ip.dst.val ++ ip.options.val ++ after)
  have src := Holds.of_append (before ++ [UInt8.ofNat (0x40 + ip.ihl)] ++ ip.head.val ++ [protocol] ++
    ip.checksum.val) ip.src.val (ip.dst.val ++ ip.options.val ++ after)
  have dst := Holds.of_append (before ++ [UInt8.ofNat (0x40 + ip.ihl)] ++ ip.head.val ++ [protocol] ++
    ip.checksum.val ++ ip.src.val) ip.dst.val (ip.options.val ++ after)
  simp only [List.length_append, List.length_singleton, placed, ip.head.property,
    ip.checksum.property, ip.src.property, Nat.reduceAdd] at first kind src dst
  simp only [List.append_assoc] at first kind src dst
  simp only [bytes, List.append_assoc]
  refine ⟨?_, kind.byte, holds_ipv4 src, holds_ipv4 dst⟩
  rw [ihlAt, first.byte, ihlOf, UInt8.toNat_and, UInt8.toNat_ofNat']
  have short := ip.ihl_le
  have low : (0x40 + ip.ihl) % 2 ^ 8 &&& 0x0F = (0x40 + ip.ihl) % 2 ^ 8 % 2 ^ 4 :=
    Nat.and_two_pow_sub_one_eq_mod _ 4
  rw [show UInt8.toNat 0x0F = 0x0F from rfl, low]
  omega

/-- The fields of an IPv6 header behind the Ethernet header. -/
theorem Ipv6Header.fields (ip : Ipv6Header) (nextHdr : UInt8) (placed : before.length = 14) :
    byteAt (before ++ (ip.bytes nextHdr ++ after)) 20 = nextHdr ∧
      ipv6At (before ++ (ip.bytes nextHdr ++ after)) 22 = .v6 ip.src ∧
      ipv6At (before ++ (ip.bytes nextHdr ++ after)) 38 = .v6 ip.dst := by
  have kind := Holds.of_append (before ++ ip.head.val) [nextHdr]
    ([ip.hopLimit] ++ ip.src.val ++ ip.dst.val ++ after)
  have src := Holds.of_append (before ++ ip.head.val ++ [nextHdr] ++ [ip.hopLimit]) ip.src.val
    (ip.dst.val ++ after)
  have dst := Holds.of_append (before ++ ip.head.val ++ [nextHdr] ++ [ip.hopLimit] ++ ip.src.val)
    ip.dst.val after
  simp only [List.length_append, List.length_singleton, placed, ip.head.property,
    ip.src.property, Nat.reduceAdd] at kind src dst
  simp only [List.append_assoc] at kind src dst
  simp only [bytes, List.append_assoc]
  exact ⟨kind.byte, holds_ipv6 src, holds_ipv6 dst⟩

end Fields

section Chain

/-- None of the extension headers ends the walk. -/
theorem ExtHeader.outerStops_protocol (header : ExtHeader) : outerStops header.protocol = false := by
  cases header with
  | fragment body => rfl
  | options kind length body => cases kind <;> rfl

/-- One header of a built chain: the walk goes on behind it, with the protocol it announces. -/
theorem ExtHeader.extChain_step (header : ExtHeader) (before rest : Bytes) (next : UInt8)
    {fuel finish : Nat} {last : UInt8}
    (walk : ExtChain outerStops (before ++ (header.bytes next ++ rest)) fuel next
      (before ++ header.bytes next).length last finish) :
    ExtChain outerStops (before ++ (header.bytes next ++ rest)) (fuel + 1) header.protocol
      before.length last finish := by
  have going := header.outerStops_protocol
  cases header with
  | fragment body =>
    have announced : byteAt (before ++ ((fragment body).bytes next ++ rest)) before.length = next := by
      simp [bytes, byteAt]
    have size : (before ++ (fragment body).bytes next).length = before.length + 8 := by
      simp [bytes, body.property]
    rw [size] at walk
    refine .fragment going rfl (by simp [bytes]) ?_
    rwa [announced]
  | options kind length body =>
    have announced : byteAt (before ++ ((options kind length body).bytes next ++ rest))
        before.length = next := by
      simp [bytes, byteAt]
    have declared : byteAt (before ++ ((options kind length body).bytes next ++ rest))
        (before.length + 1) = length := by
      rw [byteAt_append_right (by omega), Nat.add_sub_cancel_left]
      rfl
    have size : (before ++ (options kind length body).bytes next).length =
        before.length + (length.toNat + 1) * 8 := by
      simp [bytes, body.property]
      omega
    rw [size] at walk
    refine .options going ?_ (by simp [bytes]) ?_
    · cases kind
      · exact .inl rfl
      · exact .inr (.inl rfl)
      · exact .inr (.inr rfl)
    · rwa [announced, declared]

/-- The walk over a built chain of at most `fuel` headers ends behind it. -/
theorem extChain_built {last : UInt8} (stop : outerStops last = true) (chain : List ExtHeader)
    (before after : Bytes) {fuel : Nat} (enough : chain.length ≤ fuel) :
    ExtChain outerStops (before ++ (chainBytes chain last ++ after)) fuel
      (chainProtocol chain last) before.length last (before ++ chainBytes chain last).length := by
  induction chain generalizing before fuel with
  | nil =>
    simp only [chainBytes, chainProtocol, List.append_nil]
    cases fuel with
    | zero => exact .exhausted _ _
    | succ fuel => exact .stopped _ stop
  | cons header rest ih =>
    obtain ⟨fuel, rfl⟩ : ∃ count, fuel = count + 1 := ⟨fuel - 1, by simp at enough; omega⟩
    have walk := ih (before ++ header.bytes (chainProtocol rest last))
      (Nat.le_of_succ_le_succ enough)
    simp only [chainBytes, chainProtocol, List.append_assoc] at walk ⊢
    exact header.extChain_step before _ _ walk

/-- The walk over a longer chain runs out at a header of the chain. -/
theorem extChain_exhausted (last : UInt8) (chain : List ExtHeader) (before after : Bytes) {fuel : Nat}
    (short : fuel < chain.length) :
    ∃ header ∈ chain, ∃ finish, ExtChain outerStops (before ++ (chainBytes chain last ++ after)) fuel
      (chainProtocol chain last) before.length header.protocol finish := by
  induction chain generalizing before fuel with
  | nil => exact absurd short (Nat.not_lt_zero fuel)
  | cons header rest ih =>
    cases fuel with
    | zero => exact ⟨header, List.mem_cons_self, before.length, .exhausted _ _⟩
    | succ fuel =>
      obtain ⟨reached, member, finish, walk⟩ :=
        ih (before ++ header.bytes (chainProtocol rest last)) (Nat.lt_of_succ_lt_succ short)
      refine ⟨reached, List.mem_cons_of_mem _ member, finish, ?_⟩
      simp only [chainBytes, chainProtocol, List.append_assoc] at walk ⊢
      exact header.extChain_step before _ _ walk

end Chain

section Frames

variable (eth : EthHeader) (udp : UdpHeader) (payload : Bytes)

/-- A frame that was built has the IPv4 header it was built with. -/
theorem ipv4Frame_build (ip : Ipv4Header) :
    Ipv4Frame (ipv4Head eth ip ++ (udp.bytes ++ payload)) (ip.ihl * 4) := by
  obtain ⟨ihl, -, -, -⟩ := ip.fields (eth.bytes ethPIp) (udp.bytes ++ payload) ipprotoUdp (by simp)
  obtain ⟨-, kind⟩ := eth.fields (ip.bytes ipprotoUdp ++ (udp.bytes ++ payload)) ethPIp
  have long := ip.ihl_ge
  rw [← List.append_assoc] at ihl kind
  refine ⟨?_, kind, ihl, by omega⟩
  simp [ipv4Head]
  omega

/-- The frame of an IPv6 header and a chain, as far as the walk gets. -/
theorem ipv6Frame_build (ip : Ipv6Header) (chain : List ExtHeader) {protocol : UInt8} {finish : Nat}
    (walk : ExtChain outerStops (eth.bytes ethPIpv6 ++ ip.bytes (chainProtocol chain ipprotoUdp) ++
      (chainBytes chain ipprotoUdp ++ (udp.bytes ++ payload))) 6 (chainProtocol chain ipprotoUdp)
      (eth.bytes ethPIpv6 ++ ip.bytes (chainProtocol chain ipprotoUdp)).length protocol finish) :
    Ipv6Frame (ipv6Head eth ip chain ++ (udp.bytes ++ payload)) protocol finish := by
  obtain ⟨next, -, -⟩ := ip.fields (eth.bytes ethPIpv6)
    (chainBytes chain ipprotoUdp ++ (udp.bytes ++ payload)) (chainProtocol chain ipprotoUdp)
    (by simp)
  obtain ⟨-, kind⟩ := eth.fields (ip.bytes (chainProtocol chain ipprotoUdp) ++
    (chainBytes chain ipprotoUdp ++ (udp.bytes ++ payload))) ethPIpv6
  simp only [ipv6Head, List.append_assoc] at next kind walk ⊢
  refine ⟨?_, kind, ?_⟩
  · simp
    omega
  · rw [next]
    simpa using walk

/-- The layout the parser should find: the addresses that were written, and the UDP header and
the payload where they start. -/
def builtLayout (family : IpFamily) (ipHdr head : Bytes) (srcAddr dstAddr : IpAddr) : ParsedFrame :=
  ⟨family, ipHdr.length, eth.src, srcAddr, dstAddr,
    .udp head.length (head ++ udp.bytes).length udp.srcPort udp.dstPort⟩

/-- Its layout is that of its parts. -/
theorem layout_build_ipv4 (ip : Ipv4Header) :
    Layout (ipv4Head eth ip ++ (udp.bytes ++ payload))
      (builtLayout eth udp .ipv4 (ip.bytes ipprotoUdp) (ipv4Head eth ip) (.v4 ip.src)
        (.v4 ip.dst)) := by
  obtain ⟨-, kind, src, dst⟩ := ip.fields (eth.bytes ethPIp) (udp.bytes ++ payload) ipprotoUdp
    (by simp)
  obtain ⟨mac, -⟩ := eth.fields (ip.bytes ipprotoUdp ++ (udp.bytes ++ payload)) ethPIp
  obtain ⟨srcPort, dstPort⟩ := udp.ports (ipv4Head eth ip) payload
  have start : (ipv4Head eth ip).length = 14 + ip.ihl * 4 := by simp [ipv4Head]
  rw [← List.append_assoc] at kind src dst mac
  have layout := Layout.udp4 (ipv4Frame_build eth udp payload ip) kind
    (by simp [ipv4Head]; omega)
  rw [start] at srcPort dstPort
  rw [builtLayout, List.length_append, start, UdpHeader.bytes_length, Ipv4Header.bytes_length,
    ← srcPort, ← dstPort, ← src, ← dst, ← mac]
  exact layout

/-- So it is for IPv6, behind a chain of up to six headers. -/
theorem layout_build_ipv6 (ip : Ipv6Header) {chain : List ExtHeader} (few : chain.length ≤ 6) :
    Layout (ipv6Head eth ip chain ++ (udp.bytes ++ payload))
      (builtLayout eth udp .ipv6 (ip.bytes (chainProtocol chain ipprotoUdp) ++
        chainBytes chain ipprotoUdp) (ipv6Head eth ip chain) (.v6 ip.src) (.v6 ip.dst)) := by
  have walk := extChain_built (show outerStops ipprotoUdp = true from rfl) chain
    (eth.bytes ethPIpv6 ++ ip.bytes (chainProtocol chain ipprotoUdp)) (udp.bytes ++ payload) few
  have frame := ipv6Frame_build eth udp payload ip chain walk
  obtain ⟨-, src, dst⟩ := ip.fields (eth.bytes ethPIpv6)
    (chainBytes chain ipprotoUdp ++ (udp.bytes ++ payload)) (chainProtocol chain ipprotoUdp)
    (by simp)
  obtain ⟨mac, -⟩ := eth.fields (ip.bytes (chainProtocol chain ipprotoUdp) ++
    (chainBytes chain ipprotoUdp ++ (udp.bytes ++ payload))) ethPIpv6
  obtain ⟨srcPort, dstPort⟩ := udp.ports (ipv6Head eth ip chain) payload
  have regroup : eth.bytes ethPIpv6 ++ (ip.bytes (chainProtocol chain ipprotoUdp) ++
      (chainBytes chain ipprotoUdp ++ (udp.bytes ++ payload))) =
      ipv6Head eth ip chain ++ (udp.bytes ++ payload) := by
    simp [ipv6Head]
  rw [regroup] at src dst mac
  have layout := Layout.udp6 frame (by simp [ipv6Head]; omega)
  have header : (ip.bytes (chainProtocol chain ipprotoUdp) ++ chainBytes chain ipprotoUdp).length =
      (ipv6Head eth ip chain).length - 14 := by
    simp [ipv6Head]
  rw [builtLayout, header, List.length_append, UdpHeader.bytes_length, ← srcPort, ← dstPort, ← src,
    ← dst, ← mac]
  exact layout

/-- A longer chain leaves the parser at an extension header, where it gives up. -/
theorem no_layout_long_chain (ip : Ipv6Header) {chain : List ExtHeader} (many : 7 ≤ chain.length)
    (parsed : ParsedFrame) : ¬ Layout (ipv6Head eth ip chain ++ (udp.bytes ++ payload)) parsed := by
  obtain ⟨header, -, finish, walk⟩ := extChain_exhausted ipprotoUdp chain
    (eth.bytes ethPIpv6 ++ ip.bytes (chainProtocol chain ipprotoUdp)) (udp.bytes ++ payload)
    (show 6 < chain.length from many)
  have frame := ipv6Frame_build eth udp payload ip chain walk
  have going := header.outerStops_protocol
  rw [frame.layout_iff]
  rintro (⟨isUdp, -⟩ | ⟨isIcmp, -⟩)
  · rw [isUdp] at going
    exact absurd going (by decide)
  · rw [isIcmp] at going
    exact absurd going (by decide)

end Frames

/-- The parser reads back every frame that was built with an IPv4 header, or with an IPv6 header
and up to six extension headers, and returns nothing for a longer chain. -/
theorem parseFrame_build (eth : EthHeader) (udp : UdpHeader) (payload : Bytes) :
    (∀ ip : Ipv4Header, parseFrame (ipv4Head eth ip ++ (udp.bytes ++ payload)) =
      .ok (some (builtLayout eth udp .ipv4 (ip.bytes ipprotoUdp) (ipv4Head eth ip) (.v4 ip.src)
        (.v4 ip.dst)))) ∧
    ∀ (ip : Ipv6Header) (chain : List ExtHeader),
      (chain.length ≤ 6 → parseFrame (ipv6Head eth ip chain ++ (udp.bytes ++ payload)) =
        .ok (some (builtLayout eth udp .ipv6 (ip.bytes (chainProtocol chain ipprotoUdp) ++
          chainBytes chain ipprotoUdp) (ipv6Head eth ip chain) (.v6 ip.src) (.v6 ip.dst)))) ∧
      (7 ≤ chain.length →
        parseFrame (ipv6Head eth ip chain ++ (udp.bytes ++ payload)) = .ok none) := by
  refine ⟨?_, ?_⟩
  · intro ip
    exact parseFrame_eq_some_iff.mpr (layout_build_ipv4 eth udp payload ip)
  · intro ip chain
    refine ⟨?_, ?_⟩
    · intro few
      exact parseFrame_eq_some_iff.mpr (layout_build_ipv6 eth udp payload ip few)
    · intro many
      exact (parseFrame_finds _).eq_none_iff.mpr (no_layout_long_chain eth udp payload ip many)

namespace SampleBuild

def eth : EthHeader := ⟨⟨[2, 0, 0, 0, 0, 1], rfl⟩, ⟨[2, 0, 0, 0, 0, 2], rfl⟩⟩

def udp : UdpHeader := ⟨40000, 443, ⟨[0, 9, 0, 0], rfl⟩⟩

def ip : Ipv6Header :=
  ⟨⟨[0x60, 0, 0, 0, 0, 24], rfl⟩, 64, ⟨List.replicate 15 0 ++ [1], rfl⟩,
    ⟨List.replicate 15 0 ++ [2], rfl⟩⟩

/-- A fragment header and a destination-options header of sixteen bytes. -/
def chain : List ExtHeader :=
  [.fragment ⟨[0, 0, 0, 0, 0, 0, 9], rfl⟩,
    .options .dstopts 1 ⟨[1, 12, 0, 0, 0, 0, 0, 0, 0, 0, 0, 0, 0, 0], rfl⟩]

/-- Seven fragment headers. -/
def longChain : List ExtHeader := List.replicate 7 (.fragment ⟨[0, 0, 0, 0, 0, 0, 9], rfl⟩)

end SampleBuild

open SampleBuild in
/-- With two extension headers the packet is found; with seven it is not. -/
theorem parseFrame_build_sample :
    parseFrame (ipv6Head eth ip chain ++ (udp.bytes ++ [0x40])) =
        .ok (some ⟨.ipv6, 64, eth.src, .v6 ip.src, .v6 ip.dst, .udp 78 86 40000 443⟩) ∧
      parseFrame (ipv6Head eth ip longChain ++ (udp.bytes ++ [0x40])) = .ok none :=
  ⟨((parseFrame_build eth udp [0x40]).2 ip chain).1 (by decide),
    ((parseFrame_build eth udp [0x40]).2 ip longChain).2 (by decide)⟩

end Pesigitg
