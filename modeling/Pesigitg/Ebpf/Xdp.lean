import Pesigitg.Daemon.Frame

/-!
# The XDP program

The kernel-side filter reads a port out of every received frame and redirects the frame
to an AF_XDP socket when the port is a monitored one. Its parser is written
independently of the daemon's `parseFrame`: each packet access carries its own bounds check,
and the walk over IPv6 extension headers keeps only the low five bits of a header's
length so that the verifier can bound the offset.

`extractPort_of_layout` is the agreement of the two parsers where that truncation
does nothing. `MaskedHeader` describes the frames where it does, and
`MaskedHeader.misread` builds from each of them one on which the two ports differ.
-/

namespace Pesigitg

open Base

/-- The port a layout is filed under: the destination port of a UDP packet, and for an
ICMP error the quoted packet's source port. -/
def L4.port : L4 → UInt16
  | .udp _ _ _ dstPort => dstPort
  | .icmp _ reversedFlow => reversedFlow.dstPort

namespace Ebpf

/-- `Result<_, ()>` of the XDP program; an error aborts the packet. -/
abbrev Attempt (α : Type) := Except Unit α

inductive XdpAction where
  | aborted
  | pass
  | redirect
deriving DecidableEq, Repr

/-- `*ptr_at::<u8>(ctx, offset)?`. -/
def ptrAtU8 (frame : Bytes) (offset : Nat) : Attempt UInt8 :=
  if frame.length < offset + 1 then .error () else .ok (byteAt frame offset)

/-- `u16::from_be(*ptr_at::<u16>(ctx, offset)?)`. -/
def ptrAtU16 (frame : Bytes) (offset : Nat) : Attempt UInt16 :=
  if frame.length < offset + 2 then .error () else .ok (u16At frame offset)

/-- `parse_ipv4`. -/
def parseIpv4 (frame : Bytes) : Attempt (Option UInt16) := do
  let iphByte0 ← ptrAtU8 frame ethHdrLen
  let ihl := ihlOf iphByte0
  if ihl < ipv4MinHdrLen then .error ()
  else
    let protocol ← ptrAtU8 frame (ethHdrLen + 9)
    if protocol = ipprotoUdp then
      let udpOffset := ethHdrLen + ihl
      let dstPort ← ptrAtU16 frame (udpOffset + 2)
      pure (some dstPort)
    else if protocol = ipprotoIcmp then
      let icmpOffset := ethHdrLen + ihl
      let icmpType ← ptrAtU8 frame icmpOffset
      if icmpType ≠ icmpDestUnreach ∧ icmpType ≠ icmpTimeExceeded then pure none
      else
        let innerIpOffset := icmpOffset + icmpHdrLen
        let innerByte0 ← ptrAtU8 frame innerIpOffset
        let innerIhl := ihlOf innerByte0
        if innerIhl < ipv4MinHdrLen then pure none
        else
          let innerProto ← ptrAtU8 frame (innerIpOffset + 9)
          if innerProto ≠ ipprotoUdp then pure none
          else
            let innerUdpOffset := innerIpOffset + innerIhl
            let srcPort ← ptrAtU16 frame innerUdpOffset
            pure (some srcPort)
    else pure none

/-- The two extension header loops of `parse_ipv6`, over the protocols that end each. -/
def walkExtHdrs (stops : UInt8 → Bool) (frame : Bytes) :
    Nat → UInt8 → Nat → Attempt (Option (UInt8 × Nat))
  | 0, nextHdr, offset => pure (some (nextHdr, offset))
  | fuel + 1, nextHdr, offset =>
    if stops nextHdr then pure (some (nextHdr, offset))
    else if nextHdr = ipprotoFragment then do
      let next ← ptrAtU8 frame offset
      walkExtHdrs stops frame fuel next (offset + 8)
    else if nextHdr = ipprotoHopopts ∨ nextHdr = ipprotoRouting ∨ nextHdr = ipprotoDstopts then do
      let next ← ptrAtU8 frame offset
      let length ← ptrAtU8 frame (offset + 1)
      -- The verifier's bound on the offset: `as usize & 0x1F`.
      let extLen := length.toNat &&& 0x1F
      walkExtHdrs stops frame fuel next (offset + (extLen + 1) * 8)
    else pure none

/-- The quoted packet's port, once its extension headers are walked. -/
def parseIpv6Inner (frame : Bytes) : Option (UInt8 × Nat) → Attempt (Option UInt16)
  | none => pure none
  | some (innerNextHdr, innerOffset) =>
    if innerNextHdr ≠ ipprotoUdp then pure none
    else do
      let srcPort ← ptrAtU16 frame innerOffset
      pure (some srcPort)

/-- The dispatch of `parse_ipv6` after the walk over the frame's own headers. -/
def parseIpv6L4 (frame : Bytes) : Option (UInt8 × Nat) → Attempt (Option UInt16)
  | none => pure none
  | some (nextHdr, offset) =>
    if nextHdr = ipprotoUdp then do
      let dstPort ← ptrAtU16 frame (offset + 2)
      pure (some dstPort)
    else if nextHdr = ipprotoIcmpv6 then do
      let icmpType ← ptrAtU8 frame offset
      if icmpType ≠ icmpv6DestUnreach ∧ icmpType ≠ icmpv6PacketTooBig ∧
          icmpType ≠ icmpv6TimeExceeded then pure none
      else
        let innerIpOffset := offset + icmpHdrLen
        let innerNextHdr ← ptrAtU8 frame (innerIpOffset + 6)
        let walked ← walkExtHdrs innerStops frame maxIpv6ExtHdrs innerNextHdr
          (innerIpOffset + ipv6HdrLen)
        parseIpv6Inner frame walked
    else pure none

/-- `parse_ipv6`. -/
def parseIpv6 (frame : Bytes) : Attempt (Option UInt16) := do
  let nextHdr ← ptrAtU8 frame (ethHdrLen + 6)
  let walked ← walkExtHdrs outerStops frame maxIpv6ExtHdrs nextHdr (ethHdrLen + ipv6HdrLen)
  parseIpv6L4 frame walked

/-- The port extraction at the head of `try_pesigitg`. -/
def extractPort (frame : Bytes) : Attempt (Option UInt16) := do
  let ethProto ← ptrAtU16 frame 12
  if ethProto = ethPIp then parseIpv4 frame
  else if ethProto = ethPIpv6 then parseIpv6 frame
  else pure none

/-- `try_pesigitg`, over the monitored ports and the redirect into the socket map. -/
def tryPesigitg (ports : UInt16 → Bool) (redirect : Attempt XdpAction) (frame : Bytes) :
    Attempt XdpAction := do
  match ← extractPort frame with
  | none => pure .pass
  | some dstPort => if ports dstPort then redirect else pure .pass

/-- The program's verdict: an error aborts. -/
def pesigitg (ports : UInt16 → Bool) (redirect : Attempt XdpAction) (frame : Bytes) : XdpAction :=
  match tryPesigitg ports redirect frame with
  | .ok action => action
  | .error _ => .aborted

section Reads

variable {frame : Bytes} {offset : Nat}

/-- A check that passed goes on with its value. -/
@[simp] theorem ok_bind {α β : Type} (value : α) (next : α → Attempt β) :
    ((Except.ok value : Attempt α) >>= next) = next value := rfl

/-- A byte inside the frame passes the bounds check. -/
theorem ptrAtU8_of_lt (inside : offset < frame.length) :
    ptrAtU8 frame offset = .ok (byteAt frame offset) :=
  if_neg (by omega)

/-- So do two bytes inside it. -/
theorem ptrAtU16_of_le (inside : offset + 2 ≤ frame.length) :
    ptrAtU16 frame offset = .ok (u16At frame offset) :=
  if_neg (by omega)

end Reads

/-- The first header of a chain whose length the XDP walk truncates: an options header
at `place` with a length byte of 32 or more, reached from `nextHdr` at `offset` through
headers that both walks skip alike. -/
inductive LongOptions (stops : UInt8 → Bool) (frame : Bytes) (place : Nat) :
    Nat → UInt8 → Nat → Prop where
  | here {fuel : Nat} {nextHdr : UInt8} (going : stops nextHdr = false)
      (kind : nextHdr = ipprotoHopopts ∨ nextHdr = ipprotoRouting ∨ nextHdr = ipprotoDstopts)
      (inside : place + 1 < frame.length) (long : 32 ≤ (byteAt frame (place + 1)).toNat) :
      LongOptions stops frame place (fuel + 1) nextHdr place
  | fragment {fuel offset : Nat} {nextHdr : UInt8} (going : stops nextHdr = false)
      (kind : nextHdr = ipprotoFragment) (inside : offset < frame.length)
      (rest : LongOptions stops frame place fuel (byteAt frame offset) (offset + 8)) :
      LongOptions stops frame place (fuel + 1) nextHdr offset
  | options {fuel offset : Nat} {nextHdr : UInt8} (going : stops nextHdr = false)
      (kind : nextHdr = ipprotoHopopts ∨ nextHdr = ipprotoRouting ∨ nextHdr = ipprotoDstopts)
      (inside : offset + 1 < frame.length) (short : (byteAt frame (offset + 1)).toNat < 32)
      (rest : LongOptions stops frame place fuel (byteAt frame offset)
        (offset + ((byteAt frame (offset + 1)).toNat + 1) * 8)) :
      LongOptions stops frame place (fuel + 1) nextHdr offset

/-- Where the options header at `place` ends. -/
def optionsEnd (frame : Bytes) (place : Nat) : Nat :=
  place + ((byteAt frame (place + 1)).toNat + 1) * 8

/-- Where the XDP program takes the options header at `place` to end. -/
def maskedEnd (frame : Bytes) (place : Nat) : Nat :=
  place + ((byteAt frame (place + 1)).toNat % 32 + 1) * 8

section Walk

variable {stops : UInt8 → Bool} {frame : Bytes} {place : Nat}

/-- The mask keeps the length modulo 32. -/
theorem and_mask (length : UInt8) : length.toNat &&& 0x1F = length.toNat % 32 :=
  Nat.and_two_pow_sub_one_eq_mod length.toNat 5

/-- A long header is not before the start of the walk. -/
theorem LongOptions.place_ge {fuel offset : Nat} {nextHdr : UInt8}
    (header : LongOptions stops frame place fuel nextHdr offset) : offset ≤ place := by
  induction header with
  | here going kind inside long => exact Nat.le_refl _
  | fragment going kind inside rest ih => omega
  | options going kind inside short rest ih => omega

/-- Its length byte is 32 or more. -/
theorem LongOptions.long {fuel offset : Nat} {nextHdr : UInt8}
    (header : LongOptions stops frame place fuel nextHdr offset) :
    32 ≤ (byteAt frame (place + 1)).toNat := by
  induction header with
  | here going kind inside long => exact long
  | fragment going kind inside rest ih => exact ih
  | options going kind inside short rest ih => exact ih

/-- Its length byte is inside the frame. -/
theorem LongOptions.inside {fuel offset : Nat} {nextHdr : UInt8}
    (header : LongOptions stops frame place fuel nextHdr offset) : place + 1 < frame.length := by
  induction header with
  | here going kind inside long => exact inside
  | fragment going kind inside rest ih => exact ih
  | options going kind inside short rest ih => exact ih

/-- One step of the XDP walk over a fragment header. -/
theorem walkExtHdrs_fragment {fuel offset : Nat} {nextHdr : UInt8} (going : stops nextHdr = false)
    (kind : nextHdr = ipprotoFragment) (inside : offset < frame.length) :
    walkExtHdrs stops frame (fuel + 1) nextHdr offset =
      walkExtHdrs stops frame fuel (byteAt frame offset) (offset + 8) := by
  rw [walkExtHdrs, if_neg (Bool.eq_false_iff.mp going), if_pos kind, ptrAtU8_of_lt inside, ok_bind]

/-- One step of the XDP walk over an options header. -/
theorem walkExtHdrs_options {fuel offset : Nat} {nextHdr : UInt8} (going : stops nextHdr = false)
    (kind : nextHdr = ipprotoHopopts ∨ nextHdr = ipprotoRouting ∨ nextHdr = ipprotoDstopts)
    (inside : offset + 1 < frame.length) :
    walkExtHdrs stops frame (fuel + 1) nextHdr offset =
      walkExtHdrs stops frame fuel (byteAt frame offset) (maskedEnd frame offset) := by
  rw [walkExtHdrs, if_neg (Bool.eq_false_iff.mp going), if_neg (options_ne_fragment kind),
    if_pos kind, ptrAtU8_of_lt (by omega), ok_bind, ptrAtU8_of_lt inside, ok_bind]
  simp only [and_mask, maskedEnd]

/-- The mask does not change a short length. -/
theorem maskedEnd_of_short {offset : Nat} (short : (byteAt frame (offset + 1)).toNat < 32) :
    maskedEnd frame offset = optionsEnd frame offset := by
  rw [maskedEnd, optionsEnd, Nat.mod_eq_of_lt short]

/-- Along a chain without a truncated length the XDP walk ends where the chain does. -/
theorem walkExtHdrs_of_chain {fuel offset finish : Nat} {nextHdr last : UInt8}
    (chain : ExtChain stops frame fuel nextHdr offset last finish)
    (intact : ∀ place, ¬ LongOptions stops frame place fuel nextHdr offset) :
    walkExtHdrs stops frame fuel nextHdr offset = .ok (some (last, finish)) := by
  induction chain with
  | exhausted nextHdr offset => rfl
  | stopped offset stop => rw [walkExtHdrs, if_pos stop]; rfl
  | fragment going kind inside rest ih =>
    rw [walkExtHdrs_fragment going kind inside]
    apply ih
    intro place header
    exact intact place (.fragment going kind inside header)
  | @options fuel offset finish nextHdr last going kind inside rest ih =>
    have short : (byteAt frame (offset + 1)).toNat < 32 := by
      apply Nat.not_le.mp
      intro long
      exact intact offset (.here going kind inside long)
    rw [walkExtHdrs_options going kind inside, maskedEnd_of_short short]
    apply ih
    intro place header
    exact intact place (.options going kind inside short header)

/-- At a truncated length the XDP walk goes on inside the header's body. -/
theorem LongOptions.walkExtHdrs_eq {fuel offset : Nat} {nextHdr : UInt8}
    (header : LongOptions stops frame place fuel nextHdr offset) :
    ∃ left, walkExtHdrs stops frame fuel nextHdr offset =
      walkExtHdrs stops frame left (byteAt frame place) (maskedEnd frame place) := by
  induction header with
  | @here fuel nextHdr going kind inside long => exact ⟨fuel, walkExtHdrs_options going kind inside⟩
  | fragment going kind inside rest ih =>
    obtain ⟨left, same⟩ := ih
    exact ⟨left, (walkExtHdrs_fragment going kind inside).trans same⟩
  | options going kind inside short rest ih =>
    obtain ⟨left, same⟩ := ih
    refine ⟨left, (walkExtHdrs_options going kind inside).trans ?_⟩
    rw [maskedEnd_of_short short]
    exact same

end Walk

/-- The ICMPv6 types that both programs take for errors. -/
def IsIcmpv6Error (kind : UInt8) : Prop :=
  kind = icmpv6DestUnreach ∨ kind = icmpv6PacketTooBig ∨ kind = icmpv6TimeExceeded

/-- A frame with an options header at `place` whose length the XDP program truncates: in the
frame's own chain, or in the chain of the packet that an ICMPv6 error quotes. The XDP program
does not look into other ICMPv6 messages. -/
inductive MaskedHeader (frame : Bytes) (place : Nat) : Prop where
  | outer (ethertype : u16At frame 12 = ethPIpv6)
      (header : LongOptions outerStops frame place 6 (byteAt frame 20) 54)
  | quoted {icmp : Nat} (outer : Ipv6Frame frame ipprotoIcmpv6 icmp)
      (intact : ∀ place, ¬ LongOptions outerStops frame place 6 (byteAt frame 20) 54)
      (kind : IsIcmpv6Error (byteAt frame icmp))
      (header : LongOptions innerStops frame place 6 (byteAt frame (icmp + 14)) (icmp + 48))

section Agreement

variable {frame : Bytes}

/-- IPv4 frames are read by `parse_ipv4`. -/
theorem extractPort_ipv4 {ihl : Nat} (header : Ipv4Frame frame ihl) :
    extractPort frame = parseIpv4 frame := by
  have long := header.long
  rw [extractPort, ptrAtU16_of_le (by omega), ok_bind, if_pos header.ethertype]

/-- IPv6 frames are read by a walk over their chain. -/
theorem extractPort_ipv6 (long : 54 ≤ frame.length) (ethertype : u16At frame 12 = ethPIpv6) :
    extractPort frame =
      walkExtHdrs outerStops frame 6 (byteAt frame 20) 54 >>= parseIpv6L4 frame := by
  have notIpv4 : u16At frame 12 ≠ ethPIp := by
    rw [ethertype]
    decide
  rw [extractPort, ptrAtU16_of_le (by omega), ok_bind, if_neg notIpv4, if_pos ethertype, parseIpv6,
    ptrAtU8_of_lt (by simp only [ethHdrLen]; omega), ok_bind]
  rfl

/-- A UDP packet gives its destination port. -/
theorem parseIpv4_udp {ihl : Nat} (header : Ipv4Frame frame ihl)
    (protocol : byteAt frame 23 = ipprotoUdp) (inside : 14 + ihl + 4 ≤ frame.length) :
    parseIpv4 frame = .ok (some (u16At frame (14 + ihl + 2))) := by
  have long := header.long
  have read : ihlOf (byteAt frame 14) = ihl := header.ihl_eq
  unfold parseIpv4
  simp only [ethHdrLen, ipv4MinHdrLen]
  rw [ptrAtU8_of_lt (by omega), ok_bind, read, if_neg (Nat.not_lt.mpr header.ihl_ge),
    ptrAtU8_of_lt (by omega), ok_bind, if_pos protocol, ptrAtU16_of_le (by omega), ok_bind]
  rfl

/-- An ICMP error gives the source port of the packet it quotes. -/
theorem parseIpv4_icmp {ihl udp : Nat} (header : Ipv4Frame frame ihl)
    (protocol : byteAt frame 23 = ipprotoIcmp) (quote : Ipv4Quote frame (14 + ihl) udp)
    (inside : udp + 4 ≤ frame.length) : parseIpv4 frame = .ok (some (u16At frame udp)) := by
  have long := quote.long
  have read : ihlOf (byteAt frame 14) = ihl := header.ihl_eq
  have notUdp : byteAt frame (14 + 9) ≠ ipprotoUdp := by
    rw [protocol]
    decide
  have innerLong : ¬ ihlOf (byteAt frame (14 + ihl + 8)) < 20 := Nat.not_lt.mpr quote.ihl_ge
  have error : ¬ (byteAt frame (14 + ihl) ≠ icmpDestUnreach ∧
      byteAt frame (14 + ihl) ≠ icmpTimeExceeded) := by
    rintro ⟨notUnreach, notExceeded⟩
    rcases quote.kind with known | known
    · exact notUnreach known
    · exact notExceeded known
  unfold parseIpv4
  simp only [ethHdrLen, ipv4MinHdrLen, icmpHdrLen]
  rw [ptrAtU8_of_lt (by omega), ok_bind, read, if_neg (Nat.not_lt.mpr header.ihl_ge),
    ptrAtU8_of_lt (by omega), ok_bind, if_neg notUdp, if_pos protocol, ptrAtU8_of_lt (by omega),
    ok_bind, if_neg error, ptrAtU8_of_lt (by omega), ok_bind, if_neg innerLong,
    ptrAtU8_of_lt (by omega), ok_bind, if_neg (Decidable.not_not.mpr quote.protocol)]
  have start : 14 + ihl + 8 + ihlOf (byteAt frame (14 + ihl + 8)) = udp := quote.udp_eq.symm
  rw [start, ptrAtU16_of_le (by omega), ok_bind]
  rfl

/-- A UDP packet behind the chain gives its destination port. -/
theorem parseIpv6L4_udp {offset : Nat} (inside : offset + 4 ≤ frame.length) :
    parseIpv6L4 frame (some (ipprotoUdp, offset)) = .ok (some (u16At frame (offset + 2))) := by
  rw [parseIpv6L4, if_pos rfl, ptrAtU16_of_le (by omega), ok_bind]
  rfl

/-- An ICMPv6 error is read by a walk over the quoted chain. -/
theorem parseIpv6L4_icmp {icmp : Nat} (long : icmp + 48 ≤ frame.length)
    (kind : byteAt frame icmp = icmpv6DestUnreach ∨ byteAt frame icmp = icmpv6PacketTooBig ∨
      byteAt frame icmp = icmpv6TimeExceeded) :
    parseIpv6L4 frame (some (ipprotoIcmpv6, icmp)) =
      walkExtHdrs innerStops frame 6 (byteAt frame (icmp + 14)) (icmp + 48) >>=
        parseIpv6Inner frame := by
  have error : ¬ (byteAt frame icmp ≠ icmpv6DestUnreach ∧
      byteAt frame icmp ≠ icmpv6PacketTooBig ∧ byteAt frame icmp ≠ icmpv6TimeExceeded) := by
    rintro ⟨notUnreach, notTooBig, notExceeded⟩
    rcases kind with known | known | known
    · exact notUnreach known
    · exact notTooBig known
    · exact notExceeded known
  rw [parseIpv6L4, if_neg (by decide), if_pos rfl, ptrAtU8_of_lt (by omega), ok_bind, if_neg error]
  simp only [icmpHdrLen, ipv6HdrLen, maxIpv6ExtHdrs]
  rw [ptrAtU8_of_lt (by omega), ok_bind]

/-- A quoted UDP packet gives its source port. -/
theorem parseIpv6Inner_udp {offset : Nat} (inside : offset + 2 ≤ frame.length) :
    parseIpv6Inner frame (some (ipprotoUdp, offset)) = .ok (some (u16At frame offset)) := by
  rw [parseIpv6Inner, if_neg (Decidable.not_not.mpr rfl), ptrAtU16_of_le inside, ok_bind]
  rfl

/-- Where no length is truncated, the XDP program reads the layout's port. -/
theorem extractPort_of_layout {parsed : ParsedFrame} (layout : Layout frame parsed)
    (intact : ∀ place, ¬ MaskedHeader frame place) :
    extractPort frame = .ok (some parsed.l4.port) := by
  cases layout with
  | udp4 header protocol inside =>
    rw [extractPort_ipv4 header, parseIpv4_udp header protocol (by omega)]
    rfl
  | icmp4 header protocol quote inside =>
    rw [extractPort_ipv4 header, parseIpv4_icmp header protocol quote inside]
    rfl
  | udp6 header inside =>
    have walked := walkExtHdrs_of_chain header.chain fun place long =>
      intact place (.outer header.ethertype long)
    rw [extractPort_ipv6 header.long header.ethertype, walked, ok_bind, parseIpv6L4_udp (by omega)]
    rfl
  | icmp6 header quote inside =>
    have outerIntact : ∀ place, ¬ LongOptions outerStops frame place 6 (byteAt frame 20) 54 :=
      fun place long => intact place (.outer header.ethertype long)
    have walked := walkExtHdrs_of_chain header.chain outerIntact
    have quoteWalked := walkExtHdrs_of_chain quote.chain fun place long =>
      intact place (.quoted header outerIntact quote.kind long)
    rw [extractPort_ipv6 header.long header.ethertype, walked, ok_bind,
      parseIpv6L4_icmp quote.long quote.kind, quoteWalked, ok_bind, parseIpv6Inner_udp (by omega)]
    rfl

end Agreement

/-- Two frames of one length that differ at most from `start` up to `stop`. -/
structure SameOutside (start stop : Nat) (frame frame' : Bytes) : Prop where
  length_eq : frame'.length = frame.length
  byteAt_eq : ∀ index, index < start ∨ stop ≤ index → byteAt frame' index = byteAt frame index

section Body

variable {stops : UInt8 → Bool} {frame frame' : Bytes} {start stop place : Nat}

/-- Words outside the changed part are the same. -/
theorem SameOutside.u16At_eq (same : SameOutside start stop frame frame') {offset : Nat}
    (outside : offset + 2 ≤ start ∨ stop ≤ offset) : u16At frame' offset = u16At frame offset := by
  rw [u16At, u16At, same.byteAt_eq offset (by omega), same.byteAt_eq (offset + 1) (by omega)]

/-- So are octets. -/
theorem SameOutside.octetsAt_eq (same : SameOutside start stop frame frame') {count offset : Nat}
    (outside : offset + count ≤ start ∨ stop ≤ offset) :
    octetsAt count frame' offset = octetsAt count frame offset := by
  apply Subtype.ext
  apply List.map_congr_left
  intro index member
  have bound : index < count := List.mem_range.mp member
  exact same.byteAt_eq _ (by omega)

/-- So are addresses. -/
theorem SameOutside.ipv6At_eq (same : SameOutside start stop frame frame') {offset : Nat}
    (outside : offset + 16 ≤ start ∨ stop ≤ offset) : ipv6At frame' offset = ipv6At frame offset := by
  rw [ipv6At, ipv6At, same.octetsAt_eq outside]

/-- A chain reads nothing from `start` up to `stop` if all of it lies on one side. -/
theorem SameOutside.chain (same : SameOutside start stop frame frame') {fuel offset finish : Nat}
    {nextHdr last : UInt8} (chain : ExtChain stops frame fuel nextHdr offset last finish)
    (outside : finish ≤ start ∨ stop ≤ offset) :
    ExtChain stops frame' fuel nextHdr offset last finish := by
  induction chain with
  | exhausted nextHdr offset => exact .exhausted nextHdr offset
  | stopped offset stop => exact .stopped offset stop
  | @fragment fuel offset finish nextHdr last going kind inside rest ih =>
    have forward := rest.offset_le
    have read := same.byteAt_eq offset (by omega)
    refine .fragment going kind (same.length_eq ▸ inside) ?_
    rw [read]
    exact ih (by omega)
  | @options fuel offset finish nextHdr last going kind inside rest ih =>
    have forward := rest.offset_le
    have read := same.byteAt_eq offset (by omega)
    have readLength := same.byteAt_eq (offset + 1) (by omega)
    refine .options going kind (same.length_eq ▸ inside) ?_
    rw [read, readLength]
    exact ih (by omega)

/-- The chain goes on eight bytes behind a fragment header. -/
theorem fragment_rest {fuel offset finish : Nat} {nextHdr last : UInt8}
    (going : stops nextHdr = false) (kind : nextHdr = ipprotoFragment)
    (chain : ExtChain stops frame (fuel + 1) nextHdr offset last finish) :
    ExtChain stops frame fuel (byteAt frame offset) (offset + 8) last finish := by
  cases chain with
  | stopped offset stop => exact absurd (going.symm.trans stop) (by decide)
  | fragment going kind inside rest => exact rest
  | options going other inside rest => exact absurd kind (options_ne_fragment other)

/-- The chain goes on behind the body of an options header. -/
theorem options_rest {fuel offset finish : Nat} {nextHdr last : UInt8}
    (going : stops nextHdr = false)
    (kind : nextHdr = ipprotoHopopts ∨ nextHdr = ipprotoRouting ∨ nextHdr = ipprotoDstopts)
    (chain : ExtChain stops frame (fuel + 1) nextHdr offset last finish) :
    ExtChain stops frame fuel (byteAt frame offset) (optionsEnd frame offset) last finish := by
  cases chain with
  | stopped offset stop => exact absurd (going.symm.trans stop) (by decide)
  | fragment going other inside rest => exact absurd other (options_ne_fragment kind)
  | options going kind inside rest => exact rest

/-- The walk over the frame that the daemon makes does not look into an options body. -/
theorem LongOptions.chain {fuel offset finish : Nat} {nextHdr last : UInt8}
    (header : LongOptions stops frame place fuel nextHdr offset)
    (chain : ExtChain stops frame fuel nextHdr offset last finish)
    (same : SameOutside (place + 2) (optionsEnd frame place) frame frame') :
    ExtChain stops frame' fuel nextHdr offset last finish ∧ optionsEnd frame place ≤ finish := by
  induction header with
  | here going kind inside long =>
    have rest := options_rest going kind chain
    have read := same.byteAt_eq place (by omega)
    have readLength := same.byteAt_eq (place + 1) (by omega)
    refine ⟨.options going kind (same.length_eq ▸ inside) ?_, rest.offset_le⟩
    rw [read, readLength]
    exact same.chain rest (.inr (Nat.le_refl _))
  | @fragment fuel offset nextHdr going kind inside rest ih =>
    have ordered := rest.place_ge
    obtain ⟨moved, beyond⟩ := ih (fragment_rest going kind chain)
    refine ⟨.fragment going kind (same.length_eq ▸ inside) ?_, beyond⟩
    rw [same.byteAt_eq offset (by omega)]
    exact moved
  | @options fuel offset nextHdr going kind inside short rest ih =>
    have ordered := rest.place_ge
    obtain ⟨moved, beyond⟩ := ih (options_rest going kind chain)
    refine ⟨.options going kind (same.length_eq ▸ inside) ?_, beyond⟩
    rw [same.byteAt_eq offset (by omega), same.byteAt_eq (offset + 1) (by omega)]
    exact moved

/-- A truncated length stays where it is when only its header's body changes. -/
theorem LongOptions.congr {fuel offset : Nat} {nextHdr : UInt8}
    (header : LongOptions stops frame place fuel nextHdr offset)
    (same : SameOutside start stop frame frame') (before : place + 2 ≤ start) :
    LongOptions stops frame' place fuel nextHdr offset := by
  induction header with
  | here going kind inside long =>
    refine .here going kind (same.length_eq ▸ inside) ?_
    rw [same.byteAt_eq (place + 1) (by omega)]
    exact long
  | @fragment fuel offset nextHdr going kind inside rest ih =>
    have ordered := rest.place_ge
    refine .fragment going kind (same.length_eq ▸ inside) ?_
    rw [same.byteAt_eq offset (by omega)]
    exact ih
  | @options fuel offset nextHdr going kind inside short rest ih =>
    have ordered := rest.place_ge
    have readLength := same.byteAt_eq (offset + 1) (by omega)
    refine .options going kind (same.length_eq ▸ inside) (readLength ▸ short) ?_
    rw [same.byteAt_eq offset (by omega), readLength]
    exact ih

/-- A frame is a variant of itself. -/
theorem SameOutside.refl (start stop : Nat) (frame : Bytes) : SameOutside start stop frame frame where
  length_eq := rfl
  byteAt_eq := fun _ _ => rfl

/-- Variants are so both ways. -/
theorem SameOutside.symm (same : SameOutside start stop frame frame') :
    SameOutside start stop frame' frame where
  length_eq := same.length_eq.symm
  byteAt_eq := fun index outside => (same.byteAt_eq index outside).symm

/-- A quote outside the changed part is still there. -/
theorem SameOutside.ipv6Quote (same : SameOutside start stop frame frame') {icmp udp : Nat}
    (quote : Ipv6Quote frame icmp udp) (outside : udp ≤ start ∨ stop ≤ icmp) :
    Ipv6Quote frame' icmp udp := by
  have forward := quote.chain.offset_le
  refine ⟨?_, same.length_eq ▸ quote.long, ?_⟩
  · rw [same.byteAt_eq icmp (by omega)]
    exact quote.kind
  · rw [same.byteAt_eq (icmp + 14) (by omega)]
    exact same.chain quote.chain (by omega)

/-- A chain before the changed part is still there. -/
theorem SameOutside.ipv6Frame (same : SameOutside start stop frame frame') {protocol : UInt8}
    {offset : Nat} (outer : Ipv6Frame frame protocol offset) (before : offset ≤ start) :
    Ipv6Frame frame' protocol offset := by
  have forward := outer.chain.offset_le
  refine ⟨same.length_eq ▸ outer.long, ?_, ?_⟩
  · rw [same.u16At_eq (by omega)]
    exact outer.ethertype
  · rw [same.byteAt_eq 20 (by omega)]
    exact same.chain outer.chain (.inl before)

/-- An ICMPv6 error reads the same if the change lies between its fixed headers and the quoted
UDP header, or before the ICMP header altogether. -/
theorem SameOutside.layout_icmp6 (same : SameOutside start stop frame frame') {icmp udp : Nat}
    (fixed : 54 ≤ start) (apart : icmp + 48 ≤ start ∨ stop ≤ icmp) (behind : stop ≤ udp)
    (outer : Ipv6Frame frame' ipprotoIcmpv6 icmp) (quote : Ipv6Quote frame' icmp udp)
    (inside : udp + 4 ≤ frame.length) :
    Layout frame' ⟨.ipv6, icmp - 14, octetsAt 6 frame 6, ipv6At frame 22, ipv6At frame 38,
      .icmp (udp + 8) ⟨ipv6At frame (icmp + 8 + 24), ipv6At frame (icmp + 8 + 8),
        u16At frame (udp + 2), u16At frame udp⟩⟩ := by
  have sized := same.length_eq
  rw [← same.octetsAt_eq (by omega), ← same.ipv6At_eq (by omega), ← same.ipv6At_eq (by omega),
    ← same.ipv6At_eq (by omega), ← same.ipv6At_eq (by omega), ← same.u16At_eq (by omega),
    ← same.u16At_eq (by omega)]
  exact .icmp6 outer quote (by omega)

/-- A quoted chain does not depend on the body of a long header in it. -/
theorem LongOptions.ipv6Quote {icmp udp : Nat}
    (header : LongOptions innerStops frame place 6 (byteAt frame (icmp + 14)) (icmp + 48))
    (quote : Ipv6Quote frame icmp udp)
    (same : SameOutside (place + 2) (optionsEnd frame place) frame frame') :
    Ipv6Quote frame' icmp udp ∧ optionsEnd frame place ≤ udp := by
  have ordered := header.place_ge
  obtain ⟨moved, beyond⟩ := header.chain quote.chain same
  refine ⟨⟨?_, same.length_eq ▸ quote.long, ?_⟩, beyond⟩
  · rw [same.byteAt_eq icmp (by omega)]
    exact quote.kind
  · rw [same.byteAt_eq (icmp + 14) (by omega)]
    exact moved

/-- Nor does the frame's own chain. -/
theorem LongOptions.ipv6Frame {protocol : UInt8} {offset : Nat}
    (header : LongOptions outerStops frame place 6 (byteAt frame 20) 54)
    (outer : Ipv6Frame frame protocol offset)
    (same : SameOutside (place + 2) (optionsEnd frame place) frame frame') :
    Ipv6Frame frame' protocol offset ∧ optionsEnd frame place ≤ offset := by
  have ordered := header.place_ge
  obtain ⟨moved, beyond⟩ := header.chain outer.chain same
  refine ⟨⟨same.length_eq ▸ outer.long, ?_, ?_⟩, beyond⟩
  · rw [same.u16At_eq (by omega)]
    exact outer.ethertype
  · rw [same.byteAt_eq 20 (by omega)]
    exact moved

/-- The daemon sees the same layout whatever stands in the body of a long options
header, and that body lies inside the frame. -/
theorem MaskedHeader.layout {parsed : ParsedFrame} (masked : MaskedHeader frame place)
    (layout : Layout frame parsed)
    (same : SameOutside (place + 2) (optionsEnd frame place) frame frame') :
    Layout frame' parsed ∧ optionsEnd frame place ≤ frame.length := by
  have sized := same.length_eq
  cases masked with
  | outer ethertype header =>
    have ordered := header.place_ge
    cases layout with
    | udp4 other protocol inside => exact absurd (other.ethertype.symm.trans ethertype) (by decide)
    | icmp4 other protocol quote inside =>
      exact absurd (other.ethertype.symm.trans ethertype) (by decide)
    | udp6 outer inside =>
      obtain ⟨outer', beyond⟩ := header.ipv6Frame outer same
      refine ⟨?_, by omega⟩
      rw [← same.octetsAt_eq (by omega), ← same.ipv6At_eq (by omega), ← same.ipv6At_eq (by omega),
        ← same.u16At_eq (by omega), ← same.u16At_eq (by omega)]
      exact .udp6 outer' (by omega)
    | icmp6 outer quote inside =>
      obtain ⟨outer', beyond⟩ := header.ipv6Frame outer same
      have quoteForward := quote.chain.offset_le
      have quote' := same.ipv6Quote quote (.inr beyond)
      exact ⟨same.layout_icmp6 (by omega) (.inr beyond) (by omega) outer' quote' inside, by omega⟩
  | quoted outer intact kind header =>
    have ordered := header.place_ge
    have forward := outer.chain.offset_le
    cases layout with
    | udp4 other protocol inside => exact (other.not_ipv6 outer).elim
    | icmp4 other protocol quote inside => exact (other.not_ipv6 outer).elim
    | udp6 other inside => exact absurd (other.unique outer).1 (by decide)
    | icmp6 other quote inside =>
      obtain ⟨-, rfl⟩ := outer.unique other
      have outer' := same.ipv6Frame outer (by omega)
      obtain ⟨quote', beyond⟩ := header.ipv6Quote quote same
      exact ⟨same.layout_icmp6 (by omega) (.inl (by omega)) beyond outer' quote' inside, by omega⟩

/-- A truncated length is 32 or more. -/
theorem MaskedHeader.long (masked : MaskedHeader frame place) :
    32 ≤ (byteAt frame (place + 1)).toNat := by
  cases masked with
  | outer ethertype header => exact header.long
  | quoted outer intact kind header => exact header.long

/-- A truncated length stays one when only its header's body changes. -/
theorem MaskedHeader.congr (masked : MaskedHeader frame place)
    (same : SameOutside (place + 2) stop frame frame') : MaskedHeader frame' place := by
  cases masked with
  | outer ethertype header =>
    have ordered := header.place_ge
    refine .outer ((same.u16At_eq (by omega)).trans ethertype) ?_
    rw [same.byteAt_eq 20 (by omega)]
    exact header.congr same (Nat.le_refl _)
  | @quoted icmp outer intact kind header =>
    have ordered := header.place_ge
    have forward := outer.chain.offset_le
    have protocol := same.byteAt_eq 20 (by omega)
    have chain' : ExtChain outerStops frame' 6 (byteAt frame 20) 54 ipprotoIcmpv6 icmp :=
      same.chain outer.chain (by omega)
    refine .quoted (same.ipv6Frame outer (by omega)) ?_ ?_ ?_
    · -- A long header that the change had put before the quote would end before it too.
      intro place' header'
      rw [protocol] at header'
      have ended := (header'.chain chain' (.refl _ _ _)).2
      rw [optionsEnd] at ended
      exact intact place' (header'.congr same.symm (by omega))
    · rw [same.byteAt_eq icmp (by omega)]
      exact kind
    · rw [same.byteAt_eq (icmp + 14) (by omega)]
      exact header.congr same (Nat.le_refl _)

end Body

/-- "No next header", a protocol neither walk goes past. -/
def noNextHdr : UInt8 := 59

/-- A frame with bytes put at `start` that stop every reading of them as a header, and
that are no port with another low byte than `low`. -/
def decoy (frame : Bytes) (start : Nat) (low : UInt8) : Bytes :=
  ((frame.set start noNextHdr).set (start + 1) low).set (start + 3) low

section Decoy

variable {frame : Bytes} {start : Nat} {low : UInt8}

/-- The decoy keeps the length of the frame. -/
theorem decoy_length : (decoy frame start low).length = frame.length := by
  simp [decoy]

/-- The decoy begins with the protocol that stands for nothing. -/
theorem decoy_first (inside : start + 4 ≤ frame.length) :
    byteAt (decoy frame start low) start = noNextHdr := by
  rw [decoy, byteAt_set_of_ne (by omega), byteAt_set_of_ne (by omega),
    byteAt_set_self (by omega)]

/-- Its second byte is the chosen one. -/
theorem decoy_second (inside : start + 4 ≤ frame.length) :
    byteAt (decoy frame start low) (start + 1) = low := by
  rw [decoy, byteAt_set_of_ne (by omega), byteAt_set_self (by simp; omega)]

/-- So is its fourth. -/
theorem decoy_fourth (inside : start + 4 ≤ frame.length) :
    byteAt (decoy frame start low) (start + 3) = low := by
  rw [decoy, byteAt_set_self (by simp; omega)]

/-- The decoy changes nothing outside its four bytes. -/
theorem decoy_sameOutside {first stop : Nat} (after : first ≤ start) (before : start + 4 ≤ stop) :
    SameOutside first stop frame (decoy frame start low) where
  length_eq := decoy_length
  byteAt_eq := by
    intro index outside
    rw [decoy, byteAt_set_of_ne (by omega), byteAt_set_of_ne (by omega), byteAt_set_of_ne (by omega)]

end Decoy

section Misread

variable {stops : UInt8 → Bool} {frame : Bytes} {start : Nat}

/-- A walk ends at the protocol that stands for nothing. -/
theorem walkExtHdrs_noNextHdr (going : stops noNextHdr = false) (fuel offset : Nat) :
    walkExtHdrs stops frame fuel noNextHdr offset = .ok none ∨
      walkExtHdrs stops frame fuel noNextHdr offset = .ok (some (noNextHdr, offset)) := by
  cases fuel with
  | zero => exact .inr rfl
  | succ fuel =>
    left
    rw [walkExtHdrs, if_neg (Bool.eq_false_iff.mp going), if_neg (by decide), if_neg (by decide)]
    rfl

/-- From a position that holds `noNextHdr`, the walk stays there or finds no protocol. -/
theorem walkExtHdrs_marker (going : stops noNextHdr = false) (inside : start + 1 < frame.length)
    (marker : byteAt frame start = noNextHdr) (fuel : Nat) (nextHdr : UInt8) :
    walkExtHdrs stops frame fuel nextHdr start = .ok none ∨
      walkExtHdrs stops frame fuel nextHdr start = .ok (some (nextHdr, start)) ∨
      ∃ offset, walkExtHdrs stops frame fuel nextHdr start = .ok (some (noNextHdr, offset)) := by
  cases fuel with
  | zero => exact .inr (.inl rfl)
  | succ fuel =>
    -- A header taken here names `noNextHdr` as what follows it.
    have taken : ∀ offset, walkExtHdrs stops frame (fuel + 1) nextHdr start =
        walkExtHdrs stops frame fuel (byteAt frame start) offset →
        walkExtHdrs stops frame (fuel + 1) nextHdr start = .ok none ∨
          walkExtHdrs stops frame (fuel + 1) nextHdr start = .ok (some (nextHdr, start)) ∨
          ∃ offset, walkExtHdrs stops frame (fuel + 1) nextHdr start =
            .ok (some (noNextHdr, offset)) := by
      intro offset step
      rw [marker] at step
      rcases walkExtHdrs_noNextHdr going fuel offset with ended | stayed
      · exact .inl (step.trans ended)
      · exact .inr (.inr ⟨offset, step.trans stayed⟩)
    by_cases stop : stops nextHdr = true
    · right; left
      rw [walkExtHdrs, if_pos stop]
      rfl
    have notStop : stops nextHdr = false := Bool.eq_false_iff.mpr stop
    by_cases fragment : nextHdr = ipprotoFragment
    · exact taken _ (walkExtHdrs_fragment notStop fragment (by omega))
    by_cases options : nextHdr = ipprotoHopopts ∨ nextHdr = ipprotoRouting ∨
        nextHdr = ipprotoDstopts
    · exact taken _ (walkExtHdrs_options notStop options inside)
    · left
      rw [walkExtHdrs, if_neg stop, if_neg fragment, if_neg options]
      rfl

/-- What follows the walk then runs at the position itself, unless it finds nothing. -/
theorem walkExtHdrs_marker_bind (dispatch : Option (UInt8 × Nat) → Attempt (Option UInt16))
    (going : stops noNextHdr = false) (nothing : dispatch none = .ok none)
    (ignores : ∀ offset, dispatch (some (noNextHdr, offset)) = .ok none)
    (inside : start + 1 < frame.length) (marker : byteAt frame start = noNextHdr) (fuel : Nat)
    (nextHdr : UInt8) :
    walkExtHdrs stops frame fuel nextHdr start >>= dispatch = .ok none ∨
      walkExtHdrs stops frame fuel nextHdr start >>= dispatch =
        dispatch (some (nextHdr, start)) := by
  rcases walkExtHdrs_marker going inside marker fuel nextHdr with
    walked | walked | ⟨offset, walked⟩
  · rw [walked, ok_bind]
    exact .inl nothing
  · rw [walked, ok_bind]
    exact .inr rfl
  · rw [walked, ok_bind]
    exact .inl (ignores offset)

/-- What the XDP program makes of a frame's own headers once its walk is at a decoy. -/
theorem parseIpv6L4_marker (inside : start + 4 ≤ frame.length)
    (marker : byteAt frame start = noNextHdr) (fuel : Nat) (nextHdr : UInt8) :
    walkExtHdrs outerStops frame fuel nextHdr start >>= parseIpv6L4 frame = .ok none ∨
      walkExtHdrs outerStops frame fuel nextHdr start >>= parseIpv6L4 frame =
        .ok (some (u16At frame (start + 2))) := by
  have going : outerStops noNextHdr = false := by decide
  rcases walkExtHdrs_marker_bind (parseIpv6L4 frame) going rfl (fun _ => rfl) (by omega) marker fuel
    nextHdr with ended | stayed
  · exact .inl ended
  · rw [stayed]
    by_cases udp : nextHdr = ipprotoUdp
    · subst udp
      exact .inr (parseIpv6L4_udp inside)
    left
    by_cases icmp : nextHdr = ipprotoIcmpv6
    · rw [parseIpv6L4, if_neg udp, if_pos icmp, ptrAtU8_of_lt (by omega), ok_bind, marker,
        if_pos (by decide)]
      rfl
    · rw [parseIpv6L4, if_neg udp, if_neg icmp]
      rfl

/-- The same for the quoted packet's headers. -/
theorem parseIpv6Inner_marker (inside : start + 4 ≤ frame.length)
    (marker : byteAt frame start = noNextHdr) (fuel : Nat) (nextHdr : UInt8) :
    walkExtHdrs innerStops frame fuel nextHdr start >>= parseIpv6Inner frame = .ok none ∨
      walkExtHdrs innerStops frame fuel nextHdr start >>= parseIpv6Inner frame =
        .ok (some (u16At frame start)) := by
  have going : innerStops noNextHdr = false := by decide
  rcases walkExtHdrs_marker_bind (parseIpv6Inner frame) going rfl (fun _ => rfl) (by omega) marker fuel
    nextHdr with ended | stayed
  · exact .inl ended
  · rw [stayed]
    by_cases udp : nextHdr = ipprotoUdp
    · subst udp
      exact .inr (parseIpv6Inner_udp (by omega))
    · left
      rw [parseIpv6Inner, if_pos udp]
      rfl

/-- The byte after the low byte of a port is the low byte of no reading of that port. -/
theorem beU16_ne_of_low (port : UInt16) (high : UInt8) :
    beU16 high (UInt8.ofNat (port.toNat + 1)) ≠ port := by
  intro same
  have value := congrArg UInt16.toNat same
  have highSmall : high.toNat < 256 := high.toNat_lt
  simp only [beU16, ofBe, List.foldl_cons, List.foldl_nil, UInt16.toNat_ofNat', UInt8.toNat_ofNat']
    at value
  omega

/-- The walk of the XDP program takes the header at `place` for a shorter one and goes on inside
its body, on its way to the frame's own transport header or to the quoted one. -/
def EntersBody (frame : Bytes) (place : Nat) : Prop :=
  maskedEnd frame place < optionsEnd frame place ∧ ∃ left,
    (extractPort frame =
        walkExtHdrs outerStops frame left (byteAt frame place) (maskedEnd frame place) >>=
          parseIpv6L4 frame ∨
      extractPort frame =
        walkExtHdrs innerStops frame left (byteAt frame place) (maskedEnd frame place) >>=
          parseIpv6Inner frame)

/-- Every truncated length is one that the XDP program comes to. -/
theorem MaskedHeader.enters {place : Nat} (masked : MaskedHeader frame place) :
    EntersBody frame place := by
  have long := masked.long
  refine ⟨by rw [maskedEnd, optionsEnd]; omega, ?_⟩
  cases masked with
  | outer ethertype header =>
    have ordered := header.place_ge
    have inside := header.inside
    obtain ⟨left, walked⟩ := header.walkExtHdrs_eq
    exact ⟨left, .inl (by rw [extractPort_ipv6 (by omega) ethertype, walked])⟩
  | quoted outer intact kind header =>
    have ordered := header.place_ge
    have inside := header.inside
    obtain ⟨left, walked⟩ := header.walkExtHdrs_eq
    refine ⟨left, .inr ?_⟩
    rw [extractPort_ipv6 outer.long outer.ethertype, walkExtHdrs_of_chain outer.chain intact,
      ok_bind, parseIpv6L4_icmp (by omega) kind, walked]

/-- On a frame that holds `noNextHdr` where a truncated length leads, the XDP program reads
no port or one of the two that start there. -/
theorem MaskedHeader.extractPort_cases {place : Nat} (masked : MaskedHeader frame place)
    (inside : maskedEnd frame place + 4 ≤ frame.length)
    (marker : byteAt frame (maskedEnd frame place) = noNextHdr) :
    extractPort frame = .ok none ∨
      extractPort frame = .ok (some (u16At frame (maskedEnd frame place + 2))) ∨
      extractPort frame = .ok (some (u16At frame (maskedEnd frame place))) := by
  obtain ⟨-, left, outer | quoted⟩ := masked.enters
  · rw [outer]
    rcases parseIpv6L4_marker inside marker left (byteAt frame place) with rejected | accepted
    · exact .inl rejected
    · exact .inr (.inl accepted)
  · rw [quoted]
    rcases parseIpv6Inner_marker inside marker left (byteAt frame place) with rejected | accepted
    · exact .inl rejected
    · exact .inr (.inr accepted)

/-- From a frame with a truncated length, other bytes in that header's body make a frame
the daemon parses alike and the XDP program misreads. -/
theorem MaskedHeader.misread {place : Nat} {parsed : ParsedFrame}
    (masked : MaskedHeader frame place) (layout : Layout frame parsed) :
    ∃ frame', SameOutside (place + 2) (optionsEnd frame place) frame frame' ∧
      Layout frame' parsed ∧ extractPort frame' ≠ .ok (some parsed.l4.port) := by
  have long := masked.long
  have after : place + 2 ≤ maskedEnd frame place := by
    rw [maskedEnd]
    omega
  have before : maskedEnd frame place + 4 ≤ optionsEnd frame place := by
    rw [maskedEnd, optionsEnd]
    omega
  obtain ⟨low, lowEq⟩ : ∃ low, low = UInt8.ofNat (parsed.l4.port.toNat + 1) := ⟨_, rfl⟩
  obtain ⟨frame', made⟩ : ∃ frame', frame' = decoy frame (maskedEnd frame place) low := ⟨_, rfl⟩
  have same : SameOutside (place + 2) (optionsEnd frame place) frame frame' := by
    rw [made]
    exact decoy_sameOutside after before
  obtain ⟨layout', within⟩ := masked.layout layout same
  have masked' := masked.congr same
  have mark : maskedEnd frame' place = maskedEnd frame place := by
    rw [maskedEnd, maskedEnd, same.byteAt_eq (place + 1) (by omega)]
  have sized := same.length_eq
  have first : byteAt frame' (maskedEnd frame place) = noNextHdr := by
    rw [made]
    exact decoy_first (by omega)
  have second : byteAt frame' (maskedEnd frame place + 1) = low := by
    rw [made]
    exact decoy_second (by omega)
  have fourth : byteAt frame' (maskedEnd frame place + 3) = low := by
    rw [made]
    exact decoy_fourth (by omega)
  refine ⟨frame', same, layout', ?_⟩
  rcases masked'.extractPort_cases (by omega) (mark.symm ▸ first) with
    none | outer | quoted
  · rw [none]
    exact nofun
  · rw [outer, mark, u16At, fourth, lowEq]
    intro equal
    exact beU16_ne_of_low _ _ (Option.some.inj (Except.ok.inj equal))
  · rw [quoted, mark, u16At, second, lowEq]
    intro equal
    exact beU16_ne_of_low _ _ (Option.some.inj (Except.ok.inj equal))

end Misread

/-- The XDP program reads the port that the daemon files the frame under. -/
def PortsAgree (frame : Bytes) : Prop :=
  ∀ parsed, parseFrame frame = .ok (some parsed) → extractPort frame = .ok (some parsed.l4.port)

/-- A frame the daemon parses is redirected on the strength of its layout's port only. -/
theorem PortsAgree.redirected {frame : Bytes} {parsed : ParsedFrame} {ports : UInt16 → Bool}
    {redirect : Attempt XdpAction} (agree : PortsAgree frame)
    (accepted : parseFrame frame = .ok (some parsed))
    (redirected : pesigitg ports redirect frame = .redirect) : ports parsed.l4.port = true := by
  rw [pesigitg, tryPesigitg, agree parsed accepted, ok_bind] at redirected
  by_cases monitored : ports parsed.l4.port = true
  · exact monitored
  · simp [monitored] at redirected
    cases redirected

/-- The two programs read the same port from every frame without a truncated length. In every
frame that has one, the XDP program walks into the body of that header; and if the daemon parses
the frame, it parses a variant of it in the same way that the XDP program reads another port from,
or none. -/
theorem xdp_reads_layout_port (frame : Bytes) :
    ((∀ place, ¬ MaskedHeader frame place) → PortsAgree frame) ∧
      ∀ place, MaskedHeader frame place → EntersBody frame place ∧
        ∀ parsed, parseFrame frame = .ok (some parsed) →
          ∃ frame', SameOutside (place + 2) (optionsEnd frame place) frame frame' ∧
            parseFrame frame' = .ok (some parsed) ∧ ¬ PortsAgree frame' := by
  constructor
  · intro intact parsed accepted
    exact extractPort_of_layout (parseFrame_eq_some_iff.mp accepted) intact
  · intro place masked
    refine ⟨masked.enters, ?_⟩
    intro parsed accepted
    obtain ⟨frame', same, layout, differs⟩ :=
      masked.misread (parseFrame_eq_some_iff.mp accepted)
    have accepted' := parseFrame_eq_some_iff.mpr layout
    exact ⟨frame', same, accepted', fun agree => differs (agree parsed accepted')⟩

/-- A UDP packet to port 443 behind one hop-by-hop header of 264 bytes. -/
def longHopByHop : Bytes :=
  List.replicate 12 0 ++ [0x86, 0xdd] ++ List.replicate 6 0 ++ [0] ++ List.replicate 33 0 ++
    [17, 32] ++ List.replicate 262 0 ++ [0xc0, 0x00, 0x01, 0xbb, 0x00, 0x08, 0x00, 0x00]

/-- The program takes that header for one of 8 bytes and reads port 0 from its body. -/
theorem long_hop_by_hop_misread : ¬ PortsAgree longHopByHop := by
  intro agree
  have accepted : parseFrame longHopByHop = .ok (some ⟨.ipv6, 304, ⟨List.replicate 6 0, rfl⟩,
      .v6 ⟨List.replicate 16 0, rfl⟩, .v6 ⟨List.replicate 16 0, rfl⟩,
      .udp 318 326 0xc000 443⟩) := by
    decide +kernel
  have misread : extractPort longHopByHop = .ok (some 0) := by
    decide +kernel
  have wrong := (agree _ accepted).symm.trans misread
  exact absurd wrong (by decide)

end Ebpf

end Pesigitg
