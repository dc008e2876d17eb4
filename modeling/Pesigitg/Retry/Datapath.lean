import Pesigitg.Daemon.ConfigTable
import Pesigitg.Daemon.Frame
import Pesigitg.Retry.Packet

/-!
# The Retry datapath

`tryHandle` looks at every parsed frame before the routing pipeline does. It forwards an
Initial that carries a valid token, and it rewrites one without into a Retry packet addressed
back to the sender, in the frame's own buffer. `tryHandle_emission` collects what such a
rewrite went through.
-/

namespace Pesigitg

open Base Quic

/-- One frame of the packet memory: the bytes of its chunk and how many of them are the packet. -/
structure FrameView where
  chunk : Bytes
  len : Nat
  fits : len ≤ chunk.length
deriving DecidableEq

namespace FrameView

/-- The current packet bytes. -/
def contents (view : FrameView) : Bytes := view.chunk.take view.len

/-- Total writable size of the chunk. -/
def capacity (view : FrameView) : Nat := view.chunk.length

/-- Set the packet length; what stood in the chunk stays there. -/
def resize (view : FrameView) (newLen : Nat) : Option FrameView :=
  if fits : newLen ≤ view.chunk.length then some ⟨view.chunk, newLen, fits⟩ else none

/-- Write packet bytes of unchanged length back through `contents_mut`. -/
def writeBack (view : FrameView) (bytes : Bytes) : FrameView where
  chunk := bytes.take view.len ++ view.chunk.drop (min view.len bytes.length)
  len := view.len
  fits := by
    have fits := view.fits
    simp
    omega

/-- The contents of a frame have its length. -/
@[simp] theorem contents_length (view : FrameView) : view.contents.length = view.len := by
  have fits := view.fits
  simp [contents]
  omega

/-- What is written back are the contents. -/
theorem contents_writeBack {view : FrameView} {bytes : Bytes} (sized : bytes.length = view.len) :
    (view.writeBack bytes).contents = bytes := by
  simp [contents, writeBack, ← sized]

end FrameView

/-- Outcome of the Retry classifier for one received frame. -/
inductive Outcome where
  | skip
  | forward
  | emitted
deriving DecidableEq, Repr

/-- What the statistics record about the classification. -/
inductive Detail where
  | none
  | parseError
  | tokenValid
  | tokenInvalid
  | tokenExpired
  | issued
  | observed
deriving DecidableEq, Repr

/-- Frame offsets and 4-tuple, for the frames the rewrite can handle. -/
structure FrameLayout where
  isIpv4 : Bool
  ipOffset : Nat
  ipHdrLen : Nat
  udpOffset : Nat
  quicOffset : Nat
  srcMac : Mac
  srcIp : IpAddr
  dstIp : IpAddr
  srcPort : UInt16
  dstPort : UInt16
deriving DecidableEq, Repr

/-- UDP only, and IPv6 only without extension headers. -/
def FrameLayout.fromParsed (parsed : ParsedFrame) : Option FrameLayout :=
  match parsed.l4 with
  | .icmp _ _ => none
  | .udp udpOffset quicOffset srcPort dstPort =>
    let isIpv4? :=
      match parsed.family with
      | .ipv4 => some true
      | .ipv6 => if ipv6HdrLen < parsed.ipHdrLen then none else some false
    isIpv4?.map fun isIpv4 =>
      ⟨isIpv4, ethHdrLen, parsed.ipHdrLen, udpOffset, quicOffset, parsed.srcMac, parsed.srcAddr,
        parsed.dstAddr, srcPort, dstPort⟩

section Checksums

/-- Add the big-endian 16-bit words of a slice, an odd last byte padded with zero. -/
def foldSlice (acc : UInt32) : Bytes → UInt32
  | high :: low :: rest => foldSlice (acc + (beU16 high low).toUInt32) rest
  | [high] => acc + (high.toUInt32 <<< 8)
  | [] => acc

/-- The loop that folds the carries back in; two rounds are enough. -/
def foldCarry : Nat → UInt32 → UInt32
  | 0, acc => acc
  | rounds + 1, acc =>
    if 0xffff < acc then foldCarry rounds ((acc &&& (0xffff : UInt32)) + (acc >>> 16)) else acc

def onesComplementSum (bytes : Bytes) : UInt16 := ~~~ (foldCarry 2 (foldSlice 0 bytes)).toUInt16

def writeIpv4Checksum (frame : Bytes) (ipOffset ipHdrLen : Nat) : Checked Bytes := do
  let frame ← writeByte frame (ipOffset + 10) 0
  let frame ← writeByte frame (ipOffset + 11) 0
  let header ← slice frame ipOffset (ipOffset + ipHdrLen)
  copyInto frame (ipOffset + 10) (ipOffset + 12) (toBe 2 (onesComplementSum header).toNat)

def writeIpv6UdpChecksum (frame : Bytes) (layout : FrameLayout) : Checked Bytes := do
  let udpLen ← readU16 frame (layout.udpOffset + 4)
  let frame ← writeByte frame (layout.udpOffset + 6) 0
  let frame ← writeByte frame (layout.udpOffset + 7) 0
  let addresses ← slice frame (layout.ipOffset + 8) (layout.ipOffset + 40)
  let acc := foldSlice 0 addresses + udpLen.toUInt32 + ipprotoUdp.toUInt32
  let datagram ← slice frame layout.udpOffset (layout.udpOffset + udpLen.toNat)
  let sum := (~~~ foldCarry 2 (foldSlice acc datagram)).toUInt16
  -- Zero stands for "no checksum".
  let sum := if sum = 0 then 0xffff else sum
  copyInto frame (layout.udpOffset + 6) (layout.udpOffset + 8) (toBe 2 sum.toNat)

/-- One round adds the high half to the low one. -/
theorem foldStep_toNat (sum : UInt32) : ((sum &&& (0xffff : UInt32)) + (sum >>> 16)).toNat =
    sum.toNat % 65536 + sum.toNat / 65536 := by
  have small : sum.toNat < 2 ^ 32 := sum.toNat_lt
  have low : sum.toNat &&& 65535 = sum.toNat % 65536 := Nat.and_two_pow_sub_one_eq_mod _ 16
  rw [UInt32.toNat_add, UInt32.toNat_and, UInt32.toNat_shiftRight]
  simp only [UInt32.reduceToNat, Nat.reduceMod, Nat.shiftRight_eq_div_pow, Nat.reducePow, low]
  omega

/-- Two rounds leave no carry, whatever the sum. -/
theorem foldCarry_le (acc : UInt32) : (foldCarry 2 acc).toNat ≤ 0xffff := by
  have limit : (0xffff : UInt32).toNat = 65535 := rfl
  have small : acc.toNat < 2 ^ 32 := acc.toNat_lt
  simp only [foldCarry, UInt32.lt_iff_toNat_lt, limit]
  split
  · split
    · rw [foldStep_toNat, foldStep_toNat]
      omega
    · omega
  · omega

end Checksums

section Headers

/-- The reply's addresses: the original destination and the client, as octets. -/
def reflectedV4Addrs (layout : FrameLayout) : Checked (Octets 4 × Octets 4) :=
  match layout.srcIp, layout.dstIp with
  | .v4 src, .v4 dst => pure (dst, src)
  | .v6 _, _ => .error (.unreachable "v4 layout with non-v4 src")
  | _, .v6 _ => .error (.unreachable "v4 layout with non-v4 dst")

def reflectedV6Addrs (layout : FrameLayout) : Checked (Octets 16 × Octets 16) :=
  match layout.srcIp, layout.dstIp with
  | .v6 src, .v6 dst => pure (dst, src)
  | .v4 _, _ => .error (.unreachable "v6 layout with non-v6 src")
  | _, .v4 _ => .error (.unreachable "v6 layout with non-v6 dst")

/-- The Ethernet, IPv4 and UDP header fields of a reply. -/
def reflectedIpv4 (layout : FrameLayout) (localMac : Mac) (payloadLen : Nat)
    (src dst : Octets 4) : List (Nat × Bytes) :=
  let totalLen := UInt16.ofNat (ipv4MinHdrLen + udpHdrLen + payloadLen)
  let udpLen := UInt16.ofNat (udpHdrLen + payloadLen)
  [(0, layout.srcMac.val), (6, localMac.val), (12, toBe 2 ethPIp.toNat), (14, [0x45]), (15, [0x00]),
    (16, toBe 2 totalLen.toNat), (18, [0x00, 0x00]), (20, [0x40, 0x00]), (22, [64]),
    (23, [ipprotoUdp]), (24, [0, 0]), (26, src.val), (30, dst.val),
    (34, toBe 2 layout.dstPort.toNat), (36, toBe 2 layout.srcPort.toNat),
    (38, toBe 2 udpLen.toNat), (40, [0, 0])]

/-- The Ethernet, IPv6 and UDP header fields of a reply. -/
def reflectedIpv6 (layout : FrameLayout) (localMac : Mac) (payloadLen : Nat)
    (src dst : Octets 16) : List (Nat × Bytes) :=
  let udpLen := UInt16.ofNat (udpHdrLen + payloadLen)
  [(0, layout.srcMac.val), (6, localMac.val), (12, toBe 2 ethPIpv6.toNat), (14, [0x60]),
    (15, [0x00]), (16, [0x00]), (17, [0x00]), (18, toBe 2 udpLen.toNat), (20, [ipprotoUdp]),
    (21, [64]), (22, src.val), (38, dst.val), (54, toBe 2 layout.dstPort.toNat),
    (56, toBe 2 layout.srcPort.toNat), (58, toBe 2 udpLen.toNat), (60, [0, 0])]

/-- Write the reply's headers; the result is their length and the buffer. -/
def buildReflectedHeaders (out : Bytes) (layout : FrameLayout) (localMac : Mac)
    (payloadLen : Nat) : Checked (Nat × Bytes) :=
  if layout.isIpv4 then do
    let (src, dst) ← reflectedV4Addrs layout
    let out ← writeFields (reflectedIpv4 layout localMac payloadLen src dst) out
    pure (ethHdrLen + ipv4MinHdrLen + udpHdrLen, out)
  else do
    let (src, dst) ← reflectedV6Addrs layout
    let out ← writeFields (reflectedIpv6 layout localMac payloadLen src dst) out
    pure (ethHdrLen + ipv6HdrLen + udpHdrLen, out)

end Headers

/-- Outcome of the policy decision, before any bytes are rewritten. -/
inductive Decision where
  | skip
  | forward
  | emit
deriving DecidableEq, Repr

/-- Count one Initial and compare the last window's rate against the trigger. -/
def loadOverTrigger (retry : RetryConfig) (pending : UInt64) : Checked (Bool × UInt64) := do
  let tracker ← Checked.expect retry.loadTracker "load_tracker is Some when mode is Load"
  let trigger ← Checked.expect retry.loadTriggerRate "load_trigger_rate is Some when mode is Load"
  pure (decide (trigger ≤ tracker.rate), pending + 1)

/-- Emit or skip, for a token that did not verify. -/
def loadGatedDecision (retry : RetryConfig) (pending : UInt64) : Checked (Decision × UInt64) :=
  match retry.mode with
  | .always => pure (.emit, pending)
  | .observe => pure (.skip, pending)
  | .load => do
    let (triggered, pending) ← loadOverTrigger retry pending
    pure (if triggered then .emit else .skip, pending)

/-- Emit or skip, for an Initial without a token. -/
def classifyTokenless (retry : RetryConfig) (pending : UInt64) :
    Checked ((Decision × Detail) × UInt64) :=
  match retry.mode with
  | .always => pure ((.emit, .issued), pending)
  | .observe => pure ((.skip, .observed), pending)
  | .load => do
    let (triggered, pending) ← loadOverTrigger retry pending
    pure (if triggered then (.emit, .issued) else (.skip, .observed), pending)

def classify (crypto : RetryCrypto) (initial : Initial) (srcIp : IpAddr) (retry : RetryConfig)
    (nowMs pending : UInt64) : Checked ((Decision × Detail) × UInt64) :=
  if initial.token.length = tokenLen then
    match Token.verify crypto retry.tokenKey initial.token srcIp initial.dcid nowMs
        retry.tokenLifetimeMs with
    | .ok () => pure ((.forward, .tokenValid), pending)
    | .error .invalid => do
      let (decision, pending) ← loadGatedDecision retry pending
      pure ((decision, .tokenInvalid), pending)
    | .error .expired => do
      let (decision, pending) ← loadGatedDecision retry pending
      pure ((decision, .tokenExpired), pending)
  else classifyTokenless retry pending

/-- Commit headers and payload to a frame of exactly their length. -/
def writeReply (layout : FrameLayout) (frame hdrBuf : Bytes) (hdrLen : Nat) (retryBytes : Bytes) :
    Checked Bytes := do
  let hdr ← slice hdrBuf 0 hdrLen
  let frame ← copyInto frame 0 hdrLen hdr
  let frame ← copyInto frame hdrLen (hdrLen + retryBytes.length) retryBytes
  if layout.isIpv4 then writeIpv4Checksum frame layout.ipOffset layout.ipHdrLen
  else writeIpv6UdpChecksum frame layout

/-- Rewrite the frame into a Retry, or skip it when that is not possible. -/
def emit (crypto : RetryCrypto) (view : FrameView) (layout : FrameLayout) (version : UInt32)
    (odcid clientScid : Bytes) (retry : RetryConfig) (localMac : Mac) (nowMs : UInt64) :
    Checked (Outcome × FrameView) :=
  match Token.mint crypto retry.tokenKey layout.srcIp odcid nowMs with
  | .error _ => pure (.skip, view)
  | .ok token => do
    -- The reply's source connection ID is the original destination connection ID.
    match ← buildRetry crypto (List.replicate 128 0) version odcid clientScid odcid token with
    | .error _ => pure (.skip, view)
    | .ok (count, retryBuf) => do
      let retryBytes ← slice retryBuf 0 count
      let (hdrLen, hdrBuf) ← buildReflectedHeaders (List.replicate 64 0) layout localMac
        retryBytes.length
      match view.resize (hdrLen + retryBytes.length) with
      | none => pure (.skip, view)
      | some resized => do
        let frame ← writeReply layout resized.contents hdrBuf hdrLen retryBytes
        pure (.emitted, resized.writeBack frame)

/-- What a parse failure counts as: only malformed Initials are counted. -/
def parseErrorDetail : ParseError → Detail
  | .notLongHeader | .notInitial | .fixedBitUnset | .unsupportedVersion _ | .truncated => .none
  | _ => .parseError

/-- The part of `tryHandle` after the Initial is parsed. -/
def handleInitial (crypto : RetryCrypto) (view : FrameView) (layout : FrameLayout)
    (retry : RetryConfig) (localMac : Mac) (nowMs pending : UInt64) (initial : Initial) :
    Checked ((Outcome × Detail) × FrameView × UInt64) := do
  let dcidBuf ← copyInto (List.replicate 20 0) 0 initial.dcid.length initial.dcid
  let scidBuf ← copyInto (List.replicate 20 0) 0 initial.scid.length initial.scid
  let ((decision, detail), pending) ← classify crypto initial layout.srcIp retry nowMs pending
  match decision with
  | .forward => pure ((.forward, detail), view, pending)
  | .skip => pure ((.skip, detail), view, pending)
  | .emit => do
    let dcid ← slice dcidBuf 0 initial.dcid.length
    let scid ← slice scidBuf 0 initial.scid.length
    let (outcome, view) ← emit crypto view layout initial.version dcid scid retry localMac nowMs
    pure ((outcome, detail), view, pending)

/-- The Retry classifier, as the worker calls it for each parsed frame. -/
def tryHandle (crypto : RetryCrypto) (view : FrameView) (parsed : ParsedFrame)
    (table : ConfigTable) (localMac : Mac) (nowMs pending : UInt64) :
    Checked ((Outcome × Detail) × FrameView × UInt64) :=
  match table.retry with
  | none => pure ((.skip, .none), view, pending)
  | some retry =>
    if ¬ retry.enabled then pure ((.skip, .none), view, pending)
    else
      match FrameLayout.fromParsed parsed with
      | none => pure ((.skip, .none), view, pending)
      | some layout =>
        if retry.ports ≠ [] ∧ layout.dstPort ∉ retry.ports then
          pure ((.skip, .none), view, pending)
        else do
          let quic ← sliceFrom view.contents layout.quicOffset
          match ← parseStrict quic with
          | .error failure => pure ((.skip, parseErrorDetail failure), view, pending)
          | .ok initial =>
            handleInitial crypto view layout retry localMac nowMs pending initial

/-- What `tryHandle` computed on its way to a rewritten frame. -/
structure Emission (crypto : RetryCrypto) (view : FrameView) (parsed : ParsedFrame)
    (table : ConfigTable) (localMac : Mac) (nowMs : UInt64) (after : FrameView) where
  retry : RetryConfig
  layout : FrameLayout
  initial : Initial
  token : Bytes
  count : Nat
  retryBuf : Bytes
  packet : Bytes
  hdrLen : Nat
  hdrBuf : Bytes
  resized : FrameView
  frame : Bytes
  configured : table.retry = some retry
  enabled : retry.enabled = true
  fromParsed : FrameLayout.fromParsed parsed = some layout
  inside : layout.quicOffset ≤ view.contents.length
  parsedInitial : parseStrict (view.contents.drop layout.quicOffset) = .ok (.ok initial)
  minted : Token.mint crypto retry.tokenKey layout.srcIp initial.dcid nowMs = .ok token
  built : buildRetry crypto (List.replicate 128 0) initial.version initial.dcid initial.scid
    initial.dcid token = .ok (.ok (count, retryBuf))
  cut : slice retryBuf 0 count = .ok packet
  headers : buildReflectedHeaders (List.replicate 64 0) layout localMac packet.length =
    .ok (hdrLen, hdrBuf)
  resize : view.resize (hdrLen + packet.length) = some resized
  written : writeReply layout resized.contents hdrBuf hdrLen packet = .ok frame
  after_eq : after = resized.writeBack frame

section Emissions

variable {crypto : RetryCrypto} {view after : FrameView} {parsed : ParsedFrame}
  {table : ConfigTable} {localMac : Mac} {nowMs pending pending' : UInt64} {detail : Detail}

/-- Copying into a fresh buffer and cutting the copy off again gives the bytes back. -/
theorem snapshot_eq {buffer cid copied : Bytes} (written : copyInto buffer 0 cid.length cid = .ok copied)
    {read : Bytes} (cut : slice copied 0 cid.length = .ok read) : read = cid := by
  have held := (holds_copyInto written).slice_eq
  obtain ⟨-, -, rfl⟩ := slice_eq_ok_iff.mp cut
  simpa using held

/-- A reply was minted, built, given headers and written into the frame. -/
theorem emit_emitted {layout : FrameLayout} {version : UInt32} {odcid scid : Bytes}
    {retry : RetryConfig}
    (done : emit crypto view layout version odcid scid retry localMac nowMs =
      .ok (.emitted, after)) :
    ∃ token count retryBuf packet hdrLen hdrBuf resized frame,
      Token.mint crypto retry.tokenKey layout.srcIp odcid nowMs = .ok token ∧
      buildRetry crypto (List.replicate 128 0) version odcid scid odcid token =
        .ok (.ok (count, retryBuf)) ∧
      slice retryBuf 0 count = .ok packet ∧
      buildReflectedHeaders (List.replicate 64 0) layout localMac packet.length =
        .ok (hdrLen, hdrBuf) ∧
      view.resize (hdrLen + packet.length) = some resized ∧
      writeReply layout resized.contents hdrBuf hdrLen packet = .ok frame ∧
      after = resized.writeBack frame := by
  unfold emit at done
  cases minted : Token.mint crypto retry.tokenKey layout.srcIp odcid nowMs with
  | error failure =>
    rw [minted] at done
    simp at done
  | ok token =>
    rw [minted] at done
    simp only [Checked.bind_eq_ok_iff] at done
    obtain ⟨result, built, done⟩ := done
    cases result with
    | error failure => simp at done
    | ok build =>
      obtain ⟨count, retryBuf⟩ := build
      simp only [Checked.bind_eq_ok_iff] at done
      obtain ⟨packet, cut, ⟨hdrLen, hdrBuf⟩, headers, done⟩ := done
      cases resize : view.resize (hdrLen + packet.length) with
      | none =>
        simp only [resize] at done
        simp at done
      | some resized =>
        simp only [resize, Checked.bind_eq_ok_iff, Checked.pure_eq_ok, Except.ok.injEq,
          Prod.mk.injEq] at done
        obtain ⟨frame, written, -, rfl⟩ := done
        exact ⟨token, count, retryBuf, packet, hdrLen, hdrBuf, resized, frame, rfl, built, cut,
          headers, resize, written, rfl⟩

/-- How a policy decision is carried out. -/
def CarriedOut (crypto : RetryCrypto) (view : FrameView) (layout : FrameLayout)
    (retry : RetryConfig) (localMac : Mac) (nowMs : UInt64) (initial : Initial)
    (outcome : Outcome) (after : FrameView) : Decision → Prop
  | .forward => outcome = .forward ∧ after = view
  | .skip => outcome = .skip ∧ after = view
  | .emit => emit crypto view layout initial.version initial.dcid initial.scid retry localMac nowMs =
      .ok (outcome, after)

/-- The ways out of the classifier: before there is an Initial to decide on, or with
a decision on it. -/
inductive TryExit (crypto : RetryCrypto) (view : FrameView) (parsed : ParsedFrame)
    (table : ConfigTable) (localMac : Mac) (nowMs pending : UInt64) :
    Outcome → Detail → FrameView → UInt64 → Prop where
  | unclassified {detail : Detail} (known : detail = .none ∨ detail = .parseError) :
      TryExit crypto view parsed table localMac nowMs pending .skip detail view pending
  | classified {retry : RetryConfig} {layout : FrameLayout} {initial : Initial}
      {decision : Decision} {outcome : Outcome} {detail : Detail} {after : FrameView}
      {pending' : UInt64} (configured : table.retry = some retry) (enabled : retry.enabled = true)
      (fromParsed : FrameLayout.fromParsed parsed = some layout)
      (inside : layout.quicOffset ≤ view.contents.length)
      (parsedInitial : parseStrict (view.contents.drop layout.quicOffset) = .ok (.ok initial))
      (decided : classify crypto initial layout.srcIp retry nowMs pending =
        .ok ((decision, detail), pending'))
      (carriedOut : CarriedOut crypto view layout retry localMac nowMs initial outcome after decision) :
      TryExit crypto view parsed table localMac nowMs pending outcome detail after pending'

/-- An Initial was classified, and the decision carried out. -/
theorem handleInitial_done {layout : FrameLayout} {retry : RetryConfig} {initial : Initial}
    {outcome : Outcome}
    (done : handleInitial crypto view layout retry localMac nowMs pending initial =
      .ok ((outcome, detail), after, pending')) :
    ∃ decision, classify crypto initial layout.srcIp retry nowMs pending =
        .ok ((decision, detail), pending') ∧
      CarriedOut crypto view layout retry localMac nowMs initial outcome after decision := by
  simp only [handleInitial, Checked.bind_eq_ok_iff] at done
  obtain ⟨dcidBuf, dcidCopied, scidBuf, scidCopied, ⟨⟨decision, decidedDetail⟩, counted⟩, decided,
    done⟩ := done
  cases decision with
  | forward =>
    cases done
    exact ⟨.forward, decided, rfl, rfl⟩
  | skip =>
    cases done
    exact ⟨.skip, decided, rfl, rfl⟩
  | emit =>
    simp only [Checked.bind_eq_ok_iff] at done
    obtain ⟨dcid, dcidCut, scid, scidCut, ⟨emitOutcome, written⟩, emitted, done⟩ := done
    obtain rfl := snapshot_eq dcidCopied dcidCut
    obtain rfl := snapshot_eq scidCopied scidCut
    cases done
    exact ⟨.emit, decided, emitted⟩

/-- A packet that does not parse is a parse error, or not an Initial at all. -/
theorem parseErrorDetail_cases (failure : ParseError) :
    parseErrorDetail failure = .none ∨ parseErrorDetail failure = .parseError := by
  cases failure <;> first
    | exact .inl rfl
    | exact .inr rfl

/-- Every call of the classifier that returns takes one of the exits. -/
theorem tryHandle_exit {outcome : Outcome}
    (done : tryHandle crypto view parsed table localMac nowMs pending =
      .ok ((outcome, detail), after, pending')) :
    TryExit crypto view parsed table localMac nowMs pending outcome detail after pending' := by
  unfold tryHandle at done
  split at done
  · cases done
    exact .unclassified (.inl rfl)
  next retry configured =>
  split at done
  · cases done
    exact .unclassified (.inl rfl)
  next enabled =>
  split at done
  · cases done
    exact .unclassified (.inl rfl)
  next layout fromParsed =>
  split at done
  · cases done
    exact .unclassified (.inl rfl)
  simp only [Checked.bind_eq_ok_iff] at done
  obtain ⟨quic, quicRead, result, parsedInitial, done⟩ := done
  obtain ⟨inside, rfl⟩ := sliceFrom_eq_ok_iff.mp quicRead
  cases result with
  | error failure =>
    cases done
    exact .unclassified (parseErrorDetail_cases failure)
  | ok initial =>
    obtain ⟨decision, decided, carriedOut⟩ := handleInitial_done done
    exact .classified configured (Decidable.not_not.mp enabled) fromParsed inside parsedInitial
      decided carriedOut

/-- Every rewritten frame comes from an emission. -/
theorem tryHandle_emission
    (done : tryHandle crypto view parsed table localMac nowMs pending =
      .ok ((.emitted, detail), after, pending')) :
    Nonempty (Emission crypto view parsed table localMac nowMs after) := by
  cases tryHandle_exit done with
  | @classified retry layout initial decision _ _ _ _ configured enabled fromParsed inside
      parsedInitial _ carriedOut =>
    cases decision with
    | forward => cases carriedOut.1
    | skip => cases carriedOut.1
    | emit =>
      obtain ⟨token, count, retryBuf, packet, hdrLen, hdrBuf, resized, frame, minted, built, cut,
        headers, resize, written, afterEq⟩ := emit_emitted carriedOut
      exact ⟨{
        retry, layout, initial, token, count, retryBuf, packet, hdrLen, hdrBuf, resized, frame,
        configured, enabled, fromParsed, inside, parsedInitial, minted, built, cut, headers, resize,
        written
        after_eq := afterEq }⟩

/-- The load is the tracker's last rate, and the Initial is counted. -/
theorem loadOverTrigger_ok {retry : RetryConfig} {triggered : Bool}
    (done : loadOverTrigger retry pending = .ok (triggered, pending')) :
    ∃ tracker trigger, retry.loadTracker = some tracker ∧ retry.loadTriggerRate = some trigger ∧
      triggered = decide (trigger ≤ tracker.rate) ∧ pending' = pending + 1 := by
  simp only [loadOverTrigger, Checked.bind_eq_ok_iff, Checked.expect_eq_ok_iff] at done
  obtain ⟨tracker, tracked, trigger, triggerSet, done⟩ := done
  cases done
  exact ⟨tracker, trigger, tracked, triggerSet, rfl, rfl⟩

end Emissions

end Pesigitg
