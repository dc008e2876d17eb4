import Pesigitg.Retry.Classifier
import Pesigitg.Retry.Reply

/-!
# The Retry path does not panic

Every stage of the Retry path returns from what the stage before it established: the parser
bounds the connection IDs, those bound the packet, the packet bounds the rewritten frame, and the
layout of the received frame bounds the headers. Load mode comes with its tracker and its trigger
because `RetryConfig::validate` only accepts it so, and a clone of the table shares them.
-/

namespace Pesigitg

open Base Quic

/-- A snapshot of loaded settings: the counters of the shared tracker and the load time may have
moved on. -/
def RetryConfig.SnapshotOf (snapshot loaded : RetryConfig) : Prop :=
  ∃ tracker age, snapshot = { loaded with loadTracker := tracker, loadedAt := age } ∧
    tracker.isSome = loaded.loadTracker.isSome

/-- Settings stay armed in a snapshot. -/
theorem RetryConfig.Armed.snapshot {snapshot loaded : RetryConfig} (armed : loaded.Armed)
    (clone : snapshot.SnapshotOf loaded) : snapshot.Armed := by
  obtain ⟨tracker, age, rfl, present⟩ := clone
  intro load
  obtain ⟨tracked, triggerSet⟩ := armed load
  exact ⟨present.trans tracked, triggerSet⟩

section Stages

variable {crypto : RetryCrypto} {retry : RetryConfig} {initial : Initial} {srcIp : IpAddr}
  {nowMs pending : UInt64} {layout : FrameLayout} {view : FrameView} {localMac : Mac}
  {version : UInt32} {odcid scid : Bytes}

/-- With armed settings, reading the load does not panic. -/
theorem loadOverTrigger_returns (armed : retry.Armed) (load : retry.mode = .load) :
    (loadOverTrigger retry pending).Returns := by
  obtain ⟨tracked, triggerSet⟩ := armed load
  obtain ⟨tracker, tracked⟩ := Option.isSome_iff_exists.mp tracked
  obtain ⟨trigger, triggerSet⟩ := Option.isSome_iff_exists.mp triggerSet
  rw [loadOverTrigger, tracked, triggerSet]
  exact ⟨_, rfl⟩

/-- Nor does deciding by it. -/
theorem loadGatedDecision_returns (armed : retry.Armed) :
    (loadGatedDecision retry pending).Returns := by
  unfold loadGatedDecision
  cases mode : retry.mode with
  | always => exact ⟨_, rfl⟩
  | observe => exact ⟨_, rfl⟩
  | load => exact (loadOverTrigger_returns armed mode).bind fun _ _ => ⟨_, rfl⟩

/-- Nor does classifying an Initial without a token. -/
theorem classifyTokenless_returns (armed : retry.Armed) :
    (classifyTokenless retry pending).Returns := by
  unfold classifyTokenless
  cases mode : retry.mode with
  | always => exact ⟨_, rfl⟩
  | observe => exact ⟨_, rfl⟩
  | load => exact (loadOverTrigger_returns armed mode).bind fun _ _ => ⟨_, rfl⟩

/-- Nor does classifying any Initial. -/
theorem classify_returns (armed : retry.Armed) :
    (classify crypto initial srcIp retry nowMs pending).Returns := by
  unfold classify
  split
  · split
    · exact ⟨_, rfl⟩
    · exact (loadGatedDecision_returns armed).bind fun _ _ => ⟨_, rfl⟩
    · exact (loadGatedDecision_returns armed).bind fun _ _ => ⟨_, rfl⟩
  · exact classifyTokenless_returns armed

/-- Writing a reply returns: its frame is longer than any IPv4 header, and the IPv6 datagram ends
with it. -/
theorem writeReply_returns {packet : Bytes} (localMac : Mac) (sound : layout.Sound) (long : 32 ≤ packet.length)
    (short : packet.length ≤ 1000) :
    ∃ hdrLen hdrBuf, hdrLen ≤ 62 ∧
      buildReflectedHeaders (List.replicate 64 0) layout localMac packet.length =
        .ok (hdrLen, hdrBuf) ∧
      ∀ frame : Bytes, frame.length = hdrLen + packet.length →
        (writeReply layout frame hdrBuf hdrLen packet).Returns := by
  cases family : layout.isIpv4 with
  | true =>
    obtain ⟨-, -, -, client, server, src, dst⟩ := sound.ipv4 family
    refine ⟨_, _, by decide, buildReflectedHeaders_v4 family src dst, ?_⟩
    intro frame sized
    rw [writeReply_v4 sound family long sized]
    exact ⟨_, rfl⟩
  | false =>
    obtain ⟨-, client, server, src, dst⟩ := sound.ipv6 family
    refine ⟨_, _, le_rfl, buildReflectedHeaders_v6 family src dst, ?_⟩
    intro frame sized
    obtain ⟨sum, -, written⟩ := writeReply_v6 sound family short sized
    rw [written]
    exact ⟨_, rfl⟩

/-- With a token, only the size of the chunk decides whether the Retry is written. -/
theorem emit_minted {token : Bytes} (sound : layout.Sound)
    (known : version = quicV1 ∨ version = quicV2) (odcidShort : odcid.length ≤ 20)
    (scidShort : scid.length ≤ 20)
    (minted : Token.mint crypto retry.tokenKey layout.srcIp odcid nowMs = .ok token) :
    ∃ size, size ≤ 149 ∧
      (view.resize size = none →
        emit crypto view layout version odcid scid retry localMac nowMs = .ok (.skip, view)) ∧
      ∀ resized, view.resize size = some resized → ∃ after,
        emit crypto view layout version odcid scid retry localMac nowMs = .ok (.emitted, after) := by
  obtain ⟨firstByte, tag, rest, built⟩ : ∃ (firstByte : UInt8) (tag : Octets 16) (rest : Bytes),
      buildRetry crypto (List.replicate 128 0) version odcid scid odcid token =
        .ok (.ok (7 + scid.length + odcid.length + 40,
          retryBody firstByte version scid odcid token ++ tag.val ++ rest)) :=
    buildRetry_eq odcidShort scidShort odcidShort (Token.mint_length minted) known (by simp)
  have bodySized := retryBody_length firstByte version scid odcid token
  have tokenSized := Token.mint_length minted
  have tagSized : tag.val.length = 16 := tag.property
  have packetSized : 7 + scid.length + odcid.length + 40 =
      (retryBody firstByte version scid odcid token ++ tag.val).length := by
    rw [List.length_append]
    omega
  obtain ⟨hdrLen, hdrBuf, hdrShort, headers, writes⟩ := writeReply_returns localMac sound
    (show 32 ≤ (retryBody firstByte version scid odcid token ++ tag.val).length by omega)
    (by omega)
  refine ⟨hdrLen + (retryBody firstByte version scid odcid token ++ tag.val).length, by omega, ?_, ?_⟩
  · intro full
    simp only [emit, minted, built, Checked.ok_bind, slice_front packetSized, headers, full,
      Checked.pure_eq_ok]
  · intro resized resize
    obtain ⟨frame, written⟩ := writes resized.contents (by
      rw [FrameView.contents_length, resize_len resize])
    simp only [emit, minted, built, Checked.ok_bind, slice_front packetSized, headers, resize,
      written, Checked.pure_eq_ok]
    exact ⟨_, rfl⟩

/-- Building a reply does not panic on what the parsers let through. -/
theorem emit_returns (sound : layout.Sound) (known : version = quicV1 ∨ version = quicV2)
    (odcidShort : odcid.length ≤ 20) (scidShort : scid.length ≤ 20) :
    (emit crypto view layout version odcid scid retry localMac nowMs).Returns := by
  cases minted : Token.mint crypto retry.tokenKey layout.srcIp odcid nowMs with
  | error failure =>
    rw [emit, minted]
    exact ⟨_, rfl⟩
  | ok token =>
    obtain ⟨size, -, full, room⟩ := emit_minted sound known odcidShort scidShort minted
    cases resize : view.resize size with
    | none => exact ⟨_, full resize⟩
    | some resized =>
      obtain ⟨after, emitted⟩ := room resized resize
      exact ⟨_, emitted⟩

/-- In a chunk with room for any Retry, the Retry is written. -/
theorem emit_of_room (sound : layout.Sound) (known : version = quicV1 ∨ version = quicV2)
    (odcidShort : odcid.length ≤ 20) (scidShort : scid.length ≤ 20) (room : 149 ≤ view.capacity) :
    ∃ after, emit crypto view layout version odcid scid retry localMac nowMs =
      .ok (.emitted, after) := by
  obtain ⟨token, minted⟩ : ∃ token,
      Token.mint crypto retry.tokenKey layout.srcIp odcid nowMs = .ok token :=
    ⟨_, if_neg (Nat.not_lt.mpr odcidShort)⟩
  obtain ⟨size, bounded, -, emits⟩ := emit_minted sound known odcidShort scidShort minted
  exact emits _ (dif_pos (bounded.trans room))

/-- A copied connection ID can be cut off again. -/
theorem slice_snapshot {buffer cid copied : Bytes}
    (written : copyInto buffer 0 cid.length cid = .ok copied) :
    ∃ read, slice copied 0 cid.length = .ok read := by
  have bound : cid.length ≤ copied.length := by
    have held := (holds_copyInto written).inside
    omega
  exact ⟨_, slice_of_le (Nat.zero_le _) bound⟩

/-- The decision on a well-formed Initial is carried out on its own connection IDs. -/
theorem handleInitial_eq {decision : Decision} {detail : Detail} {tallied : UInt64}
    (formed : initial.WellFormed)
    (classified : classify crypto initial layout.srcIp retry nowMs pending =
      .ok ((decision, detail), tallied)) :
    handleInitial crypto view layout retry localMac nowMs pending initial =
      match decision with
      | .forward => .ok ((.forward, detail), view, tallied)
      | .skip => .ok ((.skip, detail), view, tallied)
      | .emit =>
        emit crypto view layout initial.version initial.dcid initial.scid retry localMac nowMs >>=
          fun (outcome, after) => pure ((outcome, detail), after, tallied) := by
  obtain ⟨dcidBuf, dcidCopied⟩ := copyInto_snapshot formed.dcid_le
  obtain ⟨scidBuf, scidCopied⟩ := copyInto_snapshot formed.scid_le
  obtain ⟨dcid, dcidCut⟩ := slice_snapshot dcidCopied
  obtain ⟨scid, scidCut⟩ := slice_snapshot scidCopied
  obtain rfl := snapshot_eq dcidCopied dcidCut
  obtain rfl := snapshot_eq scidCopied scidCut
  simp only [handleInitial, dcidCopied, scidCopied, classified, Checked.ok_bind, dcidCut, scidCut]
  cases decision with
  | forward => rfl
  | skip => rfl
  | emit => rfl

/-- So an Initial is handled without a panic. -/
theorem handleInitial_returns (armed : retry.Armed) (sound : layout.Sound)
    (formed : initial.WellFormed) :
    (handleInitial crypto view layout retry localMac nowMs pending initial).Returns := by
  obtain ⟨⟨⟨decision, detail⟩, tallied⟩, classified⟩ :
      (classify crypto initial layout.srcIp retry nowMs pending).Returns := classify_returns armed
  rw [handleInitial_eq formed classified]
  cases decision with
  | forward => exact ⟨_, rfl⟩
  | skip => exact ⟨_, rfl⟩
  | emit =>
    exact (emit_returns sound formed.version_known formed.dcid_le formed.scid_le).bind
      fun _ _ => ⟨_, rfl⟩

end Stages

/-- Every accepted table is armed. -/
theorem ConfigTable.fromStr_armed {raws : List RawConfig} {rawRetry : Option RawRetry}
    {now : Instant} {table : ConfigTable} (parsed : fromStr raws rawRetry now = .ok (.ok table))
    {retry : RetryConfig} (configured : table.retry = some retry) : retry.Armed := by
  have validated := fromStr_retry parsed
  rw [configured] at validated
  cases validated with
  | some accepted => exact RetryConfig.validate_armed accepted

/-- The Retry path returns for every frame contents, chunk capacity and time, under every table
that was loaded and every clone of it: no slice or index leaves its buffer, no `expect` fails and
no address family is mistaken. -/
theorem retry_path_returns {raws : List RawConfig} {rawRetry : Option RawRetry} {loadedAt : Instant}
    {loaded table : ConfigTable}
    (accepted : ConfigTable.fromStr raws rawRetry loadedAt = .ok (.ok loaded))
    (clone : Option.Rel RetryConfig.SnapshotOf table.retry loaded.retry) {view : FrameView}
    {parsed : ParsedFrame} (parse : parseFrame view.contents = .ok (some parsed))
    (crypto : RetryCrypto) (localMac : Mac) (nowMs pending : UInt64) :
    (tryHandle crypto view parsed table localMac nowMs pending).Returns := by
  by_cases offer : ∃ retry initial, Offered table view parsed retry initial
  · obtain ⟨retry, initial, offered⟩ := offer
    obtain ⟨layout, promoted, handled⟩ := tryHandle_offered offered crypto localMac nowMs pending
    obtain ⟨_, _, _, _, -, read⟩ := offered.carries.udp
    have armed : retry.Armed := by
      have configured := offered.configured
      generalize loadedEq : loaded.retry = loadedRetry at clone
      rw [configured] at clone
      cases clone with
      | some snapshot => exact (ConfigTable.fromStr_armed accepted loadedEq).snapshot snapshot
    rw [handled]
    exact handleInitial_returns armed (fromParsed_sound (parseFrame_eq_some_iff.mp parse) promoted)
      (parseStrict_wellFormed read)
  · have none : ∀ retry initial, ¬ Offered table view parsed retry initial :=
      fun retry initial offered => offer ⟨retry, initial, offered⟩
    obtain ⟨detail, skipped⟩ := tryHandle_not_offered parse none crypto localMac nowMs pending
    exact ⟨_, skipped⟩

namespace SampleRetry

/-- The sample's file is accepted. -/
theorem accepted : ConfigTable.fromStr [entry] (some file) 0 = .ok (.ok table) := by
  have found : loaded = some table := (Option.some_get _).symm
  unfold loaded at found
  split at found
  · next parsed result =>
    rw [result, Option.some.inj found]
  · cases found

/-- A clone is a snapshot. -/
theorem cloned : Option.Rel RetryConfig.SnapshotOf table.retry table.retry := by
  rw [configured]
  exact .some ⟨retry.loadTracker, retry.loadedAt, rfl, rfl⟩

end SampleRetry

open SampleRetry in
/-- The sample's table handles the sample's first Initial without a panic. -/
theorem retry_path_returns_sample :
    (tryHandle crypto first parsed table localMac 2000 0).Returns :=
  retry_path_returns accepted cloned first_parses crypto localMac 2000 0

end Pesigitg
