import Pesigitg.Daemon.Rewrite
import Pesigitg.Daemon.Worker
import Pesigitg.Retry.Reply

/-!
# What the pipeline does to a packet

The pipeline is handed a view of the packet memory: a packet, and the rest of the chunk behind it.
What it answers depends on the packet alone, and it writes to no byte behind the packet or the
longest reply (`handleFrame_isolated`). Frames that lie in chunks of their own can therefore be
handled as if each were a byte string by itself.
-/

namespace Pesigitg

open Base Quic

namespace FrameView

variable {view after : FrameView} {reach : Nat}

/-- A packet in memory of its own, with `reach` bytes to spare. -/
def padded (packet : Bytes) (reach : Nat) : FrameView :=
  ⟨packet ++ List.replicate reach 0, packet.length, by simp⟩

/-- A packet is the contents of its padded frame. -/
@[simp] theorem contents_padded (packet : Bytes) (reach : Nat) :
    (padded packet reach).contents = packet := by
  simp [padded, contents]

/-- The padded frame has room for a reply. -/
theorem le_capacity_padded (packet : Bytes) (reach : Nat) :
    reach ≤ (padded packet reach).capacity := by
  simp [padded, capacity]

/-- The view was rewritten in its packet and in the first `reach` bytes of its chunk only. -/
structure Within (reach : Nat) (view after : FrameView) : Prop where
  chunk : after.chunk.length = view.chunk.length
  len : after.len ≤ max view.len reach
  behind : after.chunk.drop (max view.len reach) = view.chunk.drop (max view.len reach)

/-- An unchanged frame stays within any reach. -/
theorem Within.refl (reach : Nat) (view : FrameView) : view.Within reach view :=
  ⟨rfl, Nat.le_max_left _ _, rfl⟩

/-- Nothing beyond the packet and the reach was touched. -/
theorem Within.drop_eq (within : view.Within reach after) {start : Nat}
    (beyond : max view.len reach ≤ start) : after.chunk.drop start = view.chunk.drop start := by
  have behind := congrArg (List.drop (start - max view.len reach)) within.behind
  rwa [List.drop_drop, List.drop_drop, Nat.add_sub_cancel' beyond] at behind

/-- Two changes within the reach are one. -/
theorem Within.trans {last : FrameView} (first : view.Within reach after)
    (second : after.Within reach last) : view.Within reach last := by
  have wider : max after.len reach ≤ max view.len reach :=
    Nat.max_le.mpr ⟨first.len, Nat.le_max_right _ _⟩
  exact ⟨second.chunk.trans first.chunk, Nat.le_trans second.len wider,
    (second.drop_eq wider).trans first.behind⟩

/-- Writing a packet of the same length back. -/
theorem within_writeBack {bytes : Bytes} (sized : bytes.length = view.len) (reach : Nat) :
    view.Within reach (view.writeBack bytes) := by
  have fits := view.fits
  refine ⟨?_, Nat.le_max_left _ _, ?_⟩
  · simp [writeBack, sized]
    omega
  · simp only [writeBack, sized, Nat.min_self]
    rw [List.take_of_length_le (Nat.le_of_eq sized), List.drop_append, sized,
      List.drop_eq_nil_of_le (by rw [sized]; exact Nat.le_max_left _ _), List.nil_append,
      List.drop_drop]
    congr 1
    have longer := Nat.le_max_left view.len reach
    omega

/-- Resizing to at most `reach` bytes and writing them. -/
theorem within_resize {resized : FrameView} {newLen : Nat} {bytes : Bytes}
    (done : view.resize newLen = some resized) (sized : bytes.length = newLen)
    (short : newLen ≤ reach) : view.Within reach (resized.writeBack bytes) := by
  unfold resize at done
  split at done
  · next fits =>
    cases done
    have inner : Within reach _ (writeBack ⟨view.chunk, newLen, fits⟩ bytes) :=
      within_writeBack sized reach
    have wider : max newLen reach ≤ max view.len reach := by omega
    exact ⟨inner.chunk, Nat.le_trans inner.len wider, inner.drop_eq wider⟩
  · cases done

/-- A frame can be resized to what it has room for. -/
theorem resize_of_le {newLen : Nat} (fits : newLen ≤ view.capacity) :
    ∃ resized, view.resize newLen = some resized ∧ resized.len = newLen := by
  refine ⟨⟨view.chunk, newLen, fits⟩, ?_, rfl⟩
  exact dif_pos fits

end FrameView

/-- The longest reply: the headers of an IPv6 datagram, and a Retry for two connection IDs of
twenty bytes. -/
def replyReach : Nat := 149

section Emitting

variable {crypto : RetryCrypto} {view other after : FrameView} {layout : FrameLayout}
  {version : UInt32} {odcid scid token : Bytes} {retry : RetryConfig} {localMac : Mac}
  {nowMs : UInt64} {outcome : Outcome}

/-- The headers of a reply have at most 62 bytes. -/
theorem buildReflectedHeaders_le {out hdrBuf : Bytes} {payloadLen hdrLen : Nat}
    (built : buildReflectedHeaders out layout localMac payloadLen = .ok (hdrLen, hdrBuf)) :
    hdrLen ≤ 62 := by
  unfold buildReflectedHeaders at built
  split at built
  · simp only [Checked.bind_eq_ok_iff] at built
    obtain ⟨_, -, _, -, built⟩ := built
    cases built
    decide
  · simp only [Checked.bind_eq_ok_iff] at built
    obtain ⟨_, -, _, -, built⟩ := built
    cases built
    decide

/-- A Retry packet has at most 87 bytes. -/
theorem retry_packet_le {out retryBuf packet : Bytes} {dcid : Bytes} {count : Nat}
    (minted : Token.mint crypto retry.tokenKey layout.srcIp odcid nowMs = .ok token)
    (built : buildRetry crypto out version odcid dcid scid token = .ok (.ok (count, retryBuf)))
    (cut : slice retryBuf 0 count = .ok packet) : packet.length ≤ 87 := by
  have tokenSized := Token.mint_length minted
  obtain ⟨-, -, -, sized, -, -⟩ := buildRetry_read built cut
  obtain ⟨-, -, -, -, -, -, -, dcidShort, scidShort, -⟩ := buildRetry_exit built
  simp only [maxCidLen] at dcidShort scidShort
  omega

/-- Writing a reply keeps the length of the frame. -/
theorem writeReply_length {frame hdrBuf packet result : Bytes} {hdrLen : Nat}
    (written : writeReply layout frame hdrBuf hdrLen packet = .ok result) :
    result.length = frame.length := by
  simp only [writeReply, Checked.bind_eq_ok_iff] at written
  obtain ⟨hdr, -, _, copied, _, copiedToo, written⟩ := written
  have sized := (copyInto_length copiedToo).trans (copyInto_length copied)
  rw [← sized]
  split at written
  · simp only [writeIpv4Checksum, Checked.bind_eq_ok_iff] at written
    obtain ⟨_, first, _, second, _, -, closed⟩ := written
    rw [copyInto_length closed, writeByte_length second, writeByte_length first]
  · simp only [writeIpv6UdpChecksum, Checked.bind_eq_ok_iff] at written
    obtain ⟨_, -, _, first, _, second, _, -, _, -, closed⟩ := written
    rw [copyInto_length closed, writeByte_length second, writeByte_length first]

/-- The reply does not depend on what it is written over. -/
theorem writeReply_over {frame frame' hdrBuf packet : Bytes} {hdrLen : Nat} {result : Bytes}
    (sized : frame.length = hdrLen + packet.length)
    (sized' : frame'.length = hdrLen + packet.length)
    (written : writeReply layout frame hdrBuf hdrLen packet = .ok result) :
    writeReply layout frame' hdrBuf hdrLen packet = .ok result := by
  have inside : hdrLen ≤ hdrBuf.length := by
    simp only [writeReply, Checked.bind_eq_ok_iff] at written
    obtain ⟨hdr, cut, -⟩ := written
    exact (slice_eq_ok_iff.mp cut).2.1
  have hdrSized : (hdrBuf.take hdrLen).length = hdrLen := by
    rw [List.length_take]
    omega
  rw [← List.take_append_drop hdrLen hdrBuf] at written ⊢
  rw [writeReply_eq hdrSized sized']
  rwa [writeReply_eq hdrSized sized] at written

/-- Writing a reply: it stays in reach, and any other view with room for it gets the same one. -/
theorem emit_isolated (room : replyReach ≤ view.capacity)
    (done : emit crypto view layout version odcid scid retry localMac nowMs =
      .ok (outcome, after)) :
    view.Within replyReach after ∧ ∀ other : FrameView, replyReach ≤ other.capacity →
      ∃ after', emit crypto other layout version odcid scid retry localMac nowMs =
          .ok (outcome, after') ∧
        (other.contents = view.contents → after'.contents = after.contents) := by
  unfold emit at done ⊢
  cases minted : Token.mint crypto retry.tokenKey layout.srcIp odcid nowMs with
  | error failure =>
    rw [minted] at done
    cases done
    exact ⟨.refl _ _, fun other _ => ⟨other, rfl, id⟩⟩
  | ok token =>
    rw [minted] at done
    simp only [Checked.bind_eq_ok_iff] at done
    obtain ⟨result, built, done⟩ := done
    simp only [built, Checked.ok_bind]
    cases result with
    | error failure =>
      cases done
      exact ⟨.refl _ _, fun other _ => ⟨other, rfl, id⟩⟩
    | ok build =>
      obtain ⟨count, retryBuf⟩ := build
      simp only [Checked.bind_eq_ok_iff] at done
      obtain ⟨packet, cut, ⟨hdrLen, hdrBuf⟩, headers, done⟩ := done
      have small : hdrLen + packet.length ≤ replyReach := by
        have hdrSmall := buildReflectedHeaders_le headers
        have packetSmall := retry_packet_le minted built cut
        simp only [replyReach]
        omega
      obtain ⟨resized, resize, len⟩ := FrameView.resize_of_le (Nat.le_trans small room)
      rw [resize] at done
      simp only [Checked.bind_eq_ok_iff] at done
      obtain ⟨frame, written, done⟩ := done
      cases done
      have sized : frame.length = resized.len := by
        rw [writeReply_length written, FrameView.contents_length]
      refine ⟨FrameView.within_resize resize (sized.trans len) small, ?_⟩
      intro other otherRoom
      obtain ⟨larger, resize', len'⟩ := FrameView.resize_of_le (Nat.le_trans small otherRoom)
      have rewritten : writeReply layout larger.contents hdrBuf hdrLen packet = .ok frame :=
        writeReply_over (by rw [FrameView.contents_length, len])
          (by rw [FrameView.contents_length, len']) written
      refine ⟨larger.writeBack frame, ?_, fun _ => ?_⟩
      · simp only [cut, headers, resize', rewritten, Checked.ok_bind]
        rfl
      · rw [FrameView.contents_writeBack sized,
          FrameView.contents_writeBack (sized.trans (len.trans len'.symm))]

end Emitting

section Classifying

variable {crypto : RetryCrypto} {view after : FrameView} {parsed : ParsedFrame}
  {table : ConfigTable} {localMac : Mac} {nowMs pending pending' : UInt64} {outcome : Outcome}
  {detail : Detail}

/-- What the Retry path does with an Initial depends on the packet only, not on what else its frame
holds. -/
theorem handleInitial_isolated {layout : FrameLayout} {retry : RetryConfig} {initial : Initial}
    (room : replyReach ≤ view.capacity)
    (done : handleInitial crypto view layout retry localMac nowMs pending initial =
      .ok ((outcome, detail), after, pending')) :
    view.Within replyReach after ∧ ∀ other : FrameView, replyReach ≤ other.capacity →
      other.contents = view.contents →
      ∃ after', handleInitial crypto other layout retry localMac nowMs pending initial =
          .ok ((outcome, detail), after', pending') ∧ after'.contents = after.contents := by
  simp only [handleInitial, Checked.bind_eq_ok_iff] at done
  obtain ⟨dcidBuf, dcidCopied, scidBuf, scidCopied, ⟨⟨decision, decidedDetail⟩, counted⟩, decided,
    done⟩ := done
  simp only [handleInitial, dcidCopied, scidCopied, decided, Checked.ok_bind]
  cases decision with
  | forward | skip =>
    cases done
    exact ⟨.refl _ _, fun other _ same => ⟨other, rfl, same⟩⟩
  | emit =>
    simp only [Checked.bind_eq_ok_iff] at done
    obtain ⟨dcid, dcidCut, scid, scidCut, ⟨emitOutcome, written⟩, emitted, done⟩ := done
    cases done
    obtain ⟨within, others⟩ := emit_isolated room emitted
    refine ⟨within, fun other otherRoom same => ?_⟩
    obtain ⟨after', emitted', contents⟩ := others other otherRoom
    refine ⟨after', ?_, contents same⟩
    simp only [dcidCut, scidCut, emitted', Checked.ok_bind]
    rfl

/-- What the classifier makes of a frame is decided by the packet. -/
theorem tryHandle_isolated (room : replyReach ≤ view.capacity)
    (done : tryHandle crypto view parsed table localMac nowMs pending =
      .ok ((outcome, detail), after, pending')) :
    view.Within replyReach after ∧ ∀ other : FrameView, replyReach ≤ other.capacity →
      other.contents = view.contents →
      ∃ after', tryHandle crypto other parsed table localMac nowMs pending =
          .ok ((outcome, detail), after', pending') ∧ after'.contents = after.contents := by
  -- Every exit before the Initial is parsed leaves the view alone.
  have left (detail' : Detail) (early : ∀ other : FrameView, other.contents = view.contents →
      tryHandle crypto other parsed table localMac nowMs pending =
        .ok ((.skip, detail'), other, pending)) :
      view.Within replyReach after ∧ ∀ other : FrameView, replyReach ≤ other.capacity →
        other.contents = view.contents →
        ∃ after', tryHandle crypto other parsed table localMac nowMs pending =
            .ok ((outcome, detail), after', pending') ∧ after'.contents = after.contents := by
    rw [early view rfl] at done
    cases done
    exact ⟨.refl _ _, fun other _ same => ⟨other, early other same, same⟩⟩
  cases retry? : table.retry with
  | none => exact left .none fun other _ => by simp only [tryHandle, retry?, Checked.pure_eq_ok]
  | some retry =>
    by_cases enabled : retry.enabled = true
    swap
    · exact left .none fun other _ => by
        simp only [tryHandle, retry?, if_pos enabled, Checked.pure_eq_ok]
    cases promoted : FrameLayout.fromParsed parsed with
    | none =>
      exact left .none fun other _ => by
        simp only [tryHandle, retry?, enabled, not_true, if_false, promoted, Checked.pure_eq_ok]
    | some layout =>
      by_cases elsewhere : retry.ports ≠ [] ∧ layout.dstPort ∉ retry.ports
      · exact left .none fun other _ => by
          simp only [tryHandle, retry?, enabled, not_true, if_false, promoted, if_pos elsewhere,
            Checked.pure_eq_ok]
      have reached := done
      simp only [tryHandle, retry?, enabled, not_true, if_false, promoted, if_neg elsewhere,
        Checked.bind_eq_ok_iff] at reached
      obtain ⟨quic, cut, result, read, reached⟩ := reached
      cases result with
      | error failure =>
        exact left (parseErrorDetail failure) fun other same => by
          simp only [tryHandle, retry?, enabled, not_true, if_false, promoted, if_neg elsewhere,
            same, cut, read, Checked.ok_bind, Checked.pure_eq_ok]
      | ok initial =>
        obtain ⟨within, others⟩ := handleInitial_isolated room reached
        refine ⟨within, fun other otherRoom same => ?_⟩
        obtain ⟨after', handled, contents⟩ := others other otherRoom same
        refine ⟨after', ?_, contents⟩
        simp only [tryHandle, retry?, enabled, not_true, if_false, promoted, if_neg elsewhere,
          same, cut, read, Checked.ok_bind, handled]

end Classifying

/-- What the pipeline made of a packet. -/
structure Answer where
  action : Action
  outcome : Outcome
  detail : Detail
  packet : Bytes
  conn : ConnectionTable
  pendingLoadInitials : UInt64

def Handled.answer (handled : Handled) : Answer :=
  ⟨handled.action, handled.outcome, handled.detail, handled.view.contents, handled.conn,
    handled.pendingLoadInitials⟩

namespace Pipeline

/-- The pipeline on a packet by itself. -/
def onPacket (pipeline : Pipeline) (reach : Nat) (round : Round) (packet : Bytes)
    (conn : ConnectionTable) (pending : UInt64) : Checked Answer := do
  let handled ← pipeline round (.padded packet reach) conn pending
  pure handled.answer

/-- What stands behind a packet with `reach` bytes to spare is neither read nor written. -/
structure Isolated (pipeline : Pipeline) (reach : Nat) : Prop where
  answers : ∀ {round view conn pending handled}, reach ≤ view.capacity →
    pipeline round view conn pending = .ok handled →
      pipeline.onPacket reach round view.contents conn pending = .ok handled.answer
  within : ∀ {round view conn pending handled}, reach ≤ view.capacity →
    pipeline round view conn pending = .ok handled → view.Within reach handled.view

end Pipeline

section Handling

variable {aes : Aes128} {hash : FlowKey → UInt64}

/-- Routing keeps the length of the frame. -/
theorem processPacketParsed_length {frame frame' : Bytes} {parsed : ParsedFrame}
    {table : ConfigTable} {conn conn' : ConnectionTable} {localMac : Mac} {now : Instant}
    {verdict : Verdict}
    (done : processPacketParsed aes hash frame parsed table conn localMac now =
      .ok (verdict, frame', conn')) : frame'.length = frame.length := by
  have effect : Effect table conn localMac now frame verdict frame' conn' := by
    unfold processPacketParsed at done
    split at done
    · exact processUdp_effect done
    · exact processIcmp_effect done
  by_cases forwards : verdict.forwards = true
  · obtain ⟨mac, -, readdressed⟩ := effect.forwarded forwards
    exact readdressed.length
  · rw [(effect.dropped (Bool.eq_false_iff.mpr forwards)).1]

/-- The pipeline of the workers keeps to the packet and the room for a reply. -/
theorem handleFrame_isolated (crypto : RetryCrypto) (aes : Aes128) (hash : FlowKey → UInt64)
    (localMac : Mac) : (handleFrame crypto aes hash localMac).Isolated replyReach := by
  constructor
  · intro round view conn pending handled room done
    have spare := FrameView.le_capacity_padded view.contents replyReach
    have same := FrameView.contents_padded view.contents replyReach
    rw [Pipeline.onPacket, handleFrame, same]
    rcases handleFrame_cases done with ⟨parse, rfl⟩ |
      ⟨parsed, outcome, detail, after, counted, parse, tried, exits⟩
    · simp only [parse, Checked.ok_bind, Checked.pure_eq_ok, Handled.answer, same]
    · obtain ⟨-, others⟩ := tryHandle_isolated room tried
      obtain ⟨after', tried', contents⟩ := others _ spare same
      simp only [parse, tried', Checked.ok_bind]
      rcases exits with ⟨rfl, rfl⟩ | ⟨kept, verdict, bytes, routed, processed, rfl⟩
      · simp only [Checked.pure_eq_ok, Checked.ok_bind, Handled.answer, contents]
      · have sized := processPacketParsed_length processed
        rw [FrameView.contents_length] at sized
        have lengths : after'.len = after.len := by
          rw [← FrameView.contents_length, contents, FrameView.contents_length]
        have answered : (after'.writeBack bytes).contents = (after.writeBack bytes).contents := by
          rw [FrameView.contents_writeBack sized,
            FrameView.contents_writeBack (sized.trans lengths.symm)]
        cases outcome with
        | emitted => exact absurd rfl kept
        | forward | skip =>
          simp only [contents, processed, Checked.pure_eq_ok, Checked.ok_bind, Handled.answer,
            answered]
  · intro round view conn pending handled room done
    rcases handleFrame_cases done with ⟨-, rfl⟩ |
      ⟨parsed, outcome, detail, after, counted, -, tried, exits⟩
    · exact .refl _ _
    · obtain ⟨within, -⟩ := tryHandle_isolated room tried
      rcases exits with ⟨rfl, rfl⟩ | ⟨kept, verdict, bytes, routed, processed, rfl⟩
      · exact within
      · have sized := processPacketParsed_length processed
        rw [FrameView.contents_length] at sized
        exact within.trans (FrameView.within_writeBack sized _)

end Handling

end Pesigitg
