import Pesigitg.Retry.Exchange

/-!
# Soundness of the Retry classifier

The classifier decides on an Initial by its token and by the mode. `Decided` has one constructor
for each way to decide, with what the decision does to the tally of Initials; everything said
about an outcome of `tryHandle` is read off it.
-/

namespace Pesigitg

open Base Quic

/-- The Initial carries a token of this service that is valid for its sender. -/
def TokenVerifies (crypto : RetryCrypto) (retry : RetryConfig) (initial : Initial)
    (srcIp : IpAddr) (nowMs : UInt64) : Prop :=
  initial.token.length = 24 ∧
    Token.verify crypto retry.tokenKey initial.token srcIp initial.dcid nowMs
      retry.tokenLifetimeMs = .ok ()

/-- The ways to decide on an Initial, with the tally after the decision. -/
inductive Decided (retry : RetryConfig) (verified : Prop) (pending : UInt64) :
    Decision → UInt64 → Prop where
  | valid (holds : verified) : Decided retry verified pending .forward pending
  | always (fails : ¬ verified) (mode : retry.mode = .always) :
      Decided retry verified pending .emit pending
  | observe (fails : ¬ verified) (mode : retry.mode = .observe) :
      Decided retry verified pending .skip pending
  | load {tracker : LoadRateTracker} {trigger : UInt64} (fails : ¬ verified)
      (mode : retry.mode = .load) (tracked : retry.loadTracker = some tracker)
      (triggerSet : retry.loadTriggerRate = some trigger) :
      Decided retry verified pending (if trigger ≤ tracker.rate then .emit else .skip)
        (pending + 1)

section Decisions

variable {crypto : RetryCrypto} {retry : RetryConfig} {initial : Initial} {srcIp : IpAddr}
  {nowMs pending pending' : UInt64} {decision : Decision} {detail : Detail} {verified : Prop}

/-- Where load decides, the decision is the specified one. -/
theorem loadGatedDecision_decided (fails : ¬ verified)
    (done : loadGatedDecision retry pending = .ok (decision, pending')) :
    Decided retry verified pending decision pending' := by
  unfold loadGatedDecision at done
  cases mode : retry.mode with
  | always =>
    rw [mode] at done
    cases done
    exact .always fails mode
  | observe =>
    rw [mode] at done
    cases done
    exact .observe fails mode
  | load =>
    simp only [mode, Checked.bind_eq_ok_iff] at done
    obtain ⟨⟨triggered, tallied⟩, compared, done⟩ := done
    obtain ⟨tracker, trigger, tracked, triggerSet, rfl, rfl⟩ := loadOverTrigger_ok compared
    cases done
    simp only [decide_eq_true_eq]
    exact .load fails mode tracked triggerSet

/-- Without a token the decision is the one for a token that did not verify. -/
theorem classifyTokenless_gated
    (done : classifyTokenless retry pending = .ok ((decision, detail), pending')) :
    loadGatedDecision retry pending = .ok (decision, pending') := by
  unfold classifyTokenless at done
  unfold loadGatedDecision
  cases mode : retry.mode with
  | always =>
    rw [mode] at done
    cases done
    rfl
  | observe =>
    rw [mode] at done
    cases done
    rfl
  | load =>
    simp only [mode, Checked.bind_eq_ok_iff] at done
    obtain ⟨⟨triggered, tallied⟩, compared, done⟩ := done
    simp only [compared, Checked.ok_bind]
    cases triggered with
    | true =>
      cases done
      rfl
    | false =>
      cases done
      rfl

/-- So it is in every mode, with a token and without. -/
theorem classify_decided
    (done : classify crypto initial srcIp retry nowMs pending =
      .ok ((decision, detail), pending')) :
    Decided retry (TokenVerifies crypto retry initial srcIp nowMs) pending decision pending' := by
  unfold classify at done
  split at done
  · next sized =>
    split at done
    · next verified =>
      cases done
      exact .valid ⟨sized, verified⟩
    all_goals
      next rejected =>
      have fails : ¬ TokenVerifies crypto retry initial srcIp nowMs := by
        rintro ⟨-, verified⟩
        rw [rejected] at verified
        cases verified
      rw [Checked.bind_eq_ok_iff] at done
      obtain ⟨⟨gated, tallied⟩, gatedDone, done⟩ := done
      cases done
      exact loadGatedDecision_decided fails gatedDone
  · next other =>
    have fails : ¬ TokenVerifies crypto retry initial srcIp nowMs := fun verified => other verified.1
    exact loadGatedDecision_decided fails (classifyTokenless_gated done)

end Decisions

section Outcomes

variable {crypto : RetryCrypto} {view after : FrameView} {parsed : ParsedFrame}
  {table : ConfigTable} {localMac : Mac} {nowMs pending pending' : UInt64} {outcome : Outcome}
  {detail : Detail}

/-- Emitting either rewrites the frame or skips it untouched, at whatever stage it fails. -/
theorem emit_cases {layout : FrameLayout} {version : UInt32} {odcid scid : Bytes}
    {retry : RetryConfig}
    (done : emit crypto view layout version odcid scid retry localMac nowMs =
      .ok (outcome, after)) : outcome = .skip ∧ after = view ∨ outcome = .emitted := by
  unfold emit at done
  split at done
  · cases done
    exact .inl ⟨rfl, rfl⟩
  simp only [Checked.bind_eq_ok_iff] at done
  obtain ⟨result, -, done⟩ := done
  cases result with
  | error failure =>
    cases done
    exact .inl ⟨rfl, rfl⟩
  | ok build =>
    simp only [Checked.bind_eq_ok_iff] at done
    obtain ⟨packet, -, headers, -, done⟩ := done
    split at done
    · cases done
      exact .inl ⟨rfl, rfl⟩
    · rw [Checked.bind_eq_ok_iff] at done
      obtain ⟨frame, -, done⟩ := done
      cases done
      exact .inr rfl

/-- What `tryHandle` made of a frame: it skipped one without an Initial to decide on, or it
carried out the decision on the Initial. -/
inductive Classified (crypto : RetryCrypto) (view : FrameView) (parsed : ParsedFrame)
    (table : ConfigTable) (nowMs pending : UInt64) : Outcome → FrameView → UInt64 → Prop where
  | skipped (none : ∀ retry initial, ¬ Offered table view parsed retry initial) :
      Classified crypto view parsed table nowMs pending .skip view pending
  | decided {retry : RetryConfig} {initial : Initial} {decision : Decision} {outcome : Outcome}
      {after : FrameView} {pending' : UInt64} (offered : Offered table view parsed retry initial)
      (decided : Decided retry (TokenVerifies crypto retry initial parsed.srcAddr nowMs) pending
        decision pending')
      (carriedOut : decision = .emit ∧ outcome = .emitted ∨
        after = view ∧ (decision = .forward ∧ outcome = .forward ∨
          decision ≠ .forward ∧ outcome = .skip)) :
      Classified crypto view parsed table nowMs pending outcome after pending'

/-- Every frame is treated as its classification says. -/
theorem tryHandle_classified (parse : parseFrame view.contents = .ok (some parsed))
    (done : tryHandle crypto view parsed table localMac nowMs pending =
      .ok ((outcome, detail), after, pending')) :
    Classified crypto view parsed table nowMs pending outcome after pending' := by
  by_cases offer : ∃ retry initial, Offered table view parsed retry initial
  · obtain ⟨retry, initial, offered⟩ := offer
    obtain ⟨layout, promoted, handled⟩ := tryHandle_offered offered crypto localMac nowMs pending
    obtain ⟨-, -, -, srcIp, -, -⟩ := fromParsed_ok promoted
    rw [handled] at done
    obtain ⟨decision, classified, carriedOut⟩ := handleInitial_done done
    have decided := classify_decided classified
    rw [srcIp] at decided
    refine .decided offered decided ?_
    cases decision with
    | forward =>
      obtain ⟨rfl, rfl⟩ := carriedOut
      exact .inr ⟨rfl, .inl ⟨rfl, rfl⟩⟩
    | skip =>
      obtain ⟨rfl, rfl⟩ := carriedOut
      exact .inr ⟨rfl, .inr ⟨by simp, rfl⟩⟩
    | emit =>
      rcases emit_cases carriedOut with ⟨rfl, rfl⟩ | rfl
      · exact .inr ⟨rfl, .inr ⟨by simp, rfl⟩⟩
      · exact .inl ⟨rfl, rfl⟩
  · have none : ∀ retry initial, ¬ Offered table view parsed retry initial :=
      fun retry initial offered => offer ⟨retry, initial, offered⟩
    obtain ⟨skipDetail, skipped⟩ := tryHandle_not_offered parse none crypto localMac nowMs pending
    rw [skipped] at done
    cases done
    exact .skipped none

/-- There is only one Initial to decide on. -/
theorem Offered.unique {retry retry' : RetryConfig} {initial initial' : Initial}
    (offered : Offered table view parsed retry initial)
    (offered' : Offered table view parsed retry' initial') : retry = retry' ∧ initial = initial' := by
  refine ⟨Option.some.inj (offered.configured.symm.trans offered'.configured), ?_⟩
  obtain ⟨udpOffset, quicOffset, srcPort, dstPort, l4, read⟩ := offered.carries.udp
  obtain ⟨udpOffset', quicOffset', srcPort', dstPort', l4', read'⟩ := offered'.carries.udp
  obtain ⟨-, rfl, -, -⟩ := L4.udp.inj (l4.symm.trans l4')
  rw [read] at read'
  simpa using read'

/-- The mode lets an Initial without a valid token be answered: always, or under a load that
reached the trigger in the last completed window. -/
def RetryConfig.Answering (retry : RetryConfig) : Prop :=
  retry.mode = .always ∨ retry.mode = .load ∧ ∃ tracker trigger,
    retry.loadTracker = some tracker ∧ retry.loadTriggerRate = some trigger ∧
      trigger ≤ tracker.rate

/-- The Initial counts towards the load. -/
def CountsAsLoad (crypto : RetryCrypto) (table : ConfigTable) (view : FrameView)
    (parsed : ParsedFrame) (nowMs : UInt64) : Prop :=
  ∃ retry initial, Offered table view parsed retry initial ∧ retry.mode = .load ∧
    ¬ TokenVerifies crypto retry initial parsed.srcAddr nowMs

/-- A decision to emit needs a mode that answers and a token that fails. -/
theorem Decided.emit_inv {retry : RetryConfig} {verified : Prop}
    (decided : Decided retry verified pending .emit pending') : retry.Answering ∧ ¬ verified := by
  generalize emits : Decision.emit = decision at decided
  cases decided with
  | valid holds => cases emits
  | always fails mode => exact ⟨.inl mode, fails⟩
  | observe fails mode => cases emits
  | @load tracker trigger fails mode tracked triggerSet =>
    split at emits
    · next reached => exact ⟨.inr ⟨mode, tracker, trigger, tracked, triggerSet, reached⟩, fails⟩
    · cases emits

/-- A decision to forward needs a token that verifies, and such a token decides so. -/
theorem Decided.forward_iff {retry : RetryConfig} {verified : Prop} {decision : Decision}
    (decided : Decided retry verified pending decision pending') :
    decision = .forward ↔ verified := by
  cases decided with
  | valid holds => exact ⟨fun _ => holds, fun _ => rfl⟩
  | always fails mode => exact ⟨nofun, fun holds => absurd holds fails⟩
  | observe fails mode => exact ⟨nofun, fun holds => absurd holds fails⟩
  | load fails mode tracked triggerSet =>
    refine ⟨fun forwards => ?_, fun holds => absurd holds fails⟩
    split at forwards
    · cases forwards
    · cases forwards

/-- The tally grows in mode load, unless the token verified. -/
theorem Decided.tally {retry : RetryConfig} {verified : Prop} {decision : Decision}
    (decided : Decided retry verified pending decision pending') :
    (retry.mode = .load ∧ ¬ verified → pending' = pending + 1) ∧
      (¬ (retry.mode = .load ∧ ¬ verified) → pending' = pending) := by
  cases decided with
  | valid holds => exact ⟨fun counts => absurd holds counts.2, fun _ => rfl⟩
  | always fails mode => simp [mode]
  | observe fails mode => simp [mode]
  | load fails mode tracked triggerSet => exact ⟨fun _ => rfl, fun none => absurd ⟨mode, fails⟩ none⟩

/-- A frame that is not answered in place is left as it is. -/
theorem Classified.untouched
    (classified : Classified crypto view parsed table nowMs pending outcome after pending')
    (kept : outcome ≠ .emitted) : after = view := by
  cases classified with
  | skipped none => rfl
  | decided offered decided carriedOut =>
    rcases carriedOut with ⟨-, rfl⟩ | ⟨rfl, -⟩
    · exact absurd rfl kept
    · rfl

/-- A frame that is answered carried an Initial without a valid token. -/
theorem Classified.emitted
    (classified : Classified crypto view parsed table nowMs pending .emitted after pending') :
    ∃ retry initial, Offered table view parsed retry initial ∧ retry.Answering ∧
      ¬ TokenVerifies crypto retry initial parsed.srcAddr nowMs := by
  generalize emits : Outcome.emitted = outcome at classified
  cases classified with
  | skipped none => cases emits
  | @decided retry initial decision _ _ _ offered decided carriedOut =>
    rcases carriedOut with ⟨rfl, -⟩ | ⟨-, ⟨-, rfl⟩ | ⟨-, rfl⟩⟩
    · exact ⟨retry, initial, offered, decided.emit_inv⟩
    · cases emits
    · cases emits

/-- A frame that is let through carried a valid token. -/
theorem Classified.forwarded
    (classified : Classified crypto view parsed table nowMs pending .forward after pending') :
    ∃ retry initial, Offered table view parsed retry initial ∧
      TokenVerifies crypto retry initial parsed.srcAddr nowMs := by
  generalize forwards : Outcome.forward = outcome at classified
  cases classified with
  | skipped none => cases forwards
  | @decided retry initial decision _ _ _ offered decided carriedOut =>
    rcases carriedOut with ⟨-, rfl⟩ | ⟨-, ⟨rfl, -⟩ | ⟨-, rfl⟩⟩
    · cases forwards
    · exact ⟨retry, initial, offered, decided.forward_iff.mp rfl⟩
    · cases forwards

/-- The tally counts exactly the Initials that count as load. -/
theorem Classified.tally
    (classified : Classified crypto view parsed table nowMs pending outcome after pending') :
    (CountsAsLoad crypto table view parsed nowMs → pending' = pending + 1) ∧
      (¬ CountsAsLoad crypto table view parsed nowMs → pending' = pending) := by
  cases classified with
  | skipped none =>
    exact ⟨fun ⟨retry, initial, offered, _⟩ => absurd offered (none retry initial), fun _ => rfl⟩
  | @decided retry initial _ _ _ _ offered decided carriedOut =>
    have same : CountsAsLoad crypto table view parsed nowMs ↔
        retry.mode = .load ∧ ¬ TokenVerifies crypto retry initial parsed.srcAddr nowMs := by
      constructor
      · rintro ⟨retry', initial', offered', counts⟩
        obtain ⟨rfl, rfl⟩ := offered.unique offered'
        exact counts
      · exact fun counts => ⟨retry, initial, offered, counts⟩
    rw [same]
    exact decided.tally

/-- The tally changes when it is raised, even if it wraps. -/
theorem pending_ne_succ (pending : UInt64) : pending ≠ pending + 1 := by
  intro same
  have values := congrArg UInt64.toNat same
  rw [UInt64.toNat_add] at values
  have bound := pending.toNat_lt
  simp only [UInt64.reduceToNat] at values
  omega

/-- The classifier rewrites a frame only to answer an Initial it is responsible for, in a mode
that answers, whose token does not verify; it leaves every other frame as it is; it forwards
exactly the Initials whose token verifies; and it tallies exactly the Initials that count as
load. -/
theorem retry_classifier_sound (parse : parseFrame view.contents = .ok (some parsed)) :
    (∀ outcome detail after pending',
      tryHandle crypto view parsed table localMac nowMs pending =
          .ok ((outcome, detail), after, pending') →
        (outcome = .skip ∨ outcome = .forward → after = view) ∧
        (outcome = .emitted → ∃ retry initial, Offered table view parsed retry initial ∧
          (initial.version = quicV1 ∨ initial.version = quicV2) ∧ retry.Answering ∧
          ¬ TokenVerifies crypto retry initial parsed.srcAddr nowMs) ∧
        (pending' = pending + 1 ↔ CountsAsLoad crypto table view parsed nowMs) ∧
        (pending' ≠ pending + 1 → pending' = pending)) ∧
    ((∃ detail after pending', tryHandle crypto view parsed table localMac nowMs pending =
        .ok ((.forward, detail), after, pending')) ↔
      ∃ retry initial, Offered table view parsed retry initial ∧
        TokenVerifies crypto retry initial parsed.srcAddr nowMs) := by
  constructor
  · intro outcome detail after pending' done
    have classified := tryHandle_classified parse done
    obtain ⟨grows, stays⟩ := classified.tally
    refine ⟨?_, ?_, ?_, ?_⟩
    · rintro (rfl | rfl)
      · exact classified.untouched (by simp)
      · exact classified.untouched (by simp)
    · rintro rfl
      obtain ⟨retry, initial, offered, answering, fails⟩ := classified.emitted
      obtain ⟨_, _, _, _, -, read⟩ := offered.carries.udp
      exact ⟨retry, initial, offered, (parseStrict_wellFormed read).version_known, answering, fails⟩
    · refine ⟨fun grown => ?_, grows⟩
      by_contra uncounted
      rw [stays uncounted] at grown
      exact pending_ne_succ pending grown
    · exact fun notGrown => stays fun counts => notGrown (grows counts)
  · constructor
    · rintro ⟨detail, after, pending', done⟩
      exact (tryHandle_classified parse done).forwarded
    · rintro ⟨retry, initial, offered, sized, verified⟩
      exact ⟨_, _, _, tryHandle_of_verified offered.configured offered.enabled offered.carries
        offered.inScope sized verified localMac pending⟩

/-- The sample's first Initial is answered in mode always, and its tally stays. -/
theorem retry_classifier_sound_sample :
    parseFrame SampleRetry.first.contents = .ok (some SampleRetry.parsed) ∧
      ∃ retry initial,
        Offered SampleRetry.table SampleRetry.first SampleRetry.parsed retry initial ∧
          retry.Answering := by
  refine ⟨SampleRetry.first_parses, ?_⟩
  obtain ⟨-, emitted, -⟩ := (retry_classifier_sound SampleRetry.first_parses).1 _ _ _ _
    SampleRetry.first_emitted
  obtain ⟨retry, initial, offered, -, answering, -⟩ := emitted rfl
  exact ⟨retry, initial, offered, answering⟩

end Outcomes

end Pesigitg
