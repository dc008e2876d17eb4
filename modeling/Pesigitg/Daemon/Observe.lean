import Pesigitg.Daemon.Worker

/-!
# Observe mode

In mode observe the classifier looks at every Initial, and counts what it would have
done, but whatever it finds it leaves the frame to the routing pipeline as it was.
Two workers that differ only in this, one with the Retry service off and one
observing, therefore do the same with every sequence of frames.
-/

namespace Pesigitg

open Base Quic

/-- The Retry service is absent, switched off, or only observing. -/
def RetryConfig.Silent (retry : Option RetryConfig) : Prop :=
  ∀ config, retry = some config → config.enabled = true → config.mode = .observe

section Classifier

variable {retry : RetryConfig}

/-- Whatever the token is worth, observing neither emits nor counts towards the load. -/
theorem classify_observe (observing : retry.mode = .observe) (crypto : RetryCrypto)
    (initial : Initial) (srcIp : IpAddr) (nowMs pending : UInt64) :
    ∃ decision detail, decision ≠ .emit ∧
      classify crypto initial srcIp retry nowMs pending = .ok ((decision, detail), pending) := by
  unfold classify
  split
  · split
    · exact ⟨.forward, .tokenValid, by simp, rfl⟩
    · exact ⟨.skip, .tokenInvalid, by simp, by simp [loadGatedDecision, observing]⟩
    · exact ⟨.skip, .tokenExpired, by simp, by simp [loadGatedDecision, observing]⟩
  · exact ⟨.skip, .observed, by simp, by simp [classifyTokenless, observing]⟩

variable {crypto : RetryCrypto} {initial : Initial} {nowMs pending : UInt64} {view : FrameView}
  {layout : FrameLayout} {localMac : Mac} {parsed : ParsedFrame} {table : ConfigTable}

/-- In observe mode an Initial is classified and left as it is. -/
theorem handleInitial_observe (observing : retry.mode = .observe) (formed : initial.WellFormed) :
    ∃ outcome detail, outcome ≠ .emitted ∧
      handleInitial crypto view layout retry localMac nowMs pending initial =
        .ok ((outcome, detail), view, pending) := by
  obtain ⟨dcidBuf, dcidCopied⟩ := copyInto_snapshot formed.dcid_le
  obtain ⟨scidBuf, scidCopied⟩ := copyInto_snapshot formed.scid_le
  obtain ⟨decision, detail, notEmit, decided⟩ :=
    classify_observe observing crypto initial layout.srcIp nowMs pending
  simp only [handleInitial, dcidCopied, scidCopied, decided, Checked.ok_bind]
  cases decision with
  | forward => exact ⟨.forward, detail, by simp, rfl⟩
  | skip => exact ⟨.skip, detail, by simp, rfl⟩
  | emit => exact absurd rfl notEmit

/-- A silent service answers no frame, changes no byte and does not panic. -/
theorem tryHandle_silent (silent : RetryConfig.Silent table.retry)
    (parse : parseFrame view.contents = .ok (some parsed)) (crypto : RetryCrypto) (localMac : Mac)
    (nowMs pending : UInt64) :
    ∃ outcome detail, outcome ≠ .emitted ∧
      tryHandle crypto view parsed table localMac nowMs pending =
        .ok ((outcome, detail), view, pending) := by
  by_cases offer : ∃ retry initial, Offered table view parsed retry initial
  · obtain ⟨retry, initial, offered⟩ := offer
    obtain ⟨layout, -, handled⟩ := tryHandle_offered offered crypto localMac nowMs pending
    obtain ⟨_, _, _, _, -, parsedInitial⟩ := offered.carries.udp
    rw [handled]
    exact handleInitial_observe (silent retry offered.configured offered.enabled)
      (parseStrict_wellFormed parsedInitial)
  · have none : ∀ retry initial, ¬ Offered table view parsed retry initial :=
      fun retry initial offered => offer ⟨retry, initial, offered⟩
    obtain ⟨detail, skipped⟩ := tryHandle_not_offered parse none crypto localMac nowMs pending
    exact ⟨.skip, detail, by simp, skipped⟩

end Classifier

/-! ## Two workers on the same frames -/

/-- A frame as a worker receives it, with the two clocks it reads. -/
structure Arrival where
  view : FrameView
  now : Instant
  nowMs : UInt64

/-- What became of a frame: the decision, the frame as it is now, and the connection
table after it. -/
structure Observed where
  action : Action
  view : FrameView
  conn : ConnectionTable

def Handled.observed (handled : Handled) : Observed :=
  ⟨handled.action, handled.view, handled.conn⟩

section Runs

variable (crypto : RetryCrypto) (aes : Aes128) (hash : FlowKey → UInt64) (localMac : Mac)

/-- Run frames through the worker's pipeline one after another. -/
def handleAll (table : ConfigTable) : List Arrival → ConnectionTable → UInt64 →
    Checked (List Observed)
  | [], _, _ => pure []
  | arrival :: rest, conn, pending => do
    let handled ← handleFrame crypto aes hash localMac ⟨arrival.now, arrival.nowMs, table⟩
      arrival.view conn pending
    let later ← handleAll table rest handled.conn handled.pendingLoadInitials
    pure (handled.observed :: later)

variable {table other : ConfigTable}

/-- Routing does not look at the Retry settings. -/
theorem processPacketParsed_retry (frame : Bytes) (parsed : ParsedFrame) (table : ConfigTable)
    (retry : Option RetryConfig) (conn : ConnectionTable) (now : Instant) :
    processPacketParsed aes hash frame parsed { table with retry := retry } conn localMac now =
      processPacketParsed aes hash frame parsed table conn localMac now := by
  rfl

/-- With a silent service a frame is routed as if there were none. -/
theorem handleFrame_silent (silent : RetryConfig.Silent table.retry) (now : Instant)
    (nowMs : UInt64) (view : FrameView) (conn : ConnectionTable) (pending : UInt64) :
    (handleFrame crypto aes hash localMac ⟨now, nowMs, table⟩ view conn pending).map
        Handled.observed =
      match parseFrame view.contents with
      | .error reason => .error reason
      | .ok none => .ok ⟨.verdict .pass, view, conn⟩
      | .ok (some parsed) =>
        (processPacketParsed aes hash view.contents parsed table conn localMac now).map
          fun (verdict, contents, routed) => ⟨.verdict verdict, view.writeBack contents, routed⟩ := by
  unfold handleFrame
  cases parse : parseFrame view.contents with
  | error reason => rfl
  | ok parsed? =>
    cases parsed? with
    | none => rfl
    | some parsed =>
      obtain ⟨outcome, detail, notEmitted, tried⟩ :=
        tryHandle_silent silent parse crypto localMac nowMs pending
      simp only [Checked.ok_bind, tried]
      cases outcome with
      | emitted => exact absurd rfl notEmitted
      | forward | skip =>
        simp only
        cases processPacketParsed aes hash view.contents parsed table conn localMac now with
        | error reason => rfl
        | ok result => rfl

/-- The step: two silent workers make the same of a frame, whatever they had tallied. -/
theorem handleFrame_congr {retry : Option RetryConfig} (silent : RetryConfig.Silent table.retry)
    (silentToo : RetryConfig.Silent retry) (now : Instant) (nowMs : UInt64) (view : FrameView)
    (conn : ConnectionTable) (pending tallied : UInt64) :
    (handleFrame crypto aes hash localMac ⟨now, nowMs, { table with retry := retry }⟩ view conn
        tallied).map Handled.observed =
      (handleFrame crypto aes hash localMac ⟨now, nowMs, table⟩ view conn pending).map
        Handled.observed := by
  have other : RetryConfig.Silent ({ table with retry := retry } : ConfigTable).retry := silentToo
  rw [handleFrame_silent crypto aes hash localMac other,
    handleFrame_silent crypto aes hash localMac silent]
  simp only [processPacketParsed_retry]

/-- The run: two silent workers make the same of every sequence of frames. -/
theorem handleAll_congr {retry : Option RetryConfig} (silent : RetryConfig.Silent table.retry)
    (silentToo : RetryConfig.Silent retry) (arrivals : List Arrival) (conn : ConnectionTable)
    (pending tallied : UInt64) :
    handleAll crypto aes hash localMac { table with retry := retry } arrivals conn tallied =
      handleAll crypto aes hash localMac table arrivals conn pending := by
  induction arrivals generalizing conn pending tallied with
  | nil => rfl
  | cons arrival rest later =>
    have step := handleFrame_congr crypto aes hash localMac silent silentToo arrival.now
      arrival.nowMs arrival.view conn pending tallied
    unfold handleAll
    obtain ⟨reason, stops, stopsToo⟩ | ⟨watched, handled, returns, returnsToo, same⟩ :=
      Checked.map_eq_map_cases step
    · rw [stops, stopsToo]
      rfl
    · have conns : watched.conn = handled.conn := congrArg Observed.conn same
      simp only [returns, returnsToo, Checked.ok_bind, same, conns]
      rw [later handled.conn handled.pendingLoadInitials watched.pendingLoadInitials]

/-- A silent worker emits no Retry, over any sequence of frames. -/
theorem handleAll_silent (silent : RetryConfig.Silent table.retry) (arrivals : List Arrival)
    (conn : ConnectionTable) (pending : UInt64) (results : List Observed)
    (done : handleAll crypto aes hash localMac table arrivals conn pending = .ok results) :
    ∀ result ∈ results, result.action ≠ .emitted := by
  induction arrivals generalizing conn pending results with
  | nil =>
    cases done
    simp
  | cons arrival rest later =>
    simp only [handleAll, Checked.bind_eq_ok_iff] at done
    obtain ⟨handled, step, others, ran, done⟩ := done
    cases done
    intro result inside
    rcases List.mem_cons.mp inside with rfl | among
    · rcases handleFrame_cases step with ⟨-, rfl⟩ |
        ⟨parsed, outcome, detail, after, counted, parse, tried, handling⟩
      · simp [Handled.observed]
      obtain ⟨kept, _, notEmitted, quiet⟩ :=
        tryHandle_silent silent parse crypto localMac arrival.nowMs pending
      rcases handling with ⟨rfl, -⟩ | ⟨-, verdict, contents, routed, -, rfl⟩
      · rw [quiet] at tried
        cases tried
        exact absurd rfl notEmitted
      · simp [Handled.observed]
    · exact later handled.conn handled.pendingLoadInitials others ran result among

/-- Observe mode is transparent: next to a worker whose service is absent or disabled, an observing
one takes every sequence of frames to the same decisions, bytes and connection tables; its
classifier emits no Retry and returns every frame as it was. -/
theorem observe_transparent {retry : RetryConfig}
    (off : ∀ config, table.retry = some config → config.enabled = false)
    (observing : retry.enabled = true ∧ retry.mode = .observe) :
    (∀ arrivals conn pending,
      handleAll crypto aes hash localMac { table with retry := some retry } arrivals conn pending =
        handleAll crypto aes hash localMac table arrivals conn pending) ∧
    (∀ arrivals conn pending results,
      handleAll crypto aes hash localMac { table with retry := some retry } arrivals conn pending =
        .ok results → ∀ result ∈ results, result.action ≠ .emitted) ∧
    ∀ view parsed nowMs pending, parseFrame view.contents = .ok (some parsed) →
      ∃ outcome detail, outcome ≠ .emitted ∧
        tryHandle crypto view parsed { table with retry := some retry } localMac nowMs pending =
          .ok ((outcome, detail), view, pending) := by
  have silent : RetryConfig.Silent table.retry := by
    intro config configured enabled
    rw [off config configured] at enabled
    cases enabled
  have watching : RetryConfig.Silent (some retry) := by
    intro config configured _
    cases configured
    exact observing.2
  refine ⟨?_, ?_, ?_⟩
  · intro arrivals conn pending
    exact handleAll_congr crypto aes hash localMac silent watching arrivals conn pending pending
  · intro arrivals conn pending results done
    exact handleAll_silent crypto aes hash localMac watching arrivals conn pending results done
  · intro view parsed nowMs pending parse
    exact tryHandle_silent watching parse crypto localMac nowMs pending

end Runs

namespace SampleObserve

def plain : ConfigTable := { SampleRetry.table with retry := none }

def retry : RetryConfig := { SampleRetry.retry with mode := .observe }

/-- The sample client's two Initials, without a token and with a valid one. -/
def arrivals : List Arrival := [⟨SampleRetry.first, 0, 2000⟩, ⟨SampleRetry.second, 1, 2001⟩]

/-- Neither the cipher nor the flow hash is called on the two frames. -/
def run (table : ConfigTable) : Checked (List Observed) :=
  handleAll SampleRetry.crypto ⟨fun _ block => block, fun _ block => block⟩ (fun _ => 0)
    SampleRetry.localMac table arrivals (.new 0) 0

end SampleObserve

/-- Observing the sample client changes nothing, and both runs return. -/
theorem sample_observe_transparent :
    SampleObserve.run { SampleObserve.plain with retry := some SampleObserve.retry } =
        SampleObserve.run SampleObserve.plain ∧
      (SampleObserve.run SampleObserve.plain).toOption.isSome = true := by
  have off : ∀ config, SampleObserve.plain.retry = some config → config.enabled = false := by
    intro config configured
    cases configured
  have observing : SampleObserve.retry.enabled = true ∧ SampleObserve.retry.mode = .observe := by
    decide +kernel
  refine ⟨?_, by decide +kernel⟩
  exact (observe_transparent _ _ _ _ off observing).1 SampleObserve.arrivals (.new 0) 0

end Pesigitg
