import Pesigitg.Daemon.Worker
import Pesigitg.Retry.Classifier

/-!
# Load mode over a sequence of batches

In mode load a batch compares the tracker's published rate with the trigger for each
Initial without a valid token, and adds their number to the tracker when it ends.
`LoadRun` is a sequence of batches of any workers, one after another over one
tracker. As long as no second passes without a batch, what a batch reads is the
count of the second before, or of the one before that; over an idle gap the tracker
keeps what it had.
-/

namespace Pesigitg

open Base

namespace LoadRateTracker

variable {tracker : LoadRateTracker} {count nowMs : UInt64}

/-- Within a second, counts add up. -/
theorem recordBatch_of_same (same : nowMs / 1000 = tracker.windowSec) :
    tracker.recordBatch count nowMs =
      { tracker with windowCount := tracker.windowCount + count } := by
  by_cases positive : 0 < count
  · simp [recordBatch, same, positive]
  · have zero : count = 0 := by simpa [UInt64.pos_iff_ne_zero] using positive
    simp [recordBatch, same, zero]

/-- A new second moves the count of the old one to the last rate. -/
theorem recordBatch_of_ne (moved : nowMs / 1000 ≠ tracker.windowSec) :
    tracker.recordBatch count nowMs = ⟨nowMs / 1000, count, tracker.windowCount⟩ := by
  by_cases positive : 0 < count
  · simp [recordBatch, moved, positive]
  · have zero : count = 0 := by simpa [UInt64.pos_iff_ne_zero] using positive
    simp [recordBatch, moved, zero]

end LoadRateTracker

/-- A batch of some worker: what its iteration read from outside, and the tally of
Initials it recorded. -/
structure LoadBatch where
  round : Round
  tally : UInt64

namespace LoadBatch

/-- The wall-clock second of the batch. -/
def sec (batch : LoadBatch) : Nat := (batch.round.nowMs / 1000).toNat

/-- What `rate()` gives the batch's Initials. -/
def rate (batch : LoadBatch) : Option UInt64 :=
  (batch.round.config.retry.bind (·.loadTracker)).map LoadRateTracker.rate

/-- Later batches are not in earlier seconds. -/
theorem sec_mono {earlier later : LoadBatch} (ordered : earlier.round.nowMs ≤ later.round.nowMs) :
    earlier.sec ≤ later.sec := by
  simp only [sec, UInt64.toNat_div]
  exact Nat.div_le_div_right (UInt64.le_iff_toNat_le.mp ordered)

end LoadBatch

/-- Non-empty batches of any workers, one after another, over one tracker and with a
clock that never goes back. -/
inductive LoadRun (pipeline : Pipeline) : List LoadBatch → LoadRateTracker → Prop where
  | nil : LoadRun pipeline [] .new
  | snoc {Socket Frame : Type} {socket : AfXdpSocket Socket Frame}
      {state after : WorkerState Socket Frame} {log : RoundLog Frame} {batches : List LoadBatch}
      {tracker : LoadRateTracker} {batch : LoadBatch}
      (prior : LoadRun pipeline batches tracker)
      (clock : ∀ earlier ∈ batches, earlier.round.nowMs ≤ batch.round.nowMs)
      (shared : batch.round.config.retry.bind (·.loadTracker) = some tracker)
      (served : workerIteration socket pipeline state batch.round = .ok (after, log))
      (nonempty : log.received ≠ [])
      (flushed : log.loadTracker = some (tracker.recordBatch batch.tally batch.round.nowMs)) :
      LoadRun pipeline (batches ++ [batch]) (tracker.recordBatch batch.tally batch.round.nowMs)

/-- What the batches of one second recorded, `back` seconds before `sec`. -/
def countedBack (batches : List LoadBatch) (back sec : Nat) : Nat :=
  ((batches.filter (·.sec + back = sec)).map (·.tally.toNat)).sum

/-- The rate the batch read is the count of the second before its own, or of the one
before that. -/
def RateLags (batches : List LoadBatch) (batch : LoadBatch) : Prop :=
  batch.rate = some (UInt64.ofNat (countedBack batches 1 batch.sec)) ∨
    batch.rate = some (UInt64.ofNat (countedBack batches 2 batch.sec))

/-- In mode load the batch turns a frame into a Retry only if one of those two
seconds reached the trigger. -/
def RetryLags (pipeline : Pipeline) (batches : List LoadBatch) (batch : LoadBatch) : Prop :=
  ∀ retry view conn pending handled, batch.round.config.retry = some retry → retry.mode = .load →
    pipeline batch.round view conn pending = .ok handled → handled.action = .emitted →
    ∃ trigger, retry.loadTriggerRate = some trigger ∧
      (trigger.toNat ≤ countedBack batches 1 batch.sec ∨
        trigger.toNat ≤ countedBack batches 2 batch.sec)

/-- Each batch comes in the second of the batch before it or in the next one. -/
def Steady (batches : List LoadBatch) : Prop :=
  batches.IsChain fun earlier later => later.sec ≤ earlier.sec + 1

section Lag

variable {pipeline : Pipeline} {batches : List LoadBatch} {tracker : LoadRateTracker}

/-- Counts add up over batches. -/
theorem countedBack_append (batches more : List LoadBatch) (back sec : Nat) :
    countedBack (batches ++ more) back sec =
      countedBack batches back sec + countedBack more back sec := by
  simp [countedBack]

/-- One batch counts for its own second. -/
theorem countedBack_single (batch : LoadBatch) (back sec : Nat) :
    countedBack [batch] back sec = if batch.sec + back = sec then batch.tally.toNat else 0 := by
  by_cases same : batch.sec + back = sec <;> simp [countedBack, same]

/-- A second after every batch has counted nothing. -/
theorem countedBack_eq_zero {back sec : Nat}
    (missed : ∀ batch ∈ batches, batch.sec + back ≠ sec) : countedBack batches back sec = 0 := by
  have empty : batches.filter (·.sec + back = sec) = [] := by
    simpa [List.filter_eq_nil_iff] using missed
  simp [countedBack, empty]

/-- What the tracker holds after a steady run that ended with `last`. -/
structure Windowed (batches : List LoadBatch) (tracker : LoadRateTracker) (last : LoadBatch) :
    Prop where
  latest : ∀ batch ∈ batches, batch.sec ≤ last.sec
  window : tracker.windowSec = last.round.nowMs / 1000
  count : tracker.windowCount = UInt64.ofNat (countedBack batches 0 last.sec)
  rate : tracker.lastRate = UInt64.ofNat (countedBack batches 1 last.sec)

/-- The first batch opens the window. -/
theorem Windowed.first (batch : LoadBatch) :
    Windowed [batch] (LoadRateTracker.new.recordBatch batch.tally batch.round.nowMs) batch := by
  have alone : countedBack [batch] 0 batch.sec = batch.tally.toNat := by
    simp [countedBack_single]
  have before : countedBack [batch] 1 batch.sec = 0 := by simp [countedBack_single]
  by_cases same : batch.round.nowMs / 1000 = LoadRateTracker.new.windowSec
  · rw [LoadRateTracker.recordBatch_of_same same]
    exact ⟨by simp, same.symm, by simp [alone, LoadRateTracker.new],
      by simp [before, LoadRateTracker.new]⟩
  · rw [LoadRateTracker.recordBatch_of_ne same]
    exact ⟨by simp, rfl, by simp [alone], by simp [before, LoadRateTracker.new]⟩

/-- The step: the same second adds to the window, the next one publishes it. -/
theorem Windowed.snoc {last batch : LoadBatch} (windowed : Windowed batches tracker last)
    (ordered : last.sec ≤ batch.sec) (next : batch.sec ≤ last.sec + 1) :
    Windowed (batches ++ [batch]) (tracker.recordBatch batch.tally batch.round.nowMs) batch := by
  have latest : ∀ earlier ∈ batches ++ [batch], earlier.sec ≤ batch.sec := by
    intro earlier inside
    rcases List.mem_append.mp inside with before | own
    · exact (windowed.latest earlier before).trans ordered
    · rw [List.mem_singleton.mp own]
  by_cases same : batch.round.nowMs / 1000 = tracker.windowSec
  · have sameSec : batch.sec = last.sec := by
      rw [LoadBatch.sec, LoadBatch.sec, same, windowed.window]
    rw [LoadRateTracker.recordBatch_of_same same]
    refine ⟨latest, same.symm, ?_, ?_⟩
    · rw [countedBack_append, countedBack_single, if_pos (Nat.add_zero _), UInt64.ofNat_add, sameSec]
      simp [windowed.count]
    · rw [countedBack_append, countedBack_single, if_neg (by omega), Nat.add_zero, sameSec]
      exact windowed.rate
  · have nextSec : batch.sec = last.sec + 1 := by
      have moved : batch.sec ≠ last.sec := fun equal =>
        same ((UInt64.toNat_inj.mp equal).trans windowed.window.symm)
      omega
    have unseen : countedBack batches 0 batch.sec = 0 :=
      countedBack_eq_zero fun earlier inside => by
        have before := windowed.latest earlier inside
        omega
    rw [LoadRateTracker.recordBatch_of_ne same]
    refine ⟨latest, rfl, ?_, ?_⟩
    · simp [countedBack_append, unseen, countedBack_single]
    · rw [countedBack_append, countedBack_single, if_neg (by omega), Nat.add_zero, nextSec,
        windowed.count]
      simp [countedBack]

/-- The tracker after a steady run. -/
theorem LoadRun.windowed (run : LoadRun pipeline batches tracker) (steady : Steady batches) :
    batches = [] ∧ tracker = .new ∨
      ∃ last, batches.getLast? = some last ∧ Windowed batches tracker last := by
  induction run with
  | nil => exact .inl ⟨rfl, rfl⟩
  | @snoc _ _ _ _ _ _ batches tracker batch prior clock _ _ _ _ kept =>
    obtain ⟨before, -, linked⟩ := List.isChain_append.mp steady
    refine .inr ⟨batch, by simp, ?_⟩
    rcases kept before with ⟨rfl, rfl⟩ | ⟨last, isLast, windowed⟩
    · exact .first batch
    · have ordered := LoadBatch.sec_mono (clock last (List.mem_of_getLast? isLast))
      exact windowed.snoc ordered (linked last isLast batch rfl)

/-- A batch adds nothing to the seconds before its own. -/
theorem countedBack_snoc_of_le {batch : LoadBatch} {back sec : Nat} (positive : 0 < back)
    (ordered : sec ≤ batch.sec) :
    countedBack (batches ++ [batch]) back sec = countedBack batches back sec := by
  rw [countedBack_append, countedBack_single, if_neg (by omega), Nat.add_zero]

/-- What a batch read stays the count of those seconds as later batches follow. -/
theorem RateLags.snoc {batch later : LoadBatch} (lags : RateLags batches batch)
    (ordered : batch.sec ≤ later.sec) : RateLags (batches ++ [later]) batch := by
  unfold RateLags
  rw [countedBack_snoc_of_le Nat.one_pos ordered, countedBack_snoc_of_le Nat.two_pos ordered]
  exact lags

/-- With batches in every second, the rate at each batch is the count of one of the two seconds
before. -/
theorem LoadRun.rateLags (run : LoadRun pipeline batches tracker) (steady : Steady batches) :
    ∀ batch ∈ batches, RateLags batches batch := by
  induction run with
  | nil => simp
  | @snoc _ _ _ _ _ _ batches tracker batch prior clock shared _ _ _ kept =>
    obtain ⟨before, -, linked⟩ := List.isChain_append.mp steady
    intro reader inside
    rcases List.mem_append.mp inside with earlier | own
    · exact (kept before reader earlier).snoc (LoadBatch.sec_mono (clock reader earlier))
    obtain rfl := List.mem_singleton.mp own
    have read : reader.rate = some tracker.lastRate := by simp [LoadBatch.rate, shared, LoadRateTracker.rate]
    unfold RateLags
    rw [countedBack_snoc_of_le Nat.one_pos le_rfl, countedBack_snoc_of_le Nat.two_pos le_rfl, read]
    rcases prior.windowed before with ⟨rfl, rfl⟩ | ⟨last, isLast, windowed⟩
    · exact .inl rfl
    · have ordered := LoadBatch.sec_mono (clock last (List.mem_of_getLast? isLast))
      have next : reader.sec ≤ last.sec + 1 := linked last isLast reader rfl
      rcases Nat.eq_or_lt_of_le ordered with same | later
      · rw [windowed.rate, same]
        exact .inl rfl
      · have nextSec : reader.sec = last.sec + 1 := by omega
        rw [windowed.rate, nextSec]
        exact .inr (by simp [countedBack])

/-- A Retry of the worker pipeline in mode load means the rate reached the trigger. -/
theorem handleFrame_emitted_load {crypto : RetryCrypto} {aes : Aes128} {hash : FlowKey → UInt64}
    {localMac : Mac} {round : Round} {view : FrameView} {conn : ConnectionTable} {pending : UInt64}
    {handled : Handled} {retry : RetryConfig} (configured : round.config.retry = some retry)
    (load : retry.mode = .load)
    (done : handleFrame crypto aes hash localMac round view conn pending = .ok handled)
    (emitted : handled.action = .emitted) :
    ∃ tracker trigger, retry.loadTracker = some tracker ∧ retry.loadTriggerRate = some trigger ∧
      trigger ≤ tracker.rate := by
  rcases handleFrame_cases done with ⟨-, rfl⟩ | ⟨parsed, outcome, detail, after, counted, -, tried, handling⟩
  · cases emitted
  rcases handling with ⟨rfl, rfl⟩ | ⟨-, verdict, contents, routed, -, rfl⟩
  · cases tryHandle_exit tried with
    | @classified retry' layout initial decision _ _ _ _ configured' _ _ _ _ decided carriedOut =>
      obtain rfl : retry' = retry := Option.some.inj (configured'.symm.trans configured)
      cases decision with
      | forward => exact absurd carriedOut.1 (by simp)
      | skip => exact absurd carriedOut.1 (by simp)
      | emit =>
        obtain ⟨always | ⟨-, answers⟩, -⟩ := (classify_decided decided).emit_inv
        · rw [load] at always
          cases always
        · exact answers
  · cases emitted

/-- A second that reads as at least the trigger reached it. -/
theorem trigger_le_of_le_ofNat {trigger : UInt64} {counted : Nat}
    (reached : trigger ≤ UInt64.ofNat counted) : trigger.toNat ≤ counted := by
  have bound := UInt64.le_iff_toNat_le.mp reached
  rw [UInt64.toNat_ofNat'] at bound
  exact bound.trans (Nat.mod_le _ _)

/-- Load mode lags by at most one second over batches that leave no second out. -/
theorem load_mode_lags {crypto : RetryCrypto} {aes : Aes128} {hash : FlowKey → UInt64}
    {localMac : Mac}
    (run : LoadRun (handleFrame crypto aes hash localMac) batches tracker)
    (steady : Steady batches) :
    ∀ batch ∈ batches, RateLags batches batch ∧
      RetryLags (handleFrame crypto aes hash localMac) batches batch := by
  intro batch inside
  have lags := run.rateLags steady batch inside
  refine ⟨lags, ?_⟩
  intro retry view conn pending handled configured load done emitted
  obtain ⟨tracker, trigger, tracked, triggerSet, reached⟩ :=
    handleFrame_emitted_load configured load done emitted
  have read : batch.rate = some tracker.rate := by simp [LoadBatch.rate, configured, tracked]
  refine ⟨trigger, triggerSet, ?_⟩
  rcases lags with back | back
  · rw [Option.some.inj (read.symm.trans back)] at reached
    exact .inl (trigger_le_of_le_ofNat reached)
  · rw [Option.some.inj (read.symm.trans back)] at reached
    exact .inr (trigger_le_of_le_ofNat reached)

end Lag

namespace SampleLoad

/-- Mode load with a trigger of one Initial a second. -/
def loaded : Option ConfigTable :=
  match ConfigTable.fromStr [SampleRetry.entry]
      (some { SampleRetry.file with mode := "load", load := some 1 }) 0 with
  | .ok (.ok table) => some table
  | _ => none

def table : ConfigTable := loaded.get (by decide +kernel)

/-- An iteration that finds the shared tracker at the given values. -/
def round (nowMs : UInt64) (tracker : LoadRateTracker) : Round :=
  ⟨0, nowMs, { table with
    retry := table.retry.map fun retry => { retry with loadTracker := some tracker } }⟩

/-- Every round runs in mode load over the tracker it was given. -/
theorem round_config (nowMs : UInt64) (tracker : LoadRateTracker) :
    ∃ retry, (round nowMs tracker).config.retry = some retry ∧ retry.mode = .load ∧
      retry.loadTriggerRate = some 1 ∧ retry.loadTracker = some tracker := by
  have configured : table.retry.any
      (fun retry => retry.mode = .load ∧ retry.loadTriggerRate = some 1) = true := by decide +kernel
  obtain ⟨retry, found, shape⟩ := (Option.any_eq_true _ _).mp configured
  obtain ⟨load, trigger⟩ := of_decide_eq_true shape
  exact ⟨{ retry with loadTracker := some tracker }, by rw [round, found, Option.map_some], load,
    trigger, rfl⟩

/-- HMAC-SHA256 of the client's address, the time of the third batch and the connection ID. -/
def mac : Octets 32 :=
  ⟨[0xa3, 0x92, 0x14, 0xb7, 0x4f, 0x5e, 0x97, 0xce, 0x36, 0x45, 0xf9, 0x6d, 0x11, 0xdb, 0x4c, 0x87,
    0xcb, 0xc8, 0x77, 0x25, 0x1b, 0x5f, 0x18, 0x0e, 0xee, 0x11, 0x38, 0xc8, 0xa6, 0x55, 0x67, 0x0a],
    rfl⟩

/-- The integrity tag of the Retry with that token. -/
def tag : Octets 16 :=
  ⟨[0x72, 0x44, 0x5e, 0x0b, 0x2b, 0xe3, 0x72, 0x73, 0x5d, 0x9d, 0x8d, 0xfd, 0x42, 0xd8, 0xf1, 0x1c],
    rfl⟩

def stamp : Bytes := [0, 0, 0x01, 0x8b, 0xcf, 0xe5, 0x8f, 0x10]

/-- The two primitives, with the messages of the third batch added. -/
def crypto : RetryCrypto where
  hmacSha256 key message :=
    if key = SampleRetry.retry.tokenKey ∧
        message = [4, 203, 0, 113, 7] ++ stamp ++ [8] ++ SampleRetry.clientDcid then mac
    else SampleRetry.crypto.hmacSha256 key message
  aes128GcmTag key nonce aad :=
    if key = retryKeyV1 ∧ nonce = retryNonceV1 ∧
        aad = 8 :: SampleRetry.clientDcid ++ [0xf0, 0, 0, 0, 1, 4] ++ SampleRetry.clientScid ++ [8] ++
          SampleRetry.clientDcid ++ stamp ++ mac.val.take 16 then tag
    else SampleRetry.crypto.aes128GcmTag key nonce aad

/-- Neither the cipher nor the flow hash is called on the sample frames. -/
def pipeline : Pipeline :=
  handleFrame crypto ⟨fun _ block => block, fun _ block => block⟩ (fun _ => 0) SampleRetry.localMac

/-- What a worker that finds the sample frames in its ring makes of a round. -/
def serve (round : Round) : Option (WorkerState AdoptedSocket XdpDesc × RoundLog XdpDesc) :=
  (workerIteration (AdoptedSocket.socket SampleWorker.kernel) pipeline
    (.start (AdoptedSocket.socket SampleWorker.kernel) SampleWorker.xsk 0) round).toOption

/-- The batch received frames, and left the tracker at these values. -/
def flushes (round : Round) (after : LoadRateTracker) : Bool :=
  match serve round with
  | some (_, log) => !log.received.isEmpty && log.loadTracker = some after
  | none => false

/-- One more batch that is flushed as it should be. -/
theorem snoc {batches : List LoadBatch} {tracker : LoadRateTracker} {nowMs tally : UInt64}
    (prior : LoadRun pipeline batches tracker)
    (clock : ∀ earlier ∈ batches, earlier.round.nowMs ≤ nowMs)
    (flushed : flushes (round nowMs tracker) (tracker.recordBatch tally nowMs) = true) :
    LoadRun pipeline (batches ++ [⟨round nowMs tracker, tally⟩])
      (tracker.recordBatch tally nowMs) := by
  unfold flushes at flushed
  split at flushed
  · next after log served =>
    simp only [Bool.and_eq_true, Bool.not_eq_true', List.isEmpty_eq_false_iff,
      decide_eq_true_eq] at flushed
    obtain ⟨retry, configured, -, -, tracked⟩ := round_config nowMs tracker
    have shared : (round nowMs tracker).config.retry.bind (·.loadTracker) = some tracker := by
      rw [configured, Option.bind_some, tracked]
    exact .snoc prior clock shared (Checked.toOption_eq_some_iff.mp served) flushed.1 flushed.2
  · cases flushed

/-- One Initial in each of two successive seconds. -/
def busy : List LoadBatch :=
  [⟨round 1700000000000 .new, 1⟩, ⟨round 1700000001000 ⟨1700000000, 1, 0⟩, 1⟩]

/-- The second of them moves the count of the first to the last rate. -/
theorem busy_run : LoadRun pipeline busy ⟨1700000001, 1, 1⟩ := by
  have first : LoadRun pipeline [⟨round 1700000000000 .new, 1⟩] ⟨1700000000, 1, 0⟩ :=
    snoc .nil (by simp) (by decide +kernel)
  exact snoc first (by simp [round]) (by decide +kernel)

/-- The two busy seconds are steady, and what their batches do lags as it should. -/
theorem busy_lags : Steady busy ∧
    ∀ batch ∈ busy, RateLags busy batch ∧ RetryLags pipeline busy batch := by
  have steady : Steady busy := by
    simp only [Steady, busy, List.isChain_pair]
    decide +kernel
  exact ⟨steady, load_mode_lags busy_run steady⟩

/-- An Initial nine seconds after the last one. -/
def idle : LoadBatch := ⟨round 1700000010000 ⟨1700000001, 1, 1⟩, 1⟩

/-- It is answered with a Retry. -/
theorem idle_retried : ∃ handled, pipeline idle.round SampleRetry.first (.new 0) 0 = .ok handled ∧
    handled.action = .emitted := by
  have checked : (pipeline idle.round SampleRetry.first (.new 0) 0).toOption.any
      (·.action = .emitted) = true := by decide +kernel
  obtain ⟨handled, done, emitted⟩ := (Option.any_eq_true _ _).mp checked
  exact ⟨handled, Checked.toOption_eq_some_iff.mp done, of_decide_eq_true emitted⟩

/-- Nine idle seconds later the rate read is still that of the first busy second,
and the Initial is answered with a Retry. -/
theorem retry_after_idle_gap :
    LoadRun pipeline (busy ++ [idle]) ⟨1700000010, 1, 1⟩ ∧
      ¬ RateLags (busy ++ [idle]) idle ∧ ¬ RetryLags pipeline (busy ++ [idle]) idle := by
  have silent : ∀ back, back = 1 ∨ back = 2 → countedBack (busy ++ [idle]) back idle.sec = 0 := by
    rintro back (rfl | rfl) <;> decide +kernel
  refine ⟨snoc busy_run (by simp [busy, round]) (by decide +kernel), ?_, ?_⟩
  · unfold RateLags
    rw [silent 1 (.inl rfl), silent 2 (.inr rfl)]
    decide +kernel
  · intro lags
    obtain ⟨retry, configured, load, triggerSet, -⟩ := round_config 1700000010000 ⟨1700000001, 1, 1⟩
    obtain ⟨handled, done, emitted⟩ := idle_retried
    obtain ⟨trigger, same, reached⟩ := lags retry SampleRetry.first (.new 0) 0 handled configured
      load done emitted
    obtain rfl := Option.some.inj (same.symm.trans triggerSet)
    rw [silent 1 (.inl rfl), silent 2 (.inr rfl)] at reached
    simp at reached

end SampleLoad

end Pesigitg
