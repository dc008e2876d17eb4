import Pesigitg.Base.History
import Pesigitg.Daemon.Health

/-!
# Health as a function of the probe history

`Reflects` reads every field of a health record off the outcomes its address has had since the
record was created. `recordProbe_reflects` is the step, and `health_follows_history` the run:
over any sequence of batches, in any iteration order, each record reflects the history of its
own address and a batch reports a change exactly when some address flipped in it.
-/

namespace Pesigitg

open Base

/-- The outcome of one probe and when it was applied. -/
abbrev ProbeOutcome := Instant × Bool

namespace ProbeHistory

/-- Failures since the last success, or since the record was created. -/
def failures (history : List ProbeOutcome) : Nat :=
  (history.rtakeWhile fun outcome => !outcome.2).length

/-- Succeeded at least once, with fewer than three failures since the last success. -/
def up (history : List ProbeOutcome) : Bool :=
  history.any Prod.snd && decide (failures history < 3)

/-- The outcomes at which the address went up or down. -/
def flips (history : List ProbeOutcome) : List ProbeOutcome := changes up history

/-- The time to the next probe after so many failures. -/
def delay (failures : Nat) : Nat :=
  if failures < 3 then seconds 5
  else if failures = 3 then seconds 10
  else if failures = 4 then seconds 30
  else if failures = 5 then seconds 60
  else seconds 300

section Growth

variable (history : List ProbeOutcome) (now : Instant)

/-- An answer ends the run of failures. -/
@[simp] theorem failures_success : failures (history ++ [(now, true)]) = 0 := by
  simp [failures, List.rtakeWhile_concat_neg]

/-- A failure makes it one longer. -/
@[simp] theorem failures_failure : failures (history ++ [(now, false)]) = failures history + 1 := by
  simp [failures, List.rtakeWhile_concat_pos]

/-- There are no more failures than probes. -/
theorem failures_le : failures history ≤ history.length := by
  exact (List.rtakeWhile_suffix _ _).length_le

/-- After an answer the server is up. -/
@[simp] theorem up_success : up (history ++ [(now, true)]) = true := by
  simp [up]

/-- After a failure it is up if it ever answered and this is at most the second in a row. -/
theorem up_failure : up (history ++ [(now, false)]) =
    (history.any Prod.snd && decide (failures history + 1 < 3)) := by
  simp [up]

end Growth

end ProbeHistory

open ProbeHistory

/-- The record says what the outcomes of its address say. -/
structure ServerHealth.Reflects (health : ServerHealth) (created : Instant)
    (history : List ProbeOutcome) : Prop where
  consecutiveFailures : health.consecutiveFailures.toNat = failures history
  healthy : health.healthy = up history
  transitions : health.transitions.toNat = (flips history).length - 1
  stateSince : health.stateSince = ((flips history).getLast?.map Prod.fst).getD created
  nextProbeAt : health.nextProbeAt =
    (history.getLast?.map fun last => last.1 + delay (failures history)).getD created
  everHealthy : health.everHealthy = history.any Prod.snd
  warmed : health.everHealthy = true ↔ flips history ≠ []

namespace ServerHealth

/-- A new record has no history. -/
theorem reflects_discovered (created : Instant) : (discovered created).Reflects created [] := by
  constructor <;> simp [discovered, failures, up, flips]

/-- The schedule, on the number of failures. -/
theorem backoffFor_eq (count : UInt32) : backoffFor count = delay count.toNat := by
  unfold backoffFor delay
  by_cases below : count < failureThreshold
  · have small : count.toNat < 3 := UInt32.lt_iff_toNat_lt.mp below
    rw [if_pos below, if_pos small]
    rfl
  · have large : 3 ≤ count.toNat := Nat.not_lt.mp fun small => below (UInt32.lt_iff_toNat_lt.mpr small)
    have past : (count - failureThreshold).toNat = count.toNat - 3 :=
      UInt32.toNat_sub_of_le _ _ (UInt32.le_iff_toNat_le.mpr large)
    rw [if_neg below, if_neg (Nat.not_lt.mpr large)]
    obtain ⟨index, total⟩ : ∃ index, count.toNat = index + 3 := ⟨count.toNat - 3, by omega⟩
    simp only [past, total, Nat.add_sub_cancel]
    match index with
    | 0 => rfl
    | 1 => rfl
    | 2 => rfl
    | index + 3 =>
      have capped : min (index + 3) 3 = 3 := by omega
      simp only [capped]
      rw [if_neg (by omega), if_neg (by omega), if_neg (by omega)]
      rfl

/-- Counting one more failure in 32 bits. -/
theorem failures_add_one {count : UInt32} {history : List ProbeOutcome} (now : Instant)
    (counted : count.toNat = failures history) (room : history.length + 1 < 2 ^ 32) :
    (count + 1).toNat = failures (history ++ [(now, false)]) := by
  have bound := failures_le history
  rw [UInt32.toNat_add, counted, failures_failure]
  exact Nat.mod_eq_of_lt (by
    simp only [UInt32.toNat_one]
    omega)

section Step

variable {health : ServerHealth} {created : Instant} {history : List ProbeOutcome}

/-- An outcome that leaves the status alone. -/
theorem flips_concat_same {outcome : ProbeOutcome} (same : up (history ++ [outcome]) = up history) :
    flips (history ++ [outcome]) = flips history := by
  rw [flips, changes_concat, if_pos same.symm, List.append_nil, flips]

/-- An outcome that changes the status. -/
theorem flips_concat_other {outcome : ProbeOutcome} (other : up (history ++ [outcome]) ≠ up history) :
    flips (history ++ [outcome]) = flips history ++ [outcome] := by
  rw [flips, changes_concat, if_neg other.symm, flips]

/-- Counting one more transition in 32 bits. -/
theorem transitions_add_one {count : UInt32} (counted : count.toNat = (flips history).length - 1)
    (earlier : flips history ≠ []) (room : history.length + 1 < 2 ^ 32) :
    (count + 1).toNat = (flips history).length := by
  have bound : (flips history).length ≤ history.length := changes_length_le up history
  have some := List.length_pos_iff.mpr earlier
  rw [UInt32.toNat_add, counted]
  simp only [UInt32.toNat_one]
  omega

/-- A success. -/
theorem recordProbe_success_reflects (reflects : health.Reflects created history) (now : Instant)
    (room : history.length + 1 < 2 ^ 32) :
    (health.recordProbe true now).1.Reflects created (history ++ [(now, true)]) := by
  by_cases wasUp : health.healthy = true
  · -- The server stays up: only the failures and the next probe are set.
    have same : up (history ++ [(now, true)]) = up history := by
      rw [up_success, ← reflects.healthy, wasUp]
    have ever : history.any Prod.snd = true := by
      have isUp := reflects.healthy.symm.trans wasUp
      rw [up, Bool.and_eq_true] at isUp
      exact isUp.1
    have flipped := flips_concat_same same
    simp only [recordProbe, wasUp, if_true]
    constructor
    · simp
    · simp
    · simpa [flipped] using reflects.transitions
    · simpa [flipped] using reflects.stateSince
    · simp [delay, probeInterval]
    · simp [reflects.everHealthy, ever]
    · simpa [flipped] using reflects.warmed
  · have wasDown : up history = false := by
      rw [← reflects.healthy]
      exact Bool.eq_false_iff.mpr wasUp
    have flipped : flips (history ++ [(now, true)]) = flips history ++ [(now, true)] :=
      flips_concat_other (by rw [up_success, wasDown]; decide)
    simp only [recordProbe, if_true, if_neg wasUp]
    constructor
    · simp
    · simp
    · rw [flipped, List.length_append, List.length_singleton, Nat.add_sub_cancel]
      by_cases ever : health.everHealthy = true
      · rw [if_pos ever]
        exact transitions_add_one reflects.transitions (reflects.warmed.mp ever) room
      · -- The first recovery is not counted.
        have none : flips history = [] := by
          by_contra some
          exact ever (reflects.warmed.mpr some)
        rw [if_neg ever, reflects.transitions, none]
        rfl
    · simp [flipped]
    · simp [delay, probeInterval]
    · simp
    · simp [flipped]

/-- The guard of the down transition is a change of status: with a failure nothing comes up. -/
theorem Reflects.goesDown_iff (reflects : health.Reflects created history) (now : Instant)
    (room : history.length + 1 < 2 ^ 32) :
    health.healthy = true ∧ failureThreshold ≤ health.consecutiveFailures + 1 ↔
      up (history ++ [(now, false)]) ≠ up history := by
  have reaches : failureThreshold ≤ health.consecutiveFailures + 1 ↔
      3 ≤ failures history + 1 := by
    rw [UInt32.le_iff_toNat_le, failures_add_one now reflects.consecutiveFailures room,
      failures_failure]
    rfl
  rw [reaches, reflects.healthy, up_failure, up]
  by_cases ever : history.any Prod.snd = true
  · simp only [ever, Bool.true_and, decide_eq_true_eq, ne_eq, decide_eq_decide]
    omega
  · simp [ever]

/-- A failure. -/
theorem recordProbe_failure_reflects (reflects : health.Reflects created history) (now : Instant)
    (room : history.length + 1 < 2 ^ 32) :
    (health.recordProbe false now).1.Reflects created (history ++ [(now, false)]) := by
  have counted := failures_add_one now reflects.consecutiveFailures room
  simp only [recordProbe, Bool.false_eq_true, if_false]
  by_cases goesDown : health.healthy = true ∧ failureThreshold ≤ health.consecutiveFailures + 1
  · have other := (reflects.goesDown_iff now room).mp goesDown
    have wasUp : up history = true := reflects.healthy.symm.trans goesDown.1
    have isDown : up (history ++ [(now, false)]) = false := by
      rw [wasUp] at other
      exact Bool.eq_false_iff.mpr other
    have flipped := flips_concat_other other
    have ever : health.everHealthy = true := by
      rw [up, Bool.and_eq_true] at wasUp
      exact reflects.everHealthy.trans wasUp.1
    rw [if_pos goesDown]
    constructor
    · exact counted
    · exact isDown.symm
    · rw [flipped, List.length_append, List.length_singleton, Nat.add_sub_cancel]
      exact transitions_add_one reflects.transitions (reflects.warmed.mp ever) room
    · simp [flipped]
    · simp [backoffFor_eq, counted]
    · simp [reflects.everHealthy]
    · simp [flipped, ever]
  · have same : up (history ++ [(now, false)]) = up history := by
      rw [reflects.goesDown_iff now room] at goesDown
      exact not_not.mp goesDown
    have flipped := flips_concat_same same
    rw [if_neg goesDown]
    constructor
    · exact counted
    · rw [same]
      exact reflects.healthy
    · rw [flipped]
      exact reflects.transitions
    · rw [flipped]
      exact reflects.stateSince
    · simp [backoffFor_eq, counted]
    · simp [reflects.everHealthy]
    · rw [flipped]
      exact reflects.warmed

/-- A reported flip is a change of the flag. -/
theorem recordProbe_changed_healthy (health : ServerHealth) (ok : Bool) (now : Instant) :
    (health.recordProbe ok now).2 = true ↔
      health.healthy ≠ (health.recordProbe ok now).1.healthy := by
  by_cases flips : health.Flips ok
  · refine iff_of_true (recordProbe_of_flips now flips) ?_
    cases ok with
    | true => simp_all [Flips, recordProbe]
    | false => simp_all [Flips, recordProbe]
  · obtain ⟨quiet, same⟩ := recordProbe_of_not_flips now flips
    simp [quiet, same]

/-- One outcome extends the history of its address. -/
theorem recordProbe_reflects (reflects : health.Reflects created history) (ok : Bool) (now : Instant)
    (room : history.length + 1 < 2 ^ 32) :
    (health.recordProbe ok now).1.Reflects created (history ++ [(now, ok)]) ∧
      ((health.recordProbe ok now).2 = true ↔ up history ≠ up (history ++ [(now, ok)])) := by
  have extended : (health.recordProbe ok now).1.Reflects created (history ++ [(now, ok)]) := by
    cases ok with
    | true => exact recordProbe_success_reflects reflects now room
    | false => exact recordProbe_failure_reflects reflects now room
  refine ⟨extended, ?_⟩
  rw [recordProbe_changed_healthy, reflects.healthy, extended.healthy]

end Step

end ServerHealth

/-- One call of `apply_probe_results`: a map of outcomes in its iteration order, and the config
table the results are mirrored onto. -/
structure ProbeBatch where
  now : Instant
  probes : List (IpAddr × Bool)
  table : ConfigTable

namespace ProbeBatch

/-- The outcomes of a batch for one address. -/
def outcomesOf (batch : ProbeBatch) (addr : IpAddr) : List ProbeOutcome :=
  (batch.probes.filter fun probe => probe.1 = addr).map fun probe => (batch.now, probe.2)

end ProbeBatch

/-- All outcomes of one address in a sequence of batches. -/
def historyOf (batches : List ProbeBatch) (addr : IpAddr) : List ProbeOutcome :=
  batches.flatMap fun batch => batch.outcomesOf addr

namespace HealthState

/-- Records created at the given times, with no outcome yet. -/
def created (times : IpAddr → Option Instant) : HealthState := fun addr =>
  (times addr).map ServerHealth.discovered

/-- A sequence of batches, with what each returns. -/
def applyBatches : List ProbeBatch → HealthState → Checked (HealthState × List Bool)
  | [], state => pure (state, [])
  | batch :: rest, state => do
    let (state, _, changed) ← applyProbeResults state batch.probes batch.now batch.table
    let (state, flags) ← applyBatches rest state
    pure (state, changed :: flags)

/-- Each tracked address has a record that reflects its history. -/
def Follows (state : HealthState) (times : IpAddr → Option Instant)
    (histories : IpAddr → List ProbeOutcome) : Prop :=
  ∀ addr, (times addr = none → state addr = none) ∧
    ∀ time, times addr = some time →
      ∃ health, state addr = some health ∧ health.Reflects time (histories addr)

/-- So have all records of a new checker. -/
theorem created_follows (times : IpAddr → Option Instant) :
    (created times).Follows times fun _ => [] := by
  intro addr
  constructor
  · intro absent
    rw [created, absent]
    rfl
  · intro time present
    exact ⟨_, by rw [created, present]; rfl, ServerHealth.reflects_discovered time⟩

section Batches

variable {state : HealthState} {times : IpAddr → Option Instant}
  {histories : IpAddr → List ProbeOutcome}

/-- The outcomes for one address in the probes of a batch. -/
def probed (now : Instant) (probes : List (IpAddr × Bool)) (addr : IpAddr) : List ProbeOutcome :=
  (probes.filter fun probe => probe.1 = addr).map fun probe => (now, probe.2)

/-- A batch probes an address at most as often as it has entries. -/
theorem probed_length_le (now : Instant) (probes : List (IpAddr × Bool)) (addr : IpAddr) :
    (probed now probes addr).length ≤ probes.length := by
  rw [probed, List.length_map]
  exact List.length_filter_le _ _

/-- An address that is not in the batch was not probed. -/
theorem probed_of_absent {probes : List (IpAddr × Bool)} {addr : IpAddr} (now : Instant)
    (absent : addr ∉ probes.map Prod.fst) : probed now probes addr = [] := by
  rw [probed, List.map_eq_nil_iff, List.filter_eq_nil_iff]
  intro probe member same
  exact absent (List.mem_map.mpr ⟨probe, member, by simpa using same⟩)

/-- The histories with one more outcome. -/
def heard (histories : IpAddr → List ProbeOutcome) (addr : IpAddr) (outcome : ProbeOutcome) :
    IpAddr → List ProbeOutcome :=
  Function.update histories addr (histories addr ++ [outcome])

/-- One outcome makes one history longer by one. -/
theorem heard_length_le (histories : IpAddr → List ProbeOutcome) (addr other : IpAddr) (outcome : ProbeOutcome) :
    (heard histories addr outcome other).length ≤ (histories other).length + 1 := by
  by_cases this : other = addr
  · subst this
    rw [heard, Function.update_self, List.length_append, List.length_singleton]
  · rw [heard, Function.update_of_ne this]
    omega

/-- The first outcome of a batch is heard before the others. -/
theorem heard_append_probed (now : Instant) (addr other : IpAddr) (ok : Bool)
    (rest : List (IpAddr × Bool)) :
    heard histories addr (now, ok) other ++ probed now rest other =
      histories other ++ probed now ((addr, ok) :: rest) other := by
  by_cases this : other = addr
  · subst this
    simp [heard, probed]
  · rw [heard, Function.update_of_ne this, probed, probed,
      List.filter_cons_of_neg (by simpa using Ne.symm this)]

/-- Some address flips in a batch when the first one does, or one of the others: a batch holds
no address twice, so the first is not probed again. -/
theorem exists_flip_cons {addr : IpAddr} {rest : List (IpAddr × Bool)} (now : Instant) (ok : Bool)
    (fresh : addr ∉ rest.map Prod.fst) :
    (∃ other, up (histories other) ≠
        up (histories other ++ probed now ((addr, ok) :: rest) other)) ↔
      up (histories addr) ≠ up (histories addr ++ [(now, ok)]) ∨
        ∃ other, up (heard histories addr (now, ok) other) ≠
          up (heard histories addr (now, ok) other ++ probed now rest other) := by
  have first : histories addr ++ probed now ((addr, ok) :: rest) addr =
      histories addr ++ [(now, ok)] := by
    rw [← heard_append_probed, probed_of_absent now fresh, List.append_nil, heard,
      Function.update_self]
  have others (other : IpAddr) (differ : other ≠ addr) :
      heard histories addr (now, ok) other = histories other := Function.update_of_ne differ _ _
  constructor
  · rintro ⟨other, flips⟩
    by_cases this : other = addr
    · subst this
      rw [first] at flips
      exact .inl flips
    · refine .inr ⟨other, ?_⟩
      rwa [heard_append_probed, others other this]
  · rintro (flips | ⟨other, flips⟩)
    · exact ⟨addr, by rwa [first]⟩
    · by_cases this : other = addr
      · subst this
        rw [probed_of_absent now fresh, List.append_nil] at flips
        exact absurd rfl flips
      · rw [heard_append_probed, others other this] at flips
        exact ⟨other, flips⟩

/-- One outcome of a batch. -/
theorem Follows.recordProbe {addr : IpAddr} {health : ServerHealth} {time : Instant}
    (follows : state.Follows times histories) (present : times addr = some time)
    (stored : state addr = some health) (ok : Bool) (now : Instant)
    (room : (histories addr).length + 1 < 2 ^ 32) :
    Follows (Function.update state addr (some (health.recordProbe ok now).1)) times
        (heard histories addr (now, ok)) ∧
      ((health.recordProbe ok now).2 = true ↔
        up (histories addr) ≠ up (histories addr ++ [(now, ok)])) := by
  obtain ⟨held, found, reflects⟩ := (follows addr).2 time present
  obtain rfl : health = held := Option.some.inj (stored.symm.trans found)
  obtain ⟨extended, flipIff⟩ := ServerHealth.recordProbe_reflects reflects ok now room
  refine ⟨?_, flipIff⟩
  intro other
  by_cases this : other = addr
  · subst this
    refine ⟨fun absent => absurd (absent.symm.trans present) (by simp), ?_⟩
    intro time' present'
    obtain rfl : time = time' := Option.some.inj (present.symm.trans present')
    rw [Function.update_self, heard, Function.update_self]
    exact ⟨_, rfl, extended⟩
  · rw [Function.update_of_ne this, heard, Function.update_of_ne this]
    exact follows other

/-- A batch extends each history by its outcomes, and reports whether one of them flipped its
address. -/
theorem recordProbes_follows {probes : List (IpAddr × Bool)} (now : Instant) (changed : Bool)
    (follows : state.Follows times histories) (once : (probes.map Prod.fst).Nodup)
    (tracked : ∀ probe ∈ probes, (times probe.1).isSome = true)
    (room : ∀ addr, (histories addr).length + probes.length < 2 ^ 32) :
    ∃ after flipped, recordProbes now probes state changed = .ok (after, changed || flipped) ∧
      after.Follows times (fun addr => histories addr ++ probed now probes addr) ∧
      (flipped = true ↔
        ∃ addr, up (histories addr) ≠ up (histories addr ++ probed now probes addr)) := by
  induction probes generalizing state histories changed with
  | nil =>
    refine ⟨state, false, by simp [recordProbes], ?_, by simp [probed]⟩
    simpa [probed] using follows
  | cons probe rest ih =>
    obtain ⟨addr, ok⟩ := probe
    obtain ⟨time, present⟩ := Option.isSome_iff_exists.mp (tracked (addr, ok) List.mem_cons_self)
    simp only at present
    obtain ⟨health, stored, -⟩ := (follows addr).2 time present
    rw [List.map_cons, List.nodup_cons] at once
    simp only [List.length_cons] at room
    obtain ⟨next, flipIff⟩ :=
      follows.recordProbe present stored ok now (by have := room addr; omega)
    have restRoom : ∀ other,
        (heard histories addr (now, ok) other).length + rest.length < 2 ^ 32 := by
      intro other
      have bound := room other
      have grown := heard_length_le histories addr other (now, ok)
      omega
    obtain ⟨after, flipped, recorded, restFollows, restIff⟩ :=
      ih (changed || (health.recordProbe ok now).2) next once.2
        (fun probe member => tracked probe (List.mem_cons_of_mem _ member)) restRoom
    refine ⟨after, (health.recordProbe ok now).2 || flipped, ?_, ?_, ?_⟩
    · simp only [recordProbes, stored, Checked.expect_some, Checked.ok_bind]
      rw [recorded, Bool.or_assoc]
    · simpa only [heard_append_probed] using restFollows
    · rw [Bool.or_eq_true, flipIff, restIff, exists_flip_cons now ok once.1]

/-- A run of batches extends each history by the outcomes of its address. -/
theorem applyBatches_follows {batches : List ProbeBatch} (follows : state.Follows times histories)
    (maps : ∀ batch ∈ batches, (batch.probes.map Prod.fst).Nodup)
    (tracked : ∀ batch ∈ batches, ∀ probe ∈ batch.probes, (times probe.1).isSome = true)
    (room : ∀ addr, (histories addr).length +
      (batches.map fun batch => batch.probes.length).sum < 2 ^ 32) :
    ∃ after flags, applyBatches batches state = .ok (after, flags) ∧
      after.Follows times (fun addr => histories addr ++ historyOf batches addr) ∧
      flags.length = batches.length ∧
      ∀ index < batches.length, flags[index]? = some true ↔
        ∃ addr, up (histories addr ++ historyOf (batches.take index) addr) ≠
          up (histories addr ++ historyOf (batches.take (index + 1)) addr) := by
  induction batches generalizing state histories with
  | nil =>
    refine ⟨state, [], rfl, ?_, rfl, ?_⟩
    · simpa [historyOf] using follows
    · intro index inside
      cases inside
  | cons batch rest ih =>
    have batchRoom : ∀ addr, (histories addr).length + batch.probes.length < 2 ^ 32 := by
      intro addr
      have bound := room addr
      rw [List.map_cons, List.sum_cons] at bound
      omega
    obtain ⟨middle, flipped, recorded, middleFollows, flippedIff⟩ :=
      recordProbes_follows batch.now false follows (maps batch List.mem_cons_self)
        (tracked batch List.mem_cons_self) batchRoom
    have restRoom : ∀ addr, (histories addr ++ batch.outcomesOf addr).length +
        (rest.map fun batch => batch.probes.length).sum < 2 ^ 32 := by
      intro addr
      have bound := room addr
      have part : (batch.outcomesOf addr).length ≤ batch.probes.length :=
        probed_length_le batch.now batch.probes addr
      rw [List.map_cons, List.sum_cons] at bound
      rw [List.length_append]
      omega
    obtain ⟨after, flags, applied, afterFollows, sized, flagsIff⟩ :=
      ih middleFollows (fun batch member => maps batch (List.mem_cons_of_mem _ member))
        (fun batch member => tracked batch (List.mem_cons_of_mem _ member)) restRoom
    refine ⟨after, flipped :: flags, ?_, ?_, by rw [List.length_cons, List.length_cons, sized], ?_⟩
    · rw [applyBatches, applyProbeResults, recorded]
      simp only [Bool.false_or, Checked.ok_bind, Checked.pure_eq_ok, applied]
    · intro addr
      have record := afterFollows addr
      simp only [List.append_assoc] at record
      exact record
    · intro index inside
      cases index with
      | zero =>
        rw [List.getElem?_cons_zero, Option.some.injEq, flippedIff]
        simp [historyOf, ProbeBatch.outcomesOf, probed]
      | succ index =>
        rw [List.getElem?_cons_succ, flagsIff index (by simpa using inside)]
        simp only [List.take_succ_cons, historyOf, List.flatMap_cons, List.append_assoc]
        rfl

end Batches

end HealthState

/-- Over every sequence of batches on freshly created records, in every iteration order, the
records are the documented function of the outcomes of their own address, and a batch returns
true exactly when some address flipped in it. -/
theorem health_follows_history (times : IpAddr → Option Instant) (batches : List ProbeBatch)
    (maps : ∀ batch ∈ batches, (batch.probes.map Prod.fst).Nodup)
    (tracked : ∀ batch ∈ batches, ∀ probe ∈ batch.probes, (times probe.1).isSome = true)
    (few : (batches.map fun batch => batch.probes.length).sum < 2 ^ 32) :
    ∃ state flags, HealthState.applyBatches batches (.created times) = .ok (state, flags) ∧
      (∀ addr, times addr = none → state addr = none) ∧
      (∀ addr time, times addr = some time → ∃ health, state addr = some health ∧
        health.Reflects time (historyOf batches addr)) ∧
      flags.length = batches.length ∧
      ∀ index < batches.length, flags[index]? = some true ↔
        ∃ addr, up (historyOf (batches.take index) addr) ≠
          up (historyOf (batches.take (index + 1)) addr) := by
  obtain ⟨state, flags, applied, follows, sized, flagsIff⟩ :=
    HealthState.applyBatches_follows (HealthState.created_follows times) maps tracked
      (fun _ => by rwa [List.length_nil, Nat.zero_add])
  simp only [List.nil_append] at follows flagsIff
  exact ⟨state, flags, applied, fun addr => (follows addr).1, fun addr => (follows addr).2, sized,
    flagsIff⟩

namespace SampleProbes

def backend : IpAddr := .v4 (ipv4Octets 10 0 0 1)

def table : ConfigTable := ⟨fun _ => none, fun _ => none, [], none⟩

/-- One probe of the backend. -/
def batch (now : Instant) (ok : Bool) : ProbeBatch := ⟨now, [(backend, ok)], table⟩

/-- The backend comes up at second 5 and goes down with its third failure at second 20. -/
def batches : List ProbeBatch :=
  [batch (seconds 5) true, batch (seconds 10) false, batch (seconds 15) false,
    batch (seconds 20) false]

/-- The record of the backend, created at time zero. -/
def times (addr : IpAddr) : Option Instant := if addr = backend then some 0 else none

end SampleProbes

open SampleProbes in
/-- The sample's record is that of its history. -/
theorem sample_health_follows :
    ∃ state flags, HealthState.applyBatches batches (.created times) = .ok (state, flags) ∧
      ∃ health, state backend = some health ∧ health.Reflects 0 (historyOf batches backend) := by
  obtain ⟨state, flags, applied, -, follows, -⟩ := health_follows_history times batches
    (by decide) (by decide) (by decide)
  exact ⟨state, flags, applied, follows backend 0 (by decide)⟩

end Pesigitg
