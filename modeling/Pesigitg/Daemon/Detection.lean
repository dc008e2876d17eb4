import Pesigitg.Base.Trace
import Pesigitg.Daemon.Provenance

/-!
# How long the health checker takes

A backend that stops answering is taken out after three failed probes, and one that answers again
comes back with the first probe that it answers. How long that takes depends on the schedule:
probes of a healthy backend are five seconds apart, those of an unhealthy one up to five minutes,
and a probe that is due waits for the next pass of the main loop.

`ServerHealth.deadline` is the latest pass that can find a record with so many failures. A reload
makes every probe due and so never pushes a deadline back, whether or not its file is accepted.
-/

namespace Pesigitg

open Base

/-- A pass, or a reload with a file that is accepted or not. -/
inductive MainMove (state : MainState) : MainEvent → MainState → Prop where
  | reload {reload : Reload} {after : MainState} (later : state.clock ≤ reload.now)
      (done : state.reloadConfig reload = .ok after) : MainMove state (.reload reload) after
  | tick {tick : Tick} {rebuilt : Bool} {after : MainState} (later : state.clock ≤ tick.now)
      (done : state.checkAndRebuild tick = .ok (after, rebuilt)) : MainMove state (.tick tick) after

/-- The main thread, and when it made its last pass. -/
structure Lookout where
  main : MainState
  lastTick : Instant

/-- The main thread goes on with passes that are at most `gap` apart, while every probe of `addr`
ends with `ok`. -/
inductive LookoutStep (gap : Nat) (addr : IpAddr) (ok : Bool) :
    Lookout → MainEvent → Lookout → Prop where
  | reload {state after : MainState} {reload : Reload} {last : Instant}
      (moved : MainMove state (.reload reload) after) :
      LookoutStep gap addr ok ⟨state, last⟩ (.reload reload) ⟨after, last⟩
  | tick {state after : MainState} {tick : Tick} {last : Instant}
      (soon : tick.now ≤ last + gap)
      (answer : ∀ addrs, addr ∈ addrs → (addr, ok) ∈ tick.prober.probeAll addrs)
      (moved : MainMove state (.tick tick) after) :
      LookoutStep gap addr ok ⟨state, last⟩ (.tick tick) ⟨after, tick.now⟩

/-- When the next probe of a record is due: soon while the server is up, and never more than five
minutes away. -/
structure ServerHealth.Scheduled (health : ServerHealth) (clock : Instant) : Prop where
  soon : health.healthy = true → health.consecutiveFailures.toNat < 3 ∧
    health.nextProbeAt ≤ clock + seconds 5
  capped : health.nextProbeAt ≤ clock + seconds 300

/-- What every state of the main thread has: flags and pool that go back to the checker, and
probes that are due in time. -/
structure MainState.Sound (state : MainState) : Prop where
  traced : ∃ source histories, state.Traced source histories
  scheduled : ∀ addr health, state.health addr = some health → health.Scheduled state.clock

/-- The latest pass that finds the record of a silent server still up, when the silence began at
`begun`: one more interval and one more pass for every failure. -/
def ServerHealth.deadline (health : ServerHealth) (begun : Instant) (gap : Nat) : Instant :=
  begun + seconds 5 + health.consecutiveFailures.toNat * (seconds 5 + gap)

section Records

variable {state after : HealthState} {table clone : ConfigTable} {now : Instant} {addr : IpAddr}

/-- Probes back off to five minutes at most. -/
theorem backoffFor_le (failures : UInt32) : backoffFor failures ≤ seconds 300 := by
  rw [ServerHealth.backoffFor_eq, ProbeHistory.delay]
  simp only [seconds]
  split_ifs <;> omega

/-- A probe schedules the next one, whatever the record said before. -/
theorem ServerHealth.recordProbe_scheduled (health : ServerHealth) (ok : Bool) (now : Instant) :
    (health.recordProbe ok now).1.Scheduled now := by
  cases ok with
  | true =>
    simp only [recordProbe, if_true]
    split
    · exact ⟨fun _ => ⟨by simp, Nat.le_refl _⟩, by simp [probeInterval]⟩
    · exact ⟨fun _ => ⟨by simp, Nat.le_refl _⟩, by simp [probeInterval]⟩
  | false =>
    have capped := backoffFor_le (health.consecutiveFailures + 1)
    simp only [recordProbe, Bool.false_eq_true, if_false]
    by_cases goesDown : health.healthy = true ∧ failureThreshold ≤ health.consecutiveFailures + 1
    · rw [if_pos goesDown]
      exact ⟨fun up => absurd up Bool.false_ne_true, Nat.add_le_add_left capped now⟩
    · rw [if_neg goesDown]
      refine ⟨fun up => ?_, Nat.add_le_add_left capped now⟩
      -- A server that is still up has not reached the threshold.
      have below : health.consecutiveFailures + 1 < failureThreshold :=
        UInt32.not_le.mp fun reached => goesDown ⟨up, reached⟩
      refine ⟨UInt32.lt_iff_toNat_lt.mp below, ?_⟩
      rw [backoffFor, if_pos below]
      exact Nat.le_refl _

/-- A schedule stays one as time passes. -/
theorem ServerHealth.Scheduled.mono {health : ServerHealth} {clock later : Instant}
    (scheduled : health.Scheduled clock) (passed : clock ≤ later) : health.Scheduled later where
  soon := fun up =>
    ⟨(scheduled.soon up).1, Nat.le_trans (scheduled.soon up).2 (Nat.add_le_add_right passed _)⟩
  capped := Nat.le_trans scheduled.capped (Nat.add_le_add_right passed _)

/-- A failure keeps a server up only with one failure more and the next probe an interval later. -/
theorem ServerHealth.recordProbe_silent {health : ServerHealth}
    (few : health.healthy = true → health.consecutiveFailures.toNat < 3)
    (up : (health.recordProbe false now).1.healthy = true) :
    health.healthy = true ∧
      (health.recordProbe false now).1.consecutiveFailures.toNat =
        health.consecutiveFailures.toNat + 1 ∧
      (health.recordProbe false now).1.nextProbeAt = now + seconds 5 := by
  simp only [recordProbe, Bool.false_eq_true, if_false] at up ⊢
  by_cases goesDown : health.healthy = true ∧ failureThreshold ≤ health.consecutiveFailures + 1
  · rw [if_pos goesDown] at up
    cases up
  · rw [if_neg goesDown] at up ⊢
    have below : health.consecutiveFailures + 1 < failureThreshold :=
      UInt32.not_le.mp fun reached => goesDown ⟨up, reached⟩
    have small := few up
    refine ⟨up, ?_, ?_⟩
    · rw [UInt32.toNat_add, UInt32.toNat_one]
      exact Nat.mod_eq_of_lt (by omega)
    · simp only [backoffFor, if_pos below, probeInterval]

/-- A server that answers is up. -/
theorem ServerHealth.recordProbe_answered (health : ServerHealth) :
    (health.recordProbe true now).1.healthy = true := by
  simp only [recordProbe, if_true]
  split
  · next up => exact up
  · rfl

/-- A batch changes the record of an address by its own outcome only. -/
theorem HealthState.recordProbes_apply {probes : List (IpAddr × Bool)} {changed flipped : Bool}
    (once : (probes.map Prod.fst).Nodup)
    (recorded : recordProbes now probes state changed = .ok (after, flipped)) (addr : IpAddr) :
    ((∀ ok, (addr, ok) ∉ probes) ∧ after addr = state addr) ∨
      ∃ ok health, (addr, ok) ∈ probes ∧ state addr = some health ∧
        after addr = some (health.recordProbe ok now).1 := by
  induction probes generalizing state changed with
  | nil =>
    cases recorded
    exact .inl ⟨by simp, rfl⟩
  | cons probe rest ih =>
    obtain ⟨first, ok⟩ := probe
    simp only [recordProbes, Checked.bind_eq_ok_iff] at recorded
    obtain ⟨health, found, recorded⟩ := recorded
    rw [Checked.expect_eq_ok_iff] at found
    rw [List.map_cons, List.nodup_cons] at once
    rcases ih once.2 recorded with ⟨absent, same⟩ | ⟨outcome, old, member, stored, updated⟩
    · by_cases this : addr = first
      · subst this
        rw [Function.update_self] at same
        exact .inr ⟨ok, health, List.mem_cons_self, found, same⟩
      · rw [Function.update_of_ne this] at same
        refine .inl ⟨fun outcome member => ?_, same⟩
        rcases List.mem_cons.mp member with here | there
        · exact this (congrArg Prod.fst here)
        · exact absent outcome there
    · have this : addr ≠ first := by
        rintro rfl
        exact once.1 (List.mem_map.mpr ⟨_, member, rfl⟩)
      rw [Function.update_of_ne this] at stored
      exact .inr ⟨outcome, old, List.mem_cons_of_mem _ member, stored, updated⟩

/-- A listed server is probed exactly if its time has come. -/
theorem HealthState.mem_due (listed : addr ∈ table.addresses) :
    addr ∈ state.due table now ↔
      ((state addr).getD (.discovered now)).nextProbeAt ≤ now := by
  simp [due, listed, tracked_of_mem listed]

/-- What a check leaves of the record of an address: nothing if the table does not have it, and
otherwise the record from before or a new one, with the outcome of a probe if one was due and was
not lost. -/
theorem HealthState.check_apply {prober : Prober} {changed : Bool}
    (checked : check prober state table now = .ok (after, clone, changed)) (addr : IpAddr) :
    (addr ∉ table.addresses ∧ after addr = none) ∨
      addr ∈ table.addresses ∧ ∃ health, health = (state addr).getD (.discovered now) ∧
        (after addr = some health ∧
            (health.nextProbeAt ≤ now →
              ∀ ok, (addr, ok) ∉ prober.probeAll (state.due table now)) ∨
          ∃ ok, health.nextProbeAt ≤ now ∧ (addr, ok) ∈ prober.probeAll (state.due table now) ∧
            after addr = some (health.recordProbe ok now).1) := by
  have untracked (absent : addr ∉ table.addresses) : state.tracked table now addr = none := by
    simp [tracked, discover, evictRemoved, absent]
  unfold check at checked
  by_cases nothing : (state.due table now).isEmpty = true
  · rw [if_pos nothing] at checked
    cases checked
    by_cases present : addr ∈ table.addresses
    · refine .inr ⟨present, _, rfl, .inl ⟨tracked_of_mem present, fun reached => ?_⟩⟩
      have asked := (mem_due present).mpr reached
      rw [List.isEmpty_iff.mp nothing] at asked
      cases asked
    · exact .inl ⟨present, untracked present⟩
  · rw [if_neg nothing, applyProbeResults, Checked.bind_eq_ok_iff] at checked
    obtain ⟨⟨recorded, flipped⟩, done, checked⟩ := checked
    cases checked
    rcases recordProbes_apply (prober.once _) done addr with
      ⟨silent, same⟩ | ⟨ok, health, member, stored, updated⟩
    · rw [same]
      by_cases present : addr ∈ table.addresses
      · exact .inr ⟨present, _, rfl, .inl ⟨tracked_of_mem present, fun _ => silent⟩⟩
      · exact .inl ⟨present, untracked present⟩
    · have asked := prober.asked _ _ member
      have present : addr ∈ table.addresses := List.mem_of_mem_filter asked
      rw [tracked_of_mem present] at stored
      cases stored
      exact .inr ⟨present, _, rfl, .inr ⟨ok, (mem_due present).mp asked, member, updated⟩⟩

end Records

section Moves

variable {state after : MainState} {reload : Reload} {tick : Tick} {addr : IpAddr}

/-- A reload makes every probe due, and only a file that is accepted replaces the table. -/
theorem MainMove.of_reload (moved : MainMove state (.reload reload) after) :
    state.clock ≤ reload.now ∧ after.clock = reload.now ∧
      after.health = state.health.resetBackoff reload.now ∧
      (MainStep state (.reload reload) after ∨ ∃ failure,
        loadRouteConfig reload.file reload.neighbours reload.loadedAt = .ok (.error failure)) := by
  cases moved with
  | reload later done =>
    have whole := done
    simp only [MainState.reloadConfig, Checked.bind_eq_ok_iff] at done
    obtain ⟨result, loaded, done⟩ := done
    cases result with
    | error failure =>
      cases done
      exact ⟨later, rfl, rfl, .inr ⟨failure, loaded⟩⟩
    | ok table =>
      cases done
      exact ⟨later, rfl, rfl, .inl (.reload later loaded whole)⟩

/-- A pass as one address sees it. -/
theorem MainMove.of_tick (moved : MainMove state (.tick tick) after) (addr : IpAddr) :
    state.clock ≤ tick.now ∧ after.clock = tick.now ∧
      ((addr ∉ state.routeConfig.addresses ∧ after.health addr = none) ∨
        addr ∈ state.routeConfig.addresses ∧
          ∃ health, health = (state.health addr).getD (.discovered tick.now) ∧
            (after.health addr = some health ∧
                (health.nextProbeAt ≤ tick.now → ∀ ok, (addr, ok) ∉ tick.prober.probeAll
                  (state.health.due state.routeConfig tick.now)) ∨
              ∃ ok, health.nextProbeAt ≤ tick.now ∧
                (addr, ok) ∈ tick.prober.probeAll
                  (state.health.due state.routeConfig tick.now) ∧
                after.health addr = some (health.recordProbe ok tick.now).1)) := by
  cases moved with
  | tick later done =>
    obtain ⟨clone, changed, checked, -⟩ := checkAndRebuild_stores done
    have record := HealthState.check_apply checked addr
    rw [addresses_resolved, due_resolved] at record
    exact ⟨later, MainStep.clock_tick (.tick later done), record⟩

/-- While probes are answered alike, a pass probes an address exactly when it is due. -/
theorem MainMove.of_answered {ok : Bool} (moved : MainMove state (.tick tick) after)
    (answer : ∀ addrs, addr ∈ addrs → (addr, ok) ∈ tick.prober.probeAll addrs) :
    (addr ∉ state.routeConfig.addresses ∧ after.health addr = none) ∨
      addr ∈ state.routeConfig.addresses ∧
        ∃ health, health = (state.health addr).getD (.discovered tick.now) ∧
          (tick.now < health.nextProbeAt ∧ after.health addr = some health ∨
            health.nextProbeAt ≤ tick.now ∧
              after.health addr = some (health.recordProbe ok tick.now).1) := by
  obtain ⟨-, -, gone | ⟨listed, health, same, outcome⟩⟩ := moved.of_tick addr
  · exact .inl gone
  refine .inr ⟨listed, health, same, ?_⟩
  have asked (reached : health.nextProbeAt ≤ tick.now) : (addr, ok) ∈ tick.prober.probeAll
      (state.health.due state.routeConfig tick.now) :=
    answer _ ((HealthState.mem_due listed).mpr (same ▸ reached))
  rcases outcome with ⟨kept, lost⟩ | ⟨other, reached, heard, updated⟩
  · exact .inl ⟨Nat.not_le.mp fun reached => lost reached ok (asked reached), kept⟩
  · have once : (addr, other) = (addr, ok) :=
      List.inj_on_of_nodup_map (tick.prober.once _) heard (asked reached) rfl
    cases once
    exact .inr ⟨reached, updated⟩

namespace MainState.Sound

/-- A loaded table is sound. -/
theorem load {file : RouteFile} {neighbours : Fin 7 → Neighbours} {now : Instant}
    {table : ConfigTable} (loaded : loadRouteConfig file neighbours now = .ok (.ok table)) :
    MainState.Sound ⟨table, .new, now⟩ where
  traced := by
    have fresh : (HealthState.new).Vouches fun _ => [] := by
      intro addr health stored
      cases stored
    exact ⟨_, _, .load table loaded rfl rfl (loadRouteConfig_pooled loaded) fresh now⟩
  scheduled := by
    intro addr health stored
    cases stored

/-- Soundness is kept by every move of the main loop. -/
theorem move {event : MainEvent} (sound : state.Sound) (moved : MainMove state event after) :
    after.Sound := by
  obtain ⟨source, histories, traced⟩ := sound.traced
  cases event with
  | reload reload =>
    obtain ⟨later, clock, health, outcome⟩ := moved.of_reload
    refine ⟨?_, ?_⟩
    · rcases outcome with accepted | ⟨failure, refused⟩
      · exact ⟨_, _, traced.step accepted⟩
      · cases moved with
        | reload later done => exact ⟨_, _, traced.refuse refused done⟩
    · intro addr record stored
      rw [health, HealthState.resetBackoff, Option.map_eq_some_iff] at stored
      obtain ⟨old, found, rfl⟩ := stored
      have scheduled := sound.scheduled addr old found
      rw [clock]
      exact ⟨fun up => ⟨(scheduled.soon up).1, Nat.le_add_right _ _⟩, Nat.le_add_right _ _⟩
  | tick tick =>
    refine ⟨?_, ?_⟩
    · cases moved with
      | tick later done => exact ⟨_, _, traced.step (.tick later done)⟩
    · intro addr record stored
      obtain ⟨later, clock, gone | ⟨-, health, same, outcome⟩⟩ := moved.of_tick addr
      · rw [gone.2] at stored
        cases stored
      rw [clock]
      rcases outcome with ⟨kept, -⟩ | ⟨ok, -, -, updated⟩
      · obtain rfl : health = record := Option.some.inj (kept.symm.trans stored)
        cases known : state.health addr with
        | none =>
          rw [same, known]
          exact ⟨fun up => absurd up Bool.false_ne_true, Nat.le_add_right _ _⟩
        | some old =>
          rw [same, known]
          exact (sound.scheduled addr old known).mono later
      · rw [updated] at stored
        cases stored
        exact health.recordProbe_scheduled ok tick.now

/-- An address that the checker has down is down in the table, and is not in the pool. -/
theorem out (sound : state.Sound) (down : state.health.flag addr = false) :
    (∀ server ∈ state.routeConfig.servers, server.address = addr → server.healthy = false) ∧
      addr ∉ state.routeConfig.fallbackServers.map Server.address := by
  obtain ⟨source, histories, traced⟩ := sound.traced
  have entries : ∀ server ∈ state.routeConfig.servers, server.address = addr →
      server.healthy = false := by
    rintro server listed rfl
    apply Bool.eq_false_iff.mpr
    intro healthy
    rw [traced.flags server listed healthy] at down
    cases down
  refine ⟨entries, ?_⟩
  intro pooled
  obtain ⟨config, active, server, listed, same, healthy, -⟩ :=
    (traced.pooled.poolExact.eligible addr).mp pooled
  have member : server ∈ state.routeConfig.servers := List.mem_flatMap.mpr ⟨config, active, listed⟩
  rw [entries server member same] at healthy
  cases healthy

end MainState.Sound

end Moves

section Silence

variable {gap : Nat} {addr : IpAddr} {begun : Instant} {lookout next : Lookout} {event : MainEvent}

/-- A server that has been silent since `begun` and is still up: the last pass was before its
deadline, and so is the next probe, unless it is due already. -/
def Lookout.Fading (lookout : Lookout) (addr : IpAddr) (begun : Instant) (gap : Nat) : Prop :=
  ∀ health, lookout.main.health addr = some health → health.healthy = true →
    lookout.lastTick ≤ health.deadline begun gap ∧
      (health.nextProbeAt ≤ health.deadline begun gap ∨ health.nextProbeAt ≤ lookout.main.clock)

/-- A failed probe puts the deadline off by one interval and a gap. -/
theorem ServerHealth.deadline_succ {health other : ServerHealth} (begun : Instant) (gap : Nat)
    (more : other.consecutiveFailures.toNat = health.consecutiveFailures.toNat + 1) :
    other.deadline begun gap = health.deadline begun gap + (seconds 5 + gap) := by
  rw [deadline, deadline, more, Nat.add_one_mul, ← Nat.add_assoc]

/-- A server that is still up has failed at most twice, so its deadline is near. -/
theorem ServerHealth.deadline_le {health : ServerHealth} (begun : Instant) (gap : Nat)
    (few : health.consecutiveFailures.toNat < 3) :
    health.deadline begun gap ≤ begun + seconds 15 + 2 * gap :=
  calc health.deadline begun gap
    _ ≤ begun + seconds 5 + 2 * (seconds 5 + gap) :=
      Nat.add_le_add_left (Nat.mul_le_mul_right _ (Nat.le_of_lt_succ few)) _
    _ = begun + seconds 15 + 2 * gap := by
      simp only [seconds]
      ring

/-- Soundness is kept along a watch. -/
theorem LookoutStep.sound {ok : Bool} (moved : LookoutStep gap addr ok lookout event next)
    (sound : lookout.main.Sound) : next.main.Sound := by
  cases moved with
  | reload moved => exact sound.move moved
  | tick soon answer moved => exact sound.move moved

/-- A pass without an answer keeps a silent server within its deadline or takes it down. -/
theorem Lookout.Fading.step (fading : lookout.Fading addr begun gap) (sound : lookout.main.Sound)
    (moved : LookoutStep gap addr false lookout event next) : next.Fading addr begun gap := by
  cases moved with
  | @reload state after reload last moved =>
    obtain ⟨later, clock, health, -⟩ := moved.of_reload
    intro record stored up
    simp only [health, HealthState.resetBackoff, Option.map_eq_some_iff] at stored
    obtain ⟨old, found, rfl⟩ := stored
    refine ⟨(fading old found up).1, .inr ?_⟩
    exact Nat.le_of_eq clock.symm
  | @tick state after tick last soon answer moved =>
    intro record stored up
    simp only at stored
    obtain ⟨later, -⟩ := moved.of_tick addr
    rcases moved.of_answered answer with gone | ⟨-, health, same, outcome⟩
    · rw [gone.2] at stored
      cases stored
    -- A new record is not up.
    have own (isUp : health.healthy = true) : state.health addr = some health := by
      cases known : state.health addr with
      | none =>
        rw [same, known] at isUp
        cases isUp
      | some old =>
        rw [same, known]
        rfl
    rcases outcome with ⟨waits, kept⟩ | ⟨reached, updated⟩
    · obtain rfl : health = record := Option.some.inj (kept.symm.trans stored)
      obtain ⟨-, scheduled | overdue⟩ := fading health (own up) up
      · exact ⟨Nat.le_trans (Nat.le_of_lt waits) scheduled, .inl scheduled⟩
      · exact absurd (Nat.le_trans overdue later) (Nat.not_le.mpr waits)
    · rw [updated] at stored
      cases stored
      have few (isUp : health.healthy = true) :=
        ((sound.scheduled addr health (own isUp)).soon isUp).1
      obtain ⟨wasUp, count, due⟩ := ServerHealth.recordProbe_silent few up
      have extended := ServerHealth.deadline_succ begun gap count
      have before := (fading health (own wasUp) wasUp).1
      have pass : tick.now ≤ health.deadline begun gap + gap :=
        Nat.le_trans soon (Nat.add_le_add_right before gap)
      rw [extended, due]
      refine ⟨Nat.le_trans pass (Nat.add_le_add_left (Nat.le_add_left _ _) _), .inl ?_⟩
      calc tick.now + seconds 5
        _ ≤ health.deadline begun gap + gap + seconds 5 := Nat.add_le_add_right pass _
        _ = health.deadline begun gap + (seconds 5 + gap) := by
          rw [Nat.add_assoc, Nat.add_comm gap]

/-- At the start of the silence the deadline is met. -/
theorem Lookout.fading_start {state : MainState} (sound : state.Sound) (addr : IpAddr) (gap : Nat) :
    Lookout.Fading ⟨state, state.clock⟩ addr state.clock gap := by
  intro health stored up
  have scheduled := ((sound.scheduled addr health stored).soon up).2
  refine ⟨?_, .inl (Nat.le_trans scheduled (Nat.le_add_right _ _))⟩
  exact Nat.le_trans (Nat.le_add_right _ _) (Nat.le_add_right _ _)

variable {file : RouteFile} {neighbours : Fin 7 → Neighbours} {loadedAt : Instant}
  {table : ConfigTable} {earlier events : List MainEvent} {start : MainState}

/-- After any history of passes and reloads, and with any more of them: once a pass is made more
than fifteen seconds and two gaps after a backend answered last, the backend is down with the
checker, in every entry of the stored table, and is not in the fallback pool. -/
theorem silent_taken_out (loaded : loadRouteConfig file neighbours loadedAt = .ok (.ok table))
    (run : Trace MainMove ⟨table, .new, loadedAt⟩ earlier start)
    (silence : Trace (LookoutStep gap addr false) ⟨start, start.clock⟩ events lookout)
    (late : start.clock + seconds 15 + 2 * gap < lookout.lastTick) :
    lookout.main.health.flag addr = false ∧
      (∀ server ∈ lookout.main.routeConfig.servers, server.address = addr →
        server.healthy = false) ∧
      addr ∉ lookout.main.routeConfig.fallbackServers.map Server.address := by
  have sound : start.Sound :=
    run.invariant MainState.Sound (.load loaded) fun _ sound moved => sound.move moved
  obtain ⟨sound, fading⟩ := silence.invariant
    (fun lookout => lookout.main.Sound ∧ lookout.Fading addr start.clock gap)
    ⟨sound, Lookout.fading_start sound addr gap⟩
    fun _ held moved => ⟨moved.sound held.1, held.2.step held.1 moved⟩
  have down : lookout.main.health.flag addr = false := by
    cases stored : lookout.main.health addr with
    | none => simp [HealthState.flag, stored]
    | some health =>
      rw [HealthState.flag_of_some stored]
      apply Bool.eq_false_iff.mpr
      intro up
      have few := ((sound.scheduled addr health stored).soon up).1
      have pass := (fading health stored up).1
      have latest := ServerHealth.deadline_le start.clock gap few
      exact absurd (Nat.le_trans pass latest) (Nat.not_le.mpr late)
  exact ⟨down, sound.out down⟩

end Silence

namespace SampleLookout

open SampleReload

def backend : IpAddr := .v4 (ipv4Octets 10 0 0 1)

/-- The sample's prober gives the backend the same answer each time. -/
theorem answer (outcome : Bool) (now : Instant) (addrs : List IpAddr) (asked : backend ∈ addrs) :
    (backend, outcome) ∈ (tick outcome now).prober.probeAll addrs :=
  List.mem_map.mpr ⟨backend, List.mem_dedup.mpr asked, rfl⟩

/-- A pass of the sample is a move of the main loop. -/
theorem tick_move {state : MainState} (outcome : Bool) {now : Instant} (later : state.clock ≤ now) :
    MainMove state (.tick (tick outcome now)) (ticked state outcome now) := by
  cases tick_step outcome later with
  | tick later done => exact .tick later done

/-- A pass that comes as late as it may. -/
theorem watch_step {state : MainState} {last : Instant} (outcome : Bool) (gap : Nat)
    (later : state.clock ≤ last) :
    LookoutStep gap backend outcome ⟨state, last⟩ (.tick (tick outcome (last + gap)))
        ⟨ticked state outcome (last + gap), last + gap⟩ ∧
      (ticked state outcome (last + gap)).clock ≤ last + gap := by
  have reached : state.clock ≤ last + gap := Nat.le_trans later (Nat.le_add_right _ _)
  exact ⟨.tick (Nat.le_refl _) (answer outcome _) (tick_move outcome reached),
    Nat.le_of_eq (MainStep.clock_tick (tick_step outcome reached))⟩

/-- The backend answered once. -/
def answered : MainState := ticked start true 1

/-- Three passes of silence, twenty seconds apart. -/
def silent : MainState :=
  ticked (ticked (ticked answered false (1 + seconds 20)) false (1 + seconds 20 + seconds 20)) false
    (1 + seconds 20 + seconds 20 + seconds 20)

/-- The answer came with the first pass. -/
theorem answered_clock : answered.clock = 1 :=
  MainStep.clock_tick (tick_step true (Nat.zero_le 1))

/-- The three passes without an answer. -/
theorem silence : ∃ events, Trace (LookoutStep (seconds 20) backend false)
    ⟨answered, answered.clock⟩ events ⟨silent, 1 + seconds 20 + seconds 20 + seconds 20⟩ := by
  rw [answered_clock]
  obtain ⟨first, clock₁⟩ := watch_step false (seconds 20) (Nat.le_of_eq answered_clock)
  obtain ⟨second, clock₂⟩ := watch_step false (seconds 20) clock₁
  obtain ⟨third, -⟩ := watch_step false (seconds 20) clock₂
  exact ⟨_, ((Trace.nil.snoc first).snoc second).snoc third⟩

end SampleLookout

open SampleLookout SampleReload in
/-- The backend was up before them and is out after them. -/
theorem silent_taken_out_sample :
    answered.health.flag backend = true ∧ silent.health.flag backend = false ∧
      (∀ server ∈ silent.routeConfig.servers, server.address = backend →
        server.healthy = false) ∧
      backend ∉ silent.routeConfig.fallbackServers.map Server.address := by
  obtain ⟨events, silence⟩ := silence
  have run : Trace MainMove start _ answered :=
    Trace.nil.snoc (tick_move true (Nat.zero_le 1))
  refine ⟨by decide +kernel, silent_taken_out loaded run silence ?_⟩
  rw [answered_clock]
  decide

section Return

variable {gap : Nat} {addr : IpAddr} {begun : Instant} {lookout : Lookout}

/-- A server that answers: it is up, or its next probe is due within five minutes of `begun` and
no pass was made since. -/
structure Lookout.Rising (lookout : Lookout) (addr : IpAddr) (begun : Instant) : Prop where
  listed : addr ∈ lookout.main.routeConfig.addresses
  consistent : lookout.main.routeConfig.Consistent lookout.main.health
  awaited : lookout.main.health.flag addr = true ∨ lookout.lastTick ≤ begun + seconds 300 ∧
    ∀ health, lookout.main.health addr = some health → health.nextProbeAt ≤ begun + seconds 300

/-- A pass keeps the addresses of the table. -/
theorem checkAndRebuild_addresses {state after : MainState} {tick : Tick} {rebuilt : Bool}
    (done : state.checkAndRebuild tick = .ok (after, rebuilt)) :
    after.routeConfig.addresses = state.routeConfig.addresses := by
  obtain ⟨clone, changed, -, -, slots⟩ := checkAndRebuild_stores done
  rw [← addresses_resolved state.routeConfig tick.neighbours]
  rcases slots with ⟨kept, -⟩ | mirrored
  · rw [ConfigTable.addresses, ConfigTable.servers_congr kept, ConfigTable.addresses]
  · rw [ConfigTable.addresses, ConfigTable.servers_congr mirrored, ← ConfigTable.addresses]
    exact ConfigTable.addresses_updateServers fun _ server =>
      HealthState.mirrorServer_address server

/-- A pass with an answer takes an answering server up, or its next probe is not due. -/
theorem Lookout.Rising.tick {state after : MainState} {tick : Tick} {last : Instant}
    (rising : Lookout.Rising ⟨state, last⟩ addr begun)
    (answer : ∀ addrs, addr ∈ addrs → (addr, true) ∈ tick.prober.probeAll addrs)
    (moved : MainMove state (.tick tick) after) :
    Lookout.Rising ⟨after, tick.now⟩ addr begun := by
  have listed : addr ∈ after.routeConfig.addresses := by
    cases moved with
    | tick later done => exact checkAndRebuild_addresses done ▸ rising.listed
  have consistent : after.routeConfig.Consistent after.health := by
    cases moved with
    | tick later done =>
      obtain ⟨after', rebuilt', same, -, -, -, -, -, keeps⟩ := checkAndRebuild_spec state tick
      cases done.symm.trans same
      exact keeps rising.consistent
  refine ⟨listed, consistent, ?_⟩
  rcases moved.of_answered answer with gone | ⟨-, health, same, outcome⟩
  · exact absurd rising.listed gone.1
  rcases outcome with ⟨waits, kept⟩ | ⟨reached, updated⟩
  · -- A record that is not due is not a new one.
    have known : state.health addr = some health := by
      cases found : state.health addr with
      | none =>
        rw [same, found] at waits
        exact absurd waits (Nat.lt_irrefl _)
      | some old =>
        rw [same, found]
        rfl
    rcases rising.awaited with up | ⟨-, due⟩
    · left
      rw [HealthState.flag_of_some kept, ← HealthState.flag_of_some known]
      exact up
    · refine .inr ⟨Nat.le_trans (Nat.le_of_lt waits) (due health known), ?_⟩
      intro record stored
      cases kept.symm.trans stored
      exact due health known
  · left
    rw [HealthState.flag_of_some updated]
    exact health.recordProbe_answered

variable {file : RouteFile} {neighbours : Fin 7 → Neighbours} {loadedAt : Instant}
  {table : ConfigTable} {earlier events : List MainEvent} {start : MainState}

/-- From any reached state whose stored flags are the checker's, and with no reload since: once a
pass is made more than five minutes after a backend began to answer, every entry of the backend is
up, and it is in the fallback pool if one of them can take new connections. -/
theorem answering_put_back (loaded : loadRouteConfig file neighbours loadedAt = .ok (.ok table))
    (run : Trace MainMove ⟨table, .new, loadedAt⟩ earlier start)
    (listed : addr ∈ start.routeConfig.addresses)
    (consistent : start.routeConfig.Consistent start.health)
    (answers : Trace (LookoutStep gap addr true) ⟨start, start.clock⟩ events lookout)
    (unchanged : ∀ reload, .reload reload ∉ events)
    (late : start.clock + seconds 300 < lookout.lastTick) :
    (∀ server ∈ lookout.main.routeConfig.servers, server.address = addr → server.healthy = true) ∧
      ∀ server ∈ lookout.main.routeConfig.servers, server.address = addr →
        server.mac.isSome = true → server.draining = false →
          addr ∈ lookout.main.routeConfig.fallbackServers.map Server.address := by
  have sound : start.Sound :=
    run.invariant MainState.Sound (.load loaded) fun _ sound moved => sound.move moved
  have begins : Lookout.Rising ⟨start, start.clock⟩ addr start.clock :=
    ⟨listed, consistent, .inr ⟨Nat.le_add_right _ _, fun health stored =>
      (sound.scheduled addr health stored).capped⟩⟩
  obtain ⟨sound, rising⟩ := answers.invariant
    (fun lookout => lookout.main.Sound ∧ lookout.Rising addr start.clock) ⟨sound, begins⟩
    fun {lookout event next} member held moved => by
      refine ⟨moved.sound held.1, ?_⟩
      cases moved with
      | reload moved => exact absurd member (unchanged _)
      | tick soon answer moved => exact held.2.tick answer moved
  have up : lookout.main.health.flag addr = true := by
    rcases rising.awaited with up | ⟨early, -⟩
    · exact up
    · exact absurd early (Nat.not_le.mpr late)
  have entries : ∀ server ∈ lookout.main.routeConfig.servers, server.address = addr →
      server.healthy = true := by
    rintro server member rfl
    rw [rising.consistent server member, up]
  refine ⟨entries, ?_⟩
  intro server member same resolved serving
  obtain ⟨source, histories, traced⟩ := sound.traced
  obtain ⟨config, active, inside⟩ := List.mem_flatMap.mp member
  exact (traced.pooled.poolExact.eligible addr).mpr
    ⟨config, active, server, inside, same, entries server member same, resolved, serving⟩

end Return

namespace SampleLookout

open SampleReload

/-- The silent backend answers again, but a pass one second later does not ask it. -/
def skipped : MainState := ticked silent true (silent.clock + seconds 1)

/-- The next pass does. -/
def returned : MainState := ticked skipped true (silent.clock + seconds 1 + seconds 300)

/-- The silent state is one that the main loop reaches. -/
theorem fallen : ∃ earlier, Trace MainMove start earlier silent := by
  have clock₁ := (watch_step false (seconds 20) (Nat.le_of_eq answered_clock)).2
  have clock₂ := (watch_step false (seconds 20) clock₁).2
  have run : Trace MainMove start _ answered := Trace.nil.snoc (tick_move true (Nat.zero_le 1))
  have early {state : MainState} {last : Instant} (later : state.clock ≤ last) :
      state.clock ≤ last + seconds 20 := Nat.le_trans later (Nat.le_add_right _ _)
  exact ⟨_, ((run.snoc (tick_move false (early (Nat.le_of_eq answered_clock)))).snoc
    (tick_move false (early clock₁))).snoc (tick_move false (early clock₂))⟩

/-- The two passes that the backend would answer. -/
theorem answers : Trace (LookoutStep (seconds 300) backend true) ⟨silent, silent.clock⟩
    [.tick (tick true (silent.clock + seconds 1)),
      .tick (tick true (silent.clock + seconds 1 + seconds 300))]
    ⟨returned, silent.clock + seconds 1 + seconds 300⟩ := by
  have later : silent.clock ≤ silent.clock + seconds 1 := Nat.le_add_right _ _
  have soon : silent.clock + seconds 1 ≤ silent.clock + seconds 300 :=
    Nat.add_le_add_left (by decide) _
  have skip : LookoutStep (seconds 300) backend true ⟨silent, silent.clock⟩
      (.tick (tick true (silent.clock + seconds 1))) ⟨skipped, silent.clock + seconds 1⟩ :=
    .tick soon (answer true _) (tick_move true later)
  have clock : skipped.clock ≤ silent.clock + seconds 1 :=
    Nat.le_of_eq (MainStep.clock_tick (tick_step true later))
  exact (Trace.nil.snoc skip).snoc (watch_step true (seconds 300) clock).1

end SampleLookout

open SampleLookout SampleReload in
/-- The backend is down and backed off when it begins to answer, and still down one second on. -/
theorem answering_put_back_sample :
    silent.health.flag backend = false ∧ skipped.health.flag backend = false ∧
      (∀ server ∈ returned.routeConfig.servers, server.address = backend →
        server.healthy = true) ∧
      ∀ server ∈ returned.routeConfig.servers, server.address = backend →
        server.mac.isSome = true → server.draining = false →
          backend ∈ returned.routeConfig.fallbackServers.map Server.address := by
  obtain ⟨earlier, fallen⟩ := fallen
  have consistent : silent.routeConfig.Consistent silent.health := by
    unfold ConfigTable.Consistent
    decide +kernel
  have late : silent.clock + seconds 300 < silent.clock + seconds 1 + seconds 300 :=
    Nat.add_lt_add_right (Nat.lt_add_of_pos_right (by decide)) _
  exact ⟨by decide +kernel, by decide +kernel,
    answering_put_back loaded fallen (by decide +kernel) consistent answers (by simp) late⟩

end Pesigitg
