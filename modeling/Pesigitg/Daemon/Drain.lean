import Pesigitg.Daemon.ConfigTable

/-!
# Announcing that servers have drained

The main loop remembers in one bit that draining servers had traffic. The bit is set by any
positive delta and cleared only by the announcement itself, so it outlives a drain whose servers
are removed from the file, and a later drain is announced as complete on its first idle tick.
-/

namespace Pesigitg

open Base

/-- Whether any server in any active config is draining. -/
def ConfigTable.hasDrainingServers (table : ConfigTable) : Bool :=
  table.configs.any fun config => config.servers.any Server.draining

/-- What drain detection sees at one pass of the main loop: the packets forwarded to draining
servers since the pass before, and the live table. -/
structure DrainTick where
  drainingForwarded : UInt64
  table : ConfigTable

namespace DrainTick

/-- The drain detection of one pass: the bit after it, and whether it logs that all draining
servers are fully drained. -/
def detect (tick : DrainTick) (drainingHadTraffic : Bool) : Bool × Bool :=
  if 0 < tick.drainingForwarded then (true, false)
  else if drainingHadTraffic then
    if tick.table.hasDrainingServers then (false, true) else (true, false)
  else (false, false)

end DrainTick

namespace Drain

/-- The bit before each pass. -/
def hadTraffic (ticks : Nat → DrainTick) : Nat → Bool
  | 0 => false
  | index + 1 => ((ticks index).detect (hadTraffic ticks index)).1

/-- Whether a pass announces a completed drain. -/
def announces (ticks : Nat → DrainTick) (index : Nat) : Bool :=
  ((ticks index).detect (hadTraffic ticks index)).2

/-- Some earlier pass had traffic to draining servers, and since then the live table has had a
draining server at every pass. -/
def Justified (ticks : Nat → DrainTick) (index : Nat) : Prop :=
  ∃ first < index, 0 < (ticks first).drainingForwarded ∧
    ∀ between, first ≤ between → between ≤ index →
      (ticks between).table.hasDrainingServers = true

/-- An idle pass that finds a draining server, while every pass since the last one with traffic
was idle and found none. -/
structure Reaches (ticks : Nat → DrainTick) (last index : Nat) : Prop where
  before : last < index
  traffic : 0 < (ticks last).drainingForwarded
  quiet : ∀ between, last < between → between < index →
    (ticks between).drainingForwarded = 0 ∧ (ticks between).table.hasDrainingServers = false
  idle : (ticks index).drainingForwarded = 0
  draining : (ticks index).table.hasDrainingServers = true

variable {ticks : Nat → DrainTick}

/-- No traffic means a delta of zero. -/
theorem not_pos_iff {delta : UInt64} : ¬ 0 < delta ↔ delta = 0 := by
  rw [UInt64.lt_iff_toNat_lt, ← UInt64.toNat_inj, UInt64.toNat_zero]
  omega

/-- What a pass leaves in the bit. -/
theorem detect_bit_iff {tick : DrainTick} {bit : Bool} :
    (tick.detect bit).1 = true ↔ 0 < tick.drainingForwarded ∨
      bit = true ∧ tick.drainingForwarded = 0 ∧ tick.table.hasDrainingServers = false := by
  unfold DrainTick.detect
  by_cases traffic : 0 < tick.drainingForwarded
  · simp [traffic]
  · have idle := not_pos_iff.mp traffic
    cases bit <;> cases found : tick.table.hasDrainingServers <;> simp [idle]

/-- When a pass announces. -/
theorem detect_announces_iff {tick : DrainTick} {bit : Bool} :
    (tick.detect bit).2 = true ↔
      bit = true ∧ tick.drainingForwarded = 0 ∧ tick.table.hasDrainingServers = true := by
  unfold DrainTick.detect
  by_cases traffic : 0 < tick.drainingForwarded
  · have busy : tick.drainingForwarded ≠ 0 := fun idle => not_pos_iff.mpr idle traffic
    simp [traffic, busy]
  · have idle := not_pos_iff.mp traffic
    cases bit <;> cases found : tick.table.hasDrainingServers <;> simp [idle]

/-- The bit is set as long as nothing but idle passes without draining servers followed some
pass with traffic. -/
theorem hadTraffic_iff (index : Nat) :
    hadTraffic ticks index = true ↔ ∃ last < index, 0 < (ticks last).drainingForwarded ∧
      ∀ between, last < between → between < index →
        (ticks between).drainingForwarded = 0 ∧
          (ticks between).table.hasDrainingServers = false := by
  induction index with
  | zero => simp [hadTraffic]
  | succ index ih =>
    rw [hadTraffic, detect_bit_iff, ih]
    constructor
    · rintro (traffic | ⟨⟨last, before, traffic, quiet⟩, idle, none⟩)
      · exact ⟨index, Nat.lt_succ_self index, traffic, fun between after below => by omega⟩
      · refine ⟨last, by omega, traffic, ?_⟩
        intro between after below
        rcases Nat.lt_or_ge between index with earlier | here
        · exact quiet between after earlier
        · obtain rfl : between = index := by omega
          exact ⟨idle, none⟩
    · rintro ⟨last, before, traffic, quiet⟩
      rcases Nat.lt_or_ge last index with earlier | here
      · right
        refine ⟨⟨last, earlier, traffic, ?_⟩, quiet index earlier (Nat.lt_succ_self index)⟩
        intro between after below
        exact quiet between after (by omega)
      · obtain rfl : last = index := by omega
        exact .inl traffic

/-- The announcements of a run. -/
theorem announces_iff (index : Nat) :
    announces ticks index = true ↔ ∃ last, Reaches ticks last index := by
  rw [announces, detect_announces_iff, hadTraffic_iff]
  constructor
  · rintro ⟨⟨last, before, traffic, quiet⟩, idle, draining⟩
    exact ⟨last, before, traffic, quiet, idle, draining⟩
  · rintro ⟨last, reaches⟩
    exact ⟨⟨last, reaches.before, reaches.traffic, reaches.quiet⟩, reaches.idle, reaches.draining⟩

/-- An announcement stands on the last pass with traffic alone: it is justified when that is the
pass before, and there was a draining server then. -/
theorem Reaches.justified_iff {last index : Nat} (reaches : Reaches ticks last index) :
    Justified ticks index ↔
      index = last + 1 ∧ (ticks last).table.hasDrainingServers = true := by
  have before := reaches.before
  constructor
  · rintro ⟨first, earlier, traffic, draining⟩
    have first_le : first ≤ last := by
      by_contra later
      have quiet := (reaches.quiet first (by omega) earlier).1
      exact not_pos_iff.mpr quiet traffic
    refine ⟨?_, draining last first_le (by omega)⟩
    by_contra apart
    have none := (reaches.quiet (last + 1) (by omega) (by omega)).2
    rw [draining (last + 1) (by omega) (by omega)] at none
    cases none
  · rintro ⟨rfl, draining⟩
    refine ⟨last, before, reaches.traffic, ?_⟩
    intro between after below
    rcases Nat.lt_or_ge last between with here | there
    · obtain rfl : between = last + 1 := by omega
      exact reaches.draining
    · obtain rfl : between = last := by omega
      exact draining

end Drain

/-- In every run of the main loop, an announcement at a pass is justified exactly when no idle
pass that finds a draining server follows the last traffic across idle passes without one, or
directly follows traffic under a table without one. -/
theorem drain_announced_iff (ticks : Nat → DrainTick) (index : Nat) :
    (Drain.announces ticks index = true → Drain.Justified ticks index) ↔
      ∀ last, Drain.Reaches ticks last index →
        index = last + 1 ∧ (ticks last).table.hasDrainingServers = true := by
  constructor
  · intro justifies last reaches
    exact reaches.justified_iff.mp (justifies ((Drain.announces_iff index).mpr ⟨last, reaches⟩))
  · intro condition announced
    obtain ⟨last, reaches⟩ := (Drain.announces_iff index).mp announced
    exact reaches.justified_iff.mpr (condition last reaches)

namespace SampleDrain

/-- A table with one server, draining or not. -/
def table (draining : Bool) : ConfigTable :=
  ⟨fun id => if id.val = 0 then some ⟨0, false, 1, 4, .plaintext,
      [⟨[1], .v4 (ipv4Octets 10 0 0 1), none, draining, false, 0, none⟩], none⟩ else none,
    fun _ => none, [], none⟩

/-- Traffic to a draining server, a reload that takes the server out of the drain, and a reload
that starts another drain. -/
def ticks : Nat → DrainTick
  | 0 => ⟨7, table true⟩
  | 1 => ⟨0, table false⟩
  | _ => ⟨0, table true⟩

/-- A drain that comes to its end. -/
def finished : Nat → DrainTick
  | 0 => ⟨7, table true⟩
  | _ => ⟨0, table true⟩

end SampleDrain

/-- A drain that ends while it is configured is announced with reason. -/
theorem finished_drain_justified :
    Drain.announces SampleDrain.finished 1 = true ∧ Drain.Justified SampleDrain.finished 1 := by
  have announced : Drain.announces SampleDrain.finished 1 = true := by decide
  refine ⟨announced, (drain_announced_iff SampleDrain.finished 1).mpr ?_ announced⟩
  intro last reaches
  obtain rfl : last = 0 := by
    have before := reaches.before
    omega
  exact ⟨rfl, by decide⟩

/-- The second drain is announced as complete on its first pass, on the strength of traffic to
the first. -/
theorem stale_drain_announced :
    Drain.announces SampleDrain.ticks 2 = true ∧ ¬ Drain.Justified SampleDrain.ticks 2 := by
  refine ⟨by decide, ?_⟩
  rintro ⟨first, before, traffic, draining⟩
  have none : (SampleDrain.ticks 1).table.hasDrainingServers = false := by decide
  rw [draining 1 (by omega) (by omega)] at none
  cases none

end Pesigitg
