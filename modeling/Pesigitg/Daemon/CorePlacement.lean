import Pesigitg.Base.StableSort
import Pesigitg.Daemon.FileConfig

/-!
# Core placement

The daemon pins its workers to CPUs near the NIC. `order_primaries_first` and
`pick_numa_local_cores` are two stable partitions; one after the other they are the four-level
preference of the manual, as a stable sort. The worker count is clamped to the number of CPUs, so
`plan_threads` always finds a core for each worker.
-/

namespace Pesigitg

open Base

section Topology

/-- `str::parse::<i32>`, without the reason of a failure. -/
def parseI32 (chars : List Char) : Option Int32 :=
  match chars with
  | ['-'] => none
  | '-' :: digits => (decimalDigits (2 ^ 31 + 1) digits 0).toOption.map fun value =>
    Int32.ofInt (-value)
  | digits => (parseUnsigned (2 ^ 31) digits).toOption.map Int32.ofNat

/-- The CPUs of one part of a cpulist, `lo-hi` or a single number. -/
def parseCpuPart (part : List Char) : List Nat :=
  match splitOnce '-' part with
  | some (lo, hi) =>
    match parseUnsigned (2 ^ 64) lo, parseUnsigned (2 ^ 64) hi with
    | .ok lo, .ok hi => List.range' lo (hi + 1 - lo)
    | _, _ => []
  | none =>
    match parseUnsigned (2 ^ 64) part with
    | .ok cpu => [cpu]
    | .error _ => []

/-- `parse_cpulist`. -/
def parseCpulist (text : List Char) : List Nat :=
  (text.splitOn ',').flatMap fun part =>
    let part := trimPart part
    if part = [] then [] else parseCpuPart part

/-- `build_cpu_numa_map`. A later entry wins. -/
def buildCpuNumaMap (entries : List (Int32 × List Char)) : Nat → Option Int32 :=
  entries.foldl
    (fun map entry =>
      (parseCpulist entry.2).foldl (fun map cpu => Function.update map cpu (some entry.1)) map)
    fun _ => none

/-- `is_smt_primary`. -/
def isSmtPrimary (cpu : Nat) (siblingsList : List Char) : Bool :=
  (parseCpulist siblingsList).min? = some cpu

/-- What the daemon reads about the host: the NIC's `numa_node` file, the `cpulist` of every
readable node directory, the `thread_siblings_list` of every readable CPU directory, and the
available parallelism. -/
structure Host where
  numaNode : Option String
  nodes : List (Int32 × String)
  siblings : List (Nat × String)
  cores : Nat

namespace Host

variable (host : Host)

def nicNuma : Int32 := (host.numaNode.bind fun text => parseI32 (trim text)).getD 0

/-- `read_cpu_numa_map_from`. -/
def cpuNumaMap : Nat → Option Int32 :=
  buildCpuNumaMap (host.nodes.map fun node => (node.1, trim node.2))

/-- `read_smt_primaries_from`. -/
def smtPrimaries : List Nat :=
  (host.siblings.filter fun entry => isSmtPrimary entry.1 (trim entry.2)).map Prod.fst

/-- The CPUs with their node and whether they are SMT primaries. -/
def cpusWithSmt : List (Nat × Int32 × Bool) :=
  (List.range host.cores).map fun cpu =>
    (cpu, (host.cpuNumaMap cpu).getD 0, host.smtPrimaries.isEmpty || host.smtPrimaries.contains cpu)

end Host

end Topology

section Selection

/-- `order_primaries_first`. -/
def orderPrimariesFirst (cpus : List (Nat × Int32 × Bool)) : List (Nat × Int32) :=
  let (primaries, siblings) := cpus.partition fun cpu => cpu.2.2
  (primaries ++ siblings).map fun cpu => (cpu.1, cpu.2.1)

/-- The loop of `pick_numa_local_cores`, with the cores it has put aside. -/
def splitByNode (nicNuma : Int32) : List (Nat × Int32) → List Nat → List Nat → List Nat × List Nat
  | [], onNode, remote => (onNode, remote)
  | (cpu, numa) :: rest, onNode, remote =>
    if numa = nicNuma then splitByNode nicNuma rest (onNode ++ [cpu]) remote
    else splitByNode nicNuma rest onNode (remote ++ [cpu])

/-- `pick_numa_local_cores`. -/
def pickNumaLocalCores (nicNuma : Int32) (cpus : List (Nat × Int32)) (queueCount : UInt32) :
    List Nat :=
  let (onNode, remote) := splitByNode nicNuma cpus [] []
  (onNode ++ remote).take queueCount.toNat

/-- `select_cores`. -/
def selectCores (host : Host) (queueCount : UInt32) : List Nat :=
  pickNumaLocalCores host.nicNuma (orderPrimariesFirst host.cpusWithSmt) queueCount

end Selection

section Planning

structure ThreadConfig where
  queueId : UInt32
  coreId : Nat
deriving DecidableEq, Repr

/-- `resolve_thread_count`. The core count is cut to 32 bits. -/
def resolveThreadCount (hwQueues requested : UInt32) (availableCores : Nat) : UInt32 :=
  min (min requested hwQueues) (UInt32.ofNat availableCores)

/-- `non_zero_worker_count`. -/
def nonZeroWorkerCount (hwQueues requested : UInt32) (availableCores : Nat) :
    Except String UInt32 :=
  let count := resolveThreadCount hwQueues requested availableCores
  if count = 0 then
    .error s!"no workers to spawn: hw queues = {hwQueues}, requested = {requested}, cpu cores = {availableCores}"
  else .ok count

/-- `cores[index]`. -/
def coreAt (cores : List Nat) (index : Nat) : Checked Nat :=
  match cores[index]? with
  | some core => .ok core
  | none => .error .index

/-- The thread configurations of workers `start, …, start + count - 1`. -/
def threadConfigs (cores : List Nat) (start : Nat) : Nat → Checked (List ThreadConfig)
  | 0 => pure []
  | count + 1 => do
    let core ← coreAt cores start
    let rest ← threadConfigs cores (start + 1) count
    pure (⟨UInt32.ofNat start, core⟩ :: rest)

/-- `plan_threads`, on the current and the maximal number of combined queues if the NIC tells
them. -/
def planThreads (host : Host) (queues : Option (UInt32 × UInt32)) (maxThreads : Option UInt32) :
    Checked (Except String (List ThreadConfig)) :=
  let (hwQueues, _) := queues.getD (1, 1)
  let requested := maxThreads.getD hwQueues
  match nonZeroWorkerCount hwQueues requested host.cores with
  | .error message => pure (.error message)
  | .ok count => do
    let threads ← threadConfigs (selectCores host count) 0 count.toNat
    pure (.ok threads)

end Planning

section Placement

/-- The preference of the manual: the NIC's node before other nodes, and in each the SMT primaries
before the siblings. -/
def preference : (onNode primary : Bool) → Nat
  | true, true => 0
  | true, false => 1
  | false, true => 2
  | false, false => 3

/-- The preference for a CPU. -/
def placementRank (nicNuma : Int32) (cpu : Nat × Int32 × Bool) : Nat :=
  preference (decide (cpu.2.1 = nicNuma)) cpu.2.2

variable (nicNuma : Int32) (cpus : List (Nat × Int32 × Bool))

/-- There are four levels of preference. -/
theorem preference_lt (onNode primary : Bool) : preference onNode primary < 4 := by
  cases onNode <;> cases primary <;> decide

/-- Each level stands for one combination of node and sibling. -/
theorem preference_eq_iff (onNode primary onNode' primary' : Bool) :
    preference onNode primary = preference onNode' primary' ↔ onNode = onNode' ∧ primary = primary' := by
  cases onNode <;> cases primary <;> cases onNode' <;> cases primary' <;> decide

/-- The CPUs of one level, in the order they were listed. -/
theorem bucket_placementRank (onNode primary : Bool) :
    bucket (placementRank nicNuma) (preference onNode primary) cpus =
      cpus.filter fun cpu => decide (cpu.2.1 = nicNuma) == onNode && cpu.2.2 == primary := by
  apply List.filter_congr
  intro cpu _
  rw [Bool.eq_iff_iff, decide_eq_true_eq, placementRank, preference_eq_iff, Bool.and_eq_true,
    beq_iff_eq, beq_iff_eq]

/-- The split keeps the order of the CPUs on either side. -/
theorem splitByNode_eq (cpus : List (Nat × Int32)) (onNode remote : List Nat) :
    splitByNode nicNuma cpus onNode remote =
      (onNode ++ (cpus.filter fun cpu => decide (cpu.2 = nicNuma) == true).map Prod.fst,
        remote ++ (cpus.filter fun cpu => decide (cpu.2 = nicNuma) == false).map Prod.fst) := by
  induction cpus generalizing onNode remote with
  | nil => simp [splitByNode]
  | cons cpu rest ih =>
    obtain ⟨cpu, numa⟩ := cpu
    by_cases same : numa = nicNuma
    · rw [splitByNode, if_pos same, ih]
      simp [same]
    · rw [splitByNode, if_neg same, ih]
      simp [same]

/-- Picking by node after the primaries have been put first leaves the primaries of those nodes and
then their siblings. -/
theorem filter_orderPrimariesFirst (picks : Int32 → Bool) :
    ((orderPrimariesFirst cpus).filter fun cpu => picks cpu.2).map Prod.fst =
      (cpus.filter (fun cpu => picks cpu.2.1 && cpu.2.2 == true) ++
        cpus.filter (fun cpu => picks cpu.2.1 && cpu.2.2 == false)).map Prod.fst := by
  have ordered : orderPrimariesFirst cpus =
      (cpus.filter (fun cpu => cpu.2.2 == true) ++ cpus.filter (fun cpu => cpu.2.2 == false)).map
        fun cpu => (cpu.1, cpu.2.1) := by
    simp only [orderPrimariesFirst, List.partition_eq_filter_filter, beq_true, beq_false]
    rfl
  rw [ordered, List.filter_map, List.map_map, List.filter_append, List.filter_filter,
    List.filter_filter]
  rfl

/-- The two partitions in sequence are one sort by the preference, cut to the queue count. -/
theorem pickNumaLocalCores_eq (queueCount : UInt32) :
    pickNumaLocalCores nicNuma (orderPrimariesFirst cpus) queueCount =
      ((sortByRank (placementRank nicNuma) cpus).take queueCount.toNat).map Prod.fst := by
  have sorted : sortByRank (placementRank nicNuma) cpus =
      bucket (placementRank nicNuma) (preference true true) cpus ++
        bucket (placementRank nicNuma) (preference true false) cpus ++
        (bucket (placementRank nicNuma) (preference false true) cpus ++
          bucket (placementRank nicNuma) (preference false false) cpus) := by
    rw [sortByRank_eq_buckets (placementRank nicNuma) fun cpu (_ : cpu ∈ cpus) => preference_lt _ _]
    simp [List.range_succ, preference]
  have near := filter_orderPrimariesFirst cpus fun numa => decide (numa = nicNuma) == true
  have far := filter_orderPrimariesFirst cpus fun numa => decide (numa = nicNuma) == false
  simp only [pickNumaLocalCores, splitByNode_eq, List.nil_append]
  rw [near, far, ← List.map_append, List.map_take, sorted]
  simp only [bucket_placementRank]

/-- As many cores are picked as there are queues, or all of them. -/
theorem pickNumaLocalCores_length (queueCount : UInt32) :
    (pickNumaLocalCores nicNuma (orderPrimariesFirst cpus) queueCount).length =
      min queueCount.toNat cpus.length := by
  rw [pickNumaLocalCores_eq, List.length_map, List.length_take,
    (sortByRank_perm (placementRank nicNuma) cpus).length_eq]

/-- No core is picked twice. -/
theorem pickNumaLocalCores_nodup {cpus : List (Nat × Int32 × Bool)} (queueCount : UInt32)
    (distinct : (cpus.map Prod.fst).Nodup) :
    (pickNumaLocalCores nicNuma (orderPrimariesFirst cpus) queueCount).Nodup := by
  rw [pickNumaLocalCores_eq, List.map_take]
  apply List.Nodup.sublist (List.take_sublist _ _)
  exact ((sortByRank_perm (placementRank nicNuma) cpus).map Prod.fst).nodup_iff.mpr distinct

/-- No more workers than CPUs are asked for, also where the core count is cut to 32 bits. -/
theorem resolveThreadCount_le (hwQueues requested : UInt32) (availableCores : Nat) :
    (resolveThreadCount hwQueues requested availableCores).toNat ≤ availableCores := by
  have clamped : resolveThreadCount hwQueues requested availableCores ≤
      UInt32.ofNat availableCores := Std.min_le_right
  rw [UInt32.le_iff_toNat_le, UInt32.toNat_ofNat'] at clamped
  exact clamped.trans (Nat.mod_le _ _)

/-- With enough cores, none is looked up out of range. -/
theorem threadConfigs_returns {cores : List Nat} {start count : Nat}
    (inside : start + count ≤ cores.length) : (threadConfigs cores start count).Returns := by
  induction count generalizing start with
  | zero => exact Checked.returns_ok _
  | succ count ih =>
    have here : start < cores.length := by omega
    apply Checked.Returns.bind
    · rw [coreAt, List.getElem?_eq_getElem here]
      exact Checked.returns_ok _
    · intro core _
      apply Checked.Returns.bind (ih (by omega))
      intro rest _
      exact Checked.returns_ok _

/-- Planning never panics. -/
theorem planThreads_returns (host : Host) (queues : Option (UInt32 × UInt32))
    (maxThreads : Option UInt32) : (planThreads host queues maxThreads).Returns := by
  unfold planThreads
  simp only
  split
  · exact Checked.returns_ok _
  · next count accepted =>
    have clamped : count.toNat ≤ host.cores := by
      simp only [nonZeroWorkerCount] at accepted
      split at accepted
      · cases accepted
      · cases accepted
        exact resolveThreadCount_le _ _ _
    have listed : host.cpusWithSmt.length = host.cores := by simp [Host.cpusWithSmt]
    apply Checked.Returns.bind
    · apply threadConfigs_returns
      rw [selectCores, pickNumaLocalCores_length, listed]
      omega
    · intro threads _
      exact Checked.returns_ok _

end Placement

/-- The cores are the most preferred CPUs, in the order of a stable sort by preference. They are
distinct, there is one for every worker that `resolve_thread_count` allows, and `plan_threads`
never indexes past them. -/
theorem cores_follow_preference (cpus : List (Nat × Int32 × Bool))
    (distinct : (cpus.map Prod.fst).Nodup) (nicNuma : Int32) (queueCount : UInt32) :
    pickNumaLocalCores nicNuma (orderPrimariesFirst cpus) queueCount =
        ((sortByRank (placementRank nicNuma) cpus).take (min queueCount.toNat cpus.length)).map
          Prod.fst ∧
      (pickNumaLocalCores nicNuma (orderPrimariesFirst cpus) queueCount).Nodup ∧
      (∀ hwQueues requested, ∀ index <
          (resolveThreadCount hwQueues requested cpus.length).toNat,
        index < (pickNumaLocalCores nicNuma (orderPrimariesFirst cpus)
          (resolveThreadCount hwQueues requested cpus.length)).length) ∧
      ∀ host queues maxThreads, (planThreads host queues maxThreads).Returns := by
  refine ⟨?_, pickNumaLocalCores_nodup nicNuma queueCount distinct, ?_, planThreads_returns⟩
  · have length := (sortByRank_perm (placementRank nicNuma) cpus).length_eq
    rw [pickNumaLocalCores_eq, ← length, ← List.take_eq_take_min]
  · intro hwQueues requested index inside
    have clamped := resolveThreadCount_le hwQueues requested cpus.length
    rw [pickNumaLocalCores_length]
    omega

/-- Two nodes with two physical cores; CPUs 4 and 5 are the siblings of CPUs 0 and 1. -/
def sampleCpus : List (Nat × Int32 × Bool) :=
  [(0, 1, true), (1, 0, true), (2, 1, true), (3, 0, true), (4, 1, false), (5, 0, false)]

/-- Of six CPUs on two nodes, the three of the card's node come first, its sibling last. -/
theorem sample_cores_follow_preference :
    pickNumaLocalCores 1 (orderPrimariesFirst sampleCpus) 4 = [0, 2, 4, 1] ∧
      pickNumaLocalCores 1 (orderPrimariesFirst sampleCpus) 4 =
        ((sortByRank (placementRank 1) sampleCpus).take 4).map Prod.fst :=
  ⟨by decide, (cores_follow_preference sampleCpus (by decide) 1 4).1⟩

end Pesigitg
