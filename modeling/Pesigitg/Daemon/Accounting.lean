import Mathlib.Algebra.BigOperators.Fin
import Pesigitg.Daemon.Worker

/-!
# The counters account for every frame

Each counter is the number of handled frames of some kind. `BatchStats.counting` is
that reading of the counters; recording a frame extends the lists it counts over, a
flush joins them, and so does the sum over the workers' slots. What the counters
say about each other is then a fact about the kinds of frames.
-/

namespace Pesigitg

open Base

/-- What the worker counts about one frame. -/
structure Fate where
  action : Action
  outcome : Outcome
  detail : Detail
deriving DecidableEq, Repr

def Handled.fate (handled : Handled) : Fate := ⟨handled.action, handled.outcome, handled.detail⟩

namespace Action

/-- The config a frame was routed by. -/
def cidConfig : Action → Option UInt8
  | .verdict (.cidForward configId) | .verdict (.cidForwardDraining configId) => some configId
  | _ => none

def routedBy (id : Nat) (action : Action) : Bool := action.cidConfig.map (·.toNat) = some id

def isDraining : Action → Bool
  | .verdict (.cidForwardDraining _) => true
  | _ => false

def isForwarded : Action → Bool
  | .verdict (.cidForward _) | .verdict (.cidForwardDraining _) | .verdict .fallbackForward
  | .verdict .icmpForward => true
  | _ => false

/-- A frame is forwarded by its CID, by the fallback or as an ICMP error. -/
theorem isForwarded_eq (action : Action) : action.isForwarded =
    (action.cidConfig.isSome || action = .verdict .fallbackForward ||
      action = .verdict .icmpForward) := by
  cases action with
  | emitted => rfl
  | verdict verdict => cases verdict <;> rfl

end Action

/-- The number of items of a kind, as a counter holds it. -/
def tallyOf {Item : Type} (kind : Item → Bool) (items : List Item) : UInt64 :=
  UInt64.ofNat (items.countP kind)

section Tallies

variable {Item : Type} (kind : Item → Bool)

/-- No items, none of a kind. -/
@[simp] theorem tallyOf_nil : tallyOf kind [] = 0 := rfl

/-- Tallies add up over lists. -/
@[simp] theorem tallyOf_append (items more : List Item) :
    tallyOf kind (items ++ more) = tallyOf kind items + tallyOf kind more := by
  simp [tallyOf]

/-- One item counts once if it is of the kind. -/
@[simp] theorem tallyOf_single (item : Item) :
    tallyOf kind [item] = if kind item then 1 else 0 := by
  by_cases counts : kind item <;> simp [tallyOf, counts]

end Tallies

/-- The counters that frames with these actions and classifications leave. -/
def BatchStats.counting (actions : List Action) (retries : List (Outcome × Detail)) : BatchStats where
  forwarded := tallyOf Action.isForwarded actions
  cidRouted := tallyOf (·.cidConfig.isSome) actions
  cidByConfig := fun id => tallyOf (Action.routedBy id.val) actions
  fallbackRouted := tallyOf (· = .verdict .fallbackForward) actions
  cidUnroutableNoServer := tallyOf (· = .verdict .cidUnroutableNoServer) actions
  cidUnroutableBadServerId := tallyOf (· = .verdict .cidUnroutableBadServerId) actions
  drainingForwarded := tallyOf Action.isDraining actions
  icmpForwarded := tallyOf (· = .verdict .icmpForward) actions
  passed := tallyOf (· = .verdict .pass) actions
  retryInitialsSeen := tallyOf (·.2 ≠ .none) retries
  retryIssued := tallyOf (fun retry => retry.2 ≠ .none ∧ retry.1 = .emitted) retries
  retryTokenValidated := tallyOf (·.2 = .tokenValid) retries
  retryTokenInvalid := tallyOf (·.2 = .tokenInvalid) retries
  retryTokenExpired := tallyOf (·.2 = .tokenExpired) retries
  retryParseError := tallyOf (·.2 = .parseError) retries

namespace BatchStats

variable (actions : List Action) (retries : List (Outcome × Detail))

/-- Recording a classification counts it. -/
theorem recordRetry_counting (outcome : Outcome) (detail : Detail) :
    (counting actions retries).recordRetry outcome detail =
      counting actions (retries ++ [(outcome, detail)]) := by
  by_cases emitted : outcome = .emitted
  · cases detail <;> simp [recordRetry, counting, emitted]
  · cases detail <;> simp [recordRetry, counting, emitted]

/-- The per-config counters, one of them raised. -/
theorem cidByConfig_update {configId : UInt8} {action : Action}
    (config : action.cidConfig = some configId) (inside : configId.toNat < 7) :
    Function.update (counting actions retries).cidByConfig ⟨configId.toNat, inside⟩
        ((counting actions retries).cidByConfig ⟨configId.toNat, inside⟩ + 1) =
      (counting (actions ++ [action]) retries).cidByConfig := by
  ext1 id
  by_cases same : id = ⟨configId.toNat, inside⟩
  · subst same
    simp [counting, Action.routedBy, config]
  · have distinct : configId.toNat ≠ id.val := fun equal => same (Fin.ext equal.symm)
    simp [counting, Action.routedBy, config, same, distinct]

/-- A forward by CID counts everything about the frame but the draining. -/
theorem recordCidForward_counting {configId : UInt8} {stats : BatchStats} {action : Action}
    (routed : action = .verdict (.cidForward configId) ∨
      action = .verdict (.cidForwardDraining configId))
    (done : (counting actions retries).recordCidForward configId = .ok stats) :
    configId.toNat < 7 ∧ stats =
      { counting (actions ++ [action]) retries with
        drainingForwarded := tallyOf Action.isDraining actions } := by
  have config : action.cidConfig = some configId := by
    rcases routed with rfl | rfl <;> rfl
  unfold recordCidForward at done
  split at done
  · next inside =>
    cases done
    refine ⟨inside, ?_⟩
    rw [cidByConfig_update actions retries config inside]
    rcases routed with rfl | rfl <;>
      simp [counting, Action.isForwarded_eq, Action.cidConfig]
  · cases done

end BatchStats

/-- Dispatching a frame counts its action. -/
theorem Batch.dispatch_counting {Frame : Type} {batch result : Batch Frame} {desc : Frame}
    {action : Action} {actions : List Action} {retries : List (Outcome × Detail)}
    (stats : batch.stats = .counting actions retries)
    (done : batch.dispatch desc action = .ok result) :
    action.Counted ∧ result.stats = .counting (actions ++ [action]) retries := by
  cases action with
  | emitted =>
    cases done
    refine ⟨trivial, ?_⟩
    simp [Batch.send, stats, BatchStats.counting, Action.isForwarded_eq, Action.cidConfig,
      Action.routedBy, Action.isDraining]
  | verdict verdict =>
    cases verdict with
    | cidForward configId =>
      simp only [dispatch, Checked.bind_eq_ok_iff, stats] at done
      obtain ⟨recorded, recording, done⟩ := done
      cases done
      obtain ⟨inside, rfl⟩ :=
        BatchStats.recordCidForward_counting actions retries (.inl rfl) recording
      refine ⟨inside, ?_⟩
      simp [Batch.send, BatchStats.counting, Action.isDraining]
    | cidForwardDraining configId =>
      simp only [dispatch, Checked.bind_eq_ok_iff, stats] at done
      obtain ⟨recorded, recording, done⟩ := done
      cases done
      obtain ⟨inside, rfl⟩ :=
        BatchStats.recordCidForward_counting actions retries (.inr rfl) recording
      refine ⟨inside, ?_⟩
      simp [Batch.send, BatchStats.recordDrainingForward, BatchStats.counting, Action.isDraining]
    | fallbackForward =>
      cases done
      refine ⟨trivial, ?_⟩
      simp [Batch.send, stats, BatchStats.recordFallbackForward, BatchStats.counting,
        Action.isForwarded_eq, Action.cidConfig, Action.routedBy, Action.isDraining]
    | icmpForward =>
      cases done
      refine ⟨trivial, ?_⟩
      simp [Batch.send, stats, BatchStats.recordIcmpForward, BatchStats.counting,
        Action.isForwarded_eq, Action.cidConfig, Action.routedBy, Action.isDraining]
    | cidUnroutableNoServer =>
      cases done
      refine ⟨trivial, ?_⟩
      simp [Batch.recycle, stats, BatchStats.recordCidUnroutableNoServer, BatchStats.counting,
        Action.isForwarded_eq, Action.cidConfig, Action.routedBy, Action.isDraining]
    | cidUnroutableBadServerId =>
      cases done
      refine ⟨trivial, ?_⟩
      simp [Batch.recycle, stats, BatchStats.recordCidUnroutableBadServerId, BatchStats.counting,
        Action.isForwarded_eq, Action.cidConfig, Action.routedBy, Action.isDraining]
    | pass =>
      cases done
      refine ⟨trivial, ?_⟩
      simp [Batch.recycle, stats, BatchStats.recordPass, BatchStats.counting,
        Action.isForwarded_eq, Action.cidConfig, Action.routedBy, Action.isDraining]

/-- Counters wrap as the source's additions do. -/
theorem addCounter_eq (total count : UInt64) : addCounter total count = total + count := by
  unfold addCounter
  split
  · rfl
  · next zero =>
    have none : count = 0 := by simpa [UInt64.pos_iff_ne_zero] using zero
    simp [none]

/-- A counter below the width of the machine word is the number it counts. -/
theorem toNat_tallyOf {Item : Type} (kind : Item → Bool) {items : List Item}
    (bounded : items.length < 2 ^ 64) : (tallyOf kind items).toNat = items.countP kind := by
  have inside := items.countP_le_length (p := kind)
  rw [tallyOf, UInt64.toNat_ofNat', Nat.mod_eq_of_lt (by omega)]

/-- A flush joins what the slot and the batch count. -/
theorem BatchStats.flush_counting (actions : List Action) (retries : List (Outcome × Detail))
    {more : List Action} (later : List (Outcome × Detail)) (bounded : more.length < 2 ^ 64)
    (rx peak : UInt64) :
    (counting more later).flush ⟨rx, counting actions retries, peak⟩ =
      ⟨rx, counting (actions ++ more) (retries ++ later), peak⟩ := by
  have byConfig : ∀ id : Fin 7, ¬ 0 < (counting more later).cidRouted →
      (counting more later).cidByConfig id = 0 := by
    intro id zero
    have none : more.countP (·.cidConfig.isSome) = 0 := by
      rw [← toNat_tallyOf _ bounded]
      have empty : tallyOf (·.cidConfig.isSome) more = 0 := by
        simpa [counting, UInt64.pos_iff_ne_zero] using zero
      rw [empty]
      rfl
    have noneHere : more.countP (Action.routedBy id.val) = 0 := by
      rw [List.countP_eq_zero] at none ⊢
      intro action inside routed
      refine none action inside ?_
      cases config : action.cidConfig with
      | none => simp [Action.routedBy, config] at routed
      | some configId => rfl
    simp [counting, tallyOf, noneHere]
  simp only [flush, addCounter_eq, WorkerStats.mk.injEq, true_and, and_true]
  apply BatchStats.ext
  case cidByConfig =>
    ext1 id
    split
    · simp [counting]
    · next zero =>
      have unchanged : tallyOf (Action.routedBy id.val) more = 0 := byConfig id zero
      simp [counting, unchanged]
  all_goals simp [counting]

/-! ## What the worker loop counts -/

namespace Fate

def retry (fate : Fate) : Outcome × Detail := (fate.outcome, fate.detail)

/-- A frame is sent back as a Retry exactly when the classifier says so, and then it was
an Initial. -/
structure Classified (fate : Fate) : Prop where
  emitted_iff : fate.action = .emitted ↔ fate.outcome = .emitted
  seen : fate.outcome = .emitted → fate.detail ≠ .none

end Fate

/-- A pipeline whose reports to the counters fit together. -/
def Pipeline.Classifies (pipeline : Pipeline) : Prop :=
  ∀ round view conn pending handled, pipeline round view conn pending = .ok handled →
    handled.fate.Classified

/-- The classifier's details name what it saw. -/
theorem classify_detail {crypto : RetryCrypto} {initial : Quic.Initial} {srcIp : IpAddr}
    {retry : RetryConfig} {nowMs pending pending' : UInt64} {decision : Decision} {detail : Detail}
    (decided : classify crypto initial srcIp retry nowMs pending =
      .ok ((decision, detail), pending')) : detail ≠ .none := by
  unfold classify at decided
  split at decided
  · split at decided
    · cases decided
      simp
    all_goals
      simp only [Checked.bind_eq_ok_iff] at decided
      obtain ⟨⟨gated, counted⟩, -, done⟩ := decided
      cases done
      simp
  · unfold classifyTokenless at decided
    split at decided
    · cases decided
      simp
    · cases decided
      simp
    · simp only [Checked.bind_eq_ok_iff] at decided
      obtain ⟨⟨triggered, counted⟩, -, done⟩ := decided
      cases triggered <;> cases done <;> simp

/-- A frame that was answered in place has a detail to count. -/
theorem tryHandle_detail {crypto : RetryCrypto} {view after : FrameView} {parsed : ParsedFrame}
    {table : ConfigTable} {localMac : Mac} {nowMs pending pending' : UInt64} {detail : Detail}
    (tried : tryHandle crypto view parsed table localMac nowMs pending =
      .ok ((.emitted, detail), after, pending')) : detail ≠ .none := by
  cases tryHandle_exit tried with
  | classified _ _ _ _ _ decided _ => exact classify_detail decided

/-- What the worker's pipeline reports about a frame fits together: a frame is answered in place
exactly if the Retry path answered it. -/
theorem handleFrame_classifies (crypto : RetryCrypto) (aes : Aes128) (hash : FlowKey → UInt64)
    (localMac : Mac) : (handleFrame crypto aes hash localMac).Classifies := by
  intro round view conn pending handled done
  rcases handleFrame_cases done with ⟨-, rfl⟩ |
    ⟨parsed, outcome, detail, after, counted, -, tried, handling⟩
  · exact ⟨by simp [Handled.fate], by simp [Handled.fate]⟩
  rcases handling with ⟨rfl, rfl⟩ | ⟨notEmitted, verdict, contents, routed, -, rfl⟩
  · exact ⟨by simp [Handled.fate], fun _ => tryHandle_detail tried⟩
  · exact ⟨by simp [Handled.fate, notEmitted], fun emitted => absurd emitted notEmitted⟩

/-- The counters hold what these frames give, and the frames fit together. -/
structure CountedFrames (stats : BatchStats) (fates : List Fate) : Prop where
  counts : stats = .counting (fates.map Fate.action) (fates.map Fate.retry)
  classified : ∀ fate ∈ fates, fate.Classified
  counted : ∀ fate ∈ fates, fate.action.Counted

/-- An empty batch has counted nothing. -/
theorem CountedFrames.new : CountedFrames .new [] := ⟨rfl, by simp, by simp⟩

/-- Two stretches of a batch are counted together. -/
theorem CountedFrames.append {stats more both : BatchStats} {fates later : List Fate}
    (first : CountedFrames stats fates) (second : CountedFrames more later)
    (counts : both =
      .counting ((fates ++ later).map Fate.action) ((fates ++ later).map Fate.retry)) :
    CountedFrames both (fates ++ later) where
  counts := counts
  classified fate inside :=
    (List.mem_append.mp inside).elim (first.classified fate) (second.classified fate)
  counted fate inside :=
    (List.mem_append.mp inside).elim (first.counted fate) (second.counted fate)

section Loop

variable {Socket Frame : Type} {socket : AfXdpSocket Socket Frame} {pipeline : Pipeline}

/-- The frame loop counts each of its frames once. -/
theorem frameLoop_counted (classifies : pipeline.Classifies) {round : Round}
    {descs handled : List Frame} {xsk after : Socket} {conn conn' : ConnectionTable}
    {batch batch' : Batch Frame} {fates : List Fate} (before : CountedFrames batch.stats fates)
    (done : frameLoop socket pipeline round descs xsk conn batch =
      .ok (handled, after, conn', batch')) :
    ∃ more : List Fate, more.length = descs.length ∧ CountedFrames batch'.stats (fates ++ more) := by
  induction descs generalizing xsk conn batch handled fates with
  | nil =>
    cases done
    exact ⟨[], rfl, by simpa using before⟩
  | cons desc rest ih =>
    obtain ⟨outcome, next, written, dealt, tail, step, looped, rfl⟩ := frameLoop_cons_iff.mp done
    have recorded : batch.stats.recordRetry outcome.outcome outcome.detail =
        .counting (fates.map Fate.action) ((fates ++ [outcome.fate]).map Fate.retry) := by
      rw [before.counts, BatchStats.recordRetry_counting]
      simp [Fate.retry, Handled.fate]
    obtain ⟨counted, stats⟩ := Batch.dispatch_counting recorded step.dispatched
    have own : CountedFrames (.counting [outcome.action] [outcome.fate.retry]) [outcome.fate] := by
      refine ⟨rfl, ?_, ?_⟩
      · simpa using classifies _ _ _ _ _ step.piped
      · simpa [Handled.fate] using counted
    have through : CountedFrames dealt.stats (fates ++ [outcome.fate]) :=
      before.append own (by simpa [Handled.fate] using stats)
    obtain ⟨more, sized, all⟩ := ih through looped
    refine ⟨outcome.fate :: more, by simp [sized], ?_⟩
    simpa using all

variable {state next : WorkerState Socket Frame} {round : Round} {log : RoundLog Frame}

/-- What one iteration does to the worker's slot. -/
theorem workerIteration_stats
    (done : workerIteration socket pipeline state round = .ok (next, log)) :
    (log.received = [] ∧ next.stats = state.stats) ∨
    ∃ xsk after handled conn conn' batch depth,
      frameLoop socket pipeline round log.received xsk conn .empty =
        .ok (handled, after, conn', batch) ∧
      next.stats = (batch.stats.flush
        (state.stats.recordRx (UInt64.ofNat log.received.length))).recordPendingFill depth := by
  cases workerIteration_iff.mp done with
  | idle refilled drained polled => exact .inl ⟨rfl, rfl⟩
  | @served _ _ _ _ _ _ _ _ _ _ kept _ _ _ refilled drained polled some inside looped returned =>
    refine .inr ⟨_, _, _, _, _, _, UInt64.ofNat kept.length, looped, ?_⟩
    rw [List.length_take_of_le inside]

/-- The slot counts these frames. -/
structure SlotCounts (stats : WorkerStats) (fates : List Fate) : Prop where
  rx : stats.rxPackets = UInt64.ofNat fates.length
  frames : CountedFrames stats.totals fates

/-- A new slot has counted nothing. -/
theorem SlotCounts.new : SlotCounts .new [] := ⟨rfl, .new⟩

/-- The peak of the pending frames is not a count of frames. -/
theorem SlotCounts.recordPendingFill {stats : WorkerStats} {fates : List Fate}
    (slot : SlotCounts stats fates) (depth : UInt64) :
    SlotCounts (stats.recordPendingFill depth) fates := by
  unfold WorkerStats.recordPendingFill
  split
  · exact ⟨slot.rx, slot.frames⟩
  · exact slot

/-- A flush adds the counts of its batch to the slot's. -/
theorem SlotCounts.flush {stats : WorkerStats} {batch : BatchStats} {fates more : List Fate}
    (slot : SlotCounts stats fates) (counted : CountedFrames batch more)
    (bounded : more.length < 2 ^ 64) :
    SlotCounts (batch.flush (stats.recordRx (UInt64.ofNat more.length))) (fates ++ more) := by
  obtain ⟨rx, totals, peak⟩ := stats
  obtain ⟨rfl, frames⟩ := slot
  obtain rfl : totals = _ := frames.counts
  obtain rfl := counted.counts
  have small : (more.map Fate.action).length < 2 ^ 64 := by simpa using bounded
  rw [WorkerStats.recordRx, BatchStats.flush_counting _ _ _ small]
  exact ⟨by simp, frames.append counted (by simp)⟩

/-- The step: an iteration counts the frames it received. -/
theorem workerIteration_counted (classifies : pipeline.Classifies) {fates : List Fate}
    (slot : SlotCounts state.stats fates)
    (done : workerIteration socket pipeline state round = .ok (next, log))
    (bounded : log.received.length < 2 ^ 64) :
    ∃ more : List Fate, more.length = log.received.length ∧
      SlotCounts next.stats (fates ++ more) := by
  rcases workerIteration_stats done with
    ⟨idle, same⟩ | ⟨xsk, after, handled, conn, conn', batch, depth, looped, flushed⟩
  · exact ⟨[], by simp [idle], by simpa [same] using slot⟩
  · obtain ⟨more, sized, counted⟩ := frameLoop_counted classifies CountedFrames.new looped
    refine ⟨more, sized, ?_⟩
    rw [flushed, ← sized]
    exact (slot.flush (by simpa using counted) (by omega)).recordPendingFill depth

/-- The run: the slot counts every frame received. -/
theorem workerLoop_counted (classifies : pipeline.Classifies) {rounds : List Round}
    {logs : List (RoundLog Frame)} {fates : List Fate} (slot : SlotCounts state.stats fates)
    (done : workerLoop socket pipeline state rounds = .ok (next, logs))
    (bounded : (logs.map (·.received.length)).sum < 2 ^ 64) :
    ∃ more : List Fate, more.length = (logs.map (·.received.length)).sum ∧
      SlotCounts next.stats (fates ++ more) := by
  induction rounds generalizing state logs fates with
  | nil =>
    cases done
    exact ⟨[], rfl, by simpa using slot⟩
  | cons round rest ih =>
    obtain ⟨middle, log, tail, stepped, looped, rfl⟩ := workerLoop_cons_iff.mp done
    simp only [List.map_cons, List.sum_cons] at bounded ⊢
    obtain ⟨now, nowSized, nowCounted⟩ :=
      workerIteration_counted classifies slot stepped (by omega)
    obtain ⟨later, laterSized, counted⟩ := ih nowCounted looped (by omega)
    exact ⟨now ++ later, by simp [nowSized, laterSized], by simpa using counted⟩

end Loop

/-! ## What the counters say about each other -/

/-- The accounts of one slot, or of the aggregate. -/
structure CountersAgree (rxPackets : UInt64) (totals : BatchStats) : Prop where
  received : rxPackets.toNat = totals.forwarded.toNat + totals.cidUnroutableNoServer.toNat +
    totals.cidUnroutableBadServerId.toNat + totals.passed.toNat + totals.retryIssued.toNat
  forwarded : totals.forwarded.toNat =
    totals.cidRouted.toNat + totals.fallbackRouted.toNat + totals.icmpForwarded.toNat
  byConfig : totals.cidRouted.toNat = ∑ id, (totals.cidByConfig id).toNat
  draining : totals.drainingForwarded ≤ totals.cidRouted
  issued : totals.retryIssued ≤ totals.retryInitialsSeen
  tokens : totals.retryTokenValidated.toNat + totals.retryTokenInvalid.toNat +
    totals.retryTokenExpired.toNat + totals.retryParseError.toNat ≤ totals.retryInitialsSeen.toNat

section Kinds

variable {fates : List Fate} {actions : List Action} {retries : List (Outcome × Detail)}

/-- A frame is of exactly one kind. -/
theorem Fate.Classified.one_kind {fate : Fate} (classified : fate.Classified) :
    (if fate.action.isForwarded then 1 else 0) +
      (if decide (fate.action = .verdict .cidUnroutableNoServer) then 1 else 0) +
      (if decide (fate.action = .verdict .cidUnroutableBadServerId) then 1 else 0) +
      (if decide (fate.action = .verdict .pass) then 1 else 0) +
      (if decide (fate.retry.2 ≠ .none ∧ fate.retry.1 = .emitted) then 1 else 0) = 1 := by
  cases kind : fate.action with
  | emitted =>
    have emitted := classified.emitted_iff.mp kind
    simp [Fate.retry, emitted, classified.seen emitted, Action.isForwarded_eq, Action.cidConfig]
  | verdict verdict =>
    have notEmitted : fate.outcome ≠ .emitted := by simp [← classified.emitted_iff, kind]
    cases verdict <;> simp [Fate.retry, notEmitted, Action.isForwarded_eq, Action.cidConfig]

/-- Every frame is forwarded, unroutable in one of the two ways, passed, or answered. -/
theorem length_eq_kinds (classified : ∀ fate ∈ fates, fate.Classified) :
    fates.length = (fates.map Fate.action).countP Action.isForwarded +
      (fates.map Fate.action).countP (· = .verdict .cidUnroutableNoServer) +
      (fates.map Fate.action).countP (· = .verdict .cidUnroutableBadServerId) +
      (fates.map Fate.action).countP (· = .verdict .pass) +
      (fates.map Fate.retry).countP (fun retry => retry.2 ≠ .none ∧ retry.1 = .emitted) := by
  induction fates with
  | nil => rfl
  | cons fate rest ih =>
    have rested := ih fun other inside => classified other (List.mem_cons_of_mem _ inside)
    have one := (classified fate List.mem_cons_self).one_kind
    simp only [List.length_cons, List.map_cons, List.countP_cons]
    omega

/-- A forwarded frame was routed by its CID, by the fallback or as an ICMP error. -/
theorem forwarded_eq_kinds (actions : List Action) :
    actions.countP Action.isForwarded = actions.countP (·.cidConfig.isSome) +
      actions.countP (· = .verdict .fallbackForward) +
      actions.countP (· = .verdict .icmpForward) := by
  induction actions with
  | nil => rfl
  | cons action rest ih =>
    simp only [List.countP_cons, ih]
    cases action with
    | emitted => simp [Action.isForwarded_eq, Action.cidConfig]
    | verdict verdict =>
      cases verdict <;> simp [Action.isForwarded_eq, Action.cidConfig] <;> omega

/-- A config that was counted has one of the seven places. -/
theorem Action.Counted.cidConfig_lt {action : Action} (counted : action.Counted)
    {configId : UInt8} (config : action.cidConfig = some configId) : configId.toNat < 7 := by
  cases action with
  | emitted => cases config
  | verdict verdict =>
    cases verdict with
    | cidForward id | cidForwardDraining id =>
      cases config
      exact counted
    | _ => cases config

/-- A frame routed by its CID was routed by one of the configs. -/
theorem cidRouted_eq_sum (counted : ∀ action ∈ actions, action.Counted) :
    actions.countP (·.cidConfig.isSome) =
      ∑ id : Fin 7, actions.countP (Action.routedBy id.val) := by
  induction actions with
  | nil => rfl
  | cons action rest ih =>
    have rested := ih fun other inside => counted other (List.mem_cons_of_mem _ inside)
    simp only [List.countP_cons, Finset.sum_add_distrib, rested, Nat.add_left_cancel_iff]
    cases config : action.cidConfig with
    | none => simp [Action.routedBy, config]
    | some configId =>
      have inside := (counted action List.mem_cons_self).cidConfig_lt config
      have only : ∀ id : Fin 7, (if action.routedBy id.val then 1 else 0) =
          if id = ⟨configId.toNat, inside⟩ then 1 else 0 := by
        intro id
        simp [Action.routedBy, config, Fin.ext_iff, eq_comm]
      simp [only]

/-- An Initial is counted under at most one of the token outcomes. -/
theorem tokens_le_seen (retries : List (Outcome × Detail)) :
    retries.countP (·.2 = .tokenValid) + retries.countP (·.2 = .tokenInvalid) +
      retries.countP (·.2 = .tokenExpired) + retries.countP (·.2 = .parseError) ≤
      retries.countP (·.2 ≠ .none) := by
  induction retries with
  | nil => simp
  | cons retry rest ih =>
    have one : (if decide (retry.2 = .tokenValid) then 1 else 0) +
        (if decide (retry.2 = .tokenInvalid) then 1 else 0) +
        (if decide (retry.2 = .tokenExpired) then 1 else 0) +
        (if decide (retry.2 = .parseError) then 1 else 0) ≤
        if decide (retry.2 ≠ .none) then 1 else 0 := by
      cases retry.2 <;> simp
    simp only [List.countP_cons]
    omega

/-- Frames whose number fits the counters leave counters that agree. -/
theorem CountedFrames.agree {stats : BatchStats} (frames : CountedFrames stats fates)
    (bounded : fates.length < 2 ^ 64) : CountersAgree (UInt64.ofNat fates.length) stats := by
  have actionsBounded : (fates.map Fate.action).length < 2 ^ 64 := by simpa using bounded
  have retriesBounded : (fates.map Fate.retry).length < 2 ^ 64 := by simpa using bounded
  have inUse : ∀ action ∈ fates.map Fate.action, action.Counted := by
    intro action inside
    obtain ⟨fate, among, rfl⟩ := List.mem_map.mp inside
    exact frames.counted fate among
  obtain rfl := frames.counts
  constructor
  · simp only [BatchStats.counting, toNat_tallyOf _ actionsBounded, toNat_tallyOf _ retriesBounded,
      UInt64.toNat_ofNat', Nat.mod_eq_of_lt bounded]
    exact length_eq_kinds frames.classified
  · simp only [BatchStats.counting, toNat_tallyOf _ actionsBounded]
    exact forwarded_eq_kinds _
  · simp only [BatchStats.counting, toNat_tallyOf _ actionsBounded]
    exact cidRouted_eq_sum inUse
  · rw [UInt64.le_iff_toNat_le]
    simp only [BatchStats.counting, toNat_tallyOf _ actionsBounded]
    refine List.countP_mono_left fun action _ draining => ?_
    cases action with
    | emitted => cases draining
    | verdict verdict => cases verdict <;> first | rfl | cases draining
  · rw [UInt64.le_iff_toNat_le]
    simp only [BatchStats.counting, toNat_tallyOf _ retriesBounded]
    exact List.countP_mono_left fun retry _ issued => by simp_all
  · simp only [BatchStats.counting, toNat_tallyOf _ retriesBounded]
    exact tokens_le_seen _

end Kinds

/-! ## All workers -/

/-- The aggregate of slots that count these frames counts all of them. -/
theorem aggregate_counted {slots : List WorkerStats} {runs : List (List Fate)}
    (counted : List.Forall₂ SlotCounts slots runs) (total : Snapshot) (before : List Fate)
    (rx : total.rxPackets = UInt64.ofNat before.length)
    (frames : CountedFrames total.totals before) :
    (slots.foldl Snapshot.addSlot total).rxPackets =
        UInt64.ofNat (before ++ runs.flatten).length ∧
      CountedFrames (slots.foldl Snapshot.addSlot total).totals (before ++ runs.flatten) := by
  induction counted generalizing total before with
  | nil => simpa using ⟨rx, frames⟩
  | @cons slot fates slots runs own _ ih =>
    have joined : CountedFrames (total.addSlot slot).totals (before ++ fates) := by
      refine frames.append own.frames ?_
      rw [Snapshot.addSlot, frames.counts, own.frames.counts]
      ext : 1 <;> simp [BatchStats.counting]
    have sum : (total.addSlot slot).rxPackets = UInt64.ofNat (before ++ fates).length := by
      simp [Snapshot.addSlot, rx, own.rx]
    simpa using ih (total.addSlot slot) (before ++ fates) sum joined

/-- A worker's slot after some run of its loop from the start, in which it received so many
frames. -/
def SlotReached (crypto : RetryCrypto) (aes : Aes128) (hash : FlowKey → UInt64)
    (stats : WorkerStats) (received : Nat) : Prop :=
  ∃ (Socket Frame : Type) (socket : AfXdpSocket Socket Frame) (localMac : Mac) (xsk : Socket)
    (startedAt : Instant) (rounds : List Round) (final : WorkerState Socket Frame)
    (logs : List (RoundLog Frame)),
    workerLoop socket (handleFrame crypto aes hash localMac) (.start socket xsk startedAt) rounds =
      .ok (final, logs) ∧
    stats = final.stats ∧ received = (logs.map (·.received.length)).sum

/-- A slot that some run reached counts each frame of the run once. -/
theorem SlotReached.counted {crypto : RetryCrypto} {aes : Aes128} {hash : FlowKey → UInt64}
    {stats : WorkerStats} {received : Nat} (reached : SlotReached crypto aes hash stats received)
    (bounded : received < 2 ^ 64) :
    ∃ fates : List Fate, fates.length = received ∧ SlotCounts stats fates := by
  obtain ⟨Socket, Frame, socket, localMac, xsk, startedAt, rounds, final, logs, done, rfl, rfl⟩ :=
    reached
  simpa using workerLoop_counted (handleFrame_classifies crypto aes hash localMac)
    SlotCounts.new done bounded

/-- The frames of all workers. -/
theorem exists_runs {crypto : RetryCrypto} {aes : Aes128} {hash : FlowKey → UInt64}
    {slots : List WorkerStats} {received : List Nat}
    (reached : List.Forall₂ (SlotReached crypto aes hash) slots received)
    (bounded : received.sum < 2 ^ 64) :
    ∃ runs : List (List Fate), List.Forall₂ SlotCounts slots runs ∧
      runs.flatten.length = received.sum := by
  induction reached with
  | nil => exact ⟨[], .nil, rfl⟩
  | cons own _ ih =>
    rw [List.sum_cons] at bounded
    obtain ⟨fates, sized, counts⟩ := own.counted (by omega)
    obtain ⟨runs, counted, total⟩ := ih (by omega)
    refine ⟨fates :: runs, .cons counts counted, ?_⟩
    rw [List.flatten_cons, List.length_append, sized, total, List.sum_cons]

/-- The counters account for every frame, in each worker's slot and in the aggregate, as long as
the number of frames fits a counter. -/
theorem counters_account {crypto : RetryCrypto} {aes : Aes128} {hash : FlowKey → UInt64}
    {slots : List WorkerStats} {received : List Nat}
    (reached : List.Forall₂ (SlotReached crypto aes hash) slots received) :
    List.Forall₂ (fun stats frames => frames < 2 ^ 64 → CountersAgree stats.rxPackets stats.totals)
        slots received ∧
      (received.sum < 2 ^ 64 → CountersAgree (StatsTable.mk slots).aggregate.rxPackets
        (StatsTable.mk slots).aggregate.totals) := by
  constructor
  · refine reached.imp ?_
    intro stats frames own bounded
    obtain ⟨fates, rfl, slot⟩ := own.counted bounded
    rw [slot.rx]
    exact slot.frames.agree bounded
  · intro bounded
    obtain ⟨runs, counted, total⟩ := exists_runs reached bounded
    obtain ⟨rx, frames⟩ := aggregate_counted counted .zero [] rfl .new
    rw [List.nil_append] at rx frames
    rw [StatsTable.aggregate, rx]
    exact frames.agree (total ▸ bounded)

/-- The final state of the sample run. -/
def SampleWorker.final : WorkerState AdoptedSocket XdpDesc :=
  (SampleWorker.run.get SampleWorker.run_isSome).1

/-- The sample's worker reaches its slot in one round of two frames. -/
theorem SampleWorker.slot_reached :
    SlotReached SampleRetry.crypto ⟨fun _ block => block, fun _ block => block⟩ (fun _ => 0)
      SampleWorker.final.stats 2 := by
  refine ⟨AdoptedSocket, XdpDesc, AdoptedSocket.socket SampleWorker.kernel, SampleRetry.localMac,
    SampleWorker.xsk, 0, SampleWorker.rounds, SampleWorker.final,
    (SampleWorker.run.get SampleWorker.run_isSome).2, ?_, rfl, by decide +kernel⟩
  have returned := (Option.some_get SampleWorker.run_isSome).symm
  unfold SampleWorker.final
  generalize SampleWorker.run.get SampleWorker.run_isSome = result at returned ⊢
  exact Checked.toOption_eq_some_iff.mp returned

/-- Two workers that both made the sample run: one Retry and one frame passed in each slot. -/
theorem SampleWorker.counters_account_twice :
    CountersAgree SampleWorker.final.stats.rxPackets SampleWorker.final.stats.totals ∧
      CountersAgree
        (StatsTable.mk [SampleWorker.final.stats, SampleWorker.final.stats]).aggregate.rxPackets
        (StatsTable.mk [SampleWorker.final.stats, SampleWorker.final.stats]).aggregate.totals := by
  have reached := SampleWorker.slot_reached
  generalize SampleWorker.final.stats = stats at reached ⊢
  obtain ⟨slots, total⟩ := counters_account (.cons reached (.cons reached .nil))
  cases slots with
  | cons own _ => exact ⟨own (by decide), total (by decide)⟩

end Pesigitg
