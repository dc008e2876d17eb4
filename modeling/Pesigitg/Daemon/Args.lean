import Pesigitg.Daemon.FileConfig

/-!
# Daemon settings at startup and after reloads

The manual resolves each setting by a ladder: the command line, then the config file, then a
built-in default. At startup `merge_args` walks the ladder, except that it takes a file's port list
even if it is empty. A reload copies the file's record over the settings, so that flags lose to the
file, and so do defaults that stand in the record.
`settings_follow_ladder_iff` says on which flags and files the ladder holds all the same.
-/

namespace Pesigitg

open Base

/-- The flags of the command line. -/
structure CliArgs where
  ports : List UInt16
  interface : Option String
  queues : Option UInt32
  config : Option String
  statusSocket : Option String
  foreground : Bool
deriving DecidableEq, Repr

/-- The settings the daemon runs with. -/
structure Args where
  ports : List UInt16
  interface : String
  queues : UInt32
  config : Option String
  routeconfig : Option String
  statusSocket : Option String
  foreground : Bool
deriving DecidableEq, Repr

/-- `merge_args`. -/
def mergeArgs (cli : CliArgs) (fileConfig : Option FileConfig) : Except String Args :=
  let queues := (cli.queues.or (fileConfig.map (·.queues))).getD defaultQueues
  if queues = 0 ∨ maxQueues < queues then
    .error s!"--queues must be between 1 and {maxQueues}"
  else
    .ok {
      ports :=
        if cli.ports ≠ [] then cli.ports
        else
          match fileConfig with
          | some config => config.ports
          | none => [defaultPort]
      interface := (cli.interface.or (fileConfig.map (·.interface))).getD defaultIntf
      queues := queues
      config := cli.config
      routeconfig := fileConfig.bind (·.routeConfig)
      statusSocket := cli.statusSocket.or (fileConfig.bind (·.statusSocket))
      foreground := cli.foreground }

/-- The files of a moment. -/
abbrev Disk := String → ConfigFile

/-- Why the daemon does not start. -/
inductive StartError where
  | file (failure : FileConfigError)
  | merge (message : String)
deriving DecidableEq, Repr

/-- `parse_args` behind the flag parser. -/
def parseArgs (paths : PathOps) (cli : CliArgs) (disk : Disk) : Except StartError Args :=
  match cli.config with
  | none => (mergeArgs cli none).mapError .merge
  | some path =>
    match FileConfig.fromFile paths path (disk path) with
    | .error failure => .error (.file failure)
    | .ok config => (mergeArgs cli (some config)).mapError .merge

/-- What `reload_config` does to the settings. A file that is not accepted leaves them alone. -/
def Args.reloadConfig (paths : PathOps) (args : Args) (disk : Disk) : Args :=
  match args.config with
  | none => args
  | some path =>
    match FileConfig.fromFile paths path (disk path) with
    | .error _ => args
    | .ok config =>
      { args with ports := config.ports, interface := config.interface, queues := config.queues }

/-- The settings after a number of reloads. -/
def Args.afterReloads (paths : PathOps) (args : Args) (reloads : List Disk) : Args :=
  reloads.foldl (Args.reloadConfig paths) args

section Ladder

variable (cli : CliArgs) (file : Option FileSettings)

def ladderPorts : List UInt16 :=
  if cli.ports ≠ [] then cli.ports
  else
    match file with
    | some settings => if settings.ports ≠ [] then settings.ports else [defaultPort]
    | none => [defaultPort]

def ladderInterface : String :=
  (cli.interface.or (file.bind (·.interface))).getD defaultIntf

def ladderQueues : UInt32 := (cli.queues.or (file.bind (·.queues))).getD defaultQueues

/-- The settings follow the ladder, and there is a port to listen on. -/
structure Args.FollowsLadder (args : Args) : Prop where
  ports : args.ports = ladderPorts cli file
  interface : args.interface = ladderInterface cli file
  queues : args.queues = ladderQueues cli file
  listens : args.ports ≠ []

/-- There is always a port. -/
theorem ladderPorts_ne_nil : ladderPorts cli file ≠ [] := by
  unfold ladderPorts
  split
  · assumption
  · split
    · split
      · assumption
      · simp
    · simp

end Ladder

section Startup

variable {paths : PathOps} {cli : CliArgs} {disk : Disk} {args : Args}

/-- What the merged settings are: the command line's, else the file's, else the defaults. -/
theorem mergeArgs_ok {fileConfig : Option FileConfig} (merged : mergeArgs cli fileConfig = .ok args) :
    (args.ports = if cli.ports ≠ [] then cli.ports else
        (fileConfig.map (·.ports)).getD [defaultPort]) ∧
      args.interface = (cli.interface.or (fileConfig.map (·.interface))).getD defaultIntf ∧
      args.queues = (cli.queues.or (fileConfig.map (·.queues))).getD defaultQueues ∧
      args.config = cli.config := by
  unfold mergeArgs at merged
  by_cases unbindable : (cli.queues.or (fileConfig.map (·.queues))).getD defaultQueues = 0 ∨
      maxQueues < (cli.queues.or (fileConfig.map (·.queues))).getD defaultQueues
  · rw [if_pos unbindable] at merged
    cases merged
  · rw [if_neg unbindable] at merged
    cases merged
    refine ⟨?_, rfl, rfl, rfl⟩
    cases fileConfig <;> rfl

/-- The daemon starts without a config file, or with one that it could read. -/
theorem parseArgs_ok (started : parseArgs paths cli disk = .ok args) :
    (cli.config = none ∧ mergeArgs cli none = .ok args) ∨
      ∃ path config, cli.config = some path ∧
        FileConfig.fromFile paths path (disk path) = .ok config ∧
        mergeArgs cli (some config) = .ok args := by
  have merged {fileConfig : Option FileConfig}
      (done : (mergeArgs cli fileConfig).mapError StartError.merge = .ok args) :
      mergeArgs cli fileConfig = .ok args := by
    cases result : mergeArgs cli fileConfig with
    | error message =>
      rw [result] at done
      cases done
    | ok value =>
      rw [result] at done
      cases done
      rfl
  unfold parseArgs at started
  split at started
  · next none => exact .inl ⟨none, merged started⟩
  · next path given =>
    split at started
    · cases started
    · next config accepted => exact .inr ⟨path, config, given, accepted, merged started⟩

/-- The path of the config file is that of the command line. -/
theorem parseArgs_config (started : parseArgs paths cli disk = .ok args) :
    args.config = cli.config := by
  obtain ⟨-, merged⟩ | ⟨_, _, -, -, merged⟩ := parseArgs_ok started
  · exact (mergeArgs_ok merged).2.2.2
  · exact (mergeArgs_ok merged).2.2.2

end Startup

section Reloads

variable {paths : PathOps} {cli : CliArgs} {disk : Disk} {args : Args} {path : String}

/-- A reload keeps the path of the config file. -/
@[simp] theorem reloadConfig_config :
    (args.reloadConfig paths disk).config = args.config := by
  unfold Args.reloadConfig
  split
  · rfl
  · split <;> rfl

/-- So does any number of them. -/
@[simp] theorem afterReloads_config (reloads : List Disk) :
    (args.afterReloads paths reloads).config = args.config := by
  induction reloads generalizing args with
  | nil => rfl
  | cons disk reloads ih => exact ih.trans reloadConfig_config

/-- Without a config file a reload leaves the settings alone. -/
theorem afterReloads_of_none (none : args.config = none) (reloads : List Disk) :
    args.afterReloads paths reloads = args := by
  induction reloads generalizing args with
  | nil => rfl
  | cons disk reloads ih =>
    have same : args.reloadConfig paths disk = args := by rw [Args.reloadConfig, none]
    rw [Args.afterReloads, List.foldl_cons, same]
    exact ih none

/-- After an accepted file the settings are the record of that file. -/
theorem afterReloads_concat {config : FileConfig} (given : args.config = some path)
    (accepted : FileConfig.fromFile paths path (disk path) = .ok config) (reloads : List Disk) :
    (args.afterReloads paths (reloads ++ [disk])).ports = config.ports ∧
      (args.afterReloads paths (reloads ++ [disk])).interface = config.interface ∧
      (args.afterReloads paths (reloads ++ [disk])).queues = config.queues := by
  have before : (args.afterReloads paths reloads).config = some path := by
    rw [afterReloads_config, given]
  rw [Args.afterReloads, List.foldl_append, List.foldl_cons, List.foldl_nil, ← Args.afterReloads,
    Args.reloadConfig, before]
  simp only [accepted, and_self]

end Reloads

section Main

variable {paths : PathOps} {cli : CliArgs} {disk : Disk} {args : Args}

/-- The file a setting is to be looked up in: the one read last. -/
def currentFile (cli : CliArgs) (disk : Disk) (reloads : List Disk) : Option FileSettings :=
  cli.config.map fun path => ((reloads.getLast?.getD disk) path).settings

/-- The startup file does not leave the daemon without a port. -/
def StartsListening (cli : CliArgs) (disk : Disk) : Prop :=
  cli.ports ≠ [] ∨ ∀ path, cli.config = some path → (disk path).settings.ports ≠ []

/-- The file a reload reads has a port and does not contradict the flags. -/
structure AgreesWithFlags (cli : CliArgs) (settings : FileSettings) : Prop where
  listens : settings.ports ≠ []
  ports : cli.ports ≠ [] → settings.ports = cli.ports
  interface : ∀ name, cli.interface = some name → settings.interface.getD defaultIntf = name
  queues : ∀ count, cli.queues = some count → settings.queues.getD defaultQueues = count

/-- The settings right after startup. -/
theorem startup_followsLadder_iff (started : parseArgs paths cli disk = .ok args) :
    args.FollowsLadder cli (currentFile cli disk []) ↔ StartsListening cli disk := by
  obtain ⟨none, merged⟩ | ⟨path, config, given, accepted, merged⟩ := parseArgs_ok started
  · obtain ⟨ports, interface, queues, -⟩ := mergeArgs_ok merged
    have listening : StartsListening cli disk := .inr (by simp [none])
    have current : currentFile cli disk [] = .none := by simp [currentFile, none]
    rw [current, iff_true_right listening]
    have same : args.ports = ladderPorts cli .none := ports
    exact ⟨same, interface, queues, same ▸ ladderPorts_ne_nil cli .none⟩
  · obtain ⟨ports, interface, queues, -⟩ := mergeArgs_ok merged
    obtain ⟨filePorts, fileInterface, fileQueues, -⟩ := fromFile_settings accepted
    have current : currentFile cli disk [] = some (disk path).settings := by
      simp [currentFile, given]
    have sameInterface : args.interface = ladderInterface cli (some (disk path).settings) := by
      rw [interface, ladderInterface, Option.map_some, fileInterface]
      cases cli.interface <;> simp
    have sameQueues : args.queues = ladderQueues cli (some (disk path).settings) := by
      rw [queues, ladderQueues, Option.map_some, fileQueues]
      cases cli.queues <;> simp
    rw [current]
    constructor
    · intro follows
      by_cases flagged : cli.ports = []
      · refine .inr fun path' given' => ?_
        rw [given] at given'
        cases given'
        have listens := follows.listens
        rwa [ports, if_neg (not_not.mpr flagged), Option.map_some, Option.getD_some,
          filePorts] at listens
      · exact .inl flagged
    · intro listening
      have samePorts : args.ports = ladderPorts cli (some (disk path).settings) := by
        rw [ports, ladderPorts, Option.map_some, Option.getD_some, filePorts]
        rcases listening with flagged | sets
        · rw [if_pos flagged, if_pos flagged]
        · simp only [if_pos (sets path given)]
      exact ⟨samePorts, sameInterface, sameQueues, samePorts ▸ ladderPorts_ne_nil cli _⟩

/-- The settings right after a reload. -/
theorem record_followsLadder_iff {settings : FileSettings} (ports : args.ports = settings.ports)
    (interface : args.interface = settings.interface.getD defaultIntf)
    (queues : args.queues = settings.queues.getD defaultQueues) :
    args.FollowsLadder cli (some settings) ↔ AgreesWithFlags cli settings := by
  constructor
  · intro follows
    have listens := follows.listens
    rw [ports] at listens
    refine ⟨listens, ?_, ?_, ?_⟩
    · intro flagged
      rw [← ports, follows.ports, ladderPorts, if_pos flagged]
    · intro name flagged
      rw [← interface, follows.interface, ladderInterface, flagged]
      rfl
    · intro count flagged
      rw [← queues, follows.queues, ladderQueues, flagged]
      rfl
  · intro agrees
    refine ⟨?_, ?_, ?_, ports ▸ agrees.listens⟩
    · rw [ports, ladderPorts]
      by_cases flagged : cli.ports = []
      · simp only [flagged, ne_eq, not_true_eq_false, if_false, if_pos agrees.listens]
      · rw [if_pos flagged, agrees.ports flagged]
    · rw [interface, ladderInterface]
      cases flagged : cli.interface with
      | none => rfl
      | some name => exact agrees.interface name flagged
    · rw [queues, ladderQueues]
      cases flagged : cli.queues with
      | none => rfl
      | some count => exact agrees.queues count flagged

/-- At startup and after every reload the settings follow the ladder exactly if the startup file
leaves a port to listen on and no reloaded file drops the ports or contradicts the flags. -/
theorem settings_follow_ladder_iff {reloads : List Disk}
    (started : parseArgs paths cli disk = .ok args)
    (accepted : ∀ path, cli.config = some path → ∀ later ∈ reloads,
      ∃ config, FileConfig.fromFile paths path (later path) = .ok config) :
    (∀ seen, seen <+: reloads →
        (args.afterReloads paths seen).FollowsLadder cli (currentFile cli disk seen)) ↔
      StartsListening cli disk ∧
        ∀ path, cli.config = some path → ∀ later ∈ reloads,
          AgreesWithFlags cli (later path).settings := by
  have start := startup_followsLadder_iff started
  have config : args.config = cli.config := parseArgs_config started
  -- What a reload of the run leaves depends on its file alone.
  have step {path : String} (given : cli.config = some path) {before : List Disk} {later : Disk}
      (member : later ∈ reloads) :
      (args.afterReloads paths (before ++ [later])).FollowsLadder cli
          (currentFile cli disk (before ++ [later])) ↔
        AgreesWithFlags cli (later path).settings := by
    obtain ⟨record, read⟩ := accepted path given later member
    obtain ⟨ports, interface, queues⟩ := afterReloads_concat (config.trans given) read before
    obtain ⟨filePorts, fileInterface, fileQueues, -⟩ := fromFile_settings read
    have current : currentFile cli disk (before ++ [later]) = some (later path).settings := by
      simp [currentFile, given]
    rw [current]
    exact record_followsLadder_iff (ports.trans filePorts) (interface.trans fileInterface)
      (queues.trans fileQueues)
  constructor
  · intro follows
    refine ⟨start.mp (follows [] ⟨reloads, rfl⟩), ?_⟩
    intro path given later member
    obtain ⟨before, behind, split⟩ := List.append_of_mem member
    exact (step given member).mp (follows (before ++ [later]) ⟨behind, by simp [split]⟩)
  · rintro ⟨listening, agrees⟩ seen before
    cases given : cli.config with
    | none =>
      rw [afterReloads_of_none (config.trans given)]
      simpa [currentFile, given] using start.mpr listening
    | some path =>
      obtain rfl | ⟨front, later, rfl⟩ := List.eq_nil_or_concat' seen
      · exact start.mpr listening
      · have member : later ∈ reloads := before.subset (by simp)
        exact (step given member).mpr (agrees path given later member)

end Main

namespace SampleSettings

def paths : PathOps where
  isRelative _ := true
  parent _ := none
  join directory name := directory ++ "/" ++ name
  byteSize size := s!"{size} B"

/-- A disk with one text under every path. -/
def disk (text : String) : Disk := fun _ => ⟨.ok text.utf8ByteSize.toUInt64, .ok text⟩

def portFile : Disk := disk "interface = eth1\nport = 443\n"

def portlessFile : Disk := disk "# ports come later\ninterface = eth1\n"

/-- `-p` with the ports, and `-c`. -/
def flags (ports : List UInt16) : CliArgs := ⟨ports, none, none, some "pesigitgd.conf", none, true⟩

def running (ports : List UInt16) : Args :=
  ⟨ports, "eth1", 1, some "pesigitgd.conf", none, none, true⟩

end SampleSettings

open SampleSettings in
/-- A port given by a flag is gone after a reload, and a file without a port leaves the daemon
without one. -/
theorem settings_leave_ladder :
    (parseArgs paths (flags [8443]) portFile = .ok (running [8443]) ∧
      ¬ ((running [8443]).afterReloads paths [portFile]).FollowsLadder (flags [8443])
        (currentFile (flags [8443]) portFile [portFile])) ∧
    parseArgs paths (flags []) portlessFile = .ok (running []) ∧
      ¬ (running []).FollowsLadder (flags []) (currentFile (flags []) portlessFile []) := by
  refine ⟨⟨by decide +kernel, ?_⟩, by decide +kernel, ?_⟩
  · intro follows
    have ports := follows.ports
    revert ports
    decide +kernel
  · intro follows
    exact follows.listens rfl

open SampleSettings in
/-- Started from a file with a port and reloaded from it, without flags. -/
theorem settings_follow_ladder_iff_sample :
    parseArgs paths (flags []) portFile = .ok (running [443]) ∧
      ∀ seen, seen <+: [portFile] →
        ((running [443]).afterReloads paths seen).FollowsLadder (flags [])
          (currentFile (flags []) portFile seen) := by
  have started : parseArgs paths (flags []) portFile = .ok (running [443]) := by decide +kernel
  refine ⟨started, (settings_follow_ladder_iff started ?_).mpr ⟨.inr ?_, ?_⟩⟩
  · intro path given later member
    obtain rfl := List.mem_singleton.mp member
    cases given
    exact ⟨⟨[443], "eth1", 1, none, none⟩, by decide +kernel⟩
  · intro path given
    cases given
    decide +kernel
  · intro path given later member
    obtain rfl := List.mem_singleton.mp member
    cases given
    exact ⟨by decide +kernel, nofun, nofun, nofun⟩

end Pesigitg
