import Mathlib.Data.List.Nodup
import Mathlib.Data.String.Basic
import Pesigitg.Base.SortedMap
import Pesigitg.Base.Utf8
import Pesigitg.Daemon.FileConfig

/-!
# Finding the daemons of a host

`pesigitg-ctl` puts together what pidfiles, status sockets and `/proc` say. Files name an
interface, processes have a pid, and a process says on its command line which interface it
serves, unless the interface comes from a config file. `cleanup` then removes the pidfiles that
no process was matched with.

A process without an interface is matched with the first instance, by interface, that has its pid.
-/

namespace Pesigitg

open Base

namespace Discovery

def procName : String := "pesigitgd"

def pidfilePrefix : String := "pesigitgd-"

def pidfileSuffix : String := ".pid"

def socketPrefix : String := "status-"

def socketSuffix : String := ".sock"

/-- What `iface_from_pidfile` and `iface_from_sockname` share. -/
def ifaceFromName (front back : String) (name : String) : Option String := do
  let rest ← name.toList.dropPrefix? front.toList
  let iface ← rest.dropSuffix? back.toList
  if iface = [] then none else pure (String.ofList iface)

/-- `iface_from_pidfile`. -/
def ifaceFromPidfile : String → Option String := ifaceFromName pidfilePrefix pidfileSuffix

/-- `iface_from_sockname`. -/
def ifaceFromSockname : String → Option String := ifaceFromName socketPrefix socketSuffix

/-- An argument that is written in ASCII. -/
def argument (text : String) : Bytes := text.toList.map fun c => UInt8.ofNat c.toNat

def textOf (arg : Bytes) : Option String := (Utf8.decode arg).map String.ofList

/-- The loop of `iface_from_cmdline`. -/
def ifaceFromArgs : List Bytes → Option String
  | [] => none
  | arg :: rest =>
    if arg = argument "-i" ∨ arg = argument "--interface" then
      match rest with
      | next :: _ => textOf next
      | [] => none
    else
      match arg.dropPrefix? (argument "-i") with
      | some value => if value = [] then ifaceFromArgs rest else textOf value
      | none =>
        match arg.dropPrefix? (argument "--interface=") with
        | some value => textOf value
        | none => ifaceFromArgs rest

/-- `iface_from_cmdline`. -/
def ifaceFromCmdline (bytes : Bytes) : Option String :=
  ifaceFromArgs ((bytes.splitOn 0).filter (· ≠ []))

/-- A file of the pid directory: its name and its text, if it can be read. -/
structure DirEntry where
  name : String
  content : Option String
deriving DecidableEq, Repr

def DirEntry.recordedPid (entry : DirEntry) : Option UInt32 :=
  entry.content.bind fun text => (parseU32 (trim text)).toOption

/-- A process, as far as it can be read. -/
structure ProcEntry where
  pid : UInt32
  comm : Option String
  cmdline : Option Bytes
deriving DecidableEq, Repr

structure ProcHit where
  pid : UInt32
  interface : Option String
  cmdline : Bytes
deriving DecidableEq, Repr

/-- `is_pesigitgd_proc`. -/
def ProcEntry.isPesigitgdProc (entry : ProcEntry) : Bool :=
  match entry.comm with
  | some comm => trim comm == procName.toList
  | none => false

/-- `scan_proc_for_pesigitgd`. -/
def scanProc (entries : List ProcEntry) : List ProcHit :=
  entries.filterMap fun entry =>
    if entry.isPesigitgdProc then
      entry.cmdline.map fun bytes => ⟨entry.pid, ifaceFromCmdline bytes, bytes⟩
    else none

structure Instance where
  interface : Option String
  pid : Option UInt32
  pidfile : Option String
  statusSocket : Option String
  cmdline : Option Bytes
deriving DecidableEq, Repr, Inhabited

/-- What discovery reads, each part in the order in which it is listed. A pidfile and a socket are
known by their names. -/
structure Host where
  pidDir : List DirEntry
  runDir : List String
  proc : List ProcEntry
  pidDir_names : (pidDir.map DirEntry.name).Nodup
  proc_pids : (proc.map ProcEntry.pid).Nodup

def addPidfile (byIface : SortedMap String Instance) (entry : DirEntry) :
    SortedMap String Instance :=
  match ifaceFromPidfile entry.name with
  | none => byIface
  | some iface => byIface.upsert iface fun inst =>
    { inst with interface := some iface, pidfile := some entry.name, pid := entry.recordedPid }

def addSocket (byIface : SortedMap String Instance) (name : String) : SortedMap String Instance :=
  match ifaceFromSockname name with
  | none => byIface
  | some iface => byIface.upsert iface fun inst =>
    { inst with interface := some iface, statusSocket := some name }

structure Found where
  byIface : SortedMap String Instance
  unnamed : List Instance

/-- One round of the loop over the processes. -/
def addHit (found : Found) (hit : ProcHit) : Found :=
  match hit.interface with
  | some iface =>
    { found with byIface := found.byIface.upsert iface fun inst =>
        { inst with interface := some iface, pid := some hit.pid, cmdline := some hit.cmdline } }
  | none =>
    match found.byIface.modifyFirst (fun inst => inst.pid = some hit.pid)
        (fun inst => { inst with cmdline := some hit.cmdline }) with
    | some byIface => { found with byIface := byIface }
    | none =>
      { found with
        unnamed := found.unnamed ++ [⟨none, some hit.pid, none, none, some hit.cmdline⟩] }

/-- The map before the processes are looked at. -/
def Host.files (host : Host) : SortedMap String Instance :=
  host.runDir.foldl addSocket (host.pidDir.foldl addPidfile .empty)

def Host.hits (host : Host) : List ProcHit := scanProc host.proc

/-- `discover_instances`. -/
def discoverInstances (host : Host) : List Instance :=
  let found := host.hits.foldl addHit ⟨host.files, []⟩
  found.byIface.values ++ found.unnamed

def Instance.stale (inst : Instance) : Bool := inst.pidfile.isSome && inst.cmdline.isNone

inductive TargetError where
  | extraArgs (message : String)
  | io (message : String)
deriving DecidableEq, Repr

/-- `cmd_cleanup`: the pidfiles it selects for removal, and how it ends. -/
def cmdCleanup (host : Host) (args : List String) (removeFile : String → Bool) :
    List String × Except TargetError Unit :=
  if args ≠ [] then
    let joined := String.intercalate " " args
    ([], .error (.extraArgs s!"unexpected argument(s): {joined}"))
  else
    let stale := ((discoverInstances host).filter Instance.stale).filterMap Instance.pidfile
    let errors := stale.countP fun path => !removeFile path
    (stale,
      if 0 < errors then .error (.io s!"{errors} pidfile(s) could not be removed") else .ok ())

section Files

variable {iface name : String} {entry : DirEntry} {entries : List DirEntry}

/-- An interface has one pidfile name. -/
theorem toList_of_ifaceFromPidfile (named : ifaceFromPidfile name = some iface) :
    name.toList = pidfilePrefix.toList ++ (iface.toList ++ pidfileSuffix.toList) := by
  simp only [ifaceFromPidfile, ifaceFromName, Option.bind_eq_bind, Option.bind_eq_some_iff] at named
  obtain ⟨rest, front, chars, back, named⟩ := named
  split_ifs at named
  cases named
  obtain ⟨before, whole, same⟩ := List.dropPrefix?_eq_some_iff.mp front
  obtain ⟨after, inner, same'⟩ := List.dropSuffix?_eq_some_iff.mp back
  rw [whole, inner, eq_of_beq same, eq_of_beq same', String.toList_ofList]

/-- The last pidfile of an interface. -/
def lastPidfile (iface : String) (entries : List DirEntry) : Option DirEntry :=
  (entries.filter fun entry => ifaceFromPidfile entry.name = some iface).getLast?

/-- After the pid files, an interface has the instance of its last pid file. -/
theorem value_addPidfiles :
    (entries.foldl addPidfile .empty).value iface =
      (lastPidfile iface entries).elim default fun entry =>
        ⟨some iface, entry.recordedPid, some entry.name, none, none⟩ := by
  induction entries using List.reverseRecOn with
  | nil => rfl
  | append_singleton entries entry ih =>
    rw [List.foldl_append, List.foldl_cons, List.foldl_nil, addPidfile, lastPidfile,
      List.filter_append, List.getLast?_append]
    by_cases named : ifaceFromPidfile entry.name = some iface
    · have kept :
          [entry].filter (fun entry => ifaceFromPidfile entry.name = some iface) = [entry] := by
        simp [named]
      simp only [named, kept, SortedMap.value_upsert, if_true, ih]
      cases lastPidfile iface entries <;> rfl
    · have skipped :
          [entry].filter (fun entry => ifaceFromPidfile entry.name = some iface) = [] := by
        simp [named]
      rw [skipped, List.getLast?_nil, Option.none_or]
      split
      · exact ih
      · next other found =>
        have apart : iface ≠ other := by
          rintro rfl
          exact named found
        rw [SortedMap.value_upsert, if_neg apart]
        exact ih

/-- Sockets change neither the pid, the pid file nor the command line of an instance. -/
theorem value_addSockets {names : List String} {map : SortedMap String Instance} :
    ((names.foldl addSocket map).value iface).pid = (map.value iface).pid ∧
      ((names.foldl addSocket map).value iface).pidfile = (map.value iface).pidfile ∧
      ((names.foldl addSocket map).value iface).cmdline = (map.value iface).cmdline := by
  induction names generalizing map with
  | nil => exact ⟨rfl, rfl, rfl⟩
  | cons name names ih =>
    obtain ⟨pid, pidfile, cmdline⟩ := @ih (addSocket map name)
    rw [List.foldl_cons, pid, pidfile, cmdline, addSocket]
    split
    · exact ⟨rfl, rfl, rfl⟩
    · rw [SortedMap.value_upsert]
      split_ifs with same
      · rw [same]
        exact ⟨rfl, rfl, rfl⟩
      · exact ⟨rfl, rfl, rfl⟩

variable {host : Host} {pid : UInt32}

/-- The last pid file of an interface is the only one, since file names are distinct. -/
theorem lastPidfile_eq_some_iff :
    lastPidfile iface host.pidDir = some entry ↔
      entry ∈ host.pidDir ∧ ifaceFromPidfile entry.name = some iface := by
  have unique {first second : DirEntry} (inFirst : first ∈ host.pidDir)
      (inSecond : second ∈ host.pidDir) (named : ifaceFromPidfile first.name = some iface)
      (named' : ifaceFromPidfile second.name = some iface) : first = second := by
    apply List.inj_on_of_nodup_map host.pidDir_names inFirst inSecond
    rw [String.ext_iff, toList_of_ifaceFromPidfile named, toList_of_ifaceFromPidfile named']
  have hit {found : DirEntry} (last : lastPidfile iface host.pidDir = some found) :
      found ∈ host.pidDir ∧ ifaceFromPidfile found.name = some iface := by
    simpa using List.mem_filter.mp (List.mem_of_getLast? last)
  constructor
  · exact hit
  · rintro ⟨member, named⟩
    cases last : lastPidfile iface host.pidDir with
    | none =>
      rw [lastPidfile, List.getLast?_eq_none_iff, List.filter_eq_nil_iff] at last
      exact absurd (decide_eq_true named) (last entry member)
    | some found =>
      obtain ⟨inside, named'⟩ := hit last
      rw [unique inside member named' named]

/-- Before the processes, an instance has its pid and its pidfile from the last file that names it,
and no command line. -/
theorem files_value :
    (host.files.value iface).pid = (lastPidfile iface host.pidDir).bind DirEntry.recordedPid ∧
      (host.files.value iface).pidfile = (lastPidfile iface host.pidDir).map DirEntry.name ∧
      (host.files.value iface).cmdline = none := by
  obtain ⟨pid, pidfile, cmdline⟩ :=
    @value_addSockets iface host.runDir (host.pidDir.foldl addPidfile .empty)
  rw [Host.files, pid, pidfile, cmdline, value_addPidfiles]
  cases lastPidfile iface host.pidDir with
  | none => exact ⟨rfl, rfl, rfl⟩
  | some entry => exact ⟨rfl, rfl, rfl⟩

/-- A pidfile records a pid for an interface. -/
def Records (entry : DirEntry) (iface : String) (pid : UInt32) : Prop :=
  ifaceFromPidfile entry.name = some iface ∧ entry.recordedPid = some pid

/-- Before the processes are read, a pid is known exactly if a pid file records it. -/
theorem files_pid_iff :
    (host.files.value iface).pid = some pid ↔ ∃ entry ∈ host.pidDir, Records entry iface pid := by
  rw [files_value.1, Option.bind_eq_some_iff]
  simp only [lastPidfile_eq_some_iff, and_assoc, Records]

/-- A pid file is listed under its own interface. -/
theorem files_pidfile_iff (member : entry ∈ host.pidDir) :
    (host.files.value iface).pidfile = some entry.name ↔
      ifaceFromPidfile entry.name = some iface := by
  rw [files_value.2.1, Option.map_eq_some_iff]
  simp only [lastPidfile_eq_some_iff]
  constructor
  · rintro ⟨found, ⟨-, named⟩, same⟩
    rwa [← same]
  · intro named
    exact ⟨entry, ⟨member, named⟩, rfl⟩

end Files

section Hits

variable {host : Host} {found : Found} {hit : ProcHit} {hits : List ProcHit} {iface : String}
  {pid : UInt32}

/-- The first instance with a pid. -/
def Attaches (map : SortedMap String Instance) (pid : UInt32) (iface : String) : Prop :=
  (map.value iface).pid = some pid ∧ ∀ other < iface, (map.value other).pid ≠ some pid

/-- What one process does to an instance: its pidfile stays, its pid is replaced by a process that
names it, and it has a command line after a process that names it or is attached to it. -/
theorem addHit_value (found : Found) (hit : ProcHit) (iface : String) :
    ((addHit found hit).byIface.value iface).pidfile = (found.byIface.value iface).pidfile ∧
    ((addHit found hit).byIface.value iface).pid =
      (if hit.interface = some iface then some hit.pid else (found.byIface.value iface).pid) ∧
    (((addHit found hit).byIface.value iface).cmdline.isSome ↔
      (found.byIface.value iface).cmdline.isSome ∨ hit.interface = some iface ∨
        (hit.interface = none ∧ Attaches found.byIface hit.pid iface)) := by
  have absent : ¬ (fun inst : Instance => decide (inst.pid = some hit.pid)) default := by
    have none : (default : Instance).pid = none := rfl
    simp [none]
  unfold addHit
  split
  · next named given =>
    by_cases same : iface = named
    · simp [SortedMap.value_upsert, given, same]
    · simp [SortedMap.value_upsert, given, same, Ne.symm same]
  · next given =>
    split
    · next changed matched =>
      obtain ⟨key, meets, before, values⟩ := SortedMap.modifyFirst_eq_some absent matched
      simp only [decide_eq_true_eq] at meets before
      by_cases same : iface = key
      · have attaches : Attaches found.byIface hit.pid iface := same ▸ ⟨meets, before⟩
        simp [values, given, same, same ▸ attaches]
      · have apart : ¬ Attaches found.byIface hit.pid iface := by
          rintro ⟨here, first⟩
          obtain below | below := lt_or_gt_of_ne same
          · exact before iface below here
          · exact first key below meets
        simp [values, given, same, apart]
    · next unmatched =>
      have apart : ¬ Attaches found.byIface hit.pid iface := by
        rintro ⟨here, -⟩
        exact SortedMap.modifyFirst_eq_none absent unmatched (decide_eq_true here)
      simp [given, apart]

/-- The map after some of the processes. -/
def Host.after (host : Host) (hits : List ProcHit) : SortedMap String Instance :=
  (hits.foldl addHit ⟨host.files, []⟩).byIface

/-- One more process is added to what the earlier ones gave. -/
theorem after_concat :
    host.after (hits ++ [hit]) = (addHit (hits.foldl addHit ⟨host.files, []⟩) hit).byIface := by
  rw [Host.after, List.foldl_append]
  rfl

/-- Processes change no pid file. -/
theorem after_pidfile :
    ((host.after hits).value iface).pidfile = (host.files.value iface).pidfile := by
  induction hits using List.reverseRecOn with
  | nil => rfl
  | append_singleton hits hit ih =>
    rw [after_concat, (addHit_value ..).1]
    exact ih

/-- A pid that changed is that of a process which names the interface. -/
theorem after_pid :
    (∃ hit ∈ hits, hit.interface = some iface ∧
      ((host.after hits).value iface).pid = some hit.pid) ∨
    ((∀ hit ∈ hits, hit.interface ≠ some iface) ∧
      ((host.after hits).value iface).pid = (host.files.value iface).pid) := by
  induction hits using List.reverseRecOn with
  | nil => exact .inr ⟨by simp, rfl⟩
  | append_singleton hits hit ih =>
    rw [after_concat, (addHit_value ..).2.1]
    split_ifs with named
    · exact .inl ⟨hit, by simp, named, rfl⟩
    · obtain ⟨earlier, member, given, pid⟩ | ⟨unnamed, pid⟩ := ih
      · exact .inl ⟨earlier, List.mem_append_left _ member, given, pid⟩
      · refine .inr ⟨?_, pid⟩
        intro other member
        obtain member | last := List.mem_append.mp member
        · exact unnamed other member
        · rwa [List.mem_singleton.mp last]

/-- A place in a longer list is one in the list before, or the new end. -/
theorem exists_split_concat {α : Type*} {items : List α} {last : α} {holds : List α → α → Prop} :
    (∃ before item later, items ++ [last] = before ++ item :: later ∧ holds before item) ↔
      (∃ before item later, items = before ++ item :: later ∧ holds before item) ∨
        holds items last := by
  constructor
  · rintro ⟨before, item, later, split, here⟩
    cases later using List.reverseRecOn with
    | nil =>
      obtain ⟨rfl, same⟩ := List.append_inj' split rfl
      cases same
      exact .inr here
    | append_singleton later final =>
      rw [← List.cons_append, ← List.append_assoc] at split
      exact .inl ⟨before, item, later, (List.append_inj' split rfl).1, here⟩
  · rintro (⟨before, item, later, rfl, here⟩ | here)
    · exact ⟨before, item, later ++ [last], by simp, here⟩
    · exact ⟨items, last, [], rfl, here⟩

/-- An instance has a command line when a process named it, or one without a name was attached. -/
theorem after_cmdline_iff :
    ((host.after hits).value iface).cmdline.isSome ↔
      (∃ hit ∈ hits, hit.interface = some iface) ∨
      ∃ before hit later, hits = before ++ hit :: later ∧ hit.interface = none ∧
        Attaches (host.after before) hit.pid iface := by
  induction hits using List.reverseRecOn with
  | nil =>
    have none : ((host.after []).value iface).cmdline = none := files_value.2.2
    simp [none]
  | append_singleton hits hit ih =>
    rw [after_concat, (addHit_value ..).2.2, exists_split_concat]
    change ((host.after hits).value iface).cmdline.isSome ∨ _ ↔ _
    rw [ih]
    simp only [List.mem_append, List.mem_singleton, or_and_right, exists_or, exists_eq_left]
    exact or_or_or_comm

end Hits

section Cleanup

variable {host : Host} {entry : DirEntry} {hit : ProcHit} {before later : List ProcHit}
  {iface name : String}

/-- The scan keeps the order of the processes. -/
theorem scanProc_pids (entries : List ProcEntry) :
    ((scanProc entries).map ProcHit.pid).Sublist (entries.map ProcEntry.pid) := by
  induction entries with
  | nil => exact List.Sublist.refl _
  | cons entry entries ih =>
    have skip : ((scanProc entries).map ProcHit.pid).Sublist
        ((entry :: entries).map ProcEntry.pid) := ih.cons _
    unfold scanProc at skip ⊢
    rw [List.filterMap_cons]
    split
    · exact skip
    · next hit found =>
      split_ifs at found
      obtain ⟨bytes, -, rfl⟩ := Option.map_eq_some_iff.mp found
      exact ih.cons_cons _

/-- No process is found twice. -/
theorem hits_pids (host : Host) : (host.hits.map ProcHit.pid).Nodup :=
  host.proc_pids.sublist (scanProc_pids host.proc)

/-- No process that has the pid of another one comes before it. -/
theorem pid_ne_of_mem_before (split : host.hits = before ++ hit :: later) {other : ProcHit}
    (member : other ∈ before) : other.pid ≠ hit.pid := by
  have distinct := hits_pids host
  rw [split, List.map_append, List.nodup_append] at distinct
  exact distinct.2.2 _ (List.mem_map_of_mem member) _ List.mem_cons_self

/-- A pid fixes the place of its process. -/
theorem before_eq_of_pid_eq (split : host.hits = before ++ hit :: later) {hit' : ProcHit}
    {before' later' : List ProcHit} (split' : host.hits = before' ++ hit' :: later')
    (same : hit.pid = hit'.pid) : before = before' ∧ hit = hit' := by
  obtain ⟨between, front, back⟩ | ⟨between, front, back⟩ :=
    List.append_eq_append_iff.mp (split.symm.trans split')
  · cases between with
    | nil =>
      cases back
      exact ⟨front ▸ (List.append_nil before).symm, rfl⟩
    | cons first rest =>
      cases back
      exact absurd same (pid_ne_of_mem_before split' (by simp [front]))
  · cases between with
    | nil =>
      cases back
      exact ⟨front ▸ List.append_nil before', rfl⟩
    | cons first rest =>
      cases back
      exact absurd same.symm (pid_ne_of_mem_before split (by simp [front]))

/-- An instance without an interface has no pid file. -/
theorem unnamed_pidfile {hits : List ProcHit} {inst : Instance}
    (member : inst ∈ (hits.foldl addHit ⟨host.files, []⟩).unnamed) : inst.pidfile = none := by
  induction hits using List.reverseRecOn with
  | nil => cases member
  | append_singleton hits hit ih =>
    rw [List.foldl_append, List.foldl_cons, List.foldl_nil, addHit] at member
    split at member
    · exact ih member
    · split at member
      · exact ih member
      · obtain member | last := List.mem_append.mp member
        · exact ih member
        · rw [List.mem_singleton.mp last]

/-- A pidfile is selected exactly when no process was matched with its instance. -/
theorem mem_cmdCleanup_iff {removeFile : String → Bool} (member : entry ∈ host.pidDir)
    (named : ifaceFromPidfile entry.name = some iface) :
    entry.name ∈ (cmdCleanup host [] removeFile).1 ↔
      ¬ ((host.after host.hits).value iface).cmdline.isSome := by
  have filed (key : String) :
      ((host.after host.hits).value key).pidfile = some entry.name ↔ key = iface := by
    rw [after_pidfile, files_pidfile_iff member, named, Option.some.injEq, eq_comm]
  have absent :
      ¬ (fun inst : Instance => inst.stale && inst.pidfile = some entry.name) default := by
    have fresh : (default : Instance).stale = false := rfl
    simp [fresh]
  have selected : entry.name ∈ (cmdCleanup host [] removeFile).1 ↔
      ∃ inst ∈ (host.after host.hits).values, inst.stale && inst.pidfile = some entry.name := by
    simp only [cmdCleanup, ne_eq, not_true, if_false, List.mem_filterMap, List.mem_filter,
      discoverInstances, List.mem_append, Bool.and_eq_true, decide_eq_true_eq, and_assoc]
    constructor
    · rintro ⟨inst, found | unnamed, stale, same⟩
      · exact ⟨inst, found, stale, same⟩
      · rw [unnamed_pidfile unnamed] at same
        cases same
    · rintro ⟨inst, found, stale, same⟩
      exact ⟨inst, .inl found, stale, same⟩
  rw [selected, SortedMap.exists_values_iff absent]
  simp only [Bool.and_eq_true, decide_eq_true_eq, filed, exists_eq_right]
  have present := (filed iface).mpr rfl
  simp [Instance.stale, present]

/-- What keeps the pidfile of a process: its interface is named on a command line, or its own
command line names none and no instance before its own still has its pid from another pidfile. -/
def Confirmed (host : Host) (before : List ProcHit) (hit : ProcHit) (iface : String) : Prop :=
  (∃ other ∈ host.hits, other.interface = some iface) ∨
    (hit.interface = none ∧ ∀ entry ∈ host.pidDir, ∀ smaller < iface,
      Records entry smaller hit.pid → ∃ other ∈ before, other.interface = some smaller)

/-- The instance of a pid file has a command line exactly if the process it records is confirmed. -/
theorem cmdline_iff_confirmed (split : host.hits = before ++ hit :: later)
    (member : entry ∈ host.pidDir) (records : Records entry iface hit.pid) :
    ((host.after host.hits).value iface).cmdline.isSome ↔ Confirmed host before hit iface := by
  have recorded : (host.files.value iface).pid = some hit.pid :=
    files_pid_iff.mpr ⟨entry, member, records⟩
  rw [after_cmdline_iff]
  by_cases named : ∃ other ∈ host.hits, other.interface = some iface
  · exact iff_of_true (.inl named) (.inl named)
  · have own {front : List ProcHit} (inside : front ⊆ host.hits) :
        ((host.after front).value iface).pid = some hit.pid := by
      obtain ⟨other, found, given, -⟩ | ⟨-, kept⟩ := @after_pid host front iface
      · exact absurd ⟨other, inside found, given⟩ named
      · rw [kept, recorded]
    rw [Confirmed, or_iff_right named, or_iff_right named]
    constructor
    · rintro ⟨before', hit', later', split', nameless, attaches, first⟩
      have inside : before' ⊆ host.hits := by
        rw [split']
        exact List.subset_append_left ..
      have same : hit.pid = hit'.pid := Option.some.inj ((own inside).symm.trans attaches)
      obtain ⟨rfl, rfl⟩ := before_eq_of_pid_eq split split' same
      refine ⟨nameless, ?_⟩
      intro other found smaller below recordsOther
      by_contra unnamed
      obtain ⟨earlier, found', given, -⟩ | ⟨-, kept⟩ := @after_pid host before smaller
      · exact unnamed ⟨earlier, found', given⟩
      · apply first smaller below
        rw [kept, files_pid_iff]
        exact ⟨other, found, recordsOther⟩
    · rintro ⟨nameless, named'⟩
      have inside : before ⊆ host.hits := by
        rw [split]
        exact List.subset_append_left ..
      refine ⟨before, hit, later, split, nameless, own inside, ?_⟩
      intro smaller below taken
      obtain ⟨earlier, found, -, pid⟩ | ⟨unnamed, kept⟩ := @after_pid host before smaller
      · rw [pid] at taken
        exact pid_ne_of_mem_before split found (Option.some.inj taken)
      · rw [kept, files_pid_iff] at taken
        obtain ⟨other, found, recordsOther⟩ := taken
        obtain ⟨earlier, found', given⟩ := named' other found smaller below recordsOther
        exact unnamed earlier found' given

/-- Cleanup keeps the pidfile of every running process that was started on its interface, exactly
when each of these processes is confirmed. -/
theorem cleanup_keeps_live_iff (host : Host) (startedOn : UInt32 → String)
    (removeFile : String → Bool) :
    (∀ entry ∈ host.pidDir, ∀ hit ∈ host.hits, Records entry (startedOn hit.pid) hit.pid →
      entry.name ∉ (cmdCleanup host [] removeFile).1) ↔
    ∀ entry ∈ host.pidDir, ∀ before hit later, host.hits = before ++ hit :: later →
      Records entry (startedOn hit.pid) hit.pid →
      Confirmed host before hit (startedOn hit.pid) := by
  constructor
  · intro keeps entry member before hit later split records
    have inside : hit ∈ host.hits := by simp [split]
    have kept := keeps entry member hit inside records
    rw [mem_cmdCleanup_iff member records.1, not_not] at kept
    exact (cmdline_iff_confirmed split member records).mp kept
  · intro confirmed entry member hit inside records
    obtain ⟨before, later, split⟩ := List.append_of_mem inside
    rw [mem_cmdCleanup_iff member records.1, not_not, cmdline_iff_confirmed split member records]
    exact confirmed entry member before hit later split records

/-- A daemon that has its interface from a config file, and two pidfiles with its pid: its own, and
one that an earlier daemon on another interface left behind. -/
def reusedPid : Host where
  pidDir := [⟨"pesigitgd-eth0.pid", some "4242\n"⟩, ⟨"pesigitgd-eth1.pid", some "4242\n"⟩]
  runDir := []
  proc := [⟨4242, some "pesigitgd\n", some (argument "pesigitgd\u0000-c\u0000lb.conf\u0000")⟩]
  pidDir_names := by decide
  proc_pids := by decide

/-- The daemon runs on `eth1`, and the pidfile that says so is selected. -/
theorem reusedPid_removes_live :
    ∃ entry ∈ reusedPid.pidDir, ∃ hit ∈ reusedPid.hits, Records entry "eth1" hit.pid ∧
      entry.name ∈ (cmdCleanup reusedPid [] fun _ => true).1 := by
  refine ⟨⟨"pesigitgd-eth1.pid", some "4242\n"⟩, by decide,
    ⟨4242, none, argument "pesigitgd\u0000-c\u0000lb.conf\u0000"⟩, by decide +kernel,
    ⟨by decide +kernel, by decide +kernel⟩, by decide +kernel⟩

end Cleanup

end Discovery

end Pesigitg
