import Mathlib.Logic.Function.Basic
import Pesigitg.Base.Trace
import Pesigitg.Ebpf.Xdp

/-!
# The XDP program across restarts

The daemon pins the link that keeps its program attached, and the two maps, in bpffs. A daemon that
starts adopts what it finds there or loads the program anew; one that stops removes the pins, or
leaves them to its successor. `EbpfStep` is one system call of `load_ebpf` or of the handle's drop,
with every way it may fail, and the process may be killed before any of them.

What the kernel and the loader do is the model's assumption: a link stays attached as long as it is
pinned or a descriptor refers to it (`reap`), an interface has one link at a time, and the loader
reuses a map that is pinned under its name and otherwise creates and pins an empty one.

`running_filters_configured` says that whatever happened before, a daemon that runs has the
attached program's own maps, and the program filters on exactly the configured ports. It needs
three calls to work that the daemon does not check: finding the link's pin, removing it from a
broken install, and listing the ports; `foreign_maps_adopted` shows what comes of it otherwise.
`port_filtered_throughout` is the handover, whatever fails on the way: while nothing removes the
link's pin, the program stays attached and never misses a port that every daemon configures.
-/

namespace Pesigitg

open Base

/-- The pins below the root of an interface. -/
inductive Pin where
  | link
  | xsks
  | ports
deriving DecidableEq, Repr

/-- The order in which the pins are removed. -/
def Pin.all : List Pin := [.link, .xsks, .ports]

/-- The maps a loaded program refers to. -/
structure ProgramMaps where
  xsks : Nat
  ports : Nat
deriving DecidableEq, Repr

/-- What a daemon does to an entry of the ports map. -/
inductive PortOp where
  | remove (port : UInt16)
  | insert (port : UInt16)
deriving DecidableEq, Repr

def PortOp.apply (entries : UInt16 → Bool) : PortOp → UInt16 → Bool
  | .remove port => Function.update entries port false
  | .insert port => Function.update entries port true

/-- The two loops of `reconcile_ports`, over the live and the configured ports in the order in
which their sets are walked. -/
def reconcilePorts (live configured : List UInt16) : List PortOp :=
  (live.filter fun port => port ∉ configured).map .remove ++
    (configured.filter fun port => port ∉ live).map .insert

/-- The kernel's side of one interface: objects go by their ids. -/
structure BpfKernel where
  pins : Pin → Option Nat
  attached : Option (Nat × ProgramMaps)
  entries : Nat → UInt16 → Bool
  next : Nat

namespace BpfKernel

/-- Nothing is pinned or attached. -/
def new : BpfKernel := ⟨fun _ => none, none, fun _ _ => false, 0⟩

/-- Detach the link if neither its pin nor a descriptor refers to it any more. -/
def reap (kernel : BpfKernel) (held : Option Nat) : BpfKernel :=
  match kernel.attached with
  | some (link, _) =>
    if kernel.pins .link = some link ∨ held = some link then kernel
    else { kernel with attached := none }
  | none => kernel

def unpin (kernel : BpfKernel) (pin : Pin) : BpfKernel :=
  { kernel with pins := Function.update kernel.pins pin none }

/-- Create an empty map and pin it. -/
def createMap (kernel : BpfKernel) (pin : Pin) : BpfKernel where
  pins := Function.update kernel.pins pin (some kernel.next)
  attached := kernel.attached
  entries := Function.update kernel.entries kernel.next fun _ => false
  next := kernel.next + 1

def attach (kernel : BpfKernel) (maps : ProgramMaps) : BpfKernel :=
  { kernel with attached := some (kernel.next, maps), next := kernel.next + 1 }

def pinLink (kernel : BpfKernel) (link : Nat) : BpfKernel :=
  { kernel with pins := Function.update kernel.pins .link (some link) }

def perform (kernel : BpfKernel) (map : Nat) (op : PortOp) : BpfKernel :=
  { kernel with entries := Function.update kernel.entries map (op.apply (kernel.entries map)) }

section Fields

variable (kernel : BpfKernel) (map link : Nat) (op : PortOp) {pin other : Pin}

/-- A pin that was removed is gone. -/
@[simp] theorem unpin_pins_self : (kernel.unpin pin).pins pin = none :=
  Function.update_self _ _ kernel.pins

/-- Removing a pin leaves the others in place. -/
theorem unpin_pins_of_ne (distinct : other ≠ pin) :
    (kernel.unpin pin).pins other = kernel.pins other :=
  Function.update_of_ne distinct _ kernel.pins

/-- Pinning a new map touches no other pin. -/
theorem createMap_pins_of_ne (distinct : other ≠ pin) :
    (kernel.createMap pin).pins other = kernel.pins other :=
  Function.update_of_ne distinct _ kernel.pins

/-- A link that was pinned is found at its pin. -/
@[simp] theorem pinLink_pins_link : (kernel.pinLink link).pins .link = some link := by
  simp [pinLink]

/-- Pinning the link touches no other pin. -/
theorem pinLink_pins_of_ne (distinct : pin ≠ .link) :
    (kernel.pinLink link).pins pin = kernel.pins pin :=
  Function.update_of_ne distinct _ kernel.pins

/-- A change to a map is seen in it. -/
@[simp] theorem perform_entries_self :
    (kernel.perform map op).entries map = op.apply (kernel.entries map) :=
  Function.update_self _ _ kernel.entries

end Fields

/-- The ports the attached program looks for. -/
def filter (kernel : BpfKernel) (port : UInt16) : Bool :=
  match kernel.attached with
  | some (_, maps) => kernel.entries maps.ports port
  | none => false

end BpfKernel

/-- The open link and maps. -/
structure EbpfHandle where
  link : Nat
  maps : ProgramMaps
deriving DecidableEq, Repr

/-- Where a daemon stands. -/
inductive EbpfPhase where
  | down
  /-- `load_ebpf`, before it looks for the link's pin. -/
  | starting
  | openingLink
  | openingXsks (link : Nat)
  | openingPorts (link xsks : Nat)
  /-- `clear_stale_pins`, with the pins that are left to remove. -/
  | clearing (left : List Pin)
  /-- `cold_boot_ebpf`. -/
  | booting
  | loading
  | attaching (maps : ProgramMaps)
  | pinning (link : Nat) (maps : ProgramMaps)
  | taking (link : Nat) (maps : ProgramMaps)
  /-- `reconcile_ports`, with the entries that are left to change. -/
  | reconciling (handle : EbpfHandle) (adopted : Bool) (todo : List PortOp)
  | running (handle : EbpfHandle)
  /-- The handle's drop, on the way out or from a failed adoption to the cold boot. -/
  | dropping (handle : EbpfHandle) (adopted : Bool) (left : List Pin)
deriving DecidableEq, Repr

/-- The link to which the daemon has a descriptor. -/
def EbpfPhase.held : EbpfPhase → Option Nat
  | .openingXsks link | .openingPorts link _ | .pinning link _ | .taking link _ => some link
  | .reconciling handle _ _ | .running handle | .dropping handle _ _ => some handle.link
  | .down | .starting | .openingLink | .clearing _ | .booting | .loading | .attaching _ => none

/-- The kernel, the ports of the current daemon, and where it stands. -/
structure EbpfState where
  kernel : BpfKernel
  configured : List UInt16
  phase : EbpfPhase

namespace EbpfState

def new : EbpfState := ⟨.new, [], .down⟩

/-- Go on with the given phase, closing the descriptors it does not have. -/
def goto (state : EbpfState) (phase : EbpfPhase) : EbpfState :=
  { state with kernel := state.kernel.reap phase.held, phase := phase }

end EbpfState

/-- What a step did. -/
inductive EbpfEvent where
  | start (ports : List UInt16)
  | proceed
  | fail
  | unpin (pin : Pin)
  | ready
  /-- Leave the main loop, keeping the pins or not. -/
  | stop (handoff : Bool)
  | crash
deriving DecidableEq, Repr

/-- The ports of a map and of the configuration as `reconcile_ports` walks them. Listing the keys of
a map skips those that cannot be read. -/
structure Walk (flaky : Bool) (entries : UInt16 → Bool) (configured live order : List UInt16) :
    Prop where
  listed : ∀ port ∈ live, entries port = true
  complete : flaky = false → ∀ port, entries port = true → port ∈ live
  same : ∀ port, port ∈ order ↔ port ∈ configured
  liveOnce : live.Nodup
  orderOnce : order.Nodup

/-- One system call, or the end of the process. The failures of three calls go unchecked and happen
only with `flaky`: `exists` does not see the link's pin, `clear_stale_pins` cannot remove it, or
the keys of a map cannot all be listed. -/
inductive EbpfStep (flaky : Bool) : EbpfState → EbpfEvent → EbpfState → Prop where
  | start {kernel : BpfKernel} {before : List UInt16} (ports : List UInt16) :
      EbpfStep flaky ⟨kernel, before, .down⟩ (.start ports) ⟨kernel, ports, .starting⟩
  | found {kernel : BpfKernel} {configured : List UInt16} {link : Nat}
      (pinned : kernel.pins .link = some link) :
      EbpfStep flaky ⟨kernel, configured, .starting⟩ .proceed ⟨kernel, configured, .openingLink⟩
  | notFound {kernel : BpfKernel} {configured : List UInt16}
      (unseen : kernel.pins .link = none ∨ flaky = true) :
      EbpfStep flaky ⟨kernel, configured, .starting⟩ .proceed ⟨kernel, configured, .booting⟩
  | openLink {kernel : BpfKernel} {configured : List UInt16} {link : Nat}
      (pinned : kernel.pins .link = some link) :
      EbpfStep flaky ⟨kernel, configured, .openingLink⟩ .proceed
        ⟨kernel, configured, .openingXsks link⟩
  | openXsks {kernel : BpfKernel} {configured : List UInt16} {link xsks : Nat}
      (pinned : kernel.pins .xsks = some xsks) :
      EbpfStep flaky ⟨kernel, configured, .openingXsks link⟩ .proceed
        ⟨kernel, configured, .openingPorts link xsks⟩
  | openPorts {kernel : BpfKernel} {configured live order : List UInt16} {link xsks ports : Nat}
      (pinned : kernel.pins .ports = some ports)
      (walk : Walk flaky (kernel.entries ports) configured live order) :
      EbpfStep flaky ⟨kernel, configured, .openingPorts link xsks⟩ .proceed
        ⟨kernel, configured, .reconciling ⟨link, xsks, ports⟩ true (reconcilePorts live order)⟩
  -- Any of the three may fail to open; the link's descriptor is closed on the way out.
  | adoptFailed {state : EbpfState} (opening : state.phase = .openingLink ∨
      (∃ link, state.phase = .openingXsks link) ∨
      ∃ link xsks, state.phase = .openingPorts link xsks) :
      EbpfStep flaky state .fail (state.goto (.clearing Pin.all))
  | clear {kernel : BpfKernel} {configured : List UInt16} {pin : Pin} {left : List Pin} :
      EbpfStep flaky ⟨kernel, configured, .clearing (pin :: left)⟩ (.unpin pin)
        (EbpfState.goto ⟨kernel.unpin pin, configured, .clearing left⟩ (.clearing left))
  | clearFailed {kernel : BpfKernel} {configured : List UInt16} {pin : Pin} {left : List Pin}
      (allowed : pin ≠ .link ∨ flaky = true) :
      EbpfStep flaky ⟨kernel, configured, .clearing (pin :: left)⟩ .fail
        ⟨kernel, configured, .clearing left⟩
  | cleared {kernel : BpfKernel} {configured : List UInt16} :
      EbpfStep flaky ⟨kernel, configured, .clearing []⟩ .proceed ⟨kernel, configured, .booting⟩
  | createDir {kernel : BpfKernel} {configured : List UInt16} :
      EbpfStep flaky ⟨kernel, configured, .booting⟩ .proceed ⟨kernel, configured, .loading⟩
  | createMap {kernel : BpfKernel} {configured : List UInt16} {pin : Pin} (isMap : pin ≠ .link)
      (missing : kernel.pins pin = none) :
      EbpfStep flaky ⟨kernel, configured, .loading⟩ .proceed
        ⟨kernel.createMap pin, configured, .loading⟩
  | loaded {kernel : BpfKernel} {configured : List UInt16} {maps : ProgramMaps}
      (xsks : kernel.pins .xsks = some maps.xsks) (ports : kernel.pins .ports = some maps.ports) :
      EbpfStep flaky ⟨kernel, configured, .loading⟩ .proceed ⟨kernel, configured, .attaching maps⟩
  | attach {kernel : BpfKernel} {configured : List UInt16} {maps : ProgramMaps}
      (free : kernel.attached = none) :
      EbpfStep flaky ⟨kernel, configured, .attaching maps⟩ .proceed
        ⟨kernel.attach maps, configured, .pinning kernel.next maps⟩
  | pin {kernel : BpfKernel} {configured : List UInt16} {link : Nat} {maps : ProgramMaps}
      (free : kernel.pins .link = none) :
      EbpfStep flaky ⟨kernel, configured, .pinning link maps⟩ .proceed
        ⟨kernel.pinLink link, configured, .taking link maps⟩
  | take {kernel : BpfKernel} {configured live order : List UInt16} {link : Nat}
      {maps : ProgramMaps}
      (walk : Walk flaky (kernel.entries maps.ports) configured live order) :
      EbpfStep flaky ⟨kernel, configured, .taking link maps⟩ .proceed
        ⟨kernel, configured, .reconciling ⟨link, maps⟩ false (reconcilePorts live order)⟩
  -- The cold boot fails: the daemon exits, and what it has pinned so far stays.
  | bootFailed {state : EbpfState} (booting : state.phase = .booting ∨ state.phase = .loading ∨
      (∃ maps, state.phase = .attaching maps) ∨ (∃ link maps, state.phase = .pinning link maps) ∨
      ∃ link maps, state.phase = .taking link maps) :
      EbpfStep flaky state .fail (state.goto .down)
  | reconcile {kernel : BpfKernel} {configured : List UInt16} {handle : EbpfHandle}
      {adopted : Bool} {op : PortOp} {todo : List PortOp} :
      EbpfStep flaky ⟨kernel, configured, .reconciling handle adopted (op :: todo)⟩ .proceed
        ⟨kernel.perform handle.maps.ports op, configured, .reconciling handle adopted todo⟩
  | reconcileFailed {kernel : BpfKernel} {configured : List UInt16} {handle : EbpfHandle}
      {adopted : Bool} {todo : List PortOp} :
      EbpfStep flaky ⟨kernel, configured, .reconciling handle adopted todo⟩ .fail
        ⟨kernel, configured, .dropping handle adopted Pin.all⟩
  | ready {kernel : BpfKernel} {configured : List UInt16} {handle : EbpfHandle} {adopted : Bool} :
      EbpfStep flaky ⟨kernel, configured, .reconciling handle adopted []⟩ .ready
        ⟨kernel, configured, .running handle⟩
  | handoff {kernel : BpfKernel} {configured : List UInt16} {handle : EbpfHandle} :
      EbpfStep flaky ⟨kernel, configured, .running handle⟩ (.stop true)
        (EbpfState.goto ⟨kernel, configured, .running handle⟩ .down)
  | coldStop {kernel : BpfKernel} {configured : List UInt16} {handle : EbpfHandle} :
      EbpfStep flaky ⟨kernel, configured, .running handle⟩ (.stop false)
        ⟨kernel, configured, .dropping handle false Pin.all⟩
  | unpin {kernel : BpfKernel} {configured : List UInt16} {handle : EbpfHandle} {adopted : Bool}
      {pin : Pin} {left : List Pin} :
      EbpfStep flaky ⟨kernel, configured, .dropping handle adopted (pin :: left)⟩ (.unpin pin)
        ⟨kernel.unpin pin, configured, .dropping handle adopted left⟩
  | unpinFailed {kernel : BpfKernel} {configured : List UInt16} {handle : EbpfHandle}
      {adopted : Bool} {pin : Pin} {left : List Pin} :
      EbpfStep flaky ⟨kernel, configured, .dropping handle adopted (pin :: left)⟩ .fail
        ⟨kernel, configured, .dropping handle adopted left⟩
  | dropped {kernel : BpfKernel} {configured : List UInt16} {handle : EbpfHandle}
      {adopted : Bool} :
      EbpfStep flaky ⟨kernel, configured, .dropping handle adopted []⟩ .proceed
        (EbpfState.goto ⟨kernel, configured, .dropping handle adopted []⟩
          (if adopted then .clearing Pin.all else .down))
  | crash {state : EbpfState} : EbpfStep flaky state .crash (state.goto .down)

/-- Any sequence of daemons on one interface. -/
abbrev EbpfRun (flaky : Bool) (log : List EbpfEvent) (state : EbpfState) : Prop :=
  Trace (EbpfStep flaky) .new log state

section Ports

variable {flaky : Bool} {entries : UInt16 → Bool} {configured live order : List UInt16}

/-- What a list of changes leaves for one port. -/
theorem foldl_removes (removes : List UInt16) (entries : UInt16 → Bool) (port : UInt16) :
    (removes.map PortOp.remove).foldl PortOp.apply entries port =
      (entries port && decide (port ∉ removes)) := by
  induction removes generalizing entries with
  | nil => simp
  | cons first removes ih =>
    rw [List.map_cons, List.foldl_cons, ih, PortOp.apply]
    by_cases same : port = first
    · subst same
      simp
    · simp [same]

/-- Inserting ports adds exactly them. -/
theorem foldl_inserts (inserts : List UInt16) (entries : UInt16 → Bool) (port : UInt16) :
    (inserts.map PortOp.insert).foldl PortOp.apply entries port =
      (entries port || decide (port ∈ inserts)) := by
  induction inserts generalizing entries with
  | nil => simp
  | cons first inserts ih =>
    rw [List.map_cons, List.foldl_cons, ih, PortOp.apply]
    by_cases same : port = first
    · subst same
      simp
    · simp [same]

/-- Carried out to the end, the changes leave exactly the configured ports. -/
theorem Walk.exact (walk : Walk false entries configured live order) (port : UInt16) :
    (reconcilePorts live order).foldl PortOp.apply entries port = decide (port ∈ configured) := by
  rw [reconcilePorts, List.foldl_append, foldl_inserts, foldl_removes]
  have isLive : entries port = decide (port ∈ live) := by
    by_cases listed : port ∈ live
    · rw [walk.listed port listed, decide_eq_true listed]
    · rw [decide_eq_false listed]
      exact Bool.eq_false_iff.mpr fun there => listed (walk.complete rfl port there)
  have isWanted : decide (port ∈ configured) = decide (port ∈ order) :=
    decide_eq_decide.mpr (walk.same port).symm
  rw [isLive, isWanted]
  by_cases listed : port ∈ live <;> by_cases wanted : port ∈ order <;> simp [listed, wanted]

/-- No configured port is ever removed. -/
theorem Walk.spares (walk : Walk flaky entries configured live order) {port : UInt16}
    (removed : PortOp.remove port ∈ reconcilePorts live order) : port ∉ configured := by
  rw [← walk.same]
  simp only [reconcilePorts, List.mem_append, List.mem_map, List.mem_filter] at removed
  rcases removed with ⟨other, ⟨-, stale⟩, same⟩ | ⟨other, -, impossible⟩
  · cases same
    exact of_decide_eq_true stale
  · cases impossible

end Ports

/-- The handle is that of the attached program, and all of it is pinned. -/
structure BpfKernel.Installed (kernel : BpfKernel) (handle : EbpfHandle) : Prop where
  attached : kernel.attached = some (handle.link, handle.maps)
  link : kernel.pins .link = some handle.link
  xsks : kernel.pins .xsks = some handle.maps.xsks
  ports : kernel.pins .ports = some handle.maps.ports

/-- The pins belong together: a pinned link is attached, and the pinned maps are the ones its
program refers to. -/
structure BpfKernel.Coherent (kernel : BpfKernel) : Prop where
  link : ∀ link, kernel.pins .link = some link → ∃ maps, kernel.attached = some (link, maps)
  xsks : ∀ link maps xsks, kernel.attached = some (link, maps) →
    kernel.pins .xsks = some xsks → xsks = maps.xsks
  ports : ∀ link maps ports, kernel.attached = some (link, maps) →
    kernel.pins .ports = some ports → ports = maps.ports

/-- What holds at each phase beyond that. -/
def EbpfPhase.Holds (kernel : BpfKernel) (configured : List UInt16) : EbpfPhase → Prop
  | .down | .starting | .openingLink => True
  | .openingXsks link => kernel.pins .link = some link
  | .openingPorts link xsks => kernel.pins .link = some link ∧ kernel.pins .xsks = some xsks
  | .clearing left => Pin.link ∉ left → kernel.attached = none
  | .booting | .loading => kernel.attached = none
  | .attaching maps => kernel.attached = none ∧ kernel.pins .xsks = some maps.xsks ∧
      kernel.pins .ports = some maps.ports
  | .pinning link maps => kernel.attached = some (link, maps) ∧
      kernel.pins .xsks = some maps.xsks ∧ kernel.pins .ports = some maps.ports
  | .taking link maps => kernel.Installed ⟨link, maps⟩
  | .reconciling handle _ todo => kernel.Installed handle ∧
      (∀ port, todo.foldl PortOp.apply (kernel.entries handle.maps.ports) port =
        decide (port ∈ configured)) ∧
      ∀ port, PortOp.remove port ∈ todo → port ∉ configured
  | .running handle => kernel.Installed handle ∧
      ∀ port, kernel.entries handle.maps.ports port = decide (port ∈ configured)
  | .dropping handle _ _ => ∀ link maps, kernel.attached = some (link, maps) → link = handle.link

/-- What holds of every state that a sequence of daemons reaches. -/
structure EbpfState.Sound (state : EbpfState) : Prop where
  coherent : state.kernel.Coherent
  alive : ∀ link maps, state.kernel.attached = some (link, maps) →
    state.kernel.pins .link = some link ∨ state.phase.held = some link
  phase : state.phase.Holds state.kernel state.configured

namespace BpfKernel

variable {kernel : BpfKernel} {held : Option Nat} {pin : Pin} {link : Nat} {maps : ProgramMaps}

/-- Closing descriptors removes no pin. -/
@[simp] theorem reap_pins : (kernel.reap held).pins = kernel.pins := by
  unfold reap
  split
  · split <;> rfl
  · rfl

/-- Closing descriptors gives out no id. -/
@[simp] theorem reap_next : (kernel.reap held).next = kernel.next := by
  unfold reap
  split
  · split <;> rfl
  · rfl

/-- Closing descriptors changes no map. -/
@[simp] theorem reap_entries : (kernel.reap held).entries = kernel.entries := by
  unfold reap
  split
  · split <;> rfl
  · rfl

/-- A program stays attached while its link is pinned or held open. -/
theorem reap_attached : (kernel.reap held).attached = some (link, maps) ↔
    kernel.attached = some (link, maps) ∧ (kernel.pins .link = some link ∨ held = some link) := by
  unfold reap
  split
  · next other otherMaps found =>
    split
    · next kept =>
      constructor
      · intro same
        rw [found] at same
        cases same
        exact ⟨found, kept⟩
      · exact And.left
    · next lost =>
      constructor
      · intro impossible
        cases impossible
      · rintro ⟨same, kept⟩
        rw [found] at same
        cases same
        exact absurd kept lost
  · next found =>
    rw [found]
    simp

/-- Without a pin, the last descriptor of the link takes the program with it. -/
theorem reap_of_unpinned (unpinned : kernel.pins .link = none) :
    (kernel.reap none).attached = none := by
  cases attached : (kernel.reap none).attached with
  | none => rfl
  | some found =>
    obtain ⟨-, pinned | held⟩ := reap_attached.mp attached
    · rw [unpinned] at pinned
      cases pinned
    · cases held

/-- The installed link is the only one. -/
theorem Installed.link_eq {handle : EbpfHandle} (installed : kernel.Installed handle) :
    ∀ link maps, kernel.attached = some (link, maps) → link = handle.link := by
  intro link maps attached
  cases installed.attached.symm.trans attached
  rfl

/-- Closing descriptors attaches nothing. -/
theorem reap_of_none (free : kernel.attached = none) : (kernel.reap held).attached = none := by
  rw [reap, free]
  exact free

namespace Coherent

/-- Closing descriptors keeps the kernel coherent. -/
theorem reap (coherent : kernel.Coherent) (held : Option Nat) : (kernel.reap held).Coherent where
  link := by
    intro link pinned
    rw [reap_pins] at pinned
    obtain ⟨maps, attached⟩ := coherent.link link pinned
    exact ⟨maps, reap_attached.mpr ⟨attached, .inl pinned⟩⟩
  xsks := by
    intro link maps xsks attached pinned
    rw [reap_pins] at pinned
    exact coherent.xsks link maps xsks (reap_attached.mp attached).1 pinned
  ports := by
    intro link maps ports attached pinned
    rw [reap_pins] at pinned
    exact coherent.ports link maps ports (reap_attached.mp attached).1 pinned

/-- Removing a pin keeps the kernel coherent. -/
theorem unpin (coherent : kernel.Coherent) (pin : Pin) : (kernel.unpin pin).Coherent := by
  have still : ∀ {other : Pin} {id : Nat}, (kernel.unpin pin).pins other = some id →
      kernel.pins other = some id := by
    intro other id pinned
    by_cases same : other = pin
    · subst same
      simp at pinned
    · rwa [kernel.unpin_pins_of_ne same] at pinned
  constructor
  · exact fun link pinned => coherent.link link (still pinned)
  · exact fun link maps xsks attached pinned => coherent.xsks link maps xsks attached (still pinned)
  · exact fun link maps ports attached pinned =>
      coherent.ports link maps ports attached (still pinned)

/-- With nothing attached, maps can be pinned at will. -/
theorem of_free (free : kernel.attached = none) (unpinned : kernel.pins .link = none) :
    kernel.Coherent := by
  constructor <;> simp [free, unpinned]

/-- Without a link there is no pin of one. -/
theorem unpinned (coherent : kernel.Coherent) (free : kernel.attached = none) :
    kernel.pins .link = none := by
  cases pinned : kernel.pins .link with
  | none => rfl
  | some link =>
    obtain ⟨maps, attached⟩ := coherent.link link pinned
    rw [free] at attached
    cases attached

/-- A program that is attached with the pinned maps keeps the kernel coherent. -/
theorem attach (coherent : kernel.Coherent) (free : kernel.attached = none) {maps : ProgramMaps}
    (xsks : kernel.pins .xsks = some maps.xsks) (ports : kernel.pins .ports = some maps.ports) :
    (kernel.attach maps).Coherent where
  link := by
    intro link pinned
    rw [BpfKernel.attach, coherent.unpinned free] at pinned
    cases pinned
  xsks := by
    rintro link maps' id ⟨⟩ pinned
    exact Option.some.inj (pinned.symm.trans xsks)
  ports := by
    rintro link maps' id ⟨⟩ pinned
    exact Option.some.inj (pinned.symm.trans ports)

/-- So does a pin of the attached link. -/
theorem pinLink (coherent : kernel.Coherent) {link : Nat} {maps : ProgramMaps}
    (attached : kernel.attached = some (link, maps)) : (kernel.pinLink link).Coherent where
  link := by
    intro link' pinned
    cases (kernel.pinLink_pins_link link).symm.trans pinned
    exact ⟨maps, attached⟩
  xsks := by
    intro link' maps' id attached' pinned
    rw [kernel.pinLink_pins_of_ne link (by decide)] at pinned
    exact coherent.xsks link' maps' id attached' pinned
  ports := by
    intro link' maps' id attached' pinned
    rw [kernel.pinLink_pins_of_ne link (by decide)] at pinned
    exact coherent.ports link' maps' id attached' pinned

end Coherent

end BpfKernel

namespace EbpfState.Sound

variable {state next : EbpfState} {event : EbpfEvent}

/-- Going on with another phase keeps the pins together. -/
theorem goto {kernel : BpfKernel} {configured : List UInt16} {old phase : EbpfPhase}
    (coherent : kernel.Coherent)
    (holds : phase.Holds (kernel.reap phase.held) configured) :
    (EbpfState.goto ⟨kernel, configured, old⟩ phase).Sound where
  coherent := coherent.reap _
  alive := by
    intro link maps attached
    obtain ⟨-, kept⟩ := BpfKernel.reap_attached.mp attached
    simpa [EbpfState.goto] using kept
  phase := holds

/-- A daemon that is down or clearing leaves nothing attached that is not pinned. -/
theorem attached_none (sound : state.Sound) (closed : state.phase.held = none)
    (unpinned : state.kernel.pins .link = none) : state.kernel.attached = none := by
  cases attached : state.kernel.attached with
  | none => rfl
  | some found =>
    obtain ⟨link, maps⟩ := found
    rcases sound.alive link maps attached with pinned | held
    · rw [unpinned] at pinned
      cases pinned
    · rw [closed] at held
      cases held

/-- The attached link is one to which there is a descriptor. -/
theorem alive_of_held {kernel : BpfKernel} {phase : EbpfPhase} {link : Nat} {maps : ProgramMaps}
    (attached : kernel.attached = some (link, maps)) (held : phase.held = some link) :
    ∀ link' maps', kernel.attached = some (link', maps') →
      kernel.pins .link = some link' ∨ phase.held = some link' := by
  intro link' maps' attached'
  cases attached.symm.trans attached'
  exact .inr held

/-- The link and maps of an adopted install. -/
theorem installed (sound : state.Sound) {link xsks ports : Nat}
    (pinnedLink : state.kernel.pins .link = some link)
    (pinnedXsks : state.kernel.pins .xsks = some xsks)
    (pinnedPorts : state.kernel.pins .ports = some ports) :
    state.kernel.Installed ⟨link, xsks, ports⟩ := by
  obtain ⟨maps, attached⟩ := sound.coherent.link link pinnedLink
  obtain rfl := sound.coherent.xsks link maps xsks attached pinnedXsks
  obtain rfl := sound.coherent.ports link maps ports attached pinnedPorts
  exact ⟨attached, pinnedLink, pinnedXsks, pinnedPorts⟩

/-- Every step keeps it, while the three unchecked calls work. -/
theorem step (sound : state.Sound) (moved : EbpfStep false state event next) : next.Sound := by
  obtain ⟨coherent, alive, phase⟩ := id sound
  cases moved with
  | start ports => exact ⟨coherent, alive, trivial⟩
  | found pinned => exact ⟨coherent, alive, trivial⟩
  | notFound unseen =>
    have unpinned := unseen.resolve_right Bool.false_ne_true
    exact ⟨coherent, alive, sound.attached_none rfl unpinned⟩
  | openLink pinned =>
    exact ⟨coherent, fun link maps attached => (alive link maps attached).imp_right nofun, pinned⟩
  | openXsks pinned => exact ⟨coherent, alive, phase, pinned⟩
  | openPorts pinned walk =>
    exact ⟨coherent, alive, sound.installed phase.1 phase.2 pinned, walk.exact,
      fun port => walk.spares⟩
  | adoptFailed opening => exact goto coherent fun gone => absurd List.mem_cons_self gone
  | @clear kernel configured pin left =>
    refine goto (coherent.unpin pin) ?_
    intro gone
    by_cases same : pin = .link
    · subst same
      exact BpfKernel.reap_of_unpinned kernel.unpin_pins_self
    · apply BpfKernel.reap_of_none
      exact phase (by simp [gone, Ne.symm same])
  | @clearFailed kernel configured pin left allowed =>
    have other := allowed.resolve_right Bool.false_ne_true
    exact ⟨coherent, alive, fun gone => phase (by simp [gone, other.symm])⟩
  | cleared => exact ⟨coherent, alive, phase (by simp)⟩
  | createDir => exact ⟨coherent, alive, phase⟩
  | @createMap kernel configured pin isMap missing =>
    have unpinned : (kernel.createMap pin).pins .link = none := by
      rw [kernel.createMap_pins_of_ne isMap.symm]
      exact coherent.unpinned phase
    have free : (kernel.createMap pin).attached = none := phase
    exact ⟨.of_free free unpinned, by simp [free], free⟩
  | loaded xsks ports => exact ⟨coherent, alive, phase, xsks, ports⟩
  | @attach kernel configured maps free =>
    obtain ⟨-, xsks, ports⟩ := phase
    have attached : (kernel.attach maps).attached = some (kernel.next, maps) := rfl
    exact ⟨coherent.attach free xsks ports, alive_of_held attached rfl, attached, xsks, ports⟩
  | @pin kernel configured link maps free =>
    obtain ⟨attached, xsks, ports⟩ := phase
    refine ⟨coherent.pinLink attached, alive_of_held attached rfl, attached,
      kernel.pinLink_pins_link link, ?_, ?_⟩
    · rw [kernel.pinLink_pins_of_ne link (by decide)]
      exact xsks
    · rw [kernel.pinLink_pins_of_ne link (by decide)]
      exact ports
  | take walk => exact ⟨coherent, alive, phase, walk.exact, fun port => walk.spares⟩
  | bootFailed booting => exact goto coherent trivial
  | @reconcile kernel configured handle adopted op todo =>
    obtain ⟨⟨attached, link, xsks, ports⟩, exact, spared⟩ := phase
    refine ⟨⟨coherent.link, coherent.xsks, coherent.ports⟩, alive,
      ⟨attached, link, xsks, ports⟩, ?_, ?_⟩
    · intro port
      rw [← exact port, List.foldl_cons, BpfKernel.perform_entries_self]
    · exact fun port member => spared port (List.mem_cons_of_mem _ member)
  | reconcileFailed => exact ⟨coherent, alive, phase.1.link_eq⟩
  | ready => exact ⟨coherent, alive, phase.1, phase.2.1⟩
  | handoff => exact goto coherent trivial
  | coldStop => exact ⟨coherent, alive, phase.1.link_eq⟩
  | @unpin kernel configured handle adopted pin left =>
    refine ⟨coherent.unpin pin, ?_, phase⟩
    intro link maps attached
    exact .inr (congrArg some (phase link maps attached).symm)
  | unpinFailed => exact ⟨coherent, alive, phase⟩
  | @dropped kernel configured handle adopted =>
    refine goto coherent ?_
    cases adopted with
    | true => exact fun gone => absurd List.mem_cons_self gone
    | false => trivial
  | crash => exact goto coherent trivial

end EbpfState.Sound

section Runs

variable {log : List EbpfEvent} {state : EbpfState}

/-- Every state of a run is sound, as long as the three unchecked calls succeed. -/
theorem EbpfRun.sound (run : EbpfRun false log state) : state.Sound := by
  refine run.invariant EbpfState.Sound ?_ fun _ sound moved => sound.step moved
  exact ⟨.of_free rfl rfl, nofun, trivial⟩

/-- Whatever happened before (daemons that stopped, handed over, were killed between two calls, or
failed at any call but the three whose failure goes unchecked), a daemon that has become ready
holds the maps of the attached program, all of it is pinned for a successor, and the program's
verdict on every frame is the one for the configured ports. And whenever no daemon is there,
nothing is attached that is not pinned. -/
theorem running_filters_configured (run : EbpfRun false log state) :
    (∀ handle, state.phase = .running handle → state.kernel.Installed handle ∧
      ∀ redirect frame, Ebpf.pesigitg state.kernel.filter redirect frame =
        Ebpf.pesigitg (fun port => decide (port ∈ state.configured)) redirect frame) ∧
      (state.phase = .down → ∀ link maps, state.kernel.attached = some (link, maps) →
        state.kernel.pins .link = some link) := by
  obtain ⟨coherent, alive, holds⟩ := run.sound
  constructor
  · intro handle running
    rw [running] at holds
    obtain ⟨installed, exact⟩ := holds
    have same : state.kernel.filter = fun port => decide (port ∈ state.configured) := by
      funext port
      rw [BpfKernel.filter, installed.attached]
      exact exact port
    exact ⟨installed, fun redirect frame => by rw [same]⟩
  · intro down link maps attached
    refine (alive link maps attached).resolve_right ?_
    rw [down]
    exact nofun

end Runs

namespace SampleInstall

def maps : ProgramMaps := ⟨0, 1⟩

def handle : EbpfHandle := ⟨2, maps⟩

/-- A loaded program whose link is pinned. -/
def pinned : BpfKernel :=
  (((BpfKernel.new.createMap .xsks).createMap .ports).attach maps).pinLink 2

def served : BpfKernel := pinned.perform 1 (.insert 443)

/-- The walk over an empty map, with one port to insert. -/
theorem empty (flaky : Bool) : Walk flaky (pinned.entries maps.ports) [443] [] [443] where
  listed := nofun
  complete := fun _ _ there => absurd there Bool.false_ne_true
  same := fun _ => Iff.rfl
  liveOnce := by decide
  orderOnce := by decide

/-- The walk over a map with one port, with another one to insert. -/
theorem one (flaky : Bool) :
    Walk flaky (served.entries maps.ports) [443, 8443] [443] [8443, 443] where
  listed := by
    intro port member
    cases List.mem_singleton.mp member
    rfl
  complete := by
    intro _ port there
    by_contra absent
    rw [List.mem_singleton] at absent
    simp [served, pinned, maps, PortOp.apply, absent, BpfKernel.perform, BpfKernel.attach,
      BpfKernel.pinLink, BpfKernel.createMap, BpfKernel.new] at there
  same := by
    intro port
    simp [or_comm]
  liveOnce := by decide
  orderOnce := by decide

/-- A daemon for port 443 boots on an interface where nothing is pinned. -/
theorem boots (flaky : Bool) :
    ∃ log, EbpfRun flaky log ⟨served, [443], .running handle⟩ := by
  have started : EbpfRun flaky _ _ := Trace.nil.snoc (EbpfStep.start [443])
  have loading := (started.snoc (.notFound (.inl rfl))).snoc .createDir
  have created := (loading.snoc (.createMap (show Pin.xsks ≠ .link by decide) rfl)).snoc
    (.createMap (show Pin.ports ≠ .link by decide) rfl)
  have attached :=
    (created.snoc (.loaded (show _ = some maps.xsks from rfl) rfl)).snoc (.attach rfl)
  have taken := (attached.snoc (.pin rfl)).snoc (.take (empty flaky))
  exact ⟨_, (taken.snoc .reconcile).snoc .ready⟩

/-- A successor that serves one port more finds the pins and takes over. -/
theorem adopts (flaky : Bool) : ∃ more,
    Trace (EbpfStep flaky) ⟨served, [443], .running handle⟩
      ([.stop true, .start [443, 8443]] ++ more)
      ⟨served.perform 1 (.insert 8443), [443, 8443], .running handle⟩ ∧
    more = [.proceed, .proceed, .proceed, .proceed, .proceed, .ready] := by
  have started : Trace (EbpfStep flaky) ⟨served, [443], .running handle⟩ _ _ :=
    (Trace.nil.snoc .handoff).snoc (.start [443, 8443])
  have opened := (started.snoc (.found (show _ = some 2 from rfl))).snoc (.openLink rfl)
  have walked := (opened.snoc (.openXsks (show _ = some 0 from rfl))).snoc
    (.openPorts (show _ = some 1 from rfl) (one flaky))
  exact ⟨_, (walked.snoc .reconcile).snoc .ready, rfl⟩

end SampleInstall

open SampleInstall in
/-- The sample daemon looks for port 443 only. -/
theorem running_filters_configured_sample : ∃ log state, EbpfRun false log state ∧
    state.kernel.Installed handle ∧
    Ebpf.pesigitg state.kernel.filter (.ok .redirect) =
      Ebpf.pesigitg (fun port => decide (port ∈ [443])) (.ok .redirect) := by
  obtain ⟨log, run⟩ := boots false
  obtain ⟨installed, same⟩ := (running_filters_configured run).1 handle rfl
  exact ⟨log, _, run, installed, funext fun frame => same _ frame⟩

open SampleInstall in
/-- Where the link's pin twice cannot be removed although the others can, a daemon ends up with maps
that the attached program does not use: the cold boot pins new maps before it fails to attach, and
the next start adopts them together with the old link. -/
theorem foreign_maps_adopted : ∃ log state adopted, EbpfRun true log state ∧
    state.phase = .running adopted ∧ state.kernel.attached = some (2, maps) ∧
    adopted.maps ≠ maps := by
  have unlisted (entries : UInt16 → Bool) : Walk true entries [443] [] [443] :=
    ⟨nofun, nofun, fun _ => Iff.rfl, by decide, by decide⟩
  obtain ⟨log, run⟩ := boots true
  have dropping := ((run.snoc .coldStop).snoc .unpinFailed).snoc .unpin
  have stopped := (dropping.snoc .unpin).snoc .dropped
  have opening := ((stopped.snoc (.start [443])).snoc (.found (show _ = some 2 from rfl))).snoc
    (.openLink rfl)
  have clearing := (opening.snoc (.adoptFailed (.inr (.inl ⟨2, rfl⟩)))).snoc
    (.clearFailed (.inr rfl))
  have loading := (((clearing.snoc .clear).snoc .clear).snoc .cleared).snoc .createDir
  have created := (loading.snoc (.createMap (show Pin.xsks ≠ .link by decide) rfl)).snoc
    (.createMap (show Pin.ports ≠ .link by decide) rfl)
  have loaded := created.snoc (.loaded (show _ = some (ProgramMaps.mk 3 4).xsks from rfl) rfl)
  have failed := loaded.snoc (.bootFailed (.inr (.inr (.inl ⟨_, rfl⟩))))
  have reopened := ((failed.snoc (.start [443])).snoc (.found (show _ = some 2 from rfl))).snoc
    (.openLink rfl)
  have walked := (reopened.snoc (.openXsks (show _ = some 3 from rfl))).snoc
    (.openPorts (show _ = some 4 from rfl) (unlisted _))
  exact ⟨_, _, _, (walked.snoc .reconcile).snoc .ready, rfl, rfl, by decide⟩

section Known

variable {flaky : Bool} {log : List EbpfEvent} {state next : EbpfState} {event : EbpfEvent}

/-- The ids of the ports maps that are pinned or in use were given out before, and a daemon that
reconciles removes no port that it is configured for. -/
structure EbpfState.Known (state : EbpfState) : Prop where
  pinned : ∀ id, state.kernel.pins .ports = some id → id < state.kernel.next
  program : ∀ link maps, state.kernel.attached = some (link, maps) → maps.ports < state.kernel.next
  loaded : ∀ maps, state.phase = .attaching maps → maps.ports < state.kernel.next
  spared : ∀ handle adopted todo, state.phase = .reconciling handle adopted todo →
    ∀ port, PortOp.remove port ∈ todo → port ∉ state.configured

/-- The phases in which a daemon has neither loaded a program nor ports to change. -/
def EbpfPhase.plain : EbpfPhase → Bool
  | .attaching _ | .reconciling _ _ _ => false
  | _ => true

namespace EbpfState.Known

variable {kernel : BpfKernel} {configured : List UInt16} {old phase : EbpfPhase}

/-- In a plain phase only the ids count. -/
theorem plain {ports : List UInt16}
    (pinned : ∀ id, kernel.pins .ports = some id → id < kernel.next)
    (program : ∀ link maps, kernel.attached = some (link, maps) → maps.ports < kernel.next)
    (plain : phase.plain = true) : EbpfState.Known ⟨kernel, ports, phase⟩ where
  pinned := pinned
  program := program
  loaded := by
    rintro maps rfl
    cases plain
  spared := by
    rintro handle adopted todo rfl
    cases plain

/-- The daemon goes on to a plain phase without touching the kernel. -/
theorem stay (known : EbpfState.Known ⟨kernel, configured, old⟩) {ports : List UInt16}
    (isPlain : phase.plain = true) : EbpfState.Known ⟨kernel, ports, phase⟩ :=
  .plain known.pinned known.program isPlain

/-- The daemon closes descriptors. -/
theorem goto (known : state.Known) (isPlain : phase.plain = true) : (state.goto phase).Known := by
  refine .plain ?_ ?_ isPlain
  · intro id pinned
    rw [BpfKernel.reap_pins] at pinned
    rw [BpfKernel.reap_next]
    exact known.pinned id pinned
  · intro link maps attached
    rw [BpfKernel.reap_next]
    exact known.program link maps (BpfKernel.reap_attached.mp attached).1

/-- A pin is removed. -/
theorem unpin (known : EbpfState.Known ⟨kernel, configured, old⟩) (pin : Pin)
    (isPlain : phase.plain = true) :
    EbpfState.Known ⟨kernel.unpin pin, configured, phase⟩ := by
  refine .plain ?_ known.program isPlain
  intro id pinned
  by_cases same : Pin.ports = pin
  · subst same
    simp at pinned
  · rw [kernel.unpin_pins_of_ne same] at pinned
    exact known.pinned id pinned

/-- A map is created under an id that was free. -/
theorem createMap (known : EbpfState.Known ⟨kernel, configured, old⟩) (pin : Pin) :
    EbpfState.Known ⟨kernel.createMap pin, configured, .loading⟩ := by
  refine .plain ?_ ?_ rfl
  · intro id pinned
    by_cases same : Pin.ports = pin
    · subst same
      simp only [BpfKernel.createMap, Function.update_self, Option.some.injEq] at pinned
      exact pinned ▸ Nat.lt_succ_self _
    · rw [kernel.createMap_pins_of_ne same] at pinned
      exact Nat.lt_succ_of_lt (known.pinned id pinned)
  · exact fun link maps attached => Nat.lt_succ_of_lt (known.program link maps attached)

/-- The daemon has ports to change, none of which it removes although it is configured for it. -/
theorem reconciling (known : EbpfState.Known ⟨kernel, configured, old⟩) {handle : EbpfHandle}
    {adopted : Bool} {todo : List PortOp}
    (spared : ∀ port, PortOp.remove port ∈ todo → port ∉ configured) :
    EbpfState.Known ⟨kernel, configured, .reconciling handle adopted todo⟩ where
  pinned := known.pinned
  program := known.program
  loaded := nofun
  spared := by
    rintro _ _ _ ⟨⟩
    exact spared

/-- Every step keeps it, whatever fails. -/
theorem step (known : state.Known) (moved : EbpfStep flaky state event next) : next.Known := by
  cases moved with
  | start ports => exact known.stay rfl
  | found pinned => exact known.stay rfl
  | notFound unseen => exact known.stay rfl
  | openLink pinned => exact known.stay rfl
  | openXsks pinned => exact known.stay rfl
  | openPorts pinned walk => exact known.reconciling fun port => walk.spares
  | adoptFailed opening => exact known.goto rfl
  | clear => exact (known.unpin _ rfl).goto rfl
  | clearFailed allowed => exact known.stay rfl
  | cleared => exact known.stay rfl
  | createDir => exact known.stay rfl
  | createMap isMap missing => exact known.createMap _
  | loaded xsks ports =>
    refine ⟨known.pinned, known.program, ?_, nofun⟩
    rintro _ ⟨⟩
    exact known.pinned _ ports
  | @attach kernel configured maps free =>
    refine .plain (fun id pinned => Nat.lt_succ_of_lt (known.pinned id pinned)) ?_ rfl
    rintro _ _ ⟨⟩
    exact Nat.lt_succ_of_lt (known.loaded maps rfl)
  | @pin kernel configured link maps free =>
    refine .plain ?_ known.program rfl
    intro id pinned
    rw [kernel.pinLink_pins_of_ne link (by decide)] at pinned
    exact known.pinned id pinned
  | take walk => exact known.reconciling fun port => walk.spares
  | bootFailed booting => exact known.goto rfl
  | reconcile =>
    have spared := known.spared _ _ _ rfl
    exact ⟨known.pinned, known.program, nofun, by
      rintro _ _ _ ⟨⟩
      exact fun port member => spared port (List.mem_cons_of_mem _ member)⟩
  | reconcileFailed => exact known.stay rfl
  | ready => exact known.stay rfl
  | handoff => exact known.goto rfl
  | coldStop => exact known.stay rfl
  | unpin => exact known.unpin _ rfl
  | unpinFailed => exact known.stay rfl
  | dropped =>
    apply known.goto
    split <;> rfl
  | crash => exact known.goto rfl

end EbpfState.Known

/-- Every state of a run is known, whatever calls fail. -/
theorem EbpfRun.known (run : EbpfRun flaky log state) : state.Known := by
  refine run.invariant EbpfState.Known ?_ fun _ known moved => known.step moved
  exact .plain nofun nofun rfl

end Known

section Handover

variable {flaky : Bool} {log : List EbpfEvent} {state : EbpfState}

/-- The program is attached through its pin and looks for the port, which the daemon wants. -/
structure EbpfState.Serves (state : EbpfState) (link : Nat) (maps : ProgramMaps) (port : UInt16) :
    Prop where
  attached : state.kernel.attached = some (link, maps)
  pinned : state.kernel.pins .link = some link
  present : state.kernel.entries maps.ports port = true
  wanted : state.phase ≠ .down → port ∈ state.configured

namespace EbpfState.Serves

variable {next : EbpfState} {event : EbpfEvent} {kernel : BpfKernel} {configured : List UInt16}
  {old phase : EbpfPhase} {link : Nat} {maps : ProgramMaps} {port : UInt16}

/-- The daemon goes on without touching the kernel. -/
theorem stay (serves : EbpfState.Serves ⟨kernel, configured, old⟩ link maps port)
    (up : old ≠ .down) : EbpfState.Serves ⟨kernel, configured, phase⟩ link maps port :=
  ⟨serves.attached, serves.pinned, serves.present, fun _ => serves.wanted up⟩

/-- The daemon closes descriptors. -/
theorem goto (serves : state.Serves link maps port) (up : phase = .down ∨ state.phase ≠ .down) :
    (state.goto phase).Serves link maps port where
  attached := BpfKernel.reap_attached.mpr ⟨serves.attached, .inl serves.pinned⟩
  pinned := by
    rw [EbpfState.goto, BpfKernel.reap_pins]
    exact serves.pinned
  present := by
    rw [EbpfState.goto, BpfKernel.reap_entries]
    exact serves.present
  wanted := fun notDown => serves.wanted (up.resolve_left notDown)

/-- A pin other than the link's is removed. -/
theorem unpin (serves : EbpfState.Serves ⟨kernel, configured, old⟩ link maps port) {pin : Pin}
    (other : pin ≠ .link) (up : old ≠ .down) :
    EbpfState.Serves ⟨kernel.unpin pin, configured, phase⟩ link maps port where
  attached := serves.attached
  pinned := by
    rw [kernel.unpin_pins_of_ne other.symm]
    exact serves.pinned
  present := serves.present
  wanted := fun _ => serves.wanted up

/-- A new map is not the one the program looks at. -/
theorem createMap (serves : EbpfState.Serves ⟨kernel, configured, old⟩ link maps port)
    (known : EbpfState.Known ⟨kernel, configured, old⟩) {pin : Pin} (isMap : pin ≠ .link)
    (up : old ≠ .down) :
    EbpfState.Serves ⟨kernel.createMap pin, configured, phase⟩ link maps port where
  attached := serves.attached
  pinned := by
    rw [kernel.createMap_pins_of_ne isMap.symm]
    exact serves.pinned
  present := by
    have older := known.program link maps serves.attached
    have other : maps.ports ≠ kernel.next := Nat.ne_of_lt older
    simp only [BpfKernel.createMap, Function.update_of_ne other]
    exact serves.present
  wanted := fun _ => serves.wanted up

/-- A change of a ports map that removes no configured port. -/
theorem perform (serves : EbpfState.Serves ⟨kernel, configured, old⟩ link maps port)
    (up : old ≠ .down) (map : Nat) {op : PortOp}
    (spared : ∀ removed, op = .remove removed → removed ∉ configured) :
    EbpfState.Serves ⟨kernel.perform map op, configured, phase⟩ link maps port where
  attached := serves.attached
  pinned := serves.pinned
  present := by
    by_cases same : maps.ports = map
    · -- The map of the program itself: the port is wanted, so it is not the one removed.
      subst same
      rw [BpfKernel.perform_entries_self]
      cases op with
      | remove removed =>
        have distinct : port ≠ removed := fun same =>
          spared removed rfl (same ▸ serves.wanted up)
        exact (Function.update_of_ne distinct _ _).trans serves.present
      | insert inserted =>
        by_cases same : port = inserted
        · subst same
          exact Function.update_self _ _ (kernel.entries maps.ports)
        · exact (Function.update_of_ne same _ _).trans serves.present
    · simp only [BpfKernel.perform, Function.update_of_ne same]
      exact serves.present
  wanted := fun _ => serves.wanted up

/-- Every step keeps a port that the daemon wants, unless it unpins the link. -/
theorem step (serves : state.Serves link maps port) (known : state.Known)
    (moved : EbpfStep flaky state event next) (keeps : event ≠ .unpin .link)
    (wants : ∀ ports, event = .start ports → port ∈ ports) : next.Serves link maps port := by
  cases moved with
  | start ports => exact ⟨serves.attached, serves.pinned, serves.present, fun _ => wants ports rfl⟩
  | found pinned => exact serves.stay nofun
  | notFound unseen => exact serves.stay nofun
  | openLink pinned => exact serves.stay nofun
  | openXsks pinned => exact serves.stay nofun
  | openPorts pinned walk => exact serves.stay nofun
  | adoptFailed opening =>
    refine serves.goto (.inr ?_)
    rcases opening with here | ⟨_, here⟩ | ⟨_, _, here⟩ <;> rw [here] <;> exact nofun
  | clear => exact (serves.unpin (fun same => keeps (congrArg _ same)) nofun).goto (.inr nofun)
  | clearFailed allowed => exact serves.stay nofun
  | cleared => exact serves.stay nofun
  | createDir => exact serves.stay nofun
  | createMap isMap missing => exact serves.createMap known isMap nofun
  | loaded xsks ports => exact serves.stay nofun
  | attach free => exact absurd (serves.attached.symm.trans free) nofun
  | pin free => exact absurd (serves.pinned.symm.trans free) nofun
  | take walk => exact serves.stay nofun
  | bootFailed booting => exact serves.goto (.inl rfl)
  | @reconcile kernel configured handle adopted op todo =>
    refine serves.perform nofun _ ?_
    rintro removed rfl
    exact known.spared handle adopted _ rfl removed List.mem_cons_self
  | reconcileFailed => exact serves.stay nofun
  | ready => exact serves.stay nofun
  | handoff => exact serves.goto (.inl rfl)
  | coldStop => exact serves.stay nofun
  | unpin => exact serves.unpin (fun same => keeps (congrArg _ same)) nofun
  | unpinFailed => exact serves.stay nofun
  | dropped => exact serves.goto (.inr nofun)
  | crash => exact serves.goto (.inl rfl)

end EbpfState.Serves

/-- From a state in which the program is attached through its pin and looks for a port, and for as
long as nothing removes that pin and every daemon that starts configures the port, the same program
stays attached and looks for it: across handovers, kills, and starts that are adopted or cut short
anywhere, and whatever system call fails. -/
theorem port_filtered_throughout {more : List EbpfEvent} {final : EbpfState} {link : Nat}
    {maps : ProgramMaps} {port : UInt16} (run : EbpfRun flaky log state)
    (serves : state.Serves link maps port) (rest : Trace (EbpfStep flaky) state more final)
    (keeps : EbpfEvent.unpin .link ∉ more)
    (wants : ∀ ports, EbpfEvent.start ports ∈ more → port ∈ ports) :
    final.kernel.attached = some (link, maps) ∧ final.kernel.filter port = true := by
  have kept : final.Known ∧ final.Serves link maps port := by
    refine rest.invariant (fun state => state.Known ∧ state.Serves link maps port)
      ⟨EbpfRun.known run, serves⟩ ?_
    rintro state event next member ⟨known, serves⟩ moved
    refine ⟨known.step moved, serves.step known moved ?_ ?_⟩
    · rintro rfl
      exact keeps member
    · rintro ports rfl
      exact wants ports member
  refine ⟨kept.2.attached, ?_⟩
  rw [BpfKernel.filter, kept.2.attached]
  exact kept.2.present

end Handover

open SampleInstall in
/-- Port 443 is looked for all through the handover to a daemon that also serves 8443. -/
theorem port_filtered_throughout_sample : ∃ log more final, EbpfRun false log final ∧
    Trace (EbpfStep false) ⟨served, [443], .running handle⟩ more final ∧
    EbpfEvent.stop true ∈ more ∧ final.kernel.attached = some (2, maps) ∧
    final.kernel.filter 443 = true := by
  obtain ⟨log, run⟩ := boots false
  obtain ⟨more, rest, rfl⟩ := adopts false
  have serves : EbpfState.Serves ⟨served, [443], .running handle⟩ 2 maps 443 :=
    ⟨rfl, rfl, rfl, fun _ => List.mem_singleton_self 443⟩
  have kept := port_filtered_throughout run serves rest (by decide) (by simp)
  exact ⟨_, _, _, run.trans rest, rest, by decide, kept⟩

end Pesigitg
