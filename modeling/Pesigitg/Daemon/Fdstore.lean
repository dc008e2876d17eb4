import Mathlib.Data.List.Nodup
import Pesigitg.Base.LastWrite
import Pesigitg.Daemon.FileConfig

/-!
# The descriptor store

A daemon that stops gives the socket and the memory of every queue to systemd, each under a name
made from the queue id. The next daemon gets the descriptors back in some order, possibly with
others among them, and joins sockets to memories by the id it reads out of the names.

A descriptor stands for the open file behind it: its number changes on the way, what it refers
to does not.
-/

namespace Pesigitg

open Base

namespace Fdstore

def sockSuffix : String := "-sock"

def umemSuffix : String := "-umem"

def namePrefix : String := "pesigitg-q"

inductive FdKind where
  | sock
  | umem
deriving DecidableEq, Repr

/-- `sock_name`. -/
def sockName (queueId : UInt32) : String := s!"{namePrefix}{queueId}{sockSuffix}"

/-- `umem_name`. -/
def umemName (queueId : UInt32) : String := s!"{namePrefix}{queueId}{umemSuffix}"

/-- `parse_name`. -/
def parseName (name : String) : Option (UInt32 × FdKind) := do
  let body ← name.toList.dropPrefix? namePrefix.toList
  match body.dropSuffix? sockSuffix.toList with
  | some qid => pure (← (parseU32 qid).toOption, .sock)
  | none =>
    match body.dropSuffix? umemSuffix.toList with
    | some qid => pure (← (parseU32 qid).toOption, .umem)
    | none => none

section Names

/-- A suffix that was added is dropped again. -/
theorem dropSuffix_append {chars suffix : List Char} :
    (chars ++ suffix).dropSuffix? suffix = some chars :=
  List.dropSuffix?_eq_some_iff.mpr ⟨suffix, rfl, beq_self_eq_true _⟩

/-- A front that was added is dropped again. -/
theorem dropPrefix_append {front chars : List Char} :
    (front ++ chars).dropPrefix? front = some chars :=
  List.dropPrefix?_eq_some_iff.mpr ⟨front, rfl, beq_self_eq_true _⟩

/-- A text cannot end in both suffixes. -/
theorem dropSuffix_sock_umem {chars : List Char} :
    (chars ++ umemSuffix.toList).dropSuffix? sockSuffix.toList = none := by
  cases found : (chars ++ umemSuffix.toList).dropSuffix? sockSuffix.toList with
  | none => rfl
  | some front =>
    obtain ⟨suffix, same, equal⟩ := List.dropSuffix?_eq_some_iff.mp found
    rw [eq_of_beq equal] at same
    have suffixes := List.append_inj_right' same (by simp [umemSuffix, sockSuffix])
    simp [umemSuffix, sockSuffix] at suffixes

/-- The name of a socket gives its queue back. -/
@[simp] theorem parseName_sockName (queueId : UInt32) :
    parseName (sockName queueId) = some (queueId, .sock) := by
  have chars : (sockName queueId).toList =
      namePrefix.toList ++ ((toString queueId).toList ++ sockSuffix.toList) := by
    simp [sockName, String.toList_append, toString]
  simp only [parseName, chars, dropPrefix_append, Option.bind_eq_bind, Option.bind_some,
    dropSuffix_append, parseU32_toString, Except.toOption, Option.pure_def]

/-- The name of a packet memory gives its queue back. -/
@[simp] theorem parseName_umemName (queueId : UInt32) :
    parseName (umemName queueId) = some (queueId, .umem) := by
  have chars : (umemName queueId).toList =
      namePrefix.toList ++ ((toString queueId).toList ++ umemSuffix.toList) := by
    simp [umemName, String.toList_append, toString]
  simp only [parseName, chars, dropPrefix_append, Option.bind_eq_bind, Option.bind_some,
    dropSuffix_sock_umem, dropSuffix_append, parseU32_toString, Except.toOption, Option.pure_def]

end Names

variable {Fd : Type}

section Export

/-- A queue with its socket and its memory. -/
abbrev Triple (Fd : Type) := UInt32 × Fd × Fd

/-- A descriptor under its name. -/
abbrev Named (Fd : Type) := Fd × String

/-- What an export finds: whether systemd listens, and how it answers each message. -/
structure Systemd (Fd : Type) where
  notifySocket : Bool
  notify : Named Fd → Except String Unit

/-- How far an export came. An error carries its contexts, outermost first. -/
structure Export (Fd : Type) where
  sent : List (Named Fd)
  exported : Nat
  outcome : Except (List String) Unit

/-- `send_one`: what was sent, and whether all of it was. -/
def sendOne (systemd : Systemd Fd) (queueId : UInt32) (sock umem : Fd) :
    List (Named Fd) × Except (List String) Unit :=
  match systemd.notify (sock, sockName queueId) with
  | .error cause => ([], .error ["notify_with_fds(sock)", cause])
  | .ok () =>
    match systemd.notify (umem, umemName queueId) with
    | .error cause => ([(sock, sockName queueId)], .error ["notify_with_fds(umem)", cause])
    | .ok () => ([(sock, sockName queueId), (umem, umemName queueId)], .ok ())

/-- The loop of `export_to_systemd`. -/
def exportLoop (systemd : Systemd Fd) : List (Triple Fd) → Export Fd
  | [] => ⟨[], 0, .ok ()⟩
  | (qid, sock, umem) :: fds =>
    match sendOne systemd qid sock umem with
    | (sent, .error contexts) => ⟨sent, 0, .error (s!"FDSTORE export for queue {qid}" :: contexts)⟩
    | (sent, .ok ()) =>
      let rest := exportLoop systemd fds
      ⟨sent ++ rest.sent, rest.exported + 1, rest.outcome⟩

/-- `export_to_systemd`. It returns the number of exported queues when the outcome is good. -/
def exportToSystemd (systemd : Systemd Fd) (fds : List (Triple Fd)) : Export Fd :=
  if systemd.notifySocket then exportLoop systemd fds else ⟨[], 0, .ok ()⟩

end Export

section Inherit

/-- `InheritedFds`. -/
structure InheritedFds (Fd : Type) where
  byQueue : UInt32 → Option (Fd × Fd)

/-- The two maps the descriptors are sorted into. -/
structure Collected (Fd : Type) where
  socks : UInt32 → Option Fd
  umems : UInt32 → Option Fd

/-- One round of the loop over the entries. A later descriptor replaces an earlier one. -/
def collectOne (maps : Collected Fd) (entry : Named Fd) : Collected Fd :=
  match parseName entry.2 with
  | some (qid, .sock) => { maps with socks := Function.update maps.socks qid (some entry.1) }
  | some (qid, .umem) => { maps with umems := Function.update maps.umems qid (some entry.1) }
  | none => maps

def collect (entries : List (Named Fd)) : Collected Fd :=
  entries.foldl collectOne ⟨fun _ => none, fun _ => none⟩

/-- The loop over the sockets, in the order the map gives them: every round takes the memory of
its queue out of the other map. -/
def pairQueues (umems : UInt32 → Option Fd) (byQueue : UInt32 → Option (Fd × Fd)) :
    List (UInt32 × Fd) → UInt32 → Option (Fd × Fd)
  | [] => byQueue
  | (qid, sock) :: socks =>
    match umems qid with
    | some umem =>
      pairQueues (Function.update umems qid none) (Function.update byQueue qid (some (sock, umem)))
        socks
    | none => pairQueues umems byQueue socks

/-- An order in which a hash map may give its entries. -/
structure Enumerates (order : List (UInt32 × Fd)) (map : UInt32 → Option Fd) : Prop where
  distinct : (order.map Prod.fst).Nodup
  mem_iff : ∀ qid fd, (qid, fd) ∈ order ↔ map qid = some fd

/-- `inherit_from_systemd`, over what `listen_fds_with_names` returned and the order in which the
map of sockets is walked. -/
def inheritFromSystemd (order : List (UInt32 × Fd)) (entries : Except String (List (Named Fd))) :
    Except (List String) (InheritedFds Fd) :=
  match entries with
  | .error cause => .error ["listen_fds_with_names from systemd", cause]
  | .ok entries => .ok ⟨pairQueues (collect entries).umems (fun _ => none) order⟩

end Inherit

/-- The entries of one kind, by the queue their name gives. -/
def ofKind (kind : FdKind) (entries : List (Named Fd)) : List (UInt32 × Fd) :=
  entries.filterMap fun entry =>
    match parseName entry.2 with
    | some (qid, found) => if found = kind then some (qid, entry.1) else none
    | none => none

/-- The member of a pair that is of a kind. -/
def FdKind.pick : FdKind → Fd → Fd → Fd
  | .sock, own, _ => own
  | .umem, _, own => own

/-- The descriptors of whole queues, under their names. -/
def named (fds : List (Triple Fd)) : List (Named Fd) :=
  fds.flatMap fun (qid, sock, umem) => [(sock, sockName qid), (umem, umemName qid)]

section Sorting

variable {kind : FdKind} {qid : UInt32} {fd : Fd} {entries : List (Named Fd)}
  {fds : List (Triple Fd)}

/-- A descriptor is of a queue and kind if its name says so. -/
theorem mem_ofKind :
    (qid, fd) ∈ ofKind kind entries ↔ ∃ name, (fd, name) ∈ entries ∧
      parseName name = some (qid, kind) := by
  simp only [ofKind, List.mem_filterMap, Prod.exists]
  constructor
  · rintro ⟨found, name, member, hit⟩
    split at hit
    · next qid' kind' parsed =>
      split at hit
      · next same =>
        cases hit
        exact ⟨name, member, by rw [parsed, same]⟩
      · cases hit
    · cases hit
  · rintro ⟨name, member, parsed⟩
    exact ⟨fd, name, member, by simp [parsed]⟩

/-- The two maps hold what was last written for each queue. -/
theorem collect_eq :
    collect entries = ⟨insertAll (ofKind .sock entries) fun _ => none,
      insertAll (ofKind .umem entries) fun _ => none⟩ := by
  induction entries using List.reverseRecOn with
  | nil => rfl
  | append_singleton entries entry ih =>
    have last : collect (entries ++ [entry]) = collectOne (collect entries) entry := by
      rw [collect, List.foldl_append]
      rfl
    have split (kind : FdKind) :
        ofKind kind (entries ++ [entry]) = ofKind kind entries ++ ofKind kind [entry] :=
      List.filterMap_append
    rw [last, ih, collectOne, split, split]
    split
    · next parsed => simp [ofKind, parsed, insertAll, List.foldl_append]
    · next parsed => simp [ofKind, parsed, insertAll, List.foldl_append]
    · next parsed => simp [ofKind, parsed]

/-- Named descriptors are listed under their queue and kind. -/
theorem mem_ofKind_named :
    (qid, fd) ∈ ofKind kind (named fds) ↔
      ∃ sock umem, (qid, sock, umem) ∈ fds ∧ fd = kind.pick sock umem := by
  rw [mem_ofKind]
  simp only [named, List.mem_flatMap, Prod.exists]
  constructor
  · rintro ⟨name, ⟨found, sock, umem, member, hit⟩, parsed⟩
    simp only [List.mem_cons, Prod.mk.injEq, List.not_mem_nil, or_false] at hit
    obtain ⟨rfl, rfl⟩ | ⟨rfl, rfl⟩ := hit
    · cases (parseName_sockName found).symm.trans parsed
      exact ⟨fd, umem, member, rfl⟩
    · cases (parseName_umemName found).symm.trans parsed
      exact ⟨sock, fd, member, rfl⟩
  · rintro ⟨sock, umem, member, same⟩
    cases kind with
    | sock =>
      exact ⟨sockName qid, ⟨qid, sock, umem, member, by simp [same, FdKind.pick]⟩,
        parseName_sockName qid⟩
    | umem =>
      exact ⟨umemName qid, ⟨qid, sock, umem, member, by simp [same, FdKind.pick]⟩,
        parseName_umemName qid⟩

end Sorting

section Joining

variable {qid : UInt32} {sock : Fd} {order : List (UInt32 × Fd)} {socks umems : UInt32 → Option Fd}
  {byQueue : UInt32 → Option (Fd × Fd)}

/-- A queue without a socket is not paired. -/
theorem pairQueues_of_not_mem (absent : qid ∉ order.map Prod.fst) :
    pairQueues umems byQueue order qid = byQueue qid := by
  induction order generalizing umems byQueue with
  | nil => rfl
  | cons entry rest ih =>
    obtain ⟨key, first⟩ := entry
    rw [List.map_cons, List.mem_cons, not_or] at absent
    cases taken : umems key with
    | none => simp only [pairQueues, taken, ih absent.2]
    | some umem => simp only [pairQueues, taken, ih absent.2, Function.update_of_ne absent.1]

/-- A round for one queue leaves the memories of the others in place. -/
theorem pairQueues_of_mem (distinct : (order.map Prod.fst).Nodup) (member : (qid, sock) ∈ order) :
    pairQueues umems byQueue order qid = ((umems qid).map (sock, ·)).or (byQueue qid) := by
  induction order generalizing umems byQueue with
  | nil => cases member
  | cons entry rest ih =>
    obtain ⟨key, first⟩ := entry
    rw [List.map_cons, List.nodup_cons] at distinct
    obtain here | later := List.mem_cons.mp member
    · cases here
      cases taken : umems qid with
      | none => simp [pairQueues, taken, pairQueues_of_not_mem distinct.1]
      | some umem => simp [pairQueues, taken, pairQueues_of_not_mem distinct.1]
    · have other : qid ≠ key := by
        rintro rfl
        exact distinct.1 (List.mem_map.mpr ⟨_, later, rfl⟩)
      cases taken : umems key with
      | none => simp only [pairQueues, taken, ih distinct.2 later]
      | some umem =>
        simp only [pairQueues, taken, ih distinct.2 later, Function.update_of_ne other]

/-- The result joins the two maps, in whichever order the sockets are walked. -/
theorem pairQueues_eq (enumerates : Enumerates order socks) :
    pairQueues umems (fun _ => none) order qid =
      (socks qid).bind fun sock => (umems qid).map (sock, ·) := by
  cases found : socks qid with
  | none =>
    apply pairQueues_of_not_mem
    intro member
    obtain ⟨⟨_, sock⟩, inside, rfl⟩ := List.mem_map.mp member
    rw [enumerates.mem_iff, found] at inside
    cases inside
  | some sock =>
    rw [pairQueues_of_mem enumerates.distinct ((enumerates.mem_iff qid sock).mpr found),
      Option.or_none, Option.bind_some]

end Joining

/-- The queues and kinds that the names give, where a name is recognised. -/
def recognised (entries : List (Named Fd)) : List (UInt32 × FdKind) :=
  entries.filterMap fun entry => parseName entry.2

/-- Descriptors that belong to no queue of a list: their names are not recognised, or they give
another queue, and of that queue one kind only. -/
structure Orphans (fds : List (Triple Fd)) (extra : List (Named Fd)) : Prop where
  foreign : ∀ hit ∈ recognised extra, hit.1 ∉ fds.map Prod.fst
  oneKind : ∀ first ∈ recognised extra, ∀ second ∈ recognised extra,
    first.1 = second.1 → first.2 = second.2

section RoundTrip

variable {fds : List (Triple Fd)} {extra arrived : List (Named Fd)} {kind : FdKind} {qid : UInt32}
  {fd sock umem : Fd}

/-- With distinct queues, a queue has one pair. -/
theorem eq_of_same_queue (distinct : (fds.map Prod.fst).Nodup) {sock' umem' : Fd}
    (first : (qid, sock, umem) ∈ fds) (second : (qid, sock', umem') ∈ fds) :
    sock = sock' ∧ umem = umem' := by
  have same := List.inj_on_of_nodup_map distinct first second rfl
  simpa using same

/-- A descriptor of a queue and kind is recognised. -/
theorem mem_recognised_of_ofKind (member : (qid, fd) ∈ ofKind kind extra) :
    (qid, kind) ∈ recognised extra := by
  obtain ⟨name, inside, parsed⟩ := mem_ofKind.mp member
  exact List.mem_filterMap.mpr ⟨(fd, name), inside, parsed⟩

/-- An orphan is not of a queue in the list. -/
theorem Orphans.not_mem_ofKind (orphans : Orphans fds extra) (member : (qid, sock, umem) ∈ fds) :
    (qid, fd) ∉ ofKind kind extra := by
  intro stray
  exact orphans.foreign _ (mem_recognised_of_ofKind stray) (List.mem_map.mpr ⟨_, member, rfl⟩)

/-- What arrives is what was named and the orphans, in any order. -/
theorem mem_ofKind_arrived (arrives : arrived.Perm (named fds ++ extra)) :
    (qid, fd) ∈ ofKind kind arrived ↔
      (qid, fd) ∈ ofKind kind (named fds) ∨ (qid, fd) ∈ ofKind kind extra := by
  simp only [mem_ofKind, arrives.mem_iff, List.mem_append, or_and_right, exists_or]

/-- The map of a kind has the descriptor of that kind of every queue that was sent. -/
theorem insertAll_of_mem (kind : FdKind) (distinct : (fds.map Prod.fst).Nodup)
    (orphans : Orphans fds extra) (arrives : arrived.Perm (named fds ++ extra))
    (member : (qid, sock, umem) ∈ fds) :
    insertAll (ofKind kind arrived) (fun _ => none) qid = some (kind.pick sock umem) := by
  apply insertAll_eq_some_of_unique
  · rw [mem_ofKind_arrived arrives]
    exact .inl (mem_ofKind_named.mpr ⟨sock, umem, member, rfl⟩)
  · intro other inside
    obtain sent | stray := (mem_ofKind_arrived arrives).mp inside
    · obtain ⟨sock', umem', again, rfl⟩ := mem_ofKind_named.mp sent
      obtain ⟨rfl, rfl⟩ := eq_of_same_queue distinct member again
      rfl
    · exact absurd stray (orphans.not_mem_ofKind member)

/-- A queue that has both kinds is one of those that were sent. -/
theorem mem_of_insertAll (distinct : (fds.map Prod.fst).Nodup) (orphans : Orphans fds extra)
    (arrives : arrived.Perm (named fds ++ extra))
    (foundSock : insertAll (ofKind .sock arrived) (fun _ => none) qid = some sock)
    (foundUmem : insertAll (ofKind .umem arrived) (fun _ => none) qid = some umem) :
    (qid, sock, umem) ∈ fds := by
  obtain sentSock | straySock := (mem_ofKind_arrived arrives).mp (insertAll_eq_some foundSock)
  · obtain ⟨sock, umem', member, rfl⟩ := mem_ofKind_named.mp sentSock
    have same := insertAll_of_mem .umem distinct orphans arrives member
    cases foundUmem.symm.trans same
    exact member
  · obtain sentUmem | strayUmem := (mem_ofKind_arrived arrives).mp (insertAll_eq_some foundUmem)
    · obtain ⟨sock', umem, member, rfl⟩ := mem_ofKind_named.mp sentUmem
      exact absurd straySock (orphans.not_mem_ofKind member)
    · cases orphans.oneKind _ (mem_recognised_of_ofKind straySock) _
        (mem_recognised_of_ofKind strayUmem) rfl

/-- The pairing gives back exactly the queues whose descriptors were sent. -/
theorem pairQueues_named (distinct : (fds.map Prod.fst).Nodup) (orphans : Orphans fds extra)
    (arrives : arrived.Perm (named fds ++ extra)) {order : List (UInt32 × Fd)}
    (walked : Enumerates order (collect arrived).socks) :
    pairQueues (collect arrived).umems (fun _ => none) order qid = some (sock, umem) ↔
      (qid, sock, umem) ∈ fds := by
  rw [pairQueues_eq walked, collect_eq]
  simp only [Option.bind_eq_some_iff, Option.map_eq_some_iff, Prod.mk.injEq]
  constructor
  · rintro ⟨_, foundSock, _, foundUmem, rfl, rfl⟩
    exact mem_of_insertAll distinct orphans arrives foundSock foundUmem
  · intro member
    exact ⟨sock, insertAll_of_mem .sock distinct orphans arrives member, umem,
      insertAll_of_mem .umem distinct orphans arrives member, rfl, rfl⟩

/-- When every queue has one socket, the order of arrival is one in which the map may be walked. -/
theorem enumerates_of_nodup (distinct : ((ofKind .sock arrived).map Prod.fst).Nodup) :
    Enumerates (ofKind .sock arrived) (collect arrived).socks where
  distinct := distinct
  mem_iff := by
    intro qid fd
    rw [collect_eq]
    constructor
    · intro member
      apply insertAll_eq_some_of_unique member
      intro other again
      exact congrArg Prod.snd (List.inj_on_of_nodup_map distinct again member rfl)
    · exact insertAll_eq_some

end RoundTrip

section Sending

variable {systemd : Systemd Fd} {fds : List (Triple Fd)} {extra : List (Named Fd)}

/-- What is sent for a queue that fails: nothing, or its socket alone. -/
def Unfinished (fds : List (Triple Fd)) (rest : List (Named Fd)) : Prop :=
  rest = [] ∨ ∃ qid sock umem, (qid, sock, umem) ∈ fds ∧ rest = [(sock, sockName qid)]

/-- Sending the pair of a queue succeeds with both, or fails with at most the socket sent. -/
theorem sendOne_cases (systemd : Systemd Fd) (qid : UInt32) (sock umem : Fd) :
    sendOne systemd qid sock umem = (named [(qid, sock, umem)], .ok ()) ∨
      ∃ rest contexts, sendOne systemd qid sock umem = (rest, .error contexts) ∧
        Unfinished [(qid, sock, umem)] rest := by
  unfold sendOne
  split
  · exact .inr ⟨_, _, rfl, .inl rfl⟩
  · split
    · exact .inr ⟨_, _, rfl, .inr ⟨qid, sock, umem, List.mem_singleton_self _, rfl⟩⟩
    · exact .inl rfl

/-- An export sends whole queues from the front of the list, and stops at one that fails. -/
theorem exportLoop_sent (systemd : Systemd Fd) (fds : List (Triple Fd)) :
    ∃ rest, (exportLoop systemd fds).sent =
        named (fds.take (exportLoop systemd fds).exported) ++ rest ∧
      Unfinished (fds.drop (exportLoop systemd fds).exported) rest := by
  induction fds with
  | nil => exact ⟨[], rfl, .inl rfl⟩
  | cons triple fds ih =>
    obtain ⟨qid, sock, umem⟩ := triple
    obtain done | ⟨rest, contexts, failed, unfinished⟩ := sendOne_cases systemd qid sock umem
    · obtain ⟨rest, sent, unfinished⟩ := ih
      refine ⟨rest, ?_, ?_⟩
      · simp only [exportLoop, done, sent, List.take_succ_cons]
        rw [← List.append_assoc]
        rfl
      · simpa only [exportLoop, done, List.drop_succ_cons] using unfinished
    · refine ⟨rest, ?_, ?_⟩
      · simp only [exportLoop, failed]
        rfl
      · simp only [exportLoop, failed, List.drop_zero]
        obtain empty | ⟨key, first, second, member, alone⟩ := unfinished
        · exact .inl empty
        · exact .inr ⟨key, first, second, List.mem_cons.mpr (.inl (List.mem_singleton.mp member)),
            alone⟩

/-- An export that succeeds has sent every queue. -/
theorem exportLoop_ok (done : (exportLoop systemd fds).outcome = .ok ()) :
    (exportLoop systemd fds).exported = fds.length := by
  induction fds with
  | nil => rfl
  | cons triple fds ih =>
    obtain ⟨qid, sock, umem⟩ := triple
    obtain whole | ⟨rest, contexts, failed, -⟩ := sendOne_cases systemd qid sock umem
    · simp only [exportLoop, whole] at done ⊢
      rw [ih done, List.length_cons]
    · simp only [exportLoop, failed] at done
      cases done

/-- To the queues that were sent, the socket of the one that failed is an orphan like others. -/
theorem Orphans.append_unfinished (distinct : (fds.map Prod.fst).Nodup)
    (orphans : Orphans fds extra) {count : Nat} {rest : List (Named Fd)}
    (unfinished : Unfinished (fds.drop count) rest) :
    Orphans (fds.take count) (rest ++ extra) := by
  have kept : ∀ {qid}, qid ∉ fds.map Prod.fst → qid ∉ (fds.take count).map Prod.fst := by
    intro qid outside inside
    exact outside ((fds.take_sublist count).map Prod.fst |>.subset inside)
  obtain rfl | ⟨qid, sock, umem, member, rfl⟩ := unfinished
  · exact ⟨fun hit found => kept (orphans.foreign hit found), orphans.oneKind⟩
  · have inside : qid ∈ fds.map Prod.fst :=
      List.mem_map.mpr ⟨_, List.mem_of_mem_drop member, rfl⟩
    have after : qid ∉ (fds.take count).map Prod.fst := by
      rw [← List.take_append_drop count fds, List.map_append, List.nodup_append] at distinct
      intro before
      exact distinct.2.2 qid before qid (List.mem_map.mpr ⟨_, member, rfl⟩) rfl
    have hits :
        recognised ([(sock, sockName qid)] ++ extra) = (qid, .sock) :: recognised extra := by
      simp [recognised]
    constructor
    · intro hit found
      rw [hits] at found
      obtain rfl | found := List.mem_cons.mp found
      · exact after
      · exact kept (orphans.foreign hit found)
    · intro first found second found' same
      rw [hits] at found found'
      obtain rfl | found := List.mem_cons.mp found <;>
        obtain rfl | found' := List.mem_cons.mp found'
      · rfl
      · exact absurd (same ▸ inside) (orphans.foreign second found')
      · exact absurd (same ▸ inside) (orphans.foreign first found)
      · exact orphans.oneKind first found second found' same

/-- Whatever the order of arrival and the order of the walk, and whatever else the store holds, the
next daemon gets exactly the queues that were exported, each with its own memory. An export that
succeeds under systemd has exported all of them. -/
theorem inherit_gives_back_exported (systemd : Systemd Fd) (fds : List (Triple Fd))
    (distinct : (fds.map Prod.fst).Nodup) (extra : List (Named Fd)) (orphans : Orphans fds extra)
    (arrived : List (Named Fd))
    (arrives : arrived.Perm ((exportToSystemd systemd fds).sent ++ extra))
    (order : List (UInt32 × Fd)) (walked : Enumerates order (collect arrived).socks) :
    ∃ inherited, inheritFromSystemd order (.ok arrived) = .ok inherited ∧
      (∀ qid sock umem, inherited.byQueue qid = some (sock, umem) ↔
        (qid, sock, umem) ∈ fds.take (exportToSystemd systemd fds).exported) ∧
      (systemd.notifySocket = true → (exportToSystemd systemd fds).outcome = .ok () →
        (exportToSystemd systemd fds).exported = fds.length) := by
  refine ⟨_, rfl, ?_, ?_⟩
  · intro qid sock umem
    obtain ⟨rest, sent, unfinished⟩ : ∃ rest, (exportToSystemd systemd fds).sent =
        named (fds.take (exportToSystemd systemd fds).exported) ++ rest ∧
        Unfinished (fds.drop (exportToSystemd systemd fds).exported) rest := by
      unfold exportToSystemd
      split
      · exact exportLoop_sent systemd fds
      · exact ⟨[], rfl, .inl rfl⟩
    rw [sent, List.append_assoc] at arrives
    have front : ((fds.take (exportToSystemd systemd fds).exported).map Prod.fst).Nodup :=
      distinct.sublist ((fds.take_sublist _).map Prod.fst)
    exact pairQueues_named front (orphans.append_unfinished distinct unfinished) arrives walked
  · intro listening done
    simp only [exportToSystemd, listening, if_true] at done ⊢
    exact exportLoop_ok done

end Sending

def sampleSystemd : Systemd Nat where
  notifySocket := true
  notify := fun _ => .ok ()

def sampleFds : List (Triple Nat) := [(1, 10, 11), (12, 20, 21)]

def sampleExtra : List (Named Nat) := [(30, "pesigitg-q2-umem"), (31, "pesigitg-q1"), (32, "")]

def sampleArrived : List (Named Nat) :=
  [(32, ""), (21, "pesigitg-q12-umem"), (10, "pesigitg-q1-sock"), (30, "pesigitg-q2-umem"),
    (20, "pesigitg-q12-sock"), (31, "pesigitg-q1"), (11, "pesigitg-q1-umem")]

/-- Among strays and in another order, queue 12 gets its pair back. -/
theorem sampleFds_inherited :
    ∃ inherited, inheritFromSystemd (ofKind .sock sampleArrived) (.ok sampleArrived) =
        .ok inherited ∧ inherited.byQueue 12 = some (20, 21) := by
  have orphans : Orphans sampleFds sampleExtra :=
    ⟨by decide +kernel, by decide +kernel⟩
  have arrives : sampleArrived.Perm
      ((exportToSystemd sampleSystemd sampleFds).sent ++ sampleExtra) := by decide +kernel
  have walked : Enumerates (ofKind .sock sampleArrived) (collect sampleArrived).socks :=
    enumerates_of_nodup (by decide +kernel)
  obtain ⟨inherited, same, gives, -⟩ := inherit_gives_back_exported sampleSystemd sampleFds
    (by decide) sampleExtra orphans sampleArrived arrives _ walked
  exact ⟨inherited, same, (gives 12 20 21).mpr (by decide +kernel)⟩

end Fdstore

end Pesigitg
