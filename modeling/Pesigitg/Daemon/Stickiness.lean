import Pesigitg.Daemon.ConnRun

/-!
# What the connection table promises over a run

Two readings of one invariant. Backwards, every visible entry goes back to a packet
less than one lifetime ago whose destination was eligible then
(`lookup_forward_recent`). Forwards, a hashed destination stays what the fallback
path finds for the flow and for its DCID until the lifetime is over
(`fallback_stays`).
-/

namespace Pesigitg

open Base

variable {aes : Aes128} {hash : FlowKey → UInt64}

/-- The call chose `mac` while it was eligible: by hashing over the fallback servers
of the table in force, or by a CID that named a healthy server of that table. -/
def ConnCall.Chose (hash : FlowKey → UInt64) (mac : Mac) : ConnCall → Prop
  | .udp _ table _ _ flow _ (.hashed _ chosen) =>
    chosen = mac ∧ fallbackMac hash flow table.fallbackServers = .ok (some mac)
  | .udp _ table _ _ _ _ (.cid _ server chosen _) =>
    chosen = mac ∧ server.healthy = true ∧ server.mac = some mac ∧
      ∃ config ∈ table.configs, server ∈ config.servers
  | _ => False

/-- The call forwarded its packet to a MAC it found in the connection table. -/
def ConnCall.Looked (mac : Mac) : ConnCall → Prop
  | .udp _ _ _ _ _ _ (.sticky found) => found = mac
  | .icmp _ _ _ _ _ _ (.quotedSticky found) => found = mac
  | _ => False

/-- A write of `mac` at `written` is one some call of the log made by choice. -/
def WrittenBy (hash : FlowKey → UInt64) (log : List ConnCall) {Key : Type} (_ : Key) (mac : Mac)
    (written : Nat) : Prop :=
  ∃ call ∈ log, call.time = written ∧ call.Chose hash mac

/-- A longer log accounts for the same entry. -/
theorem WrittenBy.append {log : List ConnCall} {Key : Type} {key : Key} {mac : Mac}
    {written : Nat} (accounted : WrittenBy hash log key mac written) (call : ConnCall) :
    WrittenBy hash (log ++ [call]) key mac written := by
  obtain ⟨origin, member, time, chose⟩ := accounted
  exact ⟨origin, List.mem_append_left _ member, time, chose⟩

/-- Both indexes hold only what calls of the log chose. -/
structure Accounted (hash : FlowKey → UInt64) (log : List ConnCall) (conn : ConnectionTable) :
    Prop where
  byFlow : conn.byFlow.Sourced entryTtl (WrittenBy hash log)
  byDcid : conn.byDcid.Sourced entryTtl (WrittenBy hash log)

namespace Accounted

variable {log : List ConnCall} {conn conn' : ConnectionTable} {call : ConnCall}

/-- And for the same table. -/
theorem append (accounted : Accounted hash log conn) (call : ConnCall) :
    Accounted hash (log ++ [call]) conn where
  byFlow := accounted.byFlow.mono fun _ _ _ written => written.append call
  byDcid := accounted.byDcid.mono fun _ _ _ written => written.append call

/-- One call keeps the account. -/
theorem step (accounted : Accounted hash log conn) (step : ConnStep aes hash conn call conn') :
    Accounted hash (log ++ [call]) conn' := by
  have kept := accounted.append call
  have last : call ∈ log ++ [call] := List.mem_append_right _ List.mem_cons_self
  rw [step.table_eq]
  cases step with
  | @udp _ now table frame frame' quicOffset flow localMac route verdict routed processed =>
    cases routeUdp_exit routed with
    | cid healthy resolved active =>
      refine ⟨kept.byFlow, kept.byDcid.insert ?_⟩
      exact ⟨_, last, rfl, rfl, healthy, resolved, active⟩
    | unroutable verdict => exact kept
    | sticky found => exact kept
    | @hashed rawDcid mac extracted missed hashed =>
      have chosen : ∀ {Key : Type} (key : Key), WrittenBy hash
          (log ++ [ConnCall.udp now table frame quicOffset flow localMac
            (.hashed (rawDcid.map DcidKey.fromSlice) mac)]) key mac now :=
        fun _ => ⟨_, last, rfl, rfl, hashed⟩
      refine ⟨kept.byFlow.insert (chosen flow), ?_⟩
      cases rawDcid with
      | none => exact kept.byDcid
      | some dcid => exact kept.byDcid.insert (chosen (DcidKey.fromSlice dcid))
    | pass => exact kept
  | icmp routed processed => exact kept
  | sweep now =>
    simp only [ConnCall.after, ConnectionTable.maybeSweep]
    split
    · exact kept
    · exact ⟨kept.byFlow.sweep now, kept.byDcid.sweep now⟩

/-- Every run from an empty table keeps the account. -/
theorem run {created : Instant} (run : ConnRun aes hash (ConnectionTable.new created) log conn) :
    Accounted hash log conn := by
  induction run with
  | nil => exact ⟨.empty, .empty⟩
  | snoc prior clock step ih => exact ih.step step

/-- A hit goes back to a choice made less than one lifetime ago. -/
theorem lookup (accounted : Accounted hash log conn) {flow : FlowKey} {dcid : Option DcidKey}
    {now : Instant} {mac : Mac} (found : conn.lookup flow dcid now = some mac) :
    ∃ origin ∈ log, now < origin.time + entryTtl ∧ origin.Chose hash mac := by
  rcases ConnectionTable.lookup_eq_some_iff.mp found with hit | ⟨-, key, -, hit⟩
  · obtain ⟨written, recent, origin, member, rfl, chose⟩ := accounted.byFlow.find hit
    exact ⟨origin, member, recent, chose⟩
  · obtain ⟨written, recent, origin, member, rfl, chose⟩ := accounted.byDcid.find hit
    exact ⟨origin, member, recent, chose⟩

end Accounted

/-- A call that forwards through the table found its MAC there and left the table
as it was. -/
theorem ConnStep.looked {conn conn' : ConnectionTable} {call : ConnCall} {mac : Mac}
    (step : ConnStep aes hash conn call conn') (looked : call.Looked mac) :
    (∃ flow dcid, conn.lookup flow dcid call.time = some mac) ∧ conn' = conn := by
  have table := step.table_eq
  cases step with
  | @udp _ now table frame frame' quicOffset flow localMac route verdict routed processed =>
    cases routeUdp_exit routed with
    | cid healthy resolved active => exact looked.elim
    | unroutable verdict => exact looked.elim
    | @sticky rawDcid found hit =>
      obtain rfl : found = mac := looked
      exact ⟨⟨flow, _, hit⟩, table⟩
    | hashed extracted missed chosen => exact looked.elim
    | pass => exact looked.elim
  | @icmp _ now table frame frame' innerQuicOffset flow localMac route verdict routed processed =>
    rcases routeIcmp_cases routed with ⟨found, rfl, -⟩ | ⟨found, rfl, hit⟩ | rfl
    · exact looked.elim
    · obtain rfl : found = mac := looked
      exact ⟨⟨flow, none, hit⟩, table⟩
    · exact looked.elim
  | sweep now => exact looked.elim

/-- Over every run from an empty table: a packet forwarded through the table goes to
a MAC some earlier packet chose, while it was eligible, less than five seconds
before; forwarding through the table does not change it; and sweeping changes no
lookup at or after the sweep. -/
theorem lookup_forward_recent {created : Instant} {log : List ConnCall}
    {conn conn' : ConnectionTable} {call : ConnCall}
    (run : ConnRun aes hash (ConnectionTable.new created) log conn)
    (clock : ∀ earlier ∈ log, earlier.time ≤ call.time)
    (step : ConnStep aes hash conn call conn') :
    (∀ mac, call.Looked mac →
      (∃ origin ∈ log, origin.time ≤ call.time ∧ call.time < origin.time + seconds 5 ∧
        origin.Chose hash mac) ∧ conn' = conn) ∧
    ∀ flow dcid now later, now ≤ later →
      (conn'.maybeSweep now).lookup flow dcid later = conn'.lookup flow dcid later := by
  constructor
  · intro mac looked
    obtain ⟨⟨flow, dcid, found⟩, unchanged⟩ := step.looked looked
    obtain ⟨origin, member, recent, chose⟩ := (Accounted.run run).lookup found
    exact ⟨⟨origin, member, clock origin member, recent, chose⟩, unchanged⟩
  · intro flow dcid now later ordered
    exact ConnectionTable.lookup_maybeSweep ordered

/-- The call recorded a DCID under `key` because it was routed by its CID. -/
def ConnCall.Records (key : DcidKey) : ConnCall → Prop
  | .udp _ _ _ _ _ _ (.cid dcid _ _ _) => DcidKey.fromSlice dcid = key
  | _ => False

section Persistence

variable {conn conn' : ConnectionTable} {call : ConnCall} {log : List ConnCall} {mac : Mac}
  {expires : Nat}

/-- A stored entry is found until it expires. -/
theorem find_of_stored {Key : Type} {map : ExpiringMap Key Mac} {key : Key} {now : Instant}
    (stored : map key = some ⟨mac, expires⟩) (visible : now < expires) :
    map.find key now = some mac :=
  ExpiringMap.find_eq_some_iff.mpr ⟨expires, stored, visible⟩

/-- A visible flow entry survives every call: nothing hashes the flow again while it
is found, and a sweep only drops what has expired. -/
theorem ConnStep.byFlow_kept {flow : FlowKey} (step : ConnStep aes hash conn call conn')
    (stored : conn.byFlow flow = some ⟨mac, expires⟩) (visible : call.time < expires) :
    conn'.byFlow flow = some ⟨mac, expires⟩ := by
  rw [step.table_eq]
  cases step with
  | @udp _ now table frame frame' quicOffset other localMac route verdict routed processed =>
    cases routeUdp_exit routed with
    | cid healthy resolved active => exact stored
    | unroutable verdict => exact stored
    | sticky found => exact stored
    | @hashed rawDcid chosen extracted missed hashed =>
      have distinct : flow ≠ other := by
        rintro rfl
        have hit := ConnectionTable.lookup_eq_some_iff.mpr
          (.inl (find_of_stored stored visible) :
            conn.byFlow.find flow now = some mac ∨
              conn.byFlow.find flow now = none ∧ ∃ key, rawDcid.map DcidKey.fromSlice = some key ∧
                conn.byDcid.find key now = some mac)
        rw [missed] at hit
        cases hit
      simp only [ConnCall.after, Route.record, ConnectionTable.insert]
      rw [ExpiringMap.insert_of_ne chosen now distinct]
      exact stored
    | pass => exact stored
  | icmp routed processed => exact stored
  | sweep now =>
    simp only [ConnCall.after, ConnectionTable.maybeSweep]
    split
    · exact stored
    · exact ExpiringMap.sweep_eq_some_iff.mpr ⟨stored, visible⟩

/-- A visible DCID entry survives every call that does not record the DCID itself:
no flow with the DCID is hashed while the entry is found. -/
theorem ConnStep.byDcid_kept {key : DcidKey} (step : ConnStep aes hash conn call conn')
    (stored : conn.byDcid key = some ⟨mac, expires⟩) (visible : call.time < expires)
    (silent : ¬ call.Records key) : conn'.byDcid key = some ⟨mac, expires⟩ := by
  rw [step.table_eq]
  cases step with
  | @udp _ now table frame frame' quicOffset other localMac route verdict routed processed =>
    cases routeUdp_exit routed with
    | @cid dcid server chosen configId healthy resolved active =>
      have distinct : key ≠ DcidKey.fromSlice dcid := fun same => silent same.symm
      simp only [ConnCall.after, Route.record, ConnectionTable.recordDcid]
      rw [ExpiringMap.insert_of_ne chosen now distinct]
      exact stored
    | unroutable verdict => exact stored
    | sticky found => exact stored
    | @hashed rawDcid chosen extracted missed hashed =>
      cases rawDcid with
      | none => exact stored
      | some dcid =>
        have distinct : key ≠ DcidKey.fromSlice dcid := by
          rintro rfl
          have seen := find_of_stored stored visible
          simp only [ConnCall.time] at seen
          unfold ConnectionTable.lookup at missed
          cases flowHit : conn.byFlow.find other now with
          | some held => simp [flowHit] at missed
          | none => simp [flowHit, seen] at missed
        simp only [ConnCall.after, Route.record, ConnectionTable.insert, Option.map_some]
        rw [ExpiringMap.insert_of_ne chosen now distinct]
        exact stored
    | pass => exact stored
  | icmp routed processed => exact stored
  | sweep now =>
    simp only [ConnCall.after, ConnectionTable.maybeSweep]
    split
    · exact stored
    · exact ExpiringMap.sweep_eq_some_iff.mpr ⟨stored, visible⟩

/-- A flow entry survives every run inside its lifetime. -/
theorem ConnRun.byFlow_kept {flow : FlowKey} (run : ConnRun aes hash conn log conn')
    (stored : conn.byFlow flow = some ⟨mac, expires⟩) (visible : ∀ call ∈ log, call.time < expires) :
    conn'.byFlow flow = some ⟨mac, expires⟩ := by
  induction run with
  | nil => exact stored
  | snoc prior clock step ih =>
    apply step.byFlow_kept (ih fun call member => visible call (List.mem_append_left _ member))
    exact visible _ (List.mem_append_right _ List.mem_cons_self)

/-- A DCID entry survives every run inside its lifetime that does not record it. -/
theorem ConnRun.byDcid_kept {key : DcidKey} (run : ConnRun aes hash conn log conn')
    (stored : conn.byDcid key = some ⟨mac, expires⟩) (visible : ∀ call ∈ log, call.time < expires)
    (silent : ∀ call ∈ log, ¬ call.Records key) : conn'.byDcid key = some ⟨mac, expires⟩ := by
  induction run with
  | nil => exact stored
  | @snoc earlier middle last call prior clock step ih =>
    have member : call ∈ earlier ++ [call] := List.mem_append_right _ List.mem_cons_self
    apply step.byDcid_kept ?_ (visible _ member) (silent _ member)
    apply ih
    · intro other inside
      exact visible other (List.mem_append_left _ inside)
    · intro other inside
      exact silent other (List.mem_append_left _ inside)

end Persistence

/-- The fallback path always gets as far as its lookup. -/
theorem fallbackRawDcid_returns (quic : Bytes) (table : ConfigTable) :
    (fallbackRawDcid quic table).Returns := by
  unfold fallbackRawDcid
  cases table.fallbackCidLength with
  | none => exact Checked.returns_ok _
  | some length => exact extractRawDcid_returns quic length

/-- A packet on the fallback path goes where the table already sends it. -/
theorem processUdp_sticky {table : ConfigTable} {conn : ConnectionTable} {frame : Bytes}
    {quicOffset : Nat} {flow : FlowKey} {localMac mac : Mac} {now : Instant}
    {rawDcid : Option Bytes} (afterEthernet : ethHdrLen ≤ quicOffset)
    (inside : quicOffset ≤ frame.length)
    (reaches : routeCid aes (frame.drop quicOffset) table = .ok none)
    (extracted : fallbackRawDcid (frame.drop quicOffset) table = .ok rawDcid)
    (found : conn.lookup flow (rawDcid.map DcidKey.fromSlice) now = some mac) :
    processUdp aes hash frame table conn quicOffset flow localMac now =
      .ok (.fallbackForward, mac.val ++ localMac.val ++ frame.drop 12, conn) := by
  have long : 12 ≤ frame.length := by
    simp only [ethHdrLen] at afterEthernet
    omega
  have fellBack : routeFallback hash (frame.drop quicOffset) table conn flow now =
      .ok (.sticky mac) := by
    simp only [routeFallback, extracted, Checked.ok_bind, found, Checked.pure_eq_ok]
  exact processUdp_of_route long inside (routeUdp_eq_ok_iff.mpr (.inr ⟨reaches, fellBack⟩)) rfl

/-- After a packet was hashed to `mac` at `first`, whatever calls follow: for five
seconds every packet of its flow that reaches the fallback path is forwarded to
`mac`, and so is every such packet of another flow with the same raw DCID, unless
that flow has a visible entry of its own or the DCID was recorded since. -/
theorem fallback_stays {conn conn₁ conn₂ : ConnectionTable} {first now : Instant}
    {table₀ table : ConfigTable} {frame₀ frame : Bytes} {offset₀ quicOffset : Nat}
    {flow other : FlowKey} {local₀ localMac mac : Mac} {key : Option DcidKey}
    {log : List ConnCall}
    (hashed : ConnStep aes hash conn
      (.udp first table₀ frame₀ offset₀ flow local₀ (.hashed key mac)) conn₁)
    (run : ConnRun aes hash conn₁ log conn₂) (clock : ∀ call ∈ log, call.time ≤ now)
    (within : now < first + seconds 5) (afterEthernet : ethHdrLen ≤ quicOffset)
    (inside : quicOffset ≤ frame.length)
    (reaches : routeCid aes (frame.drop quicOffset) table = .ok none) :
    (other = flow →
      processUdp aes hash frame table conn₂ quicOffset other localMac now =
        .ok (.fallbackForward, mac.val ++ localMac.val ++ frame.drop 12, conn₂)) ∧
    ∀ dcid, fallbackRawDcid (frame₀.drop offset₀) table₀ = .ok (some dcid) →
      fallbackRawDcid (frame.drop quicOffset) table = .ok (some dcid) →
      conn₂.byFlow.find other now = none →
      (∀ call ∈ log, ¬ call.Records (DcidKey.fromSlice dcid)) →
      processUdp aes hash frame table conn₂ quicOffset other localMac now =
        .ok (.fallbackForward, mac.val ++ localMac.val ++ frame.drop 12, conn₂) := by
  have visible : ∀ call ∈ log, call.time < first + entryTtl := by
    intro call member
    exact Nat.lt_of_le_of_lt (clock call member) within
  have table := hashed.table_eq
  simp only [ConnCall.after, Route.record] at table
  constructor
  · rintro rfl
    have stored : conn₁.byFlow other = some ⟨mac, first + entryTtl⟩ := by
      rw [table]
      simp only [ConnectionTable.insert, ExpiringMap.insert_self]
    have held := find_of_stored (run.byFlow_kept stored visible) within
    obtain ⟨rawDcid, extracted⟩ : (fallbackRawDcid (frame.drop quicOffset) _).Returns :=
      fallbackRawDcid_returns _ _
    exact processUdp_sticky afterEthernet inside reaches extracted
      (ConnectionTable.lookup_eq_some_iff.mpr (.inl held))
  · intro dcid extracted₀ extracted unseen silent
    have keyed : key = some (DcidKey.fromSlice dcid) := by
      cases hashed with
      | udp routed processed =>
        cases routeUdp_exit routed with
        | hashed taken missed chosen =>
          rw [extracted₀] at taken
          cases taken
          rfl
    have stored : conn₁.byDcid (DcidKey.fromSlice dcid) = some ⟨mac, first + entryTtl⟩ := by
      rw [table, keyed]
      simp only [ConnectionTable.insert, ExpiringMap.insert_self]
    have held := find_of_stored (run.byDcid_kept stored visible silent) within
    exact processUdp_sticky afterEthernet inside reaches extracted
      (ConnectionTable.lookup_eq_some_iff.mpr (.inr ⟨unseen, _, rfl, held⟩))

namespace SampleFallback

def mac : Mac := macOctets 0x02 0 0 0 0 0x0a

def localMac : Mac := macOctets 0x02 0 0 0 0 0x01

def server : Server := ⟨[1], .v4 (ipv4Octets 10 0 0 1), some mac, false, true, 0, none⟩

/-- One plaintext config and its server as the only fallback choice, so that every
hash value selects it. -/
def table : ConfigTable :=
  ⟨fun id => if id = 0 then some ⟨0, false, 1, 4, .plaintext, [server], none⟩ else none,
    fun _ => none, [server], none⟩

/-- A client's Initial: a long header whose DCID starts with the reserved config id. -/
def frame : Bytes :=
  List.replicate 42 0 ++ [0xc0, 0, 0, 0, 1, 8, 0xe0, 1, 2, 3, 4, 5, 6, 7, 0, 0, 0]

def dcid : Bytes := [0xe0, 1, 2, 3, 4, 5, 6, 7]

def flow : FlowKey := ⟨.v4 (ipv4Octets 198 51 100 7), .v4 (ipv4Octets 192 0 2 1), 40000, 443⟩

/-- The same client behind another address. -/
def rebound : FlowKey := { flow with srcAddr := .v4 (ipv4Octets 198 51 100 8) }

/-- No CID of the sample reaches the block cipher. -/
def cipher : Aes128 := ⟨fun _ block => block, fun _ block => block⟩

def start : ConnectionTable := ConnectionTable.new 0

/-- The first packet is hashed at 7 ns. -/
def firstCall : ConnCall :=
  .udp 7 table frame 42 flow localMac (.hashed (some (DcidKey.fromSlice dcid)) mac)

def afterFirst : ConnectionTable := start.insert flow (some (DcidKey.fromSlice dcid)) mac 7

/-- The sample's first packet is hashed and recorded. -/
theorem firstStep : ConnStep cipher (fun _ => 0) start firstCall afterFirst :=
  .udp (by decide +kernel) (by rfl : processUdp cipher (fun _ => 0) frame table start 42 flow
    localMac 7 = .ok (.fallbackForward, mac.val ++ localMac.val ++ frame.drop 12, afterFirst))

end SampleFallback

open SampleFallback in
/-- Four seconds later and past a sweep call, the flow and a rebound client with the
same DCID both reach the first packet's server. -/
theorem fallback_stays_rebound :
    let later := afterFirst.maybeSweep 8
    processUdp cipher (fun _ => 0) frame table later 42 flow localMac (seconds 4) =
        .ok (.fallbackForward, mac.val ++ localMac.val ++ frame.drop 12, later) ∧
      processUdp cipher (fun _ => 0) frame table later 42 rebound localMac (seconds 4) =
        .ok (.fallbackForward, mac.val ++ localMac.val ++ frame.drop 12, later) := by
  have run : ConnRun cipher (fun _ => 0) afterFirst [.sweep 8] (afterFirst.maybeSweep 8) :=
    .snoc .nil (by simp) (.sweep afterFirst 8)
  have clock : ∀ call ∈ [ConnCall.sweep 8], call.time ≤ seconds 4 := by
    simp [ConnCall.time]
  have reaches : routeCid cipher (frame.drop 42) table = .ok none := by decide +kernel
  refine ⟨(fallback_stays firstStep run clock (by decide) (by decide) (by decide) reaches).1 rfl, ?_⟩
  refine (fallback_stays firstStep run clock (by decide) (by decide) (by decide) reaches).2 dcid
    (by decide +kernel) (by decide +kernel) (by decide +kernel) ?_
  simp [ConnCall.Records]

open SampleFallback in
/-- The second packet of the flow is forwarded through the table, and its MAC goes
back to the first packet. -/
theorem second_packet_recent :
    ∃ origin ∈ [firstCall], origin.time ≤ 9 ∧ 9 < origin.time + seconds 5 ∧
      origin.Chose (fun _ => 0) mac := by
  have run : ConnRun cipher (fun _ => 0) (ConnectionTable.new 0) [firstCall] afterFirst :=
    .snoc .nil (by simp) firstStep
  have second : ConnStep cipher (fun _ => 0) afterFirst
      (.udp 9 table frame 42 flow localMac (.sticky mac)) afterFirst :=
    .udp (by decide +kernel) (by rfl : processUdp cipher (fun _ => 0) frame table afterFirst 42
      flow localMac 9 = .ok (.fallbackForward, mac.val ++ localMac.val ++ frame.drop 12, afterFirst))
  have clock : ∀ earlier ∈ [firstCall],
      earlier.time ≤ (ConnCall.udp 9 table frame 42 flow localMac (.sticky mac)).time := by
    simp [firstCall, ConnCall.time]
  exact ((lookup_forward_recent run clock second).1 mac rfl).1

end Pesigitg
