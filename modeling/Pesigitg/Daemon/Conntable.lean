import Pesigitg.Base.Expiring
import Pesigitg.Common.Net

/-!
# The per-worker connection table

Fallback routing decisions are remembered under the packet's 4-tuple and under
its raw DCID. Both indexes are expiring maps with one lifetime, so the module
only says how the two are combined.
-/

namespace Pesigitg

open Base

/-- TTL for connection table entries. -/
@[simp] def entryTtl : Nat := seconds 5

/-- How often expired entries are swept. -/
@[simp] def sweepInterval : Nat := seconds 5

/-- 4-tuple flow identifier. -/
structure FlowKey where
  srcAddr : IpAddr
  dstAddr : IpAddr
  srcPort : UInt16
  dstPort : UInt16
deriving DecidableEq, Repr

/-- Raw DCID key of up to 20 bytes. -/
structure DcidKey where
  len : UInt8
  bytes : Octets 20
deriving DecidableEq, Repr

/-- Bytes past the twentieth are cut off. -/
def DcidKey.fromSlice (dcid : Bytes) : DcidKey where
  len := UInt8.ofNat (min dcid.length 20)
  bytes := ⟨dcid.take (min dcid.length 20) ++ List.replicate (20 - min dcid.length 20) 0, by
    simp⟩

/-- Connection table with 4-tuple and DCID indexes. -/
structure ConnectionTable where
  byFlow : ExpiringMap FlowKey Mac
  byDcid : ExpiringMap DcidKey Mac
  lastSweep : Instant

namespace ConnectionTable

def new (now : Instant) : ConnectionTable := ⟨ExpiringMap.empty, ExpiringMap.empty, now⟩

/-- Look up a MAC address by 4-tuple, falling back to DCID. -/
def lookup (conn : ConnectionTable) (flow : FlowKey) (dcid : Option DcidKey) (now : Instant) :
    Option Mac :=
  match conn.byFlow.find flow now with
  | some mac => some mac
  | none =>
    match dcid with
    | some key => conn.byDcid.find key now
    | none => none

/-- Record a fallback routing decision in both indexes. -/
def insert (conn : ConnectionTable) (flow : FlowKey) (dcid : Option DcidKey) (mac : Mac)
    (now : Instant) : ConnectionTable where
  byFlow := ExpiringMap.insert entryTtl conn.byFlow flow mac now
  byDcid :=
    match dcid with
    | some key => ExpiringMap.insert entryTtl conn.byDcid key mac now
    | none => conn.byDcid
  lastSweep := conn.lastSweep

/-- Record a DCID to server mapping from a CID-routed packet. -/
def recordDcid (conn : ConnectionTable) (dcid : DcidKey) (mac : Mac) (now : Instant) :
    ConnectionTable :=
  { conn with byDcid := ExpiringMap.insert entryTtl conn.byDcid dcid mac now }

/-- Evict expired entries if the sweep interval has elapsed. -/
def maybeSweep (conn : ConnectionTable) (now : Instant) : ConnectionTable :=
  if now - conn.lastSweep < sweepInterval then conn
  else ⟨conn.byFlow.sweep now, conn.byDcid.sweep now, now⟩

variable {conn : ConnectionTable} {flow : FlowKey} {dcid : Option DcidKey} {now later : Instant}

/-- A hit is a visible entry under the 4-tuple, or one under the DCID when the
4-tuple has none. -/
theorem lookup_eq_some_iff {mac : Mac} :
    conn.lookup flow dcid now = some mac ↔
      conn.byFlow.find flow now = some mac ∨
        conn.byFlow.find flow now = none ∧
          ∃ key, dcid = some key ∧ conn.byDcid.find key now = some mac := by
  unfold lookup
  cases found : conn.byFlow.find flow now with
  | some held => simp
  | none => cases dcid <;> simp

/-- Sweeping never changes a lookup at or after the sweep. -/
theorem lookup_maybeSweep (ordered : now ≤ later) :
    (conn.maybeSweep now).lookup flow dcid later = conn.lookup flow dcid later := by
  unfold maybeSweep
  split
  · rfl
  · simp only [lookup, ExpiringMap.find_sweep ordered]

end ConnectionTable

end Pesigitg
