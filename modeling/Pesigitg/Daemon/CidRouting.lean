import Pesigitg.Daemon.ConnRun
import Pesigitg.QuicLb.Interop

/-!
# End-to-end CID routing

A CID that a backend's encoder produced is followed through the router: the header
readers recover it, the first octet selects the config it was made for, the
decryptor recovers the server id, and the packet is rewritten to that server.
-/

namespace Pesigitg

open Base

/-- The top three bits survive whatever fills the low five. -/
theorem configId_of_firstOctet : ∀ (configId : Fin 7) (low : Fin 32),
    ((UInt8.ofNat configId.val <<< 5) ||| UInt8.ofNat low.val) >>> 5 =
      UInt8.ofNat configId.val := by
  decide

/-- Masking with `0x1f` leaves a number below 32. -/
theorem lowBits_lt (byte : UInt8) : (byte &&& 0x1f).toNat < 32 := by
  rw [UInt8.toNat_and]
  exact Nat.and_lt_two_pow byte.toNat (by decide : (0x1f : UInt8).toNat < 2 ^ 5)

/-- Every first octet an encoder can draw names its config. -/
theorem firstOctet_configId {encoder : QuicLbEncoder} (valid : encoder.Valid) (low : UInt8) :
    encoder.firstOctet low >>> 5 = encoder.configId := by
  have small : encoder.configId.toNat < 7 := by
    have bound := valid.configId_le
    omega
  have shape : ∃ bits : UInt8,
      encoder.firstOctet low = (encoder.configId <<< 5) ||| (bits &&& 0x1f) := by
    unfold QuicLbEncoder.firstOctet
    split
    · exact ⟨_, rfl⟩
    · exact ⟨low, rfl⟩
  obtain ⟨bits, octet⟩ := shape
  have recovered := configId_of_firstOctet ⟨encoder.configId.toNat, small⟩
    ⟨(bits &&& 0x1f).toNat, lowBits_lt bits⟩
  simp only [UInt8.ofNat_toNat] at recovered
  rw [octet, recovered]

/-- The lookup returns the first server with an id. -/
theorem RouteConfig.findServerIdx_first {config : RouteConfig} {index : Nat} {server : Server}
    (placed : config.servers[index]? = some server)
    (first : ∀ earlier < index, ∀ other, config.servers[earlier]? = some other →
      other.id ≠ server.id) :
    config.findServerIdx server.id = some index := by
  obtain ⟨inside, found⟩ := List.getElem?_eq_some_iff.mp placed
  rw [RouteConfig.findServerIdx, List.findIdx?_eq_some_iff_getElem]
  refine ⟨inside, by simp [found], ?_⟩
  intro earlier before
  have distinct := first earlier before (config.servers[earlier]) (by simp)
  simpa using distinct

/-- The config a packet's CID was made for, and the CID itself, are what the lookup
finds. -/
theorem lookupConfig_carries {table : ConfigTable} {config : RouteConfig} {octet : UInt8}
    {body quic : Bytes} (admitted : config.Admitted)
    (sized : body.length = config.cidPayloadLength.toNat) (names : octet >>> 5 = config.configId)
    (placed : table.get config.configId = some config)
    (carries : CarriesDcid (octet :: body) quic) :
    lookupConfig quic table = .ok (some (octet :: body, config)) := by
  have bound := admitted.sum_le
  have payload := admitted.cidPayloadLength_toNat
  have total := admitted.cidLength_toNat
  have small : body.length < 255 := by omega
  have cidSized : (octet :: body).length = config.cidLength.toNat := by
    rw [List.length_cons]
    omega
  rw [← names] at placed
  exact lookupConfig_of_reads (firstCidOctet_carries small carries) placed
    (extractRawDcid_carries cidSized (List.cons_ne_nil octet body) carries)

/-- Every packet that carries a CID encoded for a healthy server with a MAC is
rewritten to that server, whatever surrounds the CID and whatever the connection
table holds. -/
theorem processUdp_encoded_cid {aes : Aes128} (inverts : aes.Inverts) (hash : FlowKey → UInt64)
    {raw : RawConfig} {loaded live : RouteConfig} {key : Option Key}
    (accepted : RouteConfig.validate raw = .ok (.ok loaded))
    (keyed : RouteConfig.validateKey raw = .ok (.ok key)) (refreshed : live.Refreshes loaded)
    {table : ConfigTable} (placed : table.get live.configId = some live)
    {index : Nat} {server : Server} {mac : Mac} (listed : live.servers[index]? = some server)
    (first : ∀ earlier < index, ∀ other, live.servers[earlier]? = some other →
      other.id ≠ server.id)
    (healthy : server.healthy = true) (resolved : server.mac = some mac)
    {encodeCidLength : Bool} {encoder : QuicLbEncoder}
    (built : QuicLbEncoder.new live.configId server.id live.nonceLength
      (Encryption.derive key (live.serverIdLength.toNat + live.nonceLength.toNat))
      encodeCidLength = .ok encoder)
    {nonce : Octets encoder.nonceLength.toNat} {low : UInt8} {buf written : Bytes} {count : Nat}
    (encoded : encoder.encodeInto aes nonce low buf = .ok (count, written))
    {frame : Bytes} {quicOffset : Nat} (afterEthernet : ethHdrLen ≤ quicOffset)
    (carries : CarriesDcid (written.take count) (frame.drop quicOffset))
    (conn : ConnectionTable) (flow : FlowKey) (localMac : Mac) (now : Instant) :
    processUdp aes hash frame table conn quicOffset flow localMac now =
      .ok (if server.draining then .cidForwardDraining live.configId
          else .cidForward live.configId,
        mac.val ++ localMac.val ++ frame.drop 12,
        conn.recordDcid (DcidKey.fromSlice (written.take count)) mac now) := by
  have admitted : live.Admitted := (RouteConfig.validate_admits accepted).refresh refreshed
  have idLength : server.id.length = live.serverIdLength.toNat :=
    admitted.id_length server (List.mem_of_getElem? listed)
  have liveMode : live.encryption =
      Encryption.derive key (live.serverIdLength.toNat + live.nonceLength.toNat) := by
    obtain ⟨-, -, -, -, key', servers, keyed', -, rfl⟩ := RouteConfig.validate_ok accepted
    rw [keyed] at keyed'
    cases keyed'
    rw [refreshed.settings]
  obtain ⟨shape, valid⟩ := QuicLbEncoder.new_ok built
  have serverId : encoder.serverId = server.id := by rw [shape]
  have nonceLength : encoder.nonceLength = live.nonceLength := by rw [shape]
  have configId : encoder.configId = live.configId := by rw [shape]
  have mode : encoder.encryption =
      Encryption.derive key (encoder.serverId.length + encoder.nonceLength.toNat) := by
    rw [serverId, nonceLength, idLength, shape]
  have agrees : encoder.Matches live := {
    serverIdLength := by rw [serverId, idLength]
    nonceLength := nonceLength.symm
    encryption := by rw [liveMode, mode, serverId, nonceLength, idLength] }
  obtain ⟨-, body, cid, sized, resolves⟩ :=
    resolveServerIdx_encodeInto inverts valid mode admitted agrees encoded
  rw [cid] at carries ⊢
  have names : encoder.firstOctet low >>> 5 = live.configId := by
    rw [firstOctet_configId valid low, configId]
  have looked := lookupConfig_carries admitted sized names placed carries
  have target : resolveServerIdx aes (encoder.firstOctet low :: body) live =
      .ok (some index) := by
    have whole := resolves []
    rw [List.append_nil] at whole
    rw [whole, serverId, RouteConfig.findServerIdx_first listed first]
  obtain ⟨long, inside⟩ := bounds_of_payload afterEthernet carries.ne_nil
  have route : routeUdp aes hash (frame.drop quicOffset) table conn flow now =
      .ok (.cid (encoder.firstOctet low :: body) server mac live.configId) :=
    routeUdp_eq_ok_iff.mpr (.inl (routeCid_usable looked target listed healthy resolved))
  exact processUdp_of_route long inside route rfl

namespace SampleRoute

/-- A single-pass entry with one server. -/
def entry : RawConfig where
  configId := 2
  firstOctetEncodesCidLength := true
  serverIdLength := 3
  nonceLength := 13
  key := some "000102030405060708090a0b0c0d0e0f"
  servers := [⟨"000001", "10.0.0.1", some "02:00:00:00:00:0a", false⟩]
  maxKeyAgeSecs := none

def key : Key := ⟨(List.range 16).map UInt8.ofNat, rfl⟩

def nonce : Octets 13 := ⟨[16, 17, 18, 19, 20, 21, 22, 23, 24, 25, 26, 27, 28], rfl⟩

def ciphertext : Bytes :=
  [0xca, 0x74, 0x1c, 0xfe, 0x17, 0x79, 0xd0, 0xa8, 0x04, 0xc2, 0xba, 0x1e, 0x1e, 0xe3, 0x4a, 0xe7]

/-- AES-128 on the one block the sample encrypts: server id and nonce under `key`. -/
def cipher : Aes128 := Aes128.exchanging ⟨[0, 0, 1] ++ nonce.val, rfl⟩ ⟨ciphertext, rfl⟩

def mac : Mac := macOctets 0x02 0 0 0 0 0x0a

def localMac : Mac := macOctets 0x02 0 0 0 0 0x01

/-- The server entry, before and after a probe succeeded. -/
def server (healthy : Bool) : Server :=
  ⟨[0, 0, 1], .v4 (ipv4Octets 10 0 0 1), some mac, false, healthy, 0, none⟩

def config (healthy : Bool) : RouteConfig :=
  ⟨2, true, 3, 13, .singlePass key, [server healthy], none⟩

def table : ConfigTable :=
  ⟨fun id => if id.val = 2 then some (config true) else none, fun _ => none, [], none⟩

def encoder : QuicLbEncoder := ⟨2, [0, 0, 1], 13, .singlePass key, true⟩

/-- The encoded CID: config 2, length 17, encrypted id and nonce. -/
def cid : Bytes := 0x50 :: ciphertext

/-- A short header packet behind 42 bytes of Ethernet, IPv4 and UDP headers. -/
def frame : Bytes := List.replicate 42 0 ++ (0x40 :: cid ++ [1, 2, 3])

def flow : FlowKey := ⟨.v4 (ipv4Octets 198 51 100 7), .v4 (ipv4Octets 192 0 2 1), 40000, 443⟩

/-- The table of a file whose one entry has id 2, as loaded at time 0. -/
def tableOf (config : RouteConfig) : ConfigTable :=
  ⟨fun id => if id.val = 2 then some config else none,
    fun id => if id.val = 2 then some 0 else none, [], none⟩

/-- An accepted entry makes a table with itself in its slot. -/
theorem tableOf_accepted {raw : RawConfig} {config : RouteConfig}
    (routes : parseRoutes [raw] = .ok (.ok [config])) (named : config.configId = 2) :
    ConfigTable.fromStr [raw] none 0 = .ok (.ok (tableOf config)) := by
  have slot : slotIndex config.configId = .ok 2 := by rw [named]; rfl
  have filed {α : Type} (value : α) :
      Function.update (fun _ : Fin 7 => none) 2 (some value) =
        fun id => if id.val = 2 then some value else none := by
    funext id
    simp only [Function.update_apply, Fin.ext_iff, Fin.val_two]
  simp only [ConfigTable.fromStr, routes, Checked.ok_bind, ConfigTable.place, slot, filed,
    ConfigTable.validateRetry, Checked.pure_eq_ok, tableOf]

/-- The table of a file with the sample's entry. -/
def fileTable : ConfigTable := tableOf (config false)

/-- The sample's entry is accepted. -/
theorem entry_routes : parseRoutes [entry] = .ok (.ok [config false]) := by decide +kernel

/-- It gives the sample's table. -/
theorem entry_accepted : ConfigTable.fromStr [entry] none 0 = .ok (.ok fileTable) :=
  tableOf_accepted entry_routes rfl

end SampleRoute

open SampleRoute in
/-- A short header packet with the sample's CID reaches the sample's server. -/
theorem processUdp_sample_cid :
    processUdp cipher (fun _ => 0) frame table (ConnectionTable.new 0) 42 flow localMac 7 =
      .ok (.cidForward 2, mac.val ++ localMac.val ++ frame.drop 12,
        (ConnectionTable.new 0).recordDcid (DcidKey.fromSlice cid) mac 7) :=
  processUdp_encoded_cid (Aes128.exchanging_inverts _ _) (fun _ => 0)
    (by decide +kernel : RouteConfig.validate entry = .ok (.ok (config false)))
    (by decide +kernel : RouteConfig.validateKey entry = .ok (.ok (some key)))
    (⟨rfl, rfl⟩ : (config true).Refreshes (config false))
    (rfl : table.get (config true).configId = some (config true))
    (rfl : (config true).servers[0]? = some (server true)) (by simp) rfl
    (rfl : (server true).mac = some mac)
    (by decide +kernel : QuicLbEncoder.new 2 [0, 0, 1] 13
      (Encryption.derive (some key) (3 + 13)) true = .ok encoder)
    (by decide +kernel : encoder.encodeInto cipher nonce 0 (List.replicate 17 0) = .ok (17, cid))
    (by decide) (CarriesDcid.short 0x40 [1, 2, 3] (by decide)) (ConnectionTable.new 0) flow
    localMac 7

end Pesigitg
