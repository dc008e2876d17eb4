import Pesigitg.Daemon.CidRouting
import Pesigitg.Daemon.Stickiness
import Pesigitg.Ebpf.Xdp
import Pesigitg.Daemon.Health
import Pesigitg.Daemon.MainLoop
import Pesigitg.Base.Fields
import Pesigitg.Quic.Initial
import Pesigitg.Retry.Packet
import Pesigitg.Retry.Datapath
import Pesigitg.Retry.Exchange
import Pesigitg.Daemon.Stats
import Pesigitg.Daemon.WorkerSocket
import Pesigitg.Daemon.XdpAdopt
import Pesigitg.Daemon.Worker
import Pesigitg.Base.Interleave
import Pesigitg.Retry.LoadTracker
import Pesigitg.Daemon.LoadMode
import Pesigitg.Daemon.Observe
import Pesigitg.Daemon.Accounting
import Pesigitg.Daemon.ReloadRouting
import Pesigitg.Base.Spsc
import Pesigitg.Daemon.XdpRing
import Pesigitg.Daemon.Handoff
import Pesigitg.Base.FirstOf
import Pesigitg.Daemon.FallbackPool
import Pesigitg.Daemon.IcmpRouting
import Pesigitg.Daemon.Rewrite
import Pesigitg.Daemon.ClientDcid
import Pesigitg.Retry.Classifier
import Pesigitg.Base.OnesComplement
import Pesigitg.Retry.Reply
import Pesigitg.Retry.PanicFree
import Pesigitg.Retry.Checksum
import Pesigitg.Daemon.Args
import Pesigitg.Control.Whoami
import Pesigitg.Base.Json
import Pesigitg.Daemon.StatusApi
import Pesigitg.Control.BackendConfig
import Pesigitg.Base.Varint
import Pesigitg.Quic.Grammar
import Pesigitg.Common.Hex
import Pesigitg.Daemon.FallbackHash
import Pesigitg.Daemon.FrameBuild
import Pesigitg.Daemon.Reachable
import Pesigitg.Base.History
import Pesigitg.Daemon.HealthHistory
import Pesigitg.Daemon.Drain
import Pesigitg.Retry.Amplification
import Pesigitg.Base.Generations
import Pesigitg.Daemon.KeyAge
import Pesigitg.Daemon.RetryReload
import Pesigitg.Base.StableSort
import Pesigitg.Daemon.CorePlacement
import Pesigitg.Base.Gregorian
import Pesigitg.Base.MachineInt
import Pesigitg.Daemon.Civil
import Pesigitg.Base.LastWrite
import Pesigitg.Daemon.Fdstore
import Pesigitg.Base.Utf8
import Pesigitg.Daemon.StatusRequest
import Pesigitg.Base.SortedMap
import Pesigitg.Control.Discovery
import Pesigitg.Base.Tlv
import Pesigitg.Daemon.Neigh
import Pesigitg.Base.SingleWriter
import Pesigitg.Daemon.StatsRace
import Pesigitg.Base.Trace
import Pesigitg.Daemon.EbpfPins
import Pesigitg.Daemon.StatusAccept
import Pesigitg.Daemon.Provenance
import Pesigitg.Daemon.Evidence
import Pesigitg.Daemon.Lifecycle
import Pesigitg.Daemon.Shutdown
import Pesigitg.Daemon.FdGenerations
import Pesigitg.Daemon.Detection
import Pesigitg.Daemon.Agreement
import Pesigitg.QuicLb.Backend
import Pesigitg.Daemon.PacketFunction
import Pesigitg.Daemon.Router
import Pesigitg.Daemon.DataPlane
