import Duvm.Library.Transition
import Duvm.Library.Progress
import Duvm.Library.WaitQueue
import Duvm.Library.Linearizability
import Duvm.Library.Log
import Duvm.Library.HashMap
import Duvm.Library.Numbering
import Duvm.Library.Selection
import Duvm.Library.Float64
import Duvm.Library.Rounding
import Duvm.Library.LeastLoaded
import Duvm.Library.ByteMemory
import Duvm.Library.Alignment
import Duvm.Library.RingBuffer
import Duvm.Library.BoundedQueue
import Duvm.Library.LittleEndian
import Duvm.Library.Interleaving
import Duvm.Library.ByteStream
import Duvm.Common.Page
import Duvm.Common.Ring
import Duvm.Backend.Trait
import Duvm.Backend.PageTable
import Duvm.Backend.Memory
import Duvm.Backend.Compress
import Duvm.Backend.Lz4
import Duvm.Backend.Contract
import Duvm.Backend.Limits
import Duvm.Backend.Statistics
import Duvm.Backend.Fallible
import Duvm.Backend.Rdma
import Duvm.Backend.RdmaServer
import Duvm.Backend.RdmaSlabs
import Duvm.Backend.RdmaFabric
import Duvm.Backend.RdmaTransfer
import Duvm.Backend.TcpWire
import Duvm.Memserver.PageStore
import Duvm.Memserver.Capacity
import Duvm.Memserver.Clients
import Duvm.Memserver.Isolation
import Duvm.Memserver.Promises
import Duvm.Memserver.Recovery
import Duvm.Memserver.HandleClient
import Duvm.Memserver.Protocol
import Duvm.Backend.Tcp
import Duvm.Backend.Deposits
import Duvm.Backend.Custody
import Duvm.Backend.Reserves
import Duvm.Backend.IdleLink
import Duvm.Backend.Breaker
import Duvm.Backend.TcpPeer
import Duvm.Backend.Identity
import Duvm.Libduvm.Pool
import Duvm.Libduvm.Handles
import Duvm.Libduvm.Room
import Duvm.Libduvm.Threads
import Duvm.Libduvm.Linearizable
import Duvm.Daemon.KmodRing
import Duvm.Daemon.Policy
import Duvm.Daemon.Engine
import Duvm.Daemon.Contents
import Duvm.Daemon.Placement
import Duvm.Daemon.Session
import Duvm.Daemon.Refinement
import Duvm.Daemon.Retention
import Duvm.Daemon.Remote
import Duvm.Daemon.Restarts
import Duvm.Daemon.Moves
import Duvm.Daemon.Eviction
import Duvm.Daemon.Atomicity
import Duvm.Daemon.Pinning
import Duvm.Daemon.Accounting
import Duvm.Daemon.Ledger
import Duvm.Daemon.Reconnect
import Duvm.Daemon.IdleCloses
import Duvm.Daemon.Tiers
import Duvm.Daemon.Balance
import Duvm.Daemon.Cascade
import Duvm.Daemon.Progress
import Duvm.Daemon.Ranking
import Duvm.Daemon.Startup
import Duvm.Daemon.Custody
import Duvm.Daemon.Started
import Duvm.Daemon.Identifiers
import Duvm.Daemon.Uffd
import Duvm.Daemon.Faults
import Duvm.Kmod.Ring
import Duvm.Kmod.Device
import Duvm.Kmod.System
import Duvm.Kmod.Invariant
import Duvm.Kmod.Threads
import Duvm.Kmod.Wakeups
import Duvm.Kmod.Completions
import Duvm.Kmod.Ownership
import Duvm.Kmod.Matching
import Duvm.Kmod.Durability
import Duvm.Kmod.EndToEnd
import Duvm.Kmod.Accesses
import Duvm.Kmod.Overlays
import Duvm.Kmod.Granularity
import Duvm.Kmod.Races
import Duvm.Kmod.Fallback
import Duvm.Kmod.Crashes
import Duvm.Kmod.Submitters
import Duvm.Kmod.Staging
import Duvm.Kmod.Sectors
import Duvm.Kmod.Layout
import Duvm.Kmod.Exchange
import Duvm.Kmod.Answers
