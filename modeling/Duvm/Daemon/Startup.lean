import Duvm.Backend.Contract
import Duvm.Backend.Rdma
import Duvm.Backend.Tcp
import Duvm.Daemon.Engine

/-!
# Starting the engine

`DaemonConfig` with `validate` of `duvm-daemon/src/config.rs`, and `Engine::new` of
`duvm-daemon/src/engine.rs`, which creates the backends a configuration asks for:
one in memory, one which compresses, and for each peer one over RDMA, one over
TCP, or both. A backend which cannot be initialised is skipped or ends the start,
and what each call of `init` comes to is an input.

The identifiers are counted in a byte. A build with overflow checks panics when
the counter would wrap; any other build goes on with identifier 0, and the
backend which had it is lost.
-/

namespace Duvm.Daemon

structure MemoryBackendConfig where
  enabled : Bool
  maxPages : UInt64

structure CompressBackendConfig where
  enabled : Bool
  maxPages : UInt64

structure RemoteBackendConfig where
  enabled : Bool
  transport : String
  peers : List String
  maxPagesPerPeer : UInt64

structure BackendsSection where
  memory : Option MemoryBackendConfig
  compress : Option CompressBackendConfig
  remote : Option RemoteBackendConfig

structure PolicySection where
  strategy : String

/-- Daemon configuration, as far as it is read here. -/
structure DaemonConfig where
  policy : PolicySection
  backends : BackendsSection

namespace DaemonConfig

/-- 1GB worth of 4KB pages. -/
def defaultMaxPages : UInt64 := 262144

def default : DaemonConfig where
  policy := ⟨"lru"⟩
  backends := {
    memory := some ⟨true, defaultMaxPages⟩
    compress := some ⟨true, defaultMaxPages⟩
    remote := none }

/-- Validates configuration values. -/
def validate (config : DaemonConfig) : Except String Unit :=
  if config.backends.memory.any fun mem => mem.enabled && mem.maxPages == 0 then
    .error "backends.memory.max_pages must be > 0"
  else if config.backends.compress.any fun comp => comp.enabled && comp.maxPages == 0 then
    .error "backends.compress.max_pages must be > 0"
  else if config.policy.strategy = "lru" then .ok ()
  else .error ("unknown policy strategy: '" ++ config.policy.strategy ++ "' (expected 'lru')")

theorem validate_default : default.validate = .ok () := by decide

end DaemonConfig

/-- `Box<dyn DuvmBackend>`. -/
abbrev AnyBackend (codec : Lz4) := LocalBackend codec ⊕ (RdmaBackend ⊕ TcpLink)

/-- What the start depends on besides the configuration: whether there are RDMA devices, and what
each call of `init` comes to, by its number. A remote backend comes back with what it is
connected to. -/
structure StartupEnv where
  rdmaAvailable : Bool
  localInit : ℕ → Bool
  rdmaInit : ℕ → Option RdmaState
  tcpInit : ℕ → Option (MemoryServer × List Fate)

inductive StartupError where
  | initFailed
  | rdmaRequired
deriving DecidableEq

/-- The text which `Engine::new` itself has for an error. -/
def StartupError.message : StartupError → Option String
  | .initFailed => none
  | .rdmaRequired => some "transport=rdma requires RDMA hardware or SoftRoCE"

/-- Why a start ends early. -/
inductive Halt where
  | error (error : StartupError)
  | panic
deriving DecidableEq

/-- A backend which was initialised, with the number of its peer if it is remote. -/
structure Built (codec : Lz4) where
  peer : Option ℕ
  backend : AnyBackend codec

/-- The local variables of `Engine::new`, the number of calls of `init` so far, and for the record
the backends which were initialised. -/
structure Startup (codec : Lz4) where
  backends : HashMap UInt8 (AnyBackend codec)
  nextId : UInt8
  calls : ℕ
  built : List (Built codec)

def Startup.initial (codec : Lz4) : Startup codec := ⟨∅, 0, 0, []⟩

abbrev Build (codec : Lz4) (Value : Type) := StateT (Startup codec) (Except Halt) Value

variable {codec : Lz4}

/-- `backends.insert(next_id, ..); next_id += 1;` for a backend whose `init` has succeeded. -/
def register (checked : Bool) (peer : Option ℕ) (make : UInt8 → AnyBackend codec) :
    Build codec Unit := fun state =>
  if checked && state.nextId.toNat + 1 = 2 ^ 8 then .error .panic
  else
    .ok ((), {
      backends := state.backends.insert state.nextId (make state.nextId)
      nextId := state.nextId + 1
      calls := state.calls + 1
      built := state.built ++ [⟨peer, make state.nextId⟩] })

/-- An `init` which fails and is skipped. -/
def skip : Build codec Unit := fun state => .ok ((), { state with calls := state.calls + 1 })

/-- A backend on this machine, if its section is there and enabled; a failure ends the start. -/
def initLocal (checked : Bool) (env : StartupEnv) (enabled : Bool)
    (make : UInt8 → LocalBackend codec) : Build codec Unit := fun state =>
  if enabled then
    if env.localInit state.calls then register checked none (fun id => .inl (make id)) state
    else .error (.error .initFailed)
  else .ok ((), state)

def initMemory (checked : Bool) (env : StartupEnv) : Option MemoryBackendConfig → Build codec Unit
  | none => pure ()
  | some mem => initLocal checked env mem.enabled fun id => .memory (.new id mem.maxPages)

def initCompress (checked : Bool) (env : StartupEnv) :
    Option CompressBackendConfig → Build codec Unit
  | none => pure ()
  | some comp => initLocal checked env comp.enabled fun id => .compress (.new id comp.maxPages)

/-- Creates a backend if its `init` succeeds, and says whether it has. -/
def attempt {Connected : Type} (checked : Bool) (init : ℕ → Option Connected) (peer : ℕ)
    (make : Connected → UInt8 → AnyBackend codec) : Build codec Bool := fun state =>
  match init state.calls with
  | some connected => (do register checked (some peer) (make connected); pure true) state
  | none => (do skip; pure false) state

def attemptRdma (checked : Bool) (env : StartupEnv) (maxPages : UInt64) (peer : ℕ) :
    Build codec Bool :=
  attempt checked env.rdmaInit peer fun state id => .inr (.inl ⟨id, maxPages, 0, some state⟩)

def attemptTcp (checked : Bool) (env : StartupEnv) (maxPages : UInt64) (peer : ℕ)
    (addr : String) : Build codec Bool :=
  attempt checked env.tcpInit peer fun (server, fates) id =>
    .inr (.inr ⟨.connected id addr maxPages server.lifetime, server, fates⟩)

/-- Whether RDMA is tried. -/
def useRdma (transport : String) (rdmaAvailable : Bool) : Bool :=
  match transport with
  | "rdma" => true
  | "tcp" => false
  | "auto" => rdmaAvailable
  | "both" => true
  | _ => false

/-- Whether TCP is used besides. -/
def useTcp (transport : String) (rdmaAvailable : Bool) : Bool :=
  match transport with
  | "rdma" => false
  | "tcp" => true
  | "auto" => !rdmaAvailable
  | "both" => true
  | _ => true

/-- The RDMA part of the loop over the peers: whether a TCP backend was created instead. -/
def initPeerRdma (checked : Bool) (env : StartupEnv) (remote : RemoteBackendConfig) (peer : ℕ)
    (addr : String) : Build codec Bool := do
  if useRdma remote.transport env.rdmaAvailable then
    let connected ← attemptRdma checked env remote.maxPagesPerPeer peer
    if connected then pure false
    else if remote.transport = "auto" ∨ remote.transport = "both" then
      attemptTcp checked env remote.maxPagesPerPeer peer addr
    else pure false
  else pure false

/-- One round of the loop over the peers. -/
def initPeer (checked : Bool) (env : StartupEnv) (remote : RemoteBackendConfig) (peer : ℕ)
    (addr : String) : Build codec Unit := do
  let tcpFallbackCreated ← initPeerRdma checked env remote peer addr
  if useTcp remote.transport env.rdmaAvailable && !tcpFallbackCreated then
    let _ ← attemptTcp checked env remote.maxPagesPerPeer peer addr
    pure ()
  else pure ()

def initPeers (checked : Bool) (env : StartupEnv) (remote : RemoteBackendConfig) :
    ℕ → List String → Build codec Unit
  | _, [] => pure ()
  | peer, addr :: rest => do
      initPeer checked env remote peer addr
      initPeers checked env remote (peer + 1) rest

def initRemote (checked : Bool) (env : StartupEnv) : Option RemoteBackendConfig → Build codec Unit
  | none => pure ()
  | some remote =>
      if remote.enabled then
        if remote.transport = "rdma" ∧ env.rdmaAvailable = false then
          throw (.error .rdmaRequired)
        else initPeers checked env remote 0 remote.peers
      else pure ()

/-- The body of `Engine::new` up to the construction of the engine. -/
def buildBackends (checked : Bool) (env : StartupEnv) (config : DaemonConfig) :
    Build codec Unit := do
  initMemory checked env config.backends.memory
  initCompress checked env config.backends.compress
  initRemote checked env config.backends.remote

/-- `Engine::new`, with the backends which were initialised on the way. -/
def Engine.new (codec : Lz4) (checked : Bool) (env : StartupEnv) (config : DaemonConfig) :
    Except Halt (Engine (AnyBackend codec) × List (Built codec)) :=
  match buildBackends checked env config (Startup.initial codec) with
  | .error halt => .error halt
  | .ok ((), state) => .ok (.withBackends state.backends, state.built)

end Duvm.Daemon
