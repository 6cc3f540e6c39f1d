import Duvm.Daemon.Custody
import Duvm.Daemon.Startup

/-!
# The engine which the daemon starts

`Engine::new` makes the backends of a configuration. Each of them is new: it holds
no page, and a memory server which a TCP backend reaches has just been started. So
they keep the deposits which an engine without pages has made, and from there on
every session returns the page stored last. Backends over RDMA are left out; two
pages may come to share a slot there.
-/

namespace Duvm.Daemon

open Function (update)

variable {codec : Lz4} {env : StartupEnv}

/-- The backends as `Engine::new` makes them. -/
inductive MadeBy (env : StartupEnv) : AnyBackend codec → Prop
  | ofLocal (backend : LocalBackend codec) (fresh : backend.Fresh) : MadeBy env (.inl backend)
  | ofRdma (backend : RdmaBackend) : MadeBy env (.inr (.inl backend))
  | ofTcp (id : UInt8) (addr : String) (maxPages : UInt64) (calls : ℕ) (server : MemoryServer)
      (fates : List Fate) (reached : env.tcpInit calls = some (server, fates)) :
      MadeBy env (.inr (.inr ⟨.connected id addr maxPages server.lifetime, server, fates⟩))

/-- A backend which reaches its peer over RDMA. -/
def Built.isRdma (entry : Built codec) : Bool :=
  match entry.backend with
  | .inr (.inl _) => true
  | _ => false

/-- The backends in the map are among those which were initialised. -/
structure Startup.Made (env : StartupEnv) (state : Startup codec) : Prop where
  listed : ∀ {id backend}, state.backends.lookup id = some backend →
    ∃ entry ∈ state.built, entry.backend = backend
  made : ∀ entry ∈ state.built, MadeBy env entry.backend

theorem Startup.made_initial (env : StartupEnv) : (Startup.initial codec).Made env := by
  refine ⟨?_, ?_⟩
  · intro id backend found
    simp [Startup.initial] at found
  · intro entry listed
    simp [Startup.initial] at listed

/-- A part of the start which adds nothing but backends made as they should be. -/
def Makes {Value : Type} (env : StartupEnv) (part : Build codec Value) : Prop :=
  ∀ state value next, state.Made env → part state = .ok (value, next) → next.Made env

section Parts

variable {Value Other : Type}

theorem makes_pure (value : Value) : Makes env (pure value : Build codec Value) := by
  intro state other next made ended
  cases ended
  exact made

theorem Makes.bind {part : Build codec Value} {rest : Value → Build codec Other}
    (first : Makes env part) (second : ∀ value, Makes env (rest value)) :
    Makes env (part >>= rest) := by
  intro state other next made ended
  change (part state >>= fun result => rest result.1 result.2) = _ at ended
  cases middle : part state with
  | error halt =>
      rw [middle] at ended
      cases ended
  | ok result =>
      rw [middle] at ended
      exact second result.1 _ _ _ (first _ _ _ made middle) ended

variable (checked : Bool)

theorem makes_register (peer : Option ℕ) {make : UInt8 → AnyBackend codec}
    (made : ∀ id, MadeBy env (make id)) : Makes env (register checked peer make) := by
  intro state value next before ended
  unfold register at ended
  split at ended
  · cases ended
  · cases ended
    refine ⟨?_, ?_⟩
    · intro id backend found
      rw [HashMap.lookup_insert_eq_ite] at found
      split at found
      · exact ⟨_, List.mem_concat_self, Option.some.inj found⟩
      · rcases before.listed found with ⟨entry, listed, same⟩
        exact ⟨entry, List.mem_append_left _ listed, same⟩
    · intro entry listed
      rcases List.mem_append.mp listed with old | new
      · exact before.made entry old
      · rw [List.mem_singleton.mp new]
        exact made _

theorem makes_skip : Makes env (skip : Build codec Unit) := by
  intro state value next made ended
  cases ended
  exact ⟨made.listed, made.made⟩

theorem makes_initLocal (enabled : Bool) {make : UInt8 → LocalBackend codec}
    (fresh : ∀ id, (make id).Fresh) : Makes env (initLocal checked env enabled make) := by
  intro state value next made ended
  unfold initLocal at ended
  split at ended
  · split at ended
    · exact makes_register checked none (fun id => .ofLocal _ (fresh id)) _ _ _ made ended
    · cases ended
  · cases ended
    exact made

theorem makes_attempt {Connected : Type} {init : ℕ → Option Connected} (peer : ℕ)
    {make : Connected → UInt8 → AnyBackend codec}
    (made : ∀ calls connected, init calls = some connected →
      ∀ id, MadeBy env (make connected id)) :
    Makes env (attempt checked init peer make) := by
  intro state value next before ended
  unfold attempt at ended
  cases came : init state.calls with
  | some connected =>
      rw [came] at ended
      exact (makes_register checked (some peer) (made _ _ came)).bind
        (fun _ => makes_pure true) _ _ _ before ended
  | none =>
      rw [came] at ended
      exact makes_skip.bind (fun _ => makes_pure false) _ _ _ before ended

theorem makes_attemptRdma (maxPages : UInt64) (peer : ℕ) :
    Makes env (attemptRdma checked env maxPages peer : Build codec Bool) :=
  makes_attempt checked peer fun _ _ _ _ => .ofRdma _

theorem makes_attemptTcp (maxPages : UInt64) (peer : ℕ) (addr : String) :
    Makes env (attemptTcp checked env maxPages peer addr : Build codec Bool) :=
  makes_attempt checked peer fun calls connected reached id =>
    .ofTcp id addr maxPages calls connected.1 connected.2 reached

theorem makes_initPeer (remote : RemoteBackendConfig) (peer : ℕ) (addr : String) :
    Makes env (initPeer checked env remote peer addr : Build codec Unit) := by
  unfold initPeer
  apply Makes.bind
  · unfold initPeerRdma
    split
    · apply (makes_attemptRdma checked _ _).bind
      intro connected
      split
      · exact makes_pure _
      · split
        · exact makes_attemptTcp checked _ _ _
        · exact makes_pure _
    · exact makes_pure _
  · intro created
    split
    · exact (makes_attemptTcp checked _ _ _).bind fun _ => makes_pure _
    · exact makes_pure _

theorem makes_initPeers (remote : RemoteBackendConfig) (peer : ℕ) (addrs : List String) :
    Makes env (initPeers checked env remote peer addrs : Build codec Unit) := by
  induction addrs generalizing peer with
  | nil => exact makes_pure _
  | cons addr rest ih => exact (makes_initPeer checked _ _ _).bind fun _ => ih (peer + 1)

theorem makes_buildBackends (config : DaemonConfig) :
    Makes env (buildBackends checked env config : Build codec Unit) := by
  unfold buildBackends
  refine Makes.bind ?_ fun _ => Makes.bind ?_ fun _ => ?_
  · cases config.backends.memory with
    | none => exact makes_pure _
    | some mem =>
        apply makes_initLocal
        intro id
        exact ⟨id, mem.maxPages, rfl⟩
  · cases config.backends.compress with
    | none => exact makes_pure _
    | some comp =>
        apply makes_initLocal
        intro id
        exact ⟨id, comp.maxPages, rfl⟩
  · cases config.backends.remote with
    | none => exact makes_pure _
    | some remote =>
        simp only [initRemote]
        split
        · split
          · intro state value next made ended
            cases ended
          · exact makes_initPeers checked remote 0 remote.peers
        · exact makes_pure _

end Parts

/-- Nothing has been entrusted to the backends yet. -/
theorem keeps_nothing_of_made {backend : AnyBackend codec} (made : MadeBy env backend)
    (servers : ∀ calls server fates, env.tcpInit calls = some (server, fates) →
      ∃ serverPages, server = .start serverPages)
    (noRdma : ∀ rdma, backend ≠ .inr (.inl rdma)) :
    CustodyBackend.Keeps backend fun _ => none := by
  cases made with
  | ofLocal backend fresh =>
      have empty := Session.empty_of_fresh fresh
      exact ⟨empty.valid, by simp, by simp, by simp⟩
  | ofRdma backend => exact absurd rfl (noRdma backend)
  | ofTcp id addr maxPages calls server fates reached =>
      rcases servers calls server fates reached with ⟨serverPages, rfl⟩
      refine ⟨Nat.zero_le _, fun _ => ⟨MemoryServer.keeps_start serverPages, ?_⟩⟩
      intro opened isOpen
      exact (Option.some.inj isOpen).symm

section New

variable {checked : Bool} {config : DaemonConfig} {engine : Engine (AnyBackend codec)}
  {built : List (Built codec)}

theorem made_of_new (started : Engine.new codec checked env config = .ok (engine, built)) :
    ∃ state : Startup codec, state.Made env ∧ engine = .withBackends state.backends ∧
      state.built = built := by
  unfold Engine.new at started
  cases ended : buildBackends checked env config (Startup.initial codec) with
  | error halt =>
      rw [ended] at started
      cases started
  | ok result =>
      rw [ended] at started
      cases started
      have made := makes_buildBackends checked config _ _ _ (Startup.made_initial env) ended
      exact ⟨result.2, made, rfl, rfl⟩

/-- The engine which is started holds no page, and its backends are custodians. -/
theorem backs_nothing_of_new (started : Engine.new codec checked env config = .ok (engine, built))
    (servers : ∀ calls server fates, env.tcpInit calls = some (server, fates) →
      ∃ serverPages, server = .start serverPages)
    (noRdma : ∀ entry ∈ built, entry.isRdma = false) :
    engine.Backs (fun _ _ => none) fun _ => none := by
  rcases made_of_new started with ⟨state, made, rfl, rfl⟩
  refine ⟨?_, ?_⟩
  · intro id backend found
    rcases made.listed found with ⟨entry, listed, rfl⟩
    refine keeps_nothing_of_made (made.made entry listed) servers ?_
    intro rdma isRdma
    have isNot := noRdma entry listed
    simp [Built.isRdma, isRdma] at isNot
  · intro offset entry listed
    simp [Engine.withBackends, PolicyEngine.new, PolicyEngine.lookup] at listed

/-- How many offsets the memory servers have given out. -/
def Engine.granted (engine : Engine (AnyBackend codec)) : List ℕ :=
  engine.backends.entries.filterMap fun entry =>
    match entry.2 with
    | .inr (.inr link) => some link.server.granted
    | _ => none

theorem Engine.mem_granted {id : UInt8} {link : TcpLink}
    (found : engine.backends.lookup id = some (.inr (.inr link))) :
    link.server.granted ∈ engine.granted := by
  rw [Engine.granted, List.mem_filterMap]
  exact ⟨_, HashMap.mem_entries_iff.mpr found, rfl⟩

/-- Only memory servers wear out. -/
theorem fit_of_few
    (few : ∀ id link, engine.backends.lookup id = some (.inr (.inr link)) →
      link.server.granted ≤ 2 ^ 64) : engine.Fit := by
  rintro id (backend | backend | link) found
  · trivial
  · trivial
  · exact few id link found

end New

/-- The page of the last store of the offset which succeeded, unless it was invalidated since. -/
def latestPage (log : List Event) (offset : UInt64) : Option PageBuffer :=
  (Log.last? (Event.settles offset) log).bind (Event.leaves offset)

theorem latestPage_concat (log : List Event) (event : Event) (offset : UInt64) :
    latestPage (log ++ [event]) offset =
      if event.settles offset then event.leaves offset else latestPage log offset := by
  rw [latestPage, Log.last?_concat]
  split
  · rfl
  · rfl

theorem latestPage_of_unsettled {log : List Event} {event : Event}
    (unsettled : ∀ offset, event.settles offset = false) :
    latestPage (log ++ [event]) = latestPage log := by
  funext offset
  rw [latestPage_concat, unsettled, if_neg Bool.false_ne_true]

theorem latestPage_stored (log : List Event) (offset : UInt64) (data : PageBuffer)
    (handle : PageHandle) (evicted : Option UInt64) :
    latestPage (log ++ [⟨.store offset data, .handle handle, evicted⟩]) =
      update (latestPage log) offset (some data) := by
  funext other
  rw [latestPage_concat, Function.update_apply]
  by_cases same : other = offset
  · simp [Event.settles, Event.leaves, same]
  · simp [Event.settles, same, Ne.symm same]

theorem latestPage_invalidated (log : List Event) (offset : UInt64) (reply : Reply) :
    latestPage (log ++ [⟨.invalidate offset, reply, none⟩]) =
      update (latestPage log) offset none := by
  funext other
  rw [latestPage_concat, Function.update_apply]
  by_cases same : other = offset
  · simp [Event.settles, Event.leaves, same]
  · simp [Event.settles, same, Ne.symm same]

theorem exists_store_of_latestPage {log : List Event} {offset : UInt64} {data : PageBuffer}
    (isLatest : latestPage log offset = some data) :
    ∃ handle evicted, Log.last? (Event.settles offset) log =
      some ⟨.store offset data, .handle handle, evicted⟩ := by
  rw [latestPage, Option.bind_eq_some_iff] at isLatest
  rcases isLatest with ⟨⟨call, reply, evicted⟩, isLast, leaves⟩
  simp only [Event.leaves] at leaves
  split at leaves
  · next stored page handle =>
      split at leaves
      · next same =>
          rw [isLast, same, Option.some.inj leaves]
          exact ⟨handle, evicted, rfl⟩
      · cases leaves
  · cases leaves

namespace Session

universe u

variable {Backend : Type u} [CustodyBackend Backend] {session next : Session Backend}

/-- The engine holds nothing but the pages stored last, and has returned nothing else unless a
backend is worn out. -/
structure Trusted (session : Session Backend) (deposits : UInt8 → UInt64 → Option Deposit) :
    Prop where
  backs : session.engine.Backs deposits (latestPage session.log)
  loads : session.engine.Fit → LoadsLatest session.log

variable {deposits : UInt8 → UInt64 → Option Deposit}

theorem Trusted.record {engine : Engine Backend} {event : Event}
    (trusted : session.Trusted deposits) (after : UInt8 → UInt64 → Option Deposit)
    (narrowed : session.engine.Narrowed engine after (latestPage (session.log ++ [event])))
    (answers : engine.Fit → ∀ offset data, event.call = .load offset →
      event.reply = .page data → latestPage session.log offset = some data) :
    ∃ deposits, (session.record engine event).Trusted deposits := by
  refine ⟨after, narrowed.backs, ?_⟩
  intro fit
  apply (trusted.loads (narrowed.fit fit)).concat
  intro offset data isLoad isPage
  exact exists_store_of_latestPage (answers fit offset data isLoad isPage)

theorem Trusted.invalidated {offset : UInt64} {outcome : Except DuvmError Unit}
    {engine : Engine Backend} (trusted : session.Trusted deposits)
    (result : session.engine.invalidatePage offset = (outcome, engine)) (reply : Reply) :
    ∃ deposits, (session.record engine ⟨.invalidate offset, reply, none⟩).Trusted deposits := by
  have narrowed := trusted.backs.invalidatePage offset
  have untracked := Engine.lookup_invalidatePage session.engine offset offset
  rw [result] at narrowed untracked
  rw [if_pos rfl] at untracked
  refine trusted.record deposits ⟨?_, narrowed.fit⟩ (by simp)
  rw [latestPage_invalidated]
  exact narrowed.backs.forget untracked

theorem Trusted.step {action : CallEnv × Call} (trusted : session.Trusted deposits)
    (stepped : session.step action = some next) :
    ∃ deposits, next.Trusted deposits := by
  cases called_of_step stepped with
  | @stored env offset data handle engine result =>
      have entrusted := trusted.backs.storePage env offset data
      rw [result] at entrusted
      cases entrusted with
      | stored after narrowed =>
          rw [← latestPage_stored session.log offset data handle] at narrowed
          exact trusted.record after narrowed (by simp)
  | @refused env offset data error engine result =>
      have entrusted := trusted.backs.storePage env offset data
      rw [result] at entrusted
      cases entrusted with
      | refused after narrowed =>
          refine trusted.record after ?_ (by simp)
          rw [latestPage_of_unsettled (by simp [Event.settles])]
          exact narrowed
  | @loaded env offset data engine result =>
      rcases trusted.backs.loadPage env offset with ⟨narrowed, answers⟩
      rw [result] at narrowed answers
      refine trusted.record deposits ?_ ?_
      · rw [latestPage_of_unsettled (by simp [Event.settles])]
        exact narrowed
      · intro fit other page isLoad isPage
        cases isLoad
        cases isPage
        exact answers data rfl fit
  | @missed env offset error engine result =>
      have narrowed := (trusted.backs.loadPage env offset).1
      rw [result] at narrowed
      refine trusted.record deposits ?_ (by simp)
      rw [latestPage_of_unsettled (by simp [Event.settles])]
      exact narrowed
  | invalidated result => exact trusted.invalidated result _
  | retained result => exact trusted.invalidated result _
  | @flagged env offset flag =>
      refine trusted.record deposits ?_ (by simp)
      rw [latestPage_of_unsettled (by simp [Event.settles])]
      exact trusted.backs.retouched (PolicyEngine.retouched_setFlag _ offset flag)
  | @unflagged env offset flag =>
      refine trusted.record deposits ?_ (by simp)
      rw [latestPage_of_unsettled (by simp [Event.settles])]
      exact trusted.backs.retouched (PolicyEngine.retouched_clearFlag _ offset flag)

end Session

/-- A load through an engine which was started with backends of any number and kind, except over
RDMA, returns the page stored last: whatever is evicted, whichever backends fail, and however often
the memory servers restart and connections to them are lost, as long as no server has given out more
offsets than there are. A server has no other client than its backend: with a second one, both may
be given the same offset after a restart. -/
theorem loads_latest_over_started_engine {checked : Bool} {config : DaemonConfig}
    {engine : Engine (AnyBackend codec)} {built : List (Built codec)}
    (started : Engine.new codec checked env config = .ok (engine, built))
    (servers : ∀ calls server fates, env.tcpInit calls = some (server, fates) →
      ∃ serverPages, server = .start serverPages)
    (noRdma : ∀ entry ∈ built, entry.isRdma = false) {actions : List (CallEnv × Call)}
    {session : Session (AnyBackend codec)}
    (reached : Transition.run Session.step ⟨engine, []⟩ actions = some session)
    (few : ∀ id link, session.engine.backends.lookup id = some (.inr (.inr link)) →
      link.server.granted ≤ 2 ^ 64) : LoadsLatest session.log := by
  have trusted : ∃ deposits, session.Trusted deposits := by
    refine @Transition.run_invariant _ _ Session.step (fun session => ∃ deposits,
      session.Trusted deposits) _ _ _ ?_ ?_ reached
    · exact ⟨_, backs_nothing_of_new started servers noRdma, fun _ => Log.each_nil⟩
    · rintro current action next ⟨deposits, trusted⟩ stepped
      exact trusted.step stepped
  rcases trusted with ⟨deposits, trusted⟩
  exact trusted.loads (fit_of_few few)

/-- One page in memory, and one with a peer over TCP. -/
def memoryAndPeer : DaemonConfig where
  policy := ⟨"lru"⟩
  backends := {
    memory := some ⟨true, 1⟩
    compress := none
    remote := some ⟨true, "tcp", ["server"], 1⟩ }

/-- The peer is restarted after it has returned its page once. -/
def peerRestarts : StartupEnv where
  rdmaAvailable := false
  localInit _ := true
  rdmaInit _ := none
  tcpInit _ := some (.start 2,
    [⟨[], 0, .connected, .answered⟩, ⟨[], 0, .connected, .answered⟩,
      ⟨[], 0, .connected, .answered⟩, ⟨[.restart], 0, .connected, .answered⟩])

theorem peerRestarts_starts (calls : ℕ) (server : MemoryServer) (fates : List Fate)
    (isReached : peerRestarts.tcpInit calls = some (server, fates)) :
    ∃ serverPages, server = .start serverPages := by
  cases isReached
  exact ⟨2, rfl⟩

theorem noRdma_of_map {built : List (Built codec)}
    (noRdma : built.map Built.isRdma = [false, false]) : ∀ entry ∈ built, entry.isRdma = false := by
  intro entry listed
  have isRdma : entry.isRdma ∈ built.map Built.isRdma := List.mem_map_of_mem listed
  rw [noRdma] at isRdma
  simpa using isRdma

theorem Engine.granted_le {engine : Engine (AnyBackend codec)} (granted : engine.granted = [1])
    (id : UInt8) (link : TcpLink) (found : engine.backends.lookup id = some (.inr (.inr link))) :
    link.server.granted ≤ 2 ^ 64 := by
  have counted := Engine.mem_granted found
  rw [granted, List.mem_singleton] at counted
  rw [counted]
  decide

def twoStoresFourLoads : List (CallEnv × Call) :=
  [.store 1 (.filled 1), .store 2 (.filled 2), .load 1, .load 2, .load 1, .load 2].map fun call =>
    (⟨0, .listed TrackedPage⟩, call)

/-- The page on the peer is lost, the one in memory is not. -/
theorem memoryAndPeer_loads_latest :
    ∃ engine built session, Engine.new .literalLz4 true peerRestarts memoryAndPeer =
        .ok (engine, built) ∧
      Transition.run Session.step ⟨engine, []⟩ twoStoresFourLoads = some session ∧
      (session.log.drop 2).map Event.reply = [.page (.filled 1), .page (.filled 2),
        .page (.filled 1), .error .io] ∧
      LoadsLatest session.log := by
  have ran : ∃ engine built session,
      Engine.new .literalLz4 true peerRestarts memoryAndPeer = .ok (engine, built) ∧
      Transition.run Session.step ⟨engine, []⟩ twoStoresFourLoads = some session ∧
      (session.log.drop 2).map Event.reply = [.page (.filled 1), .page (.filled 2),
        .page (.filled 1), .error .io] ∧
      built.map Built.isRdma = [false, false] ∧ session.engine.granted = [1] :=
    ⟨_, _, _, rfl, rfl, rfl, rfl, rfl⟩
  rcases ran with ⟨engine, built, session, started, reached, replies, noRdma, granted⟩
  refine ⟨engine, built, session, started, reached, replies,
    loads_latest_over_started_engine started peerRestarts_starts (noRdma_of_map noRdma) reached
      (Engine.granted_le granted)⟩

end Duvm.Daemon
